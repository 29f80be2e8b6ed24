import Mathlib.Data.List.Basic
import DepthRig.Registry.Links

/-!
# The registry's list is copy-on-write

Over every schedule, `Links` shows the links added and not yet removed, in order and none
twice; a step publishes the list exactly when it changes it; and no list published or handed
out ever changes afterwards, whatever holders append (`links_copy_on_write`). The invariant
`Sound` carries it: every list given out is full, so an append to it moves.
-/

namespace DepthRig.Registry

/-! ## What clients see -/

/-- The links below `added` that no removal names, in order. -/
def unremoved (added : Nat) (removals : List (Nat × Bool)) : List Nat :=
  (List.range added).filter fun l => l ∉ removals.map Prod.fst

/-- The links added and not yet removed, in the order they were added. -/
def live (r : Registry) : List Nat := unremoved r.added r.removals

/-- The answers of the removals of link `l`, in order. -/
def answers (removals : List (Nat × Bool)) (l : Nat) : List Bool :=
  (removals.filter (·.1 == l)).map Prod.snd

/-- Only the first of a link's removals finds it. -/
def FirstOnly (bs : List Bool) : Prop :=
  bs = [] ∨ ∃ k, bs = true :: List.replicate k false

/-- The registry's own list, and every list it published or handed out. -/
def frozen (r : Registry) : List Slice := r.links :: (r.published ++ r.handed)

/-! ## Adding and removing, on the heap -/

theorem read_push_links {r : Registry} (hfit : r.heap.Fits r.links) (arr : List (Option Nat)) :
    (r.heap.push arr).read r.links = r.heap.read r.links :=
  (Heap.extends_push _ _).read_eq hfit.addr_lt

/-- `Add` moves the list to a new array holding it and the new link. -/
theorem add_eq (r : Registry) (hfit : r.heap.Fits r.links) :
    r.add =
      { r with
        heap := r.heap.push (r.heap.read r.links ++ [some r.added])
        links := ⟨r.heap.arrays.length, r.links.len + 1, r.links.len + 1⟩
        added := r.added + 1
        tasks := r.tasks ++ [Task.watching r.added] }.publish := by
  have hxs := hfit.length_read
  simp only [add, Heap.make, Heap.alloc_eq_push, Heap.copy, read_push_links hfit,
    Heap.writeFrom_push]
  rw [Heap.append_of_le _ _ (by simp)]
  simp only [Heap.writeFrom_push]
  -- the copy leaves one nil at the end of the new array, and the append overwrites it
  have hdrop : List.drop (r.links.len + 1) (r.heap.read r.links ++ [none]) = [] :=
    List.drop_eq_nil_of_le (by simp [hxs])
  simp [hxs, List.take_of_length_le, List.drop_replicate, hdrop]

/-- A removal that does not find its link only records the answer. -/
theorem remove_of_idxOf_none {r : Registry} {l : Nat}
    (h : (r.heap.read r.links).idxOf? (some l) = none) :
    r.remove l = { r with removals := r.removals ++ [(l, false)] } := by
  simp only [remove, h]

/-- A removal that finds its link moves the list to a new array holding the other links. -/
theorem remove_of_idxOf_some {r : Registry} (hfit : r.heap.Fits r.links) {l i : Nat}
    (h : (r.heap.read r.links).idxOf? (some l) = some i) :
    r.remove l =
      { r with
        heap := r.heap.push ((r.heap.read r.links).eraseIdx i)
        links := ⟨r.heap.arrays.length, r.links.len - 1, r.links.len - 1⟩
        removals := r.removals ++ [(l, true)] }.publish := by
  have hxs := hfit.length_read
  have hi : i < r.links.len := by
    obtain ⟨hlt, -⟩ := List.idxOf?_eq_some_iff.1 h
    omega
  -- both appends fit the capacity the new array was made with
  have hfirst : (⟨r.heap.arrays.length, 0, r.links.len - 1⟩ : Slice).len +
      ((r.heap.read r.links).take i).length ≤ r.links.len - 1 := by
    simp
    omega
  simp only [remove, h, Heap.make, Heap.alloc_eq_push]
  rw [Heap.append_of_le _ _ hfirst]
  simp only [Heap.writeFrom_push]
  rw [Heap.append_of_le _ _ (by simp; omega)]
  simp only [Heap.writeFrom_push]
  -- the new array holds the links before `i`, then those after it, and nothing more
  have htake : ((r.heap.read r.links).take i).length = i := by simp; omega
  have hlen : i + ((r.heap.read r.links).drop (i + 1)).length = r.links.len - 1 := by simp; omega
  have hfill : List.take 0 (List.replicate (r.links.len - 1) none) ++
      (r.heap.read r.links).take i ++ List.drop i (List.replicate (r.links.len - 1) none) =
      (r.heap.read r.links).take i ++ List.replicate (r.links.len - 1 - i) none := by
    simp [List.drop_replicate]
  have hrest : List.drop (r.links.len - 1)
      ((r.heap.read r.links).take i ++ List.replicate (r.links.len - 1 - i) none) = [] :=
    List.drop_eq_nil_of_le (by simp; omega)
  simp only [htake, Nat.zero_add, hfill, hlen]
  simp [List.eraseIdx_eq_take_drop_succ, htake, hrest]

/-! ## The live links and the answers -/

theorem nodup_unremoved (added : Nat) (removals : List (Nat × Bool)) :
    (unremoved added removals).Nodup :=
  List.nodup_range.filter _

theorem mem_unremoved {added l : Nat} {removals : List (Nat × Bool)} :
    l ∈ unremoved added removals ↔ l < added ∧ l ∉ removals.map Prod.fst := by
  simp [unremoved]

theorem mem_live {r : Registry} {l : Nat} :
    l ∈ r.live ↔ l < r.added ∧ l ∉ r.removals.map Prod.fst :=
  mem_unremoved

/-- A new link goes last. -/
theorem unremoved_succ {added : Nat} {removals : List (Nat × Bool)}
    (hfresh : added ∉ removals.map Prod.fst) :
    unremoved (added + 1) removals = unremoved added removals ++ [added] := by
  have hkeep : decide (added ∉ removals.map Prod.fst) = true := decide_eq_true hfresh
  simp only [unremoved, List.range_succ, List.filter_append, List.filter_cons, hkeep,
    List.filter_nil, if_true]

/-- Recording a removal of `l`, whatever its answer, takes `l` off. -/
theorem unremoved_append (added : Nat) (removals : List (Nat × Bool)) (l : Nat) (b : Bool) :
    unremoved added (removals ++ [(l, b)]) = (unremoved added removals).erase l := by
  rw [(nodup_unremoved added removals).erase_eq_filter]
  simp only [unremoved, List.filter_filter]
  congr 1
  funext x
  by_cases hx : x = l
  · simp [hx]
  · simp [hx]

theorem answers_append (removals : List (Nat × Bool)) (l : Nat) (b : Bool) (l' : Nat) :
    answers (removals ++ [(l, b)]) l' = answers removals l' ++ if l = l' then [b] else [] := by
  by_cases hl : l = l' <;> simp [answers, hl]

theorem answers_eq_nil {removals : List (Nat × Bool)} {l : Nat} :
    answers removals l = [] ↔ l ∉ removals.map Prod.fst := by
  simp only [answers, List.map_eq_nil_iff, List.filter_eq_nil_iff, List.mem_map, beq_iff_eq,
    not_exists, not_and]

theorem FirstOnly.nil_append_true : FirstOnly ([] ++ [true]) :=
  .inr ⟨0, rfl⟩

theorem FirstOnly.append_false {bs : List Bool} (h : FirstOnly bs) (hne : bs ≠ []) :
    FirstOnly (bs ++ [false]) := by
  rcases h with h | ⟨k, rfl⟩
  · exact absurd h hne
  · exact .inr ⟨k + 1, by simp [List.replicate_succ']⟩

/-! ## The invariant -/

/-- What a thread names: links that were added, and a snapshot that was handed out. -/
def Task.Bound (added : Nat) (handed : List Slice) : Task → Prop
  | .watching l => l < added
  | .removing l next => l < added ∧ next.Bound added handed
  | .closing _ next => next.Bound added handed
  | .closeAt s _ => s ∈ handed
  | .returned => True

theorem Task.Bound.mono {added added' : Nat} {handed handed' : List Slice}
    (ha : added ≤ added') (hh : handed <+: handed') {t : Task} (h : t.Bound added handed) :
    t.Bound added' handed' := by
  induction t with
  | watching l => exact Nat.lt_of_lt_of_le h ha
  | removing l next ih => exact ⟨Nat.lt_of_lt_of_le h.1 ha, ih h.2⟩
  | closing l next ih => exact ih h
  | closeAt s i => exact hh.subset h
  | returned => trivial

/-- The registry's invariant. -/
structure Sound (r : Registry) : Prop where
  /-- The list is the live links. -/
  list_eq : r.heap.read r.links = r.live.map some
  /-- The list is full: an append to it moves. -/
  full : r.links.cap = r.links.len
  fits : ∀ s ∈ r.frozen ++ r.held, r.heap.Fits s
  /-- A list a holder can append to in place shares no array with a list given out. -/
  apart : ∀ s ∈ r.held, s.len < s.cap → ∀ f ∈ r.frozen, f.addr ≠ s.addr
  /-- The lists given out name links that were added. -/
  named : ∀ s ∈ r.frozen, ∀ o ∈ r.heap.read s, ∀ l ∈ o, l < r.added
  removed_lt : ∀ p ∈ r.removals, p.1 < r.added
  first_only : ∀ l, FirstOnly (answers r.removals l)
  /-- One list was published for each addition and each removal that found its link. -/
  published_length : r.published.length = r.added + r.removals.countP (·.2)
  bound : ∀ t ∈ r.tasks, t.Bound r.added r.handed

theorem sound_init : Sound {} where
  list_eq := by simp [Heap.read, live, unremoved, Slice.nil]
  full := rfl
  fits := by
    intro s hs
    simp only [frozen, List.append_nil, List.mem_singleton] at hs
    subst hs
    exact ⟨by decide, Nat.le_refl _, by decide⟩
  apart := by simp
  named := by simp [frozen, Heap.read, Slice.nil]
  removed_lt := by simp
  first_only := fun _ => .inl rfl
  published_length := rfl
  bound := by simp

theorem Sound.fits_links {r : Registry} (hs : Sound r) : r.heap.Fits r.links :=
  hs.fits _ (by simp [frozen])

theorem Sound.not_mem_removed {r : Registry} (hs : Sound r) :
    r.added ∉ r.removals.map Prod.fst := by
  intro h
  obtain ⟨p, hp, hfst⟩ := List.mem_map.1 h
  have hlt := hs.removed_lt p hp
  omega

/-! ## Moving the list to a new array -/

/-- `r'` is `r` with its list moved to a new full array holding `ys`, and published. -/
structure Relisted (r r' : Registry) (ys : List (Option Nat)) : Prop where
  heap_eq : r'.heap = r.heap.push ys
  links_eq : r'.links = ⟨r.heap.arrays.length, ys.length, ys.length⟩
  published_eq : r'.published = r.published ++ [r'.links]
  handed_eq : r'.handed = r.handed
  held_eq : r'.held = r.held ++ [r'.links]

section Relisted

variable {r r' : Registry} {ys : List (Option Nat)}

theorem Relisted.extends (hr : Relisted r r' ys) : r.heap.Extends r'.heap := by
  rw [hr.heap_eq]
  exact Heap.extends_push _ _

theorem Relisted.read_links (hr : Relisted r r' ys) : r'.heap.read r'.links = ys := by
  rw [hr.heap_eq, hr.links_eq]
  exact Heap.read_push_self _ _ _

/-- Every list of before reads as before. -/
theorem Relisted.read_eq (hr : Relisted r r' ys) (hs : Sound r) {s : Slice}
    (hmem : s ∈ r.frozen ++ r.held) : r'.heap.read s = r.heap.read s :=
  hr.extends.read_eq (hs.fits s hmem).addr_lt

theorem Relisted.mem_frozen (hr : Relisted r r' ys) {f : Slice} (hf : f ∈ r'.frozen) :
    f = r'.links ∨ f ∈ r.frozen := by
  simp only [frozen, hr.published_eq, hr.handed_eq, List.mem_cons, List.mem_append] at hf ⊢
  tauto

theorem Relisted.mem_held (hr : Relisted r r' ys) {s : Slice} (hmem : s ∈ r'.held) :
    s = r'.links ∨ s ∈ r.held := by
  simp only [hr.held_eq, List.mem_append, List.mem_singleton] at hmem
  tauto

/-- The lists the registry keeps sound after moving its list: the new list is full and fits,
the old lists fit and keep their contents, and no list a holder can append to in place
is the new one. -/
theorem Relisted.sound (hr : Relisted r r' ys) (hs : Sound r) (hys : ys = r'.live.map some)
    (hadded : r.added ≤ r'.added) (hremoved : ∀ p ∈ r'.removals, p.1 < r'.added)
    (hfirst : ∀ l, FirstOnly (answers r'.removals l))
    (hpub : r'.published.length = r'.added + r'.removals.countP (·.2))
    (hbound : ∀ t ∈ r'.tasks, t.Bound r'.added r'.handed) : Sound r' where
  list_eq := by rw [hr.read_links, hys]
  full := by rw [hr.links_eq]
  fits := by
    have hnew : r'.heap.Fits r'.links := by
      rw [hr.heap_eq, hr.links_eq]
      exact Heap.fits_push _ _
    intro s hmem
    rcases List.mem_append.1 hmem with hf | hh
    · rcases hr.mem_frozen hf with rfl | hf
      · exact hnew
      · exact hr.extends.fits (hs.fits s (List.mem_append_left _ hf))
    · rcases hr.mem_held hh with rfl | hh
      · exact hnew
      · exact hr.extends.fits (hs.fits s (List.mem_append_right _ hh))
  apart := by
    intro s hmem hlt f hf
    rcases hr.mem_held hmem with rfl | hh
    · rw [hr.links_eq] at hlt
      exact absurd hlt (Nat.lt_irrefl _)
    · rcases hr.mem_frozen hf with rfl | hf
      · -- the new array is past every array of before
        have hold := (hs.fits s (List.mem_append_right _ hh)).addr_lt
        rw [hr.links_eq]
        exact Nat.ne_of_gt hold
      · exact hs.apart s hh hlt f hf
  named := by
    intro s hf o ho l hl
    rcases hr.mem_frozen hf with rfl | hf
    · rw [hr.read_links, hys] at ho
      obtain ⟨x, hx, rfl⟩ := List.mem_map.1 ho
      cases hl
      exact (mem_live.1 hx).1
    · rw [hr.read_eq hs (List.mem_append_left _ hf)] at ho
      exact Nat.lt_of_lt_of_le (hs.named s hf o ho l hl) hadded
  removed_lt := hremoved
  first_only := hfirst
  published_length := hpub
  bound := hbound

end Relisted

/-! ## Adding and removing keep the invariant -/

theorem add_relisted {r : Registry} (hfit : r.heap.Fits r.links) :
    Relisted r r.add (r.heap.read r.links ++ [some r.added]) := by
  rw [add_eq r hfit]
  exact ⟨rfl, by simp [publish, hfit.length_read], rfl, rfl, rfl⟩

theorem Sound.add {r : Registry} (hs : Sound r) : Sound r.add := by
  have hr := add_relisted hs.fits_links
  rw [add_eq r hs.fits_links] at hr ⊢
  refine hr.sound hs ?_ (Nat.le_succ _) ?_ hs.first_only ?_ ?_
  · rw [hs.list_eq]
    simp only [publish, live, unremoved_succ hs.not_mem_removed, List.map_append,
      List.map_singleton]
  · intro p hp
    exact Nat.lt_succ_of_lt (hs.removed_lt p hp)
  · simp only [publish, List.length_append, List.length_singleton, hs.published_length]
    omega
  · intro t ht
    simp only [publish, List.mem_append, List.mem_singleton] at ht
    rcases ht with ht | rfl
    · exact (hs.bound t ht).mono (Nat.le_succ _) (List.prefix_refl _)
    · exact Nat.lt_succ_self _

theorem remove_relisted {r : Registry} (hfit : r.heap.Fits r.links) {l i : Nat}
    (h : (r.heap.read r.links).idxOf? (some l) = some i) :
    Relisted r (r.remove l) ((r.heap.read r.links).eraseIdx i) := by
  have hi : i < (r.heap.read r.links).length := (List.idxOf?_eq_some_iff.1 h).1
  rw [remove_of_idxOf_some hfit h]
  exact ⟨rfl, by simp [publish, List.length_eraseIdx_of_lt hi, hfit.length_read], rfl, rfl, rfl⟩

/-- A removal that does not find its link: the link was removed before. -/
theorem Sound.remove_of_not_live {r : Registry} (hs : Sound r) {l : Nat} (hl : l < r.added)
    (hnot : l ∉ r.live) : Sound { r with removals := r.removals ++ [(l, false)] } := by
  have hprior : l ∈ r.removals.map Prod.fst := by
    by_contra h
    exact hnot (mem_live.2 ⟨hl, h⟩)
  refine { hs with list_eq := ?_, removed_lt := ?_, first_only := ?_, published_length := ?_ }
  · have hnot' : l ∉ unremoved r.added r.removals := hnot
    simp only [live, unremoved_append, List.erase_of_not_mem hnot']
    exact hs.list_eq
  · intro p hp
    rcases List.mem_append.1 hp with hp | hp
    · exact hs.removed_lt p hp
    · rw [List.mem_singleton.1 hp]
      exact hl
  · intro l'
    rw [answers_append]
    by_cases hll : l = l'
    · subst hll
      simpa using (hs.first_only l).append_false (answers_eq_nil.not.2 (not_not.2 hprior))
    · simpa [hll] using hs.first_only l'
  · simp [hs.published_length]

/-- A removal that finds its link takes it off the list. -/
theorem Sound.remove_of_live {r : Registry} (hs : Sound r) {l i : Nat} (hlive : l ∈ r.live)
    (hidx : (r.heap.read r.links).idxOf? (some l) = some i) : Sound (r.remove l) := by
  have hr := remove_relisted hs.fits_links hidx
  rw [remove_of_idxOf_some hs.fits_links hidx] at hr ⊢
  have hfresh : l ∉ r.removals.map Prod.fst := (mem_live.1 hlive).2
  refine hr.sound hs ?_ (Nat.le_refl _) ?_ ?_ ?_ hs.bound
  · -- the list without the element at `i` is the live links without `l`
    have herase : (r.heap.read r.links).erase (some l) = (r.heap.read r.links).eraseIdx i := by
      rw [List.erase_eq_eraseIdx, hidx]
    rw [← herase, hs.list_eq]
    simp only [publish, live, unremoved_append, List.map_erase (fun _ _ => Option.some.inj)]
  · intro p hp
    rcases List.mem_append.1 hp with hp | hp
    · exact hs.removed_lt p hp
    · rw [List.mem_singleton.1 hp]
      exact (mem_live.1 hlive).1
  · intro l'
    simp only [publish]
    rw [answers_append]
    by_cases hll : l = l'
    · subst hll
      rw [answers_eq_nil.2 hfresh]
      simpa using FirstOnly.nil_append_true
    · simpa [hll] using hs.first_only l'
  · simp only [publish, List.length_append, List.length_singleton, hs.published_length,
      List.countP_append]
    simp
    omega

/-- A removal finds its link exactly when the link is live. -/
theorem Sound.idxOf_eq_none_iff {r : Registry} (hs : Sound r) {l : Nat} :
    (r.heap.read r.links).idxOf? (some l) = none ↔ l ∉ r.live := by
  rw [hs.list_eq, List.idxOf?_eq_none_iff]
  simp

/-- Whatever it finds, a removal of a link that was added keeps the invariant. -/
theorem Sound.remove {r : Registry} (hs : Sound r) {l : Nat} (hl : l < r.added) :
    Sound (r.remove l) := by
  cases hidx : (r.heap.read r.links).idxOf? (some l) with
  | none =>
    rw [remove_of_idxOf_none hidx]
    exact hs.remove_of_not_live hl (hs.idxOf_eq_none_iff.1 hidx)
  | some i =>
    have hlive : l ∈ r.live := by
      by_contra hnot
      rw [← hs.idxOf_eq_none_iff, hidx] at hnot
      cases hnot
    exact hs.remove_of_live hlive hidx

/-- Whatever it finds, a removal takes its link off the live links. -/
theorem remove_live {r : Registry} (hfit : r.heap.Fits r.links) (l : Nat) :
    (r.remove l).live = r.live.erase l := by
  cases hidx : (r.heap.read r.links).idxOf? (some l) with
  | none =>
    rw [remove_of_idxOf_none hidx]
    exact unremoved_append _ _ _ _
  | some i =>
    rw [remove_of_idxOf_some hfit hidx]
    exact unremoved_append _ _ _ _

/-! ## Handing the list out, threads and holders -/

theorem Sound.with_tasks {r : Registry} (hs : Sound r) {ts : List Task}
    (hts : ∀ t ∈ ts, t.Bound r.added r.handed) : Sound { r with tasks := ts } :=
  { hs with bound := hts }

theorem Sound.with_done {r : Registry} (hs : Sound r) (d : List Nat) :
    Sound { r with done := d } :=
  { hs with }

@[simp] theorem handOut_handed (r : Registry) : r.handOut.handed = r.handed ++ [r.snapshot] :=
  rfl

@[simp] theorem handOut_held (r : Registry) : r.handOut.held = r.held ++ [r.snapshot] := rfl

theorem mem_frozen_handOut {r : Registry} {f : Slice} (hf : f ∈ r.handOut.frozen) :
    f = r.snapshot ∨ f ∈ r.frozen := by
  simp only [frozen, handOut, List.mem_cons, List.mem_append] at hf ⊢
  tauto

theorem Sound.handOut {r : Registry} (hs : Sound r) : Sound r.handOut := by
  have hlinks : r.links ∈ r.frozen := List.mem_cons_self
  refine { hs with fits := ?_, apart := ?_, named := ?_, bound := ?_ }
  · intro s hmem
    rcases List.mem_append.1 hmem with hf | hh
    · rcases mem_frozen_handOut hf with rfl | hf
      · exact hs.fits_links.clamp
      · exact hs.fits s (List.mem_append_left _ hf)
    · rw [handOut_held, List.mem_append, List.mem_singleton] at hh
      rcases hh with hh | rfl
      · exact hs.fits s (List.mem_append_right _ hh)
      · exact hs.fits_links.clamp
  · intro s hmem hlt f hf
    rw [handOut_held, List.mem_append, List.mem_singleton] at hmem
    rcases hmem with hh | rfl
    · -- the snapshot stands in the list's own array
      rcases mem_frozen_handOut hf with rfl | hf
      · exact hs.apart s hh hlt r.links hlinks
      · exact hs.apart s hh hlt f hf
    · exact absurd hlt (Nat.lt_irrefl _)
  · intro s hf o ho l hl
    rcases mem_frozen_handOut hf with rfl | hf
    · exact hs.named r.links hlinks o ho l hl
    · exact hs.named s hf o ho l hl
  · intro t ht
    exact (hs.bound t ht).mono (Nat.le_refl _) (List.prefix_append _ _)

theorem Sound.close {r : Registry} (hs : Sound r) :
    Sound { r.handOut with tasks := r.tasks ++ [Task.closeAt r.snapshot 0] } := by
  refine hs.handOut.with_tasks ?_
  intro t ht
  rcases List.mem_append.1 ht with ht | ht
  · exact (hs.bound t ht).mono (Nat.le_refl _) (List.prefix_append _ _)
  · rw [List.mem_singleton.1 ht]
    simp [Task.Bound]

/-- A holder's append keeps every list the registry gave out, and its own. -/
theorem Sound.keeps_append {r : Registry} (hs : Sound r) {s : Slice} (hmem : s ∈ r.held)
    (xs : List (Option Nat)) (grown : Nat) :
    r.heap.Keeps (r.heap.append s xs grown).1 r.frozen :=
  r.heap.keeps_append (hs.fits s (List.mem_append_right _ hmem)) xs grown
    (fun f hf => (hs.fits f (List.mem_append_left _ hf)).addr_lt)
    (fun hlt f hf => hs.apart s hmem hlt f hf)

theorem Sound.append {r : Registry} (hs : Sound r) {s : Slice} (hmem : s ∈ r.held)
    (xs : List (Option Nat)) (grown : Nat) :
    Sound { r with
      heap := (r.heap.append s xs grown).1
      held := r.held ++ [(r.heap.append s xs grown).2] } := by
  have hk := hs.keeps_append hmem xs grown
  have hfit : r.heap.Fits s := hs.fits s (List.mem_append_right _ hmem)
  have hlinks : r.links ∈ r.frozen := List.mem_cons_self
  refine { hs with list_eq := ?_, fits := ?_, apart := ?_, named := ?_ }
  · rw [hk.read_eq hlinks]
    exact hs.list_eq
  · intro t ht
    simp only [frozen, List.mem_append, List.mem_singleton] at ht
    rcases ht with ht | ht | rfl
    · exact hk.fits (hs.fits t (List.mem_append_left _ ht))
    · exact hk.fits (hs.fits t (List.mem_append_right _ ht))
    · exact r.heap.fits_append hfit xs grown
  · intro t ht hlt f hf
    simp only [List.mem_append, List.mem_singleton] at ht
    rcases ht with ht | rfl
    · exact hs.apart t ht hlt f hf
    · -- the result is in the holder's own array, which then had room, or in a new one
      rcases r.heap.append_addr s xs grown with ⟨haddr, hcap, hlen⟩ | haddr
      · rw [haddr]
        exact hs.apart s hmem (by omega) f hf
      · rw [haddr]
        exact Nat.ne_of_lt (hs.fits f (List.mem_append_left _ hf)).addr_lt
  · intro f hf o ho l hl
    rw [hk.read_eq hf] at ho
    exact hs.named f hf o ho l hl

/-! ## What a step keeps for clients -/

/-- What one step keeps for clients: every list given out reads as before and stays given out,
and the list is published, once, exactly when it changed. -/
structure Preserves (r r' : Registry) : Prop where
  read_eq : ∀ f ∈ r.frozen, r'.heap.read f = r.heap.read f
  published_eq : r'.published = r.published ++ if r'.live = r.live then [] else [r'.links]
  handed : r.handed <+: r'.handed

/-- A step that leaves the heap, the live links and the published lists. -/
theorem preserves_of_heap {r r' : Registry} (hheap : r'.heap = r.heap) (hlive : r'.live = r.live)
    (hpub : r'.published = r.published) (hhanded : r.handed <+: r'.handed) : Preserves r r' :=
  ⟨fun _ _ => by rw [hheap], by simp [hpub, hlive], hhanded⟩

theorem Relisted.preserves {r r' : Registry} {ys : List (Option Nat)} (hr : Relisted r r' ys)
    (hs : Sound r) (hchanged : r'.live ≠ r.live) : Preserves r r' :=
  ⟨fun _ hf => hr.read_eq hs (List.mem_append_left _ hf), by simp [hr.published_eq, hchanged],
    hr.handed_eq ▸ List.prefix_refl _⟩

theorem Sound.preserves_add {r : Registry} (hs : Sound r) : Preserves r r.add := by
  have hlive : r.add.live = r.live ++ [r.added] := by
    rw [add_eq r hs.fits_links]
    exact unremoved_succ hs.not_mem_removed
  refine (add_relisted hs.fits_links).preserves hs ?_
  rw [hlive]
  intro h
  simpa using congrArg List.length h

theorem Sound.preserves_remove {r : Registry} (hs : Sound r) (l : Nat) :
    Preserves r (r.remove l) := by
  cases hidx : (r.heap.read r.links).idxOf? (some l) with
  | none =>
    have hlive : (r.remove l).live = r.live := by
      rw [remove_live hs.fits_links, List.erase_of_not_mem (hs.idxOf_eq_none_iff.1 hidx)]
    rw [remove_of_idxOf_none hidx] at hlive ⊢
    exact preserves_of_heap rfl hlive rfl (List.prefix_refl _)
  | some i =>
    have hmem : l ∈ r.live := by
      by_contra hnot
      rw [← hs.idxOf_eq_none_iff, hidx] at hnot
      cases hnot
    refine (remove_relisted hs.fits_links hidx).preserves hs ?_
    -- the link was live, so taking it off shortens the list
    rw [remove_live hs.fits_links]
    intro h
    have hlen := List.length_erase_of_mem hmem
    rw [h] at hlen
    have hpos := List.length_pos_of_mem hmem
    omega

theorem Sound.preserves_append {r : Registry} (hs : Sound r) {s : Slice} (hmem : s ∈ r.held)
    (xs : List (Option Nat)) (grown : Nat) :
    Preserves r { r with
      heap := (r.heap.append s xs grown).1
      held := r.held ++ [(r.heap.append s xs grown).2] } :=
  ⟨fun _ hf => (hs.keeps_append hmem xs grown).read_eq hf, by simp [live], List.prefix_refl _⟩

theorem Preserves.refl (r : Registry) : Preserves r r :=
  preserves_of_heap rfl rfl rfl (List.prefix_refl _)

theorem Preserves.with_tasks {r r' : Registry} (hp : Preserves r r') (ts : List Task) :
    Preserves r { r' with tasks := ts } :=
  ⟨hp.read_eq, hp.published_eq, hp.handed⟩

theorem Preserves.with_done {r r' : Registry} (hp : Preserves r r') (ds : List Nat) :
    Preserves r { r' with done := ds } :=
  ⟨hp.read_eq, hp.published_eq, hp.handed⟩

theorem preserves_handOut (r : Registry) : Preserves r r.handOut :=
  preserves_of_heap rfl rfl rfl (List.prefix_append _ _)

/-! ## Threads -/

/-- A removal changes neither the links added, nor what was handed out, nor the threads. -/
theorem remove_same {r : Registry} (hfit : r.heap.Fits r.links) (l : Nat) :
    (r.remove l).added = r.added ∧ (r.remove l).handed = r.handed ∧
      (r.remove l).tasks = r.tasks := by
  cases hidx : (r.heap.read r.links).idxOf? (some l) with
  | none =>
    rw [remove_of_idxOf_none hidx]
    exact ⟨rfl, rfl, rfl⟩
  | some i =>
    rw [remove_of_idxOf_some hfit hidx]
    exact ⟨rfl, rfl, rfl⟩

/-- What a thread's step does: remove a link it names, mark a link done, or only move on.
The thread goes on naming links that were added and snapshots that were handed out. -/
theorem Task.step_cases {r r' : Registry} {t t' : Task} (hs : Sound r)
    (hb : t.Bound r.added r.handed) (h : t.step r = some (r', t')) :
    ((∃ l, l < r.added ∧ r' = r.remove l) ∨ (∃ l, r' = { r with done := r.done ++ [l] }) ∨
      r' = r) ∧ t'.Bound r.added r.handed := by
  cases t with
  | watching l =>
    by_cases hd : l ∈ r.done
    · simp only [Task.step, hd, if_true, Option.some.injEq, Prod.mk.injEq] at h
      obtain ⟨rfl, rfl⟩ := h
      exact ⟨.inl ⟨l, hb, rfl⟩, trivial⟩
    · simp [Task.step, hd] at h
  | removing l next =>
    simp only [Task.step, Option.some.injEq, Prod.mk.injEq] at h
    obtain ⟨rfl, rfl⟩ := h
    exact ⟨.inl ⟨l, hb.1, rfl⟩, hb.2⟩
  | closing l next =>
    simp only [Task.step, Option.some.injEq, Prod.mk.injEq] at h
    obtain ⟨rfl, rfl⟩ := h
    exact ⟨.inr (.inl ⟨l, rfl⟩), hb⟩
  | closeAt s i =>
    simp only [Task.step] at h
    split at h
    · -- the next link of the snapshot was added: the snapshot was handed out
      rename_i l hl
      simp only [Option.some.injEq, Prod.mk.injEq] at h
      obtain ⟨rfl, rfl⟩ := h
      have hfrozen : s ∈ r.frozen := List.mem_cons_of_mem _ (List.mem_append_right _ hb)
      exact ⟨.inr (.inr rfl),
        hs.named s hfrozen (some l) (List.mem_of_getElem? hl) l rfl, hb⟩
    · simp only [Option.some.injEq, Prod.mk.injEq] at h
      obtain ⟨rfl, rfl⟩ := h
      exact ⟨.inr (.inr rfl), trivial⟩
  | returned => simp [Task.step] at h

theorem Sound.advance {r : Registry} (hs : Sound r) (i : Nat) :
    Sound (r.advance i) ∧ Preserves r (r.advance i) := by
  cases hti : r.tasks[i]? with
  | none =>
    simp only [Registry.advance, hti]
    exact ⟨hs, .refl r⟩
  | some t =>
    cases hstep : t.step r with
    | none =>
      simp only [Registry.advance, hti, hstep]
      exact ⟨hs, .refl r⟩
    | some p =>
      obtain ⟨r', t'⟩ := p
      simp only [Registry.advance, hti, hstep]
      obtain ⟨hcases, hb'⟩ := Task.step_cases hs (hs.bound t (List.mem_of_getElem? hti)) hstep
      -- the step leaves the links added, the snapshots and the threads as they were
      have hs' : (Sound r' ∧ Preserves r r') ∧ r'.added = r.added ∧ r'.handed = r.handed ∧
          r'.tasks = r.tasks := by
        rcases hcases with ⟨l, hl, rfl⟩ | ⟨l, rfl⟩ | rfl
        · exact ⟨⟨hs.remove hl, hs.preserves_remove l⟩, remove_same hs.fits_links l⟩
        · exact ⟨⟨hs.with_done _, (Preserves.refl r).with_done _⟩, rfl, rfl, rfl⟩
        · exact ⟨⟨hs, .refl _⟩, rfl, rfl, rfl⟩
      obtain ⟨⟨hs', hp⟩, hadded, hhanded, htasks⟩ := hs'
      refine ⟨hs'.with_tasks ?_, hp.with_tasks _⟩
      intro x hx
      rw [hadded, hhanded]
      rcases List.mem_or_eq_of_mem_set hx with hx | rfl
      · rw [htasks] at hx
        exact hs.bound x hx
      · exact hb'

theorem Sound.call {r : Registry} (hs : Sound r) (c : Call) :
    Sound (r.call c) ∧ Preserves r (r.call c) := by
  cases c with
  | add => exact ⟨hs.add, hs.preserves_add⟩
  | remove l =>
    simp only [Registry.call]
    split
    · rename_i hl
      refine ⟨hs.with_tasks ?_, (Preserves.refl r).with_tasks _⟩
      intro t ht
      rcases List.mem_append.1 ht with ht | ht
      · exact hs.bound t ht
      · rw [List.mem_singleton.1 ht]
        exact ⟨hl, trivial⟩
    · exact ⟨hs, .refl r⟩
  | hangUp l =>
    simp only [Registry.call]
    split
    · exact ⟨hs.with_done _, (Preserves.refl r).with_done _⟩
    · exact ⟨hs, .refl r⟩
  | links => exact ⟨hs.handOut, preserves_handOut r⟩
  | close => exact ⟨hs.close, (preserves_handOut r).with_tasks _⟩
  | append k xs grown =>
    simp only [Registry.call]
    split
    · exact ⟨hs, .refl r⟩
    · rename_i s hk
      exact ⟨hs.append (List.mem_of_getElem? hk) xs grown,
        hs.preserves_append (List.mem_of_getElem? hk) xs grown⟩

/-- The step lemma: every event keeps the invariant, and keeps for clients what they saw. -/
theorem Sound.step {r : Registry} (hs : Sound r) (e : Event) :
    Sound (r.apply e) ∧ Preserves r (r.apply e) := by
  cases e with
  | call c => exact hs.call c
  | advance i => exact hs.advance i

/-! ## Every schedule -/

/-- The run lemma: from a sound registry, every schedule keeps the invariant, and every list
published or handed out before it reads as it did. -/
theorem Sound.run {r : Registry} (hs : Sound r) (evs : List Event) :
    Sound (r.run evs) ∧
      ∀ s ∈ r.published ++ r.handed, (r.run evs).heap.read s = r.heap.read s := by
  induction evs generalizing r with
  | nil => exact ⟨hs, fun _ _ => rfl⟩
  | cons e evs ih =>
    obtain ⟨hs', hp⟩ := hs.step e
    obtain ⟨hrun, hread⟩ := ih hs'
    refine ⟨hrun, fun s hmem => ?_⟩
    -- a list given out stays given out, so the rest of the schedule keeps it too
    have hmem' : s ∈ (r.apply e).published ++ (r.apply e).handed := by
      rcases List.mem_append.1 hmem with h | h
      · rw [hp.published_eq]
        exact List.mem_append_left _ (List.mem_append_left _ h)
      · exact List.mem_append_right _ (hp.handed.subset h)
    show ((r.apply e).run evs).heap.read s = r.heap.read s
    rw [hread s hmem', hp.read_eq s (List.mem_cons_of_mem _ hmem)]

theorem sound_run (evs : List Event) : Sound (({} : Registry).run evs) :=
  (sound_init.run evs).1

/-- The registry's list is copy-on-write. After every schedule of additions, removals,
disconnections, `Links` and `Close` calls, thread steps and holders' appends:
`Links` shows the links added and not yet removed, in the order they were added, none twice;
only the first removal of a link finds it; one list was published for each addition and each
removal that found its link, and the next step publishes the new list exactly when it changes
the list; every list published or handed out reads the same after any later schedule; and a
holder's append shows the holder its elements followed by the new ones, and leaves the
registry's list as it was. -/
theorem links_copy_on_write (evs : List Event) :
    let r := ({} : Registry).run evs
    r.heap.read r.snapshot = r.live.map some ∧ (r.heap.read r.snapshot).Nodup ∧
      (∀ l, FirstOnly (answers r.removals l)) ∧
      r.published.length = r.added + r.removals.countP (·.2) ∧
      (∀ e, (r.apply e).published =
        r.published ++ if (r.apply e).live = r.live then [] else [(r.apply e).links]) ∧
      (∀ later, ∀ s ∈ r.published ++ r.handed, (r.run later).heap.read s = r.heap.read s) ∧
      (∀ k s xs grown, r.held[k]? = some s →
        let r' := r.apply (.call (.append k xs grown))
        r'.heap.read r'.links = r.heap.read r.links ∧
          ∃ s', r'.held = r.held ++ [s'] ∧ r'.heap.read s' = r.heap.read s ++ xs) := by
  intro r
  have hs : Sound r := sound_run evs
  have hlist : r.heap.read r.snapshot = r.live.map some := by
    rw [snapshot, Heap.read_clamp]
    exact hs.list_eq
  refine ⟨hlist, ?_, hs.first_only, hs.published_length, fun e => (hs.step e).2.published_eq,
    fun later => (hs.run later).2, ?_⟩
  · rw [hlist]
    exact List.Pairwise.map some (fun _ _ hne heq => hne (Option.some.inj heq)) (nodup_unremoved _ _)
  · intro k s xs grown hk
    have hmem : s ∈ r.held := List.mem_of_getElem? hk
    simp only [Registry.apply, Registry.call, hk]
    refine ⟨(hs.keeps_append hmem xs grown).read_eq List.mem_cons_self, _, rfl, ?_⟩
    exact r.heap.read_append (hs.fits s (List.mem_append_right _ hmem)) xs grown

/-- `Remove` of the first of two links, then its watcher: the removal finds the link and the
watcher's does not, and the list first published, holding the first link alone, reads so still
after its holder appends to it. -/
theorem links_removed_then_watched :
    let r := ({} : Registry).run
      [.call .add, .call .add, .call (.remove 0), .advance 2, .advance 2, .advance 0]
    answers r.removals 0 = [true, false] ∧ r.held[0]? = some ⟨1, 1, 1⟩ ∧
      let r' := r.apply (.call (.append 0 [some 7] 0))
      r'.heap.read r'.links = r.heap.read r.links ∧
        ∃ s', r'.held = r.held ++ [s'] ∧ r'.heap.read s' = r.heap.read ⟨1, 1, 1⟩ ++ [some 7] :=
  ⟨by decide, by decide, (links_copy_on_write _).2.2.2.2.2.2 0 ⟨1, 1, 1⟩ [some 7] 0 (by decide)⟩

end DepthRig.Registry
