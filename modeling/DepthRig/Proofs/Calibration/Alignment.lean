import DepthRig.Calibration.Refine
import Mathlib.Data.List.Basic

/-!
# The alignment loop

What the alignment loop of a refinement does, whatever the points and transforms and whatever
monad it runs in: the `k`-th alignment aligns sensor `k % n`, a property that sequencing keeps
holds of the loop once it holds of its parts, and in a state monad a per-sensor property that
every correction preserves holds after every alignment.
-/

namespace DepthRig

variable {m : Type → Type} [Monad m] {P W S : Type}
variable (mo : Motion P W S) (align : List P → List P → m (Except Fault S))
  (cancelled : m (Option Fault)) (name : Nat → String)

/-! ## The schedule -/

/-- The sensors the rounds align, in order: `rounds` copies of `0, …, n - 1`. -/
def schedule (n rounds : Nat) : List Nat := (List.replicate rounds (List.range n)).flatten

@[simp] theorem schedule_zero (n : Nat) : schedule n 0 = [] := rfl

theorem schedule_succ (n rounds : Nat) :
    schedule n (rounds + 1) = List.range n ++ schedule n rounds := by
  simp [schedule, List.replicate_succ]

@[simp] theorem length_schedule (n rounds : Nat) : (schedule n rounds).length = rounds * n := by
  induction rounds with
  | zero => simp
  | succ rounds ih => rw [schedule_succ, List.length_append, List.length_range, ih, Nat.succ_mul,
      Nat.add_comm]

/-- Alignment `k` of the schedule aligns sensor `k % n`. -/
theorem getElem_schedule {n rounds k : Nat} (hk : k < (schedule n rounds).length) :
    (schedule n rounds)[k] = k % n := by
  induction rounds generalizing k with
  | zero => simp at hk
  | succ rounds ih =>
    simp only [schedule_succ, List.getElem_append, List.length_range, List.getElem_range]
    split
    · next h => exact (Nat.mod_eq_of_lt h).symm
    · next h =>
      have hk' : k - n < (schedule n rounds).length := by
        simp only [schedule_succ, List.length_append, List.length_range] at hk
        omega
      rw [ih hk', ← Nat.mod_eq_sub_mod (Nat.le_of_not_lt h)]

section Lawful

variable [LawfulMonad m]

/-- A pass over two lists of sensors is the pass over the first, then over the second from
where it left off. -/
theorem alignEach_append (fs : List (Fitting P W S)) (is js : List Nat) :
    alignEach mo align cancelled name fs (is ++ js) = (do
      match ← alignEach mo align cancelled name fs is with
      | .error e => return .error e
      | .ok fs => alignEach mo align cancelled name fs js) := by
  induction is generalizing fs with
  | nil => simp [alignEach]
  | cons i is ih =>
    simp only [List.cons_append, alignEach, bind_assoc]
    congr 1
    funext r
    cases r with
    | error e => simp
    | ok fs' => exact ih fs'

/-- The rounds are one pass over the schedule. -/
theorem alignRounds_eq_alignEach (n rounds : Nat) (fs : List (Fitting P W S)) :
    alignRounds mo align cancelled name n rounds fs =
      alignEach mo align cancelled name fs (schedule n rounds) := by
  induction rounds generalizing fs with
  | zero => rfl
  | succ rounds ih =>
    rw [alignRounds, schedule_succ, alignEach_append]
    congr 1
    funext r
    cases r with
    | error e => rfl
    | ok fs' => exact ih fs'

end Lawful

/-! ## Properties sequencing keeps -/

/-- A property of computations that every returned value has and that sequencing keeps. -/
structure Stable (Ok : ∀ {α : Type}, m α → Prop) : Prop where
  pure : ∀ {α : Type} (a : α), Ok (pure a)
  bind : ∀ {α β : Type} {x : m α} {f : α → m β}, Ok x → (∀ a, Ok (f a)) → Ok (x >>= f)

namespace Stable

variable {Ok : ∀ {α : Type}, m α → Prop} (h : Stable @Ok)
include h

variable (hc : Ok cancelled) (ha : ∀ t s, Ok (align t s))
include hc ha

theorem alignSensor (fs : List (Fitting P W S)) (i : Nat) :
    Ok (alignSensor mo align cancelled name fs i) := by
  refine h.bind hc fun c => ?_
  cases c with
  | some e => exact h.pure _
  | none =>
    dsimp only
    split
    · exact h.pure _
    · exact h.bind (ha _ _) fun r => by cases r <;> exact h.pure _

theorem alignEach (fs : List (Fitting P W S)) (is : List Nat) :
    Ok (alignEach mo align cancelled name fs is) := by
  induction is generalizing fs with
  | nil => exact h.pure _
  | cons i is ih =>
    exact h.bind (h.alignSensor mo align cancelled name hc ha fs i) fun r => by
      cases r with
      | error e => exact h.pure _
      | ok fs' => exact ih fs'

theorem alignRounds (n rounds : Nat) (fs : List (Fitting P W S)) :
    Ok (alignRounds mo align cancelled name n rounds fs) := by
  induction rounds generalizing fs with
  | zero => exact h.pure _
  | succ rounds ih =>
    exact h.bind (h.alignEach mo align cancelled name hc ha fs _) fun r => by
      cases r with
      | error e => exact h.pure _
      | ok fs' => exact ih fs'

omit hc ha in
theorem pushOne (rf : Refiner m) (hs : ∀ record ∈ rf.store, ∀ serial w, Ok (record serial w))
    (d : RefineDevice m) (hd : ∀ w, Ok (d.pushWorld w)) (w : Affine) : Ok (rf.pushOne d w) := by
  refine h.bind (hd w) fun fault => ?_
  dsimp only
  split
  · split
    · next record hrecord => exact h.bind (hs record hrecord _ _) fun _ => h.pure _
    · exact h.pure _
  · exact h.pure _

variable [LawfulMonad m]

omit hc ha in
theorem mapM {α γ : Type} {f : γ → m α} :
    ∀ {xs : List γ}, (∀ x ∈ xs, Ok (f x)) → Ok (xs.mapM f)
  | [], _ => h.pure _
  | x :: xs, hf => by
    rw [List.mapM_cons]
    exact h.bind (hf x (by simp)) fun _ =>
      h.bind (mapM fun y hy => hf y (by simp [hy])) fun _ => h.pure _

omit hc ha in
/-- A refinement keeps what its sensors' calls, its aligner, its store and its cancellation
check keep. -/
theorem refine (rf : Refiner m) (cancelled : m (Option Fault)) (devices : List (RefineDevice m))
    (hc : Ok cancelled) (ha : ∀ t s n, Ok (rf.align t s n))
    (hs : ∀ record ∈ rf.store, ∀ serial w, Ok (record serial w))
    (hd : ∀ d ∈ devices, Ok d.lastFrame ∧ ∀ w, Ok (d.pushWorld w)) :
    Ok (rf.refine cancelled devices) := by
  unfold Refiner.refine
  dsimp only
  split
  · exact h.pure _
  refine h.bind (h.mapM fun d hmem => (hd d hmem).1) fun fetched => ?_
  split
  · exact h.pure _
  split
  · exact h.pure _
  refine h.bind (h.alignRounds _ _ _ _ hc (fun t s => ha t s _) _ _ _) fun r => ?_
  cases r with
  | error e => exact h.pure _
  | ok fs =>
    refine h.bind (h.mapM fun x hx => ?_) fun _ => h.pure _
    exact h.pushOne rf hs x.1 (hd x.1 (List.of_mem_zip hx).1).2 _

end Stable

/-! ## Invariants in a state monad -/

section State

variable {τ α β : Type}

/-- Whatever state it starts from, `x` answers a value satisfying `Q`. -/
def Always (x : StateM τ α) (Q : α → Prop) : Prop := ∀ t, Q (x.run t).1

theorem Always.pure {Q : α → Prop} {a : α} (h : Q a) : Always (pure a : StateM τ α) Q :=
  fun _ => h

theorem Always.bind {Q : α → Prop} {R : β → Prop} {x : StateM τ α} {f : α → StateM τ β}
    (hx : Always x Q) (hf : ∀ a, Q a → Always (f a) R) : Always (x >>= f) R :=
  fun t => hf _ (hx t) _

/-- Every sensor satisfies `I` at its position. -/
def Holds (I : Nat → Fitting P W S → Prop) (fs : List (Fitting P W S)) : Prop :=
  ∀ i f, fs[i]? = some f → I i f

theorem Holds.set {I : Nat → Fitting P W S → Prop} {fs : List (Fitting P W S)} (h : Holds I fs)
    {i : Nat} {f : Fitting P W S} (hf : I i f) : Holds I (fs.set i f) := by
  intro j g hg
  rw [List.getElem?_set] at hg
  split at hg
  · next hij =>
    subst hij
    split at hg
    · cases hg; exact hf
    · cases hg
  · exact h j g hg

variable (align : List P → List P → StateM τ (Except Fault S)) (cancelled : StateM τ (Option Fault))
variable {I : Nat → Fitting P W S → Prop} {Adm : S → Prop}
  (hI : ∀ i f s, I i f → Adm s → I i (f.correct mo s))
  (ha : ∀ t s, Always (align t s) fun r => ∀ c, r = .ok c → Adm c)
include hI ha

/-- One alignment keeps any property of each sensor that every correction the aligner can
answer keeps. -/
theorem alignSensor_holds {fs : List (Fitting P W S)} (hfs : Holds I fs) (i : Nat) :
    Always (alignSensor mo align cancelled name fs i) fun r => ∀ fs', r = .ok fs' → Holds I fs' := by
  refine Always.bind (Q := fun _ => True) (fun _ => trivial) fun c _ => ?_
  cases c with
  | some e => exact Always.pure fun _ h => by cases h
  | none =>
    dsimp only
    split
    · exact Always.pure fun _ h => by cases h; exact hfs
    · next f hf =>
      refine Always.bind (ha _ _) fun r hr => ?_
      cases r with
      | error e => exact Always.pure fun _ h => by cases h
      | ok c =>
        -- the sensor aligned is the one read at `i`, moved by an admissible correction
        exact Always.pure fun _ h => by
          cases h
          exact hfs.set (hI i f c (hfs i f hf) (hr c rfl))

theorem alignEach_holds (is : List Nat) {fs : List (Fitting P W S)} (hfs : Holds I fs) :
    Always (alignEach mo align cancelled name fs is) fun r => ∀ fs', r = .ok fs' → Holds I fs' := by
  induction is generalizing fs with
  | nil => exact Always.pure fun _ h => by cases h; exact hfs
  | cons i is ih =>
    refine Always.bind (alignSensor_holds mo name align cancelled hI ha hfs i) fun r hr => ?_
    cases r with
    | error e => exact Always.pure fun _ h => by cases h
    | ok fs' => exact ih (hr fs' rfl)

/-- The rounds are one pass over the schedule, so whatever the loop answers satisfies it. -/
theorem alignRounds_holds (n rounds : Nat) {fs : List (Fitting P W S)} (hfs : Holds I fs) :
    Always (alignRounds mo align cancelled name n rounds fs)
      fun r => ∀ fs', r = .ok fs' → Holds I fs' := by
  rw [alignRounds_eq_alignEach]
  exact alignEach_holds mo name align cancelled hI ha _ hfs

end State

end DepthRig
