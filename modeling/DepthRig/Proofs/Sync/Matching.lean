import Mathlib.Data.List.ReduceOption
import DepthRig.Sync.Match

/-!
# The matcher chooses the earliest nearest candidate

Matching scans the candidates left after the last one taken and stops at the first past the
instant or farther than the best so far; on ascending candidates neither stop loses anything,
so it finds the earliest of the nearest (`found_nearest`). Read position by position a
matching is then its reference definition, `Chosen`.
-/

namespace DepthRig.Sync

/-! ## Distances -/

/-- The distance as a number: whichever difference is not cut off at zero. -/
theorem toNat_gap (a b : UInt64) : (gap a b).toNat = (a.toNat - b.toNat) + (b.toNat - a.toNat) := by
  unfold gap
  split
  · rename_i h
    have hlt := UInt64.lt_iff_toNat_lt.1 h
    rw [UInt64.toNat_sub_of_le _ _ (UInt64.le_iff_toNat_le.2 (Nat.le_of_lt hlt))]
    omega
  · rename_i h
    have hle : a.toNat ≤ b.toNat := Nat.not_lt.1 (mt UInt64.lt_iff_toNat_lt.2 h)
    rw [UInt64.toNat_sub_of_le _ _ (UInt64.le_iff_toNat_le.2 hle)]
    omega

/-- Distances fall towards the instant: of two candidates at or before it, the later is
nearer. -/
theorem gap_le_gap_of_le_of_le {a b ref : UInt64} (hab : a ≤ b) (hb : b ≤ ref) :
    gap b ref ≤ gap a ref := by
  rw [UInt64.le_iff_toNat_le] at hab hb ⊢
  rw [toNat_gap, toNat_gap]
  omega

/-- Distances rise past the instant: of two candidates past it, the earlier is nearer. -/
theorem gap_le_gap_of_lt_of_le {a b ref : UInt64} (ha : ref < a) (hab : a ≤ b) :
    gap a ref ≤ gap b ref := by
  rw [UInt64.lt_iff_toNat_lt] at ha
  rw [UInt64.le_iff_toNat_le] at hab ⊢
  rw [toNat_gap, toNat_gap]
  omega

/-- A candidate farther from the instant than one at or before it, and later, is past it. -/
theorem lt_of_gap_lt_gap {a b ref : UInt64} (ha : a ≤ ref) (hab : a ≤ b)
    (hgap : gap a ref < gap b ref) : ref < b := by
  rw [UInt64.le_iff_toNat_le] at ha hab
  rw [UInt64.lt_iff_toNat_lt] at hgap ⊢
  rw [toNat_gap, toNat_gap] at hgap
  omega

/-! ## Ascending candidates -/

section Ascending

variable {cs : List UInt64}

/-- On ascending candidates a later position holds a candidate at least as large. -/
theorem le_of_getElem?_of_le (hs : cs.Pairwise (· ≤ ·)) {k m : Nat} {a b : UInt64}
    (ha : cs[k]? = some a) (hb : cs[m]? = some b) (hkm : k ≤ m) : a ≤ b := by
  obtain ⟨hk, rfl⟩ := List.getElem?_eq_some_iff.1 ha
  obtain ⟨hm, rfl⟩ := List.getElem?_eq_some_iff.1 hb
  rcases Nat.lt_or_eq_of_le hkm with hlt | rfl
  · exact List.pairwise_iff_getElem.1 hs k m hk hm hlt
  · exact UInt64.le_refl _

end Ascending

/-! ## The earliest nearest candidate -/

/-- Position `j`, holding candidate `c`, is the earliest of the positions from `start` on
whose candidate is nearest to `ref`. -/
structure EarliestNearest (cs : List UInt64) (start : Nat) (ref : UInt64) (j : Nat) (c : UInt64) :
    Prop where
  get : cs[j]? = some c
  start_le : start ≤ j
  nearest : ∀ k c', cs[k]? = some c' → start ≤ k → gap c ref ≤ gap c' ref
  earliest : ∀ k c', cs[k]? = some c' → start ≤ k → k < j → gap c ref < gap c' ref

namespace EarliestNearest

variable {cs : List UInt64} {start : Nat} {ref : UInt64}

/-- There is one earliest nearest position. -/
theorem unique {j j' : Nat} {c c' : UInt64} (h : EarliestNearest cs start ref j c)
    (h' : EarliestNearest cs start ref j' c') : j = j' ∧ c = c' := by
  have hjj : j = j' := by
    rcases Nat.lt_trichotomy j j' with hlt | heq | hgt
    · exact absurd (h.nearest j' c' h'.get h'.start_le)
        (UInt64.not_le.2 (h'.earliest j c h.get h.start_le hlt))
    · exact heq
    · exact absurd (h'.nearest j c h.get h.start_le)
        (UInt64.not_le.2 (h.earliest j' c' h'.get h'.start_le hgt))
  subst hjj
  exact ⟨rfl, Option.some.inj (h.get.symm.trans h'.get)⟩

/-- An earliest nearest position of a prefix that no later position beats is one of the
whole list. -/
theorem of_take {p j : Nat} {c : UInt64} (h : EarliestNearest (cs.take p) start ref j c)
    (hlater : ∀ m c', cs[m]? = some c' → p ≤ m → gap c ref ≤ gap c' ref) :
    EarliestNearest cs start ref j c := by
  have hj := h.get
  rw [List.getElem?_take] at hj
  split at hj
  · rename_i hjp
    refine ⟨hj, h.start_le, fun k c' hk hsk => ?_, fun k c' hk hsk hkj => ?_⟩
    · by_cases hkp : k < p
      · exact h.nearest k c' (by rw [List.getElem?_take, if_pos hkp]; exact hk) hsk
      · exact hlater k c' hk (by omega)
    · exact h.earliest k c' (by rw [List.getElem?_take, if_pos (by omega)]; exact hk) hsk hkj
  · cases hj

/-- Scanning one more position that is no nearer keeps the earliest nearest position. -/
theorem take_succ_of_le {p j : Nat} {c c' : UInt64} (h : EarliestNearest (cs.take p) start ref j c)
    (hp : cs[p]? = some c') (hle : gap c ref ≤ gap c' ref) :
    EarliestNearest (cs.take (p + 1)) start ref j c := by
  have hj := h.get
  rw [List.getElem?_take] at hj
  split at hj
  · rename_i hjp
    refine ⟨?_, h.start_le, fun k c'' hk hsk => ?_, fun k c'' hk hsk hkj => ?_⟩
    · rw [List.getElem?_take, if_pos (by omega)]
      exact hj
    · rw [List.getElem?_take] at hk
      split at hk
      · rename_i hkp
        by_cases hkp' : k < p
        · exact h.nearest k c'' (by rw [List.getElem?_take, if_pos hkp']; exact hk) hsk
        · have hkeq : k = p := by omega
          subst hkeq
          rw [hp] at hk
          cases hk
          exact hle
      · cases hk
    · rw [List.getElem?_take, if_pos (by omega)] at hk
      exact h.earliest k c'' (by rw [List.getElem?_take, if_pos (by omega)]; exact hk) hsk hkj
  · cases hj

/-- Scanning a position strictly nearer than every earlier one makes it the earliest nearest. -/
theorem take_succ_of_lt {p : Nat} {c : UInt64} (hp : cs[p]? = some c) (hsp : start ≤ p)
    (hlt : ∀ k c', cs[k]? = some c' → start ≤ k → k < p → gap c ref < gap c' ref) :
    EarliestNearest (cs.take (p + 1)) start ref p c := by
  refine ⟨?_, hsp, fun k c' hk hsk => ?_, fun k c' hk hsk hkp => ?_⟩
  · rw [List.getElem?_take, if_pos (by omega)]
    exact hp
  · rw [List.getElem?_take] at hk
    split at hk
    · rename_i hkp
      rcases Nat.lt_or_eq_of_le (Nat.le_of_lt_succ hkp) with hkp' | rfl
      · exact UInt64.le_of_lt (hlt k c' hk hsk hkp')
      · rw [hp] at hk
        cases hk
        exact UInt64.le_refl _
    · cases hk
  · rw [List.getElem?_take, if_pos (by omega)] at hk
    exact hlt k c' hk hsk hkp

end EarliestNearest

/-! ## The scan -/

/-- The scan's best so far, after the positions from `start` up to `p`: nothing before any
was scanned; else the earliest nearest of them, with its distance, at or before the
instant (a candidate past it ends the scan). -/
def ScanBest (cs : List UInt64) (start p : Nat) (ref : UInt64) : Option (Nat × UInt64) → Prop
  | none => p = start
  | some (k, bd) => ∃ c, EarliestNearest (cs.take p) start ref k c ∧ c ≤ ref ∧ bd = gap c ref

/-- What a scan from `start` found: nothing when no position is left, else the earliest
nearest position with its distance. -/
def Found (cs : List UInt64) (start : Nat) (ref : UInt64) : Option (Nat × UInt64) → Prop
  | none => cs.length ≤ start
  | some (j, d) => ∃ c, EarliestNearest cs start ref j c ∧ d = gap c ref

/-- One step of the scan with a best so far. -/
theorem nearest_cons_some (ref c : UInt64) (j k : Nat) (bd : UInt64) (rest : List (UInt64 × Nat)) :
    nearest ref ((c, j) :: rest) (some (k, bd)) =
      if bd < gap c ref then some (k, bd)
      else if ref < c then (if gap c ref < bd then some (j, gap c ref) else some (k, bd))
      else nearest ref rest (if gap c ref < bd then some (j, gap c ref) else some (k, bd)) := rfl

/-- One step of the scan with nothing so far. -/
theorem nearest_cons_none (ref c : UInt64) (j : Nat) (rest : List (UInt64 × Nat)) :
    nearest ref ((c, j) :: rest) none =
      if ref < c then some (j, gap c ref) else nearest ref rest (some (j, gap c ref)) := rfl

section Scan

variable {cs : List UInt64} {ref : UInt64} {start : Nat}

/-- Past the instant, no later candidate is nearer. -/
theorem gap_le_of_past (hs : cs.Pairwise (· ≤ ·)) {p : Nat} {c : UInt64} (hp : cs[p]? = some c)
    (hpast : ref < c) :
    ∀ m c', cs[m]? = some c' → p ≤ m → gap c ref ≤ gap c' ref :=
  fun _ _ hm hpm => gap_le_gap_of_lt_of_le hpast (le_of_getElem?_of_le hs hp hm hpm)

/-- A position with a candidate left to scan holds that candidate, and the candidates after it
start one past it. -/
theorem getElem?_of_drop_eq_cons {α : Type} {l rest : List α} {p : Nat} {c : α}
    (hl : l.drop p = c :: rest) : l[p]? = some c ∧ l.drop (p + 1) = rest := by
  have hlt : p < l.length := by
    by_contra hge
    rw [List.drop_eq_nil_of_le (Nat.le_of_not_lt hge)] at hl
    cases hl
  rw [List.drop_eq_getElem_cons hlt] at hl
  obtain ⟨hc, hrest⟩ := List.cons.inj hl
  exact ⟨by rw [List.getElem?_eq_getElem hlt, hc], hrest⟩

/-- One position of the scan, once the best so far has taken it into account: a candidate
past the instant ends the scan with that best, which is then the best of all; one at or
before it goes on. -/
theorem found_stop_or_go (hs : cs.Pairwise (· ≤ ·)) {p j : Nat} {c c'' : UInt64}
    {rest : List (UInt64 × Nat)} (hp : cs[p]? = some c)
    (hnew : EarliestNearest (cs.take (p + 1)) start ref j c'') (hgap : gap c'' ref = gap c ref)
    (hgo : c ≤ ref → Found cs start ref (nearest ref rest (some (j, gap c'' ref)))) :
    Found cs start ref
      (if ref < c then some (j, gap c'' ref) else nearest ref rest (some (j, gap c'' ref))) := by
  split
  · rename_i hpast
    refine ⟨c'', hnew.of_take fun m c' hm hpm => ?_, rfl⟩
    exact hgap ▸ gap_le_of_past hs hp hpast m c' hm (Nat.le_of_succ_le hpm)
  · rename_i hbefore
    exact hgo (UInt64.not_lt.1 hbefore)

/-- With a best so far, a candidate no farther than it becomes the best when strictly nearer;
either way the best of the positions up to it is no farther than it, and not past it. -/
theorem next_best (hs : cs.Pairwise (· ≤ ·)) {p k : Nat} {c ck : UInt64} (hp : cs[p]? = some c)
    (hsp : start ≤ p) (hk : EarliestNearest (cs.take p) start ref k ck) (hkp : k < p)
    (hle : gap c ref ≤ gap ck ref) :
    ∃ j c'', (if gap c ref < gap ck ref then some (p, gap c ref) else some (k, gap ck ref)) =
        some (j, gap c'' ref) ∧
      EarliestNearest (cs.take (p + 1)) start ref j c'' ∧ gap c'' ref = gap c ref ∧ c'' ≤ c := by
  have hckc : ck ≤ c := le_of_getElem?_of_le hs (List.getElem?_take_of_lt hkp ▸ hk.get) hp
    (Nat.le_of_lt hkp)
  split
  · rename_i hstrict
    refine ⟨p, c, rfl, EarliestNearest.take_succ_of_lt hp hsp fun k' c' hk' hsk hk'p => ?_,
      rfl, UInt64.le_refl _⟩
    exact UInt64.lt_of_lt_of_le hstrict
      (hk.nearest k' c' (by rw [List.getElem?_take, if_pos hk'p]; exact hk') hsk)
  · rename_i hnot
    exact ⟨k, ck, rfl, hk.take_succ_of_le hp (UInt64.not_lt.1 hnot),
      UInt64.le_antisymm (UInt64.not_lt.1 hnot) hle, hckc⟩

/-- The scan over ascending candidates from position `p` on, with the best of the positions
from `start` up to `p`, finds the earliest nearest position from `start` on. -/
theorem found_scan (hs : cs.Pairwise (· ≤ ·)) :
    ∀ (l : List UInt64) (p : Nat) (best : Option (Nat × UInt64)),
    cs.drop p = l → start ≤ p → ScanBest cs start p ref best →
      Found cs start ref (nearest ref (l.zipIdx p) best)
  | [], p, best, hl, hsp, hbest => by
    -- nothing is left: the best of the scanned positions is the best of all
    have hlen : cs.length ≤ p := List.drop_eq_nil_iff.1 hl
    cases best with
    | none => exact (hbest : p = start) ▸ hlen
    | some kb =>
      obtain ⟨ck, hk, -, hbd⟩ := hbest
      rw [List.take_of_length_le hlen] at hk
      exact ⟨ck, hk, hbd⟩
  | c :: rest, p, best, hl, hsp, hbest => by
    obtain ⟨hp, hrest⟩ := getElem?_of_drop_eq_cons hl
    -- going on from this position with a best not past it
    have hgo : ∀ {j c''}, EarliestNearest (cs.take (p + 1)) start ref j c'' → c'' ≤ c → c ≤ ref →
        Found cs start ref (nearest ref (rest.zipIdx (p + 1)) (some (j, gap c'' ref))) :=
      fun hnew hc'' hc => found_scan hs rest (p + 1) _ hrest (Nat.le_succ_of_le hsp)
        ⟨_, hnew, UInt64.le_trans hc'' hc, rfl⟩
    rw [List.zipIdx_cons]
    cases best with
    | none =>
      -- the first position scanned is the best so far
      have hfirst : EarliestNearest (cs.take (p + 1)) start ref p c :=
        EarliestNearest.take_succ_of_lt hp hsp fun _ _ _ hsk hkp => by
          have hsp' : p = start := hbest
          omega
      rw [nearest_cons_none]
      exact found_stop_or_go hs hp hfirst rfl (hgo hfirst (UInt64.le_refl c))
    | some kb =>
      obtain ⟨k, bd⟩ := kb
      obtain ⟨ck, hk, hck, rfl⟩ := hbest
      have hkp : k < p := by
        have := hk.get
        rw [List.getElem?_take] at this
        split at this
        · assumption
        · cases this
      rw [nearest_cons_some]
      split
      · -- farther than the best: the candidate is past the instant, and so is all after it
        rename_i hfar
        have hckc : ck ≤ c := le_of_getElem?_of_le hs (List.getElem?_take_of_lt hkp ▸ hk.get) hp
          (Nat.le_of_lt hkp)
        have hpast : ref < c := lt_of_gap_lt_gap hck hckc hfar
        refine ⟨ck, hk.of_take fun m c' hm hpm => ?_, rfl⟩
        exact UInt64.le_of_lt (UInt64.lt_of_lt_of_le hfar (gap_le_of_past hs hp hpast m c' hm hpm))
      · rename_i hnear
        obtain ⟨j, c'', hbest', hnew, hgap, hc''⟩ :=
          next_best hs hp hsp hk hkp (UInt64.not_lt.1 hnear)
        rw [hbest']
        exact found_stop_or_go hs hp hnew hgap (hgo hnew hc'')

/-- The scan from `start`, with nothing found yet, finds the earliest nearest position from
`start` on. -/
theorem found_nearest (hs : cs.Pairwise (· ≤ ·)) (start : Nat) :
    Found cs start ref (nearest ref ((cs.drop start).zipIdx start) none) :=
  found_scan hs _ start none rfl (Nat.le_refl start) rfl

end Scan

/-! ## Matching by the reference definition -/

/-- The reference choice for an instant `ref` when the scan starts at `start`: the earliest
nearest position within the tolerance, or nothing when the nearest is beyond it or no
position is left. -/
def Chosen (cs : List UInt64) (start : Nat) (ref tol : UInt64) : Option Nat → Prop
  | some j => ∃ c, EarliestNearest cs start ref j c ∧ gap c ref ≤ tol
  | none => ∀ j c, EarliestNearest cs start ref j c → tol < gap c ref

/-- The reference choice is a function of the instant. -/
theorem Chosen.unique {cs : List UInt64} {start : Nat} {ref tol : UInt64} :
    ∀ {m m' : Option Nat}, Chosen cs start ref tol m → Chosen cs start ref tol m' → m = m'
  | some _, some _, ⟨_, h, _⟩, ⟨_, h', _⟩ => by rw [(h.unique h').1]
  | some _, none, ⟨_, h, hle⟩, hnone => absurd hle (UInt64.not_le.2 (hnone _ _ h))
  | none, some _, hnone, ⟨_, h, hle⟩ => absurd hle (UInt64.not_le.2 (hnone _ _ h))
  | none, none, _, _ => rfl

/-- Where the scan for instant `i` starts: one past the last position taken before it, or
`start` when none was. -/
def resumeFrom (start : Nat) (out : List (Option Nat)) (i : Nat) : Nat :=
  ((out.take i).reduceOption.getLast?.map (· + 1)).getD start

@[simp] theorem resumeFrom_zero (start : Nat) (out : List (Option Nat)) :
    resumeFrom start out 0 = start := by
  simp [resumeFrom]

@[simp] theorem resumeFrom_cons_none (start : Nat) (out : List (Option Nat)) (i : Nat) :
    resumeFrom start (none :: out) (i + 1) = resumeFrom start out i := by
  simp [resumeFrom, List.reduceOption_cons_of_none]

@[simp] theorem resumeFrom_cons_some (start j : Nat) (out : List (Option Nat)) (i : Nat) :
    resumeFrom start (some j :: out) (i + 1) = resumeFrom (j + 1) out i := by
  simp only [resumeFrom, List.take_succ_cons, List.reduceOption_cons_of_some, List.getLast?_cons,
    Option.map_some, Option.getD_some]
  cases (out.take i).reduceOption.getLast? <;> rfl

/-- The candidates left after position `j` are those from `j + 1` on. -/
theorem dropWhile_zipIdx {α : Type} (j : Nat) :
    ∀ (l : List α) (p : Nat), p ≤ j + 1 →
      (l.zipIdx p).dropWhile (·.2 ≤ j) = (l.drop (j + 1 - p)).zipIdx (j + 1)
  | [], _, _ => by simp
  | a :: l, p, hp => by
    rw [List.zipIdx_cons, List.dropWhile_cons]
    by_cases hpj : p ≤ j
    · rw [if_pos (by simpa using hpj), dropWhile_zipIdx j l (p + 1) (by omega),
        show j + 1 - p = (j + 1 - (p + 1)) + 1 by omega, List.drop_succ_cons]
    · have hpeq : p = j + 1 := by omega
      subst hpeq
      rw [if_neg (by simp), Nat.sub_self, List.drop_zero, List.zipIdx_cons]

section Reference

variable {cs : List UInt64} (hs : cs.Pairwise (· ≤ ·)) (tol : UInt64)
include hs

/-- A matching from `start`, read at each instant, is the reference choice from where its
scan resumes. -/
theorem matchFrom_chosen : ∀ (rs : List UInt64) (start i : Nat) (r : UInt64), rs[i]? = some r →
    ∃ m, (matchFrom tol rs ((cs.drop start).zipIdx start))[i]? = some m ∧
      Chosen cs (resumeFrom start (matchFrom tol rs ((cs.drop start).zipIdx start)) i) r tol m
  | [], _, _, _, hr => by simp at hr
  | r₀ :: rs, start, i, r, hr => by
    have hfound : Found cs start r₀ (nearest r₀ ((cs.drop start).zipIdx start) none) :=
      found_nearest hs start
    unfold matchFrom
    split
    · rename_i j d hnear
      rw [hnear] at hfound
      obtain ⟨c, hj, rfl⟩ := hfound
      split
      · -- within the tolerance: the instant takes `j`, and the scan resumes after it
        rename_i hwithin
        rw [dropWhile_zipIdx j _ start (Nat.le_succ_of_le hj.start_le), List.drop_drop,
          show start + (j + 1 - start) = j + 1 by have := hj.start_le; omega]
        cases i with
        | zero =>
          cases hr
          exact ⟨some j, rfl, c, by simpa using hj, hwithin⟩
        | succ i =>
          rw [resumeFrom_cons_some]
          exact matchFrom_chosen rs (j + 1) i r (by simpa using hr)
      · -- the nearest is beyond the tolerance: a hole, and the scan resumes where it was
        rename_i hbeyond
        cases i with
        | zero =>
          cases hr
          refine ⟨none, rfl, fun j' c' hj' => ?_⟩
          obtain ⟨rfl, rfl⟩ := hj.unique (by simpa using hj')
          exact UInt64.not_le.1 hbeyond
        | succ i =>
          rw [resumeFrom_cons_none]
          exact matchFrom_chosen rs start i r (by simpa using hr)
    · -- no position is left: a hole
      rename_i hnear
      rw [hnear] at hfound
      cases i with
      | zero =>
        cases hr
        refine ⟨none, rfl, fun j' c' hj' => ?_⟩
        have hlt : j' < cs.length := (List.getElem?_eq_some_iff.1 hj'.get).1
        have hle : start ≤ j' := by simpa using hj'.start_le
        have hlen : cs.length ≤ start := hfound
        omega
      | succ i =>
        rw [resumeFrom_cons_none]
        exact matchFrom_chosen rs start i r (by simpa using hr)

/-- The positions a matching from `start` takes are from `start` on and rise strictly. -/
theorem matchFrom_increasing : ∀ (rs : List UInt64) (start : Nat),
    (∀ j ∈ (matchFrom tol rs ((cs.drop start).zipIdx start)).reduceOption, start ≤ j) ∧
      (matchFrom tol rs ((cs.drop start).zipIdx start)).reduceOption.Pairwise (· < ·)
  | [], _ => by simp [matchFrom]
  | r₀ :: rs, start => by
    have hfound : Found cs start r₀ (nearest r₀ ((cs.drop start).zipIdx start) none) :=
      found_nearest hs start
    have hrest := matchFrom_increasing rs start
    unfold matchFrom
    split
    · rename_i j d hnear
      rw [hnear] at hfound
      obtain ⟨c, hj, rfl⟩ := hfound
      split
      · rw [dropWhile_zipIdx j _ start (Nat.le_succ_of_le hj.start_le), List.drop_drop,
          show start + (j + 1 - start) = j + 1 by have := hj.start_le; omega,
          List.reduceOption_cons_of_some]
        -- everything taken later comes after `j`
        obtain ⟨hafter, hpair⟩ := matchFrom_increasing rs (j + 1)
        refine ⟨fun j' hj' => ?_, List.Pairwise.cons (fun j' hj' => hafter j' hj') hpair⟩
        rcases List.mem_cons.1 hj' with rfl | hj'
        · exact hj.start_le
        · have := hafter j' hj'
          have := hj.start_le
          omega
      · rw [List.reduceOption_cons_of_none]
        exact hrest
    · rw [List.reduceOption_cons_of_none]
      exact hrest

end Reference

/-- A matching has one entry per reference instant; each entry is the reference choice: the
earliest of the candidates nearest to the instant among those after the last one taken,
when it is within the tolerance, and a hole otherwise. So the candidates taken rise
strictly along the reference, and every matched pair is within the tolerance. -/
theorem matchTimes_eq_reference (reference candidates : List UInt64) (tol : UInt64)
    (hs : candidates.Pairwise (· ≤ ·)) :
    (matchTimes reference candidates tol).length = reference.length ∧
    (∀ (i : Nat) (r : UInt64), reference[i]? = some r → ∀ m,
      (matchTimes reference candidates tol)[i]? = some m ↔
        Chosen candidates (resumeFrom 0 (matchTimes reference candidates tol) i) r tol m) ∧
    (matchTimes reference candidates tol).reduceOption.Pairwise (· < ·) ∧
    (∀ i j : Nat, (matchTimes reference candidates tol)[i]? = some (some j) →
      ∃ r c : UInt64, reference[i]? = some r ∧ candidates[j]? = some c ∧ gap c r ≤ tol) := by
  have hchosen := matchFrom_chosen hs tol reference 0
  have hincreasing := (matchFrom_increasing hs tol reference 0).2
  simp only [List.drop_zero] at hchosen hincreasing
  unfold matchTimes
  refine ⟨length_matchFrom tol reference _, fun i r hr m => ?_, hincreasing, fun i j hij => ?_⟩
  · obtain ⟨m', hm', hc⟩ := hchosen i r hr
    constructor
    · intro hm
      rw [hm'] at hm
      cases hm
      exact hc
    · intro hc'
      rw [hm', hc.unique hc']
  · -- the instant exists, and its choice is within the tolerance
    have hi : i < reference.length := by
      rw [← length_matchFrom tol reference candidates.zipIdx]
      exact (List.getElem?_eq_some_iff.1 hij).1
    obtain ⟨m', hm', hc⟩ := hchosen i _ (List.getElem?_eq_getElem hi)
    rw [hij] at hm'
    cases hm'
    obtain ⟨c, hj, hle⟩ := hc
    exact ⟨_, c, List.getElem?_eq_getElem hi, hj.get, hle⟩

/-- Of two equal candidates the earlier is taken: instant `20` takes position `1`, the first of
the two `21`s, which is the reference choice from the start of the scan. -/
theorem matchTimes_takes_earlier_of_equal :
    ([9, 21, 21, 40] : List UInt64).Pairwise (· ≤ ·) ∧
      Chosen [9, 21, 21, 40] (resumeFrom 0 (matchTimes [10, 20, 30] [9, 21, 21, 40] 5) 1) 20 5
        (some 1) := by
  have hs : ([9, 21, 21, 40] : List UInt64).Pairwise (· ≤ ·) := by decide
  exact ⟨hs, ((matchTimes_eq_reference [10, 20, 30] [9, 21, 21, 40] 5 hs).2.1 1 20 rfl
    (some 1)).1 (by decide)⟩

end DepthRig.Sync
