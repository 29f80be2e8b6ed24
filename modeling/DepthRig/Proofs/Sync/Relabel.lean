import Mathlib
import DepthRig.Sync.Reconciler
import DepthRig.Simulator.Sensor

/-!
# Relabelling stored frames by a plan

A sensor is sent the numbers of its matched frames with their instants and keeps exactly
those frames, renumbered and sorted. The numbers come from its own timestamp list and the
instants increase, so it keeps the matched frames in the order of their instants, one per
matched instant and none for a hole (`Sensor.reorder_ownPlan`).
-/

namespace DepthRig

namespace Sync

/-! ## Matched positions are positions of candidates -/

/-- The scan for the nearest candidate answers one of the candidates it scanned, or the best
it was given. -/
theorem index_lt_of_nearest {ref : UInt64} {n : Nat} :
    ∀ {pending : List (UInt64 × Nat)} {best : Option (Nat × UInt64)},
      (∀ x ∈ pending, x.2 < n) → (∀ b ∈ best, b.1 < n) →
      ∀ b ∈ nearest ref pending best, b.1 < n
  | [], _, _, hbest => hbest
  | (c, j) :: rest, best, hpending, hbest => by
    have hj : j < n := hpending (c, j) (by simp)
    have hrest : ∀ x ∈ rest, x.2 < n := fun x hx => hpending x (by simp [hx])
    -- the candidate scanned, or the best so far, is the best after it
    have hnext : ∀ best' : Option (Nat × UInt64), (∀ b ∈ best', b.1 < n) →
        ∀ b ∈ (if ref < c then best' else nearest ref rest best'), b.1 < n := by
      intro best' hb'
      split
      · exact hb'
      · exact index_lt_of_nearest hrest hb'
    unfold nearest
    dsimp only
    split
    · split
      · exact hbest
      · refine hnext _ ?_
        split
        · simp [hj]
        · exact hbest
    · exact hnext _ (by simp [hj])

/-- Every position a match takes is a position among the candidates not yet passed. -/
theorem index_lt_of_mem_matchFrom {tol : UInt64} {n : Nat} :
    ∀ {rs : List UInt64} {pending : List (UInt64 × Nat)}, (∀ x ∈ pending, x.2 < n) →
      ∀ {j : Nat}, some j ∈ matchFrom tol rs pending → j < n
  | [], _, _, _, h => by simp [matchFrom] at h
  | r :: rs, pending, hpending, j, h => by
    unfold matchFrom at h
    split at h
    · rename_i j' d hnear
      have hj' : j' < n := index_lt_of_nearest hpending (by simp) (j', d) hnear
      -- the candidates left after a match are some of those before it
      have hdrop : ∀ x ∈ pending.dropWhile (·.2 ≤ j'), x.2 < n :=
        fun x hx => hpending x ((List.dropWhile_sublist _).subset hx)
      split at h
      · rcases List.mem_cons.mp h with h | h
        · cases h
          exact hj'
        · exact index_lt_of_mem_matchFrom hdrop h
      · exact index_lt_of_mem_matchFrom hpending (by simpa using h)
    · exact index_lt_of_mem_matchFrom hpending (by simpa using h)

/-- Every position a match takes is the position of a candidate. -/
theorem index_lt_of_mem_matchTimes {reference candidates : List UInt64} {tol : UInt64} {j : Nat}
    (h : some j ∈ matchTimes reference candidates tol) : j < candidates.length :=
  index_lt_of_mem_matchFrom (fun _ hx => (List.mem_zipIdx' hx).1) h

/-- A plan part's matched positions are positions of its frames. -/
theorem lt_length_frameNumbers_planDevice {reference : List UInt64} {tol : UInt64}
    {isMain : Bool} {d : DeviceTimes} {src : Nat}
    (h : some src ∈ (planDevice reference tol isMain d).mapping) :
    src < (planDevice reference tol isMain d).frameNumbers.length := by
  simp only [planDevice, List.length_map] at h ⊢
  split at h
  · simpa using h
  · simpa using index_lt_of_mem_matchTimes h

/-! ## The matched instants of a plan part -/

/-- Positions along a list rise with the list. -/
theorem pairwise_snd_zipIdx {α : Type} (l : List α) (k : Nat) :
    (l.zipIdx k).Pairwise fun a b => a.2 < b.2 := by
  induction l generalizing k with
  | nil => simp
  | cons a l ih =>
    rw [List.zipIdx_cons, List.pairwise_cons]
    refine ⟨fun b hb => ?_, ih (k + 1)⟩
    have := (List.mem_zipIdx (x := b.1) (i := b.2) hb).1
    omega

namespace DevicePlan

/-- An instant is matched, to the frame at `src`, exactly when the mapping says so. -/
theorem mem_pairs {p : DevicePlan} {x : Nat × Nat} :
    x ∈ p.pairs ↔ p.mapping[x.1]? = some (some x.2) := by
  simp only [pairs, List.mem_filterMap, Option.map_eq_some_iff]
  constructor
  · rintro ⟨⟨m, i⟩, hmem, src, rfl, rfl⟩
    exact List.mem_zipIdx_iff_getElem?.1 hmem
  · intro h
    exact ⟨(some x.2, x.1), List.mem_zipIdx_iff_getElem?.2 h, x.2, rfl, rfl⟩

/-- The matched instants come in increasing order. -/
theorem pairwise_pairs (p : DevicePlan) : p.pairs.Pairwise fun a b => a.1 < b.1 := by
  refine (pairwise_snd_zipIdx p.mapping 0).filterMap _ ?_
  rintro ⟨m, i⟩ ⟨m', i'⟩ hi a ha b hb
  simp only [Option.map_eq_some_iff] at ha hb
  obtain ⟨_, -, rfl⟩ := ha
  obtain ⟨_, -, rfl⟩ := hb
  exact hi

/-- There is at most one match per instant. -/
theorem length_pairs_le (p : DevicePlan) : p.pairs.length ≤ p.mapping.length := by
  simpa [pairs] using List.length_filterMap_le _ p.mapping.zipIdx

/-- Every matched instant is an instant of the mapping. -/
theorem fst_lt_of_mem_pairs {p : DevicePlan} {x : Nat × Nat} (hx : x ∈ p.pairs) :
    x.1 < p.mapping.length := by
  obtain ⟨hlt, -⟩ := List.getElem?_eq_some_iff.1 (mem_pairs.1 hx)
  exact hlt

end DevicePlan

/-! ## A plan part built from a sensor's own list -/

/-- Position by position, a list's frame numbers are its frame numbers when it has one per
stamp. -/
theorem map_frameNumber_zipIdx (l : TimestampList)
    (h : l.frameNumbers.length = l.timestamps.length) :
    l.timestamps.zipIdx.map (fun x => l.frameNumber x.2) = l.frameNumbers := by
  apply List.ext_getElem
  · simp [h]
  · intro i h₁ h₂
    simp [TimestampList.frameNumber, h, List.getElem?_eq_getElem h₂]

/-- A plan part lists the frame numbers of the sensor's list, in the order of their
corrected stamps. -/
theorem perm_frameNumbers_planDevice (reference : List UInt64) (tol : UInt64) (isMain : Bool)
    (d : DeviceTimes) (h : d.list.frameNumbers.length = d.list.timestamps.length) :
    (planDevice reference tol isMain d).frameNumbers.Perm d.list.frameNumbers := by
  simp only [planDevice, DeviceTimes.corrected]
  refine ((List.mergeSort_perm _ _).map _).trans ?_
  rw [List.map_map, ← map_frameNumber_zipIdx d.list h]
  exact .of_eq rfl

/-- A main part has an instant per frame; any other part, one per reference instant. -/
theorem length_mapping_planDevice (reference : List UInt64) (tol : UInt64) (isMain : Bool)
    (d : DeviceTimes) :
    (planDevice reference tol isMain d).mapping.length =
      if isMain then d.list.timestamps.length else reference.length := by
  simp only [planDevice, DeviceTimes.corrected]
  split <;> simp [length_matchTimes]

/-- Every number a plan part matched is a frame number of the sensor's list. -/
theorem frameNumber_mem_of_mem_pairs {reference : List UInt64} {tol : UInt64} {isMain : Bool}
    {d : DeviceTimes} (h : d.list.frameNumbers.length = d.list.timestamps.length)
    {x : Nat × Nat} (hx : x ∈ (planDevice reference tol isMain d).pairs) :
    (planDevice reference tol isMain d).frameNumbers.getD x.2 0 ∈ d.list.frameNumbers := by
  have hlt := lt_length_frameNumbers_planDevice
    (List.mem_of_getElem? (DevicePlan.mem_pairs.1 hx))
  rw [List.getD_eq_getElem?_getD, List.getElem?_eq_getElem hlt, Option.getD_some]
  exact (perm_frameNumbers_planDevice reference tol isMain d h).subset (List.getElem_mem hlt)

/-! ## Matches that come first -/

/-- A plan part's matches come first: its mapping is a run of matches followed by holes
only, so that no hole comes before a match. -/
def DevicePlan.MatchesFirst (p : DevicePlan) : Prop :=
  ∃ (srcs : List Nat) (n : Nat), p.mapping = srcs.map some ++ List.replicate n none

/-- A run of matches followed by holes, read at an instant: the match there, if any. -/
theorem getD_runs (srcs : List Nat) (n k : Nat) :
    (srcs.map some ++ List.replicate n none).getD k none = srcs[k]? := by
  rw [List.getD_eq_getElem?_getD]
  by_cases hk : k < srcs.length
  · rw [List.getElem?_append_left (by simpa using hk)]
    simp [List.getElem?_eq_getElem hk]
  · have hnone : srcs[k]? = none := List.getElem?_eq_none (by omega)
    rw [List.getElem?_append_right (by simpa using hk), hnone, List.getElem?_replicate]
    split <;> rfl

/-- A mapping whose matched instants are exactly the first `m` is a run of matches followed
by holes. -/
theorem runs_of_isSome_iff :
    ∀ {l : List (Option Nat)} {m : Nat}, (∀ k, (l.getD k none).isSome ↔ k < m) →
      ∃ (srcs : List Nat) (n : Nat), l = srcs.map some ++ List.replicate n none
  | [], _, _ => ⟨[], 0, rfl⟩
  | a :: l, m, h => by
    cases m with
    | zero =>
      -- nothing is matched: every instant is a hole
      refine ⟨[], (a :: l).length, List.eq_replicate_iff.2 ⟨rfl, fun b hb => ?_⟩⟩
      obtain ⟨k, hk, rfl⟩ := List.getElem_of_mem hb
      have hnone := mt (h k).1 (Nat.not_lt_zero k)
      rw [List.getD_eq_getElem?_getD, List.getElem?_eq_getElem hk] at hnone
      simpa using hnone
    | succ m =>
      -- the first instant is matched, and the rest are matches for `m` instants, then holes
      have h₀ := (h 0).2 (Nat.succ_pos m)
      obtain ⟨src, rfl⟩ := Option.isSome_iff_exists.1 (by simpa using h₀)
      obtain ⟨srcs, n, hl⟩ := runs_of_isSome_iff (l := l) (m := m) fun k => by
        simpa using h (k + 1)
      exact ⟨src :: srcs, n, by simp [hl]⟩

/-- The matched instants of a run of matches are its first instants, in order. -/
theorem DevicePlan.pairs_of_runs {p : DevicePlan} {srcs : List Nat} {n : Nat}
    (h : p.mapping = srcs.map some ++ List.replicate n none) :
    p.pairs = srcs.zipIdx.map fun x => (x.2, x.1) := by
  -- the holes after the run match nothing
  have hholes : ∀ k m, ((List.replicate m (none : Option Nat)).zipIdx k).filterMap
      (fun x : Option Nat × Nat => x.1.map fun src => (x.2, src)) = [] := by
    intro k m
    induction m generalizing k with
    | zero => rfl
    | succ m ih => simp [List.replicate_succ, ih]
  simp only [DevicePlan.pairs, h, List.zipIdx_append, List.filterMap_append, List.zipIdx_map]
  simp [hholes, List.filterMap_map]

end Sync

/-! ## What a sensor keeps -/

namespace Simulator

open Sync

/-- `mapM` of a function that answers every element, as `g` does, gathers the answers. -/
theorem mapM_eq_some_filterMap {α β : Type} {f g : α → Option β} :
    ∀ {l : List α}, (∀ a ∈ l, f a = g a) → (∀ a ∈ l, (g a).isSome) →
      l.mapM f = some (l.filterMap g)
  | [], _, _ => rfl
  | a :: l, hfg, h => by
    obtain ⟨b, hb⟩ := Option.isSome_iff_exists.1 (h a (by simp))
    rw [List.mapM_cons, hfg a (by simp), hb,
      mapM_eq_some_filterMap (fun a' ha' => hfg a' (by simp [ha'])) (fun a' ha' => h a' (by simp [ha'])),
      List.filterMap_cons_some hb]
    rfl

/-- Filtering by a function that answers every element keeps one answer per element. -/
theorem length_filterMap_of_isSome {α β : Type} {g : α → Option β} :
    ∀ {l : List α}, (∀ a ∈ l, (g a).isSome) → (l.filterMap g).length = l.length
  | [], _ => rfl
  | a :: l, h => by
    obtain ⟨b, hb⟩ := Option.isSome_iff_exists.1 (h a (by simp))
    rw [List.filterMap_cons_some hb, List.length_cons, List.length_cons,
      length_filterMap_of_isSome fun a' ha' => h a' (by simp [ha'])]

/-- Filtering by a function that answers every element answers position by position. -/
theorem getElem?_filterMap_of_isSome {α β : Type} {g : α → Option β} :
    ∀ {l : List α}, (∀ a ∈ l, (g a).isSome) → ∀ k : Nat, (l.filterMap g)[k]? = l[k]?.bind g
  | [], _, _ => rfl
  | a :: l, h, k => by
    obtain ⟨b, hb⟩ := Option.isSome_iff_exists.1 (h a (by simp))
    rw [List.filterMap_cons_some hb]
    cases k with
    | zero => simp [hb]
    | succ k => simpa using getElem?_filterMap_of_isSome (fun a' ha' => h a' (by simp [ha'])) k

/-- The shots a sensor keeps under a plan part: per matched instant, in order, the last shot
stored under the matched frame's number, renumbered by the instant. -/
def keptShots (p : DevicePlan) (stored : List StoredShot) : List StoredShot :=
  p.pairs.filterMap fun x =>
    (stored.reverse.find? (·.number == p.frameNumbers.getD x.2 0)).map
      fun f => { f with number := Int32.ofNat x.1 }

/-- The shot a plan part matched to instant `i`: the last shot stored under the matched
frame's number; none for a hole. -/
def matchedShot (p : DevicePlan) (stored : List StoredShot) (i : Nat) : Option StoredShot :=
  (p.mapping.getD i none).bind fun src =>
    stored.reverse.find? (·.number == p.frameNumbers.getD src 0)

/-- Every number a plan part matched names a stored shot. -/
def Finds (p : DevicePlan) (stored : List StoredShot) : Prop :=
  ∀ x ∈ p.pairs, p.frameNumbers.getD x.2 0 ∈ stored.map (·.number)

/-- The kept shots are numbered by their instants, which rise; so they are sorted. -/
theorem pairwise_keptShots (p : DevicePlan) (stored : List StoredShot)
    (hlen : p.mapping.length ≤ 2 ^ 31) :
    (keptShots p stored).Pairwise fun a b => decide (a.number ≤ b.number) = true := by
  have hbounded : p.pairs.Pairwise fun a b => a.1 < b.1 ∧ a.1 < 2 ^ 31 ∧ b.1 < 2 ^ 31 :=
    p.pairwise_pairs.imp_of_mem fun ha hb hab => by
      have := DevicePlan.fst_lt_of_mem_pairs ha
      have := DevicePlan.fst_lt_of_mem_pairs hb
      exact ⟨hab, by omega, by omega⟩
  refine hbounded.filterMap _ ?_
  rintro x y ⟨hxy, hx, hy⟩ a ha b hb
  simp only [Option.map_eq_some_iff] at ha hb
  obtain ⟨_, -, rfl⟩ := ha
  obtain ⟨_, -, rfl⟩ := hb
  simpa [Int32.ofNat_le_iff_le hx hy] using Nat.le_of_lt hxy

namespace Finds

variable {p : DevicePlan} {stored : List StoredShot}

/-- A stored number is found. -/
theorem isSome_find {n : Int32} (h : n ∈ stored.map (·.number)) :
    (stored.reverse.find? (·.number == n)).isSome := by
  obtain ⟨f, hf, hn⟩ := List.mem_map.1 h
  exact List.find?_isSome.2 ⟨f, List.mem_reverse.2 hf, by simpa using hn⟩

/-- Every matched instant keeps a shot. -/
theorem isSome_kept (h : Finds p stored) :
    ∀ x ∈ p.pairs, ((stored.reverse.find? (·.number == p.frameNumbers.getD x.2 0)).map
      fun f => { f with number := Int32.ofNat x.1 }).isSome :=
  fun x hx => by simpa using isSome_find (h x hx)

/-- One shot is kept per matched instant. -/
theorem length_keptShots (h : Finds p stored) : (keptShots p stored).length = p.pairs.length :=
  length_filterMap_of_isSome h.isSome_kept

/-- Exactly the matched instants have a matched shot. -/
theorem isSome_matchedShot (h : Finds p stored) (i : Nat) :
    (matchedShot p stored i).isSome = (p.mapping.getD i none).isSome := by
  unfold matchedShot
  rcases hm : p.mapping.getD i none with _ | src
  · rfl
  · have hi : p.mapping[i]? = some (some src) := by
      rw [List.getD_eq_getElem?_getD] at hm
      cases hget : p.mapping[i]? with
      | none => simp [hget] at hm
      | some o => simpa [hget] using hm
    simpa using isSome_find (h (i, src) (DevicePlan.mem_pairs.2 hi))

/-- The `k`-th kept shot holds the frame matched to the `k`-th matched instant. -/
theorem frame_keptShots (h : Finds p stored) {β : Type} (F : Frame → β) (k : Nat) :
    (keptShots p stored)[k]?.map (fun f => F f.frame) =
      (p.pairs[k]?.bind fun x => matchedShot p stored x.1).map fun f => F f.frame := by
  unfold keptShots
  rw [getElem?_filterMap_of_isSome h.isSome_kept k]
  rcases hx : p.pairs[k]? with _ | x
  · rfl
  · -- the instant's mapping names the kept frame's position
    have hmap : p.mapping.getD x.1 none = some x.2 := by
      rw [List.getD_eq_getElem?_getD, DevicePlan.mem_pairs.1 (List.mem_of_getElem? hx)]
      rfl
    rw [Option.bind_some, Option.bind_some, matchedShot, hmap, Option.bind_some, Option.map_map]
    rfl

/-- The kept shots line up with the instants, the `k`-th holding the frame matched to
instant `k` and none past the matches, exactly when the plan part's matches come first. -/
theorem keptShots_agree_iff (h : Finds p stored) {β : Type} (F : Frame → β) :
    (∀ k, (keptShots p stored)[k]?.map (fun f => F f.frame) =
      (matchedShot p stored k).map fun f => F f.frame) ↔ p.MatchesFirst := by
  constructor
  · -- the kept shots are as many as the matches, so the matched instants are the first ones
    intro hagree
    refine runs_of_isSome_iff (m := p.pairs.length) fun k => ?_
    have hk := congrArg Option.isSome (hagree k)
    simp only [Option.isSome_map] at hk
    rw [← h.isSome_matchedShot k, ← hk, ← h.length_keptShots]
    simp
  · -- the `k`-th matched instant is instant `k`
    rintro ⟨srcs, n, hruns⟩ k
    rw [h.frame_keptShots F k, DevicePlan.pairs_of_runs hruns, List.getElem?_map,
      List.getElem?_zipIdx]
    have hshot : matchedShot p stored k = srcs[k]?.bind fun src =>
        stored.reverse.find? (·.number == p.frameNumbers.getD src 0) := by
      rw [matchedShot, hruns, getD_runs]
    cases hs : srcs[k]? <;> simp [hshot, hs]

end Finds

namespace Sensor

/-- Sent its plan part's relabelling, a sensor that stores a shot under every number the
plan matched keeps the matched shots, in the order of their instants, and answers stored
frames from the first again. -/
theorem reorder_postSync (s : Sensor) (p : DevicePlan) (hfound : Finds p s.stored)
    (hlen : p.mapping.length ≤ 2 ^ 31) :
    s.reorder p.postSync = some { s with stored := keptShots p s.stored, cursor := 0 } := by
  unfold reorder DevicePlan.postSync
  simp only [List.zip_map', List.mapM_map]
  rw [mapM_eq_some_filterMap ?hfg hfound.isSome_kept]
  case hfg =>
    -- the code's lookup-then-renumber is the renumbering of the lookup
    intro x _
    simp only [Function.comp_apply, bind_pure_comp, Option.map_eq_map]
  simp only [Option.bind_eq_bind, Option.bind_some]
  rw [show List.filterMap _ p.pairs = keptShots p s.stored from rfl,
    List.mergeSort_of_pairwise (pairwise_keptShots p s.stored hlen)]
  rfl

/-- The timestamp list a sensor reports: the stamps and numbers of its shots. -/
def timestampList (s : Sensor) : TimestampList :=
  ⟨s.stored.map (·.timestamp), s.stored.map (·.number)⟩

/-- A plan part built from a sensor's own timestamp list matches only numbers it stores. -/
theorem finds_ownPlan (s : Sensor) {reference : List UInt64} {tol : UInt64} {isMain : Bool}
    {d : DeviceTimes} (hd : d.list = s.timestampList) :
    Finds (planDevice reference tol isMain d) s.stored := by
  have hsame : d.list.frameNumbers.length = d.list.timestamps.length := by
    simp [hd, timestampList]
  intro x hx
  have hmem := frameNumber_mem_of_mem_pairs hsame hx
  rwa [hd] at hmem

end Sensor

end Simulator

end DepthRig
