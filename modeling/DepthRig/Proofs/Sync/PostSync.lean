import DepthRig.Proofs.Sync.Relabel
import DepthRig.Proofs.Sync.Plans

/-!
# The relabelling a plan sends

A sort that keeps equal stamps in their order puts a sensor's frames in one order only
(`DeviceTimes.SortOrder`), and each frame's number travels with its stamp through it. So the
relabelling a plan part sends names, per matched instant, the sensor's own number for the
frame matched there; it can always be written, and names distinct frames whenever the sensor
numbers its frames apart.
-/

namespace DepthRig.Sync

namespace DeviceTimes

variable (d : DeviceTimes)

/-- The corrected stamp of the frame at position `i` of a sensor's list. -/
def stamp (i : Nat) : UInt64 := d.lessDelay (d.list.timestamps.getD i 0)

/-- Position `i` sorts before position `j`: its corrected stamp is earlier, or the same and
it comes first. -/
def Before (i j : Nat) : Prop := d.stamp i < d.stamp j ∨ (d.stamp i = d.stamp j ∧ i < j)

/-- `order` lists the positions of a sensor's frames as a stable sort by corrected stamp
leaves them. -/
structure SortOrder (order : List Nat) : Prop where
  perm : order.Perm (List.range d.list.timestamps.length)
  sorted : order.Pairwise d.Before

variable {d}

theorem not_before_of_before {i j : Nat} (h : d.Before i j) : ¬ d.Before j i := by
  unfold Before at h ⊢
  grind

/-- There is one stable sort order. -/
theorem SortOrder.unique {o₁ o₂ : List Nat} (h₁ : d.SortOrder o₁) (h₂ : d.SortOrder o₂) :
    o₁ = o₂ :=
  List.Perm.eq_of_pairwise (fun _ _ _ _ hab hba => absurd hba (not_before_of_before hab))
    h₁.sorted h₂.sorted (h₁.perm.trans h₂.perm.symm)

/-- The frames before sorting: each position's corrected stamp and frame number. -/
theorem corrected_eq_mergeSort (d : DeviceTimes) :
    d.corrected = ((List.range d.list.timestamps.length).map fun i =>
      (d.stamp i, d.list.frameNumber i)).mergeSort fun a b => decide (a.1 ≤ b.1) := by
  unfold corrected
  dsimp only
  congr 1
  apply List.ext_getElem
  · simp
  · intro i h₁ _
    have hi : i < d.list.timestamps.length := by simpa using h₁
    simp [stamp, lessDelay, List.getElem?_eq_getElem hi]

/-- The comparison of `corrected`, by stamp only. -/
def byStamp (a b : UInt64 × Int32) : Bool := decide (a.1 ≤ b.1)

/-- Sorting the frames numbered by position, as `corrected` does, orders the positions
stably: by stamp, equal stamps by position. -/
theorem exists_sortOrder_corrected (d : DeviceTimes) :
    ∃ order, d.SortOrder order ∧
      d.corrected = order.map fun i => (d.stamp i, d.list.frameNumber i) := by
  let frame : Nat → UInt64 × Int32 := fun i => (d.stamp i, d.list.frameNumber i)
  let frames := (List.range d.list.timestamps.length).map frame
  -- sort the frames with their positions attached, ties by position
  let sorted := frames.zipIdx.mergeSort (List.zipIdxLE byStamp)
  have hsorted : d.corrected = sorted.map (·.1) := by
    rw [corrected_eq_mergeSort]
    exact List.mergeSort_zipIdx.symm
  -- every entry is the frame at its own position
  have hentry : ∀ x ∈ sorted, x = (frame x.2, x.2) := by
    rintro ⟨a, i⟩ hx
    obtain ⟨-, hlt, ha⟩ := List.mem_zipIdx (List.mem_mergeSort.1 hx)
    have hlt' : i < d.list.timestamps.length := by simpa [frames] using hlt
    have hframe : a = frame i := by simp [ha, frames]
    rw [hframe]
  have hperm : (sorted.map (·.2)).Perm (List.range d.list.timestamps.length) := by
    refine ((List.mergeSort_perm _ _).map _).trans (.of_eq ?_)
    rw [List.zipIdx_map_snd, List.length_map, List.length_range, ← List.range_eq_range']
  refine ⟨sorted.map (·.2), ⟨hperm, ?_⟩, ?_⟩
  · -- sorted by stamp, ties by position; positions are distinct
    have hpair : sorted.Pairwise fun a b => List.zipIdxLE byStamp a b = true :=
      List.pairwise_mergeSort (List.zipIdxLE_trans fun a b c hab hbc => by
          simp only [byStamp, decide_eq_true_eq] at hab hbc ⊢
          exact UInt64.le_trans hab hbc)
        (List.zipIdxLE_total fun a b => by simpa [byStamp] using UInt64.le_total a.1 b.1) _
    have hpair' : (sorted.map (·.2)).Pairwise fun i j =>
        List.zipIdxLE byStamp (frame i, i) (frame j, j) = true := by
      refine List.pairwise_map.2 (hpair.imp_of_mem fun {x y} hx hy h => ?_)
      rwa [hentry x hx, hentry y hy] at h
    refine (hpair'.and (hperm.nodup_iff.2 List.nodup_range)).imp fun {i j} ⟨hle, hne⟩ => ?_
    simp only [List.zipIdxLE, byStamp, frame, decide_eq_true_eq] at hle
    split_ifs at hle with h₁ h₂
    · exact .inr ⟨UInt64.le_antisymm h₁ h₂, Nat.lt_of_le_of_ne (by simpa using hle) hne⟩
    · exact .inl (UInt64.not_le.1 h₂)
  · rw [hsorted, List.map_map]
    exact List.map_congr_left fun x hx => congrArg Prod.fst (hentry x hx)

/-- A stable sort order is the one `corrected` sorts the frames into. -/
theorem corrected_eq_map_sortOrder {order : List Nat} (h : d.SortOrder order) :
    d.corrected = order.map fun i => (d.stamp i, d.list.frameNumber i) := by
  obtain ⟨order', h', hcorr⟩ := exists_sortOrder_corrected d
  rw [hcorr, h'.unique h]

end DeviceTimes

/-! ## A part of a built plan -/

/-- Each part of a built plan is its sensor's part against the plan's reference instants,
which are the main sensor's own corrected stamps. -/
theorem part_of_buildPlan {devices : List DeviceTimes} {tolerance : Duration} {plan : Plan}
    (h : buildPlan devices tolerance = .ok plan) {k : Nat} {d : DeviceTimes} {p : DevicePlan}
    (hd : devices[k]? = some d) (hp : plan.devices[k]? = some p) :
    ∃ isMain, (isMain = true → d.corrected.map (·.1) = plan.reference) ∧
      p = planDevice plan.reference tolerance.wholeMicros.toUInt64 isMain d := by
  unfold buildPlan at h
  match hpos : mainPositions devices with
  | [] => simp [hpos] at h
  | _ :: _ :: _ => simp [hpos] at h
  | [m] =>
    simp only [hpos] at h
    split at h
    · cases h
    · split at h
      · cases h
      · cases h
        refine ⟨k == m, fun hkm => ?_, by simpa [List.getElem?_zipIdx, hd, eq_comm] using hp⟩
        rw [beq_iff_eq.1 hkm] at hd
        rw [List.getD_eq_getElem?_getD, hd, Option.getD_some]

section Part

variable {reference : List UInt64} {tol : UInt64} {isMain : Bool} {d : DeviceTimes}

/-- A part lists the sensor's frame numbers in the stable sort order of its stamps. -/
theorem frameNumbers_planDevice {order : List Nat} (h : d.SortOrder order) :
    (planDevice reference tol isMain d).frameNumbers = order.map d.list.frameNumber := by
  simp only [planDevice, DeviceTimes.corrected_eq_map_sortOrder h, List.map_map]
  rfl

/-- A part's frame numbers are distinct when the sensor numbers its frames apart. -/
theorem nodup_frameNumbers_planDevice
    (hnd : ((List.range d.list.timestamps.length).map d.list.frameNumber).Nodup) :
    (planDevice reference tol isMain d).frameNumbers.Nodup := by
  obtain ⟨order, h, -⟩ := DeviceTimes.exists_sortOrder_corrected d
  rw [frameNumbers_planDevice h]
  exact ((h.perm.map _).nodup_iff).2 hnd

end Part

namespace DevicePlan

/-- The instants a plan part matched, in increasing order. -/
def matchedInstants (p : DevicePlan) : List Nat :=
  (List.range p.mapping.length).filter fun i => (p.mapping.getD i none).isSome

/-- The matched instants are the instants of the pairs. -/
theorem map_fst_pairs (p : DevicePlan) : p.pairs.map (·.1) = p.matchedInstants := by
  have hl : (p.pairs.map (·.1)).Pairwise (· < ·) := List.pairwise_map.2 p.pairwise_pairs
  have hr : p.matchedInstants.Pairwise (· < ·) := List.pairwise_lt_range.filter _
  refine List.Perm.eq_of_pairwise (fun a b _ _ hab hba => absurd hab (Nat.lt_asymm hba)) hl hr
    ((List.perm_ext_iff_of_nodup (hl.imp Nat.ne_of_lt) (hr.imp Nat.ne_of_lt)).2 fun i => ?_)
  simp only [List.mem_map, matchedInstants, List.mem_filter, List.mem_range]
  constructor
  · rintro ⟨x, hx, rfl⟩
    have hget := mem_pairs.1 hx
    refine ⟨(List.getElem?_eq_some_iff.1 hget).1, ?_⟩
    rw [List.getD_eq_getElem?_getD, hget]
    rfl
  · rintro ⟨hi, hsome⟩
    rw [List.getD_eq_getElem?_getD, List.getElem?_eq_getElem hi] at hsome
    obtain ⟨src, hsrc⟩ := Option.isSome_iff_exists.1 (by simpa using hsome)
    exact ⟨(i, src), mem_pairs.2 (by simp [List.getElem?_eq_getElem hi, hsrc]), rfl⟩

/-- The frames matched, by sorted position, are the mapping's entries in order. -/
theorem map_snd_pairs (p : DevicePlan) : p.pairs.map (·.2) = p.mapping.reduceOption := by
  simp only [pairs, List.map_filterMap, List.reduceOption, Option.map_map]
  conv_rhs => rw [← List.zipIdx_map_fst 0 p.mapping, List.filterMap_map]
  refine List.filterMap_congr fun x _ => ?_
  simp [Function.comp_def]

variable (p : DevicePlan)

/-- The synced numbers are the matched instants. -/
theorem syncedIds_postSync : p.postSync.syncedIds = p.matchedInstants.map Int32.ofNat := by
  rw [← map_fst_pairs, List.map_map]
  rfl

/-- The frame numbers sent are those of the matched frames, in the order of their instants. -/
theorem frameIds_postSync :
    p.postSync.frameIds = p.mapping.reduceOption.map fun src => p.frameNumbers.getD src 0 := by
  rw [← map_snd_pairs, List.map_map]
  rfl

theorem length_frameIds_postSync : p.postSync.frameIds.length = p.postSync.syncedIds.length := by
  simp [postSync]

/-- A relabelling can always be written. -/
theorem encode_postSync_ok : ∃ bytes, p.postSync.encode = .ok bytes :=
  ⟨_, if_neg (by simp [length_frameIds_postSync])⟩

/-- With at most `2 ^ 31` instants, the synced numbers are the matched instants themselves,
and rise. -/
theorem toInt_syncedIds_postSync (hlen : p.mapping.length ≤ 2 ^ 31) :
    p.postSync.syncedIds.map Int32.toInt = p.matchedInstants.map Int.ofNat ∧
      p.postSync.syncedIds.Pairwise (· < ·) := by
  have hbound : ∀ i ∈ p.matchedInstants, i < 2 ^ 31 := fun i hi => by
    have := List.mem_range.1 (List.mem_of_mem_filter hi)
    omega
  rw [syncedIds_postSync, List.map_map]
  constructor
  · exact List.map_congr_left fun i hi => Int32.toInt_ofNat_of_lt (hbound i hi)
  · refine List.pairwise_map.2 ((List.pairwise_lt_range.filter _).imp_of_mem fun ha hb hab => ?_)
    exact (Int32.ofNat_lt_iff_lt (hbound _ ha) (hbound _ hb)).2 hab

variable {p}

/-- The `j`-th frame number sent is that of the frame matched to the `j`-th matched instant. -/
theorem frameId_of_matchedInstant {j i : Nat} (h : p.matchedInstants[j]? = some i) :
    ∃ src, p.mapping[i]? = some (some src) ∧
      p.postSync.frameIds[j]? = some (p.frameNumbers.getD src 0) := by
  rw [← map_fst_pairs, List.getElem?_map] at h
  obtain ⟨x, hx, rfl⟩ := Option.map_eq_some_iff.1 h
  refine ⟨x.2, mem_pairs.1 (List.mem_of_getElem? hx), ?_⟩
  simp [postSync, hx]

/-- Matched positions that rise and index distinct frame numbers give distinct numbers sent. -/
theorem nodup_frameIds_postSync (hinc : p.mapping.reduceOption.Pairwise (· < ·))
    (hlt : ∀ src, some src ∈ p.mapping → src < p.frameNumbers.length) (hnd : p.frameNumbers.Nodup) :
    p.postSync.frameIds.Nodup := by
  rw [frameIds_postSync]
  refine List.Nodup.map_on (fun a ha b hb hab => ?_) (hinc.imp Nat.ne_of_lt)
  have ha' := hlt a (List.reduceOption_mem_iff.1 ha)
  have hb' := hlt b (List.reduceOption_mem_iff.1 hb)
  rw [List.getD_eq_getElem?_getD, List.getElem?_eq_getElem ha', List.getD_eq_getElem?_getD,
    List.getElem?_eq_getElem hb'] at hab
  exact (hnd.getElem_inj_iff).1 (by simpa using hab)

end DevicePlan

/-- The relabelling each part of a built plan sends: its two lists have one length, so it is
always written; its synced numbers are exactly the matched instants, in increasing order
(as numbers, when there are at most `2 ^ 31` instants); the `j`-th number sent is the
sensor's own number of the frame that the stable sort of its corrected stamps put at the
position matched to the `j`-th matched instant; and the numbers sent are distinct whenever
the sensor's numbers for its frames are. -/
theorem postSync_relabels_plan {devices : List DeviceTimes} {tolerance : Duration} {plan : Plan}
    (h : buildPlan devices tolerance = .ok plan) {k : Nat} {d : DeviceTimes} {p : DevicePlan}
    (hd : devices[k]? = some d) (hp : plan.devices[k]? = some p) :
    p.postSync.frameIds.length = p.postSync.syncedIds.length ∧
    p.postSync.syncedIds = p.matchedInstants.map Int32.ofNat ∧
    (p.mapping.length ≤ 2 ^ 31 →
      p.postSync.syncedIds.map Int32.toInt = p.matchedInstants.map Int.ofNat ∧
        p.postSync.syncedIds.Pairwise (· < ·)) ∧
    (∃ order, d.SortOrder order) ∧
    (∀ order, d.SortOrder order → ∀ j i : Nat, p.matchedInstants[j]? = some i →
      ∃ src o : Nat, p.mapping[i]? = some (some src) ∧ order[src]? = some o ∧
        p.postSync.frameIds[j]? = some (d.list.frameNumber o)) ∧
    (((List.range d.list.timestamps.length).map d.list.frameNumber).Nodup →
      p.postSync.frameIds.Nodup) ∧
    ∃ bytes, p.postSync.encode = .ok bytes := by
  obtain ⟨isMain, href, rfl⟩ := part_of_buildPlan h hd hp
  obtain ⟨order₀, hsort₀, -⟩ := DeviceTimes.exists_sortOrder_corrected d
  refine ⟨DevicePlan.length_frameIds_postSync _, DevicePlan.syncedIds_postSync _,
    DevicePlan.toInt_syncedIds_postSync _, ⟨order₀, hsort₀⟩, fun order horder j i hj => ?_,
    fun hnd => ?_, DevicePlan.encode_postSync_ok _⟩
  · -- the matched position holds the frame the sort put there
    obtain ⟨src, hsrc, hid⟩ := DevicePlan.frameId_of_matchedInstant hj
    have hlt := lt_length_frameNumbers_planDevice (List.mem_of_getElem? hsrc)
    rw [frameNumbers_planDevice horder, List.length_map] at hlt
    refine ⟨src, order[src], hsrc, List.getElem?_eq_getElem hlt, ?_⟩
    rw [hid, frameNumbers_planDevice horder, List.getD_eq_getElem?_getD, List.getElem?_map,
      List.getElem?_eq_getElem hlt]
    rfl
  · exact DevicePlan.nodup_frameIds_postSync (planDevice_fits href).increasing
      (fun _ hs => lt_length_frameNumbers_planDevice hs) (nodup_frameNumbers_planDevice hnd)

/-- A sensor whose frames arrive out of order, with a hole at the middle instant, is sent its
frames `3` and `4` as synced frames `0` and `2`. -/
theorem postSync_relabels_out_of_order :
    buildPlan [⟨"main", "A", true, ⟨0⟩, ⟨[0, 100, 200], []⟩⟩,
        ⟨"sub", "B", false, ⟨0⟩, ⟨[201, 1], [4, 3]⟩⟩] ⟨10000⟩ =
      .ok ⟨⟨10000⟩, [0, 100, 200],
        [⟨"main", "A", true, [some 0, some 1, some 2], [0, 100, 200], [0, 1, 2]⟩,
          ⟨"sub", "B", false, [some 0, none, some 1], [1, 201], [3, 4]⟩]⟩ ∧
    (⟨"sub", "B", false, [some 0, none, some 1], [1, 201], [3, 4]⟩ : DevicePlan).postSync =
      ⟨[3, 4], [0, 2]⟩ ∧
    ((⟨"sub", "B", false, [some 0, none, some 1], [1, 201], [3, 4]⟩ : DevicePlan).postSync.frameIds.Nodup) := by
  have hbuild : buildPlan [⟨"main", "A", true, ⟨0⟩, ⟨[0, 100, 200], []⟩⟩,
        ⟨"sub", "B", false, ⟨0⟩, ⟨[201, 1], [4, 3]⟩⟩] ⟨10000⟩ =
      .ok ⟨⟨10000⟩, [0, 100, 200],
        [⟨"main", "A", true, [some 0, some 1, some 2], [0, 100, 200], [0, 1, 2]⟩,
          ⟨"sub", "B", false, [some 0, none, some 1], [1, 201], [3, 4]⟩]⟩ := by
    simp +decide [buildPlan, mainPositions, DeviceTimes.corrected, List.mergeSort,
      TimestampList.frameNumber, Duration.wholeMicros, planDevice, matchTimes, matchFrom, nearest,
      gap, DevicePlan.matched]
  exact ⟨hbuild, rfl, (postSync_relabels_plan hbuild (k := 1) rfl rfl).2.2.2.2.2.1 (by decide)⟩

end DepthRig.Sync
