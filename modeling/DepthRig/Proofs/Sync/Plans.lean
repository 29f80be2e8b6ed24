import DepthRig.Proofs.Sync.Matching
import DepthRig.Sync.Plan

/-!
# What building a plan guarantees

A plan is refused when the sensors do not hold exactly one main sensor, when the main sensor
stored nothing, or on the first sensor whose part matches no instant, and these are all the
ways it fails. A plan that is built fits: sorted reference instants, the main sensor's part
the identity, and every part rising, within the tolerance, with at least one match
(`buildPlan_outcome`).
-/

namespace DepthRig.Sync

/-! ## Corrected stamps -/

namespace DeviceTimes

/-- A stamp less the sensor's delay in whole microseconds, stopping at zero. -/
def lessDelay (d : DeviceTimes) (ts : UInt64) : UInt64 :=
  if d.delay.wholeMicros.toUInt64 ≤ ts then ts - d.delay.wholeMicros.toUInt64 else 0

@[simp] theorem length_corrected (d : DeviceTimes) :
    d.corrected.length = d.list.timestamps.length := by
  simp [corrected]

/-- The corrected stamps are the sensor's stamps less its delay, in ascending order. -/
theorem corrected_stamps (d : DeviceTimes) :
    (d.corrected.map (·.1)).Pairwise (· ≤ ·) ∧
      (d.corrected.map (·.1)).Perm (d.list.timestamps.map d.lessDelay) := by
  constructor
  · have hsorted : d.corrected.Pairwise (fun a b => decide (a.1 ≤ b.1) = true) := by
      unfold corrected
      refine List.pairwise_mergeSort (fun a b c hab hbc => ?_) (fun a b => ?_) _
      · simp only [decide_eq_true_eq] at hab hbc ⊢
        exact UInt64.le_trans hab hbc
      · simpa using UInt64.le_total a.1 b.1
    exact List.pairwise_map.2 (hsorted.imp fun h => by simpa using h)
  · refine ((List.mergeSort_perm _ _).map _).trans (.of_eq ?_)
    apply List.ext_getElem
    · simp
    · intro i _ _
      simp [lessDelay]

end DeviceTimes

/-! ## The main sensors -/

/-- One main position per main sensor. -/
theorem length_mainPositions (devices : List DeviceTimes) :
    (mainPositions devices).length = devices.countP (·.main) := by
  unfold mainPositions
  rw [List.length_filterMap_eq_countP]
  conv_rhs => rw [← List.zipIdx_map_fst 0 devices, List.countP_map]
  refine List.countP_congr fun x _ => ?_
  obtain ⟨d, i⟩ := x
  cases d.main <;> simp

/-- The main positions are the positions of main sensors. -/
theorem mem_mainPositions {devices : List DeviceTimes} {m : Nat} :
    m ∈ mainPositions devices ↔ ∃ d, devices[m]? = some d ∧ d.main = true := by
  unfold mainPositions
  simp only [List.mem_filterMap, Option.ite_none_right_eq_some, Option.some.injEq]
  constructor
  · rintro ⟨⟨d, i⟩, hmem, hmain, rfl⟩
    exact ⟨d, List.mem_zipIdx_iff_getElem?.1 hmem, hmain⟩
  · rintro ⟨d, hd, hmain⟩
    exact ⟨(d, m), List.mem_zipIdx_iff_getElem?.2 hd, hmain, rfl⟩

/-- With exactly one main sensor, its position is the only main position. -/
theorem mainPositions_eq_singleton {devices : List DeviceTimes} {m : Nat} {main : DeviceTimes}
    (hm : devices[m]? = some main) (hmain : main.main = true)
    (hone : devices.countP (·.main) = 1) : mainPositions devices = [m] := by
  obtain ⟨x, hx⟩ := List.length_eq_one_iff.1 ((length_mainPositions devices).trans hone)
  have hmem : m ∈ mainPositions devices := mem_mainPositions.2 ⟨main, hm, hmain⟩
  rw [hx, List.mem_singleton] at hmem
  rw [hx, hmem]

/-! ## Every sensor's part -/

/-- Every sensor's part of a plan against `reference`, the main sensor at `m`. -/
def planParts (devices : List DeviceTimes) (reference : List UInt64) (tol : UInt64) (m : Nat) :
    List DevicePlan :=
  devices.zipIdx.map fun (d, i) => planDevice reference tol (i == m) d

theorem getElem?_planParts (devices : List DeviceTimes) (reference : List UInt64) (tol : UInt64)
    (m k : Nat) :
    (planParts devices reference tol m)[k]? = devices[k]?.map (planDevice reference tol (k == m)) := by
  simp [planParts, List.getElem?_zipIdx, Option.map_map, Function.comp_def]

@[simp] theorem length_planParts (devices : List DeviceTimes) (reference : List UInt64) (tol : UInt64)
    (m : Nat) : (planParts devices reference tol m).length = devices.length := by
  simp [planParts]

/-- Position `k` holds the first sensor, in input order, whose part matches no instant. -/
def FirstUnmatched (devices : List DeviceTimes) (reference : List UInt64) (tol : UInt64)
    (m k : Nat) : Prop :=
  (∃ d, devices[k]? = some d ∧ (planDevice reference tol (k == m) d).matched = 0) ∧
    ∀ k' < k, ∀ d, devices[k']? = some d → (planDevice reference tol (k' == m) d).matched ≠ 0

section Parts

variable {devices : List DeviceTimes} {reference : List UInt64} {tol : UInt64} {m : Nat}

/-- The part the search for an unmatched sensor finds is the first unmatched sensor's. -/
theorem firstUnmatched_of_find? {p : DevicePlan}
    (h : (planParts devices reference tol m).find? (·.matched == 0) = some p) :
    ∃ k d, FirstUnmatched devices reference tol m k ∧ devices[k]? = some d ∧
      p = planDevice reference tol (k == m) d := by
  obtain ⟨hzero, k, hk, hget, hbefore⟩ := List.find?_eq_some_iff_getElem.1 h
  have hk' : k < devices.length := by simpa using hk
  have hpart : (planParts devices reference tol m)[k]? = some p := by
    rw [List.getElem?_eq_getElem hk, hget]
  rw [getElem?_planParts, List.getElem?_eq_getElem hk', Option.map_some, Option.some.injEq] at hpart
  refine ⟨k, devices[k], ⟨⟨devices[k], List.getElem?_eq_getElem hk', ?_⟩, fun k' hk'k d hd => ?_⟩,
    List.getElem?_eq_getElem hk', hpart.symm⟩
  · simpa [← hpart] using hzero
  · have hlt : k' < (planParts devices reference tol m).length := by
      have := (List.getElem?_eq_some_iff.1 hd).1
      simpa using this
    have hnot := hbefore k' hk'k
    have hpart' : (planParts devices reference tol m)[k'] = planDevice reference tol (k' == m) d := by
      have := getElem?_planParts devices reference tol m k'
      rw [List.getElem?_eq_getElem hlt, hd, Option.map_some] at this
      exact Option.some.inj this
    rw [hpart'] at hnot
    simpa using hnot

/-- The first unmatched sensor's part is the one the search finds. -/
theorem find?_of_firstUnmatched {k : Nat} {d : DeviceTimes}
    (h : FirstUnmatched devices reference tol m k) (hd : devices[k]? = some d) :
    (planParts devices reference tol m).find? (·.matched == 0) =
      some (planDevice reference tol (k == m) d) := by
  obtain ⟨⟨d', hd', hzero⟩, hbefore⟩ := h
  rw [hd] at hd'
  cases hd'
  have hkd : k < devices.length := (List.getElem?_eq_some_iff.1 hd).1
  have hk : k < (planParts devices reference tol m).length := by simpa using hkd
  refine List.find?_eq_some_iff_getElem.2 ⟨by simpa using hzero, k, hk, ?_, fun j hj => ?_⟩
  · rw [List.getElem_eq_iff, getElem?_planParts, hd, Option.map_some]
  · have hjd : j < devices.length := by omega
    have hjp : j < (planParts devices reference tol m).length := by simpa using hjd
    have hpart : (planParts devices reference tol m)[j] =
        planDevice reference tol (j == m) devices[j] := by
      rw [List.getElem_eq_iff, getElem?_planParts, List.getElem?_eq_getElem hjd, Option.map_some]
    rw [hpart]
    simpa using hbefore j hj devices[j] (List.getElem?_eq_getElem hjd)

/-- No part matches nothing exactly when no sensor is the first unmatched one. -/
theorem find?_eq_none_iff :
    (planParts devices reference tol m).find? (·.matched == 0) = none ↔
      ∀ k, ¬ FirstUnmatched devices reference tol m k := by
  constructor
  · intro hnone k hk
    obtain ⟨d, hd, -⟩ := hk.1
    rw [find?_of_firstUnmatched hk hd] at hnone
    cases hnone
  · intro hno
    cases hfind : (planParts devices reference tol m).find? (·.matched == 0) with
    | none => rfl
    | some p =>
      obtain ⟨k, _, hk, _⟩ := firstUnmatched_of_find? hfind
      exact absurd hk (hno k)

end Parts

/-! ## What a built plan promises -/

/-- What a built plan promises of one sensor's part, against the reference instants and a
tolerance in whole microseconds. -/
structure DevicePlan.Fits (reference : List UInt64) (tol : UInt64) (d : DeviceTimes)
    (p : DevicePlan) : Prop where
  endpoint : p.endpoint = d.endpoint
  serial : p.serial = d.serial
  main : p.main = d.main
  /-- The part's stamps are the sensor's stamps less its delay, sorted. -/
  sorted : p.timestamps.Pairwise (· ≤ ·)
  perm : p.timestamps.Perm (d.list.timestamps.map d.lessDelay)
  length_mapping : p.mapping.length = reference.length
  matched : p.matched = p.mapping.reduceOption.length
  /-- The positions taken rise strictly. -/
  increasing : p.mapping.reduceOption.Pairwise (· < ·)
  /-- Each position taken holds a stamp within the tolerance of its instant. -/
  within : ∀ i j : Nat, p.mapping[i]? = some (some j) →
    ∃ t r : UInt64, p.timestamps[j]? = some t ∧ reference[i]? = some r ∧ gap t r ≤ tol

/-- A mapping counts its matches. -/
theorem countP_isSome_eq_length_reduceOption (l : List (Option Nat)) :
    l.countP Option.isSome = l.reduceOption.length := by
  rw [List.reduceOption, List.length_filterMap_eq_countP]
  rfl

/-- The main sensor's mapping: every instant to itself. -/
theorem within_identity {reference : List UInt64} {tol : UInt64} {i j : Nat}
    (h : ((List.range reference.length).map some)[i]? = some (some j)) :
    ∃ t r : UInt64, reference[j]? = some t ∧ reference[i]? = some r ∧ gap t r ≤ tol := by
  rw [List.getElem?_map] at h
  obtain ⟨hi, hj⟩ : i < reference.length ∧ i = j := by
    by_cases hi : i < reference.length
    · rw [List.getElem?_range hi] at h
      exact ⟨hi, by simpa using h⟩
    · rw [List.getElem?_eq_none (by simpa using hi)] at h
      cases h
  subst hj
  refine ⟨reference[i], reference[i], List.getElem?_eq_getElem hi, List.getElem?_eq_getElem hi, ?_⟩
  simp [gap]

/-- Every sensor's part fits the reference instants, which, for the main sensor's part, are its
own corrected stamps. -/
theorem planDevice_fits {reference : List UInt64} {tol : UInt64} {isMain : Bool} {d : DeviceTimes}
    (href : isMain = true → d.corrected.map (·.1) = reference) :
    (planDevice reference tol isMain d).Fits reference tol d := by
  obtain ⟨hsorted, hperm⟩ := d.corrected_stamps
  refine ⟨rfl, rfl, rfl, hsorted, hperm, ?_, countP_isSome_eq_length_reduceOption _, ?_, ?_⟩
  · cases isMain with
    | true =>
      simp only [planDevice, if_true, List.length_map, List.length_range]
      rw [← href rfl, List.length_map]
    | false => simpa [planDevice] using length_matchTimes reference _ tol
  · cases isMain with
    | true =>
      have hrange : ((List.range d.corrected.length).map some).reduceOption =
          List.range d.corrected.length := by
        simp [List.reduceOption, List.filterMap_map]
      simp only [planDevice, if_true, hrange]
      exact List.pairwise_lt_range
    | false => exact (matchTimes_eq_reference reference _ tol hsorted).2.2.1
  · intro i j hij
    cases isMain with
    | true =>
      have hlen : d.corrected.length = reference.length := by
        rw [← href rfl, List.length_map]
      simp only [planDevice, if_true] at hij ⊢
      rw [hlen] at hij
      rw [href rfl]
      exact within_identity hij
    | false =>
      obtain ⟨r, c, hr, hc, hgap⟩ := (matchTimes_eq_reference reference _ tol hsorted).2.2.2 i j hij
      exact ⟨c, r, hc, hr, hgap⟩

/-- What a built plan promises, the main sensor `main` being at `m`. -/
structure Plan.Fits (devices : List DeviceTimes) (tolerance : Duration) (main : DeviceTimes) (m : Nat)
    (plan : Plan) : Prop where
  tolerance_eq : plan.tolerance = tolerance
  /-- The reference instants are the main sensor's stamps less its delay, sorted. -/
  sorted : plan.reference.Pairwise (· ≤ ·)
  perm : plan.reference.Perm (main.list.timestamps.map main.lessDelay)
  length : plan.devices.length = devices.length
  /-- Every sensor's part fits, with at least one match. -/
  parts : ∀ (k : Nat) (d : DeviceTimes) (p : DevicePlan), devices[k]? = some d →
    plan.devices[k]? = some p →
    p.Fits plan.reference tolerance.wholeMicros.toUInt64 d ∧ 1 ≤ p.matched
  /-- The main sensor's part matches every instant to itself. -/
  identity : ∃ p, plan.devices[m]? = some p ∧
    p.mapping = (List.range plan.reference.length).map some
  /-- The holes are the instants at which some part has none. -/
  holes : plan.holes = (List.range plan.reference.length).countP fun i =>
    decide (∃ p ∈ plan.devices, p.mapping[i]? = some none)

/-- Counting the instants at which some part of equal length has a hole. -/
theorem holes_eq_countP (plan : Plan)
    (hlen : ∀ p ∈ plan.devices, p.mapping.length = plan.reference.length) :
    plan.holes = (List.range plan.reference.length).countP fun i =>
      decide (∃ p ∈ plan.devices, p.mapping[i]? = some none) := by
  unfold Plan.holes
  refine List.countP_congr fun i hi => ?_
  have hi' : i < plan.reference.length := List.mem_range.1 hi
  simp only [List.any_eq_true, decide_eq_true_eq]
  constructor
  · rintro ⟨p, hp, hnone⟩
    refine ⟨p, hp, ?_⟩
    rw [List.getD_eq_getElem?_getD, List.getElem?_eq_getElem (by rw [hlen p hp]; exact hi')] at hnone
    rw [List.getElem?_eq_getElem (by rw [hlen p hp]; exact hi')]
    simpa using hnone
  · rintro ⟨p, hp, hnone⟩
    refine ⟨p, hp, ?_⟩
    rw [List.getD_eq_getElem?_getD, hnone]
    rfl

/-! ## Building a plan -/

section Build

variable {devices : List DeviceTimes} {m : Nat} {main : DeviceTimes}

/-- A plan with one main sensor, at `m`: refused when it stored nothing, else built unless
some part matches nothing. -/
theorem buildPlan_single (hm : devices[m]? = some main) (hone : mainPositions devices = [m])
    (tolerance : Duration) :
    buildPlan devices tolerance =
      if main.list.timestamps = [] then
        .error ⟨.noMatch, main.endpoint, some (.plain "main device stored no frames")⟩
      else
        match (planParts devices (main.corrected.map (·.1)) tolerance.wholeMicros.toUInt64 m).find?
            (·.matched == 0) with
        | some p => .error ⟨.noMatch, p.endpoint, none⟩
        | none => .ok ⟨tolerance, main.corrected.map (·.1),
            planParts devices (main.corrected.map (·.1)) tolerance.wholeMicros.toUInt64 m⟩ := by
  have hmain : devices.getD m default = main := by
    rw [List.getD_eq_getElem?_getD, hm, Option.getD_some]
  have hempty : (main.corrected.map (·.1)).isEmpty = true ↔ main.list.timestamps = [] := by
    rw [List.isEmpty_iff, ← List.length_eq_zero_iff, ← List.length_eq_zero_iff, List.length_map,
      DeviceTimes.length_corrected]
  simp only [buildPlan, hone, hmain]
  by_cases h : main.list.timestamps = []
  · rw [if_pos (hempty.2 h), if_pos h]
  · rw [if_neg (mt hempty.1 h), if_neg h]
    rfl

/-- A built plan, with its one main sensor at `m`, fits. -/
theorem fits_of_buildPlan (hm : devices[m]? = some main) (hone : mainPositions devices = [m])
    {tolerance : Duration} {plan : Plan} (h : buildPlan devices tolerance = .ok plan) :
    plan.Fits devices tolerance main m := by
  rw [buildPlan_single hm hone] at h
  split at h
  · cases h
  · split at h
    · cases h
    · rename_i hnone
      cases h
      have hall := List.find?_eq_none.1 hnone
      -- the part at each position is that sensor's, and the main sensor's own stamps are the
      -- reference
      have hpart : ∀ k d p, devices[k]? = some d →
          (planParts devices (main.corrected.map (·.1)) tolerance.wholeMicros.toUInt64 m)[k]? =
            some p → p = planDevice (main.corrected.map (·.1)) tolerance.wholeMicros.toUInt64 (k == m) d := by
        intro k d p hd hp
        rw [getElem?_planParts, hd, Option.map_some] at hp
        exact (Option.some.inj hp).symm
      have hfits : ∀ k d, devices[k]? = some d →
          (planDevice (main.corrected.map (·.1)) tolerance.wholeMicros.toUInt64 (k == m) d).Fits
            (main.corrected.map (·.1)) tolerance.wholeMicros.toUInt64 d := by
        intro k d hd
        refine planDevice_fits fun hkm => ?_
        rw [beq_iff_eq.1 hkm, hm] at hd
        cases hd
        rfl
      obtain ⟨hsorted, hperm⟩ := main.corrected_stamps
      refine ⟨rfl, hsorted, hperm, length_planParts _ _ _ _, fun k d p hd hp => ?_, ?_,
        holes_eq_countP _ fun p hp => ?_⟩
      · rw [hpart k d p hd hp]
        refine ⟨hfits k d hd, Nat.pos_of_ne_zero fun hzero => ?_⟩
        exact hall _ (List.mem_of_getElem? (hpart k d p hd hp ▸ hp)) (by simpa using hzero)
      · refine ⟨planDevice (main.corrected.map (·.1)) tolerance.wholeMicros.toUInt64 true main, ?_, ?_⟩
        · rw [getElem?_planParts, hm, Option.map_some, beq_self_eq_true]
        · simp [planDevice]
      · obtain ⟨k, hk⟩ := List.getElem_of_mem hp
        have hk' : k < devices.length := by simpa using hk.1
        have hpk := hpart k devices[k] p (List.getElem?_eq_getElem hk')
          (by rw [List.getElem?_eq_getElem hk.1, hk.2])
        rw [hpk]
        exact (hfits k devices[k] (List.getElem?_eq_getElem hk')).length_mapping

end Build

/-- Building a plan: it is refused with stage "no main device" exactly when the sensors do not
hold exactly one main sensor. With one, `main` at position `m`, it is refused with stage "no
matching timestamps" exactly when the main sensor stored nothing, then on the main sensor,
or some sensor's part matches no instant, then on the first such sensor in input order;
otherwise it is built, and what is built fits: sorted delay-corrected reference instants,
the main sensor's part the identity, and every part with one entry per instant, at least
one match, strictly rising positions into its own corrected, sorted stamps within the
tolerance in whole microseconds, and the holes the instants at which some part has none. -/
theorem buildPlan_outcome (devices : List DeviceTimes) (tolerance : Duration) :
    ((∃ e, buildPlan devices tolerance = .error e ∧ e.stage = .noMain) ↔
      devices.countP (·.main) ≠ 1) ∧
    ∀ m main, devices[m]? = some main → main.main = true → devices.countP (·.main) = 1 →
      ((∃ e, buildPlan devices tolerance = .error e ∧ e.stage = .noMatch) ↔
        main.list.timestamps = [] ∨
          ∃ k, FirstUnmatched devices (main.corrected.map (·.1)) tolerance.wholeMicros.toUInt64 m k) ∧
      (main.list.timestamps = [] → buildPlan devices tolerance =
        .error ⟨.noMatch, main.endpoint, some (.plain "main device stored no frames")⟩) ∧
      (∀ k d, main.list.timestamps ≠ [] →
        FirstUnmatched devices (main.corrected.map (·.1)) tolerance.wholeMicros.toUInt64 m k →
        devices[k]? = some d → buildPlan devices tolerance = .error ⟨.noMatch, d.endpoint, none⟩) ∧
      ((∃ plan, buildPlan devices tolerance = .ok plan) ↔ main.list.timestamps ≠ [] ∧
        ∀ k, ¬ FirstUnmatched devices (main.corrected.map (·.1)) tolerance.wholeMicros.toUInt64 m k) ∧
      (∀ plan, buildPlan devices tolerance = .ok plan → plan.Fits devices tolerance main m) := by
  refine ⟨?_, fun m main hm hmain hone => ?_⟩
  · -- the main positions decide it: none, or more than one, is refused at once
    rw [← length_mainPositions]
    unfold buildPlan
    match hpos : mainPositions devices with
    | [] => simp
    | [m] =>
      simp only [List.length_singleton, ne_eq, not_true_eq_false, iff_false, not_exists, not_and]
      intro e he
      split at he
      · cases he
        simp
      · split at he
        · cases he
          simp
        · cases he
    | _ :: _ :: _ => simp
  · have hsingle := mainPositions_eq_singleton hm hmain hone
    have hbuild := buildPlan_single hm hsingle tolerance
    refine ⟨?_, fun hempty => by rw [hbuild, if_pos hempty], fun k d hne hk hd => ?_, ?_,
      fun plan h => fits_of_buildPlan hm hsingle h⟩
    · rw [hbuild]
      by_cases hempty : main.list.timestamps = []
      · simp [hempty]
      · simp only [hempty, if_false, false_or]
        cases hfind : (planParts devices (main.corrected.map (·.1)) tolerance.wholeMicros.toUInt64
            m).find? (·.matched == 0) with
        | none => simpa using find?_eq_none_iff.1 hfind
        | some p =>
          obtain ⟨k, _, hk, _⟩ := firstUnmatched_of_find? hfind
          simpa using ⟨k, hk⟩
    · rw [hbuild, if_neg hne, find?_of_firstUnmatched hk hd]
      rfl
    · rw [hbuild]
      by_cases hempty : main.list.timestamps = []
      · simp [hempty]
      · simp only [hempty, if_false, ne_eq, not_false_eq_true, true_and]
        cases hfind : (planParts devices (main.corrected.map (·.1)) tolerance.wholeMicros.toUInt64
            m).find? (·.matched == 0) with
        | none => simpa using find?_eq_none_iff.1 hfind
        | some p =>
          obtain ⟨k, _, hk, _⟩ := firstUnmatched_of_find? hfind
          simpa using ⟨k, hk⟩

/-- Three plans at a tolerance of 200 µs: a main sensor that stored nothing fails the plan on
itself; a sensor whose stamps lie within 100 µs of the main sensor's builds a plan that fits;
and a third sensor whose only stamp is far from both instants fails the plan on itself. -/
theorem buildPlan_on_silent_nearby_and_far_sensors :
    let silent : DeviceTimes := ⟨"main", "A", true, ⟨0⟩, ⟨[], []⟩⟩
    let main : DeviceTimes := ⟨"main", "A", true, ⟨0⟩, ⟨[1000, 3000], []⟩⟩
    let near : DeviceTimes := ⟨"sub", "B", false, ⟨0⟩, ⟨[2950, 1100], []⟩⟩
    let far : DeviceTimes := ⟨"far", "C", false, ⟨0⟩, ⟨[900000], []⟩⟩
    buildPlan [silent, near] ⟨200000⟩ =
        .error ⟨.noMatch, "main", some (.plain "main device stored no frames")⟩ ∧
      (∃ plan, buildPlan [main, near] ⟨200000⟩ = .ok plan ∧
        plan.Fits [main, near] ⟨200000⟩ main 0) ∧
      buildPlan [main, near, far] ⟨200000⟩ = .error ⟨.noMatch, "far", none⟩ := by
  intro silent main near far
  have hsilent := (buildPlan_outcome [silent, near] ⟨200000⟩).2 0 silent rfl rfl (by decide)
  have hpair := (buildPlan_outcome [main, near] ⟨200000⟩).2 0 main rfl rfl (by decide)
  have htriple := (buildPlan_outcome [main, near, far] ⟨200000⟩).2 0 main rfl rfl (by decide)
  -- the stamps are sorted through the equations of the merge sort, which does not evaluate
  have hnear : (planDevice (main.corrected.map (·.1)) (Duration.wholeMicros ⟨200000⟩).toUInt64
      false near).matched = 2 := by
    simp [planDevice, DeviceTimes.corrected, List.mergeSort, List.cons_merge_cons, main, near]
    decide
  have hfar : (planDevice (main.corrected.map (·.1)) (Duration.wholeMicros ⟨200000⟩).toUInt64
      false far).matched = 0 := by
    simp [planDevice, DeviceTimes.corrected, List.mergeSort, List.cons_merge_cons, main, far]
    decide
  have hself : (planDevice (main.corrected.map (·.1)) (Duration.wholeMicros ⟨200000⟩).toUInt64
      true main).matched = 2 := by
    simp [planDevice, DeviceTimes.corrected, List.mergeSort, List.cons_merge_cons, main]
    decide
  -- both sensors match an instant, so no sensor is the first unmatched one
  have hmatched : ∀ k, ¬ FirstUnmatched [main, near] (main.corrected.map (·.1))
      (Duration.wholeMicros ⟨200000⟩).toUInt64 0 k := by
    rintro k ⟨⟨d, hd, hzero⟩, -⟩
    match k, hd with
    | 0, hd =>
      cases hd
      exact absurd (hself.symm.trans hzero) (by decide)
    | 1, hd =>
      cases hd
      exact absurd (hnear.symm.trans hzero) (by decide)
  have hfirst : FirstUnmatched [main, near, far] (main.corrected.map (·.1))
      (Duration.wholeMicros ⟨200000⟩).toUInt64 0 2 := by
    refine ⟨⟨far, rfl, hfar⟩, fun k hk d hd => ?_⟩
    match k, hk, hd with
    | 0, _, hd =>
      cases hd
      exact hself ▸ (by decide)
    | 1, _, hd =>
      cases hd
      exact hnear ▸ (by decide)
  obtain ⟨plan, hplan⟩ := hpair.2.2.2.1.mpr ⟨by decide, hmatched⟩
  exact ⟨hsilent.2.1 rfl, ⟨plan, hplan, hpair.2.2.2.2 plan hplan⟩,
    htriple.2.2.1 2 far (by decide) hfirst rfl⟩

end DepthRig.Sync
