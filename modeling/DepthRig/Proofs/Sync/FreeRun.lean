import DepthRig.Proofs.Decimal.Rounding
import DepthRig.Proofs.Sync.PostSync
import DepthRig.Sync.Reconciler

/-!
# A free-running fleet lines up frame for frame

Each sensor delays its capture by 160 µs per step of its sync offset and stamps its frames
with that delay; the reconciler takes the same delay off before it matches. For a fleet that
started free-running together on one frame period (`FreeRunsOn`), every member's corrected
stamps are a prefix of one sequence, so the plan pairs frames position by position with zero
residuals.
-/

namespace DepthRig

/-! ## A double less itself -/

namespace BinaryFormat

variable (f : BinaryFormat)

/-- Flipping the sign bit keeps a pattern's stored fraction. -/
theorem fraction_xor_signBit (bits : Nat) : f.fraction (bits ^^^ f.signBit) = f.fraction bits := by
  have hlow : f.signBit % 2 ^ f.fractionBits = 0 := by
    rw [signBit_eq]; exact Nat.mul_mod_right _ _
  simp only [fraction, Nat.pow_eq, Nat.xor_mod_two_pow, hlow, Nat.xor_zero]

/-- Flipping the sign bit keeps a pattern's biased exponent. -/
theorem biased_xor_signBit (bits : Nat) : f.biased (bits ^^^ f.signBit) = f.biased bits := by
  have hshift : f.signBit / 2 ^ f.fractionBits % 2 ^ f.exponentBits = 0 := by
    rw [signBit_eq, Nat.mul_div_cancel_left _ (Nat.two_pow_pos _), Nat.mod_self]
  simp only [biased, Nat.pow_eq, Nat.xor_div_two_pow, Nat.xor_mod_two_pow, hshift, Nat.xor_zero]

/-- Flipping the sign bit flips a pattern's sign. -/
theorem isNegative_xor_signBit (bits : Nat) :
    f.isNegative (bits ^^^ f.signBit) = !f.isNegative bits := by
  have hone : f.signBit / f.signBit = 1 := Nat.div_self (by rw [signBit_eq]; positivity)
  have hdiv : (bits ^^^ f.signBit) / f.signBit % 2 = (bits / f.signBit % 2) ^^^ 1 := by
    rw [signBit, Nat.pow_eq, Nat.xor_div_two_pow, ← Nat.pow_eq, ← signBit, hone,
      show (2 : Nat) = 2 ^ 1 from rfl, Nat.xor_mod_two_pow]
  unfold isNegative
  rw [hdiv]
  rcases Nat.mod_two_eq_zero_or_one (bits / f.signBit) with h | h <;> simp [h]

/-- Flipping the sign bit of a finite pattern negates its value. -/
theorem classify_xor_signBit {bits : Nat} {negative : Bool} {m : Nat} {e : Int}
    (h : f.classify bits = .finite negative m e) :
    f.classify (bits ^^^ f.signBit) = .finite (!negative) m e := by
  unfold classify at h ⊢
  rw [fraction_xor_signBit, biased_xor_signBit, isNegative_xor_signBit]
  dsimp only at h ⊢
  split_ifs at h ⊢ <;> cases h <;> rfl

/-- A finite pattern less itself is positive zero: the subtrahend's sign is flipped, and an
exact zero sum of addends of opposite signs is positive. -/
theorem subBits_self {bits : Nat} {negative : Bool} {m : Nat} {e : Int}
    (h : f.classify bits = .finite negative m e) : f.subBits bits bits = 0 := by
  have hflip := f.classify_xor_signBit h
  simp only [subBits, addBits, h, hflip]
  cases negative <;> simp

end BinaryFormat

namespace Double

/-- A whole number below `2 ^ 64` becomes a finite, non-negative double. -/
theorem classify_ofNat {t : Nat} (ht : t < 2 ^ 64) :
    ∃ m e, BinaryFormat.double.classify (Double.ofNat t).bits.toNat = .finite false m e := by
  rcases Nat.eq_zero_or_pos t with rfl | hpos
  · exact ⟨0, _, rfl⟩
  · have hbound : ((t : ℚ) / (1 : Nat)) < 2 ^ BinaryFormat.double.bias := by
      have hbias : BinaryFormat.double.bias = 1023 := rfl
      have ht' : (t : ℚ) < 2 ^ 64 := by exact_mod_cast ht
      rw [Nat.cast_one, div_one, hbias]
      exact ht'.trans (pow_lt_pow_right₀ (by norm_num) (by norm_num))
    obtain ⟨m, e, hc, hlt, -⟩ :=
      BinaryFormat.double.classify_roundRatio (by decide) false hpos Nat.one_pos hbound
    have hbits : (Double.ofNat t).bits.toNat = BinaryFormat.double.roundRatio false t 1 :=
      Nat.mod_eq_of_lt (hlt.trans_eq rfl)
    exact ⟨m, e, hbits ▸ hc⟩

/-- A 64-bit word taken as a double and less itself leaves positive zero. -/
theorem ofNat_sub_self (x : UInt64) : Double.ofNat x.toNat - Double.ofNat x.toNat = ⟨0⟩ := by
  obtain ⟨m, e, hc⟩ := classify_ofNat x.toNat_lt
  show Double.mk (BinaryFormat.double.subBits _ _).toUInt64 = ⟨0⟩
  rw [BinaryFormat.double.subBits_self hc]
  rfl

end Double

/-! ## A free run -/

namespace Simulator.Sensor

/-- Without jitter a free run only appends frames: frame `i` is stamped by `freeRunStamp` and
numbered after the frames stored before the run. -/
theorem foldl_freeRunTick (δ : UInt64) (s : Sensor) (hjit : s.setup.timestampJitter = 0) :
    ∀ k, (List.range k).foldl (freeRunTick δ) s = { s with stored := (s.stored ++
      (List.range k).map fun i => ⟨s.snapshot, s.freeRunStamp δ i, Int32.ofNat (s.stored.length + i)⟩) }
  | 0 => by simp
  | k + 1 => by
    rw [List.range_succ, List.foldl_append, foldl_freeRunTick δ s hjit k]
    simp [freeRunTick, hjit, store, snapshot, freeRunStamp]

/-- The timestamp list a free run from an empty store answers, without jitter: frame `i`
stamped by `freeRunStamp` and numbered `i`. -/
theorem timestampList_freeRun (s : Sensor) (hempty : s.stored = [])
    (hjit : s.setup.timestampJitter = 0) (k : Nat) :
    (s.freeRun k).timestampList =
      ⟨(List.range k).map (s.freeRunStamp s.freeRunDelay), (List.range k).map Int32.ofNat⟩ := by
  simp [freeRun, foldl_freeRunTick _ s hjit, timestampList, hempty]

end Simulator.Sensor

/-! ## The delay announced and the delay added -/

/-- A count of nanoseconds that fits a signed 64-bit word, taken in whole microseconds. -/
theorem Duration.toUInt64_wholeMicros {ns : Nat} (h : ns < 2 ^ 63) :
    (⟨Int64.ofNat ns⟩ : Duration).wholeMicros.toUInt64 = UInt64.ofNat (ns / 1000) := by
  have hdiv : Int64.ofNat ns / 1000 = Int64.ofNat (ns / 1000) :=
    (Int64.ofNat_div h (by decide)).symm
  simp only [Duration.wholeMicros, hdiv]
  exact Int64.toUInt64_ofNat'

namespace Sync

open Simulator

/-- The delay the reconciler takes off a sensor's stamps is 160 µs per offset step, the
delay the sensor adds when it starts a free run. -/
theorem Peer.delay_times (p : Peer) (list : TimestampList) :
    (p.times list).delay.wholeMicros.toUInt64 = UInt64.ofNat (p.config.syncOffset.toNat * 160) := by
  have hoff := p.config.syncOffset.toNat_lt
  rw [Peer.times, DeviceConfig.syncDelayNs, Duration.toUInt64_wholeMicros (by omega)]
  congr 1
  omega

/-- Taking a delay off a stamp that carries it, and did not wrap, gives the stamp back. -/
theorem DeviceTimes.lessDelay_add (d : DeviceTimes) {a : UInt64}
    (h : a.toNat + (d.delay.wholeMicros.toUInt64).toNat < 2 ^ 64) :
    d.lessDelay (a + d.delay.wholeMicros.toUInt64) = a := by
  have hle : d.delay.wholeMicros.toUInt64 ≤ a + d.delay.wholeMicros.toUInt64 := by
    rw [UInt64.le_iff_toNat_le, UInt64.toNat_add, Nat.mod_eq_of_lt h]
    omega
  rw [DeviceTimes.lessDelay, if_pos hle, UInt64.add_sub_cancel]

/-- A sensor whose corrected stamps already ascend along its list is left in its order. -/
theorem DeviceTimes.corrected_of_ascending {d : DeviceTimes}
    (hasc : ∀ i j, i < j → j < d.list.timestamps.length → d.stamp i ≤ d.stamp j) :
    d.corrected = (List.range d.list.timestamps.length).map
      fun i => (d.stamp i, d.list.frameNumber i) := by
  refine corrected_eq_map_sortOrder ⟨List.Perm.refl _, ?_⟩
  refine List.pairwise_lt_range.imp_of_mem fun {i j} _ hj hij => ?_
  rcases UInt64.lt_or_eq_of_le (hasc i j hij (List.mem_range.1 hj)) with hlt | heq
  · exact Or.inl hlt
  · exact Or.inr ⟨heq, hij⟩

/-- A member of a fleet free-running on the common frame period `P`: its link echoes the
sensor's configuration, and the sensor ran from an empty store, with no timestamp offset
and no jitter, `k` frames (at least the one stored at the start), ending before its
microsecond stamps could leave a signed 64-bit count. -/
structure FreeRunsOn (P : Nat) (p : Peer) (s : Sensor) (k : Nat) : Prop where
  echoed : p.config = s.config
  empty : s.stored = []
  period : s.setup.periodUs = P
  noOffset : s.setup.timestampOffset = 0
  noJitter : s.setup.timestampJitter = 0
  started : 0 < k
  unwrapped : k * P < 2 ^ 63

/-- The instants `0, P, 2P, …` of a run of `k` frames. -/
def periodStamps (P k : Nat) : List UInt64 := (List.range k).map fun i => UInt64.ofNat (i * P)

@[simp] theorem length_periodStamps (P k : Nat) : (periodStamps P k).length = k := by
  simp [periodStamps]

variable {P k : Nat} {p : Peer} {s : Sensor}

/-- An instant within a run is its own count of microseconds. -/
theorem FreeRunsOn.toNat_stamp (h : FreeRunsOn P p s k) {i : Nat} (hi : i ≤ k) :
    (UInt64.ofNat (i * P)).toNat = i * P := by
  have hiP : i * P < 2 ^ 63 := lt_of_le_of_lt (Nat.mul_le_mul_right P hi) h.unwrapped
  rw [UInt64.toNat_ofNat', Nat.mod_eq_of_lt (by omega)]

/-- What the reconciler reads from a free-running member. -/
theorem FreeRunsOn.list_times (h : FreeRunsOn P p s k) :
    (p.times (s.freeRun k).timestampList).list =
      ⟨(List.range k).map (s.freeRunStamp s.freeRunDelay), (List.range k).map Int32.ofNat⟩ :=
  Sensor.timestampList_freeRun s h.empty h.noJitter k

/-- Frame `i` of a free run, less the delay its link announces, sits exactly `i` frame
periods after the start. -/
theorem FreeRunsOn.stamp (h : FreeRunsOn P p s k) {i : Nat} (hi : i < k) :
    (p.times (s.freeRun k).timestampList).stamp i = UInt64.ofNat (i * P) := by
  have hδ := p.delay_times (s.freeRun k).timestampList
  have hoff := p.config.syncOffset.toNat_lt
  have hts : (p.times (s.freeRun k).timestampList).list.timestamps.getD i 0 =
      UInt64.ofNat (i * P) + (p.times (s.freeRun k).timestampList).delay.wholeMicros.toUInt64 := by
    rw [h.list_times, hδ]
    simp [hi, Sensor.freeRunStamp, Sensor.freeRunDelay, h.noOffset, h.period, h.echoed,
      UInt64.ofNat_mul]
  rw [DeviceTimes.stamp, hts, DeviceTimes.lessDelay_add]
  -- the stamp is below `2 ^ 63` and the delay below `2 ^ 16`
  rw [hδ, h.toNat_stamp hi.le, UInt64.toNat_ofNat', Nat.mod_eq_of_lt (by omega)]
  have hiP : i * P < 2 ^ 63 := lt_of_le_of_lt (Nat.mul_le_mul_right P hi.le) h.unwrapped
  omega

/-- A free run's corrected stamps are its instants, in order. -/
theorem FreeRunsOn.corrected (h : FreeRunsOn P p s k) :
    (p.times (s.freeRun k).timestampList).corrected.map (·.1) = periodStamps P k := by
  have hlen : (p.times (s.freeRun k).timestampList).list.timestamps.length = k := by
    simp [h.list_times]
  rw [DeviceTimes.corrected_of_ascending, hlen, List.map_map, periodStamps]
  · -- the composed projection is opened by `rw`: left to the kernel it unfolds both stamps
    refine List.map_congr_left fun i hi => ?_
    rw [Function.comp_apply]
    exact h.stamp (List.mem_range.1 hi)
  · intro i j hij hj
    rw [hlen] at hj
    rw [h.stamp (hij.trans hj), h.stamp hj, UInt64.le_iff_toNat_le, h.toNat_stamp hj.le,
      h.toNat_stamp (hij.trans hj).le]
    exact Nat.mul_le_mul_right P hij.le

/-! ## Matching a prefix of the same instants -/

/-- A stamp is at distance zero from itself. -/
@[simp] theorem gap_self (a : UInt64) : gap a a = 0 := by
  simp [gap]

/-- Once the scan holds a candidate at distance zero it keeps it. -/
theorem nearest_of_exact (ref : UInt64) (j : Nat) :
    ∀ cs : List (UInt64 × Nat), nearest ref cs (some (j, 0)) = some (j, 0)
  | [] => rfl
  | (c, i) :: rest => by
    -- nothing is nearer than zero, so the scan either stops or goes on holding `j`
    rw [nearest_cons_some, if_neg UInt64.not_lt_zero]
    split_ifs
    · rfl
    · rfl
    · exact nearest_of_exact ref j rest

/-- Instants matched against candidates, numbered from `n`, that agree with them on their
common length: each instant with a candidate at its own position takes it, and the instants
past the last candidate are holes. -/
theorem matchFrom_agree (tol : UInt64) :
    ∀ (r c : List UInt64) (n : Nat), r.take c.length = c.take r.length →
      matchFrom tol r (c.zipIdx n) =
        (List.range' n (min r.length c.length)).map some ++ List.replicate (r.length - c.length) none
  | [], c, n, _ => by simp [matchFrom]
  | x :: rs, [], n, _ => by
    have ih := matchFrom_agree tol rs [] n (by simp)
    simp only [List.zipIdx_nil] at ih
    simp [matchFrom, nearest, ih, List.replicate_succ]
  | x :: rs, y :: cs, n, h => by
    obtain ⟨rfl, hrest⟩ : x = y ∧ rs.take cs.length = cs.take rs.length := by simpa using h
    have hfound : nearest x ((x :: cs).zipIdx n) none = some (n, 0) := by
      rw [List.zipIdx_cons, nearest_cons_none, gap_self, if_neg (UInt64.lt_irrefl x)]
      exact nearest_of_exact x n _
    have hdrop : ((x :: cs).zipIdx n).dropWhile (·.2 ≤ n) = cs.zipIdx (n + 1) := by
      rw [dropWhile_zipIdx n (x :: cs) n (by omega)]
      simp
    simp only [matchFrom, hfound, UInt64.zero_le, if_true, hdrop,
      matchFrom_agree tol rs cs (n + 1) hrest, List.length_cons, Nat.add_min_add_right,
      List.range'_succ, Nat.add_sub_add_right, List.map_cons, List.cons_append]

/-- Instants matched against candidates that agree with them on their common length. -/
theorem matchTimes_of_agree {r c : List UInt64} (tol : UInt64)
    (h : r.take c.length = c.take r.length) :
    matchTimes r c tol =
      (List.range (min r.length c.length)).map some ++ List.replicate (r.length - c.length) none := by
  rw [matchTimes, matchFrom_agree tol r c 0 h, List.range_eq_range']

/-- Two runs on one period agree on the instants they share. -/
theorem periodStamps_agree (P a b : Nat) :
    (periodStamps P a).take (periodStamps P b).length =
      (periodStamps P b).take (periodStamps P a).length := by
  rw [length_periodStamps, length_periodStamps]
  simp only [periodStamps, ← List.map_take, List.take_range, Nat.min_comm]

theorem getD_periodStamps {P k i : Nat} (hi : i < k) :
    (periodStamps P k).getD i 0 = UInt64.ofNat (i * P) := by
  simp [periodStamps, hi]

/-- Where a mapping that matches each instant to its own position up to `m` matches. -/
theorem getElem?_identity_append {m r i src : Nat}
    (h : ((List.range m).map some ++ List.replicate r none)[i]? = some (some src)) :
    i < m ∧ src = i := by
  by_cases hi : i < m
  · rw [List.getElem?_append_left (by simpa using hi)] at h
    simp only [List.getElem?_map, List.getElem?_range hi, Option.map_some, Option.some.injEq] at h
    exact ⟨hi, h.symm⟩
  · rw [List.getElem?_append_right (by simpa using hi)] at h
    simp [List.getElem?_replicate] at h

/-! ## The plan of a free-running fleet -/

section Part

variable (h : FreeRunsOn P p s k) {km : Nat} (tol : UInt64) {isMain : Bool}
  (hmain : isMain = true → k = km)
include h hmain

/-- A free-running member's part against the instants of a run of `km` frames on the same
period: instant `i` takes the member's frame `i` while it has one, and is a hole after. -/
theorem FreeRunsOn.mapping_planDevice :
    (planDevice (periodStamps P km) tol isMain (p.times (s.freeRun k).timestampList)).mapping =
      (List.range (min km k)).map some ++ List.replicate (km - k) none := by
  cases isMain with
  | true =>
    obtain rfl := hmain rfl
    simp [planDevice, h.list_times]
  | false =>
    simp only [planDevice, Bool.false_eq_true, if_false, h.corrected]
    rw [matchTimes_of_agree tol (periodStamps_agree P km k), length_periodStamps,
      length_periodStamps]

/-- Every residual of a free-running member's part is zero. -/
theorem FreeRunsOn.residuals_planDevice :
    ∀ r ∈ (planDevice (periodStamps P km) tol isMain
      (p.times (s.freeRun k).timestampList)).residuals (periodStamps P km), r.2 = ⟨0⟩ := by
  intro r hr
  obtain ⟨⟨i, src⟩, hpair, rfl⟩ := List.mem_map.1 hr
  have hmap := DevicePlan.mem_pairs.1 hpair
  rw [h.mapping_planDevice tol hmain] at hmap
  obtain ⟨hi, hsrc⟩ := getElem?_identity_append hmap
  dsimp only at hi hsrc ⊢
  subst src
  -- the member's own stamp at `i` and the reference instant `i` are one word
  have hown : (planDevice (periodStamps P km) tol isMain
      (p.times (s.freeRun k).timestampList)).timestamps.getD i 0 = UInt64.ofNat (i * P) := by
    simp only [planDevice, h.corrected]
    exact getD_periodStamps (by omega)
  rw [hown, getD_periodStamps (by omega)]
  exact Double.ofNat_sub_self _

/-- A free-running member's part matches at least its first instant. -/
theorem FreeRunsOn.matched_planDevice (hkm : 0 < km) :
    (planDevice (periodStamps P km) tol isMain
      (p.times (s.freeRun k).timestampList)).matched ≠ 0 := by
  have hmin : 0 < min km k := by have := h.started; omega
  rw [DevicePlan.matched, h.mapping_planDevice tol hmain]
  simp [List.countP_append, List.countP_map, Function.comp_def]
  omega

end Part

section Fleet

variable {fleet : List (Peer × Sensor × Nat)} (hrun : ∀ x ∈ fleet, FreeRunsOn P x.1 x.2.1 x.2.2)
  {m : Nat} {xm : Peer × Sensor × Nat} (hm : fleet[m]? = some xm) (tol : UInt64)
include hrun hm

/-- The part of the member at `j` of a free-running fleet, against the instants of the
member at `m` taken as the main one. -/
theorem planDevice_freeRun_member {j : Nat} {x : Peer × Sensor × Nat} (hj : fleet[j]? = some x) :
    let part := planDevice (periodStamps P xm.2.2) tol (j == m)
      (x.1.times (x.2.1.freeRun x.2.2).timestampList)
    part.mapping = (List.range (min xm.2.2 x.2.2)).map some ++
        List.replicate (xm.2.2 - x.2.2) none ∧
      (∀ r ∈ part.residuals (periodStamps P xm.2.2), r.2 = ⟨0⟩) ∧ part.matched ≠ 0 := by
  have hx := hrun x (List.mem_of_getElem? hj)
  -- the member taken as the main one is the member at `m`
  have hk : (j == m) = true → x.2.2 = xm.2.2 := by
    intro hjm
    rw [beq_iff_eq.1 hjm, hm] at hj
    cases hj
    rfl
  exact ⟨hx.mapping_planDevice _ hk, hx.residuals_planDevice _ hk,
    hx.matched_planDevice _ hk (hrun xm (List.mem_of_getElem? hm)).started⟩

/-- No member of a free-running fleet leaves its part without a match. -/
theorem find?_planParts_freeRun :
    (planParts (fleet.map fun x => x.1.times (x.2.1.freeRun x.2.2).timestampList)
      (periodStamps P xm.2.2) tol m).find? (·.matched == 0) = none := by
  refine List.find?_eq_none.2 fun part hmem => ?_
  obtain ⟨j, hj⟩ := List.mem_iff_getElem?.1 hmem
  rw [getElem?_planParts, List.getElem?_map] at hj
  obtain ⟨d, hd, rfl⟩ := Option.map_eq_some_iff.1 hj
  obtain ⟨x, hx, rfl⟩ := Option.map_eq_some_iff.1 hd
  simpa using (planDevice_freeRun_member hrun hm tol hx).2.2

end Fleet

/-- The plan of a fleet that free-runs on a common frame period, with one main sensor. It is
built whatever the tolerance; its reference instants are the main sensor's frame periods;
at every member, instant `i` takes the member's own frame `i` while the member has one and
is a hole after; and every residual is zero. -/
theorem buildPlan_freeRun_aligns {P : Nat} (fleet : List (Peer × Sensor × Nat))
    (hrun : ∀ x ∈ fleet, FreeRunsOn P x.1 x.2.1 x.2.2)
    (hone : fleet.countP (fun x => x.1.config.softwareSync == .main) = 1)
    (tolerance : Duration) :
    ∃ plan, buildPlan (fleet.map fun x => x.1.times (x.2.1.freeRun x.2.2).timestampList)
        tolerance = .ok plan ∧
      (∀ x ∈ fleet, x.1.config.softwareSync = .main → plan.reference = periodStamps P x.2.2) ∧
      plan.devices.length = fleet.length ∧
      ∀ (j : Nat) (x : Peer × Sensor × Nat) (part : DevicePlan),
        fleet[j]? = some x → plan.devices[j]? = some part →
        part.mapping = (List.range (min plan.reference.length x.2.2)).map some ++
            List.replicate (plan.reference.length - x.2.2) none ∧
          ∀ r ∈ part.residuals plan.reference, r.2 = ⟨0⟩ := by
  set devices := fleet.map fun x => x.1.times (x.2.1.freeRun x.2.2).timestampList with hdevices
  have hget : ∀ (j : Nat) (x : Peer × Sensor × Nat), fleet[j]? = some x →
      devices[j]? = some (x.1.times (x.2.1.freeRun x.2.2).timestampList) := by
    intro j x hj
    simp [hdevices, hj]
  -- the one main member, at `m`
  obtain ⟨xm, hxm, hmainx⟩ : ∃ xm ∈ fleet, (xm.1.config.softwareSync == .main) = true :=
    List.countP_pos_iff.1 (by omega)
  obtain ⟨m, hm⟩ := List.mem_iff_getElem?.1 hxm
  have hpos : mainPositions devices = [m] :=
    mainPositions_eq_singleton (hget m xm hm) hmainx (by rw [hdevices, List.countP_map]; exact hone)
  have honly : ∀ (j : Nat) (x : Peer × Sensor × Nat), fleet[j]? = some x →
      x.1.config.softwareSync = .main → j = m := by
    intro j x hj hx
    have hmem : j ∈ mainPositions devices :=
      mem_mainPositions.2 ⟨_, hget j x hj, by
        show (x.1.config.softwareSync == SyncState.main) = true
        rw [hx]
        rfl⟩
    simpa [hpos] using hmem
  have hrunm := hrun xm hxm
  have hnonempty : ¬ (xm.1.times (xm.2.1.freeRun xm.2.2).timestampList).list.timestamps = [] := by
    simp [hrunm.list_times, List.range_eq_nil, hrunm.started.ne']
  rw [buildPlan_single (hget m xm hm) hpos, if_neg hnonempty, hrunm.corrected,
    find?_planParts_freeRun hrun hm]
  refine ⟨_, rfl, fun x hx hmain => ?_, by simp [hdevices], fun j x part hj hpartj => ?_⟩
  · obtain ⟨j, hj⟩ := List.mem_iff_getElem?.1 hx
    rw [honly j x hj hmain, hm] at hj
    cases hj
    rfl
  · rw [getElem?_planParts, hget j x hj, Option.map_some, Option.some.injEq] at hpartj
    subst hpartj
    simpa using (planDevice_freeRun_member hrun hm _ hj).imp_right And.left

/-- A main sensor at offset 0 that stored three frames and a subordinate at offset 1 that
stored two, free-running on a 1 ms period, with no tolerance at all: the subordinate's
third instant is a hole. -/
theorem buildPlan_freeRun_main_and_subordinate :
    let main : Sensor :=
      { setup := { framePeriodUs := 1000 }, points := [], rng := default
        config := { DeviceConfig.default with softwareSync := .main, syncOffset := 0 } }
    let sub : Sensor :=
      { setup := { framePeriodUs := 1000 }, points := [], rng := default
        config := { DeviceConfig.default with softwareSync := .subordinate, syncOffset := 1 } }
    let fleet : List (Peer × Sensor × Nat) :=
      [(⟨"main", "M", main.config⟩, main, 3), (⟨"sub", "S", sub.config⟩, sub, 2)]
    (∀ x ∈ fleet, FreeRunsOn 1000 x.1 x.2.1 x.2.2) ∧
      fleet.countP (fun x => x.1.config.softwareSync == .main) = 1 ∧
      ∃ plan, buildPlan (fleet.map fun x => x.1.times (x.2.1.freeRun x.2.2).timestampList)
          ⟨0⟩ = .ok plan ∧
        (∀ x ∈ fleet, x.1.config.softwareSync = .main → plan.reference = periodStamps 1000 x.2.2) ∧
        plan.devices.length = fleet.length ∧
        ∀ (j : Nat) (x : Peer × Sensor × Nat) (part : DevicePlan),
          fleet[j]? = some x → plan.devices[j]? = some part →
          part.mapping = (List.range (min plan.reference.length x.2.2)).map some ++
              List.replicate (plan.reference.length - x.2.2) none ∧
            ∀ r ∈ part.residuals plan.reference, r.2 = ⟨0⟩ := by
  intro main sub fleet
  have hrun : ∀ x ∈ fleet, FreeRunsOn 1000 x.1 x.2.1 x.2.2 := by
    intro x hx
    simp only [fleet, List.mem_cons, List.not_mem_nil, or_false] at hx
    rcases hx with rfl | rfl
    · exact ⟨rfl, rfl, rfl, rfl, rfl, by decide, by decide⟩
    · exact ⟨rfl, rfl, rfl, rfl, rfl, by decide, by decide⟩
  have hone : fleet.countP (fun x => x.1.config.softwareSync == .main) = 1 := by decide
  exact ⟨hrun, hone, buildPlan_freeRun_aligns fleet hrun hone ⟨0⟩⟩

end Sync

end DepthRig
