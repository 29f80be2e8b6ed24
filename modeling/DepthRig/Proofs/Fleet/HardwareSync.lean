import DepthRig.Proofs.Fleet.Reconfigure
import DepthRig.Proofs.Fleet.Tallies

/-!
# Setting hardware synchronization up

The check that opens `enableHwSync` reads the sync-jack layout off the links and either
refuses before anything is sent or orders the sensors main first, then the subordinates in
fleet order. Each is pushed the configuration for its place; only when every push succeeded
are the subordinates restarted, the main sensor last, and the flags set only when every
restart succeeded too.
-/

namespace DepthRig

theorem SyncState.beq_eq_decide (a b : SyncState) : (a == b) = decide (a = b) := by
  cases a; cases b
  rw [Bool.eq_iff_iff]
  simp only [BEq.beq, SyncState.mk.injEq, decide_eq_true_eq]
  show (_ == _) = true ↔ _
  simp

/-! ## The sync order -/

section Order

variable {α : Type} (linkOf : α → Link)

/-- Whether a sensor's link reports the main sync jack. -/
def reportsMain (x : α) : Bool := (linkOf x).config.hardwareSync == SyncState.main

/-- Whether a sensor's link reports a subordinate sync jack. -/
def reportsSubordinate (x : α) : Bool := (linkOf x).config.hardwareSync == SyncState.subordinate

@[simp] theorem reportsMain_iff {x : α} :
    reportsMain linkOf x = true ↔ (linkOf x).config.hardwareSync = SyncState.main := by
  simp [reportsMain, SyncState.beq_eq_decide]

@[simp] theorem reportsSubordinate_iff {x : α} :
    reportsSubordinate linkOf x = true ↔ (linkOf x).config.hardwareSync = SyncState.subordinate := by
  simp [reportsSubordinate, SyncState.beq_eq_decide]

theorem not_reportsSubordinate_of_reportsMain {x : α} (h : reportsMain linkOf x = true) :
    reportsSubordinate linkOf x = false := by
  rw [reportsMain_iff] at h
  rw [Bool.eq_false_iff, ne_eq, reportsSubordinate_iff, h]
  decide

/-- The scan of the sync order, on a valid layout: the main sensor, found before or in the
rest, then the subordinates passed and those in the rest, in order. -/
theorem orderForHardwareSync.go_ok :
    ∀ (xs : List α) (main : Option α) (subs : List α),
      (∀ x ∈ xs, reportsMain linkOf x = true ∨ reportsSubordinate linkOf x = true) →
      (main.toList ++ xs.filter (reportsMain linkOf)).length = 1 →
      orderForHardwareSync.go linkOf xs main subs =
        .ok (main.toList ++ xs.filter (reportsMain linkOf) ++ subs.reverse ++
          xs.filter (reportsSubordinate linkOf))
  | [], none, _, _, hone => by simp at hone
  | [], some m, subs, _, _ => by simp [orderForHardwareSync.go]
  | x :: rest, main, subs, hall, hone => by
    have hrest : ∀ y ∈ rest, reportsMain linkOf y = true ∨ reportsSubordinate linkOf y = true :=
      fun y hy => hall y (List.mem_cons_of_mem x hy)
    rcases hall x List.mem_cons_self with hmain | hsub
    · -- a main sensor: there was none before it, and it is the one
      have hnot := not_reportsSubordinate_of_reportsMain linkOf hmain
      cases main with
      | some m => simp [hmain] at hone
      | none =>
        have hx : (linkOf x).config.hardwareSync == SyncState.main := hmain
        simp only [orderForHardwareSync.go, hx, if_true]
        rw [orderForHardwareSync.go_ok rest (some x) subs hrest (by simpa [hmain] using hone)]
        simp [hmain, hnot]
    · -- a subordinate: passed on to the list of subordinates
      have hnot : reportsMain linkOf x = false := by
        by_contra h
        have := not_reportsSubordinate_of_reportsMain linkOf (by simpa using h)
        simp [this] at hsub
      have hx : ((linkOf x).config.hardwareSync == SyncState.main) = false := hnot
      have hx' : (linkOf x).config.hardwareSync == SyncState.subordinate := hsub
      simp only [orderForHardwareSync.go, hx, hx', Bool.false_eq_true, if_false, if_true]
      rw [orderForHardwareSync.go_ok rest main (x :: subs) hrest (by simpa [hnot] using hone)]
      simp [hnot, hsub]

/-- The scan of the sync order, on any other layout: refused as an invalid topology. -/
theorem orderForHardwareSync.go_error :
    ∀ (xs : List α) (main : Option α) (subs : List α),
      ¬ ((∀ x ∈ xs, reportsMain linkOf x = true ∨ reportsSubordinate linkOf x = true) ∧
        (main.toList ++ xs.filter (reportsMain linkOf)).length = 1) →
      ∃ f, orderForHardwareSync.go linkOf xs main subs = .error f ∧
        f.kinds = [.hardwareSyncInvalid]
  | [], none, _, _ => ⟨_, rfl, rfl⟩
  | [], some m, subs, hbad => by simp at hbad
  | x :: rest, main, subs, hbad => by
    by_cases hmain : reportsMain linkOf x = true
    · have hx : (linkOf x).config.hardwareSync == SyncState.main := hmain
      cases main with
      | some m => exact ⟨_, by simp only [orderForHardwareSync.go, hx, if_true]; rfl, rfl⟩
      | none =>
        simp only [orderForHardwareSync.go, hx, if_true]
        refine orderForHardwareSync.go_error rest (some x) subs fun ⟨hall, hone⟩ => hbad ⟨?_, ?_⟩
        · intro y hy
          rcases List.mem_cons.1 hy with rfl | hy
          · exact Or.inl hmain
          · exact hall y hy
        · simpa [hmain] using hone
    · have hx : ((linkOf x).config.hardwareSync == SyncState.main) = false :=
        Bool.eq_false_iff.2 hmain
      by_cases hsub : reportsSubordinate linkOf x = true
      · have hx' : (linkOf x).config.hardwareSync == SyncState.subordinate := hsub
        simp only [orderForHardwareSync.go, hx, hx', Bool.false_eq_true, if_false, if_true]
        refine orderForHardwareSync.go_error rest main (x :: subs) fun ⟨hall, hone⟩ => hbad ⟨?_, ?_⟩
        · intro y hy
          rcases List.mem_cons.1 hy with rfl | hy
          · exact Or.inr hsub
          · exact hall y hy
        · simpa [hmain] using hone
      · -- a jack that is neither
        have hx' : ((linkOf x).config.hardwareSync == SyncState.subordinate) = false :=
          Bool.eq_false_iff.2 hsub
        exact ⟨_, by simp only [orderForHardwareSync.go, hx, hx', Bool.false_eq_true, if_false]; rfl,
          rfl⟩

/-- A valid layout is ordered main first, then the subordinates in fleet order. -/
theorem orderForHardwareSync_ok {xs : List α}
    (hall : ∀ x ∈ xs, reportsMain linkOf x = true ∨ reportsSubordinate linkOf x = true)
    (hone : (xs.filter (reportsMain linkOf)).length = 1) :
    orderForHardwareSync linkOf xs =
      .ok (xs.filter (reportsMain linkOf) ++ xs.filter (reportsSubordinate linkOf)) := by
  have hne : xs.isEmpty = false := by
    cases xs with
    | nil => simp at hone
    | cons _ _ => rfl
  rw [orderForHardwareSync, hne, if_neg Bool.false_ne_true,
    orderForHardwareSync.go_ok linkOf xs none [] hall (by simpa using hone)]
  simp

/-- Any other layout is refused: with no sensors as no devices, else as an invalid topology. -/
theorem orderForHardwareSync_error {xs : List α}
    (hbad : ¬ ((∀ x ∈ xs, reportsMain linkOf x = true ∨ reportsSubordinate linkOf x = true) ∧
      (xs.filter (reportsMain linkOf)).length = 1)) :
    ∃ f, orderForHardwareSync linkOf xs = .error f ∧
      f.kinds = [if xs = [] then .noDevices else .hardwareSyncInvalid] := by
  cases xs with
  | nil => exact ⟨_, rfl, rfl⟩
  | cons x rest =>
    obtain ⟨f, hf, hkinds⟩ :=
      orderForHardwareSync.go_error linkOf (x :: rest) none [] (by simpa using hbad)
    exact ⟨f, by simpa [orderForHardwareSync] using hf, by simpa using hkinds⟩

end Order

namespace Fleet

open RigM

/-! ## The layout the check accepts -/

/-- The sync jacks of the usable sensors are laid out as hardware synchronization needs:
the sensor at `m` reports the main jack and every other one a subordinate jack. -/
structure Rig.SyncLayout (r : Rig) (m : Nat) : Prop where
  mem : m ∈ r.live
  main : (r.member m).link.config.hardwareSync = SyncState.main
  subordinate : ∀ i ∈ r.live, i ≠ m → (r.member i).link.config.hardwareSync = SyncState.subordinate

/-- The usable sensors in sync order around the main sensor `m`: it first, then the others
in fleet order. -/
def Rig.syncOrder (r : Rig) (m : Nat) : List Nat := m :: r.live.filter (· ≠ m)

section Layout

variable {r : Rig}

/-- The check's view of a layout, sensor by sensor, is the layout. -/
theorem syncLayout_iff :
    ((∀ i ∈ r.live, reportsMain (fun i => (r.member i).link) i = true ∨
        reportsSubordinate (fun i => (r.member i).link) i = true) ∧
      (r.live.filter (reportsMain fun i => (r.member i).link)).length = 1) ↔
    ∃ m, r.SyncLayout m := by
  constructor
  · rintro ⟨hall, hone⟩
    obtain ⟨m, hm⟩ := List.length_eq_one_iff.1 hone
    have hmem : m ∈ r.live.filter (reportsMain fun i => (r.member i).link) := by
      rw [hm]; exact List.mem_singleton_self m
    obtain ⟨hlive, hmain⟩ := List.mem_filter.1 hmem
    refine ⟨m, hlive, (reportsMain_iff _).1 hmain, fun i hi him => ?_⟩
    rcases hall i hi with h | h
    · -- a second main jack would be a second entry of the one-entry list
      have hi' : i ∈ r.live.filter (reportsMain fun i => (r.member i).link) :=
        List.mem_filter.2 ⟨hi, h⟩
      rw [hm, List.mem_singleton] at hi'
      exact absurd hi' him
    · exact (reportsSubordinate_iff _).1 h
  · rintro ⟨m, hlayout⟩
    have hmain : ∀ i ∈ r.live, reportsMain (fun i => (r.member i).link) i = (i == m) := by
      intro i hi
      rw [Bool.eq_iff_iff, reportsMain_iff, beq_iff_eq]
      by_cases him : i = m
      · simp [him, hlayout.main]
      · simp only [hlayout.subordinate i hi him, him, iff_false]
        decide
    refine ⟨fun i hi => ?_, ?_⟩
    · by_cases him : i = m
      · exact Or.inl ((reportsMain_iff _).2 (him ▸ hlayout.main))
      · exact Or.inr ((reportsSubordinate_iff _).2 (hlayout.subordinate i hi him))
    · rw [List.filter_congr hmain, List.filter_beq,
        List.count_eq_one_of_mem r.live_nodup hlayout.mem]
      rfl

/-- On a valid layout the main jack is the one at `m`. -/
theorem filter_reportsMain {m : Nat} (h : r.SyncLayout m) :
    r.live.filter (reportsMain fun i => (r.member i).link) = [m] := by
  obtain ⟨-, hone⟩ := syncLayout_iff.2 ⟨m, h⟩
  obtain ⟨m', hm'⟩ := List.length_eq_one_iff.1 hone
  have hmem : m ∈ r.live.filter (reportsMain fun i => (r.member i).link) :=
    List.mem_filter.2 ⟨h.mem, (reportsMain_iff _).2 h.main⟩
  rw [hm', List.mem_singleton] at hmem
  rw [hm', hmem]

/-- On a valid layout, the subordinates in fleet order are the other usable sensors. -/
theorem filter_reportsSubordinate {m : Nat} (h : r.SyncLayout m) :
    r.live.filter (reportsSubordinate fun i => (r.member i).link) = r.live.filter (· ≠ m) := by
  refine List.filter_congr fun i hi => ?_
  rw [Bool.eq_iff_iff, reportsSubordinate_iff, decide_eq_true_iff]
  by_cases him : i = m
  · subst him
    simp only [h.main, ne_eq, not_true_eq_false, iff_false]
    decide
  · simp [h.subordinate i hi him, him]

/-- What the check reads: no usable sensor, or the sync order of the usable ones. -/
theorem run_hardwareSyncOrder (r : Rig) :
    hardwareSyncOrder.run r =
      (if r.live = [] then .error .noDevices
        else orderForHardwareSync (fun i => (r.member i).link) r.live, r) := by
  by_cases h : r.live = []
  · simp [hardwareSyncOrder, liveOrFail, h]
    rfl
  · simp [hardwareSyncOrder, liveOrFail, h]
    rfl

/-- The check that opens the call, from Idle: no usable sensor, or the sync order. -/
theorem run_enableCheck (r : Rig) (hidle : r.phase = .idle) :
    enableCheck.run r =
      (if r.live = [] then .error (.refused .noDevices) else
        match orderForHardwareSync (fun i => (r.member i).link) r.live with
        | .error f => .error (.refused f)
        | .ok ordered => .ok ordered, r) := by
  have hidle' : (r.phase != .idle) = false := by simp [hidle]
  rw [enableCheck, run_get_bind, hidle', if_neg Bool.false_ne_true, run_bind,
    run_hardwareSyncOrder]
  by_cases h : r.live = []
  · simp only [h, if_true]
    rfl
  · simp only [h, if_false]
    cases orderForHardwareSync (fun i => (r.member i).link) r.live <;> rfl

end Layout

/-! ## Pushing every sensor its place -/

/-- The rig after each sensor `i` of `placed` ran the operation for its place `k`, in turn. -/
def Rig.runPlaced {β : Type} (r : Rig) (op : Nat → MemberM β) : List (Nat × Nat) → Rig
  | [] => r
  | (i, k) :: rest => (r.runEach (op k) [i]).runPlaced op rest

/-- Running on one member changes that member alone. -/
theorem Rig.member_runEach_singleton {β : Type} (op : MemberM β) {r : Rig} {i : Nat}
    (hi : i < r.members.size) (j : Nat) :
    (r.runEach op [i]).member j = if j = i then (op.run (r.member i)).2 else r.member j := by
  rw [Rig.runEach_cons op r hi, Rig.runEach, Rig.member_set r hi]

/-- Fanning out to one member answers its outcome and runs on it alone. -/
theorem run_fanOut_singleton (op : MemberM (Option Fault)) {r : Rig} {i : Nat}
    (hi : i < r.members.size) :
    (fanOut [i] op).run r = ([outcomeOf op (r.member i)], r.runEach op [i]) :=
  run_fanOut op (List.nodup_singleton i) fun j hj => by rw [List.mem_singleton.1 hj]; exact hi

section Placed

variable {β : Type} (op : Nat → MemberM β)

/-- Running on members changes nothing of the rig but its members. -/
theorem Rig.runPlaced_eq (r : Rig) (ps : List (Nat × Nat)) :
    r.runPlaced op ps = { r with members := (r.runPlaced op ps).members } := by
  induction ps generalizing r with
  | nil => rfl
  | cons p ps ih =>
    rw [Rig.runPlaced, ih, Rig.runEach_eq]

@[simp] theorem Rig.size_runPlaced (r : Rig) (ps : List (Nat × Nat)) :
    (r.runPlaced op ps).members.size = r.members.size := by
  induction ps generalizing r with
  | nil => rfl
  | cons p ps ih => rw [Rig.runPlaced, ih, Rig.size_runEach]

/-- Rigs that differ only in their members, one after another. -/
theorem Rig.eq_with_members {r r₁ r₂ : Rig} (h₁ : r₁ = { r with members := r₁.members })
    (h₂ : r₂ = { r₁ with members := r₂.members }) : r₂ = { r with members := r₂.members } := by
  calc r₂ = { r₁ with members := r₂.members } := h₂
    _ = { r with members := r₂.members } := by rw [h₁]

/-- Each of distinct sensors is the operation for its place on it as the rig had it; every
other sensor is as it was. -/
theorem Rig.member_runPlaced {ps : List (Nat × Nat)} (hnd : (ps.map (·.1)).Nodup) :
    ∀ {r : Rig}, (∀ p ∈ ps, p.1 < r.members.size) →
      (∀ i k, (i, k) ∈ ps → (r.runPlaced op ps).member i = ((op k).run (r.member i)).2) ∧
      (∀ i, i ∉ ps.map (·.1) → (r.runPlaced op ps).member i = r.member i) := by
  induction ps with
  | nil => intro r _; simp [Rig.runPlaced]
  | cons p ps ih =>
    obtain ⟨i, k⟩ := p
    intro r hlt
    obtain ⟨hi, hnd⟩ := List.nodup_cons.1 hnd
    have hstep := Rig.member_runEach_singleton (op k) (hlt (i, k) List.mem_cons_self)
    obtain ⟨ihin, ihout⟩ := ih hnd (r := r.runEach (op k) [i])
      (fun q hq => by rw [Rig.size_runEach]; exact hlt q (List.mem_cons_of_mem _ hq))
    refine ⟨fun j k' hj => ?_, fun j hj => ?_⟩
    · rw [Rig.runPlaced]
      rcases List.mem_cons.1 hj with hjk | hj
      · cases hjk
        rw [ihout i hi, hstep, if_pos rfl]
      · have hji : j ≠ i := ne_of_mem_of_not_mem (List.mem_map_of_mem (f := (·.1)) hj) hi
        rw [ihin j k' hj, hstep, if_neg hji]
    · simp only [List.map_cons, List.mem_cons, not_or] at hj
      rw [Rig.runPlaced, ihout j hj.2, hstep, if_neg hj.1]

end Placed

/-- Operations for their places, run on distinct sensors in turn: each outcome is its
operation's on its sensor as the rig had it. -/
theorem run_flatMapM_fanOut (op : Nat → MemberM (Option Fault)) {ps : List (Nat × Nat)}
    (hnd : (ps.map (·.1)).Nodup) :
    ∀ {r : Rig}, (∀ p ∈ ps, p.1 < r.members.size) →
      (ps.flatMapM fun (i, k) => fanOut [i] (op k)).run r =
        (ps.map fun (i, k) => outcomeOf (op k) (r.member i), r.runPlaced op ps) := by
  induction ps with
  | nil => intro r _; rfl
  | cons p ps ih =>
    obtain ⟨i, k⟩ := p
    intro r hlt
    obtain ⟨hi, hnd⟩ := List.nodup_cons.1 hnd
    have hlti : i < r.members.size := hlt (i, k) List.mem_cons_self
    rw [List.flatMapM_cons, run_bind, run_fanOut_singleton (op k) hlti, run_bind,
      ih hnd (fun q hq => by rw [Rig.size_runEach]; exact hlt q (List.mem_cons_of_mem _ hq))]
    -- the sensors still to come are as the rig had them
    have hrest : (ps.map fun (j, k') => outcomeOf (op k') ((r.runEach (op k) [i]).member j)) =
        ps.map fun (j, k') => outcomeOf (op k') (r.member j) := by
      refine List.map_congr_left fun q hq => ?_
      obtain ⟨j, k'⟩ := q
      have hji : j ≠ i := ne_of_mem_of_not_mem (List.mem_map_of_mem (f := (·.1)) hq) hi
      dsimp only
      rw [Rig.member_runEach_singleton (op k) hlti, if_neg hji]
    rw [hrest]
    rfl

/-- Configuring for sync runs on each sensor of the order as it stood, pushing it the
configuration for its place. -/
theorem run_configureForSync {ordered : List Nat} {r : Rig} (hnd : ordered.Nodup)
    (hlt : ∀ i ∈ ordered, i < r.members.size) :
    (configureForSync ordered).run r =
      (ordered.zipIdx.map fun (i, k) => outcomeOf (pushForPlace k) (r.member i),
        r.runPlaced pushForPlace ordered.zipIdx) := by
  have hfst : ordered.zipIdx.map (·.1) = ordered := by
    simp
  exact run_flatMapM_fanOut pushForPlace (by rw [hfst]; exact hnd)
    (fun p hp => hlt p.1 (hfst ▸ List.mem_map_of_mem hp))

/-! ## Restarting the main sensor last -/

/-- Restarting main last, on distinct sensors: the subordinates, each as it stood, then the
main sensor, on the rig their restarts left, where it is still as it stood. The main
sensor's outcome comes first. -/
theorem run_restartMainLast {m : Nat} {subs : List Nat} {r : Rig} (hnd : (m :: subs).Nodup)
    (hlt : ∀ i ∈ m :: subs, i < r.members.size) :
    (restartMainLast (m :: subs)).run r =
      ((m :: subs).map fun i => outcomeOf MemberM.restart (r.member i),
        (r.runEach MemberM.restart subs).runEach MemberM.restart [m]) := by
  obtain ⟨hm, hnds⟩ := List.nodup_cons.1 hnd
  have hlts : ∀ i ∈ subs, i < r.members.size := fun i hi => hlt i (List.mem_cons_of_mem m hi)
  have hltm : m < r.members.size := hlt m List.mem_cons_self
  -- the subordinates' restarts leave the main sensor as it stood
  have hmain : (r.runEach MemberM.restart subs).member m = r.member m := by
    rw [Rig.member_runEach MemberM.restart hnds hlts, if_neg hm]
  rw [restartMainLast, run_bind, List.tail_cons, run_fanOut MemberM.restart hnds hlts, run_bind,
    List.take_succ_cons, List.take_zero,
    run_fanOut_singleton MemberM.restart (by rw [Rig.size_runEach]; exact hltm), run_pure, hmain]
  rfl

/-! ## Places and offsets -/

/-- The offset pushed for place `k` is `k`, as a byte. -/
@[simp] theorem syncOffset_configForPlace (cfg : DeviceConfig) (k : Nat) :
    (configForPlace cfg k).syncOffset = UInt8.ofNat k := by
  unfold configForPlace withSync
  by_cases hk : k = 0
  · simp [hk]
  · simp [hk]

/-- At most 256 places get pairwise distinct offsets. -/
theorem nodup_syncOffsets (cfg : Nat → DeviceConfig) {ordered : List Nat}
    (hlen : ordered.length ≤ 256) :
    (ordered.zipIdx.map fun (i, k) => (configForPlace (cfg i) k).syncOffset).Nodup := by
  have hplaces : (ordered.zipIdx.map fun (i, k) => (configForPlace (cfg i) k).syncOffset) =
      (List.range ordered.length).map UInt8.ofNat := by
    rw [List.range_eq_range', ← List.zipIdx_map_snd, List.map_map]
    exact List.map_congr_left fun p _ => syncOffset_configForPlace _ _
  rw [hplaces]
  refine List.nodup_range.map_on fun a ha b hb hab => ?_
  -- two places below 256 are told apart by their bytes
  have hab' := congrArg UInt8.toNat hab
  simp only [List.mem_range] at ha hb
  simp only [UInt8.toNat_ofNat'] at hab'
  omega

/-! ## The call -/

/-- Setting hardware synchronization up, from Idle.

On a sync-jack layout other than one main jack with every other usable sensor on a
subordinate one, the call is refused before anything is sent, as an invalid topology (as no
devices when no sensor is usable), and the rig is as it was.

On a valid layout, with the main jack at `m`, the sensors in sync order are each pushed the
configuration for their place over their own, on their own; the offsets are distinct when
there are at most 256 sensors. If a push failed, nothing more is sent and the flags are as
they were. Otherwise the subordinates are restarted, and the main sensor last, on the rig
where every subordinate's restart has been answered and the main sensor is as configured;
hardware synchronization is switched on and selected exactly when every restart
succeeded, and otherwise the flags are as they were. -/
theorem enableHwSync_configures_in_order (r : Rig) (hidle : r.phase = .idle) :
    ((∀ m, ¬ r.SyncLayout m) →
      ∃ f, enableHwSync.run r = (.refused f, r) ∧
        f.kinds = [if r.live = [] then .noDevices else .hardwareSyncInvalid]) ∧
    ∀ m, r.SyncLayout m →
      let ordered := r.syncOrder m
      let pushed := ordered.zipIdx.map fun (i, k) => outcomeOf (pushForPlace k) (r.member i)
      let configured := r.runPlaced pushForPlace ordered.zipIdx
      let subsRestarted := configured.runEach MemberM.restart ordered.tail
      let restarted := ordered.map fun i => outcomeOf MemberM.restart (configured.member i)
      let final := subsRestarted.runEach MemberM.restart [m]
      (∀ k i, ordered[k]? = some i → configured.member i =
        ((MemberM.pushConfiguration (configForPlace (r.member i).link.config k)).run
          (r.member i)).2) ∧
      (ordered.length ≤ 256 →
        (ordered.zipIdx.map fun (i, k) => (configForPlace (r.member i).link.config k).syncOffset).Nodup) ∧
      (∀ i ∈ ordered.tail, subsRestarted.member i = (MemberM.restart.run (configured.member i)).2) ∧
      subsRestarted.member m = configured.member m ∧
      enableHwSync.run r =
        if Outcomes.failed pushed then
          (.ranWithin "hardware sync configuration" pushed, { r with members := configured.members })
        else if Outcomes.failed restarted then
          (.ranWithin "hardware sync restart" restarted, { r with members := final.members })
        else (⟨some restarted, none⟩,
          { r with members := final.members, hwSync := true, syncMode := .hardware }) := by
  refine ⟨fun hbad => ?_, fun m hlayout => ?_⟩
  · -- refused: the check's view of the layout is not a valid one
    have hnot := fun h => (fun ⟨m, hm⟩ => hbad m hm : (∃ m, r.SyncLayout m) → False)
      (syncLayout_iff.1 h)
    rw [enableHwSync, run_bind, run_enableCheck r hidle]
    by_cases hempty : r.live = []
    · exact ⟨.noDevices, by simp only [hempty, if_true]; rfl, by simp [hempty]; rfl⟩
    · obtain ⟨f, hf, hkinds⟩ := orderForHardwareSync_error _ hnot
      refine ⟨f, ?_, by simpa [hempty] using hkinds⟩
      simp only [hempty, if_false, hf]
      rfl
  · intro ordered pushed configured subsRestarted restarted final
    have hnd : ordered.Nodup :=
      List.nodup_cons.2 ⟨by simp, r.live_nodup.filter _⟩
    have hlt : ∀ i ∈ ordered, i < r.members.size := by
      intro i hi
      rcases List.mem_cons.1 hi with rfl | hi
      · exact Rig.lt_of_mem_live hlayout.mem
      · exact Rig.lt_of_mem_live (List.mem_of_mem_filter hi)
    have hfst : ordered.zipIdx.map (·.1) = ordered := by simp
    have hnd' : (ordered.zipIdx.map (·.1)).Nodup := by rw [hfst]; exact hnd
    have hpushes := Rig.member_runPlaced pushForPlace hnd' (r := r)
      (fun p hp => hlt p.1 (hfst ▸ List.mem_map_of_mem hp))
    have htail : (ordered.tail).Nodup := (List.nodup_cons.1 hnd).2
    have hlt' : ∀ i ∈ ordered.tail, i < configured.members.size := fun i hi => by
      rw [Rig.size_runPlaced]; exact hlt i (List.mem_of_mem_tail hi)
    have hsubs := Rig.member_runEach MemberM.restart htail hlt'
    refine ⟨fun k i hk => hpushes.1 i k (List.mem_zipIdx_iff_getElem?.2 hk),
      nodup_syncOffsets (fun i => (r.member i).link.config), fun i hi => by rw [hsubs, if_pos hi],
      by rw [hsubs, if_neg (show m ∉ ordered.tail from (List.nodup_cons.1 hnd).1)], ?_⟩
    -- the check passes with the sync order
    have hcheck : enableCheck.run r = (.ok ordered, r) := by
      obtain ⟨hall, hone⟩ := syncLayout_iff.2 ⟨m, hlayout⟩
      rw [run_enableCheck r hidle, if_neg (List.ne_nil_of_mem hlayout.mem),
        orderForHardwareSync_ok _ hall hone, filter_reportsMain hlayout,
        filter_reportsSubordinate hlayout]
      rfl
    rw [enableHwSync, run_bind, hcheck]
    dsimp only
    rw [run_bind, run_configureForSync hnd hlt]
    dsimp only
    by_cases hpush : Outcomes.failed pushed = true
    · rw [if_pos hpush, if_pos hpush, run_pure, ← Rig.runPlaced_eq]
    · -- every push succeeded: the restarts, the subordinates' first
      have hrun : (restartMainLast ordered).run configured = (restarted, final) :=
        run_restartMainLast hnd fun i hi => by rw [Rig.size_runPlaced]; exact hlt i hi
      rw [if_neg hpush, if_neg hpush, run_bind, hrun]
      dsimp only
      have hfinal : final = { r with members := final.members } :=
        Rig.eq_with_members (Rig.eq_with_members (Rig.runPlaced_eq pushForPlace r _)
          (Rig.runEach_eq MemberM.restart configured _)) (Rig.runEach_eq MemberM.restart subsRestarted _)
      by_cases hrestart : Outcomes.failed restarted = true
      · rw [if_pos hrestart, if_pos hrestart, run_pure, ← hfinal]
      · rw [if_neg hrestart, if_neg hrestart, run_bind, markHwSync, run_modify, run_pure, hfinal]

/-- Three sensors, the main one second in the fleet: the layout holds around it, the sync order
puts it first, and setting hardware sync up gives the main offset 0 and the subordinates 1
and 2 in fleet order, restarts every sensor once, and switches hardware sync on. -/
theorem enableHwSync_main_between_subordinates :
    let r : Rig := { Rig.create {} none .none none with
      members := #[Member.connect "dev-0" (Simulator.Sensor.create { serial := "A", hardwareSync := .subordinate }),
        Member.connect "dev-1" (Simulator.Sensor.create { serial := "B" }),
        Member.connect "dev-2" (Simulator.Sensor.create { serial := "C", hardwareSync := .subordinate })] }
    r.phase = .idle ∧ r.SyncLayout 1 ∧ r.syncOrder 1 = [1, 0, 2] ∧
    (let ordered := r.syncOrder 1
      let pushed := ordered.zipIdx.map fun (i, k) => outcomeOf (pushForPlace k) (r.member i)
      let configured := r.runPlaced pushForPlace ordered.zipIdx
      let subsRestarted := configured.runEach MemberM.restart ordered.tail
      let restarted := ordered.map fun i => outcomeOf MemberM.restart (configured.member i)
      let final := subsRestarted.runEach MemberM.restart [1]
      (∀ k i, ordered[k]? = some i → configured.member i =
        ((MemberM.pushConfiguration (configForPlace (r.member i).link.config k)).run
          (r.member i)).2) ∧
      (ordered.length ≤ 256 →
        (ordered.zipIdx.map fun (i, k) => (configForPlace (r.member i).link.config k).syncOffset).Nodup) ∧
      (∀ i ∈ ordered.tail, subsRestarted.member i = (MemberM.restart.run (configured.member i)).2) ∧
      subsRestarted.member 1 = configured.member 1 ∧
      enableHwSync.run r =
        if Outcomes.failed pushed then
          (.ranWithin "hardware sync configuration" pushed, { r with members := configured.members })
        else if Outcomes.failed restarted then
          (.ranWithin "hardware sync restart" restarted, { r with members := final.members })
        else (⟨some restarted, none⟩,
          { r with members := final.members, hwSync := true, syncMode := .hardware })) ∧
    (enableHwSync.run r).2.hwSync = true ∧ (enableHwSync.run r).2.syncMode = .hardware ∧
    (enableHwSync.run r).2.members.toList.map (·.sensor.config.syncOffset) = [1, 0, 2] ∧
    (enableHwSync.run r).2.members.toList.map (·.sensor.config.softwareSync) =
      [.subordinate, .main, .subordinate] ∧
    (enableHwSync.run r).2.members.toList.map (·.sensor.restarts) = [1, 1, 1] := by
  intro r
  have hlayout : r.SyncLayout 1 := ⟨by decide +kernel, by decide +kernel, by decide +kernel⟩
  exact ⟨rfl, hlayout, by decide +kernel, (enableHwSync_configures_in_order r rfl).2 1 hlayout,
    by decide +kernel⟩

end Fleet

end DepthRig
