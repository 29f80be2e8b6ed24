import DepthRig.Proofs.Fleet.Control
import DepthRig.Fleet.Reconfigure

/-!
# Hardware synchronization beside a recording

A call that sets hardware synchronization up or down checks once that the state machine is
Idle and then works with the lock released, never taking the state machine itself
(`Reconfig.step_keeps_machine`). So the check guards nothing after it: a recording that
starts in between runs while the sensors are reconfigured (`enable_overlaps_recording`).
-/

namespace DepthRig.Fleet

open RigM

namespace RigM.Keeps

theorem hardwareSyncOrder : Keeps hardwareSyncOrder fun _ => True := by
  refine liveOrFail.bind fun x _ => ?_
  cases x with
  | error f => exact ret _
  | ok ids => exact Keeps.get.bind fun _ _ => ret _

theorem enableCheck : Keeps enableCheck fun _ => True := by
  refine Keeps.get.bind fun r _ => ?_
  split
  · exact ret _
  · refine hardwareSyncOrder.bind fun x _ => ?_
    cases x with
    | error f => exact ret _
    | ok ordered => exact ret _

/-- Configuring the sensors one after another changes only the members. -/
theorem configureForSync (ordered : List Nat) : Keeps (configureForSync ordered) fun _ => True := by
  unfold Fleet.configureForSync
  induction ordered.zipIdx with
  | nil => exact ret _
  | cons p ps ih =>
    rw [List.flatMapM_cons]
    exact (fanOut _ _).bind fun _ _ => ih.bind fun _ _ => ret _

theorem restartMainLast (ordered : List Nat) : Keeps (restartMainLast ordered) fun _ => True :=
  (fanOut _ _).bind fun _ _ => (fanOut _ _).bind fun _ _ => ret _

theorem disableCheck : Keeps disableCheck fun _ => True :=
  Keeps.get.bind fun _ _ => ret _

theorem standaloneAll : Keeps standaloneAll fun _ => True := by
  refine liveOrFail.bind fun x _ => ?_
  cases x with
  | error f => exact ret _
  | ok ids => exact (fanOut _ _).bind fun _ _ => ret _

end RigM.Keeps

/-! ## A call never takes the state machine -/

/-- Whether an operation leaves the recording state machine, the refinement flag, whether a
session is in progress and the phases published, as it found them. -/
def KeepsMachine {α : Type} (op : RigM α) : Prop :=
  ∀ r : Rig, (op.run r).2.phase = r.phase ∧ (op.run r).2.refining = r.refining ∧
    (op.run r).2.recording.isSome = r.recording.isSome ∧ (op.run r).2.entered = r.entered

theorem RigM.Keeps.keepsMachine {α : Type} {op : RigM α} (h : Keeps op fun _ => True) :
    KeepsMachine op := by
  intro r
  have hc := h.control r
  exact ⟨congrArg Control.phase hc, congrArg Control.refining hc,
    congrArg Control.inSession hc, h.entered r⟩

/-- No step of a hardware-synchronization call moves the recording state machine: the only
writes under the lock are to whether hardware synchronization is on and to the sync mode. -/
theorem Reconfig.step_keeps_machine (c : Reconfig) : KeepsMachine c.step := by
  cases c with
  | enableCalled =>
    refine (Keeps.enableCheck.bind fun x _ => ?_).keepsMachine
    cases x with
    | error _ => exact Keeps.ret _
    | ok _ => exact Keeps.ret _
  | configuring ordered =>
    refine ((Keeps.configureForSync ordered).bind fun _ _ => ?_).keepsMachine
    split
    · exact Keeps.ret _
    · exact Keeps.ret _
  | restarting ordered =>
    refine ((Keeps.restartMainLast ordered).bind fun _ _ => ?_).keepsMachine
    split
    · exact Keeps.ret _
    · exact Keeps.ret _
  | enabling => exact fun _ => ⟨rfl, rfl, rfl, rfl⟩
  | disableCalled =>
    refine (Keeps.disableCheck.bind fun _ _ => ?_).keepsMachine
    split
    · exact Keeps.ret _
    · exact Keeps.ret _
  | disabling => exact fun _ => ⟨rfl, rfl, rfl, rfl⟩
  | unsyncing => exact (Keeps.standaloneAll.bind fun _ _ => Keeps.ret _).keepsMachine
  | returned => exact (Keeps.ret _).keepsMachine

/-! ## Run alone, the steps are the calls -/

/-- Run one after another with nothing in between, the steps of a call that sets hardware
synchronization up end the call and do to the rig what `enableHwSync` does. -/
theorem enable_steps_run (r : Rig) :
    (do
      let c ← Reconfig.enableCalled.step
      let c ← c.step
      let c ← c.step
      c.step : RigM Reconfig).run r = (.returned, (enableHwSync.run r).2) := by
  simp only [run_bind, Reconfig.step.eq_1, enableHwSync]
  generalize enableCheck.run r = checked
  obtain ⟨a, r₁⟩ := checked
  cases a with
  | error refusal => rfl
  | ok ordered =>
    simp only [run_pure, Reconfig.step.eq_2, run_bind]
    generalize (configureForSync ordered).run r₁ = configured
    obtain ⟨os, r₂⟩ := configured
    by_cases hfailed : Outcomes.failed os = true
    · simp only [hfailed, if_true, run_pure, Reconfig.step.eq_8]
    · simp only [hfailed, Bool.false_eq_true, if_false, run_pure, Reconfig.step.eq_3, run_bind]
      generalize (restartMainLast ordered).run r₂ = restarted
      obtain ⟨os', r₃⟩ := restarted
      by_cases hfailed' : Outcomes.failed os' = true
      · simp only [hfailed', if_true, run_pure, Reconfig.step.eq_8]
      · simp only [hfailed', Bool.false_eq_true, if_false, run_pure, Reconfig.step.eq_4, run_bind]

/-- Run one after another with nothing in between, the steps of a call that takes hardware
synchronization down end the call and do to the rig what `disableHwSync` does. -/
theorem disable_steps_run (r : Rig) :
    (do
      let c ← Reconfig.disableCalled.step
      let c ← c.step
      c.step : RigM Reconfig).run r = (.returned, (disableHwSync.run r).2) := by
  simp only [run_bind, Reconfig.step.eq_5, disableHwSync]
  generalize disableCheck.run r = checked
  obtain ⟨refusal, r₁⟩ := checked
  cases refusal with
  | some refusal => rfl
  | none =>
    simp only [Option.isSome_none, Bool.false_eq_true, if_false, run_pure, Reconfig.step.eq_6,
      run_bind, Reconfig.step.eq_7]

/-! ## The check guards nothing after it -/

/-- A call that sets hardware synchronization up passes its check in Idle; then a network
recording starts and opens its session. The rest of the call runs while the session is in
progress: the sensor is sent its new configuration and restarted, and hardware
synchronization is switched on and selected, under the session's feet. -/
theorem enable_overlaps_recording :
    let rig : Rig := { Rig.create { syncMode := some "network" } none .none none with
      members := #[Member.connect "dev-0" (Simulator.Sensor.create { serial := "A" })] }
    let s := Reconfiguring.run ⟨⟨rig, []⟩, []⟩
      [.enableHwSync, .reconfigure 0, .coordinator (.call .startRecording),
        .coordinator (.advance 0), .coordinator (.advance 0), .coordinator (.advance 0),
        .coordinator (.advance 0)]
    let s' := s.run [.reconfigure 0, .reconfigure 0, .reconfigure 0]
    s.coordinator.rig.phase = .recording ∧ s.coordinator.rig.recording.isSome = true ∧
      s.coordinator.rig.hwSync = false ∧ s.coordinator.rig.syncMode = .network ∧
      (s.coordinator.rig.member 0).sensor.commands.toList.map Wire.Command.name =
        ["RequestConfiguration", "CreateDirectory", "ClearStoredFrames", "PreRecordProcessStart"] ∧
      s'.coordinator.rig.phase = .recording ∧ s'.coordinator.rig.recording.isSome = true ∧
      s'.coordinator.rig.hwSync = true ∧ s'.coordinator.rig.syncMode = .hardware ∧
      (s'.coordinator.rig.member 0).sensor.commands.toList.map Wire.Command.name =
        ["RequestConfiguration", "CreateDirectory", "ClearStoredFrames", "PreRecordProcessStart",
          "SetConfiguration", "ReinitializeWithCurrentSettings"] := by
  decide +kernel

end DepthRig.Fleet
