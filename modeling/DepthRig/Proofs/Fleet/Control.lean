import DepthRig.Fleet.Threads
import DepthRig.Proofs.Calibration.Alignment

/-!
# What the coordinator's lock guards

The rig's control is where the state machine stands, the refinement flag, the session in
progress and the settings that decide a recording's course. Only a few operations change it,
each under the lock; every other operation leaves it, and the phases published, as it found
them (`RigM.Keeps`).
-/

namespace DepthRig

instance : LawfulBEq SyncMode where
  rfl {a} := by cases a <;> rfl
  eq_of_beq {a b} h := by cases a <;> cases b <;> first | rfl | exact absurd h (by decide)

end DepthRig

namespace DepthRig.Fleet

open RigM

instance : LawfulBEq Phase where
  rfl {a} := by cases a <;> rfl
  eq_of_beq {a b} h := by cases a <;> cases b <;> first | rfl | exact absurd h (by decide)

/-- What the coordinator's lock guards, and the settings a recording's course depends on. -/
structure Control where
  phase : Phase
  refining : Bool
  /-- Whether a session is in progress. -/
  inSession : Bool
  /-- Whether finished recordings go to a sink. -/
  hasSink : Bool
  config : SessionConfig
  syncMode : SyncMode
  hwSync : Bool

/-- Whether a finished recording is saved, as the control decides it. -/
def Control.saves (c : Control) (cancelled : Bool) : Bool :=
  c.hasSink && !cancelled && c.config.exportModeOr == .pointcloud

/-- The rig's control. -/
def Rig.control (r : Rig) : Control where
  phase := r.phase
  refining := r.refining
  inSession := r.recording.isSome
  hasSink := r.sink.isSome
  config := r.config
  syncMode := r.syncMode
  hwSync := r.hwSync

@[simp] theorem Rig.control_phase (r : Rig) : r.control.phase = r.phase := rfl
@[simp] theorem Rig.control_refining (r : Rig) : r.control.refining = r.refining := rfl
@[simp] theorem Rig.control_inSession (r : Rig) : r.control.inSession = r.recording.isSome := rfl

theorem Rig.saves_eq (r : Rig) (cancelled : Bool) : r.saves cancelled = r.control.saves cancelled :=
  rfl

@[simp] theorem Summary.mode_setStage (s : Summary) (stage : String) (os : List Outcome) :
    (s.setStage stage os).mode = s.mode := by
  unfold Summary.setStage
  split <;> rfl

namespace RigM

theorem run_bind {α β : Type} (x : RigM α) (f : α → RigM β) (r : Rig) :
    (x >>= f).run r = (f (x.run r).1).run (x.run r).2 := rfl

theorem run_get (r : Rig) : (get : RigM Rig).run r = (r, r) := rfl

/-- Reading the rig and going on with what was read. -/
theorem run_get_bind {α : Type} (f : Rig → RigM α) (r : Rig) : (get >>= f).run r = (f r).run r :=
  rfl

theorem run_pure {α : Type} (a : α) (r : Rig) : (pure a : RigM α).run r = (a, r) := rfl

theorem run_modify (f : Rig → Rig) (r : Rig) : (modify f : RigM Unit).run r = ((), f r) := rfl

theorem run_set (r r' : Rig) : (set r' : RigM PUnit).run r = (⟨⟩, r') := rfl

/-- `op` leaves the control and the phases published as it found them, whatever the rig, and
its result satisfies `Q`. -/
def Keeps {α : Type} (op : RigM α) (Q : α → Prop) : Prop :=
  ∀ r : Rig, Q (op.run r).1 ∧ (op.run r).2.control = r.control ∧ (op.run r).2.entered = r.entered

namespace Keeps

variable {α β : Type} {Q : α → Prop} {R : β → Prop}

theorem control {op : RigM α} (h : Keeps op Q) (r : Rig) : (op.run r).2.control = r.control :=
  (h r).2.1

theorem entered {op : RigM α} (h : Keeps op Q) (r : Rig) : (op.run r).2.entered = r.entered :=
  (h r).2.2

theorem result {op : RigM α} (h : Keeps op Q) (r : Rig) : Q (op.run r).1 :=
  (h r).1

protected theorem pure {a : α} (h : Q a) : Keeps (pure a : RigM α) Q :=
  fun _ => ⟨h, rfl, rfl⟩

/-- Returning a value changes nothing. -/
theorem ret (a : α) : Keeps (pure a : RigM α) fun _ => True :=
  Keeps.pure trivial

protected theorem get : Keeps (get : RigM Rig) fun _ => True :=
  fun _ => ⟨trivial, rfl, rfl⟩

protected theorem bind {p : RigM α} {k : α → RigM β} (hp : Keeps p Q)
    (hk : ∀ a, Q a → Keeps (k a) R) : Keeps (p >>= k) R := by
  intro r
  obtain ⟨hq, hc, he⟩ := hp r
  obtain ⟨hr, hc', he'⟩ := hk _ hq (p.run r).2
  exact ⟨hr, hc'.trans hc, he'.trans he⟩

theorem mono {p : RigM α} {Q' : α → Prop} (hp : Keeps p Q) (hQ : ∀ a, Q a → Q' a) :
    Keeps p Q' :=
  fun r => ⟨hQ _ (hp r).1, (hp r).2⟩

/-- A change of the rig that touches neither the control nor the phases published. -/
theorem of_modify {f : Rig → Rig} (hc : ∀ r, (f r).control = r.control)
    (he : ∀ r, (f r).entered = r.entered) : Keeps (modify f) fun _ => True :=
  fun r => ⟨trivial, hc r, he r⟩

/-- Running a step on each element, none of which changes the control. -/
protected theorem mapM {γ : Type} {xs : List γ} {f : γ → RigM α}
    (hf : ∀ x, Keeps (f x) fun _ => True) : Keeps (xs.mapM f) fun _ => True := by
  induction xs with
  | nil => exact ret _
  | cons x xs ih =>
    rw [List.mapM_cons]
    exact (hf x).bind fun _ _ => ih.bind fun _ _ => ret _

/-! ### Sensors, time and records -/

/-- An operation on one member changes only the members. -/
theorem onMember {γ : Type} [Inhabited γ] (i : Nat) (op : MemberM γ) :
    Keeps (onMember i op) fun _ => True := by
  intro r
  simp only [StateT.run, RigM.onMember]
  split <;> exact ⟨trivial, rfl, rfl⟩

theorem fanOut (ids : List Nat) (op : MemberM (Option Fault)) :
    Keeps (fanOut ids op) fun _ => True :=
  Keeps.mapM fun i => Keeps.get.bind fun _ _ => (onMember i op).bind fun _ _ => ret _

theorem liveOrFail : Keeps liveOrFail fun _ => True :=
  Keeps.get.bind fun _ _ => ret _

theorem tick : Keeps tick fun _ => True :=
  fun _ => ⟨trivial, rfl, rfl⟩

theorem keepCalibration (serial : String) (w : Affine) (refined : Bool) :
    Keeps (keepCalibration serial w refined) fun _ => True := by
  refine tick.bind fun _ _ => of_modify (fun r => ?_) (fun r => ?_)
  · split
    · rfl
    · rfl
    · split
      · split <;> rfl
      · rfl
  · split
    · rfl
    · rfl
    · split
      · split <;> rfl
      · rfl

theorem prune : Keeps prune fun _ => True :=
  of_modify (fun _ => rfl) fun _ => rfl

theorem announce (p : Phase) : ∀ r, ((announce p).run r).2.control = r.control :=
  fun _ => rfl

end Keeps

end RigM

namespace RigM.Keeps

/-! ### The stages of a recording -/

theorem captureOn (ids : List Nat) : Keeps (captureOn ids) fun _ => True :=
  fanOut ids _

theorem nextTakeIndex (name : String) : Keeps (nextTakeIndex name) fun _ => True := by
  refine tick.bind fun _ _ r => ⟨trivial, ?_⟩
  simp only [run_bind, run_get]
  split
  · split <;> exact ⟨rfl, rfl⟩
  · exact ⟨rfl, rfl⟩

theorem startSession (name : String) (index : Int) (mode : SyncMode) (started : Time.Stamp) :
    Keeps (startSession name index mode started) fun _ => True := by
  intro r
  refine ⟨trivial, ?_⟩
  simp only [Fleet.startSession, run_bind, run_get]
  split
  · split <;> exact ⟨rfl, rfl⟩
  · exact ⟨rfl, rfl⟩

theorem finishSession (s : Summary) : Keeps (finishSession s) fun _ => True := by
  refine of_modify (fun r => ?_) (fun r => ?_) <;>
  · split
    · split <;> rfl
    · rfl

theorem drawChart (p : Sync.Plan) (built : Time.Stamp) : Keeps (drawChart p built) fun _ => True := by
  refine of_modify (fun r => ?_) (fun r => ?_) <;>
  · dsimp only
    split
    · rfl
    · split <;> rfl

theorem networkRound (ongoing : Recording) :
    Keeps (networkRound ongoing) fun p => p.1.summary.mode = ongoing.summary.mode := by
  refine (captureOn _).bind fun os _ => ?_
  -- the round's failures are kept first, then the recording ends if no sensor is left
  split <;> dsimp only <;> split <;> exact Keeps.pure (by simp)

theorem prepareRecording (mode : SyncMode) (ids : List Nat) :
    Keeps (prepareRecording mode ids) fun _ => True := by
  unfold Fleet.prepareRecording
  refine Keeps.get.bind fun _ _ => (nextTakeIndex _).bind fun res _ => ?_
  split
  · exact ret _
  refine (ret _).bind fun _ _ => (fanOut _ _).bind fun made _ => ?_
  split
  · exact ret _
  refine (fanOut _ _).bind fun _ _ => (fanOut _ _).bind fun pre _ => ?_
  dsimp only
  split
  · exact ret _
  refine tick.bind fun _ _ => (startSession _ _ _ _).bind fun _ _ => ?_
  split
  · exact (fanOut _ _).bind fun _ _ => ret _
  · exact ret _

theorem endCapture (ongoing : Recording) :
    Keeps (endCapture ongoing) fun o => o.summary.mode = ongoing.summary.mode := by
  unfold Fleet.endCapture
  dsimp only
  split
  · refine (fanOut _ _).bind fun _ _ => tick.bind fun _ _ => (fanOut _ _).bind fun _ _ => ?_
    exact Keeps.pure (by simp)
  · refine tick.bind fun _ _ => (fanOut _ _).bind fun _ _ => ?_
    exact Keeps.pure (by simp)

theorem reconcileOn (rec : Sync.Reconciler) (ids : List Nat) :
    Keeps (reconcileOn rec ids) fun _ => True := by
  refine (Keeps.mapM fun i => (onMember i _).bind fun _ _ => Keeps.get.bind fun _ _ => ret _).bind
    fun answers _ => ?_
  split
  · exact ret _
  · exact (Keeps.mapM fun _ => (onMember _ _).bind fun _ _ => Keeps.get.bind fun _ _ => ret _).bind
      fun _ _ => ret _

theorem reconcileRecording (ongoing : Recording) :
    Keeps (reconcileRecording ongoing) fun o => o.summary.mode = ongoing.summary.mode := by
  refine tick.bind fun built _ => Keeps.get.bind fun _ _ => (reconcileOn _ _).bind
    fun ⟨plan, err, reconciler⟩ _ => ?_
  refine (of_modify (fun _ => ?_) (fun _ => ?_)).bind fun _ _ => ?_
  · rfl
  · rfl
  dsimp only
  -- the chart is drawn only for a plan that relabelled every sensor
  split
  · split
    · exact (drawChart _ _).bind fun _ _ => Keeps.pure rfl
    · exact Keeps.pure rfl
  · split <;> exact Keeps.pure rfl

/-! ### Saving -/

theorem downloadRound (ids : List Nat) (done : List Bool) :
    Keeps (downloadRound ids done) fun _ => True := by
  refine (Keeps.mapM fun x => Keeps.get.bind fun _ _ => ?_).bind fun results _ => ?_
  · split
    · exact ret _
    · exact (onMember _ _).bind fun _ _ => ret _
  · dsimp only
    split
    · exact ret _
    · exact ret _

theorem writeIndex {σ : Type} (sink : FrameSink σ) (index : Nat) (ids : List Nat)
    (frames : List (Option Frame)) (merge : Bool) :
    Keeps (writeIndex sink index ids frames merge) fun _ => True := by
  refine Keeps.get.bind fun _ _ => ?_
  split
  · exact ret _
  · exact ret _

theorem saveFrom {σ : Type} (ids : List Nat) (merge : Bool) (fuel : Nat) (sink : FrameSink σ)
    (n : Nat) (done : List Bool) : Keeps (saveFrom ids merge fuel sink n done) fun _ => True := by
  induction fuel generalizing sink n done with
  | zero => exact ret _
  | succ fuel ih =>
    rw [Fleet.saveFrom]
    refine (downloadRound _ _).bind fun res _ => ?_
    split
    · exact ret _
    · dsimp only
      split
      · exact ret _
      · refine (writeIndex _ _ _ _ _).bind fun res _ => ?_
        split
        · exact ret _
        · split
          · exact ret _
          · exact ih _ _ _

theorem saveStored {σ : Type} (ids : List Nat) (mode : ExportMode) (merge : Bool)
    (sink : FrameSink σ) : Keeps (saveStored ids mode merge sink) fun _ => True := by
  unfold Fleet.saveStored
  split
  · exact ret _
  · exact Keeps.get.bind fun _ _ => saveFrom _ _ _ _ _ _

/-- Saving replaces a sink by the same sink with the take written, so a sink stays set. -/
theorem saveRecording (ongoing : Recording) :
    Keeps (saveRecording ongoing) fun o => o.summary.mode = ongoing.summary.mode := by
  intro r
  simp only [Fleet.saveRecording, run_bind, run_get]
  split
  · exact ⟨rfl, rfl, rfl⟩
  · next sink hsink =>
    simp only [run_bind, run_modify]
    have hsave := saveStored ongoing.members r.config.exportModeOr r.config.mergesOnSave
      (plyFrames (sink.beginTake (Utf8.encode ongoing.summary.take))) r
    generalize (Fleet.saveStored ongoing.members r.config.exportModeOr r.config.mergesOnSave
      (plyFrames (sink.beginTake (Utf8.encode ongoing.summary.take)))).run r = res at hsave ⊢
    obtain ⟨⟨n, st, err⟩, r₁⟩ := res
    obtain ⟨-, hc, he⟩ := hsave
    -- the sink written is the one saving started from, so a sink stays set
    have hsome : r₁.sink.isSome = r.sink.isSome := congrArg Control.hasSink hc
    have hkept : ({ r₁ with sink := some st } : Rig).control = r.control := by
      rw [← hc]
      simp only [Rig.control, hsome, hsink, Option.isSome_some]
    obtain ⟨-, hc', he'⟩ := fanOut ongoing.members (MemberM.exchange LinkM.clearStoredFrames)
      { r₁ with sink := some st }
    split
    · exact ⟨rfl, hc'.trans hkept, he'.trans he⟩
    · exact ⟨rfl, hc'.trans hkept, he'.trans he⟩

/-! ### Refining -/

theorem requirePointcloud : Keeps requirePointcloud fun _ => True :=
  Keeps.get.bind fun _ _ => ret _

/-- Keeping the control is a property that sequencing keeps. -/
theorem stable : Stable (m := RigM) fun {_} op => Keeps op fun _ => True :=
  ⟨ret, fun hx hf => hx.bind fun a _ => hf a⟩

theorem refineOn (ids : List Nat) : Keeps (refineOn ids) fun _ => True := by
  refine Keeps.get.bind fun r _ => stable.refine _ _ _ (ret _) (fun _ _ _ => ret _) ?_ ?_
  · intro record hrecord serial w
    cases hrecord
    exact keepCalibration _ _ _
  · intro d hd
    obtain ⟨i, -, rfl⟩ := List.mem_map.1 hd
    exact ⟨(onMember i _).bind fun _ _ => ret _, fun w => onMember i _⟩

end RigM.Keeps

/-! ## Under the lock -/

section Lock

variable (r : Rig)

/-- Admitting a recording only reads the rig. -/
theorem admitRecording_rig : (admitRecording.run r).2 = r := by
  simp only [admitRecording, run_get_bind]
  split
  · rfl
  · simp only [liveOrFail, run_bind]
    split
    · rfl
    · split
      · split <;> rfl
      · rfl

/-- The move from `source` to `target` is refused, changing nothing, unless the state machine
stands at `source` and no refinement runs; then it is made. -/
theorem transition_cases (source target : Phase) :
    (∃ f, (transition source target).run r = (some f, r)) ∨
      (r.phase = source ∧ r.refining = false ∧
        (transition source target).run r = (none, { r with phase := target })) := by
  simp only [transition, run_get_bind]
  by_cases hp : r.phase = source
  · by_cases hr : r.refining = true
    · exact .inl ⟨_, by simp only [hp, bne_self_eq_false, Bool.false_eq_true, if_false, if_pos hr]; rfl⟩
    · refine .inr ⟨hp, by simpa using hr, ?_⟩
      simp only [hp, bne_self_eq_false, Bool.false_eq_true, if_false, if_neg hr]
      rfl
  · exact .inl ⟨_, by simp only [bne_iff_ne, ne_eq, hp, not_false_eq_true, if_true]; rfl⟩

/-- Taking the refinement flag is refused, changing nothing, unless the state machine is idle
and no refinement runs; then the flag is taken. -/
theorem beginRefine_cases :
    (∃ f, beginRefine.run r = (some f, r)) ∨
      (r.phase = .idle ∧ r.refining = false ∧
        beginRefine.run r = (none, { r with refining := true })) := by
  simp only [beginRefine, run_get_bind]
  by_cases hp : r.phase = .idle
  · by_cases hr : r.refining = true
    · exact .inl ⟨_, by simp only [hp, bne_self_eq_false, Bool.false_eq_true, if_false, if_pos hr]; rfl⟩
    · refine .inr ⟨hp, by simpa using hr, ?_⟩
      simp only [hp, bne_self_eq_false, Bool.false_eq_true, if_false, if_neg hr]
      rfl
  · exact .inl ⟨_, by simp only [bne_iff_ne, ne_eq, hp, not_false_eq_true, if_true]; rfl⟩

/-- Choosing a sync mode is refused, changing nothing, unless the state machine is idle and
the mode agrees with hardware synchronization: hardware exactly when it is set up. -/
theorem setSyncMode_cases (m : SyncMode) :
    (∃ f, (setSyncMode m).run r = (some f, r)) ∨
      (r.phase = .idle ∧ (m = .hardware ↔ r.hwSync = true) ∧
        (setSyncMode m).run r = (none, { r with syncMode := m })) := by
  simp only [setSyncMode, run_get_bind]
  by_cases hp : r.phase = .idle
  · have hidle : (r.phase != .idle) = false := by simp [hp]
    by_cases hm : m = .hardware
    · by_cases hw : r.hwSync = true
      · refine .inr ⟨hp, by simp [hm, hw], ?_⟩
        simp only [hidle, Bool.false_eq_true, if_false, hm, beq_self_eq_true, if_true, hw,
          Bool.not_true]
        rfl
      · left
        exact ⟨_, by
          simp only [hidle, Bool.false_eq_true, if_false, hm, beq_self_eq_true, if_true, hw,
            Bool.not_false]
          rfl⟩
    · by_cases hw : r.hwSync = true
      · left
        exact ⟨_, by
          simp only [hidle, Bool.false_eq_true, if_false, beq_iff_eq, hm, hw, if_true]
          rfl⟩
      · refine .inr ⟨hp, by simp [hm, hw], ?_⟩
        simp only [hidle, Bool.false_eq_true, if_false, beq_iff_eq, hm, hw]
        rfl
  · exact .inl ⟨_, by simp only [bne_iff_ne, ne_eq, hp, not_false_eq_true, if_true]; rfl⟩

/-- Closing a session ends it, and keeps the rest of the control and the phases published. -/
theorem closeSession_control (ongoing : Recording) :
    ((closeSession ongoing).run r).2.control = { r.control with inSession := false } ∧
      ((closeSession ongoing).run r).2.entered = r.entered := by
  obtain ⟨-, hc, he⟩ := Keeps.finishSession ongoing.summary r
  simp only [closeSession, run_bind, run_modify]
  constructor
  · rw [← hc]
    rfl
  · exact he

end Lock

end DepthRig.Fleet
