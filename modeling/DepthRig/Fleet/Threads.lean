import DepthRig.Fleet.Preview

/-!
# Coordinator calls side by side

Each call in flight, and each recording's drive, is a thread: a sequence of atomic steps,
each one section under the coordinator's lock or one exchange with the sensors, with the
announcement of a phase (pausing or resuming the preview, telling subscribers) a step of its
own after the lock is released. A schedule is a list of events: a client makes a call, or a
thread takes its next step.
-/

namespace DepthRig.Fleet

open RigM

/-- How far a recording's drive has come. -/
inductive DriveStage where
  /-- Capturing until stopped: network rounds, or hardware free running. -/
  | capturing
  /-- Capturing has ended; the post-recording handshake is next. -/
  | captured
  /-- In the Reconciling phase, not yet announced. -/
  | reconciling
  /-- In the Saving phase, not yet announced. -/
  | saving
  /-- Post-processing is done; the session is closed next. -/
  | finishing
  /-- The session is closed; the state machine returns to Idle next. -/
  | closing
  /-- Back in Idle, not yet announced. -/
  | idling
  /-- The drive has ended. -/
  | finished
  deriving DecidableEq, Repr

/-- A recording's drive: the recording, how far it has come, whether it was asked to stop
or cancelled, and the phases announced for its session so far. -/
structure Drive where
  ongoing : Recording
  stage : DriveStage := .capturing
  stopped : Bool := false
  cancelled : Bool := false
  announced : List Phase := [.recording]

namespace Drive

/-- After capturing: enter Reconciling (hardware sync, not cancelled), else Saving (a sink,
point-cloud export, not cancelled), else go straight to closing the session. -/
def postProcess (d : Drive) : RigM Drive := do
  if d.ongoing.reconciles d.cancelled then
    setPhase .reconciling
    return { d with stage := .reconciling }
  else if (← get).saves d.cancelled then
    setPhase .saving
    return { d with stage := .saving }
  else return { d with stage := .finishing }

/-- The drive's next step. -/
def step (d : Drive) : RigM Drive :=
  match d.stage with
  | .capturing =>
    if d.stopped || d.cancelled then pure { d with stage := .captured }
    else if d.ongoing.summary.mode == .network then do
      let (next, going) ← networkRound d.ongoing
      modify fun r => { r with recording := some next }
      return { d with ongoing := next, stage := if going then .capturing else .captured }
    -- a hardware recording waits to be stopped
    else pure d
  | .captured => do
    let ongoing ← endCapture d.ongoing
    postProcess { d with ongoing }
  | .reconciling => do
    announce .reconciling
    let ongoing ← reconcileRecording d.ongoing
    let d := { d with ongoing, announced := d.announced ++ [Phase.reconciling] }
    if (← get).saves d.cancelled then
      setPhase .saving
      return { d with stage := .saving }
    else return { d with stage := .finishing }
  | .saving => do
    announce .saving
    let ongoing ← saveRecording d.ongoing
    return { d with ongoing, stage := .finishing, announced := d.announced ++ [Phase.saving] }
  | .finishing => do
    let _ ← closeSession d.ongoing
    return { d with stage := .closing }
  | .closing => do
    setPhase .idle
    return { d with stage := .idling }
  | .idling => do
    announce .idle
    return { d with stage := .finished, announced := d.announced ++ [Phase.idle] }
  | .finished => pure d

end Drive

/-- A thread of the coordinator: a call in flight, or a recording's drive. -/
inductive Thread where
  /-- A call to start a recording, before its checks. -/
  | starting
  /-- A start that passed its checks, with its sync mode and sensors, at the lock. -/
  | admitted (mode : SyncMode) (ids : List Nat)
  /-- A start that moved to Recording: it announces the phase and prepares the sensors. -/
  | preparing (mode : SyncMode) (ids : List Nat)
  /-- A start whose recording is prepared, at the lock to make it the session. -/
  | prepared (ongoing : Recording)
  /-- A start whose preparation failed, at the lock to return to Idle. -/
  | abandoning
  /-- A start back in Idle, announcing it. -/
  | abandoned
  /-- A recording's drive. -/
  | drive (d : Drive)
  /-- A call to refine, before its checks. -/
  | refineCalled
  /-- A refinement holding the refinement flag, with its sensors. -/
  | refining (ids : List Nat)
  /-- A refinement that has done its work, at the lock to drop the flag. -/
  | refined
  /-- A call that has returned. -/
  | returned

namespace Thread

/-- The thread's next step: the thread after it, and the threads it spawned. -/
def step : Thread → RigM (Thread × List Thread)
  | .starting => do
    match ← admitRecording with
    | .error _ => return (.returned, [])
    | .ok (mode, ids) => return (.admitted mode ids, [])
  | .admitted mode ids => do
    match ← transition .idle .recording with
    | some _ => return (.returned, [])
    | none => return (.preparing mode ids, [])
  | .preparing mode ids => do
    announce .recording
    -- the preparation's fan-outs (directories, clearing, the pre-record handshake) run one
    -- after another outside the lock; they are one step here, so a stop or a hang-up that
    -- could come between two of them is taken before or after them all
    match ← prepareRecording mode ids with
    | .error _ => return (.abandoning, [])
    | .ok ongoing => return (.prepared ongoing, [])
  | .prepared ongoing => do
    openSession ongoing
    return (.returned, [.drive { ongoing }])
  | .abandoning => do
    setPhase .idle
    return (.abandoned, [])
  | .abandoned => do
    announce .idle
    return (.returned, [])
  | .drive d => do
    return (.drive (← d.step), [])
  | .refineCalled => do
    if (← requirePointcloud).isSome then return (.returned, [])
    match ← liveOrFail with
    | .error _ => return (.returned, [])
    | .ok ids =>
      match ← beginRefine with
      | some _ => return (.returned, [])
      | none => return (.refining ids, [])
  | .refining ids => do
    let _ ← refineOn ids
    return (.refined, [])
  | .refined => do
    endRefine
    return (.returned, [])
  | .returned => return (.returned, [])

end Thread

/-- A call a client makes. -/
inductive Call where
  | startRecording
  /-- Stop the session in progress; the caller then waits for it. -/
  | stopRecording
  /-- Stop the session of a thread, as a client holding it may. -/
  | stop (thread : Nat)
  /-- Cancel the session of a thread: stop it and abort its post-processing. -/
  | cancel (thread : Nat)
  | refine
  | setSyncMode (mode : SyncMode)
  /-- The fleet was seen empty. -/
  | fleetEmptied
  /-- A sensor's connection ends, and the registry drops it. -/
  | hangUp (member : Nat)

/-- What happens next: a call, or the next step of a thread. -/
inductive Event where
  | call (c : Call)
  | advance (thread : Nat)

/-- The rig and every thread started on it, in the order they started. -/
structure Threads where
  rig : Rig
  threads : List Thread := []

namespace Threads

/-- Ask the drive of thread `i` to stop, and cancel it too when `cancel` is set. -/
def signal (t : Threads) (i : Nat) (cancel : Bool) : Threads :=
  { t with threads := t.threads.modify i fun
    | .drive d => .drive { d with stopped := true, cancelled := d.cancelled || cancel }
    | th => th }

/-- Make a call. -/
def call (t : Threads) : Call → Threads
  | .startRecording => { t with threads := t.threads ++ [.starting] }
  | .stopRecording => { t with threads := t.threads.map fun
      | .drive d => .drive (if d.stage == .capturing then { d with stopped := true } else d)
      | th => th }
  | .stop i => t.signal i false
  | .cancel i => t.signal i true
  | .refine => { t with threads := t.threads ++ [.refineCalled] }
  | .setSyncMode m => { t with rig := ((Fleet.setSyncMode m).run t.rig).2 }
  | .fleetEmptied => { t with rig := (dropHardwareSync.run t.rig).2 }
  | .hangUp i => { t with rig := ((do onMember i MemberM.hangUp; prune).run t.rig).2 }

/-- Let thread `i` take its next step; new threads go last. -/
def advance (t : Threads) (i : Nat) : Threads :=
  match t.threads[i]? with
  | none => t
  | some th =>
    let ((th', spawned), rig) := th.step.run t.rig
    { rig, threads := t.threads.set i th' ++ spawned }

/-- What an event does. -/
def apply (t : Threads) : Event → Threads
  | .call c => t.call c
  | .advance i => t.advance i

/-- Run a schedule. -/
def run (t : Threads) (evs : List Event) : Threads := evs.foldl apply t

end Threads

end DepthRig.Fleet
