import DepthRig.Fleet.Commands

/-!
# Recordings

A recording runs in the sync mode chosen before it starts and goes through its phases:
recording, reconciling for a hardware recording, saving with a sink and point-cloud export,
and back to idle. Starting allocates the take and prepares every sensor, leaving out those
that fail the handshake; a sensor that fails a capture round is dropped; stopping ends the
capture, reconciles and saves the stored frames one index at a time, then clears them.
-/

namespace DepthRig.Fleet

open RigM

/-- A sensor's frame in world coordinates. -/
def toWorld (w : Affine) (f : Frame) : Frame := f.mapPoints w.apply

/-- One download round: the next stored frame of every sensor not yet finished (none for
a finished sensor or a skipped frame) and which sensors have finished; a sensor's failure
fails the round. -/
def downloadRound (ids : List Nat) (done : List Bool) :
    RigM (Except Fault (List (Option Frame) × List Bool)) := do
  let results ← (ids.zip done).mapM fun (i, finished) => do
    let m := (← get).member i
    if finished then return ((none, true), ({ endpoint := m.link.endpoint, serial := m.serial } : Outcome))
    let ((f, more), fault) ← onMember i MemberM.nextStoredFrame
    return ((f, !more), { endpoint := m.link.endpoint, serial := m.serial, fault })
  let os := results.map (·.2)
  if Outcomes.failed os then
    return .error ((Outcomes.fault os).getD Fault.noDevices |>.wrap "stored frame download")
  return .ok (results.map (·.1.1), results.map (·.1.2))

/-- Where saved frames go: a state and a way to write frame `index` of a device (by
serial; empty for a merged frame) into it. -/
structure FrameSink (σ : Type) where
  state : σ
  write : σ → Nat → List UInt8 → Frame → Except Fault σ

/-- Write the frames of one index: merged in world coordinates, or each present frame
under its sensor's serial. -/
def writeIndex {σ : Type} (sink : FrameSink σ) (index : Nat) (ids : List Nat)
    (frames : List (Option Frame)) (merge : Bool) : RigM (Except Fault σ) := do
  let r ← get
  if merge then
    let moved := (ids.zip frames).map fun (i, f) => f.map (toWorld (r.member i).link.world)
    return sink.write sink.state index [] (Frame.merge moved)
  else
    return (ids.zip frames).foldlM (fun st (i, f) =>
      match f with
      | some f => sink.write st index (r.member i).link.config.serial f
      | none => .ok st) sink.state

/-- Download and write stored frames from index `n` on, for at most `fuel` indexes: the
number of indexes written, the sink, and the failure. Running out of fuel is a failure, never
a silent end: every sensor answers a round with its next frame or with the end of its frames,
so the rounds are bounded by the frames stored. -/
def saveFrom {σ : Type} (ids : List Nat) (merge : Bool) :
    Nat → FrameSink σ → Nat → List Bool → RigM (Nat × σ × Option Fault)
  | 0, sink, n, _ =>
    pure (n, sink.state, some (.plain "stored frame download: more rounds than frames stored"))
  | fuel + 1, sink, n, done => do
    match ← downloadRound ids done with
    | .error e => return (n, sink.state, some e)
    | .ok (frames, done) =>
      let more := done.any (!·)
      if !more && frames.all Option.isNone then return (n, sink.state, none)
      match ← writeIndex sink n ids frames merge with
      | .error e => return (n, sink.state, some e)
      | .ok st =>
        if !more then return (n + 1, st, none)
        saveFrom ids merge fuel { sink with state := st } (n + 1) done

/-- Save the stored frames of the given sensors into a sink, merging per index when asked;
only point-cloud recordings are saved. The number of indexes written, the sink, and the
failure. -/
def saveStored {σ : Type} (ids : List Nat) (mode : ExportMode) (merge : Bool) (sink : FrameSink σ) :
    RigM (Nat × σ × Option Fault) := do
  if mode != .pointcloud then
    return (0, sink.state, some (.exportMode ("stored frames are only downloaded in "
      ++ ExportMode.pointcloud.name ++ " mode, not " ++ mode.name)))
  let r ← get
  let fuel := (ids.map fun i => (r.member i).sensor.stored.length).foldl (· + ·) 0 + ids.length + 1
  saveFrom ids merge fuel sink 0 (ids.map fun _ => false)

/-- The PLY sink as a frame sink. -/
def plyFrames (s : PlySink) : FrameSink PlySink := ⟨s, fun s i d f => s.writeFrame i d f⟩

/-- The next index of a take name: from the session store when there is one, else from
the rig's own counters. -/
def nextTakeIndex (name : String) : RigM (Except Fault Int) := do
  let _ ← tick
  let r ← get
  match r.store with
  | some st =>
    match st.nextTakeIndex name with
    | .ok (st, i) => set { r with store := some st }; return .ok i
    | .error e => return .error e
  | none =>
    let n := ((r.takes.find? (·.1 == name)).map (·.2)).getD 0 + 1
    set { r with takes := (name, n) :: r.takes.filter (·.1 != name) }
    return .ok n

/-- Record the start of a session in the store, if there is one: its id, empty when the
store failed. -/
def startSession (name : String) (index : Int) (mode : SyncMode) (started : Time.Stamp) :
    RigM String := do
  let r ← get
  match r.store with
  | some st =>
    match st.startSession name index mode.name started with
    | .ok (st, id) => set { r with store := some st }; return id
    | .error _ => return ""
  | none => return ""

/-- Record a finished session's outcomes and end in the store, if there is one and the
session was recorded; failures are only noted. -/
def finishSession (s : Summary) : RigM Unit := modify fun r =>
  match r.store with
  | some st =>
    if s.sessionId.isEmpty then r
    else
      let st := s.outcomes.foldl (fun st (stage, os) => os.foldl (fun st o =>
        match st.recordOutcome s.sessionId stage o.endpoint o.serial (o.fault.map (·.message)) with
        | .ok st => st
        | .error _ => st) st) st
      let st := match st.finishSession s.sessionId s.stopped s.frames s.syncStatus with
        | .ok st => st
        | .error _ => st
      { r with store := some st }
  | none => r

/-- Write the chart of a plan built at `built` into the diagnostics directory, if one is
configured; a directory that cannot be made only loses the chart. -/
def drawChart (p : Sync.Plan) (built : Time.Stamp) : RigM Unit := modify fun r =>
  let dir := r.config.diagnosticsDirOr
  if dir.isEmpty then r
  else
    match Sync.saveChart r.plainFiles p dir built.compact with
    | .ok (path, _) => { r with charts := r.charts ++ [path] }
    | .error _ => r

/-- Run one network capture round of the recording: sensors that fail are dropped, and the
round counts for the rest. Whether sensors are left. -/
def networkRound (ongoing : Recording) : RigM (Recording × Bool) := do
  let os ← captureOn ongoing.members
  let ongoing := if Outcomes.failed os then
    { ongoing with
      summary := ongoing.summary.setStage "capture" (ongoing.summary.stage "capture" ++ os.filter Outcome.failed)
      members := Outcomes.succeeded ongoing.members os }
    else ongoing
  if ongoing.members.isEmpty then
    return ({ ongoing with summary := { ongoing.summary with error := some (Fault.noDevices.wrap "capture") } }, false)
  return ({ ongoing with frames := ongoing.frames + 1 }, true)

/-! ## Starting -/

/-- What starting a recording checks before it takes the lock: a recording sync mode,
usable sensors, and for hardware sync a valid sync-jack layout. The mode and the sensors. -/
def admitRecording : RigM (Except Fault (SyncMode × List Nat)) := do
  let r ← get
  let mode := r.syncMode
  if mode != .network && mode != .hardware then
    return .error (.syncModeConflict ("recording needs network or hardware sync, have " ++ mode.name))
  match ← liveOrFail with
  | .error f => return .error f
  | .ok ids =>
    if mode == .hardware then
      if let .error f := orderForHardwareSync (fun i => (r.member i).link) ids then return .error f
    return .ok (mode, ids)

/-- The move the state machine makes under the lock when a recording starts: refused when
it stands anywhere but at `source`, or while a refinement runs. -/
def transition (source target : Phase) : RigM (Option Fault) := do
  let r ← get
  if r.phase != source then return some (.invalidState (r.phase.name ++ ", want " ++ source.name))
  if r.refining then return some (.invalidState "refinement running")
  setPhase target
  return none

/-- Prepare a recording on the given sensors: allocate the take, have every sensor create
its directory (all must succeed), clear their stored frames, run the pre-recording handshake
and keep the sensors that pass it, record the session's start, and for hardware sync start
free-running capture. The recording, or why it cannot start. -/
def prepareRecording (mode : SyncMode) (ids : List Nat) : RigM (Except Fault Recording) := do
  let name := (← get).config.takeNameOr
  let index ← match ← nextTakeIndex name with
    | .error f => return .error f
    | .ok i => pure i
  let take := name ++ "_" ++ toString index
  let made ← fanOut ids (MemberM.createDirectory (Utf8.encode take))
  if Outcomes.failed made then
    return .error ((Outcomes.fault made).getD Fault.noDevices |>.wrap ("take " ++ take))
  let _ ← fanOut ids (MemberM.exchange LinkM.clearStoredFrames)
  let pre ← fanOut ids MemberM.preRecord
  let active := Outcomes.succeeded ids pre
  if active.isEmpty then
    return .error ((Outcomes.fault pre).getD Fault.noDevices |>.wrap "pre-record")
  let started ← tick
  let id ← startSession name index mode started
  let mut ongoing : Recording :=
    { members := active
      summary := { sessionId := id, take, mode, outcomes := [("pre-record", pre)], started } }
  if mode == .hardware then
    let started ← fanOut active (MemberM.exchange LinkM.startCapture)
    ongoing := { ongoing with summary := ongoing.summary.setStage "start" started }
  return .ok ongoing

/-- Make a prepared recording the one in progress. -/
def openSession (ongoing : Recording) : RigM Unit :=
  modify fun r => { r with recording := some ongoing }

/-! ## Finishing -/

/-- End capturing: free-running capture stops (hardware sync), the stop time and the frames
so far are noted, and the post-recording handshake runs, also for a cancelled recording. -/
def endCapture (ongoing : Recording) : RigM Recording := do
  let mut s := ongoing.summary
  if s.mode == .hardware then
    s := s.setStage "stop" (← fanOut ongoing.members (MemberM.exchange LinkM.stopCapture))
  s := { s with frames := ongoing.frames, stopped := ← tick }
  s := s.setStage "post-record" (← fanOut ongoing.members MemberM.postRecord)
  return { ongoing with summary := s }

/-- Whether a recording whose capture has ended is reconciled: it is hardware-synchronized
and not cancelled. -/
def Recording.reconciles (ongoing : Recording) (cancelled : Bool) : Bool :=
  ongoing.summary.mode == .hardware && !cancelled

/-- Reconcile a hardware recording's stored frames: build the plan and relabel every
sensor's frames by it. A reconciled recording counts the plan's reference instants as its
frames; one that failed keeps why. -/
def reconcileRecording (ongoing : Recording) : RigM Recording := do
  let built ← tick
  let (plan, err, reconciler) ← reconcileOn (← get).reconciler ongoing.members
  modify fun r => { r with reconciler, planBuilt := if plan.isSome then built else r.planBuilt }
  if let some p := plan then
    if err.isNone then drawChart p built
  let mut s := { ongoing.summary with syncError := err }
  if err.isNone then
    s := { s with frames := (plan.map (·.reference.length)).getD s.frames }
  return { ongoing with summary := s }

/-- Whether a finished recording is saved: there is a sink, frames are exported as point
clouds, and the recording was not cancelled. -/
def Rig.saves (r : Rig) (cancelled : Bool) : Bool :=
  r.sink.isSome && !cancelled && r.config.exportModeOr == .pointcloud

/-- Save a recording's stored frames into the sink under its take, then clear them on the
sensors. A failure to save is kept as the recording's error. -/
def saveRecording (ongoing : Recording) : RigM Recording := do
  let r ← get
  match r.sink with
  | none => return ongoing
  | some sink =>
    let sink := sink.beginTake (Utf8.encode ongoing.summary.take)
    let (n, sink, err) ← saveStored ongoing.members r.config.exportModeOr r.config.mergesOnSave (plyFrames sink)
    modify fun r => { r with sink := some sink }
    let mut s := { ongoing.summary with saved := n }
    if let some e := err then
      s := { s with error := Fault.join (s.error.toList ++ [e.wrap "saving"]) }
    let _ ← fanOut ongoing.members (MemberM.exchange LinkM.clearStoredFrames)
    return { ongoing with summary := s }

/-- Close a finished recording's session: record it in the store, and keep its summary as
the last one with no recording in progress. -/
def closeSession (ongoing : Recording) : RigM Summary := do
  finishSession ongoing.summary
  modify fun r => { r with recording := none, lastSummary := some ongoing.summary }
  return ongoing.summary

/-- Finish a recording whose capturing has ended: post-processing, unless it was
cancelled, then the summary is kept and the coordinator is idle again. -/
def finishRecording (ongoing : Recording) (cancelled : Bool) : RigM Summary := do
  let ongoing ← endCapture ongoing
  let ongoing ← if ongoing.reconciles cancelled then do
      enter .reconciling
      reconcileRecording ongoing
    else pure ongoing
  let ongoing ← if (← get).saves cancelled then do
      enter .saving
      saveRecording ongoing
    else pure ongoing
  let s ← closeSession ongoing
  enter .idle
  return s

/-! ## Recording as one call -/

/-- Start a recording in the current sync mode: the take's name, or why it did not start.
A network recording runs its first capture round before this returns, and finishes at once
if that round leaves no sensor. -/
def startRecording : RigM (Except Fault String) := do
  match ← admitRecording with
  | .error f => return .error f
  | .ok (mode, ids) =>
    if let some f ← transition .idle .recording then return .error f
    announce .recording
    match ← prepareRecording mode ids with
    | .error f =>
      enter .idle
      return .error f
    | .ok ongoing =>
      openSession ongoing
      if mode == .network then
        let (next, going) ← networkRound ongoing
        modify fun r => { r with recording := some next }
        if !going then
          let _ ← finishRecording next false
      return .ok ongoing.summary.take

/-- Stop the recording in progress and wait for it to finish: its summary, and what cut
it short. -/
def stopRecording : RigM (Except Fault Summary) := do
  match (← get).recording with
  | none => return .error (.invalidState "no recording in progress")
  | some ongoing => return .ok (← finishRecording ongoing false)

end DepthRig.Fleet
