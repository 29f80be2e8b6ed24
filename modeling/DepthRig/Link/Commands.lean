import DepthRig.Link.Inbound
import DepthRig.Wire.Settings
import DepthRig.Text.Quote

/-!
# Requests to the sensor

Each request clears the flag its answer will set, makes a ready link busy for a capture,
calibration or restart, and writes its command; a request that waits is settled by whoever
waits. A pushed configuration shows at once and comes back off on a rejection.
-/

namespace DepthRig

open Wire

namespace LinkM

/-- A waiting request whose failure yields `failed`. -/
def awaiting {α : Type} (what : String) (ready : Link → Bool) (failed : α)
    (done : LinkM (α × Option Fault)) : Started α :=
  .waiting (Wait.simple what ready failed done)

/-- Start a request: clear its state, write its command, and wait unless the write
failed. -/
def request {α : Type} (clear : Link → Link) (cmd : Command) (payload : List UInt8)
    (whenDone : Started α) (failed : α) : LinkM (Started α) := do
  update clear
  match ← send cmd payload with
  | some e => pure (.finished (failed, some e))
  | none => pure whenDone

/-- Ask for a capture. -/
def requestCapture : LinkM (Option Fault) := do
  update fun l => { l with flags := { l.flags with frameCaptured := false } }.enter .capturing
  send .captureFrame []

/-- Wait for the capture to be confirmed. -/
def waitCaptured : Wait Unit :=
  .simple "capture" (·.flags.frameCaptured) () (pure ((), none))

/-- Ask for the sensor's configuration. -/
def requestConfiguration : LinkM (Option Fault) := do
  update fun l => { l with flags := { l.flags with configurationReceived := false } }
  send .requestConfiguration []

/-- Wait for a configuration; the link's configuration is the result either way. -/
def waitConfiguration : Wait DeviceConfig :=
  ⟨"configuration", (·.flags.configurationReceived),
    fun e => do return ((← link).config, e)⟩

/-- Push a configuration and wait for the sensor to echo or reject it. -/
def pushConfiguration (cfg : DeviceConfig) : LinkM (Started Unit) := do
  match cfg.validate with
  | .error e => pure (.finished ((), some (.plain e.message)))
  | .ok () =>
    let before ← link
    update fun l => { l with config := cfg }
    match ← send .setConfiguration cfg.encode with
    | some e => pure (.finished ((), some e))
    | none =>
      pure (.waiting ⟨"configuration ack",
        (fun l => before.configurations < l.configurations || before.rejections < l.rejections),
        fun e => match e with
          | some e => pure ((), some e)
          | none => do
            let l ← link
            let rejected := before.rejections < l.rejections && l.configurations == before.configurations
            update fun l => if rejected then { l with config := before.config } else l
            if rejected then
              return ((), some (.ofKind .configurationRejected
                ("configuration rejected by sensor: " ++ l.endpoint)))
            else return ((), none)⟩)

/-- Push the session settings. -/
def pushSettings (s : Settings) : LinkM (Option Fault) := send .receiveSettings s.encodePrefixed

/-- Ask for the latest live frame. -/
def requestLastFrame : LinkM (Option Fault) := do
  update fun l => { l with flags := { l.flags with latestFrameReceived := false } }
  send .requestLastFrame []

/-- Wait for the live frame; the result is the link's frame. -/
def waitLastFrame : Wait (Option Frame) :=
  .simple "last frame" (·.flags.latestFrameReceived) none do return ((← link).frame, none)

/-- Ask for the latest live frame and wait for it. -/
def lastFrame : LinkM (Started (Option Frame)) := do
  match ← requestLastFrame with
  | some e => pure (.finished (none, some e))
  | none => pure (.waiting waitLastFrame)

/-- Ask for the next stored frame. -/
def requestStoredFrame : LinkM (Option Fault) := do
  update fun l =>
    { l with flags := { l.flags with storedFrameReceived := false, noMoreStoredFrames := false }
             stored := none }
  send .requestStoredFrame []

/-- Wait for the stored frame: the frame answered (none if it was skipped) and whether
stored frames remain. -/
def waitStoredFrame : Wait (Option Frame × Bool) :=
  .simple "stored frame" (·.flags.storedFrameReceived) (none, true) do
    let l ← link
    return ((l.stored, !l.flags.noMoreStoredFrames), none)

/-- Ask for the next stored frame and wait for it. -/
def nextStoredFrame : LinkM (Started (Option Frame × Bool)) := do
  match ← requestStoredFrame with
  | some e => pure (.finished ((none, true), some e))
  | none => pure (.waiting waitStoredFrame)

/-- Discard the frames stored on the sensor. -/
def clearStoredFrames : LinkM (Option Fault) := send .clearStoredFrames []

/-- Ask for a marker calibration. -/
def calibrate : LinkM (Option Fault) := do
  update fun l => { l with flags := { l.flags with calibrated := false } }.enter .calibrating
  send .calibrate []

/-- Wait for the calibration record. -/
def waitCalibrated : Wait Unit :=
  .simple "calibration" (·.flags.calibrated) () (pure ((), none))

/-- Push the link's world transform to the sensor. -/
def sendCalibrationData : LinkM (Option Fault) := do
  let w := (← link).world
  send .receiveCalibration (encodeWorldCalibration w.r w.t)

/-- Replace the world transform and its camera pose. -/
def setWorld (w : Affine) : LinkM Unit :=
  update fun l => { l with world := w, pose := w.cameraPose }

/-- Ask the sensor to restart with its current settings. -/
def restart : LinkM (Option Fault) := do
  update fun l =>
    { l with flags := { l.flags with reinitialized := false, reinitializationError := false } }.enter .reinitializing
  send .restartWithSettings []

/-- Wait for the restart; a reported failure is a restart failure. -/
def waitReinitialized : Wait Unit :=
  .simple "restart" (·.flags.reinitialized) () do
    let l ← link
    if l.flags.reinitializationError then
      return ((), some (.ofKind .restartFailed ("sensor reinitialization failed: " ++ l.endpoint)))
    else return ((), none)

/-- Start free-running capture. -/
def startCapture : LinkM (Option Fault) := do
  update fun l => l.enter .capturing
  send .startCaptureFrames []

/-- Stop free-running capture; the link settles whether or not the write worked. -/
def stopCapture : LinkM (Option Fault) := do
  let r ← send .stopCaptureFrames []
  update fun l => l.settle .capturing
  return r

/-- The pre-recording handshake. -/
def preRecord : LinkM (Started Unit) :=
  request (fun l => { l with flags := { l.flags with preRecordConfirmed := false } })
    .preRecordProcessStart []
    (awaiting "pre-record confirmation" (·.flags.preRecordConfirmed) () (pure ((), none))) ()

/-- The post-recording handshake. -/
def postRecord : LinkM (Started Unit) :=
  request (fun l => { l with flags := { l.flags with postRecordConfirmed := false } })
    .postRecordProcessStart []
    (awaiting "post-record confirmation" (·.flags.postRecordConfirmed) () (pure ((), none))) ()

/-- A request that succeeds only if the sensor's answer reports success. -/
def confirmedBy (failure : String) : LinkM (Unit × Option Fault) := do
  let l ← link
  if l.replyOk then return ((), none)
  else return ((), some (.ofKind .commandFailed ("sensor reported failure: " ++ l.endpoint ++ " " ++ failure)))

/-- Ask the sensor to create the directory it stores frames under. -/
def createDirectory (path : List UInt8) : LinkM (Started Unit) :=
  request (fun l => { l with flags := { l.flags with directoryConfirmed := false } })
    .createDirectory (encodeDirectory path)
    (awaiting "directory confirmation" (·.flags.directoryConfirmed) ()
      (confirmedBy ("could not create " ++ Quote.bytes path))) ()

/-- Fetch the stored frames' timestamps; a failure yields an empty list. -/
def requestTimestampList : LinkM (Started TimestampList) :=
  request (fun l => { l with flags := { l.flags with timestampsReceived := false } })
    .requestTimestampList []
    (awaiting "timestamp list" (·.flags.timestampsReceived) ⟨[], []⟩
      (do return ((← link).timestamps, none))) ⟨[], []⟩

/-- Send a relabelling of the stored frames and wait for its confirmation. -/
def sendPostSyncList (list : PostSyncList) : LinkM (Started Unit) :=
  match list.encode with
  | .error lens => pure (.finished ((), some (.plain (PostSyncList.mismatchMessage lens))))
  | .ok bytes =>
    request (fun l => { l with flags := { l.flags with postSyncConfirmed := false } })
      .receivePostSyncList bytes
      (awaiting "post-sync confirmation" (·.flags.postSyncConfirmed) ()
        (confirmedBy "could not reorder stored frames")) ()

/-- Close the connection: the link goes down. -/
def close : LinkM Unit := disconnect (Fault.disconnected "")

end LinkM

end DepthRig
