import DepthRig.Link.Connection
import DepthRig.Wire.Framing
import DepthRig.Wire.Calibration

/-!
# Messages from the sensor

The link's reader takes one message at a time from the sensor's stream and applies it. A
spurious or malformed frame still answers its request, the stream staying aligned because its
framing was read whole; anything else that goes wrong leaves the position unknown, so the link
goes down.
-/

namespace DepthRig

open Wire

/-- A message from the sensor, with what it carries. -/
inductive Inbound where
  | captured
  | calibrated (record : CalibrationRecord)
  /-- A stored (`true`) or live frame, or why it was skipped. -/
  | frame (stored : Bool) (payload : Except WireError Payload)
  | configuration (config : DeviceConfig)
  | rejected
  | restarted (status : UInt8)
  | preRecordConfirmed
  | postRecordConfirmed
  | directoryCreated (status : UInt8)
  | timestamps (list : TimestampList)
  | postSynced (status : UInt8)
  deriving Inhabited

namespace Inbound

/-- A framed payload; spurious and malformed frames are kept as such, any other stop
propagates. -/
def frameReader (stored : Bool) : Decode Inbound :=
  tryCatch (do let p ← readFramed true; pure (frame stored (.ok p))) fun
    | .wire e =>
      if e.isSpurious || e.isMalformed then pure (frame stored (.error e)) else throw (.wire e)
    | s => throw s

/-- The reader of one message. -/
def reader : Decode Inbound := do
  let b ← u8 readFull
  match Message.ofByte? b with
  | none => fail (.unknownMessage b)
  | some .confirmCaptured => pure captured
  | some .confirmCalibrated =>
    let bs ← readFull CalibrationRecord.size
    match CalibrationRecord.decode bs with
    | .ok r => pure (calibrated r)
    | .error e => fail e
  | some .storedFrame => frameReader true
  | some .lastFrame => frameReader false
  | some .configuration =>
    let bs ← readFull DeviceConfig.blockSize
    match DeviceConfig.decode bs with
    | .ok c => pure (configuration c)
    | .error e => fail e
  | some .confirmRestart => pure (restarted (← u8 readFull))
  | some .confirmPreRecord => pure preRecordConfirmed
  | some .confirmPostRecord => pure postRecordConfirmed
  | some .confirmDirCreation => pure (directoryCreated (← u8 readFull))
  | some .timestampList => pure (timestamps (← TimestampList.reader))
  | some .confirmPostSynced => pure (postSynced (← u8 readFull))
  | some .configurationRejected => pure rejected

/-- What a frame answer does to the link. -/
def applyFrame (stored : Bool) (payload : Except WireError Payload) (l : Link) : Link :=
  let l := match payload with
    | .error _ => { l with skipped := l.skipped + 1 }
    | .ok _ => l
  let keep (f : Frame) (l : Link) : Link := { l with frame := some f, received := l.received + 1 }
  if stored then
    let l := { l with flags := { l.flags with storedFrameReceived := true }, stored := none }
    match payload with
    | .ok .endOfStored => { l with flags := { l.flags with noMoreStoredFrames := true } }
    | .ok (.frame f) => keep f { l with stored := some f }
    | .error _ => l
  else
    let l := { l with flags := { l.flags with latestFrameReceived := true } }
    match payload with
    | .ok (.frame f) => keep f l
    | _ => l

/-- Apply a message to the link. -/
def apply : Inbound → LinkM Unit
  | captured => LinkM.update fun l =>
    { l with flags := { l.flags with frameCaptured := true } }.settle .capturing
  | calibrated r => LinkM.update fun l =>
    let world : Affine := ⟨r.rotation, r.translation⟩
    { l with markerId := r.markerId, world := world, pose := world.cameraPose
             flags := { l.flags with calibrated := true } }.settle .calibrating
  | frame stored p => LinkM.update (applyFrame stored p)
  | configuration c => do
    LinkM.update fun l =>
      { l with config := c, configurations := l.configurations + 1
               flags := { l.flags with configurationReceived := true }
               state := if l.state == .awaitingConfiguration then .ready else l.state }
    LinkM.publish (.configurationUpdated c)
  | rejected => LinkM.update fun l => { l with rejections := l.rejections + 1 }
  | restarted status => LinkM.update fun l =>
    { l with flags := { l.flags with reinitialized := true, reinitializationError := status != 0 } }.settle .reinitializing
  | preRecordConfirmed => LinkM.update fun l =>
    { l with flags := { l.flags with preRecordConfirmed := true } }
  | postRecordConfirmed => LinkM.update fun l =>
    { l with flags := { l.flags with postRecordConfirmed := true } }
  | directoryCreated status => LinkM.update fun l =>
    { l with flags := { l.flags with directoryConfirmed := true }, replyOk := status == 1 }
  | timestamps list => LinkM.update fun l =>
    { l with timestamps := list, flags := { l.flags with timestampsReceived := true } }
  | postSynced status => LinkM.update fun l =>
    { l with flags := { l.flags with postSyncConfirmed := true }, replyOk := status == 1 }

end Inbound

namespace LinkM

/-- Stop the reader on a fault from the stream: the end of the stream between messages is
the sensor closing the connection; anything else takes the link down with the fault. -/
def readerStopped (s : ReadStop) : LinkM Unit := do
  match s with
  | .ended =>
    disconnect (Fault.disconnected "")
    modify fun c => { c with inbox := [] }
  | s =>
    let f := s.toFault
    disconnect (Fault.disconnected f.message)
    modify fun c => { c with inbox := [], readerEnd := some (some f) }

/-- Read and apply the complete messages in the inbox, `fuel` at most; `ended` says
the sensor has closed its end, so that nothing more will come. -/
def readMessages (ended : Bool) : Nat → LinkM Unit
  | 0 => pure ()
  | fuel + 1 => do
    let c ← get
    if c.readerEnd.isSome then return
    let (r, cur) := Inbound.reader.runOn ⟨c.inbox, 0, ended⟩
    match r with
    | .ok m =>
      set { c with inbox := cur.rest }
      m.apply
      readMessages ended fuel
    | .error .waiting => pure ()
    | .error s => readerStopped s

/-- Bytes arrive from the sensor, and possibly the end of its stream: the reader applies
every message that is complete. -/
def receive (bytes : List UInt8) (ended : Bool) : LinkM Unit := do
  modify fun c => { c with inbox := c.inbox ++ bytes }
  let c ← get
  readMessages ended (c.inbox.length + 1)

end LinkM

end DepthRig
