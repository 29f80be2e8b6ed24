import DepthRig.Simulator.Scene
import DepthRig.Wire.Framing
import DepthRig.Wire.Settings
import DepthRig.Wire.Device
import DepthRig.Wire.Lists
import DepthRig.Wire.Message

/-!
# Simulated sensors

A simulated sensor speaks the sensor's side of the protocol: it reads commands one at a time,
answers some of them, and keeps what the server told it and the frames it stored, each with a
hardware timestamp and a frame number. A command that cannot be read or answered ends the
connection.
-/

namespace DepthRig.Simulator

open Wire DepthRig.Random

/-- How a simulated sensor is set up. -/
structure Setup where
  serial : String := ""
  hardwareSync : SyncState := SyncState.main
  scene : List Point3 := []
  colors : List Color := []
  pose : CalibrationRecord := ⟨0, Rotation.identity, Point3.origin⟩
  /-- What the sensor reports after calibrating; its pose when unset. -/
  calibration : Option CalibrationRecord := none
  bodies : List Body := []
  /-- The free-running frame period in microseconds; zero selects 33 milliseconds. -/
  framePeriodUs : Nat := 0
  timestampOffset : UInt64 := 0
  timestampJitter : UInt64 := 0
  /-- Whether frame payloads are compressed. -/
  compress : Bool := false
  rejectConfiguration : Bool := false
  failRestart : Bool := false
  failDirectory : Bool := false
  failPostSync : Bool := false
  ignoreCapture : Bool := false
  deriving Inhabited

/-- The default frame period: 33 milliseconds. -/
def Setup.periodUs (s : Setup) : Nat := if s.framePeriodUs == 0 then 33000 else s.framePeriodUs

/-- A stored frame: the capture, its hardware timestamp and its frame number. -/
structure StoredShot where
  frame : Frame
  timestamp : UInt64
  number : Int32
  deriving Inhabited

/-- A simulated sensor's state. -/
structure Sensor where
  setup : Setup
  /-- The scene in sensor coordinates. -/
  points : List Point3
  config : DeviceConfig
  settings : Option Settings := none
  world : Option CalibrationRecord := none
  stored : List StoredShot := []
  cursor : Nat := 0
  directories : List (List UInt8) := []
  captures : Nat := 0
  restarts : Nat := 0
  /-- Every command received, oldest first. -/
  commands : Array Command := #[]
  rng : Generator
  /-- Received bytes that do not yet make a whole command. -/
  pending : List UInt8 := []
  /-- Whether the sensor still serves its connection. -/
  serving : Bool := true
  deriving Inhabited

/-- Whether every entry of a record is zero (as a number). -/
def isBlank (r : CalibrationRecord) : Bool :=
  r.markerId == 0 && r.rotation.toList.all (·.eqv .zero) && r.translation.toList.all (·.eqv .zero)

namespace Sensor

/-- A sensor as set up: a blank pose means the identity; the configuration is the default
one with the sensor's serial and sync-jack role; the jitter generator is seeded with the
serial's length plus one. -/
def create (setup : Setup) : Sensor :=
  let setup := if isBlank setup.pose then { setup with pose := { setup.pose with rotation := Rotation.identity } } else setup
  { setup, points := toLocal setup.scene setup.pose
    config := { DeviceConfig.default with serial := setup.serial.toUTF8.toList, hardwareSync := setup.hardwareSync }
    rng := Generator.seeded (setup.serial.utf8ByteSize + 1) }

/-- The frame the sensor sees: its scene with its colours (grey when they do not match the
points one for one) and its bodies. -/
def snapshot (s : Sensor) : Frame :=
  let colors := if s.setup.colors.length == s.points.length then s.setup.colors
    else s.points.map fun _ => ⟨200, 200, 200⟩
  { vertices := s.points, colors, bodies := s.setup.bodies }

/-- Store a frame with a timestamp, numbered by the count stored before it. -/
def store (s : Sensor) (ts : UInt64) : Sensor :=
  { s with stored := s.stored ++ [⟨s.snapshot, ts, Int32.ofNat s.stored.length⟩] }

/-- Store frames with the given timestamps, as free-running capture would. -/
def addStored (s : Sensor) (timestamps : List UInt64) : Sensor := timestamps.foldl store s

/-- The numbers of the stored frames, in order. -/
def storedNumbers (s : Sensor) : List Int32 := s.stored.map (·.number)

/-- The sync delay a free run takes when it starts, in microseconds: 160 per offset step. -/
def freeRunDelay (s : Sensor) : UInt64 := UInt64.ofNat (s.config.syncOffset.toNat * 160)

/-- The hardware timestamp of free-running frame `i` before jitter: `i` frame periods, the
delay taken at the start and the offset, in microseconds, as 64-bit words. -/
def freeRunStamp (s : Sensor) (delay : UInt64) (i : Nat) : UInt64 :=
  UInt64.ofNat i * UInt64.ofNat s.setup.periodUs + delay + s.setup.timestampOffset

/-- One tick of a free run: store frame `i`, with a jitter drawn below the maximum plus one. -/
def freeRunTick (delay : UInt64) (s : Sensor) (i : Nat) : Sensor :=
  let ts := s.freeRunStamp delay i
  if s.setup.timestampJitter > 0 then
    let (j, rng) := s.rng.int63Below (s.setup.timestampJitter + 1)
    { s with rng }.store (ts + j)
  else s.store ts

/-- A free run that has ticked `k` times: frames `0, …, k - 1`, the first at the start and
one more each frame period. -/
def freeRun (s : Sensor) (k : Nat) : Sensor := (List.range k).foldl (freeRunTick s.freeRunDelay) s

/-- Starting free-running capture stores the first frame at once; the later ones follow the
frame period, which the rig does not drive. -/
def startFreeRun (s : Sensor) : Sensor := s.freeRun 1

/-- Keep the listed frames under their new numbers, sorted by them; `none` when a listed
frame is missing. A number stored twice names its last frame. The sort is stable; an
unstable one could differ from it only in the order of frames relabelled to the same
number. -/
def reorder (s : Sensor) (list : PostSyncList) : Option Sensor := do
  let relabelled ← (list.frameIds.zip list.syncedIds).mapM fun (id, synced) => do
    let f ← (s.stored.reverse.find? (·.number == id))
    pure { f with number := synced }
  pure { s with stored := relabelled.mergeSort (fun a b => a.number ≤ b.number), cursor := 0 }

/-- A reply: the message byte and its payload. -/
def reply (m : Message) (payload : List UInt8) : List UInt8 := m.toByte :: payload

/-- A frame reply. -/
def frameReply (s : Sensor) (m : Message) (f : Frame) : List UInt8 :=
  reply m (appendFramed [] (some f) s.setup.compress)

/-- The configuration reply: the configuration's block, a serial longer than its field cut to
it. Encoding a configuration cannot fail, so the sensor always answers. -/
def configurationReply (s : Sensor) : List UInt8 := reply .configuration s.config.encode

/-- What handling a command did: the sensor after it and its answer. -/
abbrev Handled := Sensor × List UInt8

/-- Handle a command whose payload has been read. -/
def answer (s : Sensor) : Command → Decode Handled
  | .captureFrame =>
    if s.setup.ignoreCapture then pure (s, [])
    else
      let s := { s with captures := s.captures + 1 }
      let s := s.store (UInt64.ofNat (s.captures * s.setup.periodUs))
      pure (s, reply .confirmCaptured [])
  | .calibrate =>
    pure (s, reply .confirmCalibrated (s.setup.calibration.getD s.setup.pose).encode)
  | .receiveSettings => do
    let settings ← Settings.streamReader
    pure ({ s with settings := some settings }, [])
  | .requestStoredFrame =>
    match s.stored[s.cursor]? with
    | some f => pure ({ s with cursor := s.cursor + 1 }, s.frameReply .storedFrame f.frame)
    | none => pure (s, reply .storedFrame (appendEndOfStored []))
  | .requestLastFrame => pure (s, s.frameReply .lastFrame s.snapshot)
  | .receiveCalibration => do
    let bs ← readFull worldCalibrationSize
    match decodeWorldCalibration bs with
    | .ok (r, t) => pure ({ s with world := some ⟨0, r, t⟩ }, [])
    | .error e => fail e
  | .clearStoredFrames => pure ({ s with stored := [], cursor := 0 }, [])
  | .startCaptureFrames => pure (s.startFreeRun, [])
  | .stopCaptureFrames => pure (s, [])
  | .preRecordProcessStart => pure (s, reply .confirmPreRecord [])
  | .postRecordProcessStart => pure ({ s with cursor := 0 }, reply .confirmPostRecord [])
  | .requestConfiguration => pure (s, s.configurationReply)
  | .setConfiguration => do
    let bs ← readFull DeviceConfig.blockSize
    match DeviceConfig.decode bs with
    | .error e => fail e
    | .ok cfg =>
      if s.setup.rejectConfiguration then pure (s, reply .configurationRejected [])
      else
        let s := { s with config := { cfg with serial := s.config.serial, hardwareSync := s.config.hardwareSync } }
        pure (s, s.configurationReply)
  | .restartWithSettings =>
    pure ({ s with restarts := s.restarts + 1 }, reply .confirmRestart [if s.setup.failRestart then 1 else 0])
  | .createDirectory => do
    let dir ← directoryReader
    pure ({ s with directories := s.directories ++ [dir] },
      reply .confirmDirCreation [if s.setup.failDirectory then 0 else 1])
  | .requestTimestampList =>
    let list : TimestampList := ⟨s.stored.map (·.timestamp), s.stored.map (·.number)⟩
    pure (s, reply .timestampList list.encode)
  | .receivePostSyncList => do
    let list ← PostSyncList.reader
    if s.setup.failPostSync then pure (s, reply .confirmPostSynced [0])
    else match s.reorder list with
      | some s => pure (s, reply .confirmPostSynced [1])
      | none => pure (s, reply .confirmPostSynced [0])

/-- Handle the commands in `bytes` (after any bytes still pending), at most `fuel` of
them: the sensor after them, its answers in order, and whether it ended the connection.
A command whose payload has not fully arrived waits, unrecorded, for more bytes. -/
def serveWithin (s : Sensor) (bytes : List UInt8) : Nat → Sensor × List UInt8 × Bool
  | 0 => ({ s with pending := bytes }, [], false)
  | fuel + 1 =>
    match bytes with
    | [] => ({ s with pending := [] }, [], false)
    | b :: rest =>
      match Command.ofByte? b with
      | none => ({ s with serving := false, pending := [] }, [], true)
      | some cmd =>
        let heard := { s with commands := s.commands.push cmd }
        match (answer heard cmd).runOn { rest, closed := false } with
        | (.ok (s', out), c) =>
          let (s'', more, ended) := serveWithin s' c.rest fuel
          (s'', out ++ more, ended)
        | (.error .waiting, _) => ({ s with pending := bytes }, [], false)
        | (.error _, _) => ({ heard with serving := false, pending := [] }, [], true)

/-- Receive bytes from the server: the sensor after handling every whole command, its
answers, and whether it ended the connection. A sensor that has stopped serving ignores
what it receives. -/
def serve (s : Sensor) (bytes : List UInt8) : Sensor × List UInt8 × Bool :=
  if !s.serving then (s, [], false)
  else
    let all := s.pending ++ bytes
    serveWithin s all all.length

/-- Stop serving: the sensor closes its connection. -/
def stop (s : Sensor) : Sensor := { s with serving := false, pending := [] }

end Sensor

end DepthRig.Simulator
