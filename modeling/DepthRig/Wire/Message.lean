/-!
# Commands and messages

The server drives a sensor with one-byte commands, each followed directly by its
payload, and the sensor answers with one-byte messages. Both sets are closed: a byte
outside them has no meaning, and its name is the set's name with the number.
-/

namespace DepthRig.Wire

/-- A command the server sends to a sensor. -/
inductive Command where
  | captureFrame | calibrate | receiveSettings | requestStoredFrame | requestLastFrame
  | receiveCalibration | clearStoredFrames | startCaptureFrames | stopCaptureFrames
  | preRecordProcessStart | postRecordProcessStart | requestConfiguration | setConfiguration
  | restartWithSettings | createDirectory | requestTimestampList | receivePostSyncList
  deriving DecidableEq, Repr, Inhabited

namespace Command

/-- Every command, in byte order. -/
def all : List Command :=
  [.captureFrame, .calibrate, .receiveSettings, .requestStoredFrame, .requestLastFrame,
    .receiveCalibration, .clearStoredFrames, .startCaptureFrames, .stopCaptureFrames,
    .preRecordProcessStart, .postRecordProcessStart, .requestConfiguration, .setConfiguration,
    .restartWithSettings, .createDirectory, .requestTimestampList, .receivePostSyncList]

/-- The byte of a command. -/
def toByte : Command → UInt8
  | .captureFrame => 0 | .calibrate => 1 | .receiveSettings => 2 | .requestStoredFrame => 3
  | .requestLastFrame => 4 | .receiveCalibration => 5 | .clearStoredFrames => 6
  | .startCaptureFrames => 7 | .stopCaptureFrames => 8 | .preRecordProcessStart => 9
  | .postRecordProcessStart => 10 | .requestConfiguration => 11 | .setConfiguration => 12
  | .restartWithSettings => 13 | .createDirectory => 14 | .requestTimestampList => 15
  | .receivePostSyncList => 16

/-- The command of a byte, if any. -/
def ofByte? (b : UInt8) : Option Command := all.find? (·.toByte == b)

/-- The name of a command. -/
def name : Command → String
  | .captureFrame => "CaptureFrame" | .calibrate => "Calibrate"
  | .receiveSettings => "ReceiveSettings" | .requestStoredFrame => "RequestStoredFrame"
  | .requestLastFrame => "RequestLastFrame" | .receiveCalibration => "ReceiveCalibration"
  | .clearStoredFrames => "ClearStoredFrames" | .startCaptureFrames => "StartCaptureFrames"
  | .stopCaptureFrames => "StopCaptureFrames" | .preRecordProcessStart => "PreRecordProcessStart"
  | .postRecordProcessStart => "PostRecordProcessStart"
  | .requestConfiguration => "RequestConfiguration" | .setConfiguration => "SetConfiguration"
  | .restartWithSettings => "ReinitializeWithCurrentSettings" | .createDirectory => "CreateDirectory"
  | .requestTimestampList => "RequestTimestampList" | .receivePostSyncList => "ReceivePostSyncList"

/-- The name of a command byte: the command's name, or `Command(n)`. -/
def nameOfByte (b : UInt8) : String :=
  match ofByte? b with
  | some c => c.name
  | none => s!"Command({b.toNat})"

end Command

/-- A message a sensor sends to the server. -/
inductive Message where
  | confirmCaptured | confirmCalibrated | storedFrame | lastFrame | configuration
  | confirmRestart | confirmPreRecord | confirmPostRecord | confirmDirCreation
  | timestampList | confirmPostSynced | configurationRejected
  deriving DecidableEq, Repr, Inhabited

namespace Message

/-- Every message, in byte order. -/
def all : List Message :=
  [.confirmCaptured, .confirmCalibrated, .storedFrame, .lastFrame, .configuration,
    .confirmRestart, .confirmPreRecord, .confirmPostRecord, .confirmDirCreation,
    .timestampList, .confirmPostSynced, .configurationRejected]

/-- The byte of a message. -/
def toByte : Message → UInt8
  | .confirmCaptured => 0 | .confirmCalibrated => 1 | .storedFrame => 2 | .lastFrame => 3
  | .configuration => 4 | .confirmRestart => 5 | .confirmPreRecord => 6
  | .confirmPostRecord => 7 | .confirmDirCreation => 8 | .timestampList => 9
  | .confirmPostSynced => 10 | .configurationRejected => 11

/-- The message of a byte, if any. -/
def ofByte? (b : UInt8) : Option Message := all.find? (·.toByte == b)

/-- The name of a message. -/
def name : Message → String
  | .confirmCaptured => "ConfirmCaptured" | .confirmCalibrated => "ConfirmCalibrated"
  | .storedFrame => "StoredFrame" | .lastFrame => "LastFrame"
  | .configuration => "Configuration" | .confirmRestart => "ConfirmRestart"
  | .confirmPreRecord => "ConfirmPreRecordProcess"
  | .confirmPostRecord => "ConfirmPostRecordProcess"
  | .confirmDirCreation => "ConfirmDirCreation" | .timestampList => "TimestampList"
  | .confirmPostSynced => "ConfirmPostSynced" | .configurationRejected => "ConfigurationRejected"

/-- The name of a message byte: the message's name, or `Message(n)`. -/
def nameOfByte (b : UInt8) : String :=
  match ofByte? b with
  | some m => m.name
  | none => s!"Message({b.toNat})"

end Message

end DepthRig.Wire
