/-!
# Faults

A failure is a text and the kinds it can be recognised by; a fault that wraps another keeps
its kinds, so a caller can still ask what is behind it. When a fault has several kinds, the
one reported is the first in `ErrorKind.all`.
-/

namespace DepthRig

/-- A condition a fault can be recognised by. -/
inductive ErrorKind where
  | invalidState
  | exportMode
  | syncMode
  | hardwareSyncInvalid
  | noDevices
  | insufficientDevices
  | notAllCalibrated
  | tooFewPoints
  | syncUnavailable
  | configurationRejected
  | restartFailed
  | commandFailed
  | timeout
  | disconnected
  | noTake
  | spuriousLength
  | malformedFrame
  | canceled
  | deadlineExceeded
  | unexpectedEnd
  | ended
  | notExist
  | notFound
  | emptyTake
  | closed
  | jsonSyntax
  | jsonType
  deriving DecidableEq, Repr, Inhabited

namespace ErrorKind

/-- Every kind, in the order in which they are reported. -/
def all : List ErrorKind :=
  [invalidState, exportMode, syncMode, hardwareSyncInvalid, noDevices, insufficientDevices,
    notAllCalibrated, tooFewPoints, syncUnavailable, configurationRejected, restartFailed,
    commandFailed, timeout, disconnected, noTake, spuriousLength, malformedFrame, canceled,
    deadlineExceeded, unexpectedEnd, ended, notExist, notFound, emptyTake, closed, jsonSyntax,
    jsonType]

/-- The name a kind is reported under. -/
def name : ErrorKind → String
  | invalidState => "InvalidState"
  | exportMode => "ExportMode"
  | syncMode => "SyncMode"
  | hardwareSyncInvalid => "HardwareSyncInvalid"
  | noDevices => "NoDevices"
  | insufficientDevices => "InsufficientDevices"
  | notAllCalibrated => "NotAllCalibrated"
  | tooFewPoints => "TooFewPoints"
  | syncUnavailable => "SyncUnavailable"
  | configurationRejected => "ConfigurationRejected"
  | restartFailed => "RestartFailed"
  | commandFailed => "CommandFailed"
  | timeout => "Timeout"
  | disconnected => "Disconnected"
  | noTake => "NoTake"
  | spuriousLength => "SpuriousLength"
  | malformedFrame => "MalformedFrame"
  | canceled => "Canceled"
  | deadlineExceeded => "DeadlineExceeded"
  | unexpectedEnd => "UnexpectedEOF"
  | ended => "EOF"
  | notExist => "NotExist"
  | notFound => "NotFound"
  | emptyTake => "EmptyTake"
  | closed => "Closed"
  | jsonSyntax => "JSONSyntax"
  | jsonType => "JSONType"

end ErrorKind

/-- A failure: its text and the kinds it is recognised by. -/
structure Fault where
  message : String
  kinds : List ErrorKind := []
  deriving BEq, Inhabited, Repr

namespace Fault

/-- A fault of no particular kind. -/
def plain (message : String) : Fault := ⟨message, []⟩

/-- A fault of one kind. -/
def ofKind (k : ErrorKind) (message : String) : Fault := ⟨message, [k]⟩

/-- Whether a fault is recognised as kind `k`. -/
def is (f : Fault) (k : ErrorKind) : Bool := f.kinds.contains k

/-- The reported kind: the first of `ErrorKind.all` that the fault has. -/
def kind? (f : Fault) : Option ErrorKind := ErrorKind.all.find? f.is

/-- The reported kind's name, `error` for a fault of no kind. -/
def kindName (f : Fault) : String := (f.kind?.map ErrorKind.name).getD "error"

/-- A fault in context: the context, a colon, then the fault's text; the kinds stay. -/
def wrap (context : String) (f : Fault) : Fault := ⟨context ++ ": " ++ f.message, f.kinds⟩

/-- A fault that adds a kind to another, keeping its text. -/
def tag (k : ErrorKind) (f : Fault) : Fault := ⟨f.message, k :: f.kinds⟩

/-- Several faults as one: their texts on separate lines, all their kinds. -/
def join : List Fault → Option Fault
  | [] => none
  | f :: fs => some ⟨"\n".intercalate ((f :: fs).map message), (f :: fs).flatMap kinds⟩

end Fault

end DepthRig
