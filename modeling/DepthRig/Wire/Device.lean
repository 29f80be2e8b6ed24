import DepthRig.Wire.Reader
import DepthRig.Text.Quote

/-!
# Device configuration

The fixed 22-byte block a sensor and the server exchange: depth mode, the software sync
role the server assigns, the hardware sync role the sync jacks report, the sync offset,
the serial number (16 bytes, padded with NUL) and the depth filter. The serial is kept as
bytes: it comes from the device and need not be text.
-/

namespace DepthRig

/-- A device's role in a synchronized capture, as its byte. -/
structure SyncState where
  code : UInt8
  deriving BEq, DecidableEq, Inhabited, Repr

namespace SyncState

/-- Starts the capture and drives the sync cable. -/
def main : SyncState := ⟨0⟩
/-- Follows the main device's sync signal. -/
def subordinate : SyncState := ⟨1⟩
/-- Not part of a synchronized capture. -/
def standalone : SyncState := ⟨2⟩
/-- No role known. -/
def unknown : SyncState := ⟨3⟩

/-- The name of a role, or `SyncState(n)`. -/
def name (s : SyncState) : String :=
  match s.code.toNat with
  | 0 => "Main" | 1 => "Subordinate" | 2 => "Standalone" | 3 => "Unknown"
  | n => s!"SyncState({n})"

end SyncState

/-- A depth-camera mode, as its byte. -/
structure DepthMode where
  code : UInt8
  deriving BEq, DecidableEq, Inhabited, Repr

namespace DepthMode

/-- The name of a mode, or `DepthMode(n)`. -/
def name (m : DepthMode) : String :=
  match m.code.toNat with
  | 1 => "NFOV_320x288_BINNED" | 2 => "NFOV_640x576_UNBINNED"
  | 3 => "WFOV_512x512_BINNED" | 4 => "WFOV_1024x1024_UNBINNED"
  | n => s!"DepthMode({n})"

end DepthMode

/-- A device's configuration. -/
structure DeviceConfig where
  depthMode : DepthMode
  softwareSync : SyncState
  hardwareSync : SyncState
  syncOffset : UInt8
  serial : List UInt8
  filterDepthMap : Bool
  filterSize : UInt8
  deriving BEq, DecidableEq, Inhabited, Repr

namespace DeviceConfig

/-- The size of the block. -/
def blockSize : Nat := 22

/-- The width of the serial field. -/
def serialWidth : Nat := 16

/-- What a freshly started device reports. -/
def default : DeviceConfig :=
  ⟨⟨2⟩, .standalone, .unknown, 0, [], false, 5⟩

/-- The capture delay behind the main device, in nanoseconds: 160 µs per offset step. -/
def syncDelayNs (c : DeviceConfig) : Nat := c.syncOffset.toNat * 160000

/-- Why a configuration cannot be put on the wire. -/
inductive Invalid where
  | serialTooLong (serial : List UInt8)
  | serialHasNul
  | syncOutOfRange (software hardware : UInt8)
  deriving BEq, Repr

/-- The text of a refusal. -/
def Invalid.message : Invalid → String
  | .serialTooLong s => "serial number " ++ Quote.bytes s ++ " longer than 16 bytes"
  | .serialHasNul => "serial number contains NUL"
  | .syncOutOfRange a b => s!"sync state out of range ({a.toNat}, {b.toNat})"

/-- Check the fields the block cannot represent. -/
def validate (c : DeviceConfig) : Except Invalid Unit :=
  if serialWidth < c.serial.length then .error (.serialTooLong c.serial)
  else if c.serial.contains 0 then .error .serialHasNul
  else if 3 < c.softwareSync.code || 3 < c.hardwareSync.code then
    .error (.syncOutOfRange c.softwareSync.code c.hardwareSync.code)
  else .ok ()

/-- The block; a serial longer than its field is cut. -/
def encode (c : DeviceConfig) : List UInt8 :=
  let serial := c.serial.take serialWidth
  [c.depthMode.code, c.softwareSync.code, c.hardwareSync.code, c.syncOffset]
    ++ serial ++ List.replicate (serialWidth - serial.length) 0
    ++ [if c.filterDepthMap then 1 else 0, c.filterSize]

/-- Decode a block; the serial ends at its first NUL. -/
def decode (bs : List UInt8) : Except Wire.WireError DeviceConfig :=
  if bs.length < blockSize then .error (.configurationShort bs.length)
  else
    let b (i : Nat) := bs.getD i 0
    let serial := ((bs.drop 4).take serialWidth).takeWhile (· != 0)
    .ok ⟨⟨b 0⟩, ⟨b 1⟩, ⟨b 2⟩, b 3, serial, b 20 != 0, b 21⟩

end DeviceConfig

end DepthRig
