import DepthRig.Net.Address

/-!
# IP addresses

An IP address is read strictly, IPv4 as four decimal fields without leading zeros and IPv6 as
hexadecimal groups with at most one `::`, an optional embedded IPv4 address and zone. Two
classes matter to the rig, loopback and the private overlay network its operators reach it
through, and an address is written back in its shortest form.
-/

namespace DepthRig.Address

/-- An IP address: four bytes or sixteen. -/
inductive IpAddr where
  | v4 (bytes : List Nat)
  | v6 (bytes : List Nat)
  deriving BEq, Repr, Inhabited

/-- The value of a run of decimal digits. -/
def decimalValue (cs : List Char) : Nat := cs.foldl (fun n c => n * 10 + (c.toNat - 48)) 0

/-- The value of a hexadecimal digit. -/
def hexDigit? (c : Char) : Option Nat :=
  if c.isDigit then some (c.toNat - 48)
  else if 'a' ≤ c && c ≤ 'f' then some (c.toNat - 87)
  else if 'A' ≤ c && c ≤ 'F' then some (c.toNat - 55)
  else none

/-- One decimal field of an IPv4 address. -/
def ipv4Field? (cs : List Char) : Option Nat :=
  if cs.isEmpty || !cs.all Char.isDigit then none
  else if 1 < cs.length && cs.head? == some '0' then none
  else if 3 < cs.length then none
  else
    let v := decimalValue cs
    if v ≤ 255 then some v else none

/-- The four bytes of a dotted IPv4 address. -/
def ipv4? (s : String) : Option (List Nat) := do
  let fields := s.toList.splitOn '.'
  if fields.length != 4 then none
  fields.mapM ipv4Field?

/-- One group of an IPv6 address as two bytes. -/
def ipv6Group? (cs : List Char) : Option (List Nat) := do
  if cs.isEmpty || 4 < cs.length then none
  let v := (← cs.mapM hexDigit?).foldl (fun n d => n * 16 + d) 0
  pure [v / 256, v % 256]

/-- The bytes of colon-separated groups, the last of which may be a dotted IPv4 address. -/
def ipv6Groups? (text : List Char) : Option (List Nat) :=
  if text.isEmpty then some []
  else
    let groups := text.splitOn ':'
    match groups.reverse with
    | [] => some []
    | last :: before => do
      let tail ← if last.contains '.' then ipv4? (String.ofList last) else ipv6Group? last
      let front ← before.reverse.mapM ipv6Group?
      pure (front.flatten ++ tail)

/-- The position of the first `::` in text. -/
def ellipsisAt (cs : List Char) : Option Nat :=
  (List.range cs.length).find? fun i => cs.getD i ' ' == ':' && cs.getD (i + 1) ' ' == ':'

/-- The sixteen bytes of an IPv6 address without its zone. -/
def ipv6Bytes? (cs : List Char) : Option (List Nat) :=
  match ellipsisAt cs with
  | none => do
    let bytes ← ipv6Groups? cs
    if cs.isEmpty || bytes.length != 16 then none else pure bytes
  | some i => do
    let before := cs.take i
    let after := cs.drop (i + 2)
    if (ellipsisAt after).isSome || (before.getLast? == some ':') then none
    if after.head? == some ':' then none
    if (before.takeWhile (· != '.')).length < before.length then none
    let front ← ipv6Groups? before
    let back ← ipv6Groups? after
    let used := front.length + back.length
    if 14 < used then none
    pure (front ++ List.replicate (16 - used) 0 ++ back)

/-- Read an IP address. -/
def IpAddr.parse? (s : String) : Option IpAddr :=
  let cs := s.toList
  match cs.find? (fun c => c == '.' || c == ':' || c == '%') with
  | some '.' => (ipv4? s).map .v4
  | some ':' =>
    let (addr, zone) := (cs.takeWhile (· != '%'), cs.dropWhile (· != '%'))
    if zone == ['%'] then none else (ipv6Bytes? addr).map .v6
  | _ => none

/-- The IPv4 address an IPv4-mapped IPv6 address stands for. -/
def IpAddr.unmap : IpAddr → IpAddr
  | .v6 bs =>
    if bs.take 10 == List.replicate 10 0 && (bs.drop 10).take 2 == [255, 255] then .v4 (bs.drop 12)
    else .v6 bs
  | a => a

/-- Whether an address is a loopback address. -/
def IpAddr.isLoopback (a : IpAddr) : Bool :=
  match a.unmap with
  | .v4 bs => bs.head? == some 127
  | .v6 bs => bs == List.replicate 15 0 ++ [1]

/-- Whether an address belongs to the private overlay network. -/
def IpAddr.isOverlay : IpAddr → Bool
  | .v4 bs =>
    match bs with
    | [a, b, c, _] => a == 100 && 64 ≤ b && b < 128 && !(b == 115 && (c == 92 || c == 93))
    | _ => false
  | .v6 bs => bs.take 6 == [0xfd, 0x7a, 0x11, 0x5c, 0xa1, 0xe0]

/-- The 16-bit groups of sixteen bytes. -/
def groupsOf (bs : List Nat) : List Nat :=
  (List.range 8).map fun i => bs.getD (2 * i) 0 * 256 + bs.getD (2 * i + 1) 0

/-- The first of the longest runs of zero groups, as its start and length, if it holds at
least two groups. -/
def longestZeroRun (groups : List Nat) : Option (Nat × Nat) :=
  let best := (List.range groups.length).foldl (fun (best : Nat × Nat) i =>
    let len := ((groups.drop i).takeWhile (· == 0)).length
    if best.2 < len then (i, len) else best) (0, 0)
  if best.2 < 2 then none else some best

/-- The text of an address: dotted decimal for IPv4 and IPv4-mapped IPv6 addresses;
otherwise lowercase hexadecimal groups without leading zeros, the first of the longest runs
of two or more zero groups written `::`. -/
def IpAddr.text (a : IpAddr) : String :=
  match a.unmap with
  | .v4 bs => ".".intercalate (bs.map toString)
  | .v6 bs =>
    let groups := groupsOf bs
    let hex := fun (gs : List Nat) => ":".intercalate (gs.map fun g => String.ofList (Nat.toDigits 16 g))
    match longestZeroRun groups with
    | none => hex groups
    | some (i, len) => hex (groups.take i) ++ "::" ++ hex (groups.drop (i + len))

/-- Whether an address is unspecified: `0.0.0.0` or `::`. -/
def IpAddr.isUnspecified : IpAddr → Bool
  | .v4 bs => bs.all (· == 0)
  | .v6 bs => bs.all (· == 0)

end DepthRig.Address
