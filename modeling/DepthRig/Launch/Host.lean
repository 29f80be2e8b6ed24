import DepthRig.Net.Ip

/-!
# The host

The machine the programs run on, as far as they can tell: the addresses other programs
already listen on, and whether connections get anywhere. Listening reads and resolves its
address, only loopback and unspecified addresses belonging to the host; on a host whose
network is down every well-formed connection fails for the same reason.
-/

namespace DepthRig.Launch

open Address

/-- The host programs run on. -/
structure Host where
  /-- Addresses (`host:port`, as bound) that another program already listens on. -/
  taken : List String := []
  /-- Why a connection fails, for every well-formed address; none when connections go
  through. -/
  unreachable : Option String := some "connect: network is unreachable"
  deriving Inhabited

/-- The ports of the well-known TCP services. -/
def servicePorts : List (String × Nat) :=
  [("ftp", 21), ("ftps", 990), ("gopher", 70), ("http", 80), ("https", 443), ("imap2", 143),
    ("imap3", 220), ("imaps", 993), ("pop3", 110), ("pop3s", 995), ("smtp", 25),
    ("submissions", 465), ("ssh", 22), ("telnet", 23)]

/-- The port a port text names: its number, or a service's. -/
def portOf (port : String) : Except String Nat :=
  match numericPort port with
  | some p => .ok p.toNat
  | none =>
    match servicePorts.find? (·.1 == port.toLower) with
    | some (_, p) => .ok p
    | none => .error ("lookup tcp/" ++ port ++ ": unknown port")

/-- The address a host text names: none for every interface. -/
def hostOf (host : String) : Except String (Option IpAddr) :=
  if host.isEmpty then .ok none
  else match IpAddr.parse? host with
    | some a => .ok (some a)
    | none =>
      if host == "localhost" then .ok (some (.v4 [127, 0, 0, 1]))
      else .error ("lookup " ++ host ++ ": no such host")

/-- The text of an address and port: an IPv6 address in brackets. -/
def endpointText (a : Option IpAddr) (port : Nat) : String :=
  match a with
  | none => "[::]:" ++ toString port
  | some ip =>
    match ip.unmap with
    | .v4 _ => ip.text ++ ":" ++ toString port
    | .v6 _ => "[" ++ ip.text ++ "]:" ++ toString port

/-- The address and port an address text names, or why it names none. -/
def resolve (addr : String) : Except String (Option IpAddr × Nat) := do
  if let some e := check addr then throw e.message
  let (host, port) ← (split addr).mapError (·.message)
  let p ← portOf port
  let a ← hostOf host
  return (a, p)

namespace Host

/-- Listen on an address: the address bound, or the failure of the attempt. -/
def listen (h : Host) (addr : String) : Except String String :=
  match resolve addr with
  | .error e => .error ("listen tcp: " ++ e)
  | .ok (a, port) =>
    let bound := endpointText a port
    let own := match a with
      | none => true
      | some ip => ip.isLoopback || ip.isUnspecified
    if !own then .error ("listen tcp " ++ bound ++ ": bind: cannot assign requested address")
    else if h.taken.contains bound then .error ("listen tcp " ++ bound ++ ": bind: address already in use")
    else .ok bound

/-- Connect to an address: nothing, or the failure of the attempt. -/
def dial (h : Host) (addr : String) : Except String Unit :=
  if addr.isEmpty then .error "dial tcp: missing address" else
  match resolve addr with
  | .error e => .error ("dial tcp: " ++ e)
  | .ok (a, port) =>
    match h.unreachable with
    | some why =>
      let target := match a with
        | none => ":" ++ toString port
        | some _ => endpointText a port
      .error ("dial tcp " ++ target ++ ": " ++ why)
    | none => .ok ()

end Host

end DepthRig.Launch
