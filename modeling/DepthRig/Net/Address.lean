import DepthRig.Fault

/-!
# Network addresses

A TCP address is `host:port`, with an IPv6 host in brackets. Splitting it fails without a
port, with a colon in an unbracketed host, or with stray brackets; a numeric port (with an
optional sign) must lie in `0..65535`, and a port of any other text is a service name that
needs a lookup. These are the failures that come before any socket is opened, and they
read `address <addr>: <why>`.
-/

namespace DepthRig.Address

/-- Why an address cannot be used, and the part it is about. -/
structure AddressError where
  part : String
  why : String
  deriving BEq, Repr

/-- The text of an address error. -/
def AddressError.message (e : AddressError) : String :=
  if e.part.isEmpty then e.why else "address " ++ e.part ++ ": " ++ e.why

/-- Split `host:port`. -/
def split (a : String) : Except AddressError (String × String) :=
  let cs := a.toList
  let fail {β : Type} (why : String) : Except AddressError β := .error ⟨a, why⟩
  match cs.findIdx? (· == ':') with
  | none => fail "missing port in address"
  | some _ => do
    let i := cs.length - 1 - (cs.reverse.findIdx (· == ':'))
    let (host, j, k) ← if cs.head? == some '[' then
        match cs.findIdx? (· == ']') with
        | none => fail "missing ']' in address"
        | some e =>
          if e + 1 == cs.length then fail "missing port in address"
          else if e + 1 == i then pure (String.ofList ((cs.take e).drop 1), 1, e + 1)
          else if cs.getD (e + 1) ' ' == ':' then fail "too many colons in address"
          else fail "missing port in address"
      else
        let host := cs.take i
        if host.contains ':' then fail "too many colons in address" else pure (String.ofList host, 0, 0)
    if (cs.drop j).contains '[' then fail "unexpected '[' in address"
    else if (cs.drop k).contains ']' then fail "unexpected ']' in address"
    else pure (host, String.ofList (cs.drop (i + 1)))

/-- The largest magnitude a port text saturates to, plus one. -/
def portCutoff : Nat := Nat.pow 2 30

/-- Read decimal digits; none for a non-digit met before the value reaches
`portCutoff`, after which the rest is not read. -/
def portDigits : List Char → Nat → Option Nat
  | [], n => some n
  | c :: rest, n =>
    if c.isDigit then
      if portCutoff ≤ n then some n
      else portDigits rest (n * 10 + (c.toNat - 48))
    else none

/-- A numeric port's value (empty is zero), or none for a service name. -/
def numericPort (s : String) : Option Int :=
  match s.toList with
  | [] => some 0
  | '+' :: rest => (portDigits rest 0).map fun n => Int.ofNat (min n (portCutoff - 1))
  | '-' :: rest => (portDigits rest 0).map fun n => -Int.ofNat (min n portCutoff)
  | cs => (portDigits cs 0).map fun n => Int.ofNat (min n (portCutoff - 1))

/-- What becomes of an address before any socket: an error, or none when it would go on to
a lookup or a socket. -/
def check (a : String) : Option AddressError :=
  if a.isEmpty then none else
  match split a with
  | .error e => some e
  | .ok (_, port) =>
    match numericPort port with
    | some p => if p < 0 || 65535 < p then some ⟨port, "invalid port"⟩ else none
    | none => none

/-- The failure of listening on an address, when it fails before any socket. -/
def listenFault (a : String) : Option Fault :=
  (check a).map fun e => .plain ("failed to listen on " ++ a ++ ": listen tcp: " ++ e.message)

/-- The failure of dialling an address, when it fails before any socket. -/
def dialFault (a : String) : Option Fault :=
  (check a).map fun e => .plain ("dial " ++ a ++ ": dial tcp: " ++ e.message)

end DepthRig.Address
