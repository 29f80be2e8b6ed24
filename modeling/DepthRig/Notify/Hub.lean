/-!
# Event hubs

A hub fans events out to subscribers, each a buffered channel under an id drawn from a random
source; publishing never waits, and a subscriber that cannot take an event at once misses it.
A send or close on a closed channel is a panic, and channels live on in a heap of their own
after the hub forgets them. The hub goes through its subscribers in the order they were added;
each has its own channel, so any other order gives the same result.
-/

namespace DepthRig.Notify

/-- A run-time panic of the channel operations a hub uses. -/
inductive Panic where
  /-- `close` of a channel that is already closed. -/
  | closeOfClosed
  /-- `close` of a channel that was never made. -/
  | closeOfNil
  /-- A send on a closed channel, also inside a `select`. -/
  | sendOnClosed
  /-- `make` with a negative capacity. -/
  | makeChanSize
  deriving DecidableEq, Repr

/-- The text the program dies with. -/
def Panic.message : Panic → String
  | .closeOfClosed => "close of closed channel"
  | .closeOfNil => "close of nil channel"
  | .sendOnClosed => "send on closed channel"
  | .makeChanSize => "makechan: size out of range"

/-- A buffered channel: its capacity, the values buffered (oldest first) and whether it is
closed; also how many receivers wait on it, and the values handed to receivers that were
waiting, which they have not yet come back with. -/
structure Chan (α : Type) where
  capacity : Nat
  buffer : List α := []
  closed : Bool := false
  waiting : Nat := 0
  handed : List α := []
  deriving Repr

/-- The capacity of the channels `Subscribe` makes. -/
def defaultBuffer : Int := 16

namespace Chan

variable {α : Type}

/-- Whether a send goes through at once: a receiver waits, or the buffer has a free slot. -/
def hasRoom (c : Chan α) : Bool := 0 < c.waiting || c.buffer.length < c.capacity

/-- An open channel after a send that goes through: a waiting receiver takes the value, or it
is buffered last. -/
def offer (c : Chan α) (v : α) : Chan α :=
  if 0 < c.waiting then { c with waiting := c.waiting - 1, handed := c.handed ++ [v] }
  else { c with buffer := c.buffer ++ [v] }

/-- A send inside a `select` with a `default` case: the channel after the send, or `none` when
the send would wait. -/
def trySend (c : Chan α) (v : α) : Except Panic (Option (Chan α)) :=
  if c.closed then .error .sendOnClosed
  else if c.hasRoom then .ok (some (c.offer v))
  else .ok none

/-- A channel once closed: its waiting receivers wake up and see it closed. -/
def shut (c : Chan α) : Chan α := { c with closed := true, waiting := 0 }

/-- `close` of a channel. -/
def close (c : Chan α) : Except Panic (Chan α) :=
  if c.closed then .error .closeOfClosed else .ok c.shut

/-- What a receive gets. -/
inductive Received (α : Type) where
  /-- The oldest value buffered. -/
  | value (v : α)
  /-- The channel is closed and nothing is left in it. -/
  | closed
  /-- Nothing is buffered yet: the receiver waits. -/
  | waits
  deriving Repr

/-- A receive: a value handed over while the receiver waited, else the oldest buffered value,
else the channel's closing once it is drained; otherwise the receiver waits on the channel. -/
def receive (c : Chan α) : Received α × Chan α :=
  match c.handed, c.buffer with
  | v :: rest, _ => (.value v, { c with handed := rest })
  | [], v :: rest => (.value v, { c with buffer := rest })
  | [], [] => if c.closed then (.closed, c) else (.waits, { c with waiting := c.waiting + 1 })

end Chan

/-- The hub: its map from subscriber ids to channels, and whether it is closed. -/
structure Hub where
  subscribers : List (String × Nat) := []
  closed : Bool := false
  deriving Repr

/-- A map entry set: the value of a present key is replaced, else the key is added last. -/
def mapSet (m : List (String × Nat)) (k : String) (v : Nat) : List (String × Nat) :=
  if m.any (·.1 == k) then m.map fun p => if p.1 == k then (k, v) else p else m ++ [(k, v)]

/-- A hub with its channels, numbered in the order they were made. -/
structure World (α : Type) where
  hub : Hub := {}
  chans : List (Chan α) := []
  deriving Repr

namespace World

variable {α : Type}

/-- A new hub, before any channel is made. -/
def empty : World α := {}

/-- Replace channel `h`. -/
def setChan (w : World α) (h : Nat) (c : Chan α) : World α := { w with chans := w.chans.set h c }

/-- `make(chan T, n)`: a new open, empty channel and its number. -/
def make (w : World α) (n : Int) : Except Panic (World α × Nat) :=
  if n < 0 then .error .makeChanSize
  else .ok ({ w with chans := w.chans ++ [{ capacity := n.toNat }] }, w.chans.length)

/-- `close` of channel `h`. -/
def closeChan (w : World α) (h : Nat) : Except Panic (World α) :=
  match w.chans[h]? with
  | none => .error .closeOfNil
  | some c => return w.setChan h (← c.close)

/-- A send to channel `h` that does not wait: the world after it and whether it went through.
A channel that was never made takes nothing. -/
def trySend (w : World α) (h : Nat) (v : α) : Except Panic (World α × Bool) :=
  match w.chans[h]? with
  | none => .ok (w, false)
  | some c => do
    match ← c.trySend v with
    | some c' => pure (w.setChan h c', true)
    | none => pure (w, false)

/-- `SubscribeBuffered(n)` with the id drawn for it: the channel is made first; a closed hub
closes it and hands it out, an open one also keeps it under the id. -/
def subscribeBuffered (w : World α) (id : String) (n : Int) : Except Panic (World α × Nat) := do
  let (w, h) ← w.make n
  if w.hub.closed then
    let w ← w.closeChan h
    pure (w, h)
  else
    pure ({ w with hub := { w.hub with subscribers := mapSet w.hub.subscribers id h } }, h)

/-- `Subscribe`: `SubscribeBuffered` with the default capacity. -/
def subscribe (w : World α) (id : String) : Except Panic (World α × Nat) :=
  w.subscribeBuffered id defaultBuffer

/-- `Unsubscribe`: a known id has its channel closed and is forgotten; an unknown one is
ignored. -/
def unsubscribe (w : World α) (id : String) : Except Panic (World α) :=
  match w.hub.subscribers.lookup id with
  | some h => do
    let w ← w.closeChan h
    pure { w with hub := { w.hub with subscribers := w.hub.subscribers.filter (·.1 != id) } }
  | none => pure w

/-- One subscriber's turn in a publish: a send that does not wait, counted when it goes
through. -/
def publishTo (v : α) (acc : World α × Nat) (p : String × Nat) : Except Panic (World α × Nat) := do
  let (w, sent) ← acc.1.trySend p.2 v
  pure (w, if sent then acc.2 + 1 else acc.2)

/-- `Publish`: a send that does not wait to each subscriber, counting those that took it. -/
def publish (w : World α) (v : α) : Except Panic (World α × Nat) :=
  w.hub.subscribers.foldlM (publishTo v) (w, 0)

/-- `Len`: the number of subscribers. -/
def len (w : World α) : Nat := w.hub.subscribers.length

/-- `Close`: the hub is marked closed, and each subscriber's channel is closed and forgotten. -/
def close (w : World α) : Except Panic (World α) := do
  let w : World α := { w with hub := { w.hub with closed := true } }
  let w ← w.hub.subscribers.foldlM (fun w p => w.closeChan p.2) w
  pure { w with hub := { w.hub with subscribers := [] } }

/-- A receive on channel `h` by one of its holders; a channel that was never made gives
nothing. -/
def receive (w : World α) (h : Nat) : World α × Chan.Received α :=
  match w.chans[h]? with
  | none => (w, .waits)
  | some c =>
    let (r, c') := c.receive
    (w.setChan h c', r)

end World

/-- A call on the hub, or a receive by a channel's holder. -/
inductive Call (α : Type) where
  /-- `Subscribe`, with the id drawn for it. -/
  | subscribe (id : String)
  /-- `SubscribeBuffered`, with the id drawn for it. -/
  | subscribeBuffered (id : String) (capacity : Int)
  | unsubscribe (id : String)
  | publish (v : α)
  | len
  | close
  /-- A receive on channel `h`. -/
  | receive (h : Nat)
  deriving Repr

/-- What a call answers. -/
inductive Answer (α : Type) where
  /-- The number of the channel a subscription was given. -/
  | subscribed (h : Nat)
  /-- The number of subscribers a publish reached. -/
  | delivered (count : Nat)
  | length (n : Nat)
  | done
  | received (r : Chan.Received α)
  deriving Repr

/-- One call: the world after it and its answer, or the panic it raises. -/
def step {α : Type} (w : World α) : Call α → Except Panic (World α × Answer α)
  | .subscribe id => do
    let (w, h) ← w.subscribe id
    pure (w, .subscribed h)
  | .subscribeBuffered id n => do
    let (w, h) ← w.subscribeBuffered id n
    pure (w, .subscribed h)
  | .unsubscribe id => do pure (← w.unsubscribe id, .done)
  | .publish v => do
    let (w, k) ← w.publish v
    pure (w, .delivered k)
  | .len => pure (w, .length w.len)
  | .close => do pure (← w.close, .done)
  | .receive h =>
    let (w, r) := w.receive h
    pure (w, .received r)

/-- A call as it ran: the world it found, its answer, and the world it left. -/
structure Event (α : Type) where
  before : World α
  call : Call α
  answer : Answer α
  after : World α

/-- Run calls in turn: each call as it ran and the last world, or the first panic. -/
def trace {α : Type} (w : World α) : List (Call α) → Except Panic (List (Event α) × World α)
  | [] => .ok ([], w)
  | c :: cs => do
    let (w', a) ← step w c
    let (evs, last) ← trace w' cs
    pure (⟨w, c, a, w'⟩ :: evs, last)

end DepthRig.Notify
