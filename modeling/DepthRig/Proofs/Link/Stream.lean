import DepthRig.Proofs.Wire.Stream
import DepthRig.Link.Commands

/-!
# The link's reader on a byte stream

The link reads the sensor's messages whole from the front of its stream (`Inbound.readAll`),
so how the stream is cut into deliveries changes nothing and a message cut short by its end
is never applied. A frame answer replaces the link's frame only when it decoded; a fault in
the bytes or the end of the stream takes the link down and leaves its frames as they were.
-/

namespace DepthRig

open Wire Decode

/-! ## Running link programs -/

namespace LinkM

theorem run_bind {α β : Type} (x : LinkM α) (f : α → LinkM β) (c : Connection) :
    (x >>= f).run c = (f (x.run c).1).run (x.run c).2 := rfl

theorem run_modify (f : Connection → Connection) (c : Connection) :
    (modify f : LinkM Unit).run c = ((), f c) := rfl

theorem run_get (c : Connection) : (get : LinkM Connection).run c = (c, c) := rfl

theorem run_pure {α : Type} (a : α) (c : Connection) : (pure a : LinkM α).run c = (a, c) := rfl

theorem run_set (c c' : Connection) : (set c' : LinkM PUnit).run c = (⟨⟩, c') := rfl

/-- Announcing changes only the announcements. -/
theorem run_publish (e : LinkEvent) (c : Connection) :
    ((publish e).run c).2 =
      { c with events := if c.link.connected then c.events.push e else c.events } := by
  show (if c.link.connected then { c with events := c.events.push e } else c) = _
  by_cases hc : c.link.connected <;> simp [hc]

theorem run_update (f : Link → Link) (c : Connection) :
    ((update f).run c).2 =
      { c with
        link := f c.link
        events := if (f c.link).connected then c.events.push .stateChanged else c.events } :=
  run_publish LinkEvent.stateChanged { c with link := f c.link }

end LinkM

/-! ## What the link knows of frames -/

/-- What a link knows of frames: its last frame, the stored frame answered, the numbers of
frames received and skipped, and whether the last requests for a stored and for the live
frame were answered. -/
structure FrameBook where
  frame : Option Frame
  stored : Option Frame
  received : Nat
  skipped : Nat
  storedAnswered : Bool
  liveAnswered : Bool

/-- The frame book of a link. -/
def Link.frameBook (l : Link) : FrameBook :=
  ⟨l.frame, l.stored, l.received, l.skipped, l.flags.storedFrameReceived,
    l.flags.latestFrameReceived⟩

theorem Link.frameBook_settle (l : Link) (s : LinkState) : (l.settle s).frameBook = l.frameBook := by
  unfold Link.settle
  split <;> rfl

theorem Link.connected_settle (l : Link) (s : LinkState) : (l.settle s).connected = l.connected := by
  unfold Link.settle
  split <;> rfl

namespace Inbound

/-- The frame a message delivers: a stored or live frame whose payload decoded. -/
def decoded : Inbound → Option Frame
  | frame _ (.ok (.frame f)) => some f
  | _ => none

/-- Whether a message is a frame answer that was skipped. -/
def skipped : Inbound → Bool
  | frame _ (.error _) => true
  | _ => false

/-- Whether a message answers a request for a stored frame (`true`) or for the live one. -/
def answers (stored : Bool) : Inbound → Bool
  | frame s _ => s == stored
  | _ => false

/-- A message as the reader can take it: a frame is skipped only when it was spurious or
malformed. -/
def Sound : Inbound → Prop
  | frame _ (.error e) => e.isSpurious = true ∨ e.isMalformed = true
  | _ => True

end Inbound

/-- What a message does to a frame book: a decoded frame becomes the frame and is counted, a
skipped one is counted, a stored-frame answer replaces the stored frame, and an answer marks
its request answered. -/
def FrameBook.take (b : FrameBook) (m : Inbound) : FrameBook where
  frame := m.decoded.or b.frame
  stored := if m.answers true then m.decoded else b.stored
  received := b.received + if m.decoded.isSome then 1 else 0
  skipped := b.skipped + if m.skipped then 1 else 0
  storedAnswered := b.storedAnswered || m.answers true
  liveAnswered := b.liveAnswered || m.answers false

/-- The frame book after a run of messages: the last frame decoded, the frame of the last
stored-frame answer, and the counts of frames decoded and skipped. -/
theorem FrameBook.foldl_take (ms : List Inbound) (b : FrameBook) :
    ms.foldl FrameBook.take b =
      { frame := (ms.filterMap Inbound.decoded).getLast?.or b.frame
        stored := ((ms.filter (·.answers true)).getLast?.map Inbound.decoded).getD b.stored
        received := b.received + (ms.filterMap Inbound.decoded).length
        skipped := b.skipped + ms.countP (·.skipped)
        storedAnswered := b.storedAnswered || ms.any (·.answers true)
        liveAnswered := b.liveAnswered || ms.any (·.answers false) } := by
  induction ms using List.reverseRecOn with
  | nil => simp
  | append_singleton ms m ih =>
    rw [List.foldl_append, ih]
    -- one more message: each field of `take` against the closed form
    cases hd : m.decoded <;> cases hs : m.skipped <;> cases ha : m.answers true <;>
      simp [FrameBook.take, List.filterMap_append, List.getLast?_append, List.filter_append,
        List.countP_append, hd, hs, ha, Bool.or_assoc, Nat.add_assoc]

/-! ## The reader is a stream reader -/

namespace Inbound

theorem steady_frameReader (stored : Bool) : (frameReader stored).Steady Sound := by
  unfold frameReader
  refine Steady.tryCatch ((steady_readFramed true).bind fun _ _ => Steady.pure trivial)
    (fun e => ?_) (fun s hs => ?_)
  · -- a fault in the frame is kept as a skipped frame only when spurious or malformed
    dsimp only
    split
    · rename_i h
      exact Steady.pure (by simpa [Sound, Bool.or_eq_true] using h)
    · exact Steady.fail e
  · -- every stop for want of bytes passes on
    cases s with
    | wire e => exact absurd (decided_wire e) hs
    | _ => rfl

theorem steady_reader : reader.Steady Sound := by
  unfold reader
  refine steady_u8.bind fun b _ => ?_
  split
  · exact Steady.fail _
  · exact Steady.pure trivial
  · -- the calibration record is read whole, then decoded
    refine (Steady.readFull _).bind fun bs _ => ?_
    split
    · exact Steady.pure trivial
    · exact Steady.fail _
  · exact steady_frameReader true
  · exact steady_frameReader false
  · refine (Steady.readFull _).bind fun bs _ => ?_
    split
    · exact Steady.pure trivial
    · exact Steady.fail _
  · exact steady_u8.bind fun _ _ => Steady.pure trivial
  · exact Steady.pure trivial
  · exact Steady.pure trivial
  · exact steady_u8.bind fun _ _ => Steady.pure trivial
  · exact steady_timestampListReader.bind fun _ _ => Steady.pure trivial
  · exact steady_u8.bind fun _ _ => Steady.pure trivial
  · exact Steady.pure trivial

/-- On an ended stream with nothing left the reader stops at the end. -/
theorem runOn_reader_nil (o : Nat) (closed : Bool) :
    (reader.runOn ⟨[], o, closed⟩).1 = .error (if closed then .ended else .waiting) := by
  cases closed <;> simp [reader, u8, runOn_readFull]

/-- A byte that names no message is a fault in the stream. -/
theorem runOn_reader_unknown {b : UInt8} (hb : Message.ofByte? b = none) (bs : List UInt8)
    (o : Nat) (closed : Bool) :
    (reader.runOn ⟨b :: bs, o, closed⟩).1 = .error (.wire (.unknownMessage b)) := by
  simp [reader, u8, runOn_readFull, hb]

/-- A message takes at least its message byte. -/
theorem reader_takes {bs : List UInt8} {closed : Bool} {m : Inbound} {cur : Cursor}
    (h : reader.runOn ⟨bs, 0, closed⟩ = (.ok m, cur)) : cur.rest.length < bs.length := by
  obtain ⟨taken, more, hbs, hdec, hcur⟩ := steady_reader.runOn_eq ⟨bs, 0, closed⟩ (by simp [h])
  rw [h] at hdec hcur
  obtain ⟨-, rfl⟩ := Prod.mk.inj hcur
  -- taking nothing, the reader would read a message from an empty ended stream
  have hne : taken ≠ [] := by
    rintro rfl
    have hnil := congrArg Prod.fst (hdec [] true)
    rw [List.nil_append, runOn_reader_nil] at hnil
    simp at hnil
  have hlen : 0 < taken.length := List.length_pos_iff.mpr hne
  simp only [show bs = taken ++ more from hbs, List.length_append]
  omega

/-! ## Reading a stream -/

/-- What the reader takes from the front of a stream. -/
structure Reading where
  /-- The messages, one after another. -/
  messages : List Inbound
  /-- The bytes from where the reader stopped. -/
  rest : List UInt8
  /-- Why it stopped. -/
  stop : ReadStop

/-- Read messages from the front of a stream that has (`closed`) or has not ended, until the
reader stops. -/
def readAll (closed : Bool) (bs : List UInt8) : Reading :=
  match _h : reader.runOn ⟨bs, 0, closed⟩ with
  | (.ok m, cur) =>
    let r := readAll closed cur.rest
    { r with messages := m :: r.messages }
  | (.error s, _) => ⟨[], bs, s⟩
termination_by bs.length
decreasing_by exact reader_takes _h

theorem readAll_of_ok {closed : Bool} {bs : List UInt8} {m : Inbound} {cur : Cursor}
    (h : reader.runOn ⟨bs, 0, closed⟩ = (.ok m, cur)) :
    readAll closed bs =
      { readAll closed cur.rest with messages := m :: (readAll closed cur.rest).messages } := by
  rw [readAll]
  split
  · rename_i m' cur' h'
    rw [h] at h'
    cases h'
    rfl
  · rename_i s c' h'
    rw [h] at h'
    cases h'

theorem readAll_of_error {closed : Bool} {bs : List UInt8} {s : ReadStop}
    (h : (reader.runOn ⟨bs, 0, closed⟩).1 = .error s) : readAll closed bs = ⟨[], bs, s⟩ := by
  rw [readAll]
  split
  · rename_i m' cur' h'
    rw [h'] at h
    cases h
  · rename_i s' c' h'
    rw [h'] at h
    cases h
    rfl

/-- The reader resumes where it stopped: on the stream grown by `more`, and ended or not
since, it reads the messages it read before and then those it reads from where it
stopped. -/
theorem readAll_append (closed closed' : Bool) (bs more : List UInt8) :
    readAll closed' (bs ++ more) =
      { readAll closed' ((readAll closed bs).rest ++ more) with
        messages := (readAll closed bs).messages ++
          (readAll closed' ((readAll closed bs).rest ++ more)).messages } := by
  fun_induction readAll closed bs with
  | case1 bs m cur h r ih =>
    -- the message is read the same way from the longer stream
    obtain ⟨taken, r₁, hbs, hdec, hcur⟩ := steady_reader.runOn_eq ⟨bs, 0, closed⟩ (by simp [h])
    rw [h] at hdec hcur
    obtain ⟨-, rfl⟩ := Prod.mk.inj hcur
    have hlong : reader.runOn ⟨bs ++ more, 0, closed'⟩ =
        (.ok m, ⟨r₁ ++ more, 0 + taken.length, closed'⟩) := by
      rw [show bs = taken ++ r₁ from hbs, List.append_assoc]
      exact hdec _ _
    rw [readAll_of_ok hlong]
    simp only at ih ⊢
    rw [ih]
    simp [r]
  | case2 bs s c' h => simp

/-- Where the reader stopped, it stops again, and for the same reason. -/
theorem runOn_reader_rest (closed : Bool) (bs : List UInt8) :
    (reader.runOn ⟨(readAll closed bs).rest, 0, closed⟩).1 = .error (readAll closed bs).stop := by
  fun_induction readAll closed bs with
  | case1 bs m cur h r ih => exact ih
  | case2 bs s c' h => simp [h]

/-- An open stream never ends the reader, and an ended one never leaves it waiting. -/
theorem stop_readAll_fits (closed : Bool) (bs : List UInt8) :
    (readAll closed bs).stop.Fits closed :=
  steady_reader.stops ⟨_, 0, closed⟩ _ (runOn_reader_rest closed bs)

/-- Every message the reader takes is sound. -/
theorem sound_of_mem_readAll {closed : Bool} {bs : List UInt8} {m : Inbound}
    (hm : m ∈ (readAll closed bs).messages) : m.Sound := by
  fun_induction readAll closed bs with
  | case1 bs m' cur h r ih =>
    rcases List.mem_cons.mp hm with rfl | hm
    · exact steady_reader.returns ⟨bs, 0, closed⟩ _ (by simp [h])
    · exact ih hm
  | case2 => simp at hm

/-- From where the reader stopped it reads no message, whether the stream has ended since
or not. -/
theorem messages_readAll_rest (closed closed' : Bool) (bs : List UInt8) :
    (readAll closed' (readAll closed bs).rest).messages = [] := by
  rcases hrun : reader.runOn ⟨(readAll closed bs).rest, 0, closed'⟩ with ⟨r, cur⟩
  cases r with
  | error s => rw [readAll_of_error (s := s) (by simp [hrun])]
  | ok m =>
    -- a message read there is read from the same bytes however the stream goes on
    obtain ⟨taken, more, hrest, hdec, -⟩ :=
      steady_reader.runOn_eq ⟨(readAll closed bs).rest, 0, closed'⟩ (by simp [hrun])
    rw [hrun] at hdec
    have hstop := runOn_reader_rest closed bs
    rw [show (readAll closed bs).rest = taken ++ more from hrest, hdec more closed] at hstop
    simp at hstop

/-- Whether the stream has ended changes no message read from it: a message that the end
cuts short is never read. -/
theorem messages_readAll_closed (closed closed' : Bool) (bs : List UInt8) :
    (readAll closed' bs).messages = (readAll closed bs).messages := by
  have h := readAll_append closed closed' bs []
  simp only [List.append_nil] at h
  rw [h, messages_readAll_rest, List.append_nil]

/-- A fault in the bytes stops the reader for good: however the stream grows, and whether it
ends, the reader stops there again. -/
theorem readAll_rest_of_wire {closed : Bool} {bs : List UInt8} {e : WireError}
    (he : (readAll closed bs).stop = .wire e) (closed' : Bool) (more : List UInt8) :
    readAll closed' ((readAll closed bs).rest ++ more) =
      ⟨[], (readAll closed bs).rest ++ more, .wire e⟩ := by
  have hrun := runOn_reader_rest closed bs
  rw [he] at hrun
  obtain ⟨taken, r₁, hrest, hdec, -⟩ :=
    steady_reader.runOn_eq ⟨(readAll closed bs).rest, 0, closed⟩ (by simp [hrun])
  rw [hrun] at hdec
  apply readAll_of_error
  rw [show (readAll closed bs).rest = taken ++ r₁ from hrest, List.append_assoc, hdec]

/-- An open stream with nothing in it leaves the reader waiting. -/
theorem readAll_nil : readAll false [] = ⟨[], [], .waiting⟩ :=
  readAll_of_error (by simp [runOn_reader_nil])

/-! ## What a message does to the link -/

/-- What a message does to the link. -/
def onLink (m : Inbound) (l : Link) : Link := (m.apply.run { link := l }).2.link

/-- A message changes the link alone: not the bytes still to read, nor how the reader
stopped. -/
theorem run_apply (m : Inbound) (c : Connection) :
    (m.apply.run c).2.link = m.onLink c.link ∧ (m.apply.run c).2.inbox = c.inbox ∧
      (m.apply.run c).2.readerEnd = c.readerEnd := by
  cases m <;>
    simp only [apply, onLink, LinkM.run_bind, LinkM.run_publish, LinkM.run_update] <;>
    simp

/-- A message keeps the link up, and moves its frame book as `FrameBook.take` says. -/
theorem onLink_frameBook (m : Inbound) (l : Link) :
    (m.onLink l).connected = l.connected ∧ (m.onLink l).frameBook = l.frameBook.take m := by
  cases m with
  | frame stored p =>
    cases stored <;> rcases p with e | f | _ <;>
      simp [onLink, apply, LinkM.run_update, applyFrame, Link.frameBook, FrameBook.take, decoded,
        skipped, answers]
  | _ =>
    -- the other messages leave the frames alone; three of them settle a busy state
    simp only [onLink, apply, LinkM.run_bind, LinkM.run_publish, LinkM.run_update,
      Link.frameBook_settle, Link.connected_settle]
    simp [Link.frameBook, FrameBook.take, decoded, skipped, answers]

/-- Messages in a row keep the link up and move its frame book message by message. -/
theorem foldl_onLink_frameBook (ms : List Inbound) (l : Link) :
    (ms.foldl (fun l m => m.onLink l) l).connected = l.connected ∧
      (ms.foldl (fun l m => m.onLink l) l).frameBook = ms.foldl FrameBook.take l.frameBook := by
  induction ms generalizing l with
  | nil => exact ⟨rfl, rfl⟩
  | cons m ms ih =>
    obtain ⟨hc, hb⟩ := onLink_frameBook m l
    simp only [List.foldl_cons]
    rw [(ih _).1, (ih _).2, hc, hb]
    exact ⟨rfl, rfl⟩

/-! ## The reader loop -/

/-- Where a reading leaves a link `l` and its connection. While the reader waits, the link is
what the messages made of `l`, the bytes of the message to come wait in the inbox, and the
reader runs on. Once it stopped, it has stopped for good, and the link is down for a lost
sensor, holding what the messages made of `l`. -/
def Reading.Leaves (r : Reading) (l : Link) (c : Connection) : Prop :=
  let l' := r.messages.foldl (fun l m => m.onLink l) l
  (r.stop = .waiting ∧ c.readerEnd = none ∧ c.inbox = r.rest ∧ c.link = l') ∨
  (r.stop ≠ .waiting ∧ c.readerEnd.isSome ∧ ∃ f : Fault, f.is .disconnected = true ∧
    c.link = { l' with connected := false, state := .disconnected, error := some f })

/-- A message read before a reading is a message applied to the link before it. -/
theorem Reading.leaves_cons {r : Reading} {m : Inbound} {l : Link} {c : Connection}
    (h : r.Leaves (m.onLink l) c) : { r with messages := m :: r.messages }.Leaves l c := h

/-- Messages read before a reading are messages applied to the link before it. -/
theorem Reading.leaves_append {r r' : Reading} {l : Link} {c : Connection}
    (h : r'.Leaves (r.messages.foldl (fun l m => m.onLink l) l) c) :
    { r' with messages := r.messages ++ r'.messages }.Leaves l c := by
  unfold Reading.Leaves at h ⊢
  rw [List.foldl_append]
  exact h

end Inbound

theorem Fault.is_disconnected (detail : String) :
    (Fault.disconnected detail).is .disconnected = true := rfl

namespace LinkM

/-- The reader's stop takes a link that is up down for a lost sensor, and records that the
reader stopped. -/
theorem run_readerStopped (s : ReadStop) (c : Connection) (hc : c.link.connected = true) :
    ∃ f : Fault, f.is .disconnected = true ∧
      ((readerStopped s).run c).2.link =
        { c.link with connected := false, state := .disconnected, error := some f } ∧
      ((readerStopped s).run c).2.readerEnd.isSome := by
  -- the end of the stream between messages is the sensor closing; any other stop names itself
  have hfault : ∃ d, ((readerStopped s).run c).2.link =
      { c.link with connected := false, state := .disconnected, error := some (Fault.disconnected d) } ∧
      ((readerStopped s).run c).2.readerEnd.isSome := by
    cases s <;> simp only [readerStopped, disconnect, run_bind, run_modify, hc] <;> simp
  obtain ⟨d, hd⟩ := hfault
  exact ⟨_, Fault.is_disconnected d, hd⟩

/-- The reader loop applies the messages it reads from the inbox, then waits for more or
stops for good, as the reading of the inbox says. -/
theorem run_readMessages (ended : Bool) (fuel : Nat) (c : Connection)
    (hend : c.readerEnd = none) (hc : c.link.connected = true) (hfuel : c.inbox.length < fuel) :
    (Inbound.readAll ended c.inbox).Leaves c.link ((readMessages ended fuel).run c).2 := by
  induction fuel generalizing c with
  | zero => omega
  | succ fuel ih =>
    rcases hrun : Inbound.reader.runOn ⟨c.inbox, 0, ended⟩ with ⟨r, cur⟩
    cases r with
    | ok m =>
      -- the message is applied, and the loop goes on from the bytes after it
      have hstep : ((readMessages ended (fuel + 1)).run c).2 =
          ((readMessages ended fuel).run (m.apply.run { c with inbox := cur.rest }).2).2 := by
        simp only [readMessages, run_bind, run_get, run_set, hend, hrun, Option.isSome_none,
          Bool.false_eq_true, if_false]
      obtain ⟨hl, hi, he⟩ := Inbound.run_apply m { c with inbox := cur.rest }
      have hup : (m.onLink c.link).connected = true := by
        rw [(Inbound.onLink_frameBook m c.link).1, hc]
      have hrest : cur.rest.length < fuel := by
        have := Inbound.reader_takes hrun
        omega
      have hnext := ih (m.apply.run { c with inbox := cur.rest }).2 (by rw [he]; exact hend)
        (by rw [hl]; exact hup) (by rw [hi]; exact hrest)
      rw [hl, hi] at hnext
      rw [hstep, Inbound.readAll_of_ok hrun]
      exact Inbound.Reading.leaves_cons hnext
    | error s =>
      rw [Inbound.readAll_of_error (s := s) (by simp [hrun])]
      by_cases hw : s = .waiting
      · -- the message is not complete: the loop waits for more
        subst hw
        have hstay : ((readMessages ended (fuel + 1)).run c).2 = c := by
          simp only [readMessages, run_bind, run_get, hend, hrun, Option.isSome_none,
            Bool.false_eq_true, if_false]
          rfl
        rw [hstay]
        exact .inl ⟨rfl, hend, rfl, rfl⟩
      · -- any other stop ends the reader and takes the link down
        have hstop : ((readMessages ended (fuel + 1)).run c).2 = ((readerStopped s).run c).2 := by
          cases s <;> simp_all [readMessages]
        obtain ⟨f, hf, hl, he⟩ := run_readerStopped s c hc
        rw [hstop]
        exact .inr ⟨hw, he, f, hf, hl⟩

/-- Bytes that arrive after the reader stopped are never read. -/
theorem run_receive_of_stopped (bs : List UInt8) (ended : Bool) (c : Connection)
    (hend : c.readerEnd.isSome = true) :
    ((receive bs ended).run c).2 = { c with inbox := c.inbox ++ bs } := by
  simp only [receive, readMessages, run_bind, run_modify, run_get, hend, if_true]
  rfl

/-- Bytes that arrive while the reader waits are read on from the bytes it kept. -/
theorem run_receive_of_waiting (bs : List UInt8) (ended : Bool) (c : Connection) :
    ((receive bs ended).run c).2 =
      ((readMessages ended ((c.inbox ++ bs).length + 1)).run { c with inbox := c.inbox ++ bs }).2 :=
  rfl

end LinkM

/-! ## A stream delivered in pieces -/

namespace Inbound.Reading

variable {r : Reading} {l : Link} {c : Connection}

/-- Wherever a reading leaves the link, its frame book is what the messages made of it. -/
theorem Leaves.frameBook (h : r.Leaves l c) :
    c.link.frameBook = r.messages.foldl FrameBook.take l.frameBook := by
  rw [← (foldl_onLink_frameBook r.messages l).2]
  -- going down touches neither the frames nor the counts
  rcases h with ⟨-, -, -, hl⟩ | ⟨-, -, f, -, hl⟩
  · rw [hl]
  · rw [hl]
    rfl

/-- A link that was up stays up while the reader waits, and is down for a lost sensor once
it stopped. -/
theorem Leaves.connected (h : r.Leaves l c) (hl : l.connected = true) :
    (r.stop = .waiting → c.link.connected = true) ∧
      (r.stop ≠ .waiting → c.link.state = .disconnected ∧
        ∃ f : Fault, c.link.error = some f ∧ f.is .disconnected = true) := by
  rcases h with ⟨hw, -, -, hc⟩ | ⟨hw, -, f, hf, hc⟩
  · refine ⟨fun _ => ?_, fun hw' => absurd hw hw'⟩
    rw [hc, (foldl_onLink_frameBook r.messages l).1, hl]
  · exact ⟨fun hw' => absurd hw' hw, fun _ => ⟨by rw [hc], f, by rw [hc], hf⟩⟩

end Inbound.Reading

namespace LinkM

open Inbound

variable {l₀ : Link} {pre : List UInt8} {c : Connection}

/-- A new connection to a link: nothing read yet. -/
theorem leaves_start (l₀ : Link) : (readAll false []).Leaves l₀ { link := l₀ } := by
  rw [readAll_nil]
  exact .inl ⟨rfl, rfl, rfl, rfl⟩

/-- Bytes that arrive are read as the end of the stream they extend: the link is where the
reading of the whole stream so far leaves it. -/
theorem leaves_receive (hl₀ : l₀.connected = true) (h : (readAll false pre).Leaves l₀ c)
    (bs : List UInt8) : (readAll false (pre ++ bs)).Leaves l₀ ((receive bs false).run c).2 := by
  rw [readAll_append false false pre bs]
  rcases h with ⟨-, hend, hin, hl⟩ | ⟨hw, hend, f, hf, hl⟩
  · -- the reader was waiting: it reads on from the bytes it kept
    apply Reading.leaves_append
    have hup : (c.link).connected = true := by
      rw [hl, (foldl_onLink_frameBook _ l₀).1, hl₀]
    have hnext := run_readMessages false ((c.inbox ++ bs).length + 1)
      { c with inbox := c.inbox ++ bs } hend hup (by simp)
    rw [run_receive_of_waiting, ← hl]
    simpa only [hin] using hnext
  · -- the reader had stopped on a fault in the bytes, and reads nothing more
    obtain ⟨e, he⟩ : ∃ e, (readAll false pre).stop = .wire e := by
      have hfits := stop_readAll_fits false pre
      cases hs : (readAll false pre).stop <;> simp_all [ReadStop.Fits]
    rw [readAll_rest_of_wire he, run_receive_of_stopped bs false c hend]
    refine .inr ⟨by simp, hend, f, hf, ?_⟩
    simpa using hl

/-- A stream delivered in any pieces is read as one stream. -/
theorem leaves_deliver (hl₀ : l₀.connected = true) (chunks : List (List UInt8))
    (h : (readAll false pre).Leaves l₀ c) :
    (readAll false (pre ++ chunks.flatten)).Leaves l₀
      ((chunks.forM fun bs => receive bs false).run c).2 := by
  induction chunks generalizing pre c with
  | nil =>
    rw [List.flatten_nil, List.append_nil]
    exact h
  | cons bs chunks ih =>
    have hcons : ((bs :: chunks).forM fun bs => receive bs false) =
        (receive bs false >>= fun _ => chunks.forM fun bs => receive bs false) := rfl
    rw [hcons, run_bind, List.flatten_cons, ← List.append_assoc]
    exact ih (leaves_receive hl₀ h bs)

/-- The end of the stream reads no further message and takes the link down for a lost
sensor, its frames and counts as they were. -/
theorem receive_end (hl₀ : l₀.connected = true) (h : (readAll false pre).Leaves l₀ c) :
    (((receive [] true).run c).2.link.frameBook = c.link.frameBook) ∧
      ((receive [] true).run c).2.link.state = .disconnected ∧
      ∃ f : Fault, ((receive [] true).run c).2.link.error = some f ∧
        f.is .disconnected = true := by
  rcases h with ⟨hw, hend, hin, hl⟩ | ⟨hw, hend, f, hf, hl⟩
  · -- the reader was waiting: on the ended stream it reads nothing and stops
    have hup : (c.link).connected = true := by
      rw [hl, (foldl_onLink_frameBook _ l₀).1, hl₀]
    have hnext := run_readMessages true ((c.inbox ++ []).length + 1)
      { c with inbox := c.inbox ++ [] } hend hup (by simp)
    rw [← run_receive_of_waiting] at hnext
    have hnone : (readAll true (c.inbox ++ [])).messages = [] := by
      rw [List.append_nil, hin]
      exact messages_readAll_rest false true pre
    have hstop : (readAll true (c.inbox ++ [])).stop ≠ .waiting := by
      have hfits := stop_readAll_fits true (c.inbox ++ [])
      intro hs
      rw [hs] at hfits
      simp [ReadStop.Fits] at hfits
    rcases hnext with ⟨hs, -⟩ | ⟨-, -, f, hf, hl'⟩
    · exact absurd hs hstop
    · rw [hl', hnone]
      exact ⟨rfl, rfl, f, rfl, hf⟩
  · -- the reader had stopped: the link is down already
    rw [run_receive_of_stopped [] true c hend, hl]
    exact ⟨rfl, rfl, f, rfl, hf⟩

/-- What a request for the next stored frame returns for the sensor's answer: the frame,
and that more may follow, when it decoded; no frame, and that more may follow, when it was
skipped; no frame, and that none remain, at the end of the stored frames. -/
def storedAnswer : Except WireError Payload → Option Frame × Bool
  | .ok (.frame f) => (some f, true)
  | .ok .endOfStored => (none, false)
  | .error _ => (none, true)

/-- A request for the next stored frame on a link that is up and writes: the request goes
out, the caller waits, and the sensor's answer settles the wait with `storedAnswer`. -/
theorem run_nextStoredFrame_answered (c : Connection) (hc : c.link.connected = true)
    (hw : c.writeFault = none) (p : Except WireError Payload) (how : GiveUp) :
    ((do let s ← nextStoredFrame; (Inbound.frame true p).apply; s.settle how).run c).1 =
      (storedAnswer p, none) := by
  have hreq : ∃ c₁ : Connection, requestStoredFrame.run c = (none, c₁) ∧
      c₁.link = { c.link with
        flags := { c.link.flags with storedFrameReceived := false, noMoreStoredFrames := false }
        stored := none } := by
    simp only [requestStoredFrame, send, run_bind, run_update, run_get, hc, hw]
    simp only [Bool.not_true, Bool.false_eq_true, if_false]
    exact ⟨_, rfl, rfl⟩
  obtain ⟨c₁, hrun, hl⟩ := hreq
  -- the answer marks the stored frame answered, so the wait succeeds and reads the link
  obtain ⟨hl₂, -, -⟩ := Inbound.run_apply (Inbound.frame true p) c₁
  have hframe : (Inbound.frame true p).onLink c₁.link = Inbound.applyFrame true p c₁.link := by
    simp [Inbound.onLink, Inbound.apply, run_update]
  rw [hframe, hl] at hl₂
  simp only [nextStoredFrame, run_bind, hrun, run_pure, Started.settle, Wait.settle,
    waitStoredFrame, Wait.simple, LinkM.link, run_get, hl₂]
  rcases p with e | f | _ <;> simp [hl₂, Inbound.applyFrame, storedAnswer] <;> rfl

end LinkM

/-- The frames and counts of a link over any byte stream. The messages read whole from a
stream are the same whether it has ended or not. From a new link, after the stream arrived in
any pieces: the link's frame is the last frame read whole that decoded, none if there is none;
the frames received are those, and the frames skipped are the frame answers read whole that
were skipped, each of them spurious or malformed; every frame answer marks its request
answered. While the reader waits for more the link stays up, and a fault in the bytes, such as
a byte that names no message, takes it down for a lost sensor. When the stream then ends, the
frames and counts stay as they were and the link goes down for a lost sensor. A request for
the next stored frame, on a link that is up and writes, returns what `LinkM.storedAnswer` says
for the sensor's answer. -/
theorem reader_keeps_last_good_frame (endpoint : String) (chunks : List (List UInt8)) :
    (Inbound.readAll true chunks.flatten).messages =
      (Inbound.readAll false chunks.flatten).messages ∧
    let c := ((chunks.forM fun bs => LinkM.receive bs false).run
      { link := Link.create endpoint }).2
    let r := Inbound.readAll false chunks.flatten
    c.link.frame = (r.messages.filterMap Inbound.decoded).getLast? ∧
    c.link.received = (r.messages.filterMap Inbound.decoded).length ∧
    c.link.skipped = r.messages.countP (·.skipped) ∧
    (∀ m ∈ r.messages, m.Sound) ∧
    c.link.flags.storedFrameReceived = r.messages.any (·.answers true) ∧
    c.link.flags.latestFrameReceived = r.messages.any (·.answers false) ∧
    (r.stop = .waiting → c.link.connected = true) ∧
    (r.stop ≠ .waiting → c.link.state = .disconnected ∧
      ∃ f : Fault, c.link.error = some f ∧ f.is .disconnected = true) ∧
    (∀ b more, r.rest = b :: more → Message.ofByte? b = none →
      r.stop = .wire (.unknownMessage b)) ∧
    (let c' := ((LinkM.receive [] true).run c).2
     c'.link.frameBook = c.link.frameBook ∧ c'.link.state = .disconnected ∧
     ∃ f : Fault, c'.link.error = some f ∧ f.is .disconnected = true) ∧
    ∀ (c₀ : Connection) (p : Except WireError Payload) (how : GiveUp),
      c₀.link.connected = true → c₀.writeFault = none →
      ((do let s ← LinkM.nextStoredFrame; (Inbound.frame true p).apply; s.settle how).run c₀).1 =
        (LinkM.storedAnswer p, none) := by
  refine ⟨Inbound.messages_readAll_closed false true _, ?_⟩
  intro c r
  have hleaves : r.Leaves (Link.create endpoint) c := by
    simpa only [List.nil_append] using
      LinkM.leaves_deliver rfl chunks (LinkM.leaves_start (Link.create endpoint))
  -- the frame book of the new link, moved by every message read whole
  have hbook := hleaves.frameBook
  rw [FrameBook.foldl_take] at hbook
  have hframe := congrArg FrameBook.frame hbook
  have hreceived := congrArg FrameBook.received hbook
  have hskipped := congrArg FrameBook.skipped hbook
  have hstored := congrArg FrameBook.storedAnswered hbook
  have hlive := congrArg FrameBook.liveAnswered hbook
  simp only [Link.frameBook, Link.create, Option.or_none, Nat.zero_add, Bool.false_or]
    at hframe hreceived hskipped hstored hlive
  -- where the reader stopped, the byte there decides the stop
  have hunknown : ∀ b more, r.rest = b :: more → Message.ofByte? b = none →
      r.stop = .wire (.unknownMessage b) := by
    intro b more hrest hb
    have hstop := Inbound.runOn_reader_rest false chunks.flatten
    rw [show (Inbound.readAll false chunks.flatten).rest = b :: more from hrest,
      Inbound.runOn_reader_unknown hb] at hstop
    exact (Except.error.inj hstop).symm
  obtain ⟨hend, hdown, hfault⟩ := LinkM.receive_end rfl hleaves
  exact ⟨hframe, hreceived, hskipped, fun m hm => Inbound.sound_of_mem_readAll hm, hstored, hlive,
    (hleaves.connected rfl).1, (hleaves.connected rfl).2, hunknown,
    ⟨hend, hdown, hfault⟩,
    fun c₀ p how hc hw => LinkM.run_nextStoredFrame_answered c₀ hc hw p how⟩

/-- A last-frame answer carrying the empty frame, cut inside its header and followed by a byte
that names no message: the link keeps the frame, counts it received, marks the live request
answered and goes down. On a new link a stored-frame request is settled by a frame as a frame
with more to come, by the sentinel as none left, and by a spurious length as no frame. -/
theorem reader_keeps_frame_before_unknown_byte :
    let chunks : List (List UInt8) := [[3, 8, 0, 0], List.replicate 14 0 ++ [238]]
    let c := ((chunks.forM fun bs => LinkM.receive bs false).run
      { link := Link.create "dev-0" }).2
    let c₀ : Connection := { link := Link.create "dev-0" }
    c.link.frame = some {} ∧ c.link.received = 1 ∧ c.link.skipped = 0 ∧
      c.link.flags.latestFrameReceived = true ∧ c.link.state = .disconnected ∧
      ((do
          let s ← LinkM.nextStoredFrame
          (Inbound.frame true (.ok (.frame {}))).apply
          s.settle .timedOut).run c₀).1 = ((some {}, true), none) ∧
      ((do
          let s ← LinkM.nextStoredFrame
          (Inbound.frame true (.ok .endOfStored)).apply
          s.settle .timedOut).run c₀).1 = ((none, false), none) ∧
      ((do
          let s ← LinkM.nextStoredFrame
          (Inbound.frame true (.error (.spuriousVertexCount (-2)))).apply
          s.settle .canceled).run c₀).1 = ((none, true), none) := by
  intro chunks c c₀
  obtain ⟨-, hframe, hreceived, hskipped, -, -, hlive, -, hdown, -, -, hstored⟩ :=
    reader_keeps_last_good_frame "dev-0" chunks
  -- the reader stops at the unknown byte, not waiting for more
  have hstop : (Inbound.readAll false chunks.flatten).stop ≠ .waiting := by
    intro h
    have hbeq : ((Inbound.readAll false chunks.flatten).stop == .waiting) = false := by
      decide +kernel
    rw [h] at hbeq
    cases hbeq
  exact ⟨hframe.trans (by decide +kernel), hreceived.trans (by decide +kernel),
    hskipped.trans (by decide +kernel), hlive.trans (by decide +kernel), (hdown hstop).1,
    hstored c₀ _ _ rfl rfl, hstored c₀ _ _ rfl rfl, hstored c₀ _ _ rfl rfl⟩

end DepthRig
