import DepthRig.Proofs.Link.Exchange
import DepthRig.Fleet.Member

/-!
# What each operation does to a member

Every operation on a member is one exchange: the link writes a request, the sensor handles
it and the link reads the replies (`MemberM.exchange`). On a member in step (`Member.InStep`)
each operation does what its request says and keeps the member in step; on a member that is
down (`Member.Down`) each fails and leaves the sensor as it was. Together, a sound member
(`Member.Sound`) stays sound under every operation.
-/

namespace DepthRig

open Wire Simulator

namespace Wire

/-- A frame that the link reads back as the wire carries it, framed compressed or not: its
counts fit their words, the decompressor undoes the compressor on its payload, and the payload
is within the frame limit. -/
structure FrameReadable (f : Frame) (compress : Bool) : Prop where
  vertices : f.vertices.length < 2 ^ 31
  bodies : f.bodies.length < 2 ^ 31
  joints : ∀ b ∈ f.bodies, b.joints.length < 2 ^ 31
  decompress : compress = true →
    Compression.decompress (Compression.compress ⟨(encodeFrame (some f)).toArray⟩) =
      .ok ⟨(encodeFrame (some f)).toArray⟩
  payload : (if compress then (Compression.compress ⟨(encodeFrame (some f)).toArray⟩).toList
    else encodeFrame (some f)).length ≤ maxFramePayload

namespace FrameReadable

variable {f : Frame} {compress : Bool}

theorem length_appendFramed (h : FrameReadable f compress) :
    (appendFramed [] (some f) compress).length < 8 + 2 ^ 31 := by
  have hlimit : maxFramePayload < 2 ^ 31 := by decide
  have hp := h.payload
  simp only [appendFramed, List.nil_append, List.length_append, FrameHeader.length_encode]
  omega

/-- The frame reader takes the framing of a readable frame and decodes the frame, at any
offset and whatever follows. -/
theorem runOn_readFramed (h : FrameReadable f compress) (rest : List UInt8) (o : Nat)
    (closed : Bool) :
    (readFramed true).runOn ⟨appendFramed [] (some f) compress ++ rest, o, closed⟩ =
      (.ok (.frame (FrameRecords.ofFrame f).frame),
        ⟨rest, o + (appendFramed [] (some f) compress).length, closed⟩) := by
  set payload := (if compress then
      (Compression.compress ⟨(encodeFrame (some f)).toArray⟩).toList
    else encodeFrame (some f)) with hpayload
  have hbytes : appendFramed [] (some f) compress ++ rest =
      FrameHeader.encode ⟨Int32.ofInt payload.length, compress⟩ ++ (payload ++ rest) := by
    simp [appendFramed, hpayload]
  have hpos : 0 < payload.length := by
    cases compress
    · simp [hpayload, FrameRecords.encodeFrame_eq_bytes, FrameRecords.bytes]
    · simp [hpayload, Compression.compress, Compression.leBytes]
  have hlimit : maxFramePayload < 2 ^ 31 := by decide
  have hmax : payload.length ≤ maxFramePayload := h.payload
  have hlen : (Int32.ofInt payload.length).toInt = payload.length :=
    Int32.toInt_ofInt_of_le (by omega) (by omega)
  have hdec : decodePayload (encodeFrame (some f)) = .ok (.frame (FrameRecords.ofFrame f).frame) := by
    rw [FrameRecords.encodeFrame_eq_bytes, ← List.append_nil (FrameRecords.ofFrame f).bytes,
      FrameRecords.decodePayload_bytes_append (FrameRecords.valid_ofFrame h.vertices h.bodies h.joints)]
  -- the payload, decompressed when it was compressed, decodes to the frame
  have hafter : ∀ c, (afterPayload true compress payload).runOn c =
      (.ok (.frame (FrameRecords.ofFrame f).frame), c) := by
    intro c
    cases compress with
    | false => simp [afterPayload, hpayload, hdec]
    | true => simp [afterPayload, hpayload, h.decompress rfl, hdec]
  rw [hbytes, runOn_readFramed_header hlen hpos hmax o closed]
  rw [hafter]
  simp [appendFramed, hpayload, FrameHeader.length_encode, Nat.add_assoc]

end FrameReadable

end Wire

namespace Inbound

open Wire Decode

/-- A readable frame answer is read whole, as the frame the wire carries. -/
theorem decides_frameReader_readable {f : Frame} {compress : Bool} (h : FrameReadable f compress)
    (stored : Bool) (o : Nat) :
    (frameReader stored).Decides o (appendFramed [] (some f) compress)
      (.ok (.frame stored (.ok (.frame (FrameRecords.ofFrame f).frame)))) := by
  intro more closed
  unfold frameReader
  rw [runOn_tryCatch, runOn_bind, h.runOn_readFramed]
  rfl

/-- The reader reads a readable frame reply as the frame the wire carries. -/
theorem reader_frame {f : Frame} {compress : Bool} (h : FrameReadable f compress) (stored : Bool) :
    (reader.runOn ⟨(Reply.frame stored f compress).bytes, 0, true⟩).1 =
      .ok (.frame stored (.ok (.frame (FrameRecords.ofFrame f).frame))) := by
  have hd : reader.Decides 0 (Reply.frame stored f compress).bytes
      (.ok (.frame stored (.ok (.frame (FrameRecords.ofFrame f).frame)))) := by
    cases stored
    · exact Decides.bind (takes_readFull.u8 _) (decides_frameReader_readable h false _)
    · exact Decides.bind (takes_readFull.u8 _) (decides_frameReader_readable h true _)
  have hrun := hd [] true
  rw [List.append_nil] at hrun
  rw [hrun]

/-- The reader reads the end-of-stored reply as the end of the stored frames. -/
theorem reader_endOfStored :
    (reader.runOn ⟨Reply.endOfStored.bytes, 0, true⟩).1 = .ok (.frame true (.ok .endOfStored)) := by
  have hframe : ∀ o, (frameReader true).Decides o (appendEndOfStored [])
      (.ok (.frame true (.ok .endOfStored))) := by
    intro o more closed
    unfold frameReader
    rw [runOn_tryCatch, runOn_bind]
    simp only [appendEndOfStored, List.nil_append]
    rw [runOn_readFramed_endOfStored]
    rfl
  have hd : reader.Decides 0 Reply.endOfStored.bytes (.ok (.frame true (.ok .endOfStored))) :=
    Decides.bind (takes_readFull.u8 _) (hframe _)
  have hrun := hd [] true
  rw [List.append_nil] at hrun
  rw [hrun]

end Inbound

@[simp] theorem Link.connected_enter (l : Link) (s : LinkState) :
    (l.enter s).connected = l.connected := by
  unfold Link.enter
  split <;> rfl

@[simp] theorem Link.flags_enter (l : Link) (s : LinkState) : (l.enter s).flags = l.flags := by
  unfold Link.enter
  split <;> rfl

@[simp] theorem Link.flags_settle (l : Link) (s : LinkState) : (l.settle s).flags = l.flags := by
  unfold Link.settle
  split <;> rfl

namespace Inbound

@[simp] theorem onLink_captured (l : Link) :
    captured.onLink l = ({ l with flags := { l.flags with frameCaptured := true } }).settle .capturing := by
  simp [onLink, apply, LinkM.run_update]

@[simp] theorem onLink_preRecordConfirmed (l : Link) :
    preRecordConfirmed.onLink l = { l with flags := { l.flags with preRecordConfirmed := true } } := by
  simp [onLink, apply, LinkM.run_update]

@[simp] theorem onLink_postRecordConfirmed (l : Link) :
    postRecordConfirmed.onLink l = { l with flags := { l.flags with postRecordConfirmed := true } } := by
  simp [onLink, apply, LinkM.run_update]

@[simp] theorem onLink_directoryCreated (b : UInt8) (l : Link) :
    (directoryCreated b).onLink l =
      { l with flags := { l.flags with directoryConfirmed := true }, replyOk := b == 1 } := by
  simp [onLink, apply, LinkM.run_update]

@[simp] theorem onLink_frame (stored : Bool) (p : Except WireError Payload) (l : Link) :
    (frame stored p).onLink l = applyFrame stored p l := by
  simp [onLink, apply, LinkM.run_update]

/-- A lone reply is read as the one message the reader makes of it alone. -/
theorem forall₂_single {p : Reply} {msg : Inbound}
    (hp : (reader.runOn ⟨p.bytes, 0, true⟩).1 = .ok msg) {ms : List Inbound}
    (hall : List.Forall₂ (fun p m => (reader.runOn ⟨p.bytes, 0, true⟩).1 = .ok m) [p] ms) :
    ms = [msg] := by
  cases hall with
  | cons h₁ h₂ =>
    cases h₂
    rw [hp] at h₁
    cases h₁
    rfl

end Inbound

namespace LinkM

/-- A link operation that changes the link by `f`, which keeps it up or down, and then writes
the request `req`: on a link that is up and writes, it sends `req` and returns `up`; on a link
that is down, it sends nothing and returns `down` of the link as `f` left it. Nothing but the
link, the bytes written and the announcements changes. -/
structure Sends {α : Type} (op : LinkM α) (f : Link → Link) (req : Request) (up : α)
    (down : Link → α) : Prop where
  connected : ∀ l, (f l).connected = l.connected
  run_up : ∀ c : Connection, c.link.connected = true → c.writeFault = none → ∃ es,
    op.run c = (up, { c with link := f c.link, sent := c.sent ++ req.bytes.toArray, events := es })
  run_down : ∀ c : Connection, c.link.connected = false → ∃ es,
    op.run c = (down (f c.link), { c with link := f c.link, events := es })

namespace Sends

variable {α β : Type} {op : LinkM α} {f : Link → Link} {req : Request} {up : α}
  {down : Link → α}

/-- Writing a request. -/
theorem send (req : Request) :
    Sends (LinkM.send req.command req.payload) id req none
      fun l => some (Fault.disconnected l.endpoint) where
  connected _ := rfl
  run_up c hc hw := ⟨c.events, by simp [LinkM.send, hc, hw, Request.bytes]; rfl⟩
  run_down c hc := ⟨c.events, by simp [LinkM.send, hc]; rfl⟩

/-- Changing the link, announced, before the operation. -/
theorem update_bind (hop : Sends op f req up down) (g : Link → Link)
    (hg : ∀ l, (g l).connected = l.connected) :
    Sends (do update g; op) (f ∘ g) req up down where
  connected l := by simp [hop.connected, hg]
  run_up c hc hw := by
    obtain ⟨es, hes⟩ := hop.run_up ((update g).run c).2 (by simp [run_update, hg, hc])
      (by simp [run_update, hw])
    refine ⟨es, ?_⟩
    rw [run_bind, hes]
    simp [run_update]
  run_down c hc := by
    obtain ⟨es, hes⟩ := hop.run_down ((update g).run c).2 (by simp [run_update, hg, hc])
    refine ⟨es, ?_⟩
    rw [run_bind, hes]
    simp [run_update]

/-- Answering with what the operation returned, through a function of it. -/
theorem bind_pure (hop : Sends op f req up down) {k : α → LinkM β} {g : α → β}
    (hk : ∀ a c, (k a).run c = (g a, c)) :
    Sends (op >>= k) f req (g up) (g ∘ down) where
  connected := hop.connected
  run_up c hc hw := by
    obtain ⟨es, hes⟩ := hop.run_up c hc hw
    exact ⟨es, by rw [run_bind, hes, hk]⟩
  run_down c hc := by
    obtain ⟨es, hes⟩ := hop.run_down c hc
    exact ⟨es, by rw [run_bind, hes, hk]; rfl⟩

/-- A request: the link clears what the answer will set, then writes the command, and waits
for the answer unless writing failed. -/
theorem request {β : Type} {clear : Link → Link} (hclear : ∀ l, (clear l).connected = l.connected)
    (req : Request) (whenDone : Started β) (failed : β) :
    Sends (LinkM.request clear req.command req.payload whenDone failed) clear req whenDone
      fun l => .finished (failed, some (Fault.disconnected l.endpoint)) :=
  (bind_pure (send req) (g := fun r => r.elim whenDone fun e => Started.finished (failed, some e))
    fun a _ => by cases a <;> rfl).update_bind clear hclear

theorem requestCapture :
    Sends LinkM.requestCapture
      (fun l => ({ l with flags := { l.flags with frameCaptured := false } }).enter .capturing)
      (.bare .captureFrame) none fun l => some (Fault.disconnected l.endpoint) :=
  (send (.bare .captureFrame)).update_bind _ fun _ => Link.connected_enter _ _

theorem nextStoredFrame :
    Sends LinkM.nextStoredFrame
      (fun l => { l with
        flags := { l.flags with storedFrameReceived := false, noMoreStoredFrames := false }
        stored := none })
      (.bare .requestStoredFrame) (.waiting waitStoredFrame)
      fun l => .finished ((none, true), some (Fault.disconnected l.endpoint)) := by
  refine ((send (.bare .requestStoredFrame)).update_bind
    (fun l => { l with
      flags := { l.flags with storedFrameReceived := false, noMoreStoredFrames := false }
      stored := none }) fun _ => rfl).bind_pure
    (g := fun r => r.elim (.waiting waitStoredFrame) fun e => Started.finished ((none, true), some e)) ?_
  intro a c
  cases a <;> rfl

theorem lastFrame :
    Sends LinkM.lastFrame
      (fun l => { l with flags := { l.flags with latestFrameReceived := false } })
      (.bare .requestLastFrame) (.waiting waitLastFrame)
      fun l => .finished (none, some (Fault.disconnected l.endpoint)) := by
  refine ((send (.bare .requestLastFrame)).update_bind
    (fun l => { l with flags := { l.flags with latestFrameReceived := false } }) fun _ => rfl).bind_pure
    (g := fun r => r.elim (.waiting waitLastFrame) fun e => Started.finished (none, some e)) ?_
  intro a c
  cases a <;> rfl

theorem clearStoredFrames :
    Sends LinkM.clearStoredFrames id (.bare .clearStoredFrames) none
      fun l => some (Fault.disconnected l.endpoint) :=
  send (.bare .clearStoredFrames)

theorem preRecord :
    Sends LinkM.preRecord (fun l => { l with flags := { l.flags with preRecordConfirmed := false } })
      (.bare .preRecordProcessStart)
      (awaiting "pre-record confirmation" (·.flags.preRecordConfirmed) () (pure ((), none)))
      fun l => .finished ((), some (Fault.disconnected l.endpoint)) :=
  @request _ (fun l => { l with flags := { l.flags with preRecordConfirmed := false } })
    (fun _ => rfl) (.bare .preRecordProcessStart) _ ()

theorem postRecord :
    Sends LinkM.postRecord (fun l => { l with flags := { l.flags with postRecordConfirmed := false } })
      (.bare .postRecordProcessStart)
      (awaiting "post-record confirmation" (·.flags.postRecordConfirmed) () (pure ((), none)))
      fun l => .finished ((), some (Fault.disconnected l.endpoint)) :=
  @request _ (fun l => { l with flags := { l.flags with postRecordConfirmed := false } })
    (fun _ => rfl) (.bare .postRecordProcessStart) _ ()

theorem createDirectory (path : List UInt8) :
    Sends (LinkM.createDirectory path)
      (fun l => { l with flags := { l.flags with directoryConfirmed := false } }) (.directory path)
      (awaiting "directory confirmation" (·.flags.directoryConfirmed) ()
        (confirmedBy ("could not create " ++ Quote.bytes path)))
      fun l => .finished ((), some (Fault.disconnected l.endpoint)) :=
  @request _ (fun l => { l with flags := { l.flags with directoryConfirmed := false } })
    (fun _ => rfl) (.directory path) _ ()

/-- Replacing the world transform, then pushing it. -/
theorem pushWorld (w : Affine) :
    Sends (do LinkM.setWorld w; LinkM.sendCalibrationData)
      (fun l => { l with world := w, pose := w.cameraPose }) (.world w.r w.t) none
      fun l => some (Fault.disconnected l.endpoint) where
  connected _ := rfl
  run_up c hc hw := by
    have hset := run_update (fun l => { l with world := w, pose := w.cameraPose }) c
    obtain ⟨es, hes⟩ := (send (.world w.r w.t)).run_up
      ((update fun l => { l with world := w, pose := w.cameraPose }).run c).2
      (by rw [hset]; exact hc) (by rw [hset]; exact hw)
    rw [hset] at hes
    exact ⟨es, by rw [run_bind, LinkM.setWorld, hset]; exact hes⟩
  run_down c hc := by
    have hset := run_update (fun l => { l with world := w, pose := w.cameraPose }) c
    obtain ⟨es, hes⟩ := (send (.world w.r w.t)).run_down
      ((update fun l => { l with world := w, pose := w.cameraPose }).run c).2
      (by rw [hset]; exact hc)
    rw [hset] at hes
    exact ⟨es, by rw [run_bind, LinkM.setWorld, hset]; exact hes⟩

end Sends

/-- A request confirmed by the sensor's status reads the link and leaves it. -/
theorem run_confirmedBy (failure : String) (c : Connection) :
    (confirmedBy failure).run c = (if c.link.replyOk then ((), none) else ((), some (.ofKind
      .commandFailed ("sensor reported failure: " ++ c.link.endpoint ++ " " ++ failure))), c) := by
  show (if c.link.replyOk = true then (pure ((), none) : LinkM (Unit × Option Fault))
    else pure ((), some (.ofKind .commandFailed
      ("sensor reported failure: " ++ c.link.endpoint ++ " " ++ failure)))).run c = _
  split <;> rfl

/-- Whole replies within their bounds, arriving at a link that is up with nothing unread, are
read one message each and applied in order, leaving nothing unread and the reader running. -/
theorem receive_replies {c : Connection} (hc : c.link.connected = true) (hend : c.readerEnd = none)
    (hin : c.inbox = []) {ps : List Reply} (hps : ∀ p ∈ ps, p.Fits) :
    ∃ ms, List.Forall₂ (fun p msg => (Inbound.reader.runOn ⟨p.bytes, 0, true⟩).1 = .ok msg) ps ms ∧
      ((receive (ps.flatMap Reply.bytes) false).run c).2.link =
        ms.foldl (fun l msg => msg.onLink l) c.link ∧
      ((receive (ps.flatMap Reply.bytes) false).run c).2.inbox = [] ∧
      ((receive (ps.flatMap Reply.bytes) false).run c).2.readerEnd = none := by
  obtain ⟨ms, hread, hall⟩ := Inbound.readAll_replies ps hps
  have hleaves := run_readMessages false ((c.inbox ++ ps.flatMap Reply.bytes).length + 1)
    { c with inbox := c.inbox ++ ps.flatMap Reply.bytes } hend hc (by simp)
  rw [← run_receive_of_waiting, hin, List.nil_append, hread] at hleaves
  rcases hleaves with ⟨-, hend', hin', hl⟩ | ⟨hstop, -⟩
  · exact ⟨ms, hall, hl, hin', hend'⟩
  · exact absurd rfl hstop

end LinkM

namespace Simulator

/-- What a sensor's frames come from and where they are kept: its setup and scene, the frames
it stored, and how far answering them has got. -/
structure Sensor.Frames where
  setup : Setup
  points : List Point3
  stored : List StoredShot
  cursor : Nat

/-- The frames view of a sensor. -/
def Sensor.frames (s : Sensor) : Sensor.Frames := ⟨s.setup, s.points, s.stored, s.cursor⟩

end Simulator

namespace Fleet

/-- A member whose link and sensor are in step: the link is up and writes, its reader runs with
nothing unread, and the sensor serves with nothing pending. -/
structure Member.InStep (m : Member) : Prop where
  connected : m.link.connected = true
  writes : m.conn.writeFault = none
  reading : m.conn.readerEnd = none
  inbox : m.conn.inbox = []
  serving : m.sensor.serving = true
  pending : m.sensor.pending = []

/-- A member whose link is down for good: the link is down, its reader has stopped, and the
sensor no longer serves. -/
structure Member.Down (m : Member) : Prop where
  disconnected : m.link.connected = false
  stopped : m.conn.readerEnd.isSome = true
  silent : m.sensor.serving = false

namespace MemberM

variable {α : Type} {op : LinkM α} {f : Link → Link} {req : Request} {up : α} {down : Link → α}

/-- An exchange with a member in step: the link writes its request, the sensor handles it alone
and answers with whole replies, and the link reads each reply as one message. The member stays
in step. -/
theorem exchange_inStep (hop : op.Sends f req up down) (hreq : req.Fits) {m : Member}
    (h : m.InStep) (s' : Sensor) (ps : List Reply) (hps : ∀ p ∈ ps, p.Fits)
    (hans : (({ m.sensor with commands := m.sensor.commands.push req.command }.answer
      req.command).runOn ⟨req.payload, 0, true⟩).1 = .ok (s', ps.flatMap Reply.bytes))
    (hserving : s'.serving = true) :
    ∃ ms, List.Forall₂ (fun p msg => (Inbound.reader.runOn ⟨p.bytes, 0, true⟩).1 = .ok msg) ps ms ∧
      ((exchange op).run m).1 = up ∧
      ((exchange op).run m).2.sensor = { s' with pending := [] } ∧
      ((exchange op).run m).2.link = ms.foldl (fun l msg => msg.onLink l) (f m.link) ∧
      ((exchange op).run m).2.registered = m.registered ∧
      ((exchange op).run m).2.InStep := by
  obtain ⟨es, hes⟩ := hop.run_up { m.conn with sent := #[] } h.connected h.writes
  set c₁ : Connection := { { m.conn with sent := #[] } with
    link := f m.conn.link, sent := { m.conn with sent := #[] }.sent ++ req.bytes.toArray, events := es }
  -- the sensor handles the one request on its own payload
  have hserve : m.sensor.serve c₁.sent.toList = ({ s' with pending := [] }, ps.flatMap Reply.bytes, false) := by
    have hreqs := Sensor.serve_requests m.sensor h.serving h.pending [req] (by simp [hreq])
    simp only [List.flatMap_cons, List.flatMap_nil, List.append_nil] at hreqs
    simp only [c₁, Array.toList_append, List.nil_append, hreqs, Sensor.handleEach, hans]
    simp
  have hup : c₁.link.connected = true := by
    simp only [c₁, hop.connected]
    exact h.connected
  obtain ⟨ms, hall, hl, hin, hend⟩ := LinkM.receive_replies hup h.reading h.inbox hps
  have hout := LinkM.outgoing_receive (ps.flatMap Reply.bytes) false c₁
  have hrun : (exchange op).run m = (up, { m with
      sensor := { s' with pending := [] }
      conn := ((LinkM.receive (ps.flatMap Reply.bytes) false).run c₁).2 }) := by
    show exchange op m = _
    simp only [exchange, hes, hserve]
    rfl
  rw [hrun]
  refine ⟨ms, hall, rfl, rfl, hl, rfl, ?_⟩
  refine ⟨?_, ?_, hend, hin, hserving, rfl⟩
  · show ((LinkM.receive (ps.flatMap Reply.bytes) false).run c₁).2.link.connected = true
    rw [hl, (Inbound.foldl_onLink_frameBook ms _).1]
    exact hup
  · have := congrArg Prod.snd hout
    simp only [Connection.outgoing] at this
    rw [this]
    exact h.writes

/-- An exchange with a member that is down: nothing is written, the sensor hears nothing, and
the operation answers as on a link that is down. -/
theorem exchange_down (hop : op.Sends f req up down) {m : Member} (h : m.Down) :
    ((exchange op).run m).1 = down (f m.link) ∧
      ((exchange op).run m).2.sensor = m.sensor ∧
      ((exchange op).run m).2.link = f m.link ∧
      ((exchange op).run m).2.registered = m.registered ∧
      ((exchange op).run m).2.Down := by
  obtain ⟨es, hes⟩ := hop.run_down { m.conn with sent := #[] } h.disconnected
  set c₁ : Connection := { { m.conn with sent := #[] } with link := f m.conn.link, events := es }
  have hserve : m.sensor.serve c₁.sent.toList = (m.sensor, [], false) := by
    simp [Sensor.serve, h.silent]
  have hrecv := LinkM.run_receive_of_stopped [] false c₁ h.stopped
  have hrun : (exchange op).run m =
      (down (f m.link), { m with conn := { c₁ with inbox := c₁.inbox ++ [] } }) := by
    show exchange op m = _
    simp only [exchange, hes, hserve]
    rw [← hrecv]
    rfl
  rw [hrun]
  refine ⟨rfl, rfl, rfl, rfl, ?_, h.stopped, h.silent⟩
  show (f m.link).connected = false
  rw [hop.connected]
  exact h.disconnected

/-- Settling a request that already finished changes nothing. -/
theorem settle_finished {β : Type} (r : β × Option Fault) (m : Member) :
    (settle (.finished r)).run m = (r, m) := rfl

/-- Settling a wait that reads the link without changing it: its answer if the condition
holds, and otherwise the failure with the fault of the wait given up. -/
theorem settle_simple {β : Type} {what : String} {ready : Link → Bool} {failed : β}
    {done : LinkM (β × Option Fault)} (hdone : ∀ c, (done.run c).2 = c) (m : Member) :
    (settle (.waiting (Wait.simple what ready failed done))).run m =
      (if ready m.link then (done.run m.conn).1 else (failed, some (Wait.fault m.link what .timedOut)),
        m) := by
  -- the wait reads the link, then finishes through `done` exactly when `ready` holds
  have hwait : ((Started.waiting (Wait.simple what ready failed done)).settle .timedOut).run m.conn =
      (if ready m.link = true then done else pure (failed, some (Wait.fault m.link what .timedOut))).run
        m.conn := rfl
  unfold settle
  simp only [StateT.run] at hwait hdone ⊢
  rw [hwait]
  by_cases hr : ready m.link = true
  · rw [if_pos hr, if_pos hr]
    -- the wait's answer reads the connection and leaves it as it was
    have hc := hdone m.conn
    rcases hx : done m.conn with ⟨r, c⟩
    rw [hx] at hc
    cases hc
    rfl
  · rw [if_neg hr, if_neg hr]
    rfl

theorem run_bind {β : Type} (x : MemberM α) (g : α → MemberM β) (m : Member) :
    (x >>= g).run m = (g (x.run m).1).run (x.run m).2 := rfl

theorem run_pure (a : α) (m : Member) : (pure a : MemberM α).run m = (a, m) := rfl

/-- An operation that keeps only the fault of a call. -/
theorem run_fault {β : Type} (x : MemberM (β × Option Fault)) (m : Member) :
    (do return (← x).2 : MemberM (Option Fault)).run m = ((x.run m).1.2, (x.run m).2) := rfl

/-- A request that then waits for a condition of the link, sent to a member in step: the
exchange as `exchange_inStep` says, then the wait settled on what the replies made of the
link. -/
theorem requestThenWait_inStep {β : Type} {send : LinkM (Option Fault)} {what : String}
    {ready : Link → Bool} {failed : β} {done : LinkM (β × Option Fault)}
    {down : Link → Option Fault} (failed' : β)
    (hop : send.Sends f req none down) (hreq : req.Fits) (hdone : ∀ c, (done.run c).2 = c)
    {m : Member} (h : m.InStep) (s' : Sensor) (ps : List Reply) (hps : ∀ p ∈ ps, p.Fits)
    (hans : (({ m.sensor with commands := m.sensor.commands.push req.command }.answer
      req.command).runOn ⟨req.payload, 0, true⟩).1 = .ok (s', ps.flatMap Reply.bytes))
    (hserving : s'.serving = true) :
    ∃ ms, List.Forall₂ (fun p msg => (Inbound.reader.runOn ⟨p.bytes, 0, true⟩).1 = .ok msg) ps ms ∧
      (requestThenWait send (Wait.simple what ready failed done) failed').run m =
        (if ready (ms.foldl (fun l (msg : Inbound) => msg.onLink l) (f m.link))
          then (done.run ((exchange send).run m).2.conn).1
          else (failed, some (Wait.fault (ms.foldl (fun l (msg : Inbound) => msg.onLink l) (f m.link))
            what .timedOut)),
          ((exchange send).run m).2) ∧
      ((exchange send).run m).2.sensor = { s' with pending := [] } ∧
      ((exchange send).run m).2.registered = m.registered ∧
      ((exchange send).run m).2.InStep := by
  obtain ⟨ms, hall, hup, hsensor, hlink, hreg, hin⟩ := exchange_inStep hop hreq h s' ps hps hans hserving
  refine ⟨ms, hall, ?_, hsensor, hreg, hin⟩
  simp only [requestThenWait, run_bind, hup]
  rw [settle_simple hdone, ← hlink]

/-- A capture on a member in step: a sensor that answers captures stores the frame it sees and
confirms, and the capture succeeds; one that ignores them stores nothing, and the capture fails
once the wait is given up. The member stays in step. -/
theorem capture_inStep {m : Member} (h : m.InStep) :
    ((capture.run m).1 = none ↔ m.sensor.setup.ignoreCapture = false) ∧
    (capture.run m).2.sensor.frames = { m.sensor.frames with stored := m.sensor.stored ++
      if m.sensor.setup.ignoreCapture then [] else
        [⟨m.sensor.snapshot, UInt64.ofNat ((m.sensor.captures + 1) * m.sensor.setup.periodUs),
          Int32.ofNat m.sensor.stored.length⟩] } ∧
    (capture.run m).2.registered = m.registered ∧ (capture.run m).2.InStep := by
  set heard : Sensor := { m.sensor with commands := m.sensor.commands.push .captureFrame }
  have hdone : ∀ c, ((pure ((), none) : LinkM (Unit × Option Fault)).run c).2 = c := fun _ => rfl
  unfold capture
  cases hig : m.sensor.setup.ignoreCapture with
  | true =>
    -- the sensor answers nothing: the flag stays cleared and the wait is given up
    have hans : ((heard.answer .captureFrame).runOn ⟨[], 0, true⟩).1 =
        .ok (heard, ([] : List Reply).flatMap Reply.bytes) := by
      simp [Sensor.answer, heard, hig]
    obtain ⟨ms, hall, hrun, hsensor, hreg, hin⟩ := requestThenWait_inStep ()
      LinkM.Sends.requestCapture rfl hdone h heard [] (by simp) hans h.serving
    cases hall
    rw [run_fault, LinkM.waitCaptured, hrun]
    refine ⟨by simp, ?_, hreg, hin⟩
    rw [hsensor]
    simp [Sensor.frames, heard]
  | false =>
    -- the sensor stores the frame it sees and confirms; the confirmation sets the flag
    set stored := ({ heard with captures := heard.captures + 1 }).store
      (UInt64.ofNat ((heard.captures + 1) * heard.setup.periodUs))
    have hans : ((heard.answer .captureFrame).runOn ⟨[], 0, true⟩).1 =
        .ok (stored, [Reply.captured].flatMap Reply.bytes) := by
      simp [Sensor.answer, heard, hig, stored]
      rfl
    obtain ⟨ms, hall, hrun, hsensor, hreg, hin⟩ := requestThenWait_inStep ()
      LinkM.Sends.requestCapture rfl hdone h stored [.captured] (by simp [Reply.Fits]) hans h.serving
    rw [Inbound.forall₂_single rfl hall] at hrun
    rw [run_fault, LinkM.waitCaptured, hrun]
    refine ⟨by simp; rfl, ?_, hreg, hin⟩
    rw [hsensor]
    simp [Sensor.frames, Sensor.store, Sensor.snapshot, heard, stored]

/-- A call on a member in step, of a request that then waits for a condition of the link: the
exchange as `exchange_inStep` says, then the wait settled on what the replies made of the
link. -/
theorem call_inStep {β : Type} {start : LinkM (Started β)} {what : String} {ready : Link → Bool}
    {failed : β} {done : LinkM (β × Option Fault)} {down : Link → Started β}
    (hop : start.Sends f req (.waiting (Wait.simple what ready failed done)) down) (hreq : req.Fits)
    (hdone : ∀ c, (done.run c).2 = c) {m : Member} (h : m.InStep) (s' : Sensor) (ps : List Reply)
    (hps : ∀ p ∈ ps, p.Fits)
    (hans : (({ m.sensor with commands := m.sensor.commands.push req.command }.answer
      req.command).runOn ⟨req.payload, 0, true⟩).1 = .ok (s', ps.flatMap Reply.bytes))
    (hserving : s'.serving = true) :
    ∃ ms, List.Forall₂ (fun p msg => (Inbound.reader.runOn ⟨p.bytes, 0, true⟩).1 = .ok msg) ps ms ∧
      (call start).run m =
        (if ready (ms.foldl (fun l (msg : Inbound) => msg.onLink l) (f m.link))
          then (done.run ((exchange start).run m).2.conn).1
          else (failed, some (Wait.fault (ms.foldl (fun l (msg : Inbound) => msg.onLink l) (f m.link))
            what .timedOut)),
          ((exchange start).run m).2) ∧
      ((exchange start).run m).2.sensor = { s' with pending := [] } ∧
      ((exchange start).run m).2.link = ms.foldl (fun l (msg : Inbound) => msg.onLink l) (f m.link) ∧
      ((exchange start).run m).2.registered = m.registered ∧
      ((exchange start).run m).2.InStep := by
  obtain ⟨ms, hall, hup, hsensor, hlink, hreg, hin⟩ := exchange_inStep hop hreq h s' ps hps hans hserving
  refine ⟨ms, hall, ?_, hsensor, hlink, hreg, hin⟩
  simp only [call, run_bind, hup]
  rw [settle_simple hdone, ← hlink]

/-- A call on a member that is down fails at once, and the member stays down. -/
theorem call_down {β : Type} {start : LinkM (Started β)} {failed : β} {up : Started β}
    (hop : start.Sends f req up fun l => .finished (failed, some (Fault.disconnected l.endpoint)))
    {m : Member} (h : m.Down) :
    ((call start).run m).1 = (failed, some (Fault.disconnected (f m.link).endpoint)) ∧
      ((call start).run m).2.sensor = m.sensor ∧
      ((call start).run m).2.link = f m.link ∧
      ((call start).run m).2.registered = m.registered ∧
      ((call start).run m).2.Down := by
  obtain ⟨hres, hsensor, hlink, hreg, hdown⟩ := exchange_down hop h
  simp only [call, run_bind, hres, settle_finished]
  exact ⟨trivial, hsensor, hlink, hreg, hdown⟩

/-- The pre-recording handshake on a member in step succeeds, and leaves the sensor's frames
as they were. -/
theorem preRecord_inStep {m : Member} (h : m.InStep) :
    (preRecord.run m).1 = none ∧ (preRecord.run m).2.sensor.frames = m.sensor.frames ∧
      (preRecord.run m).2.registered = m.registered ∧ (preRecord.run m).2.InStep := by
  obtain ⟨ms, hall, hrun, hsensor, -, hreg, hin⟩ := call_inStep LinkM.Sends.preRecord rfl
    (fun _ => rfl) h { m.sensor with commands := m.sensor.commands.push .preRecordProcessStart }
    [.preRecordConfirmed] (by simp [Reply.Fits]) (by simp [Sensor.answer]; rfl) h.serving
  rw [Inbound.forall₂_single rfl hall] at hrun
  unfold preRecord
  rw [run_fault, hrun, if_pos (by simp)]
  exact ⟨rfl, by rw [hsensor]; rfl, hreg, hin⟩

/-- The post-recording handshake on a member in step succeeds, and rewinds the sensor's
answers of stored frames to the first. -/
theorem postRecord_inStep {m : Member} (h : m.InStep) :
    (postRecord.run m).1 = none ∧
      (postRecord.run m).2.sensor.frames = { m.sensor.frames with cursor := 0 } ∧
      (postRecord.run m).2.registered = m.registered ∧ (postRecord.run m).2.InStep := by
  obtain ⟨ms, hall, hrun, hsensor, -, hreg, hin⟩ := call_inStep LinkM.Sends.postRecord rfl
    (fun _ => rfl) h
    { m.sensor with commands := m.sensor.commands.push .postRecordProcessStart, cursor := 0 }
    [.postRecordConfirmed] (by simp [Reply.Fits]) (by simp [Sensor.answer]; rfl) h.serving
  rw [Inbound.forall₂_single rfl hall] at hrun
  unfold postRecord
  rw [run_fault, hrun, if_pos (by simp)]
  exact ⟨rfl, by rw [hsensor]; rfl, hreg, hin⟩

/-- Asking a member in step to create a directory whose path is within the list limit: the
sensor notes the directory and answers, and the request succeeds unless the sensor is set to
fail it. The sensor's frames stay as they were. -/
theorem createDirectory_inStep {m : Member} (h : m.InStep) {path : List UInt8}
    (hpath : path.length ≤ maxListEntries) :
    (((createDirectory path).run m).1 = none ↔ m.sensor.setup.failDirectory = false) ∧
      ((createDirectory path).run m).2.sensor.frames = m.sensor.frames ∧
      ((createDirectory path).run m).2.registered = m.registered ∧
      ((createDirectory path).run m).2.InStep := by
  set heard : Sensor := { m.sensor with commands := m.sensor.commands.push .createDirectory }
  set b : UInt8 := if m.sensor.setup.failDirectory then 0 else 1 with hb
  have hans : ((heard.answer (Request.directory path).command).runOn
      ⟨(Request.directory path).payload, 0, true⟩).1 =
      .ok ({ heard with directories := heard.directories ++ [path] },
        [Reply.directoryCreated b].flatMap Reply.bytes) := by
    have hd := Decode.Decides.bind_pure (o := 0) (decides_directoryReader path hpath)
      (f := fun dir => (({ heard with directories := heard.directories ++ [dir] } : Sensor),
        Sensor.reply .confirmDirCreation [if heard.setup.failDirectory then 0 else 1])) rfl
    have hrun := hd [] true
    rw [List.append_nil] at hrun
    exact congrArg Prod.fst hrun
  have hdone : ∀ c, ((LinkM.confirmedBy ("could not create " ++ Quote.bytes path)).run c).2 = c := by
    intro c
    rw [LinkM.run_confirmedBy]
  obtain ⟨ms, hall, hrun, hsensor, hlink, hreg, hin⟩ := call_inStep (LinkM.Sends.createDirectory path)
    hpath hdone h _ [.directoryCreated b] (by simp [Reply.Fits]) hans h.serving
  rw [Inbound.forall₂_single rfl hall] at hlink hrun
  -- the sensor's status byte is what the link keeps as the answer
  have hok : ((exchange (LinkM.createDirectory path)).run m).2.conn.link.replyOk = (b == 1) := by
    show ((exchange (LinkM.createDirectory path)).run m).2.link.replyOk = _
    rw [hlink]
    simp
  unfold createDirectory
  rw [run_fault, hrun, if_pos (by simp), LinkM.run_confirmedBy, hok]
  refine ⟨?_, by rw [hsensor]; rfl, hreg, hin⟩
  cases hfail : m.sensor.setup.failDirectory <;> simp [hb, hfail]

/-- Clearing a member in step: the sensor drops its stored frames and answers them from the
first again. -/
theorem clearStoredFrames_inStep {m : Member} (h : m.InStep) :
    ((exchange LinkM.clearStoredFrames).run m).1 = none ∧
      ((exchange LinkM.clearStoredFrames).run m).2.sensor.frames =
        { m.sensor.frames with stored := [], cursor := 0 } ∧
      ((exchange LinkM.clearStoredFrames).run m).2.registered = m.registered ∧
      ((exchange LinkM.clearStoredFrames).run m).2.InStep := by
  obtain ⟨ms, -, hup, hsensor, -, hreg, hin⟩ := exchange_inStep LinkM.Sends.clearStoredFrames rfl h
    { m.sensor with
      commands := m.sensor.commands.push .clearStoredFrames
      stored := []
      cursor := 0 } [] (by simp) rfl h.serving
  exact ⟨hup, by rw [hsensor]; rfl, hreg, hin⟩

/-- Asking a member in step for its next stored frame, when one is left: the sensor answers
it and moves on, and the link returns it as the wire carries it, with more to come. -/
theorem nextStoredFrame_stored {m : Member} (h : m.InStep) {shot : StoredShot}
    (hshot : m.sensor.stored[m.sensor.cursor]? = some shot)
    (hread : FrameReadable shot.frame m.sensor.setup.compress) :
    (nextStoredFrame.run m).1 = ((some (FrameRecords.ofFrame shot.frame).frame, true), none) ∧
      (nextStoredFrame.run m).2.sensor.frames =
        { m.sensor.frames with cursor := m.sensor.cursor + 1 } ∧
      (nextStoredFrame.run m).2.registered = m.registered ∧ (nextStoredFrame.run m).2.InStep ∧
      (nextStoredFrame.run m).2.link.world = m.link.world ∧
      (nextStoredFrame.run m).2.link.config = m.link.config := by
  obtain ⟨ms, hall, hrun, hsensor, hlink, hreg, hin⟩ := call_inStep LinkM.Sends.nextStoredFrame rfl
    (fun _ => rfl) h
    { m.sensor with
      commands := m.sensor.commands.push .requestStoredFrame
      cursor := m.sensor.cursor + 1 }
    [.frame true shot.frame m.sensor.setup.compress]
    (by simp only [List.mem_singleton, forall_eq]; exact hread.length_appendFramed)
    (by simp [Sensor.answer, hshot]; rfl) h.serving
  rw [Inbound.forall₂_single (Inbound.reader_frame hread true) hall] at hlink hrun
  -- the link keeps the frame as the answer, with more stored frames to come
  have hl : ((exchange LinkM.nextStoredFrame).run m).2.conn.link.stored =
      some (FrameRecords.ofFrame shot.frame).frame ∧
      ((exchange LinkM.nextStoredFrame).run m).2.conn.link.flags.noMoreStoredFrames = false := by
    show ((exchange LinkM.nextStoredFrame).run m).2.link.stored = _ ∧
      ((exchange LinkM.nextStoredFrame).run m).2.link.flags.noMoreStoredFrames = _
    rw [hlink]
    simp [Inbound.applyFrame]
  unfold nextStoredFrame
  rw [hrun, if_pos (by simp [Inbound.applyFrame])]
  refine ⟨?_, by rw [hsensor]; rfl, hreg, hin, by rw [hlink]; simp [Inbound.applyFrame],
    by rw [hlink]; simp [Inbound.applyFrame]⟩
  show ((((exchange LinkM.nextStoredFrame).run m).2.conn.link.stored,
    !((exchange LinkM.nextStoredFrame).run m).2.conn.link.flags.noMoreStoredFrames), none) = _
  rw [hl.1, hl.2]
  rfl

/-- Asking a member in step for its next stored frame when none is left: the sensor says so,
and the link returns no frame and no more to come. -/
theorem nextStoredFrame_end {m : Member} (h : m.InStep)
    (hend : m.sensor.stored[m.sensor.cursor]? = none) :
    (nextStoredFrame.run m).1 = ((none, false), none) ∧
      (nextStoredFrame.run m).2.sensor.frames = m.sensor.frames ∧
      (nextStoredFrame.run m).2.registered = m.registered ∧ (nextStoredFrame.run m).2.InStep ∧
      (nextStoredFrame.run m).2.link.world = m.link.world ∧
      (nextStoredFrame.run m).2.link.config = m.link.config := by
  obtain ⟨ms, hall, hrun, hsensor, hlink, hreg, hin⟩ := call_inStep LinkM.Sends.nextStoredFrame rfl
    (fun _ => rfl) h { m.sensor with commands := m.sensor.commands.push .requestStoredFrame }
    [.endOfStored] (by simp [Reply.Fits]) (by simp [Sensor.answer, hend]; rfl) h.serving
  rw [Inbound.forall₂_single Inbound.reader_endOfStored hall] at hlink hrun
  have hl : ((exchange LinkM.nextStoredFrame).run m).2.conn.link.stored = none ∧
      ((exchange LinkM.nextStoredFrame).run m).2.conn.link.flags.noMoreStoredFrames = true := by
    show ((exchange LinkM.nextStoredFrame).run m).2.link.stored = _ ∧
      ((exchange LinkM.nextStoredFrame).run m).2.link.flags.noMoreStoredFrames = _
    rw [hlink]
    simp [Inbound.applyFrame]
  unfold nextStoredFrame
  rw [hrun, if_pos (by simp [Inbound.applyFrame])]
  refine ⟨?_, by rw [hsensor]; rfl, hreg, hin, by rw [hlink]; simp [Inbound.applyFrame],
    by rw [hlink]; simp [Inbound.applyFrame]⟩
  show ((((exchange LinkM.nextStoredFrame).run m).2.conn.link.stored,
    !((exchange LinkM.nextStoredFrame).run m).2.conn.link.flags.noMoreStoredFrames), none) = _
  rw [hl.1, hl.2]
  rfl

/-- Fetching the live frame from a member in step whose frame answer fits its header: the
sensor's frames stay as they were. -/
theorem lastFrame_inStep {m : Member} (h : m.InStep)
    (hfit : (Reply.frame false m.sensor.snapshot m.sensor.setup.compress).Fits) :
    (lastFrame.run m).2.sensor.frames = m.sensor.frames ∧
      (lastFrame.run m).2.registered = m.registered ∧ (lastFrame.run m).2.InStep := by
  obtain ⟨ms, -, hrun, hsensor, -, hreg, hin⟩ := call_inStep LinkM.Sends.lastFrame rfl
    (fun _ => rfl) h { m.sensor with commands := m.sensor.commands.push .requestLastFrame }
    [.frame false m.sensor.snapshot m.sensor.setup.compress]
    (by simp only [List.mem_singleton, forall_eq]; exact hfit) (by simp [Sensor.answer]; rfl)
    h.serving
  unfold lastFrame
  rw [hrun]
  exact ⟨by rw [hsensor]; rfl, hreg, hin⟩

/-- Pushing a world transform to a member in step: the sensor takes it, and its frames stay as
they were. -/
theorem pushWorld_inStep {m : Member} (h : m.InStep) (w : Affine) :
    ((pushWorld w).run m).2.sensor.frames = m.sensor.frames ∧
      ((pushWorld w).run m).2.registered = m.registered ∧ ((pushWorld w).run m).2.InStep := by
  obtain ⟨v, hv⟩ := decodeWorldCalibration_of_length
    (le_of_eq (length_encodeWorldCalibration w.r w.t).symm)
  set heard : Sensor := { m.sensor with commands := m.sensor.commands.push .receiveCalibration }
  have hans : ((heard.answer (Request.world w.r w.t).command).runOn
      ⟨(Request.world w.r w.t).payload, 0, true⟩).1 =
      .ok ({ heard with world := some ⟨0, v.1, v.2⟩ }, ([] : List Reply).flatMap Reply.bytes) := by
    have hd : (heard.answer .receiveCalibration).Decides 0 (encodeWorldCalibration w.r w.t)
        (.ok ({ heard with world := some ⟨0, v.1, v.2⟩ }, [])) := by
      refine Decode.Decides.bind_nil (takes_readFull (length_encodeWorldCalibration w.r w.t)) ?_
      simp only [hv]
      exact Decode.Decides.pure _
    have hrun := hd [] true
    rw [List.append_nil] at hrun
    exact congrArg Prod.fst hrun
  obtain ⟨ms, -, -, hsensor, -, hreg, hin⟩ := exchange_inStep (LinkM.Sends.pushWorld w) trivial h
    _ [] (by simp) hans h.serving
  unfold pushWorld
  exact ⟨by rw [hsensor]; rfl, hreg, hin⟩

/-- A sensor hanging up takes its member down for good, whether it was in step or already
down; the registry drops it, and the sensor's frames stay as they were. -/
theorem hangUp_down {m : Member} (h : m.InStep ∨ m.Down) :
    (hangUp.run m).2.sensor.frames = m.sensor.frames ∧ (hangUp.run m).2.registered = false ∧
      (hangUp.run m).2.Down := by
  refine ⟨rfl, rfl, ?_⟩
  rcases h with h | h
  · -- the reader meets the end of the stream with nothing unread, and the link goes down
    have hleaves := LinkM.run_readMessages true ((m.conn.inbox ++ []).length + 1)
      { m.conn with inbox := m.conn.inbox ++ [] } h.reading h.connected (by simp)
    rw [← LinkM.run_receive_of_waiting, h.inbox, List.nil_append,
      Inbound.readAll_of_error (Inbound.runOn_reader_nil 0 true)] at hleaves
    rcases hleaves with ⟨hstop, -⟩ | ⟨-, hend, f, -, hl⟩
    · exact absurd hstop (by simp)
    · refine ⟨?_, hend, rfl⟩
      show ((LinkM.receive [] true).run m.conn).2.link.connected = false
      rw [hl]
  · -- a reader that has stopped reads nothing more
    have hrecv := LinkM.run_receive_of_stopped [] true m.conn h.stopped
    refine ⟨?_, ?_, rfl⟩
    · show ((LinkM.receive [] true).run m.conn).2.link.connected = false
      rw [hrecv]
      exact h.disconnected
    · show ((LinkM.receive [] true).run m.conn).2.readerEnd.isSome = true
      rw [hrecv]
      exact h.stopped

/-! ### On a member that is down -/

theorem capture_down {m : Member} (h : m.Down) :
    (capture.run m).1.isSome ∧ (capture.run m).2.sensor = m.sensor ∧
      (capture.run m).2.registered = m.registered ∧ (capture.run m).2.Down := by
  obtain ⟨hres, hsensor, -, hreg, hdown⟩ := exchange_down LinkM.Sends.requestCapture h
  unfold capture requestThenWait
  rw [run_fault, run_bind, hres]
  exact ⟨rfl, hsensor, hreg, hdown⟩

theorem preRecord_down {m : Member} (h : m.Down) :
    (preRecord.run m).1.isSome ∧ (preRecord.run m).2.sensor = m.sensor ∧
      (preRecord.run m).2.registered = m.registered ∧ (preRecord.run m).2.Down := by
  obtain ⟨hres, hsensor, -, hreg, hdown⟩ := call_down LinkM.Sends.preRecord h
  unfold preRecord
  rw [run_fault, hres]
  exact ⟨rfl, hsensor, hreg, hdown⟩

theorem postRecord_down {m : Member} (h : m.Down) :
    (postRecord.run m).1.isSome ∧ (postRecord.run m).2.sensor = m.sensor ∧
      (postRecord.run m).2.registered = m.registered ∧ (postRecord.run m).2.Down := by
  obtain ⟨hres, hsensor, -, hreg, hdown⟩ := call_down LinkM.Sends.postRecord h
  unfold postRecord
  rw [run_fault, hres]
  exact ⟨rfl, hsensor, hreg, hdown⟩

theorem createDirectory_down {m : Member} (h : m.Down) (path : List UInt8) :
    ((createDirectory path).run m).1.isSome ∧ ((createDirectory path).run m).2.sensor = m.sensor ∧
      ((createDirectory path).run m).2.registered = m.registered ∧
      ((createDirectory path).run m).2.Down := by
  obtain ⟨hres, hsensor, -, hreg, hdown⟩ := call_down (LinkM.Sends.createDirectory path) h
  unfold createDirectory
  rw [run_fault, hres]
  exact ⟨rfl, hsensor, hreg, hdown⟩

theorem nextStoredFrame_down {m : Member} (h : m.Down) :
    (nextStoredFrame.run m).1.2.isSome ∧ (nextStoredFrame.run m).2.sensor = m.sensor ∧
      (nextStoredFrame.run m).2.registered = m.registered ∧ (nextStoredFrame.run m).2.Down := by
  obtain ⟨hres, hsensor, -, hreg, hdown⟩ := call_down LinkM.Sends.nextStoredFrame h
  unfold nextStoredFrame
  rw [hres]
  exact ⟨rfl, hsensor, hreg, hdown⟩

theorem lastFrame_down {m : Member} (h : m.Down) :
    (lastFrame.run m).2.sensor = m.sensor ∧ (lastFrame.run m).2.registered = m.registered ∧
      (lastFrame.run m).2.Down := by
  obtain ⟨-, hsensor, -, hreg, hdown⟩ := call_down LinkM.Sends.lastFrame h
  exact ⟨hsensor, hreg, hdown⟩

theorem clearStoredFrames_down {m : Member} (h : m.Down) :
    ((exchange LinkM.clearStoredFrames).run m).2.sensor = m.sensor ∧
      ((exchange LinkM.clearStoredFrames).run m).2.registered = m.registered ∧
      ((exchange LinkM.clearStoredFrames).run m).2.Down := by
  obtain ⟨-, hsensor, -, hreg, hdown⟩ := exchange_down LinkM.Sends.clearStoredFrames h
  exact ⟨hsensor, hreg, hdown⟩

theorem pushWorld_down {m : Member} (h : m.Down) (w : Affine) :
    ((pushWorld w).run m).2.sensor = m.sensor ∧ ((pushWorld w).run m).2.registered = m.registered ∧
      ((pushWorld w).run m).2.Down := by
  obtain ⟨-, hsensor, -, hreg, hdown⟩ := exchange_down (LinkM.Sends.pushWorld w) h
  exact ⟨hsensor, hreg, hdown⟩

end MemberM

/-- A member as the fleet keeps it: in step or down for good, its sensor's snapshot one the
link reads back, and every frame the sensor stored that snapshot. -/
structure Member.Sound (m : Member) : Prop where
  state : m.InStep ∨ m.Down
  readable : FrameReadable m.sensor.snapshot m.sensor.setup.compress
  snapshots : ∀ shot ∈ m.sensor.stored, shot.frame = m.sensor.snapshot

namespace Member.Sound

variable {m m' : Member}

/-- A member in step or down whose sensor kept its setup and scene, and stored nothing but
what it had and what it sees. -/
theorem of_frames (h : m.Sound) (hs : m'.InStep ∨ m'.Down)
    (hview : m'.sensor.frames.setup = m.sensor.frames.setup ∧
      m'.sensor.frames.points = m.sensor.frames.points)
    (hstored : ∀ shot ∈ m'.sensor.frames.stored, shot ∈ m.sensor.stored ∨
      shot.frame = m.sensor.snapshot) : m'.Sound := by
  have hsnap : m'.sensor.snapshot = m.sensor.snapshot := by
    simp only [Sensor.frames] at hview
    simp only [Sensor.snapshot, hview.1, hview.2]
  have hsetup : m'.sensor.setup = m.sensor.setup := hview.1
  refine ⟨hs, ?_, ?_⟩
  · rw [hsnap, hsetup]
    exact h.readable
  · intro shot hshot
    rcases hstored shot hshot with hold | hnew
    · rw [hsnap]
      exact h.snapshots shot hold
    · rw [hsnap]
      exact hnew

/-- A member left down with its sensor as it was. -/
theorem of_down (h : m.Sound) (hs : m'.Down) (hsensor : m'.sensor = m.sensor) : m'.Sound :=
  h.of_frames (.inr hs) (by rw [hsensor]; exact ⟨rfl, rfl⟩) (by rw [hsensor]; exact fun _ hs => .inl hs)

/-- A member in step whose sensor's frames are those of another, but for where their answers
have got. -/
theorem of_cursor (h : m.Sound) (hs : m'.InStep) {c : Nat}
    (hframes : m'.sensor.frames = { m.sensor.frames with cursor := c }) : m'.Sound :=
  h.of_frames (.inl hs) (by rw [hframes]; exact ⟨rfl, rfl⟩) (by rw [hframes]; exact fun _ hs => .inl hs)

end Member.Sound

namespace MemberM

variable {m : Member}

theorem capture_sound (h : m.Sound) : (capture.run m).2.Sound := by
  rcases h.state with hi | hd
  · obtain ⟨-, hframes, -, hin⟩ := capture_inStep hi
    refine h.of_frames (.inl hin) (by rw [hframes]; exact ⟨rfl, rfl⟩) ?_
    rw [hframes]
    intro shot hshot
    simp only [List.mem_append] at hshot
    rcases hshot with hold | hnew
    · exact .inl hold
    · split at hnew
      · simp at hnew
      · simp only [List.mem_singleton] at hnew
        exact .inr (by rw [hnew])
  · obtain ⟨-, hsensor, -, hdown⟩ := capture_down hd
    exact h.of_down hdown hsensor

theorem preRecord_sound (h : m.Sound) : (preRecord.run m).2.Sound := by
  rcases h.state with hi | hd
  · obtain ⟨-, hframes, -, hin⟩ := preRecord_inStep hi
    exact h.of_cursor hin (c := m.sensor.cursor) hframes
  · obtain ⟨-, hsensor, -, hdown⟩ := preRecord_down hd
    exact h.of_down hdown hsensor

theorem postRecord_sound (h : m.Sound) : (postRecord.run m).2.Sound := by
  rcases h.state with hi | hd
  · obtain ⟨-, hframes, -, hin⟩ := postRecord_inStep hi
    exact h.of_cursor hin hframes
  · obtain ⟨-, hsensor, -, hdown⟩ := postRecord_down hd
    exact h.of_down hdown hsensor

theorem createDirectory_sound (h : m.Sound) {path : List UInt8}
    (hpath : path.length ≤ maxListEntries) : ((createDirectory path).run m).2.Sound := by
  rcases h.state with hi | hd
  · obtain ⟨-, hframes, -, hin⟩ := createDirectory_inStep hi hpath
    exact h.of_cursor hin (c := m.sensor.cursor) hframes
  · obtain ⟨-, hsensor, -, hdown⟩ := createDirectory_down hd path
    exact h.of_down hdown hsensor

theorem clearStoredFrames_sound (h : m.Sound) :
    ((exchange LinkM.clearStoredFrames).run m).2.Sound := by
  rcases h.state with hi | hd
  · obtain ⟨-, hframes, -, hin⟩ := clearStoredFrames_inStep hi
    exact h.of_frames (.inl hin) (by rw [hframes]; exact ⟨rfl, rfl⟩) (by rw [hframes]; simp)
  · obtain ⟨hsensor, -, hdown⟩ := clearStoredFrames_down hd
    exact h.of_down hdown hsensor

theorem nextStoredFrame_sound (h : m.Sound) : (nextStoredFrame.run m).2.Sound := by
  rcases h.state with hi | hd
  · cases hshot : m.sensor.stored[m.sensor.cursor]? with
    | none =>
      obtain ⟨-, hframes, -, hin, -⟩ := nextStoredFrame_end hi hshot
      exact h.of_cursor hin (c := m.sensor.cursor) hframes
    | some shot =>
      have hread : FrameReadable shot.frame m.sensor.setup.compress := by
        rw [h.snapshots shot (List.mem_of_getElem? hshot)]
        exact h.readable
      obtain ⟨-, hframes, -, hin, -⟩ := nextStoredFrame_stored hi hshot hread
      exact h.of_cursor hin hframes
  · obtain ⟨-, hsensor, -, hdown⟩ := nextStoredFrame_down hd
    exact h.of_down hdown hsensor

theorem lastFrame_sound (h : m.Sound) : (lastFrame.run m).2.Sound := by
  rcases h.state with hi | hd
  · obtain ⟨hframes, -, hin⟩ := lastFrame_inStep hi (h.readable.length_appendFramed)
    exact h.of_cursor hin (c := m.sensor.cursor) hframes
  · obtain ⟨hsensor, -, hdown⟩ := lastFrame_down hd
    exact h.of_down hdown hsensor

theorem pushWorld_sound (h : m.Sound) (w : Affine) : ((pushWorld w).run m).2.Sound := by
  rcases h.state with hi | hd
  · obtain ⟨hframes, -, hin⟩ := pushWorld_inStep hi w
    exact h.of_cursor hin (c := m.sensor.cursor) hframes
  · obtain ⟨hsensor, -, hdown⟩ := pushWorld_down hd w
    exact h.of_down hdown hsensor

theorem hangUp_sound (h : m.Sound) : (hangUp.run m).2.Sound := by
  obtain ⟨hframes, -, hdown⟩ := hangUp_down h.state
  exact h.of_frames (.inr hdown) (by rw [hframes]; exact ⟨rfl, rfl⟩)
    (by rw [hframes]; exact fun _ hs => .inl hs)

end MemberM

/-- Whether a capture on the member succeeds: its link is up and its sensor answers captures. -/
def Member.captures (m : Member) : Bool := m.link.connected && !m.sensor.setup.ignoreCapture

namespace MemberM

variable {m : Member}

/-- A capture on a sound member succeeds exactly when the member captures; then the sensor has
stored one more frame, and otherwise as many as before. Where it answers stored frames from
stays. -/
theorem capture_counts (h : m.Sound) :
    (capture.run m).1.isNone = m.captures ∧
      (capture.run m).2.sensor.stored.length =
        m.sensor.stored.length + (if m.captures then 1 else 0) ∧
      (capture.run m).2.sensor.cursor = m.sensor.cursor := by
  rcases h.state with hi | hd
  · obtain ⟨hok, hframes, -, -⟩ := capture_inStep hi
    have hstored := congrArg Sensor.Frames.stored hframes
    have hcursor := congrArg Sensor.Frames.cursor hframes
    simp only [Sensor.frames] at hstored hcursor
    have hcap : m.captures = !m.sensor.setup.ignoreCapture := by
      simp [Member.captures, hi.connected]
    refine ⟨?_, ?_, hcursor⟩
    · rw [hcap]
      cases hig : m.sensor.setup.ignoreCapture
      · simpa using hok.2 hig
      · have hnot : (capture.run m).1 ≠ none := fun hn => absurd (hok.1 hn) (by simp [hig])
        simpa [Option.isSome_iff_ne_none] using hnot
    · rw [hstored, hcap]
      cases m.sensor.setup.ignoreCapture <;> simp
  · obtain ⟨hfail, hsensor, -, -⟩ := capture_down hd
    have hcap : m.captures = false := by
      simp [Member.captures, hd.disconnected]
    rw [hcap, hsensor]
    refine ⟨?_, by simp, rfl⟩
    cases hres : (capture.run m).1 with
    | none => simp [hres] at hfail
    | some _ => rfl

/-- The post-recording handshake on a sound member keeps its stored frames, and one that answers
them from the first goes on doing so. -/
theorem postRecord_stored (h : m.Sound) (hc : m.sensor.cursor = 0) :
    (postRecord.run m).2.sensor.stored = m.sensor.stored ∧
      (postRecord.run m).2.sensor.cursor = 0 := by
  rcases h.state with hi | hd
  · obtain ⟨-, hframes, -, -⟩ := postRecord_inStep hi
    exact ⟨congrArg Sensor.Frames.stored hframes, congrArg Sensor.Frames.cursor hframes⟩
  · obtain ⟨-, hsensor, -, -⟩ := postRecord_down hd
    rw [hsensor]
    exact ⟨rfl, hc⟩

/-- Clearing a sound member and then running the pre-recording handshake: when the handshake
succeeds, the member was in step throughout, and its sensor holds no stored frame. -/
theorem preRecord_after_clear (h : m.Sound)
    (hok : (preRecord.run ((exchange LinkM.clearStoredFrames).run m).2).1 = none) :
    (preRecord.run ((exchange LinkM.clearStoredFrames).run m).2).2.sensor.stored = [] ∧
      (preRecord.run ((exchange LinkM.clearStoredFrames).run m).2).2.sensor.cursor = 0 := by
  rcases h.state with hi | hd
  · obtain ⟨-, hclear, -, hin⟩ := clearStoredFrames_inStep hi
    obtain ⟨-, hframes, -, -⟩ := preRecord_inStep hin
    rw [hclear] at hframes
    exact ⟨congrArg Sensor.Frames.stored hframes, congrArg Sensor.Frames.cursor hframes⟩
  · -- a member that is down fails the handshake
    obtain ⟨-, -, hdown⟩ := clearStoredFrames_down hd
    obtain ⟨hfail, -⟩ := preRecord_down hdown
    rw [hok] at hfail
    exact absurd hfail (by simp)

end MemberM

end Fleet

end DepthRig
