import DepthRig.Proofs.Simulator.Serve
import DepthRig.Proofs.Link.Stream
import DepthRig.Link.Script

/-!
# The link and a sensor stay in step

Each side cuts the other's bytes into commands or messages by itself, and the two stay in step
when each cut falls where the writer put it. A link's script writes requests within their
bounds, a simulated sensor takes each on its own payload, and the link's reader takes each
reply whole, so both sides see what the other wrote, in order
(`link_and_sensor_stay_aligned`).
-/

namespace DepthRig

open Wire Decode

namespace Inbound

/-- The frame reader, on a header and at least the bytes it announces, reads a frame or keeps
the fault in it, and stops just after those bytes. -/
theorem runOn_frameReader_framed (stored : Bool) {hdr rest : List UInt8} (hhdr : hdr.length = 8)
    (hrest : (i32OfBytes (hdr.take 4)).toInt.toNat ≤ rest.length) (o : Nat) (closed : Bool) :
    ∃ m, (frameReader stored).runOn ⟨hdr ++ rest, o, closed⟩ =
      (.ok m, ⟨rest.drop (i32OfBytes (hdr.take 4)).toInt.toNat,
        o + 8 + (i32OfBytes (hdr.take 4)).toInt.toNat, closed⟩) := by
  obtain ⟨hcur, hstop⟩ := @runOn_readFramed true hdr rest hhdr hrest o closed
  unfold frameReader
  rw [runOn_tryCatch, runOn_bind]
  rcases hrun : (readFramed true).runOn ⟨hdr ++ rest, o, closed⟩ with ⟨r, c'⟩
  rw [hrun] at hcur hstop
  simp only at hcur
  subst hcur
  cases r with
  | ok p => exact ⟨_, rfl⟩
  | error s =>
    -- a fault in the frame is kept as the frame's answer
    obtain ⟨e, rfl, he⟩ := hstop s rfl
    have hkeep : (e.isSpurious || e.isMalformed) = true := by
      rcases he with h | h <;> simp [h]
    exact ⟨frame stored (.error e), by simp [hkeep]⟩

/-- A framed payload within the header's word is read whole as one frame answer, whatever
its payload decodes to. -/
theorem decides_framed (stored : Bool) (f : Frame) (compress : Bool) (o : Nat)
    (hlen : (appendFramed [] (some f) compress).length < 8 + 2 ^ 31) :
    ∃ m, (frameReader stored).Decides o (appendFramed [] (some f) compress) (.ok m) := by
  set payload := (if compress then (Compression.compress ⟨(encodeFrame (some f)).toArray⟩).toList
    else encodeFrame (some f)) with hpayload
  have hbytes : appendFramed [] (some f) compress =
      FrameHeader.encode ⟨Int32.ofInt payload.length, compress⟩ ++ payload := by
    simp [appendFramed, hpayload]
  have hsize : payload.length < 2 ^ 31 := by
    rw [hbytes, List.length_append, FrameHeader.length_encode] at hlen
    omega
  have hcount : (i32OfBytes ((FrameHeader.encode ⟨Int32.ofInt payload.length, compress⟩).take 4)).toInt.toNat =
      payload.length := by
    rw [FrameHeader.take_four_encode, i32OfBytes_putI32,
      Int32.toInt_ofInt_of_le (by omega) (by omega), Int.toNat_natCast]
  obtain ⟨m, hm⟩ := runOn_frameReader_framed stored (FrameHeader.length_encode _)
    (le_of_eq hcount) o true
  rw [hcount, List.drop_length] at hm
  rw [hbytes]
  exact ⟨m, (steady_frameReader stored).decides_of_runOn hm rfl trivial⟩

/-- The end-of-stored header is read whole as a stored-frame answer. -/
theorem decides_endOfStored (o : Nat) :
    ∃ m, (frameReader true).Decides o (appendEndOfStored []) (.ok m) := by
  have hcount : (i32OfBytes ((FrameHeader.encode ⟨-1, false⟩).take 4)).toInt.toNat = 0 := by
    rw [FrameHeader.take_four_encode, i32OfBytes_putI32]
    rfl
  have hnothing : (i32OfBytes ((FrameHeader.encode ⟨-1, false⟩).take 4)).toInt.toNat ≤
      ([] : List UInt8).length := le_of_eq hcount
  obtain ⟨m, hm⟩ := runOn_frameReader_framed true (FrameHeader.length_encode _) hnothing o true
  rw [hcount, List.append_nil] at hm
  exact ⟨m, (steady_frameReader true).decides_of_runOn hm rfl trivial⟩

/-- The reader takes a reply within its bounds whole, as one message. -/
theorem decides_reply {p : Reply} (hp : p.Fits) (o : Nat) :
    ∃ m, reader.Decides o p.bytes (.ok m) := by
  cases p with
  | captured => exact ⟨_, Decides.bind (takes_readFull.u8 _) (Decides.pure _)⟩
  | calibrated r =>
    obtain ⟨c, hc⟩ := CalibrationRecord.decode_of_length (le_of_eq (CalibrationRecord.length_encode r).symm)
    refine ⟨calibrated c, Decides.bind (takes_readFull.u8 _)
      (Decides.bind_nil (takes_readFull (CalibrationRecord.length_encode r)) ?_)⟩
    simp only [hc]
    exact Decides.pure _
  | frame stored f compress =>
    obtain ⟨m, hm⟩ := decides_framed stored f compress (o + 1) hp
    cases stored
    · exact ⟨m, Decides.bind (takes_readFull.u8 _) hm⟩
    · exact ⟨m, Decides.bind (takes_readFull.u8 _) hm⟩
  | endOfStored =>
    obtain ⟨m, hm⟩ := decides_endOfStored (o + 1)
    exact ⟨m, Decides.bind (takes_readFull.u8 _) hm⟩
  | configuration cfg =>
    obtain ⟨c, hc⟩ := DeviceConfig.decode_of_length (le_of_eq (DeviceConfig.length_encode cfg).symm)
    refine ⟨configuration c, Decides.bind (takes_readFull.u8 _)
      (Decides.bind_nil (takes_readFull (DeviceConfig.length_encode cfg)) ?_)⟩
    simp only [hc]
    exact Decides.pure _
  | rejected => exact ⟨_, Decides.bind (takes_readFull.u8 _) (Decides.pure _)⟩
  | restarted b =>
    exact ⟨_, Decides.bind (takes_readFull.u8 _) (Decides.bind_pure (takes_readFull.u8 b) rfl)⟩
  | preRecordConfirmed => exact ⟨_, Decides.bind (takes_readFull.u8 _) (Decides.pure _)⟩
  | postRecordConfirmed => exact ⟨_, Decides.bind (takes_readFull.u8 _) (Decides.pure _)⟩
  | directoryCreated b =>
    exact ⟨_, Decides.bind (takes_readFull.u8 _) (Decides.bind_pure (takes_readFull.u8 b) rfl)⟩
  | timestamps l =>
    exact ⟨_, Decides.bind (takes_readFull.u8 _)
      (Decides.bind_pure (TimestampList.decides_reader l hp.1 hp.2) rfl)⟩
  | postSynced b =>
    exact ⟨_, Decides.bind (takes_readFull.u8 _) (Decides.bind_pure (takes_readFull.u8 b) rfl)⟩

/-- Replies within their bounds, one after another on an open stream, are read one message
each, every message what its reply reads as alone, and the reader then waits with nothing
left over. -/
theorem readAll_replies (ps : List Reply) (hps : ∀ p ∈ ps, p.Fits) :
    ∃ ms, readAll false (ps.flatMap Reply.bytes) = ⟨ms, [], .waiting⟩ ∧
      List.Forall₂ (fun p m => (reader.runOn ⟨p.bytes, 0, true⟩).1 = .ok m) ps ms := by
  induction ps with
  | nil => exact ⟨[], readAll_nil, .nil⟩
  | cons p ps ih =>
    obtain ⟨ms, hread, hall⟩ := ih (fun p' hp' => hps p' (by simp [hp']))
    obtain ⟨m, hm⟩ := decides_reply (hps p (by simp)) 0
    have halone := hm [] true
    rw [List.append_nil] at halone
    refine ⟨m :: ms, ?_, .cons (by rw [halone]) hall⟩
    rw [List.flatMap_cons, readAll_of_ok (hm _ false), hread]

end Inbound

/-! ## What the link writes -/

/-- The writing side of a connection: the bytes written, and why writing fails, if it does.
The reader never touches it. -/
def Connection.outgoing (c : Connection) : Array UInt8 × Option String := (c.sent, c.writeFault)

namespace LinkM

theorem sent_publish (e : LinkEvent) (c : Connection) : ((publish e).run c).2.sent = c.sent := by
  rw [run_publish]

theorem sent_update (f : Link → Link) (c : Connection) : ((update f).run c).2.sent = c.sent := by
  rw [run_update]

theorem sent_disconnect (reason : Fault) (c : Connection) :
    ((disconnect reason).run c).2.sent = c.sent := by
  show (if c.link.connected then _ else c).sent = c.sent
  split <;> rfl

theorem outgoing_apply (m : Inbound) (c : Connection) :
    (m.apply.run c).2.outgoing = c.outgoing := by
  cases m <;> simp only [Inbound.apply, run_bind, run_publish, run_update] <;> rfl

theorem outgoing_readerStopped (s : ReadStop) (c : Connection) :
    ((readerStopped s).run c).2.outgoing = c.outgoing := by
  cases s <;> simp only [readerStopped, disconnect, run_bind, run_modify] <;> split <;> rfl

/-- The reader loop neither writes nor changes whether writing works. -/
theorem outgoing_readMessages (ended : Bool) (fuel : Nat) (c : Connection) :
    ((readMessages ended fuel).run c).2.outgoing = c.outgoing := by
  induction fuel generalizing c with
  | zero => rfl
  | succ fuel ih =>
    by_cases hend : c.readerEnd.isSome
    · simp only [readMessages, run_bind, run_get, hend, if_true]
      rfl
    · rcases hrun : Inbound.reader.runOn ⟨c.inbox, 0, ended⟩ with ⟨r, cur⟩
      cases r with
      | ok m =>
        have hstep : ((readMessages ended (fuel + 1)).run c).2 =
            ((readMessages ended fuel).run (m.apply.run { c with inbox := cur.rest }).2).2 := by
          simp only [readMessages, run_bind, run_get, run_set, hend, hrun, Bool.false_eq_true,
            if_false]
        rw [hstep, ih, outgoing_apply]
        rfl
      | error s =>
        by_cases hw : s = .waiting
        · -- the message is not complete: the loop waits
          subst hw
          simp only [readMessages, run_bind, run_get, hend, hrun, Bool.false_eq_true, if_false]
          rfl
        · -- any other stop ends the reader
          have hstop : ((readMessages ended (fuel + 1)).run c).2 = ((readerStopped s).run c).2 := by
            cases s <;> simp_all [readMessages]
          rw [hstop, outgoing_readerStopped]

theorem outgoing_receive (bs : List UInt8) (ended : Bool) (c : Connection) :
    ((receive bs ended).run c).2.outgoing = c.outgoing := by
  rw [run_receive_of_waiting, outgoing_readMessages]
  rfl

theorem sent_receive (bs : List UInt8) (ended : Bool) (c : Connection) :
    ((receive bs ended).run c).2.sent = c.sent :=
  congrArg Prod.fst (outgoing_receive bs ended c)

end LinkM

/-- `p` writes nothing but requests within their bounds and returns what `Q` allows: whatever
the connection, the bytes it adds to those written are the bytes of such requests, one
after another. -/
def Writes {α : Type} (p : LinkM α) (Q : α → Prop) : Prop :=
  ∀ c : Connection, Q (p.run c).1 ∧ ∃ rs : List Request, (∀ r ∈ rs, r.Fits) ∧
    (p.run c).2.sent = c.sent ++ (rs.flatMap Request.bytes).toArray

namespace Writes

variable {α β : Type} {Q : α → Prop} {R : β → Prop}

/-- A program that leaves the bytes written alone writes no request. -/
theorem of_keeps {p : LinkM α} (hs : ∀ c, (p.run c).2.sent = c.sent) (hq : ∀ c, Q (p.run c).1) :
    Writes p Q :=
  fun c => ⟨hq c, [], by simp, by simp [hs]⟩

protected theorem pure {a : α} (h : Q a) : Writes (pure a : LinkM α) Q :=
  of_keeps (fun _ => rfl) fun _ => h

/-- Returning a value writes nothing. -/
theorem ret (a : α) : Writes (pure a : LinkM α) fun _ => True := Writes.pure trivial

protected theorem bind {p : LinkM α} {k : α → LinkM β} (hp : Writes p Q)
    (hk : ∀ a, Q a → Writes (k a) R) : Writes (p >>= k) R := by
  intro c
  obtain ⟨hq, rs, hrs, hsent⟩ := hp c
  obtain ⟨hr, rs', hrs', hsent'⟩ := hk _ hq (p.run c).2
  rw [LinkM.run_bind]
  refine ⟨hr, rs ++ rs', fun r hr => ?_, ?_⟩
  · rcases List.mem_append.1 hr with h | h
    · exact hrs r h
    · exact hrs' r h
  · rw [hsent', hsent, List.flatMap_append]
    simp [Array.append_assoc]

theorem mono {p : LinkM α} {Q' : α → Prop} (hp : Writes p Q) (hQ : ∀ a, Q a → Q' a) :
    Writes p Q' :=
  fun c => ⟨hQ _ (hp c).1, (hp c).2⟩

/-- A program that writes nothing, whatever it returns. -/
theorem quiet {p : LinkM α} (hs : ∀ c, (p.run c).2.sent = c.sent) : Writes p fun _ => True :=
  of_keeps hs fun _ => trivial

theorem link : Writes LinkM.link fun _ => True := quiet fun _ => rfl

/-- Writing a request within its bounds writes it, or nothing when the link is down or the
write fails. -/
theorem send (r : Request) (hr : r.Fits) : Writes (LinkM.send r.command r.payload) fun _ => True := by
  intro c
  refine ⟨trivial, ?_⟩
  by_cases hc : c.link.connected
  · cases hw : c.writeFault with
    | none =>
      refine ⟨[r], by simpa using hr, ?_⟩
      have hrun : ((LinkM.send r.command r.payload).run c).2 =
          { c with sent := c.sent ++ (r.command.toByte :: r.payload).toArray } := by
        simp [LinkM.send, hc, hw]; rfl
      simp [hrun, Request.bytes]
    | some why =>
      have hrun : ((LinkM.send r.command r.payload).run c).2 =
          ((LinkM.disconnect (Fault.disconnected why)).run c).2 := by
        simp [LinkM.send, hc, hw]; rfl
      exact ⟨[], by simp, by simp [hrun, LinkM.sent_disconnect]⟩
  · have hrun : ((LinkM.send r.command r.payload).run c).2 = c := by
      simp [LinkM.send, hc]; rfl
    exact ⟨[], by simp, by simp [hrun]⟩

theorem publish (e : LinkEvent) : Writes (LinkM.publish e) fun _ => True :=
  quiet (LinkM.sent_publish e)

theorem update (f : Link → Link) : Writes (LinkM.update f) fun _ => True :=
  quiet (LinkM.sent_update f)

theorem disconnect (reason : Fault) : Writes (LinkM.disconnect reason) fun _ => True :=
  quiet (LinkM.sent_disconnect reason)

theorem receive (bs : List UInt8) (ended : Bool) : Writes (LinkM.receive bs ended) fun _ => True :=
  quiet (LinkM.sent_receive bs ended)

end Writes

/-- A started request whose wait, however it ends, writes nothing but requests within their
bounds. -/
def Started.Quiet {α : Type} : Started α → Prop
  | .finished _ => True
  | .waiting w => ∀ e, Writes (w.finish e) fun _ => True

namespace Writes

variable {α : Type}

/-- Settling a wait whose every end writes nothing. -/
theorem waitSettle {w : Wait α} (hw : ∀ e, Writes (w.finish e) fun _ => True) (how : GiveUp) :
    Writes (w.settle how) fun _ => True := by
  refine link.bind fun l _ => ?_
  split
  · exact hw none
  · exact hw _

theorem settle {s : Started α} (hs : s.Quiet) (how : GiveUp) :
    Writes (s.settle how) fun _ => True := by
  cases s with
  | finished r => exact ret _
  | waiting w => exact waitSettle hs how

/-- A wait that fails with a fixed value, and reads what it returns without writing. -/
theorem quiet_simple {what : String} {ready : Link → Bool} {failed : α}
    {done : LinkM (α × Option Fault)} (hd : Writes done fun _ => True) :
    (Started.waiting (Wait.simple what ready failed done)).Quiet := by
  intro e
  cases e with
  | none => exact hd
  | some e => exact ret _

/-- A request that writes a request within its bounds and then waits quietly. -/
theorem request {clear : Link → Link} (r : Request) (hr : r.Fits) {whenDone : Started α}
    (hw : whenDone.Quiet) (failed : α) :
    Writes (LinkM.request clear r.command r.payload whenDone failed) Started.Quiet := by
  refine (update clear).bind fun _ _ => (send r hr).bind fun e _ => ?_
  cases e with
  | none => exact Writes.pure hw
  | some e => exact Writes.pure trivial

end Writes

/-- Inputs of a script step within the list limit: a settings block, a directory path and a
relabelling of at most `2 ^ 20` bytes or entries. -/
def ScriptStep.Bounded : ScriptStep → Prop
  | .request (.settings s) _ => s.encode.length ≤ maxListEntries
  | .call (.createDirectory path) _ => path.length ≤ maxListEntries
  | .call (.postSyncList l) _ => l.frameIds.length ≤ maxListEntries
  | _ => True

namespace Writes

/-! ### Each operation of the link -/

theorem requestCapture : Writes LinkM.requestCapture fun _ => True :=
  (update _).bind fun _ _ => send (.bare .captureFrame) rfl

theorem requestConfiguration : Writes LinkM.requestConfiguration fun _ => True :=
  (update _).bind fun _ _ => send (.bare .requestConfiguration) rfl

theorem pushSettings {s : Settings} (hs : s.encode.length ≤ maxListEntries) :
    Writes (LinkM.pushSettings s) fun _ => True :=
  send (.settings s) hs

theorem requestLastFrame : Writes LinkM.requestLastFrame fun _ => True :=
  (update _).bind fun _ _ => send (.bare .requestLastFrame) rfl

theorem requestStoredFrame : Writes LinkM.requestStoredFrame fun _ => True :=
  (update _).bind fun _ _ => send (.bare .requestStoredFrame) rfl

theorem clearStoredFrames : Writes LinkM.clearStoredFrames fun _ => True :=
  send (.bare .clearStoredFrames) rfl

theorem calibrate : Writes LinkM.calibrate fun _ => True :=
  (update _).bind fun _ _ => send (.bare .calibrate) rfl

/-- The world transform goes out as the link holds it. -/
theorem sendCalibrationData : Writes LinkM.sendCalibrationData fun _ => True :=
  link.bind fun l _ => send (.world l.world.r l.world.t) trivial

theorem restart : Writes LinkM.restart fun _ => True :=
  (update _).bind fun _ _ => send (.bare .restartWithSettings) rfl

theorem startCapture : Writes LinkM.startCapture fun _ => True :=
  (update _).bind fun _ _ => send (.bare .startCaptureFrames) rfl

theorem stopCapture : Writes LinkM.stopCapture fun _ => True :=
  (send (.bare .stopCaptureFrames) rfl).bind fun _ _ => (update _).bind fun _ _ => ret _

/-- A configuration goes out only once it is valid, and its wait only reads and restores
the link. -/
theorem pushConfiguration (cfg : DeviceConfig) :
    Writes (LinkM.pushConfiguration cfg) Started.Quiet := by
  unfold LinkM.pushConfiguration
  split
  · exact Writes.pure trivial
  refine link.bind fun before _ => (update _).bind fun _ _ =>
    (send (.configuration cfg) trivial).bind fun e _ => ?_
  cases e with
  | some e => exact Writes.pure trivial
  | none =>
    refine Writes.pure fun e => ?_
    cases e with
    | some e => exact ret _
    | none =>
      refine link.bind fun l _ => (update _).bind fun _ _ => ?_
      split
      · exact ret _
      · exact ret _

theorem lastFrame : Writes LinkM.lastFrame Started.Quiet := by
  refine requestLastFrame.bind fun e _ => ?_
  cases e with
  | some e => exact Writes.pure trivial
  | none => exact Writes.pure (quiet_simple (link.bind fun _ _ => ret _))

theorem nextStoredFrame : Writes LinkM.nextStoredFrame Started.Quiet := by
  refine requestStoredFrame.bind fun e _ => ?_
  cases e with
  | some e => exact Writes.pure trivial
  | none => exact Writes.pure (quiet_simple (link.bind fun _ _ => ret _))

theorem preRecord : Writes LinkM.preRecord Started.Quiet :=
  request (.bare .preRecordProcessStart) rfl (quiet_simple (ret _)) ()

theorem postRecord : Writes LinkM.postRecord Started.Quiet :=
  request (.bare .postRecordProcessStart) rfl (quiet_simple (ret _)) ()

/-- Whether the sensor's answer reported success is only read. -/
theorem confirmedBy (failure : String) : Writes (LinkM.confirmedBy failure) fun _ => True := by
  refine link.bind fun l _ => ?_
  split
  · exact ret _
  · exact ret _

theorem createDirectory {path : List UInt8} (hp : path.length ≤ maxListEntries) :
    Writes (LinkM.createDirectory path) Started.Quiet :=
  request (.directory path) hp (quiet_simple (confirmedBy _)) ()

theorem requestTimestampList : Writes LinkM.requestTimestampList Started.Quiet :=
  request (.bare .requestTimestampList) rfl (quiet_simple (link.bind fun _ _ => ret _)) _

/-- A relabelling goes out only when its two lists have one length. -/
theorem sendPostSyncList {list : PostSyncList} (hl : list.frameIds.length ≤ maxListEntries) :
    Writes (LinkM.sendPostSyncList list) Started.Quiet := by
  unfold LinkM.sendPostSyncList
  split
  · exact Writes.pure trivial
  · rename_i bytes he
    have hpayload : bytes = (Request.postSync list).payload := by simp [Request.payload, he]
    have hsame : list.frameIds.length = list.syncedIds.length := by
      unfold PostSyncList.encode at he
      split at he
      · cases he
      · rename_i hne
        simpa using hne
    rw [hpayload]
    exact request (.postSync list) ⟨hsame, hl⟩ (quiet_simple (confirmedBy _)) ()

/-! ### Each step of a script -/

/-- Let a reply arrive and answer nothing. -/
theorem receiveThen {α : Type} (reply : List UInt8) (a : α) :
    Writes (do LinkM.receive reply false; pure a) fun _ => True :=
  (receive _ _).bind fun _ _ => ret _

theorem requestStep (r : LinkRequest) (reply : List UInt8)
    (hr : (ScriptStep.request r reply).Bounded) :
    Writes (LinkM.requestStep r reply) fun _ => True := by
  unfold LinkM.requestStep
  cases r with
  | capture => exact requestCapture.bind fun e _ => receiveThen _ _
  | configuration => exact requestConfiguration.bind fun e _ => receiveThen _ _
  | settings s => exact (pushSettings hr).bind fun e _ => receiveThen _ _
  | lastFrame => exact requestLastFrame.bind fun e _ => receiveThen _ _
  | storedFrame => exact requestStoredFrame.bind fun e _ => receiveThen _ _
  | clearStoredFrames => exact clearStoredFrames.bind fun e _ => receiveThen _ _
  | calibrate => exact calibrate.bind fun e _ => receiveThen _ _
  | calibrationData => exact sendCalibrationData.bind fun e _ => receiveThen _ _
  | restart => exact restart.bind fun e _ => receiveThen _ _
  | startCapture => exact startCapture.bind fun e _ => receiveThen _ _
  | stopCapture => exact stopCapture.bind fun e _ => receiveThen _ _

theorem settleAs {α : Type} {w : Wait α} (hw : (Started.waiting w).Quiet) (f : α → LinkAnswer) :
    Writes (LinkM.settleAs w f) fun _ => True := by
  refine (waitSettle hw _).bind fun x _ => ?_
  obtain ⟨a, e⟩ := x
  exact ret _

theorem waitStep (w : LinkWait) (reply : List UInt8) :
    Writes (LinkM.waitStep w reply) fun _ => True := by
  refine (receive _ _).bind fun _ _ => ?_
  cases w with
  | captured => exact settleAs (quiet_simple (ret _)) _
  | configuration => exact settleAs (fun _ => link.bind fun _ _ => ret _) _
  | lastFrame => exact settleAs (quiet_simple (link.bind fun _ _ => ret _)) _
  | storedFrame => exact settleAs (quiet_simple (link.bind fun _ _ => ret _)) _
  | calibrated => exact settleAs (quiet_simple (ret _)) _
  | reinitialized =>
    refine settleAs (quiet_simple (link.bind fun l _ => ?_)) _
    split
    · exact ret _
    · exact ret _

theorem exchange {α : Type} {start : LinkM (Started α)} (hs : Writes start Started.Quiet)
    (reply : List UInt8) (f : α → LinkAnswer) :
    Writes (LinkM.exchange start reply f) fun _ => True := by
  refine hs.bind fun s hq => (receive _ _).bind fun _ _ => (settle hq _).bind fun x _ => ?_
  obtain ⟨a, e⟩ := x
  exact ret _

theorem callStep (c : LinkCall) (reply : List UInt8) (hc : (ScriptStep.call c reply).Bounded) :
    Writes (LinkM.callStep c reply) fun _ => True := by
  cases c with
  | pushConfiguration cfg => exact exchange (pushConfiguration cfg) _ _
  | lastFrame => exact exchange lastFrame _ _
  | nextStoredFrame => exact exchange nextStoredFrame _ _
  | preRecord => exact exchange preRecord _ _
  | postRecord => exact exchange postRecord _ _
  | createDirectory path => exact exchange (createDirectory hc) _ _
  | timestampList => exact exchange requestTimestampList _ _
  | postSyncList l => exact exchange (sendPostSyncList hc) _ _

/-- Every step of a script within its bounds writes nothing but requests within theirs. -/
theorem step (st : ScriptStep) (h : st.Bounded) : Writes (LinkM.step st) fun _ => True := by
  cases st with
  | receive bytes => exact receiveThen _ _
  | finish bytes => exact (receive _ _).bind fun _ _ => ret _
  | close => exact (disconnect _).bind fun _ _ => ret _
  | breakWrites => exact (quiet fun _ => rfl).bind fun _ _ => ret _
  | setWorld w => exact (update _).bind fun _ _ => ret _
  | request r reply => exact requestStep r reply h
  | wait w reply => exact waitStep w reply
  | call c reply => exact callStep c reply h

end Writes

/-- A script whose inputs are within their bounds writes, at each step, nothing but requests
within theirs. -/
theorem sent_runScript (c : Connection) (steps : List ScriptStep)
    (h : ∀ st ∈ steps, st.Bounded) :
    ∀ rep ∈ runScript c steps, ∃ rs : List Request, (∀ r ∈ rs, r.Fits) ∧
      rep.sent = rs.flatMap Request.bytes := by
  induction steps generalizing c with
  | nil => simp [runScript]
  | cons st steps ih =>
    intro rep hrep
    -- each step starts with nothing written
    let c₀ : Connection := { c with sent := #[], events := #[] }
    have hcons : runScript c (st :: steps) =
        ⟨((LinkM.step st).run c₀).1.1, ((LinkM.step st).run c₀).1.2,
          ((LinkM.step st).run c₀).2.sent.toList, ((LinkM.step st).run c₀).2.events.toList,
          ((LinkM.step st).run c₀).2⟩ :: runScript ((LinkM.step st).run c₀).2 steps := rfl
    rw [hcons, List.mem_cons] at hrep
    rcases hrep with rfl | hrep
    · obtain ⟨-, rs, hrs, hsent⟩ := Writes.step st (h st (by simp)) c₀
      exact ⟨rs, hrs, by simp [hsent, c₀]⟩
    · exact ih _ (fun st' h' => h st' (by simp [h'])) rep hrep

/-- The link and a simulated sensor never lose their place in each other's bytes. Every step
of a link's script whose settings block, directory path and relabelling are within the list
limit writes requests within their bounds, one after another. The sensor's handler of each
such request takes exactly its payload, whatever follows; so a serving sensor, sent requests
one after another, handles every one on its own payload, records their commands in order,
keeps the connection and answers with replies. The link's reader, on replies within their bounds one after
another, reads one message from each, the one that reply reads as alone, and then waits with
nothing left over. -/
theorem link_and_sensor_stay_aligned :
    (∀ (c : Connection) (steps : List ScriptStep), (∀ st ∈ steps, st.Bounded) →
      ∀ rep ∈ runScript c steps, ∃ rs : List Request, (∀ r ∈ rs, r.Fits) ∧
        rep.sent = rs.flatMap Request.bytes) ∧
    (∀ (s : Simulator.Sensor) (r : Request), r.Fits →
      ∃ x, (s.answer r.command).Decides 0 r.payload (.ok x)) ∧
    (∀ (s : Simulator.Sensor) (rs : List Request), s.serving = true → s.pending = [] →
      (∀ r ∈ rs, r.Fits) →
      s.serve (rs.flatMap Request.bytes) = s.handleEach rs ∧
      (s.handleEach rs).1.pending = [] ∧
      (∃ ps : List Reply, (s.handleEach rs).2.1 = ps.flatMap Reply.bytes) ∧
      (s.handleEach rs).2.2 = false ∧
      (s.handleEach rs).1.commands = s.commands ++ (rs.map Request.command).toArray) ∧
    (∀ ps : List Reply, (∀ p ∈ ps, p.Fits) →
      ∃ ms, Inbound.readAll false (ps.flatMap Reply.bytes) = ⟨ms, [], .waiting⟩ ∧
        List.Forall₂ (fun p m => (Inbound.reader.runOn ⟨p.bytes, 0, true⟩).1 = .ok m) ps ms) :=
  ⟨sent_runScript,
    fun s _ hr => Simulator.Sensor.answer_decides s hr 0,
    fun s rs hs hp hrs =>
      ⟨Simulator.Sensor.serve_requests s hs hp rs hrs, Simulator.Sensor.commands_handleEach s rs hrs⟩,
    Inbound.readAll_replies⟩

end DepthRig
