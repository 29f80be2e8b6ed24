import DepthRig.Proofs.Wire.Payloads
import DepthRig.Simulator.Sensor

/-!
# What a simulated sensor takes and what it answers

Every handler reads its whole payload before acting on it and answers one reply or nothing
(`Sensor.steady_answer`), so serving the bytes of requests within their bounds handles each
request on its own payload, in order (`Sensor.serve_requests`, `Sensor.commands_handleEach`).
-/

namespace DepthRig

open Wire Decode Simulator

/-! ## Requests and replies -/

namespace Wire

/-- Whether a command is written without a payload. -/
def Command.isBare : Command → Bool
  | .receiveSettings | .receiveCalibration | .setConfiguration | .createDirectory
  | .receivePostSyncList => false
  | _ => true

/-- A command as the server writes it, with what its payload carries. -/
inductive Request where
  /-- A command that carries nothing. -/
  | bare (cmd : Command)
  /-- The session settings, behind their length. -/
  | settings (s : Settings)
  /-- A configuration for the sensor to apply. -/
  | configuration (cfg : DeviceConfig)
  /-- The world transform: a rotation and a translation. -/
  | world (r : Rotation) (t : Point3)
  /-- A directory to create. -/
  | directory (path : List UInt8)
  /-- A relabelling of the stored frames. -/
  | postSync (list : PostSyncList)

namespace Request

/-- The command of a request. -/
def command : Request → Command
  | bare cmd => cmd
  | settings _ => .receiveSettings
  | configuration _ => .setConfiguration
  | world .. => .receiveCalibration
  | directory _ => .createDirectory
  | postSync _ => .receivePostSyncList

/-- The payload written after the command byte. -/
def payload : Request → List UInt8
  | bare _ => []
  | settings s => s.encodePrefixed
  | configuration cfg => cfg.encode
  | world r t => encodeWorldCalibration r t
  | directory path => encodeDirectory path
  | postSync list =>
    match list.encode with
    | .ok bytes => bytes
    | .error _ => []

/-- The bytes of a request on the stream. -/
def bytes (r : Request) : List UInt8 := r.command.toByte :: r.payload

/-- A request the server can write: a bare command carries nothing, and every count is
within the list limit (for the settings, their block's length). -/
def Fits : Request → Prop
  | bare cmd => cmd.isBare = true
  | settings s => s.encode.length ≤ maxListEntries
  | configuration _ => True
  | world .. => True
  | directory path => path.length ≤ maxListEntries
  | postSync list =>
    list.frameIds.length = list.syncedIds.length ∧ list.frameIds.length ≤ maxListEntries

end Request

/-- A message as a sensor writes it, with what its payload carries. -/
inductive Reply where
  | captured
  | calibrated (record : CalibrationRecord)
  /-- A stored (`true`) or live frame, framed compressed or not. -/
  | frame (stored : Bool) (f : Frame) (compress : Bool)
  /-- The answer to a request for a stored frame when none remains. -/
  | endOfStored
  | configuration (cfg : DeviceConfig)
  | rejected
  | restarted (status : UInt8)
  | preRecordConfirmed
  | postRecordConfirmed
  | directoryCreated (status : UInt8)
  | timestamps (list : TimestampList)
  | postSynced (status : UInt8)

namespace Reply

/-- The message of a reply. -/
def message : Reply → Message
  | captured => .confirmCaptured
  | calibrated _ => .confirmCalibrated
  | frame true .. | endOfStored => .storedFrame
  | frame false .. => .lastFrame
  | configuration _ => .configuration
  | rejected => .configurationRejected
  | restarted _ => .confirmRestart
  | preRecordConfirmed => .confirmPreRecord
  | postRecordConfirmed => .confirmPostRecord
  | directoryCreated _ => .confirmDirCreation
  | timestamps _ => .timestampList
  | postSynced _ => .confirmPostSynced

/-- The payload written after the message byte. -/
def payload : Reply → List UInt8
  | calibrated record => record.encode
  | frame _ f compress => appendFramed [] (some f) compress
  | endOfStored => appendEndOfStored []
  | configuration cfg => cfg.encode
  | restarted status | directoryCreated status | postSynced status => [status]
  | timestamps list => list.encode
  | captured | rejected | preRecordConfirmed | postRecordConfirmed => []

/-- The bytes of a reply on the stream. -/
def bytes (p : Reply) : List UInt8 := p.message.toByte :: p.payload

/-- A reply the server can follow: a framed payload's length fits the header's signed
32-bit word, and a timestamp list's counts are within the list limit. -/
def Fits : Reply → Prop
  | frame _ f compress => (appendFramed [] (some f) compress).length < 8 + 2 ^ 31
  | timestamps list =>
    list.timestamps.length ≤ maxListEntries ∧ list.frameNumbers.length ≤ maxListEntries
  | _ => True

end Reply

@[simp] theorem Command.ofByte?_toByte (cmd : Command) : Command.ofByte? cmd.toByte = some cmd := by
  cases cmd <;> rfl

end Wire

/-! ## The sensor's readers -/

open Wire

theorem Settings.steady_streamReader : Settings.streamReader.Steady fun _ => True := by
  unfold Settings.streamReader
  refine steady_listCount.bind fun n _ => (Steady.readFull n).bind fun bs _ => ?_
  split
  · exact Steady.pure trivial
  · exact Steady.fail _

theorem steady_directoryReader : directoryReader.Steady fun _ => True :=
  steady_listCount.bind fun n _ => (Steady.readFull n).mono fun _ _ => trivial

theorem PostSyncList.steady_reader : PostSyncList.reader.Steady fun _ => True := by
  unfold PostSyncList.reader
  exact steady_listCount.bind fun _ _ => (Steady.readFull _).bind fun _ _ =>
    (Steady.readFull _).bind fun _ _ => Steady.pure trivial

namespace Simulator.Sensor

/-! ## What a handler does -/

/-- A relabelling keeps the commands heard. -/
theorem commands_reorder {s s' : Sensor} {list : PostSyncList} (h : s.reorder list = some s') :
    s'.commands = s.commands := by
  unfold reorder at h
  simp only [bind, Option.bind_eq_some_iff, pure, Option.some.injEq] at h
  obtain ⟨_, -, rfl⟩ := h
  rfl

theorem commands_freeRunTick (delay : UInt64) (s : Sensor) (i : Nat) :
    (s.freeRunTick delay i).commands = s.commands := by
  unfold freeRunTick
  split <;> rfl

theorem commands_startFreeRun (s : Sensor) : s.startFreeRun.commands = s.commands :=
  commands_freeRunTick s.freeRunDelay s 0

/-- What handling a command can come to: the commands heard stay, and the answer is one reply
or nothing. -/
structure Answered (s : Sensor) (h : Handled) : Prop where
  commands : h.1.commands = s.commands
  reply : h.2 = [] ∨ ∃ p : Reply, h.2 = p.bytes

/-- An answer that keeps the commands and writes nothing. -/
theorem Answered.silent {s s' : Sensor} (h : s'.commands = s.commands) : Answered s (s', []) :=
  ⟨h, .inl rfl⟩

/-- An answer that keeps the commands and writes one reply. -/
theorem Answered.replies {s s' : Sensor} (h : s'.commands = s.commands) (p : Reply) :
    Answered s (s', p.bytes) :=
  ⟨h, .inr ⟨p, rfl⟩⟩

/-- Every handler is a stream reader, and what it comes to is answered as above. -/
theorem steady_answer (s : Sensor) (cmd : Command) : (s.answer cmd).Steady (Answered s) := by
  cases cmd with
  | captureFrame =>
    simp only [answer]
    split
    · exact Steady.pure (Answered.silent (by rfl))
    · exact Steady.pure (Answered.replies (by rfl) .captured)
  | calibrate => exact Steady.pure (Answered.replies (by rfl) (.calibrated _))
  | receiveSettings =>
    exact Settings.steady_streamReader.bind fun _ _ => Steady.pure (Answered.silent (by rfl))
  | requestStoredFrame =>
    simp only [answer]
    split
    · exact Steady.pure (Answered.replies (by rfl) (.frame true _ _))
    · exact Steady.pure (Answered.replies (by rfl) .endOfStored)
  | requestLastFrame => exact Steady.pure (Answered.replies (by rfl) (.frame false _ _))
  | receiveCalibration =>
    refine (Steady.readFull _).bind fun bs _ => ?_
    split
    · exact Steady.pure (Answered.silent (by rfl))
    · exact Steady.fail _
  | clearStoredFrames => exact Steady.pure (Answered.silent (by rfl))
  | startCaptureFrames => exact Steady.pure (Answered.silent (commands_startFreeRun s))
  | stopCaptureFrames => exact Steady.pure (Answered.silent (by rfl))
  | preRecordProcessStart => exact Steady.pure (Answered.replies (by rfl) .preRecordConfirmed)
  | postRecordProcessStart => exact Steady.pure (Answered.replies (by rfl) .postRecordConfirmed)
  | requestConfiguration => exact Steady.pure (Answered.replies (by rfl) (.configuration _))
  | setConfiguration =>
    refine (Steady.readFull _).bind fun bs _ => ?_
    split
    · exact Steady.fail _
    · split
      · exact Steady.pure (Answered.replies (by rfl) .rejected)
      · exact Steady.pure (Answered.replies (by rfl) (.configuration _))
  | restartWithSettings => exact Steady.pure (Answered.replies (by rfl) (.restarted _))
  | createDirectory =>
    exact steady_directoryReader.bind fun _ _ => Steady.pure (Answered.replies (by rfl) (.directoryCreated _))
  | requestTimestampList => exact Steady.pure (Answered.replies (by rfl) (.timestamps _))
  | receivePostSyncList =>
    refine PostSyncList.steady_reader.bind fun list _ => ?_
    split
    · exact Steady.pure (Answered.replies (by rfl) (.postSynced 0))
    · split
      · rename_i s' hs'
        exact Steady.pure (Answered.replies (commands_reorder hs') (.postSynced 1))
      · exact Steady.pure (Answered.replies (by rfl) (.postSynced 0))

/-! ## Handlers take exactly their payloads -/

/-- A bare command's handler reads nothing. -/
theorem answer_bare (s : Sensor) {cmd : Command} (h : cmd.isBare = true) :
    ∃ x, s.answer cmd = pure x := by
  cases cmd with
  | captureFrame | requestStoredFrame =>
    simp only [answer]
    split <;> exact ⟨_, rfl⟩
  | receiveSettings | receiveCalibration | setConfiguration | createDirectory
  | receivePostSyncList => simp [Command.isBare] at h
  | _ => exact ⟨_, rfl⟩

/-- On a request within its bounds, the handler of its command takes exactly its payload
and handles it, whatever follows and whether the stream has ended. -/
theorem answer_decides (s : Sensor) {r : Request} (hr : r.Fits) (o : Nat) :
    ∃ x, (s.answer r.command).Decides o r.payload (.ok x) := by
  cases r with
  | bare cmd =>
    obtain ⟨x, hx⟩ := answer_bare s hr
    exact ⟨x, hx ▸ Decides.pure x⟩
  | settings st => exact ⟨_, Decides.bind_pure (Settings.decides_streamReader st hr) rfl⟩
  | configuration cfg =>
    -- the block decodes, and the rest of the handler reads nothing
    obtain ⟨c, hc⟩ := DeviceConfig.decode_of_length (le_of_eq (DeviceConfig.length_encode cfg).symm)
    refine Decides.bind_pure_exists (takes_readFull (DeviceConfig.length_encode cfg)) ?_
    simp only [Request.payload, hc]
    split <;> exact ⟨_, rfl⟩
  | world rot t =>
    obtain ⟨v, hv⟩ := decodeWorldCalibration_of_length
      (le_of_eq (length_encodeWorldCalibration rot t).symm)
    refine ⟨({ s with world := some ⟨0, v.1, v.2⟩ }, []), ?_⟩
    refine Decides.bind_nil (takes_readFull (length_encodeWorldCalibration rot t)) ?_
    simp only [Request.payload, hv]
    exact Decides.pure _
  | directory path => exact ⟨_, Decides.bind_pure (decides_directoryReader path hr) rfl⟩
  | postSync list =>
    have he : list.encode = .ok (Request.postSync list).payload := by
      simp only [Request.payload]
      unfold PostSyncList.encode
      rw [if_neg (by simp [hr.1])]
    refine Decides.bind_pure_exists (PostSyncList.decides_reader he hr.2) ?_
    split
    · exact ⟨_, rfl⟩
    · split <;> exact ⟨_, rfl⟩

/-! ## Serving requests -/

/-- Handle requests one after another, each on its own payload alone, as the sensor would if
each came by itself on a stream that then ended: the sensor after them, its answers, and
whether one ended the connection. -/
def handleEach (s : Sensor) : List Request → Sensor × List UInt8 × Bool
  | [] => ({ s with pending := [] }, [], false)
  | r :: rs =>
    let heard := { s with commands := s.commands.push r.command }
    match ((heard.answer r.command).runOn ⟨r.payload, 0, true⟩).1 with
    | .ok (s', out) =>
      let (s'', more, ended) := handleEach s' rs
      (s'', out ++ more, ended)
    | .error _ => ({ heard with serving := false, pending := [] }, [], true)

/-- With enough fuel, the serving loop over the bytes of requests within their bounds cuts
the stream exactly at the requests: each command is handled on its own payload. -/
theorem serveWithin_requests (s : Sensor) (rs : List Request) (hrs : ∀ r ∈ rs, r.Fits)
    (fuel : Nat) (hfuel : rs.length ≤ fuel) :
    s.serveWithin (rs.flatMap Request.bytes) fuel = s.handleEach rs := by
  induction rs generalizing s fuel with
  | nil => cases fuel <;> rfl
  | cons r rs ih =>
    obtain ⟨fuel, rfl⟩ : ∃ f, fuel = f + 1 := ⟨fuel - 1, by simp at hfuel; omega⟩
    obtain ⟨⟨s', out⟩, hx⟩ :=
      answer_decides { s with commands := s.commands.push r.command } (hrs r (by simp)) 0
    -- on the stream the handler stops where the next request starts; alone, at its end
    have hstream := hx (rs.flatMap Request.bytes) false
    have halone := hx [] true
    rw [List.append_nil] at halone
    simp only [List.flatMap_cons, Request.bytes, List.cons_append, serveWithin,
      Command.ofByte?_toByte, handleEach]
    rw [hstream, halone]
    dsimp only
    rw [ih s' (fun r' hr' => hrs r' (by simp [hr'])) fuel (by simpa using hfuel)]

/-- Every request takes at least its command byte. -/
theorem length_le_flatMap_bytes (rs : List Request) :
    rs.length ≤ (rs.flatMap Request.bytes).length := by
  induction rs with
  | nil => simp
  | cons r rs ih => simp [Request.bytes]; omega

/-- A serving sensor with nothing pending, sent the bytes of requests within their bounds,
handles each request on its own payload. -/
theorem serve_requests (s : Sensor) (hs : s.serving = true) (hp : s.pending = [])
    (rs : List Request) (hrs : ∀ r ∈ rs, r.Fits) :
    s.serve (rs.flatMap Request.bytes) = s.handleEach rs := by
  simp only [serve, hs, hp, Bool.not_true, Bool.false_eq_true, if_false, List.nil_append]
  exact serveWithin_requests s rs hrs _ (length_le_flatMap_bytes rs)

/-- Handling requests within their bounds handles every one of them: it records their
commands in order, leaves nothing pending, answers with replies and keeps the connection. -/
theorem commands_handleEach (s : Sensor) (rs : List Request) (hrs : ∀ r ∈ rs, r.Fits) :
    (s.handleEach rs).1.pending = [] ∧
    (∃ ps : List Reply, (s.handleEach rs).2.1 = ps.flatMap Reply.bytes) ∧
    (s.handleEach rs).2.2 = false ∧
    (s.handleEach rs).1.commands = s.commands ++ (rs.map Request.command).toArray := by
  induction rs generalizing s with
  | nil => exact ⟨rfl, ⟨[], rfl⟩, rfl, by simp [handleEach]⟩
  | cons r rs ih =>
    let heard := { s with commands := s.commands.push r.command }
    obtain ⟨⟨s', out⟩, hx⟩ := answer_decides heard (hrs r (by simp)) 0
    have halone := hx [] true
    rw [List.append_nil] at halone
    -- what the handler came to, from its being a stream reader
    have hans : Answered heard (s', out) :=
      (steady_answer heard r.command).returns _ _ (by rw [halone])
    have hcmds : s'.commands = s.commands.push r.command := hans.commands
    obtain ⟨ps, hps⟩ : ∃ ps : List Reply, out = ps.flatMap Reply.bytes := by
      rcases hans.reply with h | ⟨p, h⟩
      · exact ⟨[], h⟩
      · exact ⟨[p], by simpa using h⟩
    have hstep : s.handleEach (r :: rs) =
        ((s'.handleEach rs).1, out ++ (s'.handleEach rs).2.1, (s'.handleEach rs).2.2) := by
      simp only [handleEach]
      rw [halone]
    obtain ⟨hpend, ⟨ps', hps'⟩, hkept, hall⟩ := ih s' (fun r' hr' => hrs r' (by simp [hr']))
    rw [hstep]
    refine ⟨hpend, ⟨ps ++ ps', by simp [hps, hps']⟩, hkept, ?_⟩
    rw [hall, hcmds]
    simp

end Simulator.Sensor

end DepthRig
