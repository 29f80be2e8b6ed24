import Mathlib
import DepthRig.Link.Commands

/-!
# The state machine of a link

A link's protocol state moves by a small table, stated here as a machine over the fields it is
about (`LinkMachine`). Every server operation and sensor message moves it as the table says
(`Acts`, proved per primitive and composed through `bind`), so over every run the link is down
exactly when disconnected, its pose is its world transform's, and a link that is down refuses
to write.
-/

namespace DepthRig

/-- What a link's state machine is about: the state, whether the link is up, how many
configurations the sensor has sent, and the world transform with its camera pose. -/
structure LinkMachine where
  state : LinkState
  connected : Bool
  configurations : Nat
  world : Affine
  pose : Affine

/-- The machine of a link. -/
def Link.machine (l : Link) : LinkMachine :=
  ⟨l.state, l.connected, l.configurations, l.world, l.pose⟩

namespace LinkMachine

/-- A ready machine becomes busy with `s`; any other stays. -/
def enter (m : LinkMachine) (s : LinkState) : LinkMachine :=
  if m.state == .ready then { m with state := s } else m

/-- A machine busy with `s` becomes ready; any other stays. -/
def settle (m : LinkMachine) (s : LinkState) : LinkMachine :=
  if m.state == s then { m with state := .ready } else m

/-- A machine that is up goes down. -/
def down (m : LinkMachine) : LinkMachine :=
  if m.connected then { m with connected := false, state := .disconnected } else m

/-- A write: it goes down when the connection refuses writes (`ok` false). -/
def write (m : LinkMachine) (ok : Bool) : LinkMachine := if ok then m else m.down

/-- A configuration arrives: it is counted, and a machine waiting for one is ready. -/
def configure (m : LinkMachine) : LinkMachine :=
  { m with configurations := m.configurations + 1
           state := if m.state == .awaitingConfiguration then .ready else m.state }

/-- A new world transform, with its camera pose. -/
def locate (m : LinkMachine) (w : Affine) : LinkMachine := { m with world := w, pose := w.cameraPose }

/-- What a message from the sensor does to the machine. -/
def receive : Inbound → LinkMachine → LinkMachine
  | .captured, m => m.settle .capturing
  | .calibrated r, m => (m.locate ⟨r.rotation, r.translation⟩).settle .calibrating
  | .configuration _, m => m.configure
  | .restarted _, m => m.settle .reinitializing
  | _, m => m

/-- The table's invariant: a machine is up exactly when it is not disconnected, waits for
a configuration exactly while it is up and has received none, and has the camera pose of
its world transform. -/
structure Coherent (m : LinkMachine) : Prop where
  connected_iff : m.connected = true ↔ m.state ≠ .disconnected
  awaiting_iff : m.state = .awaitingConfiguration ↔ m.state ≠ .disconnected ∧ m.configurations = 0
  pose_eq : m.pose = m.world.cameraPose

end LinkMachine

namespace Link

variable (l : Link)

@[simp] theorem machine_state : l.machine.state = l.state := rfl
@[simp] theorem machine_connected : l.machine.connected = l.connected := rfl
@[simp] theorem machine_configurations : l.machine.configurations = l.configurations := rfl
@[simp] theorem machine_world : l.machine.world = l.world := rfl
@[simp] theorem machine_pose : l.machine.pose = l.pose := rfl

theorem machine_enter (s : LinkState) : (l.enter s).machine = l.machine.enter s := by
  by_cases h : l.state == .ready <;> simp [Link.enter, LinkMachine.enter, h, Link.machine]

theorem machine_settle (s : LinkState) : (l.settle s).machine = l.machine.settle s := by
  by_cases h : l.state == s <;> simp [Link.settle, LinkMachine.settle, h, Link.machine]

end Link

/-! ## How a program moves the machine -/

/-- `p` moves the link's machine as `g` does, given whether the connection takes writes,
and leaves the connection's writes as they are. -/
def Acts {α : Type} (p : LinkM α) (g : Bool → LinkMachine → LinkMachine) : Prop :=
  ∀ c : Connection, (p.run c).2.link.machine = g c.writeFault.isNone c.link.machine ∧
    (p.run c).2.writeFault = c.writeFault

namespace Acts

variable {α β : Type} {g h : Bool → LinkMachine → LinkMachine}

theorem of_pure (a : α) : Acts (pure a : LinkM α) fun _ m => m := fun _ => ⟨rfl, rfl⟩

theorem bind {p : LinkM α} {f : α → LinkM β} (hp : Acts p g) (hf : ∀ a, Acts (f a) h) :
    Acts (p >>= f) fun ok m => h ok (g ok m) := by
  intro c
  obtain ⟨hm, hw⟩ := hp c
  obtain ⟨hm', hw'⟩ := hf (p.run c).1 (p.run c).2
  have hrun : (p >>= f).run c = (f (p.run c).1).run (p.run c).2 := rfl
  rw [hrun, hm', hw', hw, hm]
  exact ⟨rfl, rfl⟩

theorem congr {p : LinkM α} (hp : Acts p g) (hg : ∀ ok m, g ok m = h ok m) : Acts p h := by
  intro c
  rw [← hg]
  exact hp c

theorem link : Acts LinkM.link fun _ m => m := fun _ => ⟨rfl, rfl⟩

/-- A change of the connection moves the machine as `g` does. -/
theorem of_modify {f : Connection → Connection}
    (hf : ∀ c, (f c).link.machine = g c.writeFault.isNone c.link.machine ∧ (f c).writeFault = c.writeFault) :
    Acts (modify f) g := hf

theorem publish (e : LinkEvent) : Acts (LinkM.publish e) fun _ m => m :=
  of_modify fun c => by by_cases hc : c.link.connected <;> simp [hc]

theorem update {f : Link → Link} {φ : LinkMachine → LinkMachine}
    (hf : ∀ l, (f l).machine = φ l.machine) : Acts (LinkM.update f) fun _ => φ := by
  have hset : Acts (modify fun c => { c with link := f c.link }) fun _ => φ :=
    of_modify fun c => ⟨hf c.link, rfl⟩
  exact (hset.bind fun _ => publish _).congr fun _ _ => rfl

theorem disconnect (r : Fault) : Acts (LinkM.disconnect r) fun _ m => m.down :=
  of_modify fun c => by
    by_cases hc : c.link.connected <;> simp [hc, LinkMachine.down, Link.machine]

theorem send (cmd : Wire.Command) (payload : List UInt8) :
    Acts (LinkM.send cmd payload) fun ok m => m.write ok := by
  intro c
  by_cases hc : c.link.connected
  · cases hw : c.writeFault with
    | none =>
      have hrun : ((LinkM.send cmd payload).run c).2 = { c with sent := c.sent ++ (cmd.toByte :: payload).toArray } := by
        simp [LinkM.send, hc, hw]; rfl
      simp [hrun, hw, LinkMachine.write]
    | some why =>
      have hrun : ((LinkM.send cmd payload).run c).2 = ((LinkM.disconnect (Fault.disconnected why)).run c).2 := by
        simp [LinkM.send, hc, hw]; rfl
      rw [hrun, (disconnect _ c).1, (disconnect _ c).2, hw]
      exact ⟨rfl, rfl⟩
  · have hrun : ((LinkM.send cmd payload).run c).2 = c := by
      simp [LinkM.send, hc]; rfl
    simp [hrun, LinkMachine.write, LinkMachine.down, hc]

end Acts

/-- Every result `p` can return satisfies `Q`, whatever the connection. -/
def Yields {α : Type} (p : LinkM α) (Q : α → Prop) : Prop := ∀ c : Connection, Q (p.run c).1

theorem Yields.of_pure {α : Type} {Q : α → Prop} {a : α} (h : Q a) : Yields (pure a : LinkM α) Q :=
  fun _ => h

theorem Yields.bind {α β : Type} {Q : β → Prop} {p : LinkM α} {f : α → LinkM β}
    (hf : ∀ a, Yields (f a) Q) : Yields (p >>= f) Q :=
  fun c => hf (p.run c).1 (p.run c).2

/-- A wait whose settling leaves the machine and the connection's writes alone, whatever
the outcome of the wait. -/
def Wait.Keeps {α : Type} (w : Wait α) : Prop := ∀ e, Acts (w.finish e) fun _ m => m

theorem Acts.settle {α : Type} {w : Wait α} (hw : w.Keeps) (how : GiveUp) :
    Acts (w.settle how) fun _ m => m := by
  unfold Wait.settle
  refine (Acts.link.bind fun l => ?_).congr fun _ _ => rfl
  by_cases hr : w.ready l
  · simpa [hr] using hw none
  · simpa [hr] using hw (some (Wait.fault l w.what how))

/-! ## Every operation and message moves the machine by the table -/

namespace LinkM

theorem acts_requestCapture : Acts requestCapture fun ok m => (m.enter .capturing).write ok := by
  unfold requestCapture
  exact (Acts.update fun _ => Link.machine_enter _ _).bind fun _ => Acts.send _ _

theorem acts_calibrate : Acts calibrate fun ok m => (m.enter .calibrating).write ok := by
  unfold calibrate
  exact (Acts.update fun _ => Link.machine_enter _ _).bind fun _ => Acts.send _ _

theorem acts_restart : Acts restart fun ok m => (m.enter .reinitializing).write ok := by
  unfold restart
  exact (Acts.update fun _ => Link.machine_enter _ _).bind fun _ => Acts.send _ _

theorem acts_startCapture : Acts startCapture fun ok m => (m.enter .capturing).write ok := by
  unfold startCapture
  exact (Acts.update fun _ => Link.machine_enter _ _).bind fun _ => Acts.send _ _

/-- Stopping capture settles the link after the write, so a failed write leaves it down. -/
theorem acts_stopCapture : Acts stopCapture fun ok m => (m.write ok).settle .capturing := by
  unfold stopCapture
  exact (Acts.send _ _).bind fun _ =>
    ((Acts.update (φ := fun m => m.settle .capturing) fun l => Link.machine_settle l _).bind
      fun _ => Acts.of_pure _).congr fun _ _ => rfl

theorem acts_requestConfiguration : Acts requestConfiguration fun ok m => m.write ok := by
  unfold requestConfiguration
  refine (Acts.update (φ := id) ?_).bind fun _ => Acts.send _ _
  exact fun _ => rfl

theorem acts_requestStoredFrame : Acts requestStoredFrame fun ok m => m.write ok := by
  unfold requestStoredFrame
  refine (Acts.update (φ := id) ?_).bind fun _ => Acts.send _ _
  exact fun _ => rfl

theorem acts_setWorld (w : Affine) : Acts (setWorld w) fun _ m => m.locate w :=
  Acts.update fun _ => rfl

theorem acts_close : Acts close fun _ m => m.down := Acts.disconnect _

theorem acts_readerStopped (s : Wire.ReadStop) : Acts (readerStopped s) fun _ m => m.down := by
  unfold readerStopped
  split
  · exact ((Acts.disconnect _).bind fun _ =>
      Acts.of_modify (g := fun _ m => m) fun _ => ⟨rfl, rfl⟩).congr fun _ _ => rfl
  · exact ((Acts.disconnect _).bind fun _ =>
      Acts.of_modify (g := fun _ m => m) fun _ => ⟨rfl, rfl⟩).congr fun _ _ => rfl

/-- A configuration that fails validation is never written; one that passes is written. -/
theorem acts_pushConfiguration (cfg : DeviceConfig) :
    Acts (pushConfiguration cfg) fun ok m => if cfg.validate matches .ok _ then m.write ok else m := by
  unfold pushConfiguration
  split
  · next e he => exact (Acts.of_pure _).congr fun _ _ => by simp [he]
  · next u hu =>
    refine (Acts.link.bind fun _ => (Acts.update (φ := id) ?_).bind fun _ =>
      (Acts.send _ _).bind (h := fun _ m => m) fun r => ?_).congr ?_
    · exact fun _ => rfl
    · cases r <;> exact Acts.of_pure _
    · intro ok m
      simp [hu]

/-- The answer a configuration push waits for only ever restores the configuration. -/
theorem pushConfiguration_waits (cfg : DeviceConfig) :
    Yields (pushConfiguration cfg) fun s => ∀ w, s = .waiting w → w.Keeps := by
  unfold pushConfiguration
  split
  · exact Yields.of_pure (by simp)
  · refine Yields.bind fun before => Yields.bind fun _ => Yields.bind fun r => ?_
    cases r with
    | some e => exact Yields.of_pure (by simp)
    | none =>
      refine Yields.of_pure ?_
      rintro w ⟨⟩ e
      cases e with
      | some e => exact Acts.of_pure _
      | none =>
        refine (Acts.link.bind fun l => (Acts.update (φ := id) fun l' => ?_).bind
          (h := fun _ m => m) fun _ => ?_).congr fun _ _ => rfl
        · by_cases hr : before.rejections < l.rejections ∧ l.configurations = before.configurations <;>
            simp [hr, Link.machine]
        · split <;> exact Acts.of_pure _

end LinkM

namespace Inbound

/-- A frame answer changes the frame bookkeeping, never the machine. -/
theorem machine_applyFrame (stored : Bool) (p : Except Wire.WireError Wire.Payload) (l : Link) :
    (applyFrame stored p l).machine = l.machine := by
  unfold applyFrame
  cases p with
  | error e => cases stored <;> rfl
  | ok p => cases stored <;> cases p <;> rfl

theorem acts_apply (m : Inbound) : Acts m.apply fun _ => LinkMachine.receive m := by
  cases m with
  | captured => exact Acts.update fun l => Link.machine_settle _ _
  | calibrated r => exact Acts.update fun l => Link.machine_settle _ _
  | frame stored p => exact Acts.update fun l => machine_applyFrame stored p l
  | configuration c =>
    exact ((Acts.update fun _ => rfl).bind fun _ => Acts.publish _).congr fun _ _ => rfl
  | rejected => exact Acts.update fun _ => rfl
  | restarted status => exact Acts.update fun l => Link.machine_settle _ _
  | preRecordConfirmed => exact Acts.update fun _ => rfl
  | postRecordConfirmed => exact Acts.update fun _ => rfl
  | directoryCreated status => exact Acts.update fun _ => rfl
  | timestamps list => exact Acts.update fun _ => rfl
  | postSynced status => exact Acts.update fun _ => rfl

end Inbound

/-! ## Runs of a link -/

/-- What can happen to a link: an operation of the server, a message from the sensor that
the reader applies, the reader stopping on a fault of the stream, or the connection
refusing writes from then on. A configuration push is two events: it starts, and later its
caller stops waiting (`settle`). -/
inductive LinkOp where
  | requestCapture
  | calibrate
  | restart
  | startCapture
  | stopCapture
  | requestConfiguration
  | requestStoredFrame
  | pushConfiguration (cfg : DeviceConfig)
  /-- The caller of the `i`-th push still waiting stops waiting, as `how` says. -/
  | settle (i : Nat) (how : GiveUp)
  | setWorld (w : Affine)
  | close
  | message (m : Inbound)
  | readerStopped (s : Wire.ReadStop)
  | breakWrites

/-- A link's connection, with the configuration pushes still waiting for their answers,
oldest first. -/
structure LinkSession where
  conn : Connection
  waiting : List (Wait Unit)

namespace LinkSession

/-- A new link to the sensor at `endpoint`. -/
def start (endpoint : String) : LinkSession := ⟨{ link := Link.create endpoint }, []⟩

/-- Run an operation that returns at once. -/
def perform {α : Type} (s : LinkSession) (p : LinkM α) : LinkSession :=
  { s with conn := (p.run s.conn).2 }

end LinkSession

namespace LinkOp

/-- What an event does to a session. -/
def apply : LinkOp → LinkSession → LinkSession
  | .requestCapture, s => s.perform LinkM.requestCapture
  | .calibrate, s => s.perform LinkM.calibrate
  | .restart, s => s.perform LinkM.restart
  | .startCapture, s => s.perform LinkM.startCapture
  | .stopCapture, s => s.perform LinkM.stopCapture
  | .requestConfiguration, s => s.perform LinkM.requestConfiguration
  | .requestStoredFrame, s => s.perform LinkM.requestStoredFrame
  | .pushConfiguration cfg, s =>
    match (LinkM.pushConfiguration cfg).run s.conn with
    | (.waiting w, c) => ⟨c, s.waiting ++ [w]⟩
    | (.finished _, c) => ⟨c, s.waiting⟩
  | .settle i how, s =>
    match s.waiting[i]? with
    | some w => ⟨((w.settle how).run s.conn).2, s.waiting.eraseIdx i⟩
    | none => s
  | .setWorld w, s => s.perform (LinkM.setWorld w)
  | .close, s => s.perform LinkM.close
  | .message m, s => s.perform m.apply
  | .readerStopped st, s => s.perform (LinkM.readerStopped st)
  | .breakWrites, s => { s with conn := { s.conn with writeFault := some "broken pipe" } }

/-- Whether an event is a configuration from the sensor. -/
def isConfiguration : LinkOp → Bool
  | .message (.configuration _) => true
  | _ => false

/-- How an event moves the machine, given whether the connection takes writes. -/
def onMachine : LinkOp → Bool → LinkMachine → LinkMachine
  | .requestCapture, ok, m | .startCapture, ok, m => (m.enter .capturing).write ok
  | .calibrate, ok, m => (m.enter .calibrating).write ok
  | .restart, ok, m => (m.enter .reinitializing).write ok
  | .stopCapture, ok, m => (m.write ok).settle .capturing
  | .requestConfiguration, ok, m | .requestStoredFrame, ok, m => m.write ok
  | .pushConfiguration cfg, ok, m => if cfg.validate matches .ok _ then m.write ok else m
  | .setWorld w, _, m => m.locate w
  | .close, _, m | .readerStopped _, _, m => m.down
  | .message msg, _, m => LinkMachine.receive msg m
  | .settle .., _, m | .breakWrites, _, m => m

/-- The moves of the table besides staying put and going down: a configuration ends the
wait for one, capture, calibration and restart requests make a ready link busy, and each
busy state is left for ready by its own confirmation, capturing also by stopping it. -/
def Moves : LinkOp → LinkState → LinkState → Prop
  | .message (.configuration _), s, s' => s = .awaitingConfiguration ∧ s' = .ready
  | .requestCapture, s, s' | .startCapture, s, s' => s = .ready ∧ s' = .capturing
  | .calibrate, s, s' => s = .ready ∧ s' = .calibrating
  | .restart, s, s' => s = .ready ∧ s' = .reinitializing
  | .stopCapture, s, s' | .message .captured, s, s' => s = .capturing ∧ s' = .ready
  | .message (.calibrated _), s, s' => s = .calibrating ∧ s' = .ready
  | .message (.restarted _), s, s' => s = .reinitializing ∧ s' = .ready
  | _, _, _ => False

end LinkOp

namespace LinkSession

/-- Run events one after another. -/
def run (s : LinkSession) (ops : List LinkOp) : LinkSession := ops.foldl (fun s o => o.apply s) s

/-- The waits of a session settle without touching the machine. -/
def Settled (s : LinkSession) : Prop := ∀ w ∈ s.waiting, w.Keeps

end LinkSession

namespace LinkOp

/-- Every event moves the link's machine as the table says, while the waiting pushes settle
without touching it. -/
theorem machine_apply (o : LinkOp) {s : LinkSession} (hs : s.Settled) :
    (o.apply s).conn.link.machine = o.onMachine s.conn.writeFault.isNone s.conn.link.machine := by
  cases o with
  | requestCapture => exact (LinkM.acts_requestCapture s.conn).1
  | calibrate => exact (LinkM.acts_calibrate s.conn).1
  | restart => exact (LinkM.acts_restart s.conn).1
  | startCapture => exact (LinkM.acts_startCapture s.conn).1
  | stopCapture => exact (LinkM.acts_stopCapture s.conn).1
  | requestConfiguration => exact (LinkM.acts_requestConfiguration s.conn).1
  | requestStoredFrame => exact (LinkM.acts_requestStoredFrame s.conn).1
  | pushConfiguration cfg =>
    have hpush := (LinkM.acts_pushConfiguration cfg s.conn).1
    simp only [apply]
    split <;> next heq => rw [heq] at hpush; exact hpush
  | settle i how =>
    simp only [apply]
    split
    · next w hw => exact (Acts.settle (hs w (List.mem_of_getElem? hw)) how s.conn).1
    · rfl
  | setWorld w => exact (LinkM.acts_setWorld w s.conn).1
  | close => exact (LinkM.acts_close s.conn).1
  | message m => exact (Inbound.acts_apply m s.conn).1
  | readerStopped st => exact (LinkM.acts_readerStopped st s.conn).1
  | breakWrites => rfl

/-- Every wait an event leaves pending settles without touching the machine. -/
theorem settled_apply (o : LinkOp) {s : LinkSession} (hs : s.Settled) : (o.apply s).Settled := by
  cases o with
  | pushConfiguration cfg =>
    have hwaits := LinkM.pushConfiguration_waits cfg s.conn
    simp only [apply]
    split
    · next w c heq =>
      rw [heq] at hwaits
      intro w' hw'
      rcases List.mem_append.1 hw' with hw' | hw'
      · exact hs w' hw'
      · rw [List.mem_singleton.1 hw']
        exact hwaits w rfl
    · exact hs
  | settle i how =>
    simp only [apply]
    split
    · exact fun w hw => hs w (List.mem_of_mem_eraseIdx hw)
    · exact hs
  | _ => exact hs

end LinkOp

/-! ## What the table keeps -/

theorem LinkState.beq_eq_decide (a b : LinkState) : (a == b) = decide (a = b) := by
  cases a <;> cases b <;> rfl

/-- A busy link is up and has had its configuration. -/
theorem LinkState.ne_of_busy {s : LinkState} (hs : s.busy = true) :
    s ≠ .disconnected ∧ s ≠ .awaitingConfiguration := by
  revert hs
  cases s <;> decide

namespace LinkMachine

variable {m : LinkMachine}

@[simp] theorem state_enter (s : LinkState) :
    (m.enter s).state = if m.state = .ready then s else m.state := by
  by_cases h : m.state = .ready <;> simp [LinkMachine.enter, LinkState.beq_eq_decide, h]

@[simp] theorem state_settle (s : LinkState) :
    (m.settle s).state = if m.state = s then .ready else m.state := by
  by_cases h : m.state = s <;> simp [LinkMachine.settle, LinkState.beq_eq_decide, h]

@[simp] theorem state_down : m.down.state = if m.connected then .disconnected else m.state := by
  by_cases h : m.connected <;> simp [LinkMachine.down, h]

@[simp] theorem state_write (ok : Bool) : (m.write ok).state = if ok then m.state else m.down.state := by
  cases ok <;> rfl

@[simp] theorem state_configure :
    m.configure.state = if m.state = .awaitingConfiguration then .ready else m.state := by
  by_cases h : m.state = .awaitingConfiguration <;>
    simp [LinkMachine.configure, LinkState.beq_eq_decide, h]

@[simp] theorem state_locate (w : Affine) : (m.locate w).state = m.state := rfl

@[simp] theorem configurations_enter (s : LinkState) : (m.enter s).configurations = m.configurations := by
  unfold LinkMachine.enter; split <;> rfl

@[simp] theorem configurations_settle (s : LinkState) : (m.settle s).configurations = m.configurations := by
  unfold LinkMachine.settle; split <;> rfl

@[simp] theorem configurations_down : m.down.configurations = m.configurations := by
  unfold LinkMachine.down; split <;> rfl

@[simp] theorem configurations_write (ok : Bool) : (m.write ok).configurations = m.configurations := by
  cases ok <;> simp [LinkMachine.write]

@[simp] theorem configurations_configure : m.configure.configurations = m.configurations + 1 := rfl

@[simp] theorem configurations_locate (w : Affine) : (m.locate w).configurations = m.configurations := rfl

theorem Coherent.down (h : m.Coherent) : m.down.Coherent := by
  obtain ⟨hc, ha, hp⟩ := h
  unfold LinkMachine.down
  split
  · exact ⟨by simp, by simp, hp⟩
  · exact ⟨hc, ha, hp⟩

theorem Coherent.write (h : m.Coherent) (ok : Bool) : (m.write ok).Coherent := by
  unfold LinkMachine.write
  split
  · exact h
  · exact h.down

/-- Entering a busy state keeps the table's invariant: only a ready machine enters, and
it was neither down nor waiting for a configuration. -/
theorem Coherent.enter (h : m.Coherent) {s : LinkState} (hs : s.busy = true) :
    (m.enter s).Coherent := by
  obtain ⟨hc, ha, hp⟩ := h
  unfold LinkMachine.enter
  split
  · next hr =>
    have hready : m.state = .ready := by simpa [LinkState.beq_eq_decide] using hr
    have hne := LinkState.ne_of_busy hs
    refine ⟨?_, ?_, hp⟩
    · simpa [hne.1, hready] using hc
    · simp only [hne.2, false_iff, not_and]
      intro _ hz
      exact absurd (ha.2 ⟨by simp [hready], hz⟩) (by simp [hready])
  · exact ⟨hc, ha, hp⟩

/-- Settling a busy state keeps the table's invariant: a busy machine is up and has had
its configuration. -/
theorem Coherent.settle (h : m.Coherent) {s : LinkState} (hs : s.busy = true) :
    (m.settle s).Coherent := by
  obtain ⟨hc, ha, hp⟩ := h
  unfold LinkMachine.settle
  split
  · next hr =>
    have hstate : m.state = s := by simpa [LinkState.beq_eq_decide] using hr
    have hne := LinkState.ne_of_busy hs
    refine ⟨?_, ?_, hp⟩
    · simpa [hne.1, hstate] using hc
    · simp only [reduceCtorEq, false_iff, not_and]
      intro _ hz
      exact hne.2 (hstate ▸ ha.2 ⟨by simp [hstate, hne.1], hz⟩)
  · exact ⟨hc, ha, hp⟩

/-- A configuration is counted, so the machine no longer waits for one. -/
theorem Coherent.configure (h : m.Coherent) : m.configure.Coherent := by
  obtain ⟨hc, ha, hp⟩ := h
  refine ⟨?_, ?_, hp⟩
  · by_cases hw : m.state = .awaitingConfiguration <;>
      simp [LinkMachine.configure, LinkState.beq_eq_decide, hw, hc]
  · by_cases hw : m.state = .awaitingConfiguration <;>
      simp [LinkMachine.configure, LinkState.beq_eq_decide, hw]

theorem Coherent.locate (h : m.Coherent) (w : Affine) : (m.locate w).Coherent :=
  ⟨h.connected_iff, h.awaiting_iff, rfl⟩

theorem Coherent.receive (h : m.Coherent) (msg : Inbound) : (LinkMachine.receive msg m).Coherent := by
  cases msg with
  | captured => exact h.settle rfl
  | calibrated r => exact (h.locate _).settle rfl
  | configuration c => exact h.configure
  | restarted status => exact h.settle rfl
  | _ => exact h

end LinkMachine

namespace LinkOp

variable {m : LinkMachine}

/-- Every event keeps the table's invariant. -/
theorem coherent_onMachine (h : m.Coherent) (o : LinkOp) (ok : Bool) : (o.onMachine ok m).Coherent := by
  cases o with
  | requestCapture | startCapture => exact (h.enter rfl).write ok
  | calibrate => exact (h.enter rfl).write ok
  | restart => exact (h.enter rfl).write ok
  | stopCapture => exact (h.write ok).settle rfl
  | requestConfiguration | requestStoredFrame => exact h.write ok
  | pushConfiguration cfg =>
    simp only [onMachine]
    split
    · exact h.write ok
    · exact h
  | setWorld w => exact h.locate w
  | close | readerStopped _ => exact h.down
  | message msg => exact h.receive msg
  | settle _ _ | breakWrites => exact h

/-- A disconnected machine stays disconnected, whatever happens. -/
theorem state_onMachine_of_disconnected (hd : m.state = .disconnected) (o : LinkOp) (ok : Bool) :
    (o.onMachine ok m).state = .disconnected := by
  cases o with
  | message msg => cases msg <;> simp [onMachine, LinkMachine.receive, hd]
  | pushConfiguration cfg =>
    simp only [onMachine]
    split <;> simp [hd]
  | _ => simp [onMachine, hd]

/-- Every event stays, goes down, or makes one of the table's moves. -/
theorem moves_onMachine (o : LinkOp) (ok : Bool) (m : LinkMachine) :
    (o.onMachine ok m).state = m.state ∨ (o.onMachine ok m).state = .disconnected ∨
      o.Moves m.state (o.onMachine ok m).state := by
  cases o with
  | message msg =>
    cases msg with
    | captured | calibrated _ | configuration _ | restarted _ =>
      simp only [onMachine, LinkMachine.receive, LinkMachine.state_settle,
        LinkMachine.state_configure, LinkMachine.state_locate]
      split_ifs <;> simp_all [Moves]
    | _ => simp [onMachine, LinkMachine.receive]
  | pushConfiguration cfg =>
    simp only [onMachine]
    split_ifs
    · simp only [LinkMachine.state_write, LinkMachine.state_down]
      split_ifs <;> simp
    · simp
  | setWorld _ | settle _ _ | breakWrites => simp [onMachine]
  | _ =>
    simp only [onMachine, LinkMachine.state_write, LinkMachine.state_enter,
      LinkMachine.state_settle, LinkMachine.state_down]
    split_ifs <;> simp_all [Moves]

/-- Only a configuration from the sensor is counted. -/
theorem configurations_onMachine (o : LinkOp) (ok : Bool) (m : LinkMachine) :
    (o.onMachine ok m).configurations = m.configurations + if o.isConfiguration then 1 else 0 := by
  cases o with
  | message msg => cases msg <;> simp [onMachine, LinkMachine.receive, isConfiguration]
  | pushConfiguration cfg =>
    simp only [onMachine]
    split <;> simp [isConfiguration]
  | _ => simp [onMachine, isConfiguration]

/-- What the table says of busy states: they are entered only from ready and left only for
ready or for going down; capturing is left for ready only by its confirmation or by
stopping capture, calibrating and reinitializing only by their confirmations. -/
theorem busy_of_moves {o : LinkOp} {s s' : LinkState}
    (h : s' = s ∨ s' = .disconnected ∨ o.Moves s s') :
    (s'.busy = true → s' ≠ s → s = .ready) ∧
    (s.busy = true → s' ≠ s → s' = .ready ∨ s' = .disconnected) ∧
    (s = .capturing → s' = .ready → o = .stopCapture ∨ o = .message .captured) ∧
    (s = .calibrating → s' = .ready → ∃ r, o = .message (.calibrated r)) ∧
    (s = .reinitializing → s' = .ready → ∃ b, o = .message (.restarted b)) := by
  rcases h with rfl | rfl | hm
  · refine ⟨fun _ h => absurd rfl h, fun _ h => absurd rfl h, ?_, ?_, ?_⟩ <;>
      rintro rfl ⟨⟩
  · refine ⟨fun hb => absurd hb (by decide), fun _ _ => .inr rfl, ?_, ?_, ?_⟩ <;> rintro _ ⟨⟩
  · cases o with
    | message msg =>
      cases msg <;> simp only [Moves] at hm <;> obtain ⟨rfl, rfl⟩ := hm <;>
        simp [LinkState.busy, LinkState.beq_eq_decide]
    | _ =>
      simp only [Moves] at hm <;> obtain ⟨rfl, rfl⟩ := hm <;>
        simp [LinkState.busy, LinkState.beq_eq_decide]

end LinkOp

/-! ## Whole runs -/

namespace LinkSession

theorem run_cons (s : LinkSession) (o : LinkOp) (ops : List LinkOp) :
    s.run (o :: ops) = (o.apply s).run ops := rfl

/-- A new link waits for its configuration, is up, and has the identity as both world
transform and camera pose. -/
theorem coherent_start (endpoint : String) : (start endpoint).conn.link.machine.Coherent :=
  ⟨by simp [start, Link.create], by simp [start, Link.create],
    show Affine.identity = Affine.identity.cameraPose from rfl⟩

theorem settled_start (endpoint : String) : (start endpoint).Settled := by
  simp [Settled, start]

/-- Along every run the machine stays coherent and the waiting pushes keep settling
without touching it. -/
theorem sound_run {s : LinkSession} (hc : s.conn.link.machine.Coherent) (hs : s.Settled)
    (ops : List LinkOp) : (s.run ops).conn.link.machine.Coherent ∧ (s.run ops).Settled := by
  induction ops generalizing s with
  | nil => exact ⟨hc, hs⟩
  | cons o ops ih =>
    rw [run_cons]
    apply ih
    · rw [o.machine_apply hs]
      exact LinkOp.coherent_onMachine hc o _
    · exact o.settled_apply hs

/-- A run counts exactly the configurations the sensor sent during it. -/
theorem configurations_run {s : LinkSession} (hs : s.Settled) (ops : List LinkOp) :
    (s.run ops).conn.link.configurations =
      s.conn.link.configurations + ops.countP (·.isConfiguration) := by
  induction ops generalizing s with
  | nil => rfl
  | cons o ops ih =>
    have hstep := LinkOp.configurations_onMachine o s.conn.writeFault.isNone s.conn.link.machine
    rw [← o.machine_apply hs] at hstep
    rw [run_cons, ih (o.settled_apply hs), List.countP_cons]
    simp only [Link.machine_configurations] at hstep
    rw [hstep]
    split <;> omega

/-- Once disconnected, a link stays disconnected for the rest of every run. -/
theorem state_run_of_disconnected {s : LinkSession} (hs : s.Settled)
    (hd : s.conn.link.state = .disconnected) (ops : List LinkOp) :
    (s.run ops).conn.link.state = .disconnected := by
  induction ops generalizing s with
  | nil => exact hd
  | cons o ops ih =>
    rw [run_cons]
    apply ih (o.settled_apply hs)
    rw [← Link.machine_state, o.machine_apply hs]
    exact LinkOp.state_onMachine_of_disconnected hd o _

end LinkSession

namespace LinkM

/-- A link that is down refuses to write: its connection stays as it is, not a byte is
sent, and the answer is the disconnected fault. -/
theorem send_of_down {c : Connection} (h : c.link.connected = false) (cmd : Wire.Command)
    (payload : List UInt8) :
    (send cmd payload).run c = (some (Fault.disconnected c.link.endpoint), c) := by
  simp [send, h]
  rfl

end LinkM

/-- A wait on a link that is down and whose condition does not hold is answered as
disconnected, however its caller stops waiting. -/
theorem Wait.settle_of_down {α : Type} (w : Wait α) (how : GiveUp) {c : Connection}
    (h : c.link.connected = false) (hr : w.ready c.link = false) :
    (w.settle how).run c =
      (w.finish (some (Fault.disconnected (c.link.endpoint ++ " waiting for " ++ w.what)))).run c := by
  show (if w.ready c.link then w.finish none else w.finish (some (Wait.fault c.link w.what how))).run c = _
  simp [Wait.fault, h, hr]

/-- The state machine of a link over every run. From a new link, after any sequence of the
server's operations and the sensor's messages, interleaved in any order: the link is up
exactly when it is not disconnected; it waits for a configuration exactly while it is up
and no configuration has arrived, and the configurations counted are those the sensor sent;
its camera pose is the pose of its world transform; once disconnected it stays so whatever
follows; the next event enters a busy state only from ready, leaves one only for ready or
disconnected, and leaves capturing for ready only by the capture's confirmation or by
stopping capture, calibrating only by the calibration record, reinitializing only by the
restart's confirmation; and a link that is down writes nothing, answering every write with
the disconnected fault, and answers every wait whose condition does not hold as
disconnected, whether its caller cancels or times out. -/
theorem run_follows_link_state_table (endpoint : String) (ops : List LinkOp) :
    let s := (LinkSession.start endpoint).run ops
    let l := s.conn.link
    (l.connected = true ↔ l.state ≠ .disconnected) ∧
    (l.state = .awaitingConfiguration ↔ l.state ≠ .disconnected ∧ l.configurations = 0) ∧
    l.configurations = ops.countP (·.isConfiguration) ∧
    l.pose = l.world.cameraPose ∧
    (l.state = .disconnected → ∀ more, (s.run more).conn.link.state = .disconnected) ∧
    (∀ o : LinkOp,
      (((o.apply s).conn.link.state.busy = true → (o.apply s).conn.link.state ≠ l.state →
          l.state = .ready) ∧
        (l.state.busy = true → (o.apply s).conn.link.state ≠ l.state →
          (o.apply s).conn.link.state = .ready ∨ (o.apply s).conn.link.state = .disconnected) ∧
        (l.state = .capturing → (o.apply s).conn.link.state = .ready →
          o = .stopCapture ∨ o = .message .captured) ∧
        (l.state = .calibrating → (o.apply s).conn.link.state = .ready →
          ∃ r, o = .message (.calibrated r)) ∧
        (l.state = .reinitializing → (o.apply s).conn.link.state = .ready →
          ∃ b, o = .message (.restarted b)))) ∧
    (l.state = .disconnected →
      (∀ cmd payload, (LinkM.send cmd payload).run s.conn =
        (some (Fault.disconnected l.endpoint), s.conn)) ∧
      ∀ (α : Type) (w : Wait α) (how : GiveUp), w.ready l = false →
        (w.settle how).run s.conn =
          (w.finish (some (Fault.disconnected (l.endpoint ++ " waiting for " ++ w.what)))).run s.conn) := by
  intro s l
  obtain ⟨hc, hs⟩ := LinkSession.sound_run (LinkSession.coherent_start endpoint)
    (LinkSession.settled_start endpoint) ops
  have hconf : l.configurations = ops.countP (·.isConfiguration) := by
    have hrun := LinkSession.configurations_run (LinkSession.settled_start endpoint) ops
    rwa [show (LinkSession.start endpoint).conn.link.configurations = 0 from rfl, Nat.zero_add] at hrun
  have hdown : l.state = .disconnected → l.connected = false := fun hd => by
    cases hup : l.connected
    · rfl
    · exact absurd hd (hc.connected_iff.1 hup)
  refine ⟨hc.connected_iff, hc.awaiting_iff, hconf, hc.pose_eq,
    fun hd more => LinkSession.state_run_of_disconnected hs hd more, fun o => ?_, fun hd => ?_⟩
  · have hmoves := LinkOp.moves_onMachine o s.conn.writeFault.isNone s.conn.link.machine
    rw [← o.machine_apply hs] at hmoves
    exact LinkOp.busy_of_moves hmoves
  · exact ⟨LinkM.send_of_down (hdown hd), fun α w how hr => w.settle_of_down how (hdown hd) hr⟩

end DepthRig
