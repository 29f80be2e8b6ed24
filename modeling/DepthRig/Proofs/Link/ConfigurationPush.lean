import DepthRig.Proofs.Link.Exchange

/-!
# Pushing a configuration

A push shows the new configuration at once, writes it and takes any configuration or
rejection counted after it started as the answer, bringing the previous configuration back on
a rejection. The other messages applied meanwhile read nothing of the configuration, so on any
interleaving the call ends with the link as the sensor's messages alone would have left it
(`LinkM.pushConfiguration_outcomes`).
-/

namespace DepthRig

open Wire

namespace LinkM

theorem link_run_update (f : Link → Link) (c : Connection) : ((update f).run c).2.link = f c.link := by
  rw [run_update]

theorem link_run_publish (e : LinkEvent) (c : Connection) : ((publish e).run c).2.link = c.link := by
  rw [run_publish]

end LinkM

namespace Link

variable (l : Link) (s : LinkState)

@[simp] theorem config_settle : (l.settle s).config = l.config := by
  unfold Link.settle; split <;> rfl

@[simp] theorem configurations_settle : (l.settle s).configurations = l.configurations := by
  unfold Link.settle; split <;> rfl

@[simp] theorem rejections_settle : (l.settle s).rejections = l.rejections := by
  unfold Link.settle; split <;> rfl

@[simp] theorem endpoint_settle : (l.settle s).endpoint = l.endpoint := by
  unfold Link.settle; split <;> rfl

/-- Setting a link's configuration to the one it has changes nothing. -/
theorem withConfig_of_config {l : Link} {x : DeviceConfig} (h : l.config = x) : { l with config := x } = l :=
  h ▸ rfl

end Link

namespace Inbound

/-- The configuration a message leaves on a link that had `x`: an echoed configuration
replaces it, any other message keeps it. -/
def configAfter : Inbound → DeviceConfig → DeviceConfig
  | configuration d, _ => d
  | _, x => x

/-- Whether a message is a configuration from the sensor. -/
def echoes : Inbound → Bool
  | configuration _ => true
  | _ => false

/-- Whether a message is the sensor's rejection of a configuration. -/
def rejects : Inbound → Bool
  | rejected => true
  | _ => false

/-- Whether a message answers a configuration push: an echoed configuration or a rejection. -/
def answersPush (m : Inbound) : Bool := m.echoes || m.rejects

/-- A message reads nothing of the link's configuration. -/
theorem onLink_withConfig (m : Inbound) (l : Link) (x : DeviceConfig) :
    m.onLink { l with config := x } = { m.onLink l with config := m.configAfter x } := by
  cases m with
  | captured =>
    simp only [onLink, apply, LinkM.link_run_update]
    by_cases h : l.state == .capturing <;> simp only [Link.settle, h, ↓reduceIte, Bool.false_eq_true] <;> rfl
  | calibrated r =>
    simp only [onLink, apply, LinkM.link_run_update]
    by_cases h : l.state == .calibrating <;> simp only [Link.settle, h, ↓reduceIte, Bool.false_eq_true] <;> rfl
  | restarted status =>
    simp only [onLink, apply, LinkM.link_run_update]
    by_cases h : l.state == .reinitializing <;> simp only [Link.settle, h, ↓reduceIte, Bool.false_eq_true] <;> rfl
  | frame stored p =>
    simp only [onLink, apply, LinkM.link_run_update]
    cases stored <;> rcases p with _ | (_ | _) <;> rfl
  | configuration d =>
    simp only [onLink, apply, LinkM.run_bind, LinkM.link_run_publish, LinkM.link_run_update]
    rfl
  | _ =>
    simp only [onLink, apply, LinkM.link_run_update]
    rfl

/-- A message changes the configuration only by echoing one. -/
theorem config_onLink (m : Inbound) (l : Link) : (m.onLink l).config = m.configAfter l.config :=
  congrArg Link.config (onLink_withConfig m l l.config)

/-- A configuration is counted, and so is a rejection; nothing else counts, and no message
changes the endpoint. -/
theorem counts_onLink (m : Inbound) (l : Link) :
    (m.onLink l).configurations = l.configurations + (if m.echoes then 1 else 0) ∧
      (m.onLink l).rejections = l.rejections + (if m.rejects then 1 else 0) ∧
      (m.onLink l).endpoint = l.endpoint := by
  cases m with
  | frame stored p =>
    simp only [onLink, apply, LinkM.link_run_update]
    cases stored <;> rcases p with _ | (_ | _) <;> simp [applyFrame, echoes, rejects]
  | configuration d =>
    simp only [onLink, apply, LinkM.run_bind, LinkM.link_run_publish, LinkM.link_run_update]
    simp [echoes, rejects]
  | _ => simp [onLink, apply, LinkM.link_run_update, echoes, rejects]

/-- Messages in a row read nothing of the configuration: they leave the one the last echoed,
or the one they found. -/
theorem foldl_onLink_withConfig (ms : List Inbound) (l : Link) (x : DeviceConfig) :
    ms.foldl (fun l m => m.onLink l) { l with config := x } =
      { ms.foldl (fun l m => m.onLink l) l with config := ms.foldl (fun x m => m.configAfter x) x } := by
  induction ms generalizing l x with
  | nil => rfl
  | cons m ms ih =>
    simp only [List.foldl_cons]
    rw [onLink_withConfig, ih]

theorem config_foldl_onLink (ms : List Inbound) (l : Link) :
    (ms.foldl (fun l m => m.onLink l) l).config = ms.foldl (fun x m => m.configAfter x) l.config :=
  congrArg Link.config (foldl_onLink_withConfig ms l l.config)

/-- Messages in a row count the configurations and rejections among them. -/
theorem counts_foldl_onLink (ms : List Inbound) (l : Link) :
    (ms.foldl (fun l m => m.onLink l) l).configurations = l.configurations + ms.countP (·.echoes) ∧
      (ms.foldl (fun l m => m.onLink l) l).rejections = l.rejections + ms.countP (·.rejects) ∧
      (ms.foldl (fun l m => m.onLink l) l).endpoint = l.endpoint := by
  induction ms generalizing l with
  | nil => simp
  | cons m ms ih =>
    obtain ⟨hc, hr, he⟩ := counts_onLink m l
    obtain ⟨hc', hr', he'⟩ := ih (m.onLink l)
    simp only [List.foldl_cons, List.countP_cons, hc', hr', he', hc, hr, he]
    refine ⟨?_, ?_, trivial⟩ <;> split <;> omega

/-- Messages that answer no push count no configuration and no rejection, and keep the
configuration. -/
theorem quiet_foldl {ms : List Inbound} (hq : ∀ m ∈ ms, m.answersPush = false) :
    ms.countP (·.echoes) = 0 ∧ ms.countP (·.rejects) = 0 ∧
      ∀ x, ms.foldl (fun x m => m.configAfter x) x = x := by
  induction ms with
  | nil => exact ⟨rfl, rfl, fun _ => rfl⟩
  | cons m ms ih =>
    obtain ⟨he, hr, hx⟩ := ih fun m' hm' => hq m' (List.mem_cons_of_mem _ hm')
    have hm := hq m List.mem_cons_self
    simp only [answersPush, Bool.or_eq_false_iff] at hm
    refine ⟨by simp [he, hm.1], by simp [hr, hm.2], fun x => ?_⟩
    rw [List.foldl_cons, hx]
    cases m <;> simp_all [echoes, configAfter]

variable {pre post : List Inbound}

/-- Around one answer, messages that answer no push leave the configuration the answer
leaves. -/
theorem foldl_configAfter_around (hq : ∀ m ∈ pre ++ post, m.answersPush = false) (a : Inbound)
    (x : DeviceConfig) : (pre ++ a :: post).foldl (fun x m => m.configAfter x) x = a.configAfter x := by
  have hpre := (quiet_foldl fun m hm => hq m (List.mem_append_left _ hm)).2.2
  have hpost := (quiet_foldl fun m hm => hq m (List.mem_append_right _ hm)).2.2
  rw [List.foldl_append, List.foldl_cons, hpre, hpost]

/-- Around one answer, messages that answer no push count only the answer. -/
theorem countP_around (hq : ∀ m ∈ pre ++ post, m.answersPush = false) (a : Inbound) :
    (pre ++ a :: post).countP (·.echoes) = (if a.echoes then 1 else 0) ∧
      (pre ++ a :: post).countP (·.rejects) = (if a.rejects then 1 else 0) := by
  obtain ⟨he, hr, -⟩ := quiet_foldl fun m hm => hq m (List.mem_append_left _ hm)
  obtain ⟨he', hr', -⟩ := quiet_foldl fun m hm => hq m (List.mem_append_right _ hm)
  simp only [List.countP_append, List.countP_cons, he, hr, he', hr']
  constructor <;> split <;> simp_all

end Inbound

namespace LinkM

/-- A call as its caller sees it: the request starts, the link's reader applies the sensor's
messages `ms` in the order they arrive, and the caller then stops waiting as `how` says. -/
def callWith {α : Type} (start : LinkM (Started α)) (ms : List Inbound) (how : GiveUp) :
    LinkM (α × Option Fault) := do
  let s ← start
  ms.forM Inbound.apply
  s.settle how

/-- The reader's messages move the link message by message and write nothing. -/
theorem run_forM_apply (ms : List Inbound) (c : Connection) :
    ((ms.forM Inbound.apply).run c).2.link = ms.foldl (fun l m => m.onLink l) c.link ∧
      ((ms.forM Inbound.apply).run c).2.sent = c.sent := by
  induction ms generalizing c with
  | nil => exact ⟨rfl, rfl⟩
  | cons m ms ih =>
    rw [List.forM, run_bind]
    obtain ⟨hl, hs⟩ := ih (m.apply.run c).2
    rw [hl, hs, (Inbound.run_apply m c).1]
    exact ⟨rfl, congrArg Prod.fst (outgoing_apply m c)⟩

/-- A write on a link that is up and takes writes appends the command and its payload. -/
theorem run_send_of_up (cmd : Command) (payload : List UInt8) {c : Connection}
    (hc : c.link.connected = true) (hw : c.writeFault = none) :
    (send cmd payload).run c = (none, { c with sent := c.sent ++ (cmd.toByte :: payload).toArray }) := by
  simp [send, hc, hw]
  rfl

/-- A valid configuration pushed on a link that is up and takes writes shows on the link at
once and is written. The push then waits until a configuration or a rejection has been
counted since it started; on a rejection that no configuration accompanied it brings the
configuration it found back and reports the rejection, and on a configuration it keeps the
link as it is. -/
theorem run_pushConfiguration_of_valid (cfg : DeviceConfig) (hv : cfg.validate = .ok ())
    {c : Connection} (hc : c.link.connected = true) (hw : c.writeFault = none) :
    ∃ w : Wait Unit,
      ((pushConfiguration cfg).run c).1 = .waiting w ∧
      ((pushConfiguration cfg).run c).2.link = { c.link with config := cfg } ∧
      ((pushConfiguration cfg).run c).2.sent =
        c.sent ++ (Command.setConfiguration.toByte :: cfg.encode).toArray ∧
      (∀ l, w.ready l =
        (decide (c.link.configurations < l.configurations) || decide (c.link.rejections < l.rejections))) ∧
      (∀ c' : Connection, c.link.rejections < c'.link.rejections →
        c'.link.configurations = c.link.configurations →
        (w.finish none).run c' =
          (((), some (.ofKind .configurationRejected
              ("configuration rejected by sensor: " ++ c'.link.endpoint))),
            ((update fun l => { l with config := c.link.config }).run c').2)) ∧
      ∀ c' : Connection, c'.link.configurations ≠ c.link.configurations →
        (w.finish none).run c' = (((), none), ((update id).run c').2) := by
  unfold pushConfiguration
  rw [hv]
  simp only [run_bind, link, run_get, run_pure]
  have hup : ((update fun l => { l with config := cfg }).run c).2.link.connected = true := by
    rw [link_run_update]
    exact hc
  have hw₁ : ((update fun l => { l with config := cfg }).run c).2.writeFault = none := by
    rw [run_update]
    exact hw
  rw [run_send_of_up _ _ hup hw₁]
  refine ⟨_, rfl, link_run_update _ c, ?_, fun l => rfl, fun c' hr hc' => ?_, fun c' hc' => ?_⟩
  · simp only [run_update, run_pure]
  · simp only [run_bind, run_get, run_pure, hr, hc', decide_true, beq_self_eq_true, Bool.and_self,
      ↓reduceIte]
  · have hne : (c'.link.configurations == c.link.configurations) = false := beq_false_of_ne hc'
    simp only [run_bind, run_get, run_pure, hne, Bool.and_false, Bool.false_eq_true, ↓reduceIte]
    rfl

/-- A wait whose condition holds finishes as answered, however its caller stops waiting. -/
theorem run_settle_of_ready {α : Type} {w : Wait α} (how : GiveUp) {c : Connection}
    (h : w.ready c.link = true) : (w.settle how).run c = (w.finish none).run c := by
  simp [Wait.settle, link, h]

/-- The reader's messages arrive on the connection the request's start left, and the caller
settles on the connection they leave. -/
theorem run_callWith {α : Type} (start : LinkM (Started α)) (ms : List Inbound) (how : GiveUp)
    (c : Connection) :
    (callWith start ms how).run c =
      (((start.run c).1.settle how).run ((ms.forM Inbound.apply).run (start.run c).2).2) := rfl

/-- A push answered by the sensor: a valid configuration pushed on a link that is up and
takes writes, after the messages `ms`, one of which answers it. The call ends as the last of
`ms` left the link, with its configuration that of the answer's, or the previous one on a
rejection that no configuration followed, reported as such. -/
theorem run_callWith_pushConfiguration (cfg : DeviceConfig) (hv : cfg.validate = .ok ())
    {c : Connection} (hc : c.link.connected = true) (hw : c.writeFault = none)
    (ms : List Inbound) (how : GiveUp) :
    let L := ms.foldl (fun l m => m.onLink l) c.link
    let r := (callWith (pushConfiguration cfg) ms how).run c
    (ms.countP (·.echoes) = 0 → ms.countP (·.rejects) = 1 →
      r.1 = ((), some (.ofKind .configurationRejected
        ("configuration rejected by sensor: " ++ c.link.endpoint))) ∧
      r.2.link = { L with config := c.link.config } ∧
      r.2.sent = c.sent ++ (Command.setConfiguration.toByte :: cfg.encode).toArray) ∧
    (ms.countP (·.echoes) = 1 →
      r.1 = ((), none) ∧ r.2.link = { L with config := ms.foldl (fun x m => m.configAfter x) cfg } ∧
      r.2.sent = c.sent ++ (Command.setConfiguration.toByte :: cfg.encode).toArray) := by
  obtain ⟨w, hs, hl, hsent, hready, hrej, hecho⟩ := run_pushConfiguration_of_valid cfg hv hc hw
  obtain ⟨hl₂, hs₂⟩ := run_forM_apply ms ((pushConfiguration cfg).run c).2
  obtain ⟨hconf, hrejs, hend⟩ := Inbound.counts_foldl_onLink ms c.link
  rw [hl, Inbound.foldl_onLink_withConfig] at hl₂
  rw [hsent] at hs₂
  intro L r
  have hrun : r = (w.settle how).run ((ms.forM Inbound.apply).run ((pushConfiguration cfg).run c).2).2 := by
    show (callWith _ ms how).run c = _
    rw [run_callWith, hs]
    rfl
  -- the connection the messages leave, on which the caller settles
  generalize ((ms.forM Inbound.apply).run ((pushConfiguration cfg).run c).2).2 = c₂ at hl₂ hs₂ hrun
  refine ⟨fun he hr => ?_, fun he => ?_⟩
  · -- one rejection and no configuration: the previous configuration comes back
    have hmore : c.link.rejections < c₂.link.rejections := by rw [hl₂]; simp [hrejs, hr]
    have hsame : c₂.link.configurations = c.link.configurations := by rw [hl₂]; simp [hconf, he]
    rw [hrun, run_settle_of_ready how (by rw [hready]; simp [hmore]), hrej c₂ hmore hsame]
    refine ⟨by rw [hl₂]; simp [hend], by rw [link_run_update, hl₂], by rw [sent_update, hs₂]⟩
  · -- a configuration came: it stays
    have hmore : c₂.link.configurations ≠ c.link.configurations := by rw [hl₂]; simp [hconf, he]
    rw [hrun, run_settle_of_ready how (by rw [hready]; simp [hl₂, hconf, he]), hecho c₂ hmore]
    exact ⟨rfl, by rw [link_run_update, hl₂]; rfl, by rw [sent_update, hs₂]⟩

/-- A configuration push has the outcomes its documentation gives. A configuration that fails
validation is refused at once: the call finishes with the validation's message and leaves
the connection as it was, so nothing is written and nothing changes. A valid one, pushed on a
link that is up and whose writes work, is written as the push's one command; let the sensor
answer it with a rejection or with a configuration, among any other messages that answer no
push, in any order. On a rejection the call reports `configurationRejected` and the link's
configuration is the one it had before the call; on a configuration the call succeeds and
the link's configuration is the one the sensor sent. Either way the link ends exactly as the
sensor's messages alone would have left it, so whether a configuration was received, the
counts of configurations and rejections, and the protocol state move only as those messages
say. -/
theorem pushConfiguration_outcomes (cfg : DeviceConfig) (c : Connection) :
    (∀ e, cfg.validate = .error e →
      (pushConfiguration cfg).run c = (.finished ((), some (.plain e.message)), c)) ∧
    (cfg.validate = .ok () → c.link.connected = true → c.writeFault = none →
      ∀ (pre post : List Inbound) (how : GiveUp), (∀ m ∈ pre ++ post, m.answersPush = false) →
        (let ms := pre ++ .rejected :: post
         let r := (callWith (pushConfiguration cfg) ms how).run c
         r.1 = ((), some (.ofKind .configurationRejected
            ("configuration rejected by sensor: " ++ c.link.endpoint))) ∧
         r.2.link = ms.foldl (fun l m => m.onLink l) c.link ∧ r.2.link.config = c.link.config ∧
         r.2.sent = c.sent ++ (Command.setConfiguration.toByte :: cfg.encode).toArray) ∧
        ∀ d : DeviceConfig,
          let ms := pre ++ .configuration d :: post
          let r := (callWith (pushConfiguration cfg) ms how).run c
          r.1 = ((), none) ∧ r.2.link = ms.foldl (fun l m => m.onLink l) c.link ∧ r.2.link.config = d ∧
          r.2.sent = c.sent ++ (Command.setConfiguration.toByte :: cfg.encode).toArray) := by
  refine ⟨fun e he => ?_, fun hv hc hw pre post how hq => ⟨?_, fun d => ?_⟩⟩
  · unfold pushConfiguration
    rw [he]
    rfl
  · -- a rejection: the configuration the link had before comes back
    obtain ⟨he, hr⟩ := Inbound.countP_around hq .rejected
    obtain ⟨hreject, -⟩ := run_callWith_pushConfiguration cfg hv hc hw (pre ++ .rejected :: post) how
    obtain ⟨h1, h2, h3⟩ := hreject he hr
    have hkept : (((pre ++ .rejected :: post).foldl (fun l m => m.onLink l) c.link).config = c.link.config) := by
      rw [Inbound.config_foldl_onLink, Inbound.foldl_configAfter_around hq]
      rfl
    refine ⟨h1, ?_, ?_, h3⟩
    · rw [h2, Link.withConfig_of_config hkept]
    · rw [h2]
  · -- a configuration: it is the link's configuration afterwards
    obtain ⟨he, -⟩ := Inbound.countP_around hq (.configuration d)
    obtain ⟨-, hecho⟩ := run_callWith_pushConfiguration cfg hv hc hw (pre ++ .configuration d :: post) how
    obtain ⟨h1, h2, h3⟩ := hecho he
    have hsent : (((pre ++ .configuration d :: post).foldl (fun l m => m.onLink l) c.link).config = d) := by
      rw [Inbound.config_foldl_onLink, Inbound.foldl_configAfter_around hq]
      rfl
    rw [Inbound.foldl_configAfter_around hq] at h2
    refine ⟨h1, ?_, ?_, h3⟩
    · rw [h2]
      exact Link.withConfig_of_config hsent
    · rw [h2]
      rfl

/-- A push of sync offset 7 onto a new link, rejected between a capture confirmation and a
pre-recording confirmation, reports the rejection and leaves the default configuration. -/
theorem pushConfiguration_rejected_keeps_default :
    ({ DeviceConfig.default with syncOffset := 7 } : DeviceConfig).validate = .ok () ∧
    (∀ m ∈ [Inbound.captured] ++ [Inbound.preRecordConfirmed], m.answersPush = false) ∧
    ((callWith (pushConfiguration { DeviceConfig.default with syncOffset := 7 })
        ([Inbound.captured] ++ .rejected :: [Inbound.preRecordConfirmed]) .canceled).run
      { link := Link.create "sensor-1" }).1 =
        ((), some (.ofKind .configurationRejected "configuration rejected by sensor: sensor-1")) ∧
    ((callWith (pushConfiguration { DeviceConfig.default with syncOffset := 7 })
        ([Inbound.captured] ++ .rejected :: [Inbound.preRecordConfirmed]) .canceled).run
      { link := Link.create "sensor-1" }).2.link.config = DeviceConfig.default :=
  have h := ((pushConfiguration_outcomes { DeviceConfig.default with syncOffset := 7 }
    { link := Link.create "sensor-1" }).2 rfl rfl rfl [.captured] [.preRecordConfirmed] .canceled
    (by decide)).1
  ⟨rfl, by decide, h.1, h.2.2.1⟩

end LinkM

end DepthRig
