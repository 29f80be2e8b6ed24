import DepthRig.Proofs.Fleet.Control

/-!
# One recording at a time

Whatever the schedule of calls and drive steps (`Threads`), at most one thread holds the
state machine out of Idle, a refinement runs only in Idle, the sync mode changes only in
Idle, and each session publishes its phases in order. The invariant is `Coherent`, which
counts the threads that hold the state machine, the refinement flag and the session: every
event keeps it, so every run does.
-/

namespace DepthRig.Fleet

open RigM

/-! ## What each thread holds -/

namespace DriveStage

/-- Whether a drive at this stage holds the state machine out of Idle: until it has moved it
back. -/
def holdsPhase : DriveStage → Bool
  | .idling | .finished => false
  | _ => true

/-- Whether a drive at this stage holds the session in progress: until it has closed it. -/
def holdsSession : DriveStage → Bool
  | .closing | .idling | .finished => false
  | _ => true

end DriveStage

namespace Thread

/-- Whether the thread holds the state machine out of Idle: a start from its move until it
hands the recording to a drive or gives up, and a drive until it is back in Idle. -/
def holdsPhase : Thread → Bool
  | .preparing _ _ | .prepared _ | .abandoning => true
  | .drive d => d.stage.holdsPhase
  | _ => false

/-- Whether the thread holds the refinement flag. -/
def holdsFlag : Thread → Bool
  | .refining _ | .refined => true
  | _ => false

/-- Whether the thread's session is the one in progress. -/
def holdsSession : Thread → Bool
  | .drive d => d.stage.holdsSession
  | _ => false

theorem holdsPhase_of_holdsSession {th : Thread} (h : th.holdsSession = true) :
    th.holdsPhase = true := by
  cases th with
  | drive d =>
    simp only [holdsSession, holdsPhase] at h ⊢
    cases hs : d.stage <;> simp_all [DriveStage.holdsSession, DriveStage.holdsPhase]
  | _ => simp [holdsSession] at h

end Thread

/-! ## What a session publishes -/

/-- The phases a session publishes: Recording, then Reconciling if it reconciled, then Saving
if it saved, then Idle once it is over. -/
def publishedPhases (reconciled saved finished : Bool) : List Phase :=
  .recording :: ((if reconciled then [.reconciling] else []) ++ (if saved then [.saving] else []) ++
    (if finished then [.idle] else []))

theorem publishedPhases_saving (reconciled : Bool) :
    publishedPhases reconciled false false ++ [.saving] = publishedPhases reconciled true false := by
  cases reconciled <;> rfl

theorem publishedPhases_idle (reconciled saved : Bool) :
    publishedPhases reconciled saved false ++ [.idle] = publishedPhases reconciled saved true := by
  cases reconciled <;> cases saved <;> rfl

namespace Drive

/-- The drive's choices to reconcile and to save follow its session and the rig: it reconciles
only a hardware recording and saves only when the rig saves (a sink, point-cloud export), and
unless it was cancelled, exactly then. -/
def Chose (d : Drive) (saves reconciled saved : Bool) : Prop :=
  (reconciled = true → d.ongoing.summary.mode = .hardware) ∧ (saved = true → saves = true) ∧
    (d.cancelled = false →
      (reconciled = true ↔ d.ongoing.summary.mode = .hardware) ∧ (saved = saves))

/-- What the drive has published by its stage, on a rig that saves as `saves` says. -/
def Published (d : Drive) (saves : Bool) : Prop :=
  match d.stage with
  | .capturing | .captured => d.announced = [.recording]
  | .reconciling => d.announced = [.recording] ∧ d.ongoing.summary.mode = .hardware
  | .saving => ∃ rec, d.announced = publishedPhases rec false false ∧ d.Chose saves rec true
  | .finishing | .closing | .idling =>
    ∃ rec sav, d.announced = publishedPhases rec sav false ∧ d.Chose saves rec sav
  | .finished => ∃ rec sav, d.announced = publishedPhases rec sav true ∧ d.Chose saves rec sav

/-- A later cancellation leaves what was chosen. -/
theorem Chose.cancel {d : Drive} {saves rec sav : Bool} (h : d.Chose saves rec sav) (b : Bool) :
    Drive.Chose { d with stopped := true, cancelled := d.cancelled || b } saves rec sav := by
  refine ⟨h.1, h.2.1, fun hc => ?_⟩
  exact h.2.2 (Bool.or_eq_false_iff.1 hc).1

end Drive

/-- A rig saves a recording that was not cancelled when it has a sink and exports point clouds. -/
theorem Control.saves_false (c : Control) :
    c.saves false = (c.hasSink && c.config.exportModeOr == .pointcloud) := by
  simp [Control.saves]

/-! ## The invariant -/

/-- The coordinator's threads agree with its control, on a rig that saves finished recordings as
`saves` says. -/
structure Coherent (c : Control) (saves : Bool) (ths : List Thread) : Prop where
  /-- At most one thread holds the state machine out of Idle. -/
  phase_le : ths.countP Thread.holdsPhase ≤ 1
  /-- The state machine is in Idle exactly when no thread holds it. -/
  idle_iff : c.phase = .idle ↔ ths.countP Thread.holdsPhase = 0
  flag_le : ths.countP Thread.holdsFlag ≤ 1
  refining_iff : c.refining = true ↔ ths.countP Thread.holdsFlag = 1
  /-- A refinement and a recording never hold the rig together. -/
  apart : ths.countP Thread.holdsFlag = 0 ∨ ths.countP Thread.holdsPhase = 0
  /-- A session is in progress exactly when a drive holds it. -/
  session_iff : c.inSession = true ↔ ths.countP Thread.holdsSession = 1
  published : ∀ d, Thread.drive d ∈ ths → d.Published saves
  /-- Whether the rig saves finished recordings never changes. -/
  saves_eq : c.saves false = saves

/-! ### Counting holders -/

section Count

variable {ths : List Thread} {i : Nat} {th : Thread}

theorem one_le_countP (hi : ths[i]? = some th) {p : Thread → Bool} (hp : p th = true) :
    1 ≤ ths.countP p :=
  List.countP_pos_iff.2 ⟨th, List.mem_of_getElem? hi, hp⟩

/-- Replacing one thread changes a count by what the two threads add to it. -/
theorem countP_set_add (hi : ths[i]? = some th) (p : Thread → Bool) (th' : Thread) :
    (ths.set i th').countP p + (if p th then 1 else 0) =
      ths.countP p + (if p th' then 1 else 0) := by
  obtain ⟨hlt, rfl⟩ := List.getElem?_eq_some_iff.1 hi
  rw [List.countP_set hlt]
  have hle : (if p ths[i] then 1 else 0) ≤ ths.countP p := by
    split
    · exact one_le_countP hi ‹_›
    · exact Nat.zero_le _
  omega

theorem countP_session_le_phase (ths : List Thread) :
    ths.countP Thread.holdsSession ≤ ths.countP Thread.holdsPhase :=
  List.countP_mono_left fun _ _ h => Thread.holdsPhase_of_holdsSession h

/-- A thread that holds the state machine but no session leaves no session to anyone else. -/
theorem countP_session_lt (hi : ths[i]? = some th) (hP : th.holdsPhase = true)
    (hS : th.holdsSession = false) :
    ths.countP Thread.holdsSession < ths.countP Thread.holdsPhase := by
  have hs := countP_set_add hi Thread.holdsSession .returned
  have hp := countP_set_add hi Thread.holdsPhase .returned
  have hle := countP_session_le_phase (ths.set i .returned)
  rw [hS] at hs
  rw [hP] at hp
  simp only [Thread.holdsSession, Thread.holdsPhase, Bool.false_eq_true, ↓reduceIte] at hs hp
  omega

theorem mem_of_mem_set {d : Drive} {th' : Thread} (h : Thread.drive d ∈ ths.set i th') :
    Thread.drive d ∈ ths ∨ th' = .drive d :=
  (List.mem_or_eq_of_mem_set h).imp id Eq.symm

end Count

namespace Coherent

variable {c c' : Control} {sv : Bool} {ths : List Thread} {i : Nat} {th th' : Thread}

/-- A change of control that keeps what the invariant reads. -/
theorem congr (h : Coherent c sv ths) (hidle : c'.phase = .idle ↔ c.phase = .idle)
    (hr : c'.refining = c.refining) (hs : c'.inSession = c.inSession)
    (hv : c'.saves false = c.saves false) : Coherent c' sv ths where
  phase_le := h.phase_le
  idle_iff := hidle.trans h.idle_iff
  flag_le := h.flag_le
  refining_iff := hr ▸ h.refining_iff
  apart := h.apart
  session_iff := hs ▸ h.session_iff
  published := h.published
  saves_eq := hv.trans h.saves_eq

/-- A thread that takes a step holding what it held, under the same control. -/
theorem replace (h : Coherent c sv ths) (hi : ths[i]? = some th)
    (hP : th'.holdsPhase = th.holdsPhase) (hF : th'.holdsFlag = th.holdsFlag)
    (hS : th'.holdsSession = th.holdsSession)
    (hD : ∀ d, th' = .drive d → d.Published sv) :
    Coherent c sv (ths.set i th') := by
  have hp := countP_set_add hi Thread.holdsPhase th'
  have hf := countP_set_add hi Thread.holdsFlag th'
  have hs := countP_set_add hi Thread.holdsSession th'
  rw [hP] at hp
  rw [hF] at hf
  rw [hS] at hs
  have := h.phase_le
  have := h.flag_le
  have := h.apart
  refine ⟨by omega, ?_, by omega, ?_, by omega, ?_, ?_, h.saves_eq⟩
  · rw [h.idle_iff]
    omega
  · rw [h.refining_iff]
    omega
  · rw [h.session_iff]
    omega
  · intro d hd
    rcases mem_of_mem_set hd with hd | hd
    · exact h.published d hd
    · exact hD d hd

theorem flag_eq_zero (h : Coherent c sv ths) (hr : c.refining = false) :
    ths.countP Thread.holdsFlag = 0 := by
  have hle := h.flag_le
  have hne : ¬ths.countP Thread.holdsFlag = 1 := by
    rw [← h.refining_iff, hr]
    decide
  omega

/-- The holder of the state machine is the only one. -/
theorem phase_eq_one (h : Coherent c sv ths) (hi : ths[i]? = some th) (hP : th.holdsPhase = true) :
    ths.countP Thread.holdsPhase = 1 :=
  Nat.le_antisymm h.phase_le (one_le_countP hi hP)

theorem phase_ne_idle (h : Coherent c sv ths) (hi : ths[i]? = some th) (hP : th.holdsPhase = true) :
    c.phase ≠ .idle := by
  rw [Ne, h.idle_iff, h.phase_eq_one hi hP]
  decide

theorem inSession_of_holds (h : Coherent c sv ths) (hi : ths[i]? = some th)
    (hS : th.holdsSession = true) : c.inSession = true := by
  have hle := countP_session_le_phase ths
  have := h.phase_le
  exact h.session_iff.2 (Nat.le_antisymm (by omega) (one_le_countP hi hS))

/-- While a thread holds the state machine, it moves only between busy phases. -/
theorem busy (h : Coherent c sv ths) (hi : ths[i]? = some th) (hP : th.holdsPhase = true) {p : Phase}
    (hp : p ≠ .idle) : Coherent { c with phase := p } sv ths :=
  h.congr (iff_of_false hp (h.phase_ne_idle hi hP)) rfl rfl rfl

/-- A new thread that holds nothing. -/
theorem append (h : Coherent c sv ths) (hP : th.holdsPhase = false) (hF : th.holdsFlag = false)
    (hS : th.holdsSession = false) (hD : ∀ d, th ≠ .drive d) : Coherent c sv (ths ++ [th]) := by
  have hp : (ths ++ [th]).countP Thread.holdsPhase = ths.countP Thread.holdsPhase := by simp [hP]
  have hf : (ths ++ [th]).countP Thread.holdsFlag = ths.countP Thread.holdsFlag := by simp [hF]
  have hs : (ths ++ [th]).countP Thread.holdsSession = ths.countP Thread.holdsSession := by
    simp [hS]
  refine ⟨hp ▸ h.phase_le, hp ▸ h.idle_iff, hf ▸ h.flag_le, hf ▸ h.refining_iff,
    hf ▸ hp ▸ h.apart, hs ▸ h.session_iff, fun d hd => ?_, h.saves_eq⟩
  rcases List.mem_append.1 hd with hd | hd
  · exact h.published d hd
  · exact absurd (List.mem_singleton.1 hd) (hD d).symm

/-- A drive's step that holds what the drive held. -/
theorem driveQuiet {d d' : Drive} (h : Coherent c sv ths) (hi : ths[i]? = some (.drive d))
    (hP : d'.stage.holdsPhase = d.stage.holdsPhase)
    (hS : d'.stage.holdsSession = d.stage.holdsSession) (hpub : d'.Published sv) :
    Coherent c sv (ths.set i (.drive d')) :=
  h.replace hi hP rfl hS fun _ he => by
    cases he
    exact hpub

/-- While a refinement holds the flag, the state machine is in Idle. -/
theorem idle_of_holdsFlag (h : Coherent c sv ths) (hth : th ∈ ths) (hF : th.holdsFlag = true) :
    c.phase = .idle := by
  have hpos : 0 < ths.countP Thread.holdsFlag := List.countP_pos_iff.2 ⟨th, hth, hF⟩
  rcases h.apart with h0 | h0
  · omega
  · exact h.idle_iff.2 h0

/-- A thread that holds the state machine but no session leaves no session in progress. -/
theorem not_inSession (h : Coherent c sv ths) (hi : ths[i]? = some th) (hP : th.holdsPhase = true)
    (hS : th.holdsSession = false) : c.inSession = false := by
  have hlt := countP_session_lt hi hP hS
  have := h.phase_le
  cases hs : c.inSession
  · rfl
  · have := h.session_iff.1 hs
    omega

/-! ### Each move of the control -/

/-- A start moves the state machine from Idle to Recording and holds it. -/
theorem start {m : SyncMode} {ids : List Nat} (h : Coherent c sv ths)
    (hi : ths[i]? = some (.admitted m ids)) (hidle : c.phase = .idle) (hr : c.refining = false) :
    Coherent { c with phase := .recording } sv (ths.set i (.preparing m ids)) := by
  have hp := countP_set_add hi Thread.holdsPhase (.preparing m ids)
  have hf := countP_set_add hi Thread.holdsFlag (.preparing m ids)
  have hs := countP_set_add hi Thread.holdsSession (.preparing m ids)
  simp only [Thread.holdsPhase, Thread.holdsFlag, Thread.holdsSession, Bool.false_eq_true,
    ↓reduceIte] at hp hf hs
  have h0 := h.idle_iff.1 hidle
  have hf0 := h.flag_eq_zero hr
  refine ⟨by omega, ?_, by omega, ?_, by omega, ?_, ?_, h.saves_eq⟩
  · simp only [reduceCtorEq, false_iff]
    omega
  · rw [h.refining_iff]
    omega
  · rw [h.session_iff]
    omega
  · intro d hd
    rcases mem_of_mem_set hd with hd | hd
    · exact h.published d hd
    · cases hd

/-- A prepared start opens its session and hands the state machine to the session's drive. -/
theorem openSession {o : Recording} (h : Coherent c sv ths) (hi : ths[i]? = some (.prepared o)) :
    Coherent { c with inSession := true } sv (ths.set i .returned ++ [.drive { ongoing := o }]) := by
  have hp := countP_set_add hi Thread.holdsPhase .returned
  have hf := countP_set_add hi Thread.holdsFlag .returned
  have hs := countP_set_add hi Thread.holdsSession .returned
  have hlt := countP_session_lt hi rfl rfl
  simp only [Thread.holdsPhase, Thread.holdsFlag, Thread.holdsSession, Bool.false_eq_true,
    ↓reduceIte] at hp hf hs
  have h1 := h.phase_eq_one hi rfl
  have := h.flag_le
  have := h.apart
  -- the drive starts out capturing: it holds the state machine and the session
  have hp' : (ths.set i .returned ++ [Thread.drive { ongoing := o }]).countP Thread.holdsPhase =
      (ths.set i .returned).countP Thread.holdsPhase + 1 := by
    simp [Thread.holdsPhase, DriveStage.holdsPhase]
  have hf' : (ths.set i .returned ++ [Thread.drive { ongoing := o }]).countP Thread.holdsFlag =
      (ths.set i .returned).countP Thread.holdsFlag := by
    simp [Thread.holdsFlag]
  have hs' : (ths.set i .returned ++ [Thread.drive { ongoing := o }]).countP Thread.holdsSession =
      (ths.set i .returned).countP Thread.holdsSession + 1 := by
    simp [Thread.holdsSession, DriveStage.holdsSession]
  refine ⟨by rw [hp']; omega, ?_, by rw [hf']; omega, ?_, by rw [hf']; omega,
    by rw [hs']; simp only [true_iff]; omega, ?_, h.saves_eq⟩
  · rw [h.idle_iff, hp']
    omega
  · rw [hf', h.refining_iff]
    omega
  · intro d hd
    rcases List.mem_append.1 hd with hd | hd
    · rcases mem_of_mem_set hd with hd | hd
      · exact h.published d hd
      · cases hd
    · cases List.mem_singleton.1 hd
      rfl

/-- A start whose preparation failed gives the state machine back to Idle. -/
theorem abandon (h : Coherent c sv ths) (hi : ths[i]? = some .abandoning) :
    Coherent { c with phase := .idle } sv (ths.set i .abandoned) := by
  have hp := countP_set_add hi Thread.holdsPhase .abandoned
  have hf := countP_set_add hi Thread.holdsFlag .abandoned
  have hs := countP_set_add hi Thread.holdsSession .abandoned
  simp only [Thread.holdsPhase, Thread.holdsFlag, Thread.holdsSession, Bool.false_eq_true,
    ↓reduceIte] at hp hf hs
  have h1 := h.phase_eq_one hi rfl
  have := h.flag_le
  refine ⟨by omega, by simp only [true_iff]; omega, by omega, ?_, by omega, ?_, ?_, h.saves_eq⟩
  · rw [h.refining_iff]
    omega
  · rw [h.session_iff]
    omega
  · intro d hd
    rcases mem_of_mem_set hd with hd | hd
    · exact h.published d hd
    · cases hd

/-- A refinement takes the flag, in Idle with no other refinement running. -/
theorem takeFlag {ids : List Nat} (h : Coherent c sv ths) (hi : ths[i]? = some .refineCalled)
    (hidle : c.phase = .idle) (hr : c.refining = false) :
    Coherent { c with refining := true } sv (ths.set i (.refining ids)) := by
  have hp := countP_set_add hi Thread.holdsPhase (.refining ids)
  have hf := countP_set_add hi Thread.holdsFlag (.refining ids)
  have hs := countP_set_add hi Thread.holdsSession (.refining ids)
  simp only [Thread.holdsPhase, Thread.holdsFlag, Thread.holdsSession, Bool.false_eq_true,
    ↓reduceIte] at hp hf hs
  have h0 := h.idle_iff.1 hidle
  have hf0 := h.flag_eq_zero hr
  refine ⟨by omega, ?_, by omega, by simp only [true_iff]; omega, by omega, ?_, ?_, h.saves_eq⟩
  · rw [h.idle_iff]
    omega
  · rw [h.session_iff]
    omega
  · intro d hd
    rcases mem_of_mem_set hd with hd | hd
    · exact h.published d hd
    · cases hd

/-- A refinement drops the flag. -/
theorem dropFlag (h : Coherent c sv ths) (hi : ths[i]? = some .refined) :
    Coherent { c with refining := false } sv (ths.set i .returned) := by
  have hp := countP_set_add hi Thread.holdsPhase .returned
  have hf := countP_set_add hi Thread.holdsFlag .returned
  have hs := countP_set_add hi Thread.holdsSession .returned
  simp only [Thread.holdsPhase, Thread.holdsFlag, Thread.holdsSession, Bool.false_eq_true,
    ↓reduceIte] at hp hf hs
  have := h.flag_le
  have := h.phase_le
  refine ⟨by omega, ?_, by omega, by simp only [Bool.false_eq_true, false_iff]; omega, by omega,
    ?_, ?_, h.saves_eq⟩
  · rw [h.idle_iff]
    omega
  · rw [h.session_iff]
    omega
  · intro d hd
    rcases mem_of_mem_set hd with hd | hd
    · exact h.published d hd
    · cases hd

/-- A drive closes its session. -/
theorem closeSession {d d' : Drive} (h : Coherent c sv ths) (hi : ths[i]? = some (.drive d))
    (hd : d.stage = .finishing) (hd' : d'.stage = .closing) (hpub : d'.Published sv) :
    Coherent { c with inSession := false } sv (ths.set i (.drive d')) := by
  have hp := countP_set_add hi Thread.holdsPhase (.drive d')
  have hf := countP_set_add hi Thread.holdsFlag (.drive d')
  have hs := countP_set_add hi Thread.holdsSession (.drive d')
  simp only [Thread.holdsPhase, Thread.holdsFlag, Thread.holdsSession, DriveStage.holdsPhase,
    DriveStage.holdsSession, hd, hd', Bool.false_eq_true, ↓reduceIte] at hp hf hs
  have hle := countP_session_le_phase ths
  have := h.phase_le
  have := h.flag_le
  have := h.apart
  have hone : 1 ≤ ths.countP Thread.holdsSession :=
    one_le_countP hi (by simp [Thread.holdsSession, DriveStage.holdsSession, hd])
  refine ⟨by omega, ?_, by omega, ?_, by omega, by simp only [Bool.false_eq_true, false_iff]; omega,
    ?_, h.saves_eq⟩
  · rw [h.idle_iff]
    omega
  · rw [h.refining_iff]
    omega
  · intro e he
    rcases mem_of_mem_set he with he | he
    · exact h.published e he
    · cases he
      exact hpub

/-- A drive moves the state machine back to Idle. -/
theorem returnIdle {d d' : Drive} (h : Coherent c sv ths) (hi : ths[i]? = some (.drive d))
    (hd : d.stage = .closing) (hd' : d'.stage = .idling) (hpub : d'.Published sv) :
    Coherent { c with phase := .idle } sv (ths.set i (.drive d')) := by
  have hp := countP_set_add hi Thread.holdsPhase (.drive d')
  have hf := countP_set_add hi Thread.holdsFlag (.drive d')
  have hs := countP_set_add hi Thread.holdsSession (.drive d')
  simp only [Thread.holdsPhase, Thread.holdsFlag, Thread.holdsSession, DriveStage.holdsPhase,
    DriveStage.holdsSession, hd, hd', Bool.false_eq_true, ↓reduceIte] at hp hf hs
  have h1 := h.phase_eq_one hi (by simp [Thread.holdsPhase, DriveStage.holdsPhase, hd])
  have := h.flag_le
  refine ⟨by omega, by simp only [true_iff]; omega, by omega, ?_, by omega, ?_, ?_, h.saves_eq⟩
  · rw [h.refining_iff]
    omega
  · rw [h.session_iff]
    omega
  · intro e he
    rcases mem_of_mem_set he with he | he
    · exact h.published e he
    · cases he
      exact hpub

end Coherent

/-! ## What each step does -/

namespace Drive

/-- What a drive's step keeps: its session's sync mode, and whether it was cancelled. -/
structure Follows (d' d : Drive) : Prop where
  mode : d'.ongoing.summary.mode = d.ongoing.summary.mode
  cancelled : d'.cancelled = d.cancelled

theorem Chose.follow {d d' : Drive} {saves rec sav : Bool} (h : d.Chose saves rec sav)
    (hf : d'.Follows d) : d'.Chose saves rec sav := by
  obtain ⟨h1, h2, h3⟩ := h
  rw [← hf.mode] at h1 h3
  rw [← hf.cancelled] at h3
  exact ⟨h1, h2, h3⟩

variable {d : Drive} (r : Rig)

/-- Capturing goes on, or ends once the drive is stopped or no sensor is left; a network round
records the recording as it now stands. -/
theorem step_capturing (hs : d.stage = .capturing) :
    ((d.step.run r).1.stage = .capturing ∨ (d.step.run r).1.stage = .captured) ∧
      (d.step.run r).1.announced = d.announced ∧ (d.step.run r).1.Follows d ∧
      ((d.step.run r).2.control = r.control ∨
        (d.step.run r).2.control = { r.control with inSession := true }) := by
  unfold Drive.step
  simp only [hs]
  split
  · exact ⟨.inr rfl, rfl, ⟨rfl, rfl⟩, .inl rfl⟩
  split
  · obtain ⟨hmode, hc, -⟩ := Keeps.networkRound d.ongoing r
    refine ⟨?_, rfl, ⟨hmode, rfl⟩, .inr ?_⟩
    · simp only [run_bind, run_modify, run_pure]
      split <;> simp
    · rw [← hc]
      rfl
  · exact ⟨.inl hs, rfl, ⟨rfl, rfl⟩, .inl rfl⟩

/-- Once capturing has ended, the drive enters Reconciling when its recording reconciles, else
Saving when the rig saves, else goes on to close the session. -/
theorem step_captured (hs : d.stage = .captured) :
    (d.step.run r).1.announced = d.announced ∧ (d.step.run r).1.Follows d ∧
      ((d.step.run r).1.stage = .reconciling ∧ d.ongoing.reconciles d.cancelled = true ∧
          (d.step.run r).2.control = { r.control with phase := .reconciling } ∨
        (d.step.run r).1.stage = .saving ∧ d.ongoing.reconciles d.cancelled = false ∧
          r.control.saves d.cancelled = true ∧
          (d.step.run r).2.control = { r.control with phase := .saving } ∨
        (d.step.run r).1.stage = .finishing ∧ d.ongoing.reconciles d.cancelled = false ∧
          r.control.saves d.cancelled = false ∧ (d.step.run r).2.control = r.control) := by
  unfold Drive.step
  simp only [hs, run_bind]
  obtain ⟨hmode, hc, -⟩ := Keeps.endCapture d.ongoing r
  generalize (endCapture d.ongoing).run r = res at hmode hc ⊢
  obtain ⟨o, r₁⟩ := res
  dsimp only at hmode hc
  -- the recording after capturing is still the session's: it reconciles as it did
  have hrec : o.reconciles d.cancelled = d.ongoing.reconciles d.cancelled := by
    simp only [Recording.reconciles, hmode]
  unfold postProcess
  split
  · next h =>
    refine ⟨rfl, ⟨hmode, rfl⟩, .inl ⟨rfl, hrec ▸ h, ?_⟩⟩
    show ({ r₁ with phase := .reconciling } : Rig).control = _
    rw [← hc]
    rfl
  · next h =>
    simp only [run_get_bind]
    rw [Rig.saves_eq, hc]
    split
    · next hsave =>
      refine ⟨rfl, ⟨hmode, rfl⟩, .inr (.inl ⟨rfl, ?_, hsave, ?_⟩)⟩
      · simpa [hrec] using h
      · show ({ r₁ with phase := .saving } : Rig).control = _
        rw [← hc]
        rfl
    · next hsave =>
      refine ⟨rfl, ⟨hmode, rfl⟩, .inr (.inr ⟨rfl, ?_, by simpa using hsave, hc⟩)⟩
      simpa [hrec] using h

/-- In Reconciling, the phase is announced and the stored frames reconciled; the drive then
enters Saving when the rig saves, else goes on to close the session. -/
theorem step_reconciling (hs : d.stage = .reconciling) :
    (d.step.run r).1.announced = d.announced ++ [.reconciling] ∧ (d.step.run r).1.Follows d ∧
      ((d.step.run r).1.stage = .saving ∧ r.control.saves d.cancelled = true ∧
          (d.step.run r).2.control = { r.control with phase := .saving } ∨
        (d.step.run r).1.stage = .finishing ∧ r.control.saves d.cancelled = false ∧
          (d.step.run r).2.control = r.control) := by
  unfold Drive.step
  simp only [hs]
  rw [run_bind, run_bind]
  simp only [run_get_bind]
  have ha := Keeps.announce .reconciling r
  obtain ⟨hmode, hc, -⟩ := Keeps.reconcileRecording d.ongoing ((announce .reconciling).run r).2
  generalize (announce .reconciling).run r = ra at ha hc hmode ⊢
  generalize (reconcileRecording d.ongoing).run ra.2 = res at hmode hc ⊢
  obtain ⟨o, r₁⟩ := res
  dsimp only at hmode hc
  have hc₁ : r₁.control = r.control := hc.trans ha
  rw [Rig.saves_eq, hc₁]
  split
  · next hsave =>
    refine ⟨rfl, ⟨hmode, rfl⟩, .inl ⟨rfl, hsave, ?_⟩⟩
    show ({ r₁ with phase := .saving } : Rig).control = _
    rw [← hc₁]
    rfl
  · next hsave => exact ⟨rfl, ⟨hmode, rfl⟩, .inr ⟨rfl, by simpa using hsave, hc₁⟩⟩

/-- In Saving, the phase is announced and the stored frames saved; the session is closed next. -/
theorem step_saving (hs : d.stage = .saving) :
    (d.step.run r).1.stage = .finishing ∧ (d.step.run r).1.announced = d.announced ++ [.saving] ∧
      (d.step.run r).1.Follows d ∧ (d.step.run r).2.control = r.control := by
  unfold Drive.step
  simp only [hs, run_bind]
  obtain ⟨hmode, hc, -⟩ := Keeps.saveRecording d.ongoing ((announce .saving).run r).2
  exact ⟨rfl, rfl, ⟨hmode, rfl⟩, hc.trans (Keeps.announce .saving r)⟩

theorem step_finishing (hs : d.stage = .finishing) :
    (d.step.run r).1 = { d with stage := .closing } ∧
      (d.step.run r).2.control = { r.control with inSession := false } := by
  unfold Drive.step
  simp only [hs, run_bind]
  exact ⟨rfl, (closeSession_control r d.ongoing).1⟩

theorem step_closing (hs : d.stage = .closing) :
    d.step.run r = ({ d with stage := .idling }, { r with phase := .idle }) := by
  unfold Drive.step
  simp only [hs]
  rfl

theorem step_idling (hs : d.stage = .idling) :
    (d.step.run r).1 = { d with stage := .finished, announced := d.announced ++ [.idle] } ∧
      (d.step.run r).2.control = r.control := by
  unfold Drive.step
  simp only [hs]
  exact ⟨rfl, rfl⟩

theorem step_finished (hs : d.stage = .finished) : d.step.run r = (d, r) := by
  unfold Drive.step
  simp only [hs]
  rfl

/-! ### What a drive has published -/

theorem saves_false_of_saves {c : Control} {b : Bool} (h : c.saves b = true) :
    c.saves false = true := by
  cases b <;> simp_all [Control.saves]

/-- A drive that reconciled chose so for a hardware recording, and saves as the rig decided. -/
theorem chose_reconciled {c : Control} {sav : Bool} (hw : d.ongoing.summary.mode = .hardware)
    (hsav : c.saves d.cancelled = sav) : d.Chose (c.saves false) true sav := by
  refine ⟨fun _ => hw, fun h => saves_false_of_saves (hsav ▸ h), fun hc => ⟨iff_of_true rfl hw, ?_⟩⟩
  rw [← hsav, hc]

/-- A drive that did not reconcile decided so, and saves as the rig decided. -/
theorem chose_unreconciled {c : Control} {sav : Bool} (hrec : d.ongoing.reconciles d.cancelled = false)
    (hsav : c.saves d.cancelled = sav) : d.Chose (c.saves false) false sav := by
  refine ⟨fun h => absurd h Bool.false_ne_true, fun h => saves_false_of_saves (hsav ▸ h),
    fun hc => ⟨?_, ?_⟩⟩
  · simp only [Recording.reconciles, hc, Bool.not_false, Bool.and_true, beq_eq_false_iff_ne] at hrec
    simp [hrec]
  · rw [← hsav, hc]

/-- A drive's step keeps what it has published in line with its stage. -/
theorem published_step {d : Drive} {r : Rig} (h : d.Published (r.control.saves false)) :
    (d.step.run r).1.Published (r.control.saves false) := by
  cases hs : d.stage with
  | capturing =>
    obtain ⟨hst, hann, -, -⟩ := step_capturing r hs
    simp only [Published, hs] at h
    rcases hst with hst | hst <;> simp only [Published, hst, hann, h]
  | captured =>
    obtain ⟨hann, hf, hcase⟩ := step_captured r hs
    simp only [Published, hs] at h
    rcases hcase with ⟨hst, hrec, -⟩ | ⟨hst, hrec, hsave, -⟩ | ⟨hst, hrec, hsave, -⟩
    · -- a hardware recording, not cancelled, reconciles
      simp only [Published, hst, hann, h, true_and, hf.mode]
      simp only [Recording.reconciles, Bool.and_eq_true, beq_iff_eq] at hrec
      exact hrec.1
    · simp only [Published, hst, hann, h]
      exact ⟨false, rfl, (chose_unreconciled hrec hsave).follow hf⟩
    · simp only [Published, hst, hann, h]
      exact ⟨false, false, rfl, (chose_unreconciled hrec hsave).follow hf⟩
  | reconciling =>
    obtain ⟨hann, hf, hcase⟩ := step_reconciling r hs
    simp only [Published, hs] at h
    rcases hcase with ⟨hst, hsave, -⟩ | ⟨hst, hsave, -⟩
    · simp only [Published, hst, hann, h.1]
      exact ⟨true, rfl, (chose_reconciled h.2 hsave).follow hf⟩
    · simp only [Published, hst, hann, h.1]
      exact ⟨true, false, rfl, (chose_reconciled h.2 hsave).follow hf⟩
  | saving =>
    obtain ⟨hst, hann, hf, -⟩ := step_saving r hs
    simp only [Published, hs] at h
    obtain ⟨rec, hrec, hch⟩ := h
    simp only [Published, hst, hann, hrec]
    exact ⟨rec, true, publishedPhases_saving rec, hch.follow hf⟩
  | finishing =>
    rw [(step_finishing r hs).1]
    simp only [Published, hs] at h
    exact h
  | closing =>
    rw [step_closing r hs]
    simp only [Published, hs] at h
    exact h
  | idling =>
    rw [(step_idling r hs).1]
    simp only [Published, hs] at h
    obtain ⟨rec, sav, hann, hch⟩ := h
    simp only [Published]
    exact ⟨rec, sav, by rw [hann, publishedPhases_idle], hch⟩
  | finished =>
    rw [step_finished r hs]
    exact h

end Drive

namespace Thread

variable (r : Rig)

/-- A start's checks change nothing; it returns refused, or admitted with its mode and
sensors. -/
theorem step_starting :
    ∃ th', Thread.starting.step.run r = ((th', []), r) ∧
      (th' = .returned ∨ ∃ m ids, th' = .admitted m ids) := by
  simp only [Thread.step, run_bind]
  rw [admitRecording_rig]
  split
  · exact ⟨_, rfl, .inl rfl⟩
  · exact ⟨_, rfl, .inr ⟨_, _, rfl⟩⟩

/-- A start's move from Idle to Recording is refused, changing nothing, or made. -/
theorem step_admitted (m : SyncMode) (ids : List Nat) :
    (Thread.admitted m ids).step.run r = ((.returned, []), r) ∨
      (r.phase = .idle ∧ r.refining = false ∧
        (Thread.admitted m ids).step.run r = ((.preparing m ids, []), { r with phase := .recording })) := by
  rcases transition_cases r .idle .recording with ⟨f, hf⟩ | ⟨hp, hr, ht⟩
  · left
    simp only [Thread.step, run_bind, hf]
    rfl
  · right
    refine ⟨hp, hr, ?_⟩
    simp only [Thread.step, run_bind, ht]
    rfl

/-- A start announces Recording and prepares the sensors: prepared, or to give up. -/
theorem step_preparing (m : SyncMode) (ids : List Nat) :
    ((Thread.preparing m ids).step.run r).1.2 = [] ∧
      (((Thread.preparing m ids).step.run r).1.1 = .abandoning ∨
        ∃ o, ((Thread.preparing m ids).step.run r).1.1 = .prepared o) ∧
      ((Thread.preparing m ids).step.run r).2.control = r.control := by
  simp only [Thread.step, run_bind]
  have hc := (Keeps.prepareRecording m ids).control ((announce .recording).run r).2
  rw [Keeps.announce] at hc
  generalize (prepareRecording m ids).run ((announce .recording).run r).2 = res at hc ⊢
  obtain ⟨res, r₁⟩ := res
  cases res with
  | error _ => exact ⟨rfl, .inl rfl, hc⟩
  | ok o => exact ⟨rfl, .inr ⟨o, rfl⟩, hc⟩

theorem step_prepared (o : Recording) :
    (Thread.prepared o).step.run r =
      ((.returned, [.drive { ongoing := o }]), { r with recording := some o }) := rfl

theorem step_abandoning : Thread.abandoning.step.run r = ((.abandoned, []), { r with phase := .idle }) :=
  rfl

theorem step_abandoned :
    (Thread.abandoned.step.run r).1 = (.returned, []) ∧
      (Thread.abandoned.step.run r).2.control = r.control :=
  ⟨rfl, rfl⟩

theorem step_drive (d : Drive) :
    (Thread.drive d).step.run r = ((.drive (d.step.run r).1, []), (d.step.run r).2) := rfl

/-- A refinement's checks either refuse it, changing nothing under the lock, or take the
refinement flag, in Idle with no other refinement running. -/
theorem step_refineCalled :
    (Thread.refineCalled.step.run r).1 = (.returned, []) ∧
        (Thread.refineCalled.step.run r).2.control = r.control ∨
      ∃ ids, (Thread.refineCalled.step.run r).1 = (.refining ids, []) ∧ r.phase = .idle ∧
        r.refining = false ∧
        (Thread.refineCalled.step.run r).2.control = { r.control with refining := true } := by
  simp only [Thread.step]
  rw [run_bind]
  have hc₁ := Keeps.requirePointcloud.control r
  generalize requirePointcloud.run r = res at hc₁ ⊢
  obtain ⟨pc, r₁⟩ := res
  dsimp only at hc₁ ⊢
  split
  · exact .inl ⟨rfl, hc₁⟩
  rw [run_bind]
  have hc₂ := Keeps.liveOrFail.control r₁
  generalize liveOrFail.run r₁ = res at hc₂ ⊢
  obtain ⟨live, r₂⟩ := res
  dsimp only at hc₂ ⊢
  split
  · exact .inl ⟨rfl, hc₂.trans hc₁⟩
  rw [run_bind]
  rcases beginRefine_cases r₂ with ⟨f, hf⟩ | ⟨hp, hr, hb⟩
  · rw [hf]
    exact .inl ⟨rfl, hc₂.trans hc₁⟩
  · rw [hb]
    have hc : r₂.control = r.control := hc₂.trans hc₁
    refine .inr ⟨_, rfl, ?_, ?_, ?_⟩
    · rw [← Rig.control_phase, ← hc]
      exact hp
    · rw [← Rig.control_refining, ← hc]
      exact hr
    · show ({ r₂ with refining := true } : Rig).control = _
      rw [← hc]
      rfl

theorem step_refining (ids : List Nat) :
    ((Thread.refining ids).step.run r).1 = (.refined, []) ∧
      ((Thread.refining ids).step.run r).2.control = r.control :=
  ⟨rfl, (Keeps.refineOn ids).control r⟩

theorem step_refined : Thread.refined.step.run r = ((.returned, []), { r with refining := false }) :=
  rfl

theorem step_returned : Thread.returned.step.run r = ((.returned, []), r) := rfl

end Thread

/-- A later cancellation leaves what a drive has published. -/
theorem Drive.Published.cancel {d : Drive} {saves : Bool} (h : d.Published saves) (b : Bool) :
    Drive.Published { d with stopped := true, cancelled := d.cancelled || b } saves := by
  unfold Drive.Published at h ⊢
  cases hs : d.stage <;> simp only [hs] at h ⊢
  case saving =>
    obtain ⟨rec, hann, hch⟩ := h
    exact ⟨rec, hann, hch.cancel b⟩
  case finishing | closing | idling | finished =>
    obtain ⟨rec, sav, hann, hch⟩ := h
    exact ⟨rec, sav, hann, hch.cancel b⟩
  all_goals exact h

/-! ## Every event keeps the invariant -/

/-- Each drive's step keeps the invariant: within its session it moves only between busy
phases, then closes the session, then gives the state machine back to Idle. -/
theorem Coherent.driveStep {r : Rig} {sv : Bool} {ths : List Thread} {i : Nat} {d : Drive}
    (h : Coherent r.control sv ths) (hi : ths[i]? = some (.drive d)) :
    Coherent (d.step.run r).2.control sv (ths.set i (.drive (d.step.run r).1)) := by
  have hpub : (d.step.run r).1.Published sv := by
    have hd := h.published d (List.mem_of_getElem? hi)
    rw [← h.saves_eq] at hd ⊢
    exact Drive.published_step hd
  cases hs : d.stage with
  | capturing =>
    obtain ⟨hst, -, -, hc⟩ := Drive.step_capturing r hs
    have hq : Coherent r.control sv (ths.set i (.drive (d.step.run r).1)) := h.driveQuiet hi
      (by rcases hst with hst | hst <;> simp [hst, hs, DriveStage.holdsPhase])
      (by rcases hst with hst | hst <;> simp [hst, hs, DriveStage.holdsSession]) hpub
    -- a network round records the session that was already in progress
    have hsess := h.inSession_of_holds hi (by simp [Thread.holdsSession, hs, DriveStage.holdsSession])
    rcases hc with hc | hc <;> rw [hc]
    · exact hq
    · exact hq.congr Iff.rfl rfl hsess.symm rfl
  | captured =>
    obtain ⟨-, -, hcase⟩ := Drive.step_captured r hs
    have hP : (Thread.drive d).holdsPhase = true := by simp [Thread.holdsPhase, hs, DriveStage.holdsPhase]
    rcases hcase with ⟨hst, -, hc⟩ | ⟨hst, -, -, hc⟩ | ⟨hst, -, -, hc⟩ <;> rw [hc]
    · exact (h.busy hi hP (by decide)).driveQuiet hi (by simp [hst, hs, DriveStage.holdsPhase])
        (by simp [hst, hs, DriveStage.holdsSession]) hpub
    · exact (h.busy hi hP (by decide)).driveQuiet hi (by simp [hst, hs, DriveStage.holdsPhase])
        (by simp [hst, hs, DriveStage.holdsSession]) hpub
    · exact h.driveQuiet hi (by simp [hst, hs, DriveStage.holdsPhase])
        (by simp [hst, hs, DriveStage.holdsSession]) hpub
  | reconciling =>
    obtain ⟨-, -, hcase⟩ := Drive.step_reconciling r hs
    have hP : (Thread.drive d).holdsPhase = true := by simp [Thread.holdsPhase, hs, DriveStage.holdsPhase]
    rcases hcase with ⟨hst, -, hc⟩ | ⟨hst, -, hc⟩ <;> rw [hc]
    · exact (h.busy hi hP (by decide)).driveQuiet hi (by simp [hst, hs, DriveStage.holdsPhase])
        (by simp [hst, hs, DriveStage.holdsSession]) hpub
    · exact h.driveQuiet hi (by simp [hst, hs, DriveStage.holdsPhase])
        (by simp [hst, hs, DriveStage.holdsSession]) hpub
  | saving =>
    obtain ⟨hst, -, -, hc⟩ := Drive.step_saving r hs
    rw [hc]
    exact h.driveQuiet hi (by simp [hst, hs, DriveStage.holdsPhase])
      (by simp [hst, hs, DriveStage.holdsSession]) hpub
  | finishing =>
    obtain ⟨hd', hc⟩ := Drive.step_finishing r hs
    rw [hc]
    exact h.closeSession hi hs (by rw [hd']) hpub
  | closing =>
    have hrun := Drive.step_closing r hs
    have hpub' := hpub
    rw [hrun] at hpub' ⊢
    exact h.returnIdle hi hs rfl hpub'
  | idling =>
    obtain ⟨hd', hc⟩ := Drive.step_idling r hs
    rw [hc]
    exact h.driveQuiet hi (by simp [hd', hs, DriveStage.holdsPhase])
      (by simp [hd', hs, DriveStage.holdsSession]) hpub
  | finished =>
    have hrun := Drive.step_finished r hs
    have hpub' := hpub
    rw [hrun] at hpub' ⊢
    exact h.driveQuiet hi rfl rfl hpub'

instance : Inhabited Thread := ⟨.returned⟩

namespace Threads

variable {t : Threads} {sv : Bool}

theorem advance_eq {i : Nat} {th : Thread} (hi : t.threads[i]? = some th) :
    t.advance i = { rig := (th.step.run t.rig).2,
                    threads := t.threads.set i (th.step.run t.rig).1.1 ++ (th.step.run t.rig).1.2 } := by
  simp only [advance, hi]
  rfl

theorem advance_of_none {i : Nat} (hi : t.threads[i]? = none) : t.advance i = t := by
  simp only [advance, hi]

/-- Every thread's step keeps the invariant. -/
theorem coherent_advance (h : Coherent t.rig.control sv t.threads) (i : Nat) :
    Coherent (t.advance i).rig.control sv (t.advance i).threads := by
  cases hi : t.threads[i]? with
  | none =>
    rw [advance_of_none hi]
    exact h
  | some th =>
    rw [advance_eq hi]
    cases th with
    | starting =>
      obtain ⟨th', hrun, hth'⟩ := Thread.step_starting t.rig
      rw [hrun, List.append_nil]
      rcases hth' with rfl | ⟨m, ids, rfl⟩ <;>
        exact h.replace hi rfl rfl rfl fun _ hd => by cases hd
    | admitted m ids =>
      rcases Thread.step_admitted t.rig m ids with hrun | ⟨hp, hr, hrun⟩ <;>
        rw [hrun, List.append_nil]
      · exact h.replace hi rfl rfl rfl fun _ hd => by cases hd
      · exact h.start hi hp hr
    | preparing m ids =>
      obtain ⟨hsp, hth', hc⟩ := Thread.step_preparing t.rig m ids
      rw [hsp, hc, List.append_nil]
      rcases hth' with hth' | ⟨o, hth'⟩ <;> rw [hth'] <;>
        exact h.replace hi rfl rfl rfl fun _ hd => by cases hd
    | prepared o =>
      rw [Thread.step_prepared]
      exact h.openSession hi
    | abandoning =>
      rw [Thread.step_abandoning, List.append_nil]
      exact h.abandon hi
    | abandoned =>
      obtain ⟨hrun, hc⟩ := Thread.step_abandoned t.rig
      rw [hrun, hc, List.append_nil]
      exact h.replace hi rfl rfl rfl fun _ hd => by cases hd
    | drive d =>
      rw [Thread.step_drive, List.append_nil]
      exact h.driveStep hi
    | refineCalled =>
      rcases Thread.step_refineCalled t.rig with ⟨hrun, hc⟩ | ⟨ids, hrun, hp, hr, hc⟩ <;>
        rw [hrun, hc, List.append_nil]
      · exact h.replace hi rfl rfl rfl fun _ hd => by cases hd
      · exact h.takeFlag hi hp hr
    | refining ids =>
      obtain ⟨hrun, hc⟩ := Thread.step_refining t.rig ids
      rw [hrun, hc, List.append_nil]
      exact h.replace hi rfl rfl rfl fun _ hd => by cases hd
    | refined =>
      rw [Thread.step_refined, List.append_nil]
      exact h.dropFlag hi
    | returned =>
      rw [Thread.step_returned, List.append_nil]
      exact h.replace hi rfl rfl rfl fun _ hd => by cases hd

/-- Stopping or cancelling a session changes neither what its drive holds nor what it has
published. -/
theorem coherent_signal (h : Coherent t.rig.control sv t.threads) (i : Nat) (cancel : Bool) :
    Coherent (t.signal i cancel).rig.control sv (t.signal i cancel).threads := by
  simp only [signal]
  rw [List.modify_eq_set]
  cases hi : t.threads[i]? with
  | none =>
    rw [List.set_eq_of_length_le (List.getElem?_eq_none_iff.1 hi)]
    exact h
  | some th =>
    simp only [Option.getD_some]
    cases th with
    | drive d =>
      exact h.driveQuiet hi rfl rfl ((h.published d (List.mem_of_getElem? hi)).cancel cancel)
    | _ => exact h.replace hi rfl rfl rfl fun _ hd => by cases hd

/-- Stopping the session in progress. -/
theorem coherent_stopRecording (h : Coherent t.rig.control sv t.threads) :
    Coherent (t.call .stopRecording).rig.control sv (t.call .stopRecording).threads := by
  -- the stop touches only a capturing drive's stop flag
  let f : Thread → Thread := fun
    | .drive d => .drive (if d.stage == .capturing then { d with stopped := true } else d)
    | th => th
  have hf : ∀ th, (f th).holdsPhase = th.holdsPhase ∧ (f th).holdsFlag = th.holdsFlag ∧
      (f th).holdsSession = th.holdsSession := by
    intro th
    cases th with
    | drive d => by_cases hs : d.stage = .capturing <;> simp [f, hs, Thread.holdsPhase,
        Thread.holdsFlag, Thread.holdsSession]
    | _ => exact ⟨rfl, rfl, rfl⟩
  have hcount : ∀ p : Thread → Bool, (∀ th, p (f th) = p th) →
      (t.threads.map f).countP p = t.threads.countP p := fun p hp => by
    rw [List.countP_map]
    exact List.countP_congr fun th _ => by simp [hp th]
  have hp := hcount _ fun th => (hf th).1
  have hfl := hcount _ fun th => (hf th).2.1
  have hs := hcount _ fun th => (hf th).2.2
  show Coherent t.rig.control sv (t.threads.map f)
  refine ⟨hp ▸ h.phase_le, hp ▸ h.idle_iff, hfl ▸ h.flag_le, hfl ▸ h.refining_iff,
    hfl ▸ hp ▸ h.apart, hs ▸ h.session_iff, fun d hd => ?_, h.saves_eq⟩
  obtain ⟨th, hth, hfd⟩ := List.mem_map.1 hd
  cases th with
  | drive d₀ =>
    have hpub := h.published d₀ hth
    simp only [f, Thread.drive.injEq] at hfd
    subst hfd
    split
    · exact hpub
    · exact hpub
  | _ => cases hfd

/-- Every call keeps the invariant. -/
theorem coherent_call (h : Coherent t.rig.control sv t.threads) (c : Call) :
    Coherent (t.call c).rig.control sv (t.call c).threads := by
  cases c with
  | startRecording => exact h.append rfl rfl rfl fun _ hd => by cases hd
  | stopRecording => exact coherent_stopRecording h
  | stop i => exact coherent_signal h i false
  | cancel i => exact coherent_signal h i true
  | refine => exact h.append rfl rfl rfl fun _ hd => by cases hd
  | setSyncMode m =>
    show Coherent ((setSyncMode m).run t.rig).2.control sv t.threads
    rcases setSyncMode_cases t.rig m with ⟨f, hf⟩ | ⟨-, -, hf⟩ <;> rw [hf]
    · exact h
    · exact h.congr Iff.rfl rfl rfl rfl
  | fleetEmptied =>
    show Coherent (dropHardwareSync.run t.rig).2.control sv t.threads
    simp only [dropHardwareSync, run_modify]
    split
    · exact h.congr Iff.rfl rfl rfl rfl
    · exact h
  | hangUp i =>
    show Coherent ((onMember i MemberM.hangUp >>= fun _ => prune).run t.rig).2.control sv
      t.threads
    rw [((Keeps.onMember i _).bind fun _ _ => Keeps.prune).control t.rig]
    exact h

theorem coherent_apply (h : Coherent t.rig.control sv t.threads) (e : Event) :
    Coherent (t.apply e).rig.control sv (t.apply e).threads := by
  cases e with
  | call c => exact coherent_call h c
  | advance i => exact coherent_advance h i

/-- What every event keeps, every run keeps. -/
theorem coherent_run (h : Coherent t.rig.control sv t.threads) (evs : List Event) :
    Coherent (t.run evs).rig.control sv (t.run evs).threads := by
  induction evs generalizing t with
  | nil => exact h
  | cons e evs ih => exact ih (coherent_apply h e)

end Threads

/-- A rig at rest, with no thread started, is coherent. -/
theorem coherent_atRest {r : Rig} (hp : r.phase = .idle) (hr : r.refining = false)
    (hs : r.recording = none) : Coherent r.control (r.control.saves false) [] where
  phase_le := by simp
  idle_iff := by simp [hp]
  flag_le := by simp
  refining_iff := by simp [hr]
  apart := by simp
  session_iff := by simp [hs]
  published := by simp
  saves_eq := rfl

/-! ## Where the state machine moves -/

namespace Threads

theorem apply_advance (t : Threads) (i : Nat) : t.apply (.advance i) = t.advance i := rfl

theorem getElem?_advance {t : Threads} {i : Nat} {th : Thread} (hi : t.threads[i]? = some th) :
    (t.advance i).threads[i]? = some (th.step.run t.rig).1.1 := by
  have hlt : i < t.threads.length := (List.getElem?_eq_some_iff.1 hi).1
  rw [advance_eq hi, List.getElem?_append_left (by simpa using hlt), List.getElem?_set_self hlt]

/-- No call moves the state machine. -/
theorem phase_call (t : Threads) (c : Call) : (t.call c).rig.phase = t.rig.phase := by
  cases c with
  | setSyncMode m =>
    show ((setSyncMode m).run t.rig).2.phase = _
    rcases setSyncMode_cases t.rig m with ⟨f, hf⟩ | ⟨-, -, hf⟩ <;> rw [hf]
  | fleetEmptied =>
    show (dropHardwareSync.run t.rig).2.phase = _
    simp only [dropHardwareSync, run_modify]
    split <;> rfl
  | hangUp i =>
    exact congrArg Control.phase
      (((Keeps.onMember i MemberM.hangUp).bind fun _ _ => Keeps.prune).control t.rig)
  | _ => rfl

/-- How an event moves the state machine: not at all; from Idle to Recording, by a start's move
in Idle with no refinement running; back to Idle, by a start that gives up or a drive that has
closed its session; or on to a phase other than Idle, by a drive after capturing or
reconciling. -/
theorem phase_apply (t : Threads) (e : Event) :
    (t.apply e).rig.phase = t.rig.phase ∨
      (∃ i m ids, e = .advance i ∧ t.threads[i]? = some (.admitted m ids) ∧
        t.rig.phase = .idle ∧ t.rig.refining = false ∧ (t.apply e).rig.phase = .recording) ∨
      (∃ i, e = .advance i ∧ (t.threads[i]? = some .abandoning ∨
        ∃ d, t.threads[i]? = some (.drive d) ∧ d.stage = .closing) ∧
        (t.apply e).rig.phase = .idle) ∨
      (∃ i d, e = .advance i ∧ t.threads[i]? = some (.drive d) ∧
        (d.stage = .captured ∨ d.stage = .reconciling) ∧ (t.apply e).rig.phase ≠ .idle) := by
  cases e with
  | call c => exact .inl (phase_call t c)
  | advance i =>
    rw [apply_advance]
    cases hi : t.threads[i]? with
    | none =>
      left
      rw [advance_of_none hi]
    | some th =>
      rw [advance_eq hi]
      cases th with
      | starting =>
        obtain ⟨th', hrun, -⟩ := Thread.step_starting t.rig
        left
        rw [hrun]
      | admitted m ids =>
        rcases Thread.step_admitted t.rig m ids with hrun | ⟨hp, hr, hrun⟩ <;> rw [hrun]
        · exact .inl rfl
        · exact .inr (.inl ⟨i, m, ids, rfl, hi, hp, hr, rfl⟩)
      | preparing m ids => exact .inl (congrArg Control.phase (Thread.step_preparing t.rig m ids).2.2)
      | prepared o => exact .inl rfl
      | abandoning => exact .inr (.inr (.inl ⟨i, rfl, .inl hi, rfl⟩))
      | abandoned => exact .inl (congrArg Control.phase (Thread.step_abandoned t.rig).2)
      | drive d =>
        rw [Thread.step_drive]
        cases hs : d.stage with
        | capturing =>
          obtain ⟨-, -, -, hc⟩ := Drive.step_capturing t.rig hs
          rcases hc with hc | hc <;> exact .inl (congrArg Control.phase hc)
        | captured =>
          obtain ⟨-, -, hcase⟩ := Drive.step_captured t.rig hs
          rcases hcase with ⟨-, -, hc⟩ | ⟨-, -, -, hc⟩ | ⟨-, -, -, hc⟩
          · exact .inr (.inr (.inr ⟨i, d, rfl, hi, .inl hs,
              by rw [← Rig.control_phase, hc]; simp⟩))
          · exact .inr (.inr (.inr ⟨i, d, rfl, hi, .inl hs,
              by rw [← Rig.control_phase, hc]; simp⟩))
          · exact .inl (congrArg Control.phase hc)
        | reconciling =>
          obtain ⟨-, -, hcase⟩ := Drive.step_reconciling t.rig hs
          rcases hcase with ⟨-, -, hc⟩ | ⟨-, -, hc⟩
          · exact .inr (.inr (.inr ⟨i, d, rfl, hi, .inr hs,
              by rw [← Rig.control_phase, hc]; simp⟩))
          · exact .inl (congrArg Control.phase hc)
        | saving => exact .inl (congrArg Control.phase (Drive.step_saving t.rig hs).2.2.2)
        | finishing => exact .inl (congrArg Control.phase (Drive.step_finishing t.rig hs).2)
        | closing =>
          rw [Drive.step_closing t.rig hs]
          exact .inr (.inr (.inl ⟨i, rfl, .inr ⟨d, hi, hs⟩, rfl⟩))
        | idling => exact .inl (congrArg Control.phase (Drive.step_idling t.rig hs).2)
        | finished =>
          rw [Drive.step_finished t.rig hs]
          exact .inl rfl
      | refineCalled =>
        rcases Thread.step_refineCalled t.rig with ⟨-, hc⟩ | ⟨-, -, -, -, hc⟩ <;>
          exact .inl (congrArg Control.phase hc)
      | refining ids => exact .inl (congrArg Control.phase (Thread.step_refining t.rig ids).2)
      | refined => exact .inl rfl
      | returned => exact .inl rfl

variable {t : Threads} {sv : Bool}

/-- The state machine leaves Idle only by a start's move, made with no refinement running. -/
theorem leaves_idle (h : Coherent t.rig.control sv t.threads) {e : Event} (h0 : t.rig.phase = .idle)
    (h1 : (t.apply e).rig.phase ≠ .idle) :
    ∃ i m ids, e = .advance i ∧ t.threads[i]? = some (.admitted m ids) ∧ t.rig.refining = false ∧
      (t.apply e).rig.phase = .recording := by
  rcases phase_apply t e with hs | ⟨i, m, ids, he, hi, -, hr, hrec⟩ | ⟨i, -, -, hidle⟩ |
      ⟨i, d, -, hi, hs, -⟩
  · exact absurd (hs.trans h0) h1
  · exact ⟨i, m, ids, he, hi, hr, hrec⟩
  · exact absurd hidle h1
  · -- a drive after capturing holds the state machine out of Idle
    have hP : (Thread.drive d).holdsPhase = true := by
      rcases hs with hs | hs <;> simp [Thread.holdsPhase, hs, DriveStage.holdsPhase]
    exact absurd h0 (h.phase_ne_idle hi hP)

/-- The state machine returns to Idle only when a start gives up or a drive that has closed its
session moves back. -/
theorem returns_idle {e : Event} (h0 : t.rig.phase ≠ .idle) (h1 : (t.apply e).rig.phase = .idle) :
    ∃ i, e = .advance i ∧ (t.threads[i]? = some .abandoning ∨
      ∃ d, t.threads[i]? = some (.drive d) ∧ d.stage = .closing) := by
  rcases phase_apply t e with hs | ⟨-, -, -, -, -, -, -, hrec⟩ | ⟨i, he, hi, -⟩ | ⟨-, -, -, -, -, hne⟩
  · exact absurd (hs.symm.trans h1) h0
  · rw [hrec] at h1
    cases h1
  · exact ⟨i, he, hi⟩
  · exact absurd h1 hne

/-- A refinement takes the flag only in Idle with no other refinement running. -/
theorem refine_starts_in_idle {i : Nat} {ids : List Nat} (hi : t.threads[i]? = some .refineCalled)
    (hstart : (t.advance i).threads[i]? = some (.refining ids)) :
    t.rig.phase = .idle ∧ t.rig.refining = false := by
  rw [getElem?_advance hi] at hstart
  rcases Thread.step_refineCalled t.rig with ⟨hrun, -⟩ | ⟨-, -, hp, hr, -⟩
  · rw [hrun] at hstart
    cases hstart
  · exact ⟨hp, hr⟩

/-- A start refused by its checks or at its move changes nothing. -/
theorem refused_start_keeps_rig {i : Nat}
    (hi : t.threads[i]? = some .starting ∨ ∃ m ids, t.threads[i]? = some (.admitted m ids))
    (hret : (t.advance i).threads[i]? = some .returned) : (t.advance i).rig = t.rig := by
  rcases hi with hi | ⟨m, ids, hi⟩
  · obtain ⟨th', hrun, -⟩ := Thread.step_starting t.rig
    rw [advance_eq hi, hrun]
  · rw [getElem?_advance hi] at hret
    rw [advance_eq hi]
    rcases Thread.step_admitted t.rig m ids with hrun | ⟨-, -, hrun⟩ <;> rw [hrun] at hret ⊢
    cases hret

/-- A start that gives up returns the state machine to Idle, with no session in progress. -/
theorem abandon_leaves_idle (h : Coherent t.rig.control sv t.threads) {i : Nat}
    (hi : t.threads[i]? = some .abandoning) :
    (t.advance i).rig.phase = .idle ∧ (t.advance i).rig.recording = none := by
  have hnone := h.not_inSession hi rfl rfl
  rw [advance_eq hi, Thread.step_abandoning]
  exact ⟨rfl, by simpa using hnone⟩

end Threads

/-- Preparing stops at the take's directories: when a sensor could not create one, preparation
fails with the rig as the directory requests left it, so no sensor is asked to clear its stored
frames or to start pre-recording. -/
theorem prepareRecording_stops_at_directories {mode : SyncMode} {ids : List Nat} {r r₁ r₂ : Rig}
    {index : Int} {made : List Outcome}
    (hindex : (nextTakeIndex r.config.takeNameOr).run r = (.ok index, r₁))
    (hmade : (fanOut ids (MemberM.createDirectory
      (Utf8.encode (r.config.takeNameOr ++ "_" ++ toString index)))).run r₁ = (made, r₂))
    (hfail : Outcomes.failed made = true) :
    ∃ f, (prepareRecording mode ids).run r = (.error f, r₂) := by
  unfold prepareRecording
  rw [run_get_bind, run_bind, hindex]
  dsimp only
  rw [run_bind, run_pure, run_bind, hmade]
  dsimp only
  rw [if_pos hfail]
  exact ⟨_, rfl⟩

/-- The sync mode is chosen only in Idle. -/
theorem idle_of_setSyncMode {r : Rig} {m : SyncMode} (h : ((setSyncMode m).run r).1 = none) :
    r.phase = .idle := by
  rcases setSyncMode_cases r m with ⟨f, hf⟩ | ⟨hp, -, -⟩
  · rw [hf] at h
    cases h
  · exact hp

/-! ## One recording at a time, whatever the schedule -/

/-- The recording state machine over any schedule of calls and steps, on a coordinator built
from any configuration, sink, calibration record and store, over any fleet. At most one thread
holds the state machine out of Idle and at most one session is in progress; the state machine
leaves Idle only by a start's move, made with no refinement running, and comes back only when a
start gives up or a drive that has closed its session moves back. Each session that has ended
published Recording, then Reconciling only for a hardware recording, then Saving only with a sink
and point-cloud export, then Idle, and unless it was cancelled each middle phase exactly when it
applies. A refinement starts only in Idle with none running, and while one runs the state machine
stays in Idle. The sync mode is chosen only in Idle. A start refused by its checks or at its move
changes nothing; one that gives up leaves the state machine in Idle with no session; and a
preparation in which a sensor could not create the take's directory goes no further. -/
theorem recording_state_machine_safe (config : SessionConfig) (sink : Option PlySink)
    (calibrations : CalibrationLog) (store : Option Store.SessionStore) (members : Array Member)
    (evs : List Event) :
    let t := Threads.run ⟨{ Rig.create config sink calibrations store with members }, []⟩ evs
    (t.threads.countP Thread.holdsPhase ≤ 1 ∧
      (t.rig.phase = .idle ↔ t.threads.countP Thread.holdsPhase = 0) ∧
      t.threads.countP Thread.holdsSession ≤ 1 ∧
      (t.rig.recording.isSome = true ↔ t.threads.countP Thread.holdsSession = 1)) ∧
    (∀ e, t.rig.phase = .idle → (t.apply e).rig.phase ≠ .idle →
      ∃ i m ids, e = .advance i ∧ t.threads[i]? = some (.admitted m ids) ∧
        t.rig.refining = false ∧ (t.apply e).rig.phase = .recording) ∧
    (∀ e, t.rig.phase ≠ .idle → (t.apply e).rig.phase = .idle →
      ∃ i, e = .advance i ∧ (t.threads[i]? = some .abandoning ∨
        ∃ d, t.threads[i]? = some (.drive d) ∧ d.stage = .closing)) ∧
    (∀ d, Thread.drive d ∈ t.threads → d.stage = .finished →
      ∃ rec sav, d.announced = publishedPhases rec sav true ∧
        d.Chose (sink.isSome && config.exportModeOr == .pointcloud) rec sav) ∧
    (∀ i ids, t.threads[i]? = some .refineCalled →
      (t.advance i).threads[i]? = some (.refining ids) →
      t.rig.phase = .idle ∧ t.rig.refining = false) ∧
    (∀ th ∈ t.threads, th.holdsFlag = true → t.rig.phase = .idle) ∧
    (∀ m, ((setSyncMode m).run t.rig).1 = none → t.rig.phase = .idle) ∧
    (∀ i, (t.threads[i]? = some .starting ∨ ∃ m ids, t.threads[i]? = some (.admitted m ids)) →
      (t.advance i).threads[i]? = some .returned → (t.advance i).rig = t.rig) ∧
    (∀ i, t.threads[i]? = some .abandoning →
      (t.advance i).rig.phase = .idle ∧ (t.advance i).rig.recording = none) ∧
    (∀ (mode : SyncMode) (ids : List Nat) (r r₁ r₂ : Rig) (index : Int) (made : List Outcome),
      (nextTakeIndex r.config.takeNameOr).run r = (.ok index, r₁) →
      (fanOut ids (MemberM.createDirectory
        (Utf8.encode (r.config.takeNameOr ++ "_" ++ toString index)))).run r₁ = (made, r₂) →
      Outcomes.failed made = true → ∃ f, (prepareRecording mode ids).run r = (.error f, r₂)) := by
  intro t
  -- the coordinator starts at rest, and every event keeps it coherent
  have h₀ := coherent_atRest (r := { Rig.create config sink calibrations store with members })
    rfl rfl rfl
  rw [Control.saves_false] at h₀
  have h := Threads.coherent_run (t := ⟨_, []⟩) h₀ evs
  refine ⟨⟨h.phase_le, h.idle_iff, Nat.le_trans (countP_session_le_phase _) h.phase_le, h.session_iff⟩,
    fun _ h0 h1 => Threads.leaves_idle h h0 h1, fun _ h0 h1 => Threads.returns_idle h0 h1,
    fun d hd hs => ?_, fun _ _ hi hstart => Threads.refine_starts_in_idle hi hstart,
    fun _ hth hF => h.idle_of_holdsFlag hth hF, fun _ hm => idle_of_setSyncMode hm,
    fun _ hi hret => Threads.refused_start_keeps_rig hi hret,
    fun _ hi => Threads.abandon_leaves_idle h hi,
    fun _ _ _ _ _ _ _ hindex hmade hfail => prepareRecording_stops_at_directories hindex hmade hfail⟩
  have hpub := h.published d hd
  simp only [Drive.Published, hs] at hpub
  exact hpub

/-- A start refused while another start holds Recording fails, and the state machine stays in
Recording: a start that fails does not always leave it in Idle. -/
theorem refused_second_start_leaves_recording :
    let t := Threads.run
      ⟨{ Rig.create { syncMode := some "network" } none .none none with members := #[default] }, []⟩
      [.call .startRecording, .advance 0, .advance 0, .call .startRecording, .advance 1, .advance 1]
    t.threads[1]? = some .returned ∧ t.rig.phase = .recording := by
  constructor
  · rfl
  · decide

/-! ## Announcements after the lock -/

/-- A phase is entered under the lock and announced after it, so one session's return to Idle
races the next session's start. The drive moves the state machine back to Idle; a new start
then moves it to Recording, announces it, pausing the preview, and sends the sensor its first
commands; only then does the old drive announce Idle. The preview resumes while the new
session is in progress, and subscribers are told Recording, Recording, Idle where the state
machine went Recording, Idle, Recording. -/
theorem late_idle_announcement_resumes_preview :
    let rig : Rig := { Rig.create { syncMode := some "network" } none .none none with
      members := #[Member.connect "dev-0" (Simulator.Sensor.create { serial := "A" })] }
    let first : List Event := [.call .startRecording, .advance 0, .advance 0, .advance 0,
      .advance 0, .call .stopRecording, .advance 1, .advance 1, .advance 1, .advance 1]
    let second : List Event := [.call .startRecording, .advance 2, .advance 2, .advance 2,
      .advance 2]
    let s := Threads.run ⟨rig, []⟩ first
    let t := s.run second
    let u := t.apply (.advance 1)
    s.rig.phase = .idle ∧ s.rig.entered.toList = [.recording] ∧
      t.rig.phase = .recording ∧ t.rig.recording.isSome = true ∧ t.rig.preview.paused = true ∧
      (t.rig.member 0).sensor.commands.toList.map Wire.Command.name =
        ["RequestConfiguration", "CreateDirectory", "ClearStoredFrames", "PreRecordProcessStart",
          "PostRecordProcessStart", "CreateDirectory", "ClearStoredFrames",
          "PreRecordProcessStart"] ∧
      u.rig.phase = .recording ∧ u.rig.recording.isSome = true ∧ u.rig.preview.paused = false ∧
      u.rig.entered.toList = [.recording, .recording, .idle] := by
  decide +kernel

end DepthRig.Fleet
