import DepthRig.Proofs.Fleet.Saving
import DepthRig.Proofs.Fleet.Sessions

/-!
# What a network recording tallies

A network recording counts a frame for each round in which some member captured and drops the
members whose capture failed. As an invariant of each thread, every member still in a
recording has stored exactly the frames counted and answers them from the first; network
rounds, the end of capture and every other thread's steps keep it.
-/

namespace DepthRig.Fleet

open RigM

/-! ## What a network recording holds on its members -/

/-- A recording whose members hold exactly `n` stored frames each: distinct members of the
fleet, each answering its stored frames from the first. -/
structure Recording.Holds (o : Recording) (r : Rig) (n : Nat) : Prop where
  nodup : o.members.Nodup
  lt : ∀ i ∈ o.members, i < r.members.size
  stored : ∀ i ∈ o.members, (r.member i).sensor.stored.length = n
  cursor : ∀ i ∈ o.members, (r.member i).sensor.cursor = 0

/-- Two rigs whose fleets have the same size and the same frames on every sensor. -/
structure Rig.SameFrames (r r' : Rig) : Prop where
  size : r'.members.size = r.members.size
  frames : ∀ i, (r'.member i).sensor.frames = (r.member i).sensor.frames

theorem Rig.SameFrames.of_members {r r' : Rig} (h : r'.members = r.members) : r.SameFrames r' :=
  ⟨by rw [h], fun i => by simp only [Rig.member, h]⟩

theorem Recording.Holds.sameFrames {o : Recording} {r r' : Rig} {n : Nat} (h : o.Holds r n)
    (hs : r.SameFrames r') : o.Holds r' n where
  nodup := h.nodup
  lt i hi := hs.size ▸ h.lt i hi
  stored i hi := by
    rw [← h.stored i hi]
    exact congrArg (fun f : Simulator.Sensor.Frames => f.stored.length) (hs.frames i)
  cursor i hi := by
    rw [← h.cursor i hi]
    exact congrArg Simulator.Sensor.Frames.cursor (hs.frames i)

/-- What a drive's recording holds by its stage: until capturing has ended, the frames counted
so far; once it is to be saved, the frames its summary counts. -/
def Drive.Tallies (d : Drive) (r : Rig) : Prop :=
  match d.stage with
  | .capturing | .captured => d.ongoing.Holds r d.ongoing.frames
  | .saving => d.ongoing.Holds r d.ongoing.summary.frames
  | _ => True

/-- What a thread keeps of the network recording it starts or drives: a start's sensors are
distinct members of the fleet, in network sync; a prepared recording, and a drive's recording
until it is saved, holds on each of its members exactly the frames it counted. -/
def Thread.Tallies (r : Rig) : Thread → Prop
  | .admitted mode ids | .preparing mode ids =>
    mode = .network ∧ ids.Nodup ∧ ∀ i ∈ ids, i < r.members.size
  | .prepared o => o.summary.mode = .network ∧ o.Holds r o.frames
  | .drive d => d.ongoing.summary.mode = .network ∧ d.Tallies r
  | _ => True

namespace Thread.Tallies

variable {r r' : Rig} {th : Thread}

theorem sameFrames (h : th.Tallies r) (hs : r.SameFrames r') : th.Tallies r' := by
  cases th with
  | admitted m ids | preparing m ids => exact ⟨h.1, h.2.1, fun i hi => hs.size ▸ h.2.2 i hi⟩
  | prepared o => exact ⟨h.1, h.2.sameFrames hs⟩
  | drive d =>
    refine ⟨h.1, ?_⟩
    have hd := h.2
    unfold Drive.Tallies at hd ⊢
    split at hd
    · exact hd.sameFrames hs
    · exact hd.sameFrames hs
    · exact hd.sameFrames hs
    · trivial
  | _ => trivial

/-- A thread that holds no recording keeps what it tallies on any fleet of the same size. -/
theorem of_not_holdsPhase (h : th.Tallies r) (hP : th.holdsPhase = false)
    (hsize : r'.members.size = r.members.size) : th.Tallies r' := by
  cases th with
  | admitted m ids | preparing m ids => exact ⟨h.1, h.2.1, fun i hi => hsize ▸ h.2.2 i hi⟩
  | prepared o => simp [holdsPhase] at hP
  | drive d =>
    refine ⟨h.1, ?_⟩
    unfold Drive.Tallies
    simp only [holdsPhase] at hP
    cases hs : d.stage <;> simp_all [DriveStage.holdsPhase]
  | _ => trivial

end Thread.Tallies

/-! ## What a start admits -/

theorem Rig.live_nodup (r : Rig) : r.live.Nodup :=
  (List.nodup_range).filter _

theorem Rig.lt_of_mem_live {r : Rig} {i : Nat} (h : i ∈ r.live) : i < r.members.size :=
  List.mem_range.1 (List.mem_of_mem_filter h)

/-- A start on a rig not set for hardware sync admits only a network recording, on the usable
sensors. -/
theorem admitRecording_network {r : Rig} (hmode : r.syncMode ≠ .hardware) {m : SyncMode}
    {ids : List Nat} (h : (admitRecording.run r).1 = .ok (m, ids)) :
    m = .network ∧ ids = r.live := by
  simp only [admitRecording, run_get_bind] at h
  by_cases hnet : r.syncMode = .network
  · have hcheck : ((r.syncMode != .network) && (r.syncMode != .hardware)) = false := by
      simp [hnet]
    rw [if_neg (by simp [hcheck])] at h
    simp only [liveOrFail, run_bind] at h
    split at h
    · cases h
    · next ids' hlive =>
      -- the usable sensors, when there are some
      have hids : ids' = r.live := by
        simp only [run_get, run_pure] at hlive
        by_cases he : r.live.isEmpty = true
        · simp [he] at hlive
        · simp only [he, Bool.false_eq_true, if_false, Except.ok.injEq] at hlive
          exact hlive.symm
      split at h
      · next hhw => exact absurd hhw (by simp [hnet])
      · simp only [run_pure, Except.ok.injEq, Prod.mk.injEq] at h
        exact ⟨h.1 ▸ hnet, h.2 ▸ hids⟩
  · rw [if_pos (by simp [hnet, hmode])] at h
    cases h

/-! ## Threads that step alone -/

theorem List.mem_set_cases {α : Type} {l : List α} {i : Nat} {a x : α} (h : x ∈ l.set i a) :
    x = a ∨ ∃ j, j ≠ i ∧ l[j]? = some x := by
  obtain ⟨j, hj⟩ := List.mem_iff_getElem?.1 h
  rw [List.getElem?_set] at hj
  by_cases hij : i = j
  · rw [if_pos hij] at hj
    split at hj
    · exact .inl (Option.some.inj hj).symm
    · cases hj
  · rw [if_neg hij] at hj
    exact .inr ⟨j, Ne.symm hij, hj⟩

namespace Coherent

variable {c : Control} {sv : Bool} {ths : List Thread} {i j : Nat} {th x : Thread}

/-- While a thread holds the state machine, no other thread does. -/
theorem not_holdsPhase_of_ne (h : Coherent c sv ths) (hi : ths[i]? = some th)
    (hP : th.holdsPhase = true) (hj : ths[j]? = some x) (hji : j ≠ i) : x.holdsPhase = false := by
  by_contra hx
  have hset := countP_set_add hi Thread.holdsPhase .returned
  have hone : 1 ≤ (ths.set i .returned).countP Thread.holdsPhase :=
    one_le_countP (by rw [List.getElem?_set_ne (Ne.symm hji)]; exact hj) (by simpa using hx)
  have := h.phase_le
  rw [hP] at hset
  simp only [Thread.holdsPhase, Bool.false_eq_true, ↓reduceIte] at hset
  omega

/-- While a refinement holds the flag, no thread holds the state machine. -/
theorem not_holdsPhase_of_flag (h : Coherent c sv ths) (hi : ths[i]? = some th)
    (hF : th.holdsFlag = true) (hx : x ∈ ths) : x.holdsPhase = false := by
  have hpos : 0 < ths.countP Thread.holdsFlag := List.countP_pos_iff.2 ⟨th, List.mem_of_getElem? hi, hF⟩
  rcases h.apart with h0 | h0
  · omega
  · simpa using List.countP_eq_zero.1 h0 x hx

end Coherent

/-! ## Rounds that keep the count -/

/-- A network round on a recording whose members hold the frames it counted leaves a recording
that does too: a member kept captured in the round, which then counts. -/
theorem networkRound_holds {o : Recording} {r : Rig} (hr : r.Sound) (h : o.Holds r o.frames) :
    ((networkRound o).run r).1.1.Holds (r.runEach MemberM.capture o.members)
      ((networkRound o).run r).1.1.frames := by
  obtain ⟨hmembers, hframes, -, -⟩ := networkRound_counts h.nodup h.lt
  refine ⟨hmembers ▸ h.nodup.filter _, fun i hi => ?_, fun i hi => ?_, fun i hi => ?_⟩ <;>
    rw [hmembers] at hi <;> obtain ⟨hmem, hok⟩ := List.mem_filter.1 hi
  · rw [Rig.size_runEach]
    exact h.lt i hmem
  · obtain ⟨hcap, hstored, -⟩ := MemberM.capture_counts (hr.member (h.lt i hmem))
    -- the member captured, so the round counted
    have hany : o.members.any (fun j => (MemberM.capture.run (r.member j)).1.isNone) = true :=
      List.any_eq_true.2 ⟨i, hmem, hok⟩
    rw [Rig.member_runEach _ h.nodup h.lt, if_pos hmem, hstored, h.stored i hmem, hframes,
      if_pos hany, if_pos (hcap ▸ hok)]
  · rw [Rig.member_runEach _ h.nodup h.lt, if_pos hmem,
      (MemberM.capture_counts (hr.member (h.lt i hmem))).2.2, h.cursor i hmem]

/-- Ending the capture of a network recording whose members hold the frames it counted: they
hold what its summary counts. -/
theorem endCapture_holds {o : Recording} {r : Rig} (hr : r.Sound)
    (hmode : o.summary.mode ≠ .hardware) (h : o.Holds r o.frames) :
    ((endCapture o).run r).1.Holds ((endCapture o).run r).2 ((endCapture o).run r).1.summary.frames := by
  obtain ⟨hmembers, hframes, hrig⟩ := endCapture_network hmode h.nodup h.lt
  -- the clock moves; the members stay
  have hlt : ∀ i ∈ o.members, i < (RigM.tick.run r).2.members.size := h.lt
  have hpost : ∀ i ∈ o.members, ((endCapture o).run r).2.member i =
      (MemberM.postRecord.run (r.member i)).2 := fun i hi => by
    rw [hrig, Rig.member_runEach _ h.nodup hlt, if_pos hi]
    rfl
  refine ⟨hmembers ▸ h.nodup, fun i hi => ?_, fun i hi => ?_, fun i hi => ?_⟩ <;>
    rw [hmembers] at hi
  · rw [hrig, Rig.size_runEach]
    exact hlt i hi
  · rw [hpost i hi, (MemberM.postRecord_stored (hr.member (h.lt i hi)) (h.cursor i hi)).1,
      h.stored i hi, hframes]
  · rw [hpost i hi]
    exact (MemberM.postRecord_stored (hr.member (h.lt i hi)) (h.cursor i hi)).2

/-! ## A drive's step -/

namespace Drive

variable {d : Drive} {r : Rig}

/-- Every step of a drive keeps its session's sync mode and whether it was cancelled. -/
theorem follows_step (d : Drive) (r : Rig) : (d.step.run r).1.Follows d := by
  cases hs : d.stage with
  | capturing => exact (step_capturing r hs).2.2.1
  | captured => exact (step_captured r hs).2.1
  | reconciling => exact (step_reconciling r hs).2.1
  | saving => exact (step_saving r hs).2.2.1
  | finishing => rw [(step_finishing r hs).1]; exact ⟨rfl, rfl⟩
  | closing => rw [step_closing r hs]; exact ⟨rfl, rfl⟩
  | idling => rw [(step_idling r hs).1]; exact ⟨rfl, rfl⟩
  | finished => rw [step_finished r hs]; exact ⟨rfl, rfl⟩

/-- A capturing drive in network sync: stopped or cancelled, it ends capturing and changes
nothing; otherwise it runs a network round, and goes on capturing exactly while the round says
so. -/
theorem step_capturing_network (hs : d.stage = .capturing)
    (hmode : d.ongoing.summary.mode = .network) :
    ((d.stopped || d.cancelled) = true ∧ d.step.run r = ({ d with stage := .captured }, r)) ∨
      ((d.stopped || d.cancelled) = false ∧
        (d.step.run r).1 = { d with
          ongoing := ((networkRound d.ongoing).run r).1.1
          stage := if ((networkRound d.ongoing).run r).1.2 then .capturing else .captured } ∧
        (d.step.run r).2.members = ((networkRound d.ongoing).run r).2.members) := by
  unfold Drive.step
  simp only [hs]
  by_cases hstop : (d.stopped || d.cancelled) = true
  · exact .inl ⟨hstop, by rw [if_pos hstop]; rfl⟩
  · rw [if_neg hstop, if_pos (by simp [hmode])]
    exact .inr ⟨by simpa using hstop, rfl, rfl⟩

/-- Once capturing has ended, the drive's recording is what ending the capture made of it, and
the fleet is as ending the capture left it. -/
theorem step_captured_ongoing (hs : d.stage = .captured) :
    (d.step.run r).1.ongoing = ((endCapture d.ongoing).run r).1 ∧
      (d.step.run r).2.members = ((endCapture d.ongoing).run r).2.members := by
  unfold Drive.step
  simp only [hs, run_bind]
  unfold postProcess
  split
  · exact ⟨rfl, rfl⟩
  · simp only [run_get_bind]
    split
    · exact ⟨rfl, rfl⟩
    · exact ⟨rfl, rfl⟩

/-- A drive of a network recording is never in Reconciling. -/
theorem stage_ne_reconciling {sv : Bool} (hmode : d.ongoing.summary.mode = .network)
    (hpub : d.Published sv) : d.stage ≠ .reconciling := by
  intro hs
  simp only [Drive.Published, hs] at hpub
  rw [hmode] at hpub
  cases hpub.2

/-- A drive of a network recording keeps its tally on a sound fleet: a network round counts
exactly the frames its members stored, ending the capture keeps them, and a network recording is
never reconciled. -/
theorem tallies_step {sv : Bool} (hr : r.Sound) (hmode : d.ongoing.summary.mode = .network)
    (hpub : d.Published sv) (ht : d.Tallies r) : (d.step.run r).1.Tallies (d.step.run r).2 := by
  cases hs : d.stage with
  | capturing =>
    have hold : d.ongoing.Holds r d.ongoing.frames := by simpa only [Tallies, hs] using ht
    rcases step_capturing_network (r := r) hs hmode with ⟨-, hrun⟩ | ⟨-, hd, hmem⟩
    · rw [hrun]
      exact hold
    · -- the round's recording holds its count on the fleet the round left
      have hnext := (networkRound_holds hr hold).sameFrames (.of_members
        (hmem.trans (congrArg Rig.members (networkRound_counts hold.nodup hold.lt).2.2.2)))
      rw [hd]
      unfold Tallies
      by_cases hgoing : ((networkRound d.ongoing).run r).1.2 = true <;>
        simp only [hgoing, Bool.false_eq_true, ↓reduceIte] <;> exact hnext
  | captured =>
    have hold : d.ongoing.Holds r d.ongoing.frames := by simpa only [Tallies, hs] using ht
    obtain ⟨hongoing, hmem⟩ := step_captured_ongoing (r := r) hs
    have hend := (endCapture_holds hr (by simp [hmode]) hold).sameFrames (.of_members hmem)
    rw [← hongoing] at hend
    -- a network recording is saved or finished next, never reconciled
    obtain ⟨-, -, hcase⟩ := step_captured r hs
    unfold Tallies
    rcases hcase with ⟨hst, hrec, -⟩ | ⟨hst, -⟩ | ⟨hst, -⟩ <;> rw [hst]
    · simp [Recording.reconciles, hmode] at hrec
    · exact hend
    · trivial
  | reconciling => exact absurd hs (stage_ne_reconciling hmode hpub)
  | saving => simp [Tallies, (step_saving r hs).1]
  | finishing => simp [Tallies, (step_finishing r hs).1]
  | closing => simp [Tallies, step_closing r hs]
  | idling => simp [Tallies, (step_idling r hs).1]
  | finished => simp [Tallies, step_finished r hs, hs]

end Drive

/-! ## What a thread's step keeps of the rig -/

/-- Two rigs with the same configuration and sync settings. -/
structure Rig.Settled (r r' : Rig) : Prop where
  config : r'.config = r.config
  syncMode : r'.syncMode = r.syncMode
  hwSync : r'.hwSync = r.hwSync

theorem Rig.Settled.of_control {r r' : Rig} {c : Control} (h : r'.control = c)
    (hc : c.config = r.config) (hs : c.syncMode = r.syncMode) (hw : c.hwSync = r.hwSync) :
    r.Settled r' :=
  ⟨(congrArg Control.config h).trans hc, (congrArg Control.syncMode h).trans hs,
    (congrArg Control.hwSync h).trans hw⟩

/-- No drive's step changes the configuration or the sync settings. -/
theorem Drive.settled_step (d : Drive) (r : Rig) : r.Settled (d.step.run r).2 := by
  cases hs : d.stage with
  | capturing =>
    rcases (Drive.step_capturing r hs).2.2.2 with hc | hc <;> exact .of_control hc rfl rfl rfl
  | captured =>
    rcases (Drive.step_captured r hs).2.2 with ⟨-, -, hc⟩ | ⟨-, -, -, hc⟩ | ⟨-, -, -, hc⟩ <;>
      exact .of_control hc rfl rfl rfl
  | reconciling =>
    rcases (Drive.step_reconciling r hs).2.2 with ⟨-, -, hc⟩ | ⟨-, -, hc⟩ <;>
      exact .of_control hc rfl rfl rfl
  | saving => exact .of_control (Drive.step_saving r hs).2.2.2 rfl rfl rfl
  | finishing => exact .of_control (Drive.step_finishing r hs).2 rfl rfl rfl
  | closing => rw [Drive.step_closing r hs]; exact ⟨rfl, rfl, rfl⟩
  | idling => exact .of_control (Drive.step_idling r hs).2 rfl rfl rfl
  | finished => rw [Drive.step_finished r hs]; exact ⟨rfl, rfl, rfl⟩

/-- No thread's step changes the configuration or the sync settings. -/
theorem Thread.settled_step (th : Thread) (r : Rig) : r.Settled (th.step.run r).2 := by
  cases th with
  | starting =>
    obtain ⟨th', hrun, -⟩ := step_starting r
    rw [hrun]
    exact ⟨rfl, rfl, rfl⟩
  | admitted m ids =>
    rcases step_admitted r m ids with hrun | ⟨-, -, hrun⟩ <;> rw [hrun] <;> exact ⟨rfl, rfl, rfl⟩
  | preparing m ids => exact .of_control (step_preparing r m ids).2.2 rfl rfl rfl
  | prepared o => rw [step_prepared]; exact ⟨rfl, rfl, rfl⟩
  | abandoning => rw [step_abandoning]; exact ⟨rfl, rfl, rfl⟩
  | abandoned => exact .of_control (step_abandoned r).2 rfl rfl rfl
  | drive d => rw [step_drive]; exact d.settled_step r
  | refineCalled =>
    rcases step_refineCalled r with ⟨-, hc⟩ | ⟨-, -, -, -, hc⟩ <;> exact .of_control hc rfl rfl rfl
  | refining ids => exact .of_control (step_refining r ids).2 rfl rfl rfl
  | refined => rw [step_refined]; exact ⟨rfl, rfl, rfl⟩
  | returned => rw [step_returned]; exact ⟨rfl, rfl, rfl⟩

/-- A thread that holds neither the state machine nor the refinement flag leaves every sensor's
frames as they were. -/
theorem Thread.sameFrames_step {th : Thread} (hP : th.holdsPhase = false)
    (hF : th.holdsFlag = false) (r : Rig) : r.SameFrames (th.step.run r).2 := by
  cases th with
  | starting =>
    obtain ⟨th', hrun, -⟩ := step_starting r
    rw [hrun]
    exact .of_members rfl
  | admitted m ids =>
    rcases step_admitted r m ids with hrun | ⟨-, -, hrun⟩ <;> rw [hrun] <;> exact .of_members rfl
  | abandoned => exact .of_members rfl
  | drive d =>
    rw [step_drive]
    simp only [holdsPhase] at hP
    cases hs : d.stage <;> simp only [hs, DriveStage.holdsPhase, Bool.true_eq_false] at hP
    · -- announcing Idle
      unfold Drive.step
      simp only [hs]
      exact .of_members rfl
    · rw [Drive.step_finished r hs]
      exact .of_members rfl
  | refineCalled =>
    -- the checks read the rig; taking the flag changes only the flag
    unfold step
    rw [run_bind]
    split
    · exact .of_members rfl
    rw [run_bind]
    split
    · exact .of_members rfl
    rw [run_bind]
    rcases beginRefine_cases ((liveOrFail.run (requirePointcloud.run r).2).2) with
      ⟨f, hb⟩ | ⟨-, -, hb⟩ <;> rw [hb] <;> exact .of_members rfl
  | returned => rw [step_returned]; exact .of_members rfl
  | _ => simp [holdsPhase, holdsFlag] at hP hF

namespace RigM.KeepsFleet

theorem postProcess (d : Drive) : KeepsFleet d.postProcess := by
  unfold Drive.postProcess
  split
  · exact (setPhase _).bind fun _ => KeepsFleet.pure _
  · refine KeepsFleet.get.bind fun _ => ?_
    split
    · exact (setPhase _).bind fun _ => KeepsFleet.pure _
    · exact KeepsFleet.pure _

/-- A drive's step keeps the fleet, for a recording not in hardware sync and outside
Reconciling. -/
theorem driveStep {d : Drive} (hmode : d.ongoing.summary.mode ≠ .hardware)
    (hs : d.stage ≠ .reconciling) : KeepsFleet d.step := by
  unfold Drive.step
  split
  · split
    · exact KeepsFleet.pure _
    split
    · refine (networkRound _).bind fun _ => ?_
      dsimp only
      refine (of_modify_other ?_ ?_ ?_).bind fun _ => KeepsFleet.pure _ <;> exact fun _ => rfl
    · exact KeepsFleet.pure _
  · exact (endCapture hmode).bind fun _ => postProcess _
  · contradiction
  · exact (announce _).bind fun _ => (saveRecording _).bind fun _ => KeepsFleet.pure _
  · exact (closeSession _).bind fun _ => KeepsFleet.pure _
  · exact (setPhase _).bind fun _ => KeepsFleet.pure _
  · exact (announce _).bind fun _ => KeepsFleet.pure _
  · exact KeepsFleet.pure _

/-- Every thread's step but a preparation keeps the fleet, when no drive records in hardware
sync or reconciles. -/
theorem threadStep {th : Thread} (hprep : ∀ m ids, th ≠ .preparing m ids)
    (hdrive : ∀ d, th = .drive d → d.ongoing.summary.mode ≠ .hardware ∧ d.stage ≠ .reconciling) :
    KeepsFleet th.step := by
  cases th with
  | starting =>
    intro r
    obtain ⟨th', hrun, -⟩ := Thread.step_starting r
    rw [hrun]
  | admitted m ids =>
    intro r
    rcases Thread.step_admitted r m ids with hrun | ⟨-, -, hrun⟩ <;> rw [hrun]
    exact .of_members rfl fun h => ⟨h, rfl⟩
  | preparing m ids => exact absurd rfl (hprep m ids)
  | prepared o =>
    intro r
    rw [Thread.step_prepared]
    exact .of_members rfl fun h => ⟨h, rfl⟩
  | abandoning =>
    intro r
    rw [Thread.step_abandoning]
    exact .of_members rfl fun h => ⟨h, rfl⟩
  | abandoned =>
    unfold Thread.step
    exact (announce _).bind fun _ => KeepsFleet.pure _
  | drive d =>
    obtain ⟨hm, hs⟩ := hdrive d rfl
    unfold Thread.step
    exact (driveStep hm hs).bind fun _ => KeepsFleet.pure _
  | refineCalled =>
    unfold Thread.step
    refine requirePointcloud.bind fun _ => ?_
    split
    · exact KeepsFleet.pure _
    refine liveOrFail.bind fun _ => ?_
    split
    · exact KeepsFleet.pure _
    refine beginRefine.bind fun _ => ?_
    split <;> exact KeepsFleet.pure _
  | refining ids =>
    unfold Thread.step
    exact (refineOn ids).bind fun _ => KeepsFleet.pure _
  | refined =>
    intro r
    rw [Thread.step_refined]
    exact .of_members rfl fun h => ⟨h, rfl⟩
  | returned =>
    intro r
    rw [Thread.step_returned]

end RigM.KeepsFleet

/-! ## Every schedule keeps the tallies -/

/-- A hang-up, and the pruning of the registry after it, keep the fleet. -/
theorem RigM.KeepsFleet.hangUp (i : Nat) :
    KeepsFleet (do RigM.onMember i MemberM.hangUp; RigM.prune : RigM Unit) :=
  (KeepsFleet.onMember i fun _ h => MemberM.hangUp_sound h).bind fun _ => KeepsFleet.prune

namespace Rig

/-- How many recordings the rig has started under its take name, when it keeps no session
store. -/
def takeCount (r : Rig) : Nat := ((r.takes.find? (·.1 == r.config.takeNameOr)).map (·.2)).getD 0

/-- The take paths of the rig's next `n` recordings fit the wire's list limit. -/
def TakesFit (r : Rig) (n : Nat) : Prop :=
  ∀ k < n, (Utf8.encode (r.config.takeNameOr ++ "_" ++
    toString ((r.takeCount + k + 1 : Nat) : Int))).length ≤ Wire.maxListEntries

theorem takeCount_eq {r : Rig} {c : Nat} {l : List (String × Nat)}
    (h : r.takes = (r.config.takeNameOr, c) :: l) : r.takeCount = c := by
  simp [takeCount, h]

theorem TakesFit.mono {r : Rig} {n m : Nat} (h : r.TakesFit n) (hle : m ≤ n) : r.TakesFit m :=
  fun k hk => h k (by omega)

/-- A step that keeps the configuration and the take counters uses up one of the take paths. -/
theorem TakesFit.of_takes {r r' : Rig} {n : Nat} (h : r.TakesFit (n + 1))
    (hc : r'.config = r.config) (ht : r'.takes = r.takes) : r'.TakesFit n := by
  intro k hk
  have hcount : r'.takeCount = r.takeCount := by simp only [takeCount, hc, ht]
  rw [hcount, hc]
  exact h k (by omega)

/-- A step that starts a recording moves on to the next take path. -/
theorem TakesFit.next {r r' : Rig} {n : Nat} (h : r.TakesFit (n + 1)) (hc : r'.config = r.config)
    (hcount : r'.takeCount = r.takeCount + 1) : r'.TakesFit n := by
  intro k hk
  rw [hcount, hc, show r.takeCount + 1 + k + 1 = r.takeCount + (k + 1) + 1 by omega]
  exact h (k + 1) (by omega)

theorem run_onMember_of_not_lt {γ : Type} [Inhabited γ] (op : MemberM γ) {r : Rig} {i : Nat}
    (hi : ¬ i < r.members.size) : (onMember i op).run r = (default, r) := by
  simp only [StateT.run, onMember, dif_neg hi]

/-- Hanging up a member and dropping the members whose link is down from the registry change
only the members. -/
theorem hangUp_prune_members (r : Rig) (i : Nat) :
    ∃ ms, ((do onMember i MemberM.hangUp; prune : RigM Unit).run r).2 =
      { r with members := ms } := by
  rw [run_bind]
  by_cases hi : i < r.members.size
  · rw [run_onMember _ hi]
    exact ⟨_, rfl⟩
  · rw [run_onMember_of_not_lt _ hi]
    exact ⟨_, rfl⟩

/-- Hanging up a member and dropping it from the registry leaves every sensor's frames. -/
theorem sameFrames_hangUp (r : Rig) (i : Nat) :
    r.SameFrames ((do onMember i MemberM.hangUp; prune : RigM Unit).run r).2 := by
  refine ⟨(KeepsFleet.hangUp i r).size, fun j => ?_⟩
  -- pruning only takes members out of the registry
  have hprune : ∀ r' : Rig, ((prune.run r').2.member j).sensor = (r'.member j).sensor := by
    intro r'
    show ((r'.members.map fun m : Member =>
      if m.connected then m else { m with registered := false }).getD j default).sensor =
        (r'.members.getD j default).sensor
    rw [Array.getD_eq_getD_getElem?, Array.getD_eq_getD_getElem?, Array.getElem?_map]
    cases r'.members[j]? with
    | none => rfl
    | some m =>
      show (if m.connected then m else { m with registered := false }).sensor = m.sensor
      split <;> rfl
  -- a sensor that hangs up keeps its frames
  have hhang : (((onMember i MemberM.hangUp).run r).2.member j).sensor.frames =
      (r.member j).sensor.frames := by
    by_cases hi : i < r.members.size
    · rw [run_onMember _ hi, r.member_set hi]
      split_ifs with hji
      · subst hji
        rfl
      · rfl
    · rw [run_onMember_of_not_lt _ hi]
  rw [run_bind, hprune]
  exact hhang

end Rig

/-- What every schedule keeps on a rig with no session store and hardware sync off: the fleet
stays sound, no recording is hardware-synchronized, and every thread tallies. -/
structure Threads.Tallied (t : Threads) : Prop where
  sound : t.rig.Sound
  store : t.rig.store = none
  hwSync : t.rig.hwSync = false
  syncMode : t.rig.syncMode ≠ .hardware
  threads : ∀ th ∈ t.threads, th.Tallies t.rig

namespace Thread

variable {r : Rig} {sv : Bool} {ths : List Thread} {i n : Nat} {th : Thread}

/-- A start's checks leave the rig; a start they admit goes on with the network recording of
the usable sensors. -/
theorem step_starting_admits (r : Rig) :
    ((Thread.starting.step.run r).1.1 = .returned ∨
      ∃ m ids, (admitRecording.run r).1 = .ok (m, ids) ∧
        (Thread.starting.step.run r).1.1 = .admitted m ids) ∧
      (Thread.starting.step.run r).1.2 = [] ∧ (Thread.starting.step.run r).2 = r := by
  simp only [Thread.step, run_bind]
  rw [admitRecording_rig]
  split
  · exact ⟨.inl rfl, rfl, rfl⟩
  · rename_i m ids hadm
    exact ⟨.inr ⟨m, ids, hadm, rfl⟩, rfl, rfl⟩

/-- A start announces Recording, then prepares its recording, on the rig the preparation
leaves: prepared, or to give up. -/
theorem step_preparing_cases (m : SyncMode) (ids : List Nat) (r : Rig) :
    ((Thread.preparing m ids).step.run r).2 =
        ((prepareRecording m ids).run ((announce .recording).run r).2).2 ∧
      ((Thread.preparing m ids).step.run r).1.2 = [] ∧
      (((Thread.preparing m ids).step.run r).1.1 = .abandoning ∨
        ∃ o, ((prepareRecording m ids).run ((announce .recording).run r).2).1 = .ok o ∧
          ((Thread.preparing m ids).step.run r).1.1 = .prepared o) := by
  simp only [Thread.step, run_bind]
  generalize (prepareRecording m ids).run ((announce .recording).run r).2 = res
  obtain ⟨res, r'⟩ := res
  cases res with
  | error f => exact ⟨rfl, rfl, .inl rfl⟩
  | ok o => exact ⟨rfl, rfl, .inr ⟨o, rfl, rfl⟩⟩

/-- What a start's preparation keeps: the fleet stays sound with no store, the next take path
is used, and a prepared recording holds on its members the frames it counted, none. -/
theorem step_preparing_tallies {m : SyncMode} {ids : List Nat} (hr : r.Sound)
    (hs : r.store = none) (ht : (Thread.preparing m ids).Tallies r) (hfit : r.TakesFit (n + 1)) :
    ((Thread.preparing m ids).step.run r).2.Sound ∧
      ((Thread.preparing m ids).step.run r).2.members.size = r.members.size ∧
      ((Thread.preparing m ids).step.run r).2.store = none ∧
      ((Thread.preparing m ids).step.run r).2.TakesFit n ∧
      ∀ x ∈ ((Thread.preparing m ids).step.run r).1.1 :: ((Thread.preparing m ids).step.run r).1.2,
        x.Tallies ((Thread.preparing m ids).step.run r).2 := by
  obtain ⟨hnet, hnd, hlt⟩ := ht
  obtain ⟨hrig, hnil, hcase⟩ := step_preparing_cases m ids r
  have hcfg := (Thread.settled_step (.preparing m ids) r).config
  rw [hnil]
  rw [hrig] at hcfg ⊢
  -- announcing Recording changes nothing of the fleet, the store or the take counters
  set r₁ := ((announce .recording).run r).2
  have hs₁ : r₁.store = none := hs
  have hm₁ : r₁.members = r.members := rfl
  obtain ⟨hidx, hs₂, htakes₂⟩ := nextTakeIndex_of_none hs₁ r₁.config.takeNameOr
  have hpath : ∀ index, ((nextTakeIndex r₁.config.takeNameOr).run r₁).1 = .ok index →
      (Utf8.encode (r₁.config.takeNameOr ++ "_" ++ toString index)).length ≤
        Wire.maxListEntries := by
    intro index h
    rw [hidx, Except.ok.injEq] at h
    subst h
    exact hfit 0 (by omega)
  have hhw : m ≠ .hardware := by
    rw [hnet]
    decide
  obtain ⟨hkept, hprep⟩ := prepareRecording_prepares (r := r₁) hr hnd hlt hhw hpath
  have hm₂ := nextTakeIndex_members r₁.config.takeNameOr r₁
  have hr₂ : ((nextTakeIndex r₁.config.takeNameOr).run r₁).2.Sound :=
    fun x hx => hr x (hm₂ ▸ hx)
  obtain ⟨hs', htakes'⟩ := hkept.takes hs₂
  have hsize : ((prepareRecording m ids).run r₁).2.members.size = r.members.size := by
    rw [hkept.size, hm₂, hm₁]
  refine ⟨hkept.sound hr₂, hsize, hs', hfit.next hcfg ?_, ?_⟩
  · -- the preparation took the next index of the take name
    apply Rig.takeCount_eq
    rw [htakes', htakes₂, hcfg]
    rfl
  · rw [List.forall_mem_singleton]
    rcases hcase with habandon | ⟨o, hok, hprepared⟩
    · rw [habandon]
      trivial
    · -- a prepared recording starts with no stored frame on any of its members
      obtain ⟨hsub, hframes, hmode, hempty⟩ := hprep o hok
      rw [hprepared]
      refine ⟨hmode.trans hnet, hsub.nodup hnd, fun i hi => hsize ▸ hlt i (hsub.subset hi),
        fun i hi => ?_, fun i hi => (hempty i hi).2⟩
      rw [(hempty i hi).1, hframes]
      rfl

/-- The threads a step leaves in place of a thread that tallies, other than a start's
preparation, tally on the rig the step leaves. -/
theorem spawned_tallies (hc : Coherent r.control sv ths) (hi : ths[i]? = some th)
    (hr : r.Sound) (hm : r.syncMode ≠ .hardware) (ht : th.Tallies r)
    (hprep : ∀ m ids, th ≠ .preparing m ids) :
    ∀ x ∈ (th.step.run r).1.1 :: (th.step.run r).1.2, x.Tallies (th.step.run r).2 := by
  rw [List.forall_mem_cons]
  cases th with
  | starting =>
    obtain ⟨hcase, hnil, hrig⟩ := step_starting_admits r
    rw [hnil, hrig]
    refine ⟨?_, List.forall_mem_nil _⟩
    rcases hcase with hret | ⟨m, ids, hadm, hadmitted⟩
    · rw [hret]
      trivial
    · -- the admitted sensors are the usable ones, in network sync
      obtain ⟨hnet, rfl⟩ := admitRecording_network hm hadm
      rw [hadmitted]
      exact ⟨hnet, r.live_nodup, fun i hi => Rig.lt_of_mem_live hi⟩
  | admitted m ids =>
    rcases step_admitted r m ids with hrun | ⟨-, -, hrun⟩ <;> rw [hrun]
    · exact ⟨trivial, List.forall_mem_nil _⟩
    · exact ⟨ht, List.forall_mem_nil _⟩
  | preparing m ids => exact absurd rfl (hprep m ids)
  | prepared o =>
    rw [step_prepared]
    -- the session's drive starts capturing with the recording as it was prepared
    exact ⟨trivial, List.forall_mem_singleton.2 ⟨ht.1, ht.2.sameFrames (.of_members rfl)⟩⟩
  | drive d =>
    rw [step_drive]
    have hpub := hc.published d (List.mem_of_getElem? hi)
    exact ⟨⟨(d.follows_step r).mode.trans ht.1, Drive.tallies_step hr ht.1 hpub ht.2⟩,
      List.forall_mem_nil _⟩
  | abandoning => rw [step_abandoning]; exact ⟨trivial, List.forall_mem_nil _⟩
  | abandoned => rw [(step_abandoned r).1]; exact ⟨trivial, List.forall_mem_nil _⟩
  | refineCalled =>
    rcases step_refineCalled r with ⟨hrun, -⟩ | ⟨ids, hrun, -⟩ <;> rw [hrun] <;>
      exact ⟨trivial, List.forall_mem_nil _⟩
  | refining ids => rw [(step_refining r ids).1]; exact ⟨trivial, List.forall_mem_nil _⟩
  | refined => rw [step_refined]; exact ⟨trivial, List.forall_mem_nil _⟩
  | returned => rw [step_returned]; exact ⟨trivial, List.forall_mem_nil _⟩

/-- One step of a thread that tallies, among coherent threads on a sound fleet with no store:
the fleet stays sound and keeps its size and no store, one take path at most is used, and the
threads the step leaves tally. -/
theorem step_tallies (hc : Coherent r.control sv ths) (hi : ths[i]? = some th) (hr : r.Sound)
    (hs : r.store = none) (hm : r.syncMode ≠ .hardware) (ht : th.Tallies r)
    (hfit : r.TakesFit (n + 1)) :
    (th.step.run r).2.Sound ∧ (th.step.run r).2.members.size = r.members.size ∧
      (th.step.run r).2.store = none ∧ (th.step.run r).2.TakesFit n ∧
      ∀ x ∈ (th.step.run r).1.1 :: (th.step.run r).1.2, x.Tallies (th.step.run r).2 := by
  by_cases hprep : ∃ m ids, th = .preparing m ids
  · obtain ⟨m, ids, rfl⟩ := hprep
    exact step_preparing_tallies hr hs ht hfit
  have hprep' : ∀ m ids, th ≠ .preparing m ids := fun m ids h => hprep ⟨m, ids, h⟩
  -- any other step keeps the fleet: a drive of a network recording is never in Reconciling
  have hkeeps : KeepsFleet th.step := KeepsFleet.threadStep hprep' fun d hd => by
    subst hd
    have hpub := hc.published d (List.mem_of_getElem? hi)
    exact ⟨by rw [ht.1]; decide, Drive.stage_ne_reconciling ht.1 hpub⟩
  have hk := hkeeps r
  obtain ⟨hs', htakes⟩ := hk.takes hs
  exact ⟨hk.sound hr, hk.size, hs', hfit.of_takes (th.settled_step r).config htakes,
    spawned_tallies hc hi hr hm ht hprep'⟩

/-- A step of one thread keeps what every other thread tallies: either the stepping thread
holds the state machine or the refinement flag, and then no other thread holds the state
machine, or it leaves every sensor's frames alone. -/
theorem Tallies.of_other_step {j : Nat} {x : Thread} (hc : Coherent r.control sv ths)
    (hi : ths[i]? = some th) (hj : ths[j]? = some x) (hji : j ≠ i) (hx : x.Tallies r)
    (hsize : (th.step.run r).2.members.size = r.members.size) :
    x.Tallies (th.step.run r).2 := by
  cases hP : th.holdsPhase
  · cases hF : th.holdsFlag
    · exact hx.sameFrames (sameFrames_step hP hF r)
    · exact hx.of_not_holdsPhase (hc.not_holdsPhase_of_flag hi hF (List.mem_of_getElem? hj)) hsize
  · exact hx.of_not_holdsPhase (hc.not_holdsPhase_of_ne hi hP hj hji) hsize

/-- Stopping or cancelling a drive leaves what it tallies. -/
theorem Tallies.signal {d : Drive} (h : (Thread.drive d).Tallies r) (stopped cancelled : Bool) :
    (Thread.drive { d with stopped, cancelled }).Tallies r := h

end Thread

namespace Threads

variable {t : Threads} {sv : Bool} {n : Nat}

/-- Every thread's step keeps the tallies, and uses up at most one take path. -/
theorem tallied_advance (hc : Coherent t.rig.control sv t.threads) (h : t.Tallied)
    (hfit : t.rig.TakesFit (n + 1)) (i : Nat) :
    (t.advance i).Tallied ∧ (t.advance i).rig.TakesFit n := by
  cases hi : t.threads[i]? with
  | none =>
    rw [advance_of_none hi]
    exact ⟨h, hfit.mono (Nat.le_succ n)⟩
  | some th =>
    rw [advance_eq hi]
    obtain ⟨hr, hsize, hs, hfit', hnew⟩ := Thread.step_tallies hc hi h.sound h.store h.syncMode
      (h.threads th (List.mem_of_getElem? hi)) hfit
    have hset := th.settled_step t.rig
    refine ⟨⟨hr, hs, hset.hwSync.trans h.hwSync, hset.syncMode ▸ h.syncMode,
      fun x hx => ?_⟩, hfit'⟩
    rcases List.mem_append.1 hx with hx | hx
    · -- the thread that stepped, or another one as it was
      rcases List.mem_set_cases hx with rfl | ⟨j, hji, hj⟩
      · exact hnew _ List.mem_cons_self
      · exact (h.threads x (List.mem_of_getElem? hj)).of_other_step hc hi hj hji hsize
    · exact hnew x (List.mem_cons_of_mem _ hx)

/-- A call leaves the configuration and the take counters. -/
theorem call_takes (t : Threads) (c : Call) :
    (t.call c).rig.config = t.rig.config ∧ (t.call c).rig.takes = t.rig.takes := by
  cases c with
  | setSyncMode m =>
    show ((setSyncMode m).run t.rig).2.config = _ ∧ ((setSyncMode m).run t.rig).2.takes = _
    rcases setSyncMode_cases (r := t.rig) m with ⟨f, hf⟩ | ⟨-, -, hf⟩ <;> rw [hf] <;>
      exact ⟨rfl, rfl⟩
  | fleetEmptied =>
    show (dropHardwareSync.run t.rig).2.config = _ ∧ (dropHardwareSync.run t.rig).2.takes = _
    simp only [dropHardwareSync, run_modify]
    split <;> exact ⟨rfl, rfl⟩
  | hangUp i =>
    show ((do onMember i MemberM.hangUp; prune : RigM Unit).run t.rig).2.config = _ ∧
      ((do onMember i MemberM.hangUp; prune : RigM Unit).run t.rig).2.takes = _
    obtain ⟨ms, hrun⟩ := t.rig.hangUp_prune_members i
    rw [hrun]
    exact ⟨rfl, rfl⟩
  | _ => exact ⟨rfl, rfl⟩

/-- Every call keeps the tallies. -/
theorem tallied_call (h : t.Tallied) (c : Call) : (t.call c).Tallied := by
  cases c with
  | startRecording | refine =>
    -- the new thread has not started yet
    exact ⟨h.sound, h.store, h.hwSync, h.syncMode,
      List.forall_mem_append.2 ⟨h.threads, List.forall_mem_singleton.2 trivial⟩⟩
  | stopRecording =>
    refine ⟨h.sound, h.store, h.hwSync, h.syncMode, fun x hx => ?_⟩
    obtain ⟨th, hth, rfl⟩ := List.mem_map.1 hx
    have ht := h.threads th hth
    cases th with
    | drive d =>
      -- only a capturing drive is asked to stop, which changes nothing it tallies
      show (Thread.drive (if d.stage == .capturing then { d with stopped := true } else d)).Tallies
        t.rig
      split
      · exact ht.signal true d.cancelled
      · exact ht
    | _ => exact ht
  | stop i | cancel i =>
    refine ⟨h.sound, h.store, h.hwSync, h.syncMode, fun x hx => ?_⟩
    simp only [call, signal] at hx
    rw [List.modify_eq_set] at hx
    rcases List.mem_or_eq_of_mem_set hx with hx | rfl
    · exact h.threads x hx
    · cases hi : t.threads[i]? with
      | none => trivial
      | some th =>
        have ht := h.threads th (List.mem_of_getElem? hi)
        simp only [Option.getD_some]
        cases th with
        | drive d => exact ht.signal _ _
        | _ => exact ht
  | setSyncMode m =>
    show (Threads.mk ((setSyncMode m).run t.rig).2 t.threads).Tallied
    rcases setSyncMode_cases (r := t.rig) m with ⟨f, hf⟩ | ⟨-, hhw, hf⟩ <;> rw [hf]
    · exact h
    · -- with hardware sync off, the mode chosen is not hardware sync
      have hm : m ≠ .hardware := fun hm => by
        have := hhw.1 hm
        rw [h.hwSync] at this
        cases this
      exact ⟨h.sound, h.store, h.hwSync, hm, fun x hx => (h.threads x hx).sameFrames
        (.of_members rfl)⟩
  | fleetEmptied =>
    show (Threads.mk (dropHardwareSync.run t.rig).2 t.threads).Tallied
    -- with hardware sync off there is nothing to drop
    have hrun : (dropHardwareSync.run t.rig).2 = t.rig := by
      simp only [dropHardwareSync, run_modify, h.hwSync, Bool.false_eq_true, if_false]
    rw [hrun]
    exact h
  | hangUp i =>
    show (Threads.mk ((do onMember i MemberM.hangUp; prune : RigM Unit).run t.rig).2
      t.threads).Tallied
    have hkept := KeepsFleet.hangUp i t.rig
    have hsame := t.rig.sameFrames_hangUp i
    obtain ⟨ms, hrun⟩ := t.rig.hangUp_prune_members i
    rw [hrun] at hkept hsame ⊢
    exact ⟨hkept.sound h.sound, h.store, h.hwSync, h.syncMode,
      fun x hx => (h.threads x hx).sameFrames hsame⟩

theorem tallied_apply (hc : Coherent t.rig.control sv t.threads) (h : t.Tallied)
    (hfit : t.rig.TakesFit (n + 1)) (e : Event) :
    (t.apply e).Tallied ∧ (t.apply e).rig.TakesFit n := by
  cases e with
  | call c =>
    obtain ⟨hcfg, htakes⟩ := t.call_takes c
    exact ⟨tallied_call h c, hfit.of_takes hcfg htakes⟩
  | advance i => exact tallied_advance hc h hfit i

/-- What every event keeps, every run keeps, while the take paths it starts fit the wire. -/
theorem tallied_run (hc : Coherent t.rig.control sv t.threads) (h : t.Tallied) (evs : List Event)
    (hfit : t.rig.TakesFit evs.length) : (t.run evs).Tallied := by
  induction evs generalizing t with
  | nil => exact h
  | cons e evs ih =>
    obtain ⟨h', hfit'⟩ := tallied_apply hc h hfit e
    exact ih (coherent_apply hc e) h' hfit'

end Threads

/-- Network recordings count exactly the frames their sensors stored, whatever the schedule:
on a sound fleet with no session store and hardware sync off, starting at rest, after any
schedule of calls and steps whose recordings' take paths fit the wire, every recording still
capturing is in network sync, and each of its members has stored exactly the frames it
counted and answers them from the first. -/
theorem Threads.capturing_members_hold_counted_frames {r : Rig} (hr : r.Sound)
    (hs : r.store = none) (hw : r.hwSync = false) (hm : r.syncMode ≠ .hardware)
    (hp : r.phase = .idle) (hrf : r.refining = false) (hrec : r.recording = none)
    (evs : List Event) (hfit : r.TakesFit evs.length) (d : Drive)
    (hd : Thread.drive d ∈ (Threads.run { rig := r } evs).threads)
    (hst : d.stage = .capturing ∨ d.stage = .captured) :
    d.ongoing.summary.mode = .network ∧ ∀ i ∈ d.ongoing.members,
      ((Threads.run { rig := r } evs).rig.member i).sensor.stored.length = d.ongoing.frames ∧
        ((Threads.run { rig := r } evs).rig.member i).sensor.cursor = 0 := by
  have hrun := Threads.tallied_run (t := { rig := r }) (coherent_atRest hp hrf hrec)
    ⟨hr, hs, hw, hm, fun _ hx => by cases hx⟩ evs hfit
  obtain ⟨hmode, ht⟩ := hrun.threads _ hd
  have hold : d.ongoing.Holds (Threads.run { rig := r } evs).rig d.ongoing.frames := by
    unfold Drive.Tallies at ht
    rcases hst with hst | hst <;> simpa only [hst] using ht
  exact ⟨hmode, fun i hi => ⟨hold.stored i hi, hold.cursor i hi⟩⟩

end DepthRig.Fleet
