import DepthRig.Proofs.Fleet.Members
import DepthRig.Proofs.Fleet.Control

/-!
# What a round does to the fleet

The rig-level operations of a recording, read member by member: an operation run on distinct
members in turn runs on each as it found it and touches nothing else (`run_fanOut`); every
operation of the coordinator keeps the fleet (`RigM.KeepsFleet`); and a network capture round
keeps exactly the members that captured, counting the round when one did.
-/

namespace DepthRig.Fleet

open RigM

namespace Rig

theorem member_eq_getElem (r : Rig) {i : Nat} (hi : i < r.members.size) :
    r.member i = r.members[i] := by
  simp [member, hi]

theorem member_set (r : Rig) {i : Nat} (hi : i < r.members.size) (m : Member) (j : Nat) :
    ({ r with members := r.members.set i m } : Rig).member j = if j = i then m else r.member j := by
  by_cases hji : j = i
  · subst hji
    simp [member, hi]
  · simp [member, Array.getD_eq_getD_getElem?, Ne.symm hji, hji]

/-- The rig after an operation has run on each of the given members in turn. -/
def runEach {β : Type} (r : Rig) (op : MemberM β) : List Nat → Rig
  | [] => r
  | i :: ids => ({ r with members := r.members.setIfInBounds i (op.run (r.member i)).2 } : Rig).runEach op ids

section RunEach

variable {β : Type} (op : MemberM β)

theorem runEach_cons (r : Rig) {i : Nat} (hi : i < r.members.size) (ids : List Nat) :
    r.runEach op (i :: ids) =
      ({ r with members := r.members.set i (op.run (r.member i)).2 } : Rig).runEach op ids := by
  rw [runEach, Array.setIfInBounds_def, dif_pos hi]

/-- Running on members changes nothing of the rig but its members. -/
theorem runEach_eq (r : Rig) (ids : List Nat) :
    r.runEach op ids = { r with members := (r.runEach op ids).members } := by
  induction ids generalizing r with
  | nil => rfl
  | cons i ids ih => rw [runEach, ih]

@[simp] theorem size_runEach (r : Rig) (ids : List Nat) :
    (r.runEach op ids).members.size = r.members.size := by
  induction ids generalizing r with
  | nil => rfl
  | cons i ids ih => rw [runEach, ih, Array.size_setIfInBounds]

/-- Each of distinct members is the operation's result on it as the rig had it; every other
member is as it was. -/
theorem member_runEach {r : Rig} {ids : List Nat} (hnd : ids.Nodup)
    (hlt : ∀ i ∈ ids, i < r.members.size) (j : Nat) :
    (r.runEach op ids).member j = if j ∈ ids then (op.run (r.member j)).2 else r.member j := by
  induction ids generalizing r with
  | nil => rfl
  | cons i ids ih =>
    obtain ⟨hi, hnd⟩ := List.nodup_cons.1 hnd
    have hlti : i < r.members.size := hlt i (by simp)
    rw [runEach_cons op r hlti, ih hnd fun k hk => by simpa using hlt k (by simp [hk]),
      r.member_set hlti]
    by_cases hj : j ∈ ids
    · -- a member still to come is not the one just run on
      have hji : j ≠ i := fun h => hi (h ▸ hj)
      simp [hj, hji]
    · by_cases hji : j = i
      · simp [hji, hi]
      · simp [hj, hji]

end RunEach

end Rig

namespace RigM

theorem run_onMember {γ : Type} [Inhabited γ] (op : MemberM γ) {r : Rig} {i : Nat}
    (hi : i < r.members.size) :
    (onMember i op).run r =
      ((op.run (r.member i)).1, { r with members := r.members.set i (op.run (r.member i)).2 }) := by
  simp only [StateT.run, onMember, dif_pos hi, r.member_eq_getElem hi]
  rfl

/-- The outcome of an operation on a member, with the endpoint and serial read before it. -/
def outcomeOf (op : MemberM (Option Fault)) (m : Member) : Outcome :=
  { endpoint := m.link.endpoint, serial := m.serial, fault := (op.run m).1 }

/-- Steps each of which runs one operation on one member, run on distinct members in turn:
each runs on its member as it found it, and each result is read off that run alone. -/
theorem run_mapM_member {β γ : Type} [Inhabited β] (op : MemberM β) (g : Member → β → γ)
    {F : Nat → RigM γ}
    (hF : ∀ i (r : Rig) (hi : i < r.members.size), (F i).run r =
      (g (r.member i) (op.run (r.member i)).1,
        { r with members := r.members.set i (op.run (r.member i)).2 }))
    {ids : List Nat} {r : Rig} (hnd : ids.Nodup) (hlt : ∀ i ∈ ids, i < r.members.size) :
    (ids.mapM F).run r = (ids.map fun i => g (r.member i) (op.run (r.member i)).1, r.runEach op ids) := by
  induction ids generalizing r with
  | nil => rfl
  | cons i ids ih =>
    obtain ⟨hi, hnd⟩ := List.nodup_cons.1 hnd
    have hlti : i < r.members.size := hlt i (by simp)
    simp only [List.mapM_cons, run_bind, hF i r hlti, run_pure, Rig.runEach_cons op r hlti,
      List.map_cons]
    generalize hr₁ : ({ r with members := r.members.set i (op.run (r.member i)).2 } : Rig) = r₁
    -- the members still to come are as the rig had them
    have hsame : ∀ k ∈ ids, r₁.member k = r.member k := by
      intro k hk
      rw [← hr₁, r.member_set hlti, if_neg (fun h : k = i => hi (h ▸ hk))]
    have hlt₁ : ∀ k ∈ ids, k < r₁.members.size := by
      intro k hk
      rw [← hr₁]
      simpa using hlt k (by simp [hk])
    rw [ih hnd hlt₁, List.map_congr_left fun k hk => by rw [hsame k hk]]

/-- An operation run on distinct members in turn runs on each as it found it: each outcome is
the operation's on that member alone. -/
theorem run_fanOut (op : MemberM (Option Fault)) {ids : List Nat} {r : Rig} (hnd : ids.Nodup)
    (hlt : ∀ i ∈ ids, i < r.members.size) :
    (fanOut ids op).run r = (ids.map fun i => outcomeOf op (r.member i), r.runEach op ids) := by
  unfold fanOut
  exact run_mapM_member op
    (fun m fault => ({ endpoint := m.link.endpoint, serial := m.serial, fault } : Outcome))
    (fun i r hi => by simp only [run_bind, run_get, run_onMember op hi, run_pure]) hnd hlt

end RigM

/-- Every member of the rig is sound. -/
def Rig.Sound (r : Rig) : Prop := ∀ m ∈ r.members, m.Sound

theorem Rig.Sound.member {r : Rig} (h : r.Sound) {i : Nat} (hi : i < r.members.size) :
    (r.member i).Sound := by
  rw [r.member_eq_getElem hi]
  exact h _ (Array.getElem_mem hi)

/-- What a step from `r` to `r'` keeps of the fleet: sound members stay sound, the fleet keeps
its size, and with no session store the take counters stay as they were. -/
structure Rig.Kept (r r' : Rig) : Prop where
  sound : r.Sound → r'.Sound
  size : r'.members.size = r.members.size
  takes : r.store = none → r'.store = none ∧ r'.takes = r.takes

namespace Rig.Kept

@[refl] theorem refl (r : Rig) : Kept r r := ⟨id, rfl, fun h => ⟨h, rfl⟩⟩

@[trans] theorem trans {r r' r'' : Rig} (h : Kept r r') (h' : Kept r' r'') : Kept r r'' where
  sound hr := h'.sound (h.sound hr)
  size := h'.size.trans h.size
  takes hs := ⟨(h'.takes (h.takes hs).1).1, (h'.takes (h.takes hs).1).2.trans (h.takes hs).2⟩

/-- A step that leaves the members, and with no store leaves none and the take counters. -/
theorem of_members {r r' : Rig} (hm : r'.members = r.members)
    (hs : r.store = none → r'.store = none ∧ r'.takes = r.takes) : Kept r r' where
  sound hr m hmem := hr m (hm ▸ hmem)
  size := by rw [hm]
  takes := hs

end Rig.Kept

namespace RigM

/-- `op` keeps the fleet from every rig. -/
def KeepsFleet {α : Type} (op : RigM α) : Prop := ∀ r : Rig, Rig.Kept r (op.run r).2

namespace KeepsFleet

variable {α β : Type}

protected theorem pure (a : α) : KeepsFleet (pure a : RigM α) :=
  fun r => .refl r

protected theorem get : KeepsFleet (get : RigM Rig) :=
  fun r => .refl r

protected theorem bind {p : RigM α} {k : α → RigM β} (hp : KeepsFleet p)
    (hk : ∀ a, KeepsFleet (k a)) : KeepsFleet (p >>= k) :=
  fun r => (hp r).trans (hk (p.run r).1 (p.run r).2)

protected theorem mapM {γ : Type} {xs : List γ} {f : γ → RigM α} (hf : ∀ x, KeepsFleet (f x)) :
    KeepsFleet (xs.mapM f) := by
  induction xs with
  | nil => exact KeepsFleet.pure _
  | cons x xs ih =>
    rw [List.mapM_cons]
    exact (hf x).bind fun _ => ih.bind fun _ => KeepsFleet.pure _

/-- A change of the rig that leaves the members, and with no store leaves none and the take
counters. -/
theorem of_modify {f : Rig → Rig} (hm : ∀ r, (f r).members = r.members)
    (hs : ∀ r, r.store = none → (f r).store = none ∧ (f r).takes = r.takes) :
    KeepsFleet (modify f) :=
  fun r => .of_members (hm r) (hs r)

/-- A change of the rig outside the members, the store and the take counters. -/
theorem of_modify_other {f : Rig → Rig} (hm : ∀ r, (f r).members = r.members)
    (hs : ∀ r, (f r).store = r.store) (ht : ∀ r, (f r).takes = r.takes) :
    KeepsFleet (modify f) :=
  of_modify hm fun r h => ⟨(hs r).trans h, ht r⟩

/-- An operation on one member that keeps members sound. -/
theorem onMember {γ : Type} [Inhabited γ] (i : Nat) {op : MemberM γ}
    (hop : ∀ m : Member, m.Sound → (op.run m).2.Sound) : KeepsFleet (onMember i op) := by
  intro r
  by_cases hi : i < r.members.size
  · rw [run_onMember op hi]
    refine ⟨fun hr m hm => ?_, by simp, fun h => ⟨h, rfl⟩⟩
    rcases Array.mem_or_eq_of_mem_set (w := hi) hm with hold | rfl
    · exact hr m hold
    · exact hop _ (hr.member hi)
  · have hrun : (RigM.onMember i op).run r = (default, r) := by
      simp only [StateT.run, RigM.onMember, dif_neg hi]
    rw [hrun]

theorem fanOut (ids : List Nat) {op : MemberM (Option Fault)}
    (hop : ∀ m : Member, m.Sound → (op.run m).2.Sound) : KeepsFleet (fanOut ids op) :=
  KeepsFleet.mapM fun i => KeepsFleet.get.bind fun _ => (onMember i hop).bind fun _ =>
    KeepsFleet.pure _

theorem tick : KeepsFleet tick :=
  fun r => ⟨id, rfl, fun h => ⟨by show r.store.map _ = none; rw [h]; rfl, rfl⟩⟩

theorem setPhase (p : Phase) : KeepsFleet (setPhase p) :=
  of_modify_other (fun _ => rfl) (fun _ => rfl) (fun _ => rfl)

theorem announce (p : Phase) : KeepsFleet (announce p) :=
  of_modify_other (fun _ => rfl) (fun _ => rfl) (fun _ => rfl)

theorem liveOrFail : KeepsFleet liveOrFail :=
  KeepsFleet.get.bind fun _ => KeepsFleet.pure _

theorem transition (source target : Phase) : KeepsFleet (transition source target) := by
  intro r
  rcases transition_cases r source target with ⟨f, h⟩ | ⟨-, -, h⟩
  · rw [h]
  · rw [h]
    exact .of_members rfl fun h => ⟨h, rfl⟩

theorem keepCalibration (serial : String) (w : Affine) (refined : Bool) :
    KeepsFleet (keepCalibration serial w refined) := by
  refine tick.bind fun _ => of_modify (fun r => ?_) (fun r hs => ?_)
  · split
    · rfl
    · rfl
    · split
      · split <;> rfl
      · rfl
  · split
    · exact ⟨hs, rfl⟩
    · exact ⟨hs, rfl⟩
    · rw [hs]
      exact ⟨hs, rfl⟩

theorem startSession (name : String) (index : Int) (mode : SyncMode) (started : Time.Stamp) :
    KeepsFleet (startSession name index mode started) := by
  intro r
  refine .of_members ?_ fun hs => ?_
  · simp only [Fleet.startSession, run_bind, run_get]
    split
    · split <;> rfl
    · rfl
  · simp only [Fleet.startSession, run_bind, run_get, hs]
    exact ⟨hs, rfl⟩

theorem finishSession (s : Summary) : KeepsFleet (finishSession s) := by
  refine of_modify (fun r => ?_) (fun r hs => ?_)
  · split
    · split <;> rfl
    · rfl
  · rw [hs]
    exact ⟨hs, rfl⟩

theorem closeSession (ongoing : Recording) : KeepsFleet (closeSession ongoing) := by
  refine (finishSession _).bind fun _ => (of_modify_other ?_ ?_ ?_).bind fun _ => KeepsFleet.pure _ <;>
    exact fun _ => rfl

theorem captureOn (ids : List Nat) : KeepsFleet (captureOn ids) :=
  fanOut ids fun _ => MemberM.capture_sound

theorem networkRound (ongoing : Recording) : KeepsFleet (networkRound ongoing) := by
  refine (captureOn _).bind fun os => ?_
  dsimp only
  split <;> split <;> exact KeepsFleet.pure _

/-- Ending the capture of a recording that free-running capture did not feed. -/
theorem endCapture {ongoing : Recording} (hmode : ongoing.summary.mode ≠ .hardware) :
    KeepsFleet (endCapture ongoing) := by
  unfold Fleet.endCapture
  dsimp only
  rw [if_neg (by simpa using hmode)]
  exact tick.bind fun _ => (fanOut _ fun _ => MemberM.postRecord_sound).bind fun _ =>
    KeepsFleet.pure _

theorem downloadRound (ids : List Nat) (done : List Bool) : KeepsFleet (downloadRound ids done) := by
  refine (KeepsFleet.mapM fun x => KeepsFleet.get.bind fun _ => ?_).bind fun results => ?_
  · split
    · exact KeepsFleet.pure _
    · exact (onMember _ fun _ => MemberM.nextStoredFrame_sound).bind fun _ => KeepsFleet.pure _
  · dsimp only
    split <;> exact KeepsFleet.pure _

theorem writeIndex {σ : Type} (sink : FrameSink σ) (index : Nat) (ids : List Nat)
    (frames : List (Option Frame)) (merge : Bool) :
    KeepsFleet (writeIndex sink index ids frames merge) := by
  refine KeepsFleet.get.bind fun _ => ?_
  split <;> exact KeepsFleet.pure _

theorem saveFrom {σ : Type} (ids : List Nat) (merge : Bool) (fuel : Nat) (sink : FrameSink σ)
    (n : Nat) (done : List Bool) : KeepsFleet (saveFrom ids merge fuel sink n done) := by
  induction fuel generalizing sink n done with
  | zero => exact KeepsFleet.pure _
  | succ fuel ih =>
    rw [Fleet.saveFrom]
    refine (downloadRound _ _).bind fun res => ?_
    split
    · exact KeepsFleet.pure _
    · dsimp only
      split
      · exact KeepsFleet.pure _
      · refine (writeIndex _ _ _ _ _).bind fun res => ?_
        split
        · exact KeepsFleet.pure _
        · split
          · exact KeepsFleet.pure _
          · exact ih _ _ _

theorem saveStored {σ : Type} (ids : List Nat) (mode : ExportMode) (merge : Bool)
    (sink : FrameSink σ) : KeepsFleet (saveStored ids mode merge sink) := by
  unfold Fleet.saveStored
  split
  · exact KeepsFleet.pure _
  · exact KeepsFleet.get.bind fun _ => saveFrom _ _ _ _ _ _

theorem saveRecording (ongoing : Recording) : KeepsFleet (saveRecording ongoing) := by
  unfold Fleet.saveRecording
  refine KeepsFleet.get.bind fun r => ?_
  split
  · exact KeepsFleet.pure _
  · refine (saveStored _ _ _ _).bind fun res => (of_modify_other ?_ ?_ ?_).bind fun _ => ?_
    · exact fun _ => rfl
    · exact fun _ => rfl
    · exact fun _ => rfl
    · dsimp only
      split <;> exact (fanOut _ fun _ => MemberM.clearStoredFrames_sound).bind fun _ =>
        KeepsFleet.pure _

theorem requirePointcloud : KeepsFleet requirePointcloud :=
  KeepsFleet.get.bind fun _ => KeepsFleet.pure _

/-- Keeping the fleet is a property that sequencing keeps. -/
theorem stable : Stable (m := RigM) fun {_} op => KeepsFleet op :=
  ⟨KeepsFleet.pure, fun hx hf => hx.bind hf⟩

theorem refineOn (ids : List Nat) : KeepsFleet (refineOn ids) := by
  refine KeepsFleet.get.bind fun r =>
    stable.refine _ _ _ (KeepsFleet.pure _) (fun _ _ _ => KeepsFleet.pure _) ?_ ?_
  · intro record hrecord serial w
    cases hrecord
    exact keepCalibration _ _ _
  · intro d hd
    obtain ⟨i, -, rfl⟩ := List.mem_map.1 hd
    exact ⟨(onMember i fun _ => MemberM.lastFrame_sound).bind fun _ => KeepsFleet.pure _,
      fun w => onMember i fun _ h => MemberM.pushWorld_sound h w⟩

theorem beginRefine : KeepsFleet beginRefine := by
  intro r
  rcases beginRefine_cases r with ⟨f, h⟩ | ⟨-, -, h⟩
  · rw [h]
  · rw [h]
    exact .of_members rfl fun h => ⟨h, rfl⟩

theorem endRefine : KeepsFleet endRefine :=
  of_modify_other (fun _ => rfl) (fun _ => rfl) (fun _ => rfl)

theorem setSyncMode (m : SyncMode) : KeepsFleet (setSyncMode m) := by
  intro r
  rcases setSyncMode_cases r m with ⟨f, h⟩ | ⟨-, -, h⟩
  · rw [h]
  · rw [h]
    exact .of_members rfl fun h => ⟨h, rfl⟩

theorem dropHardwareSync : KeepsFleet dropHardwareSync := by
  refine of_modify_other (fun r => ?_) (fun r => ?_) (fun r => ?_) <;> split <;> rfl

/-- Dropping the members whose link is down from the registry keeps every member sound. -/
theorem prune : KeepsFleet prune := by
  intro r
  -- the registry drops members whose link is down; nothing else of them changes
  have hrun : (RigM.prune.run r).2 = { r with members := r.members.map fun m =>
      if m.connected then m else { m with registered := false } } := rfl
  rw [hrun]
  refine ⟨fun hr m hm => ?_, by simp, fun h => ⟨h, rfl⟩⟩
  obtain ⟨m₀, hm₀, rfl⟩ := Array.mem_map.1 hm
  have h₀ := hr m₀ hm₀
  split
  · exact h₀
  · refine ⟨?_, h₀.readable, h₀.snapshots⟩
    rcases h₀.state with hi | hd
    · exact .inl ⟨hi.connected, hi.writes, hi.reading, hi.inbox, hi.serving, hi.pending⟩
    · exact .inr ⟨hd.disconnected, hd.stopped, hd.silent⟩

end KeepsFleet

end RigM

namespace RigM

/-- The members kept after an operation on each are those on which it did not fail. -/
theorem succeeded_map_outcomeOf (op : MemberM (Option Fault)) (f : Nat → Member) (ids : List Nat) :
    Outcomes.succeeded ids (ids.map fun i => outcomeOf op (f i)) =
      ids.filter fun i => (op.run (f i)).1.isNone := by
  induction ids with
  | nil => rfl
  | cons i ids ih =>
    simp only [List.map_cons, Outcomes.succeeded, List.zip_cons_cons, List.filter_cons,
      Outcome.failed, outcomeOf] at ih ⊢
    rw [← ih]
    cases (op.run (f i)).1 <;> rfl

theorem failed_map_outcomeOf (op : MemberM (Option Fault)) (f : Nat → Member) (ids : List Nat) :
    Outcomes.failed (ids.map fun i => outcomeOf op (f i)) =
      ids.any fun i => (op.run (f i)).1.isSome := by
  simp [Outcomes.failed, Outcome.failed, outcomeOf, List.any_map, Function.comp_def]

/-- A network capture round on distinct members of the fleet: each is asked to capture, as it
stands; the recording keeps exactly the members whose capture succeeded, counts the round
exactly when one did, and goes on exactly then. Nothing of the rig changes but the members
asked. -/
theorem networkRound_counts {ongoing : Recording} {r : Rig} (hnd : ongoing.members.Nodup)
    (hlt : ∀ i ∈ ongoing.members, i < r.members.size) :
    ((networkRound ongoing).run r).1.1.members =
        ongoing.members.filter (fun i => (MemberM.capture.run (r.member i)).1.isNone) ∧
      ((networkRound ongoing).run r).1.1.frames = ongoing.frames +
        (if ongoing.members.any (fun i => (MemberM.capture.run (r.member i)).1.isNone) then 1 else 0) ∧
      ((networkRound ongoing).run r).1.2 =
        ongoing.members.any (fun i => (MemberM.capture.run (r.member i)).1.isNone) ∧
      ((networkRound ongoing).run r).2 = r.runEach MemberM.capture ongoing.members := by
  have hfan := run_fanOut MemberM.capture hnd hlt
  -- the members kept, whether or not some failed
  have hany : (ongoing.members.filter fun i => (MemberM.capture.run (r.member i)).1.isNone).isEmpty =
      !ongoing.members.any fun i => (MemberM.capture.run (r.member i)).1.isNone := by
    cases h : ongoing.members.any (fun i => (MemberM.capture.run (r.member i)).1.isNone)
    · simp only [List.any_eq_false] at h
      simpa [List.filter_eq_nil_iff] using h
    · obtain ⟨i, hi, hc⟩ := List.any_eq_true.1 h
      simp only [Bool.not_true, List.isEmpty_eq_false_iff, ne_eq, List.filter_eq_nil_iff, not_forall]
      exact ⟨i, hi, by simp [hc]⟩
  -- the round keeps some recording `o` with the members that captured and the count so far,
  -- then counts the round unless no member is left
  obtain ⟨o, hmembers, hframes, hrun⟩ : ∃ o : Recording,
      o.members = ongoing.members.filter (fun i => (MemberM.capture.run (r.member i)).1.isNone) ∧
      o.frames = ongoing.frames ∧
      (networkRound ongoing).run r =
        (if o.members.isEmpty then
          ({ o with summary := { o.summary with error := some (Fault.noDevices.wrap "capture") } },
            false)
          else ({ o with frames := o.frames + 1 }, true),
          r.runEach MemberM.capture ongoing.members) := by
    simp only [networkRound, captureOn, run_bind, hfan]
    by_cases hfail : Outcomes.failed (ongoing.members.map fun i =>
        outcomeOf MemberM.capture (r.member i)) = true
    · rw [if_pos hfail]
      refine ⟨{ ongoing with
        members := Outcomes.succeeded ongoing.members
          (ongoing.members.map fun i => outcomeOf MemberM.capture (r.member i))
        summary := ongoing.summary.setStage "capture" (ongoing.summary.stage "capture" ++
          (ongoing.members.map fun i => outcomeOf MemberM.capture (r.member i)).filter
            Outcome.failed) },
        succeeded_map_outcomeOf _ _ _, rfl, ?_⟩
      split <;> rfl
    · rw [if_neg hfail]
      refine ⟨ongoing, ?_, rfl, ?_⟩
      · -- no capture failed, so every member is kept
        rw [failed_map_outcomeOf] at hfail
        simp only [List.any_eq_true, not_exists, not_and, Bool.not_eq_true,
          Option.isSome_eq_false_iff] at hfail
        exact (List.filter_eq_self.2 fun i hi => by simpa using hfail i hi).symm
      · split <;> rfl
  rw [hrun, hmembers, hany]
  refine ⟨?_, ?_, ?_, ?_⟩ <;>
    cases ongoing.members.any (fun i => (MemberM.capture.run (r.member i)).1.isNone) <;>
      simp [hframes]

/-- Taking the next index of a take name changes no member. -/
theorem nextTakeIndex_members (name : String) (r : Rig) :
    ((nextTakeIndex name).run r).2.members = r.members := by
  simp only [Fleet.nextTakeIndex, run_bind, run_get]
  split
  · split <;> rfl
  · rfl

/-- With no session store, the next index of a take name is one past the rig's counter for it,
which then holds it. -/
theorem nextTakeIndex_of_none {r : Rig} (hs : r.store = none) (name : String) :
    ((nextTakeIndex name).run r).1 =
        .ok ((((r.takes.find? (·.1 == name)).map (·.2)).getD 0 + 1 : Nat) : Int) ∧
      ((nextTakeIndex name).run r).2.store = none ∧
      ((nextTakeIndex name).run r).2.takes =
        (name, ((r.takes.find? (·.1 == name)).map (·.2)).getD 0 + 1) ::
          r.takes.filter (·.1 != name) := by
  have htick : (RigM.tick.run r).2.store = none := by
    show r.store.map _ = none
    rw [hs]
    rfl
  have hrun : (nextTakeIndex name).run r =
      (.ok ((((r.takes.find? (·.1 == name)).map (·.2)).getD 0 + 1 : Nat) : Int),
        { (RigM.tick.run r).2 with
          takes := (name, ((r.takes.find? (·.1 == name)).map (·.2)).getD 0 + 1) ::
            r.takes.filter (·.1 != name) }) := by
    simp only [Fleet.nextTakeIndex, run_bind, run_get, htick]
    rfl
  rw [hrun]
  exact ⟨rfl, htick, rfl⟩

theorem startSession_members (name : String) (index : Int) (mode : SyncMode)
    (started : Time.Stamp) (r : Rig) :
    ((startSession name index mode started).run r).2.members = r.members := by
  simp only [Fleet.startSession, run_bind, run_get]
  split
  · split <;> rfl
  · rfl

/-- One fan-out over distinct members, as a stage of a longer operation: its outcomes are read
off each member alone, and the rig it leaves keeps the fleet and still holds every member
asked. -/
theorem fanOut_stage (op : MemberM (Option Fault))
    (hop : ∀ m : Member, m.Sound → (op.run m).2.Sound) {ids : List Nat} {r : Rig}
    (hnd : ids.Nodup) (hlt : ∀ i ∈ ids, i < r.members.size) :
    ∃ r', (fanOut ids op).run r = (ids.map fun i => outcomeOf op (r.member i), r') ∧
      r' = r.runEach op ids ∧ Rig.Kept r r' ∧ ∀ i ∈ ids, i < r'.members.size := by
  have hrun := run_fanOut op hnd hlt
  have hkept : Rig.Kept r (r.runEach op ids) := by
    simpa only [hrun] using KeepsFleet.fanOut ids hop r
  refine ⟨_, hrun, rfl, hkept, fun i hi => ?_⟩
  rw [Rig.size_runEach]
  exact hlt i hi

/-- Preparing a recording on distinct members of a sound fleet, with a take path within the
list limit: the fleet stays sound, and a recording that is prepared keeps some of the members
asked, each with no stored frame, and has counted no frame yet. -/
theorem prepareRecording_prepares {mode : SyncMode} {ids : List Nat} {r : Rig} (hr : r.Sound)
    (hnd : ids.Nodup) (hlt : ∀ i ∈ ids, i < r.members.size) (hmode : mode ≠ .hardware)
    (hpath : ∀ index, ((nextTakeIndex r.config.takeNameOr).run r).1 = .ok index →
      (Utf8.encode (r.config.takeNameOr ++ "_" ++ toString index)).length ≤ Wire.maxListEntries) :
    Rig.Kept ((nextTakeIndex r.config.takeNameOr).run r).2 ((prepareRecording mode ids).run r).2 ∧
      ∀ o, ((prepareRecording mode ids).run r).1 = .ok o →
        o.members.Sublist ids ∧ o.frames = 0 ∧ o.summary.mode = mode ∧
        ∀ i ∈ o.members, (((prepareRecording mode ids).run r).2.member i).sensor.stored = [] ∧
          (((prepareRecording mode ids).run r).2.member i).sensor.cursor = 0 := by
  have hm₁ := nextTakeIndex_members r.config.takeNameOr r
  have hhw : ¬((mode == SyncMode.hardware) = true) := by simpa using hmode
  unfold prepareRecording
  simp only [run_bind, run_get, if_neg hhw]
  generalize (nextTakeIndex r.config.takeNameOr).run r = F₁ at hpath hm₁ ⊢
  obtain ⟨res, r₁⟩ := F₁
  cases res with
  | error f => exact ⟨.refl _, fun o h => by cases h⟩
  | ok index =>
    have hr₁ : r₁.Sound := fun m hm => hr m (hm₁ ▸ hm)
    have hlt₁ : ∀ i ∈ ids, i < r₁.members.size := by
      rw [hm₁]
      exact hlt
    simp only [run_bind, run_pure]
    -- every member asked creates the take's directory; the preparation ends if one fails
    obtain ⟨r₂, hF₂, -, hk₂, hlt₂⟩ := fanOut_stage _
      (fun _ h => MemberM.createDirectory_sound h (hpath index rfl)) hnd hlt₁
    rw [hF₂]
    dsimp only
    split
    · exact ⟨hk₂, fun o h => by cases h⟩
    simp only [run_bind]
    -- then clears its stored frames, and runs the pre-recording handshake
    obtain ⟨r₃, hF₃, hr₃, hk₃, hlt₃⟩ := fanOut_stage _
      (fun _ h => MemberM.clearStoredFrames_sound h) hnd hlt₂
    obtain ⟨r₄, hF₄, hr₄, hk₄, -⟩ := fanOut_stage _ (fun _ h => MemberM.preRecord_sound h) hnd hlt₃
    rw [hF₃, hF₄]
    dsimp only
    split
    · exact ⟨hk₂.trans (hk₃.trans hk₄), fun o h => by cases h⟩
    -- the members kept are those whose handshake succeeded
    rw [succeeded_map_outcomeOf]
    have hk₅ := (KeepsFleet.tick.bind fun t =>
      KeepsFleet.startSession r.config.takeNameOr index mode t) r₄
    have hm₅ : ((do let t ← RigM.tick; startSession r.config.takeNameOr index mode t).run r₄).2.members =
        r₄.members := by
      rw [run_bind, startSession_members]
      rfl
    simp only [run_bind] at hk₅ hm₅ ⊢
    refine ⟨hk₂.trans (hk₃.trans (hk₄.trans hk₅)), fun o h => ?_⟩
    simp only [run_pure, Except.ok.injEq] at h ⊢
    subst h
    refine ⟨List.filter_sublist, rfl, rfl, fun i hi => ?_⟩
    obtain ⟨hids, hok⟩ := List.mem_filter.1 hi
    have hmember : ∀ r' : Rig, r'.members = r₄.members → r'.member i = r₄.member i :=
      fun r' h => by simp only [Rig.member, h]
    -- the member as the handshake left it, after the clearing
    have hcleared : r₃.member i = ((MemberM.exchange LinkM.clearStoredFrames).run (r₂.member i)).2 := by
      rw [hr₃, Rig.member_runEach _ hnd hlt₂, if_pos hids]
    rw [hmember _ hm₅, hr₄, Rig.member_runEach _ hnd hlt₃, if_pos hids, hcleared]
    rw [hcleared] at hok
    exact MemberM.preRecord_after_clear ((hk₂.sound hr₁).member (hlt₂ i hids))
      (Option.isNone_iff_eq_none.1 hok)

@[simp] theorem Summary.frames_setStage (s : Summary) (stage : String) (os : List Outcome) :
    (s.setStage stage os).frames = s.frames := by
  unfold Summary.setStage
  split <;> rfl

/-- Ending the capture of a recording that free-running capture did not feed, on distinct
members: the recording keeps its members and notes the frames counted, and the only change to
the fleet is the post-recording handshake on each member. -/
theorem endCapture_network {ongoing : Recording} {r : Rig} (hmode : ongoing.summary.mode ≠ .hardware)
    (hnd : ongoing.members.Nodup) (hlt : ∀ i ∈ ongoing.members, i < r.members.size) :
    ((endCapture ongoing).run r).1.members = ongoing.members ∧
      ((endCapture ongoing).run r).1.summary.frames = ongoing.frames ∧
      ((endCapture ongoing).run r).2 = (RigM.tick.run r).2.runEach MemberM.postRecord ongoing.members := by
  unfold endCapture
  dsimp only
  rw [if_neg (by simpa using hmode), run_bind]
  -- the clock moves; the members stay
  have hlt' : ∀ i ∈ ongoing.members, i < (RigM.tick.run r).2.members.size := hlt
  simp only [run_bind, run_fanOut _ hnd hlt', run_pure, Summary.frames_setStage, and_self]

end RigM

end DepthRig.Fleet
