import DepthRig.Proofs.Fleet.Rounds

/-!
# Saving stored frames

A member that stays in step while its frames are downloaded answers them one by one, as the
wire carries them, then says it has no more. So on distinct members, each from its first
stored frame, saving writes as many indexes as the most frames any member stored, each index
once and without a fault; when every member is sound, each index is every member's view of
its sensor.
-/

namespace DepthRig.Fleet

open RigM Simulator Wire

/-- The frame a member hands over for saving: the view of its sensor, as the wire carries it. -/
def Member.savedFrame (m : Member) : Frame := (FrameRecords.ofFrame m.sensor.snapshot).frame

/-- What a sink that takes every write holds once index `k` is written from the members `ms`,
each giving its saved frame: merged in world coordinates, or each under its serial. -/
def indexWritten {σ : Type} (put : σ → Nat → List UInt8 → Frame → σ) (merge : Bool)
    (ms : List Member) (k : Nat) (st : σ) : σ :=
  if merge then put st k [] (Frame.merge (ms.map fun m => some (toWorld m.link.world m.savedFrame)))
  else ms.foldl (fun st m => put st k m.link.config.serial m.savedFrame) st

/-- A member part way through downloading the stored frames of `m₀`: in step, with the frames
of `m₀` answered from the `k`-th on, and the world transform and configuration of `m₀`. -/
structure Member.Downloading (m m₀ : Member) (k : Nat) : Prop where
  inStep : m.InStep
  frames : m.sensor.frames = { m₀.sensor.frames with cursor := k }
  world : m.link.world = m₀.link.world
  config : m.link.config = m₀.link.config

/-- A member in step, from the first of its stored frames, starts downloading them. -/
theorem Member.Downloading.start {m : Member} (h : m.InStep) (hc : m.sensor.cursor = 0) :
    m.Downloading m 0 :=
  ⟨h, by rw [← hc]; rfl, rfl, rfl⟩

/-- The `t`-th stored frame of a member as the wire carries it, or none when it stored fewer. -/
def Member.storedFrame (m : Member) (t : Nat) : Option Frame :=
  m.sensor.stored[t]?.map fun shot => (FrameRecords.ofFrame shot.frame).frame

/-- A write that saving makes into its sink: the index, the serial (empty for a merged frame)
and the frame. -/
structure SinkWrite where
  index : Nat
  device : List UInt8
  frame : Frame

/-- The writes of index `t` from the members `ms`: the merge of their `t`-th frames in world
coordinates, or each `t`-th frame there is under its member's serial, in member order. -/
def savedWrites (merge : Bool) (ms : List Member) (t : Nat) : List SinkWrite :=
  if merge then [⟨t, [], Frame.merge (ms.map fun m => (m.storedFrame t).map (toWorld m.link.world))⟩]
  else ms.filterMap fun m => (m.storedFrame t).map fun f => ⟨t, m.link.config.serial, f⟩

/-- What a sink that takes every write holds after the given writes, in order. -/
def putAll {σ : Type} (put : σ → Nat → List UInt8 → Frame → σ) (st : σ) (ws : List SinkWrite) : σ :=
  ws.foldl (fun st w => put st w.index w.device w.frame) st

/-- The largest of some numbers, zero for none. -/
theorem foldr_max_le_iff {ks : List Nat} {t : Nat} : ks.foldr max 0 ≤ t ↔ ∀ k ∈ ks, k ≤ t := by
  induction ks with
  | nil => simp
  | cons k ks ih => simp [ih]

theorem Member.storedFrame_eq_none_iff (m : Member) (t : Nat) :
    m.storedFrame t = none ↔ m.sensor.stored.length ≤ t := by
  simp [Member.storedFrame]

@[simp] theorem putAll_nil {σ : Type} (put : σ → Nat → List UInt8 → Frame → σ) (st : σ) :
    putAll put st [] = st := rfl

@[simp] theorem putAll_append {σ : Type} (put : σ → Nat → List UInt8 → Frame → σ) (st : σ)
    (ws ws' : List SinkWrite) : putAll put st (ws ++ ws') = putAll put (putAll put st ws) ws' :=
  List.foldl_append

@[simp] theorem putAll_cons {σ : Type} (put : σ → Nat → List UInt8 → Frame → σ) (st : σ)
    (w : SinkWrite) (ws : List SinkWrite) :
    putAll put st (w :: ws) = putAll put (put st w.index w.device w.frame) ws := rfl

/-- The writes of several indexes are those of each index in turn. -/
theorem putAll_flatMap {σ α : Type} (put : σ → Nat → List UInt8 → Frame → σ) (st : σ)
    (l : List α) (f : α → List SinkWrite) :
    putAll put st (l.flatMap f) = l.foldl (fun st a => putAll put st (f a)) st := by
  induction l generalizing st with
  | nil => rfl
  | cons a l ih => rw [List.flatMap_cons, putAll_append, ih, List.foldl_cons]

/-- A sound member's stored frames are all its saved frame. -/
theorem Member.storedFrame_of_sound {m : Member} (h : m.Sound) {k : Nat}
    (hk : k < m.sensor.stored.length) : m.storedFrame k = some m.savedFrame := by
  rw [Member.storedFrame, List.getElem?_eq_getElem hk, Option.map_some,
    h.snapshots _ (List.getElem_mem hk)]
  rfl

/-- A sound member's link reads back every frame it stored. -/
theorem Member.Sound.storedReadable {m : Member} (h : m.Sound) :
    ∀ shot ∈ m.sensor.stored, FrameReadable shot.frame m.sensor.setup.compress := by
  intro shot hshot
  rw [h.snapshots shot hshot]
  exact h.readable

namespace MemberM

/-- One stored frame asked of a member downloading, from the `k`-th on, the stored frames of
`m₀`, each of which its link reads back: the `k`-th as the wire carries it, with more to come,
and the member moves on by one; past the last, none with no more, and the member stays. -/
theorem nextStoredFrame_at {m₀ m : Member} {k : Nat}
    (hread : ∀ shot ∈ m₀.sensor.stored, FrameReadable shot.frame m₀.sensor.setup.compress)
    (h : m.Downloading m₀ k) :
    (nextStoredFrame.run m).1 =
        ((m₀.storedFrame k, decide (k < m₀.sensor.stored.length)), none) ∧
      (nextStoredFrame.run m).2.Downloading m₀
        (if k < m₀.sensor.stored.length then k + 1 else k) := by
  have hstored : m.sensor.stored = m₀.sensor.stored := congrArg Sensor.Frames.stored h.frames
  have hcursor : m.sensor.cursor = k := congrArg Sensor.Frames.cursor h.frames
  have hsetup : m.sensor.setup = m₀.sensor.setup := congrArg Sensor.Frames.setup h.frames
  by_cases hlt : k < m₀.sensor.stored.length
  · have hshot : m.sensor.stored[m.sensor.cursor]? = some m₀.sensor.stored[k] := by
      rw [hstored, hcursor]
      exact List.getElem?_eq_getElem hlt
    have hr : FrameReadable m₀.sensor.stored[k].frame m.sensor.setup.compress := by
      rw [hsetup]
      exact hread _ (List.getElem_mem hlt)
    obtain ⟨hres, hframes, -, hin, hworld, hconfig⟩ := nextStoredFrame_stored h.inStep hshot hr
    refine ⟨?_, hin, ?_, hworld.trans h.world, hconfig.trans h.config⟩
    · rw [hres, Member.storedFrame, List.getElem?_eq_getElem hlt, decide_eq_true hlt]
      rfl
    · rw [hframes, h.frames, hcursor, if_pos hlt]
  · have hend : m.sensor.stored[m.sensor.cursor]? = none := by
      rw [hstored, hcursor]
      exact List.getElem?_eq_none (by omega)
    obtain ⟨hres, hframes, -, hin, hworld, hconfig⟩ := nextStoredFrame_end h.inStep hend
    refine ⟨?_, hin, ?_, hworld.trans h.world, hconfig.trans h.config⟩
    · rw [hres, Member.storedFrame, List.getElem?_eq_none (by omega), decide_eq_false hlt]
      rfl
    · rw [hframes, h.frames, if_neg hlt]

end MemberM

/-- Replacing a member by itself leaves the rig as it was. -/
theorem Rig.set_member_self (r : Rig) {i : Nat} (hi : i < r.members.size) :
    ({ r with members := r.members.set i (r.member i) } : Rig) = r := by
  rw [r.member_eq_getElem hi, Array.set_getElem_self]

/-- Replacing every member by a function of its index and itself. -/
theorem Rig.member_mapIdx (r : Rig) (f : Nat → Member → Member) {j : Nat}
    (hj : j < r.members.size) :
    ({ r with members := r.members.mapIdx f } : Rig).member j = f j (r.member j) := by
  simp [Rig.member, Array.getD_eq_getD_getElem?, hj]

namespace RigM

theorem zip_map_self {α β : Type} (l : List α) (f : α → β) :
    l.zip (l.map f) = l.map fun a => (a, f a) := by
  simpa using (List.zip_map' (f := id) (g := f) (l := l))

/-- Steps each of which, finding its member as `r₀` had it, gives a result and replaces that
member, run on distinct members in turn from a rig that has them as `r₀` had them: the results
in order, and the rig with the members named replaced and the others as they were. -/
theorem run_mapM_eachMember {γ : Type} {F : Nat → RigM γ} {ids : List Nat} {r₀ : Rig}
    (g : Nat → γ) (h : Nat → Member)
    (hF : ∀ i ∈ ids, ∀ (r : Rig) (hi : i < r.members.size), r.member i = r₀.member i →
      (F i).run r = (g i, { r with members := r.members.set i (h i) }))
    {r : Rig} (hnd : ids.Nodup) (hlt : ∀ i ∈ ids, i < r.members.size)
    (hsame : ∀ i ∈ ids, r.member i = r₀.member i) :
    (ids.mapM F).run r =
      (ids.map g, { r with members := r.members.mapIdx fun j m => if j ∈ ids then h j else m }) := by
  induction ids generalizing r with
  | nil =>
    have hkept : r.members.mapIdx (fun _ m => m) = r.members := Array.ext (by simp) (by simp)
    simp only [List.not_mem_nil, if_false, hkept]
    rfl
  | cons i ids ih =>
    obtain ⟨hi, hnd⟩ := List.nodup_cons.1 hnd
    have hlti : i < r.members.size := hlt i (by simp)
    simp only [List.mapM_cons, run_bind, hF i (by simp) r hlti (hsame i (by simp)), run_pure]
    -- the members still to come are as `r₀` had them
    have hsame₁ : ∀ k ∈ ids,
        ({ r with members := r.members.set i (h i) } : Rig).member k = r₀.member k := by
      intro k hk
      rw [r.member_set hlti, if_neg fun hki : k = i => hi (hki ▸ hk), hsame k (by simp [hk])]
    -- and the member just replaced is not replaced again
    have hmembers : (r.members.set i (h i) hlti).mapIdx (fun j m => if j ∈ ids then h j else m) =
        r.members.mapIdx fun j m => if j ∈ i :: ids then h j else m := by
      refine Array.ext (by simp) fun j hj₁ hj₂ => ?_
      simp only [Array.getElem_mapIdx, Array.getElem_set, List.mem_cons]
      by_cases hij : i = j
      · subst hij
        simp [hi]
      · simp [hij, Ne.symm hij]
    rw [ih (fun k hk => hF k (by simp [hk])) hnd (fun k hk => by simpa using hlt k (by simp [hk]))
      hsame₁]
    simp only [List.map_cons, hmembers]

/-- A download round at index `t` on distinct members, each downloading the stored frames of
the member `r₀` had there, which stored `n i` frames that its link reads back: a member that
stored fewer than `t` has finished and is not asked, any other is at its `t`-th frame. The
round gives every member's `t`-th frame, none past its end, and which members have now
finished, and it moves every member on by one frame while it has one. -/
theorem downloadRound_at {r₀ r : Rig} {ids : List Nat} {n : Nat → Nat} {t : Nat}
    (hnd : ids.Nodup) (hlt : ∀ i ∈ ids, i < r.members.size)
    (hlen : ∀ i ∈ ids, (r₀.member i).sensor.stored.length = n i)
    (hread : ∀ i ∈ ids, ∀ shot ∈ (r₀.member i).sensor.stored,
      FrameReadable shot.frame (r₀.member i).sensor.setup.compress)
    (hd : ∀ i ∈ ids, (r.member i).Downloading (r₀.member i) (min t (n i))) :
    ((downloadRound ids (ids.map fun i => decide (n i < t))).run r).1 =
        .ok (ids.map fun i => (r₀.member i).storedFrame t, ids.map fun i => decide (n i ≤ t)) ∧
      (∀ i ∈ ids, (((downloadRound ids (ids.map fun i => decide (n i < t))).run r).2.member i
        ).Downloading (r₀.member i) (min (t + 1) (n i))) ∧
      ((downloadRound ids (ids.map fun i => decide (n i < t))).run r).2.members.size =
        r.members.size := by
  -- a member not yet finished gives its `t`-th frame and moves on
  have hnext : ∀ i ∈ ids, ¬ n i < t →
      (MemberM.nextStoredFrame.run (r.member i)).1 =
        (((r₀.member i).storedFrame t, decide (t < n i)), none) ∧
      (MemberM.nextStoredFrame.run (r.member i)).2.Downloading (r₀.member i)
        (min (t + 1) (n i)) := by
    intro i hi hn
    have hd' := hd i hi
    rw [Nat.min_eq_left (Nat.le_of_not_lt hn)] at hd'
    obtain ⟨hres, hmoved⟩ := MemberM.nextStoredFrame_at (hread i hi) hd'
    rw [hlen i hi] at hres hmoved
    -- one frame on while there is one, else it stays at its end
    have hstep : (if t < n i then t + 1 else t) = min (t + 1) (n i) := by
      split <;> omega
    exact ⟨hres, hstep ▸ hmoved⟩
  unfold downloadRound
  rw [zip_map_self, List.mapM_map, run_bind]
  rw [run_mapM_eachMember
    (fun i => (((r₀.member i).storedFrame t, decide (n i ≤ t)),
      ({ endpoint := (r.member i).link.endpoint, serial := (r.member i).serial } : Outcome)))
    (fun i => if n i < t then r.member i else (MemberM.nextStoredFrame.run (r.member i)).2)
    ?hF hnd hlt fun _ _ => rfl]
  case hF =>
    intro i hi r' hi' hr'
    simp only [Function.comp_apply]
    rw [run_get_bind]
    by_cases hn : n i < t
    · -- finished: not asked, and past its end
      have hnone : (r₀.member i).storedFrame t = none :=
        (Member.storedFrame_eq_none_iff _ _).2 (by rw [hlen i hi]; omega)
      rw [if_pos (decide_eq_true hn), run_pure, if_pos hn, ← hr', Rig.set_member_self r' hi', hnone,
        decide_eq_true (Nat.le_of_lt hn)]
    · have hfinished : (!decide (t < n i)) = decide (n i ≤ t) := by
        rw [← decide_not]
        simp only [Nat.not_lt]
      rw [if_neg (by simpa using hn), run_bind, run_onMember _ hi', run_pure, if_neg hn, hr',
        (hnext i hi hn).1]
      rw [hfinished]
  dsimp only
  rw [if_neg (by simp [Outcomes.failed, Outcome.failed]), run_pure]
  refine ⟨by simp, fun i hi => ?_, by simp⟩
  rw [Rig.member_mapIdx _ _ (hlt i hi), if_pos hi]
  by_cases hn : n i < t
  · -- a finished member stays at its end
    have hd' := hd i hi
    rw [Nat.min_eq_right (Nat.le_of_lt hn)] at hd'
    rwa [if_pos hn, Nat.min_eq_right (by omega)]
  · rw [if_neg hn]
    exact (hnext i hi hn).2

section Sink

variable {σ : Type} {sink : FrameSink σ} {put : σ → Nat → List UInt8 → Frame → σ}

/-- Writing index `t` with the `t`-th frames of the members `r₀` had, into a sink that takes
every write, on a rig whose members have their world transforms and serials: the sink takes
exactly the writes of that index, and the rig is left as it was. -/
theorem writeIndex_savedWrites (hput : ∀ st k d f, sink.write st k d f = .ok (put st k d f))
    (t : Nat) (merge : Bool) {ids : List Nat} {r₀ r : Rig}
    (hplace : ∀ i ∈ ids, (r.member i).link.world = (r₀.member i).link.world ∧
      (r.member i).link.config = (r₀.member i).link.config) :
    (writeIndex sink t ids (ids.map fun i => (r₀.member i).storedFrame t) merge).run r =
      (.ok (putAll put sink.state (savedWrites merge (ids.map r₀.member) t)), r) := by
  unfold writeIndex savedWrites
  simp only [run_bind, run_get, zip_map_self, List.map_map]
  cases merge with
  | true =>
    have hmoved : ids.map ((fun x : Nat × Option Frame => x.2.map (toWorld (r.member x.1).link.world)) ∘
        fun i => (i, (r₀.member i).storedFrame t)) =
        ids.map ((fun m => (m.storedFrame t).map (toWorld m.link.world)) ∘ r₀.member) :=
      List.map_congr_left fun i hi => by simp [(hplace i hi).1]
    simp only [if_true, hmoved, hput, run_pure, putAll_cons, putAll_nil]
  | false =>
    simp only [Bool.false_eq_true, if_false, List.foldlM_map, run_pure]
    -- each present frame goes under its member's serial, one after another
    congr 2
    generalize sink.state = st
    induction ids generalizing st with
    | nil => rfl
    | cons i ids ih =>
      have hrest := ih (fun j hj => hplace j (by simp [hj]))
      rw [List.foldlM_cons, List.map_cons, List.filterMap_cons]
      cases hf : (r₀.member i).storedFrame t with
      | none => exact hrest st
      | some f =>
        simp only [Option.map_some, putAll_cons]
        rw [hput, (hplace i (by simp)).2]
        exact hrest _

/-- Saving from index `t` on, with enough fuel, distinct members each downloading the stored
frames of the member `r₀` had, which stored `n i` frames that its link reads back, from the
`t`-th or from their end, into a sink that takes every write: every index from `t` up to the
largest `n i` is written with exactly its writes, the save ends there without a fault, and
every member is left at the end of its stored frames. -/
theorem saveFrom_writes (hput : ∀ st k d f, sink.write st k d f = .ok (put st k d f))
    (merge : Bool) {ids : List Nat} (hnd : ids.Nodup) {r₀ : Rig} {n : Nat → Nat}
    (hlen : ∀ i ∈ ids, (r₀.member i).sensor.stored.length = n i)
    (hread : ∀ i ∈ ids, ∀ shot ∈ (r₀.member i).sensor.stored,
      FrameReadable shot.frame (r₀.member i).sensor.setup.compress) (fuel : Nat) :
    ∀ (t : Nat) (r : Rig) (st : σ), (ids.map n).foldr max 0 - t < fuel →
      t ≤ (ids.map n).foldr max 0 → (∀ i ∈ ids, i < r.members.size) →
      (∀ i ∈ ids, (r.member i).Downloading (r₀.member i) (min t (n i))) →
      ((saveFrom ids merge fuel { sink with state := st } t
          (ids.map fun i => decide (n i < t))).run r).1 =
        ((ids.map n).foldr max 0, putAll put st ((List.range' t ((ids.map n).foldr max 0 - t)).flatMap
          (savedWrites merge (ids.map r₀.member))), none) ∧
      ∀ i ∈ ids, (((saveFrom ids merge fuel { sink with state := st } t
          (ids.map fun i => decide (n i < t))).run r).2.member i).Downloading (r₀.member i) (n i) := by
  induction fuel with
  | zero => intro t r st hfuel; omega
  | succ fuel ih =>
    intro t r st hfuel ht hlt hd
    obtain ⟨hres, hd', hsz⟩ := downloadRound_at hnd hlt hlen hread hd
    rw [saveFrom, run_bind, hres]
    dsimp only
    -- a member has a `t`-th frame exactly when `t` is below the largest count
    have hmore : ((ids.map fun i => decide (n i ≤ t)).any fun x => !x) =
        decide (t < (ids.map n).foldr max 0) := by
      rw [Bool.eq_iff_iff, decide_eq_true_iff, ← Nat.not_le, foldr_max_le_iff]
      simp
    by_cases htM : t < (ids.map n).foldr max 0
    · -- the index is written and the save goes on
      have hsink : ∀ st' k d f, ({ sink with state := st } : FrameSink σ).write st' k d f =
          .ok (put st' k d f) := hput
      have hplace : ∀ i ∈ ids,
          (((downloadRound ids (ids.map fun i => decide (n i < t))).run r).2.member i).link.world =
            (r₀.member i).link.world ∧
          (((downloadRound ids (ids.map fun i => decide (n i < t))).run r).2.member i).link.config =
            (r₀.member i).link.config :=
        fun i hi => ⟨(hd' i hi).world, (hd' i hi).config⟩
      have hdone : (ids.map fun i => decide (n i ≤ t)) = ids.map fun i => decide (n i < t + 1) := by
        simp
      rw [hmore, decide_eq_true htM]
      simp only [Bool.not_true, Bool.false_and, Bool.false_eq_true, if_false]
      rw [run_bind, writeIndex_savedWrites hsink t merge hplace]
      dsimp only
      rw [hdone]
      obtain ⟨hsave, hend⟩ := ih (t + 1) _ _ (by omega) htM (fun i hi => hsz ▸ hlt i hi) hd'
      refine ⟨?_, hend⟩
      -- the indexes from `t` on are `t` and those from `t + 1` on
      rw [hsave, show (ids.map n).foldr max 0 - t = ((ids.map n).foldr max 0 - (t + 1)) + 1 by omega,
        List.range'_succ, List.flatMap_cons, putAll_append]
    · -- every member has ended: nothing is written and the save stops at `t`
      have hend : ∀ i ∈ ids, n i ≤ t := fun i hi =>
        foldr_max_le_iff.1 (Nat.le_of_not_lt htM) _ (List.mem_map_of_mem hi)
      have hnone : (ids.map fun i => (r₀.member i).storedFrame t).all Option.isNone = true := by
        simp only [List.all_map, List.all_eq_true, Function.comp_apply, Option.isNone_iff_eq_none]
        exact fun i hi => (Member.storedFrame_eq_none_iff _ _).2 (by rw [hlen i hi]; exact hend i hi)
      rw [hmore, decide_eq_false htM, hnone]
      simp only [Bool.not_false, Bool.true_and, if_true, run_pure]
      refine ⟨by rw [Nat.le_antisymm ht (Nat.le_of_not_lt htM)]; simp, fun i hi => ?_⟩
      have := hd' i hi
      rwa [Nat.min_eq_right (by have := hend i hi; omega)] at this

/-- Saving in point-cloud mode, from the first stored frame of every member, is the loop from
index zero with the fuel the save gives itself: enough for the most frames any member stored
and the round that finds none left. -/
theorem saveStored_pointcloud
    (hput : ∀ st k d f, sink.write st k d f = .ok (put st k d f)) (merge : Bool) {ids : List Nat}
    {r : Rig} (hnd : ids.Nodup) (hlt : ∀ i ∈ ids, i < r.members.size)
    (hin : ∀ i ∈ ids, (r.member i).InStep) (hcur : ∀ i ∈ ids, (r.member i).sensor.cursor = 0)
    (hread : ∀ i ∈ ids, ∀ shot ∈ (r.member i).sensor.stored,
      FrameReadable shot.frame (r.member i).sensor.setup.compress) :
    ((saveStored ids .pointcloud merge sink).run r).1 =
        ((ids.map fun i => (r.member i).sensor.stored.length).foldr max 0,
          putAll put sink.state
            ((List.range ((ids.map fun i => (r.member i).sensor.stored.length).foldr max 0)).flatMap
              (savedWrites merge (ids.map r.member))), none) ∧
      ∀ i ∈ ids, (((saveStored ids .pointcloud merge sink).run r).2.member i).Downloading
        (r.member i) (r.member i).sensor.stored.length := by
  have hfuel : (ids.map fun i => (r.member i).sensor.stored.length).foldr max 0 - 0 <
      (ids.map fun i => (r.member i).sensor.stored.length).foldl (· + ·) 0 + ids.length + 1 := by
    have hle : (ids.map fun i => (r.member i).sensor.stored.length).foldr max 0 ≤
        (ids.map fun i => (r.member i).sensor.stored.length).sum :=
      foldr_max_le_iff.2 fun k hk => List.le_sum_of_mem hk
    rw [← List.sum_eq_foldl_nat]
    omega
  have hdone : (ids.map fun _ => false) =
      ids.map fun i => decide ((r.member i).sensor.stored.length < 0) := by
    simp
  obtain ⟨hsave, hend⟩ := saveFrom_writes hput merge hnd (fun _ _ => rfl) hread _ 0 r sink.state
    hfuel (Nat.zero_le _) hlt fun i hi => by
      simpa using Member.Downloading.start (hin i hi) (hcur i hi)
  unfold saveStored
  rw [if_neg (by decide), run_get_bind, List.range_eq_range', hdone]
  exact ⟨hsave, hend⟩

/-- In any mode but point clouds, saving asks nothing of any member and fails at once, naming
the mode it was given. -/
theorem saveStored_refuses_mode {mode : ExportMode} (hmode : mode ≠ .pointcloud)
    {ids : List Nat} {merge : Bool} {r : Rig} :
    (saveStored ids mode merge sink).run r =
      ((0, sink.state, some (.exportMode ("stored frames are only downloaded in " ++
        ExportMode.pointcloud.name ++ " mode, not " ++ mode.name))), r) := by
  -- the mode is checked before anything is sent
  obtain ⟨c⟩ := mode
  have hc : c ≠ 0 := fun hc => hmode (by rw [hc]; rfl)
  have hcheck : (({ code := c } : ExportMode) != .pointcloud) = true := by
    show (!(c == 0)) = true
    simpa using hc
  unfold saveStored
  rw [if_pos hcheck, run_pure]

/-- Saving the stored frames of distinct members, each in step at its first stored frame and
with every stored frame one its link reads back, into a sink that takes every write: as many
indexes are written as the most frames any member stored; each index gets, when merging, one
write of the merge of the members' frames of that index in world coordinates, and otherwise one
write per member that has a frame of that index, under its serial, in member order; the save
ends without a fault, with every member at the end of its stored frames. In any other export
mode nothing is asked of any member and the save fails at once. -/
theorem saveStored_writes_each_frame_once
    (hput : ∀ st k d f, sink.write st k d f = .ok (put st k d f)) (merge : Bool) {ids : List Nat}
    {r : Rig} (hnd : ids.Nodup) (hlt : ∀ i ∈ ids, i < r.members.size)
    (hin : ∀ i ∈ ids, (r.member i).InStep) (hcur : ∀ i ∈ ids, (r.member i).sensor.cursor = 0)
    (hread : ∀ i ∈ ids, ∀ shot ∈ (r.member i).sensor.stored,
      FrameReadable shot.frame (r.member i).sensor.setup.compress) :
    ((saveStored ids .pointcloud merge sink).run r).1 =
        ((ids.map fun i => (r.member i).sensor.stored.length).foldr max 0,
          putAll put sink.state
            ((List.range ((ids.map fun i => (r.member i).sensor.stored.length).foldr max 0)).flatMap
              (savedWrites merge (ids.map r.member))), none) ∧
      (∀ i ∈ ids, (((saveStored ids .pointcloud merge sink).run r).2.member i).sensor.cursor =
        (r.member i).sensor.stored.length) ∧
      ∀ mode, mode ≠ .pointcloud → (saveStored ids mode merge sink).run r =
        ((0, sink.state, some (.exportMode ("stored frames are only downloaded in " ++
          ExportMode.pointcloud.name ++ " mode, not " ++ mode.name))), r) := by
  obtain ⟨hsave, hend⟩ := saveStored_pointcloud hput merge hnd hlt hin hcur hread
  exact ⟨hsave, fun i hi => congrArg Sensor.Frames.cursor (hend i hi).frames,
    fun mode hmode => saveStored_refuses_mode hmode⟩

/-- The frame with nothing in it is read back when payloads are not compressed. -/
theorem frameReadable_empty : FrameReadable {} false where
  vertices := by decide
  bodies := by decide
  joints := by simp
  decompress := fun h => absurd h (by decide)
  payload := by decide +kernel

/-- Two members that stored two frames and one, saved member by member into a list of writes:
two indexes are written, the first by both members and the second by the first alone. -/
theorem saveStored_writes_two_and_one :
    let stored (k : Nat) : Simulator.Sensor :=
      { Simulator.Sensor.create {} with stored := List.replicate k ⟨{}, 0, 0⟩ }
    let r : Rig := { Rig.create {} none .none none with
      members := #[Member.connect "a" (stored 2), Member.connect "b" (stored 1)] }
    let sink : FrameSink (List SinkWrite) := ⟨[], fun ws k d f => .ok (ws ++ [⟨k, d, f⟩])⟩
    ((saveStored [0, 1] .pointcloud false sink).run r).1.1 = 2 ∧
      (((saveStored [0, 1] .pointcloud false sink).run r).1.2.1.map (·.index)) = [0, 0, 1] := by
  intro stored r sink
  have hput : ∀ (ws : List SinkWrite) k d f, sink.write ws k d f = .ok (ws ++ [⟨k, d, f⟩]) :=
    fun _ _ _ _ => rfl
  have hin : ∀ i ∈ [0, 1], (r.member i).InStep := by
    simp only [List.mem_cons, List.not_mem_nil, or_false, forall_eq_or_imp, forall_eq]
    refine ⟨?_, ?_⟩ <;> constructor <;> decide +kernel
  have hcur : ∀ i ∈ [0, 1], (r.member i).sensor.cursor = 0 := by
    simp only [List.mem_cons, List.not_mem_nil, or_false, forall_eq_or_imp, forall_eq]
    constructor <;> decide +kernel
  have hread : ∀ i ∈ [0, 1], ∀ shot ∈ (r.member i).sensor.stored,
      FrameReadable shot.frame (r.member i).sensor.setup.compress := by
    simp only [List.mem_cons, List.not_mem_nil, or_false, forall_eq_or_imp, forall_eq]
    -- every stored shot is of the empty frame, and nothing is compressed
    have hframes₀ : (r.member 0).sensor.stored.map (·.frame) = [{}, {}] := by decide +kernel
    have hframes₁ : (r.member 1).sensor.stored.map (·.frame) = [{}] := by decide +kernel
    have hplain₀ : (r.member 0).sensor.setup.compress = false := by decide +kernel
    have hplain₁ : (r.member 1).sensor.setup.compress = false := by decide +kernel
    refine ⟨fun shot hshot => ?_, fun shot hshot => ?_⟩
    · have hempty : shot.frame ∈ [({} : Frame), {}] := hframes₀ ▸ List.mem_map_of_mem hshot
      rw [show shot.frame = {} by simpa using hempty, hplain₀]
      exact frameReadable_empty
    · have hempty : shot.frame ∈ [({} : Frame)] := hframes₁ ▸ List.mem_map_of_mem hshot
      rw [show shot.frame = {} by simpa using hempty, hplain₁]
      exact frameReadable_empty
  obtain ⟨hsave, -, -⟩ := saveStored_writes_each_frame_once hput false (by decide : [0, 1].Nodup)
    (by decide +kernel) hin hcur hread
  rw [hsave]
  decide +kernel

/-- An index of which every member, sound, stored a frame is written as each member's saved
frame. -/
theorem putAll_savedWrites_of_sound (merge : Bool) {ms : List Member} {k : Nat}
    (hs : ∀ m ∈ ms, m.Sound ∧ k < m.sensor.stored.length) (st : σ) :
    putAll put st (savedWrites merge ms k) = indexWritten put merge ms k st := by
  have hframe : ∀ m ∈ ms, m.storedFrame k = some m.savedFrame :=
    fun m hm => Member.storedFrame_of_sound (hs m hm).1 (hs m hm).2
  cases merge with
  | true =>
    have hmoved : (ms.map fun m => (m.storedFrame k).map (toWorld m.link.world)) =
        ms.map fun m => some (toWorld m.link.world m.savedFrame) :=
      List.map_congr_left fun m hm => by rw [hframe m hm, Option.map_some]
    simp only [savedWrites, indexWritten, if_true, putAll_cons, putAll_nil, hmoved]
  | false =>
    simp only [savedWrites, indexWritten, Bool.false_eq_true, if_false]
    clear hs
    induction ms generalizing st with
    | nil => rfl
    | cons m ms ih =>
      simp only [List.filterMap_cons, hframe m (by simp), Option.map_some, putAll_cons,
        List.foldl_cons]
      exact ih _ fun m' hm' => hframe m' (by simp [hm'])

/-- Saving the stored frames of distinct members, each in step at its first stored frame and
sound, that all stored `n` frames, into a sink that takes every write: exactly `n` indexes are
written, each from every member, and the save ends without a fault. -/
theorem saveStored_delivers (hput : ∀ st k d f, sink.write st k d f = .ok (put st k d f))
    (merge : Bool) {ids : List Nat} {r : Rig} {n : Nat} (hne : ids ≠ []) (hnd : ids.Nodup)
    (hlt : ∀ i ∈ ids, i < r.members.size) (hs : ∀ i ∈ ids, (r.member i).Sound)
    (hin : ∀ i ∈ ids, (r.member i).InStep)
    (hlen : ∀ i ∈ ids, (r.member i).sensor.stored.length = n)
    (hcur : ∀ i ∈ ids, (r.member i).sensor.cursor = 0) :
    ((saveStored ids .pointcloud merge sink).run r).1 =
      (n, (List.range n).foldl (fun st k => indexWritten put merge (ids.map r.member) k st)
        sink.state, none) := by
  -- the most frames any member stored is `n`
  have hmax : (ids.map fun i => (r.member i).sensor.stored.length).foldr max 0 = n := by
    obtain ⟨i, hi⟩ := List.exists_mem_of_ne_nil ids hne
    refine Nat.le_antisymm (foldr_max_le_iff.2 fun k hk => ?_) (foldr_max_le_iff.1 le_rfl n ?_)
    · obtain ⟨j, hj, rfl⟩ := List.mem_map.1 hk
      exact (hlen j hj).le
    · rw [← hlen i hi]
      exact List.mem_map_of_mem hi
  obtain ⟨hsave, -⟩ := saveStored_pointcloud hput merge hnd hlt hin hcur
    fun i hi => (hs i hi).storedReadable
  rw [hsave, hmax, putAll_flatMap]
  -- every index below `n` is written as each member's saved frame
  congr 2
  refine List.foldl_ext _ _ _ fun st k hk => putAll_savedWrites_of_sound merge (fun m hm => ?_) st
  obtain ⟨i, hi, rfl⟩ := List.mem_map.1 hm
  exact ⟨hs i hi, by rw [hlen i hi]; exact List.mem_range.1 hk⟩

end Sink

end RigM

end DepthRig.Fleet
