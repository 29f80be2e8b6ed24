import DepthRig.Proofs.Calibration.Alignment

/-!
# What a refinement asks of its sensors

The sensors, the aligner, the store and the caller's context are each a script that answers
every call from the record of the calls made before it, so any behaviour they can have is
covered. Against any such script a refinement checks its preconditions first, fetches every
frame, aligns round by round, and then pushes every transform or none; a fetch that gives no
snapshot and no failure makes it fault.
-/

namespace DepthRig

/-- A call a refinement makes. -/
inductive Call where
  /-- Fetch the latest frame of the sensor at a position. -/
  | lastFrame (i : Nat)
  /-- Set the world transform of the sensor at a position and send it its calibration. -/
  | pushWorld (i : Nat) (world : Affine)
  /-- Record a pushed transform under a serial. -/
  | record (serial : String) (world : Affine)
  /-- Align a source cloud onto a target within an iteration bound. -/
  | align (target source : List Point3) (iterations : Int)
  /-- Ask the caller's context whether the refinement was cancelled. -/
  | cancelled

/-- The sensor and the transform of a push. -/
def Call.pushed? : Call → Option (Nat × Affine)
  | .pushWorld i w => some (i, w)
  | _ => none

/-- The serial and the transform of a record. -/
def Call.recorded? : Call → Option (String × Affine)
  | .record serial w => some (serial, w)
  | _ => none

/-- A computation that records the calls it makes, in order. -/
abbrev Traced := StateM (List Call)

/-- Sensors, an aligner and a caller's context that answer each call from the calls made
before it. -/
structure Script where
  lastFrame : List Call → Nat → Except Fault (Option Frame)
  pushWorld : List Call → Nat → Affine → Option Fault
  align : List Call → List Point3 → List Point3 → Int → Except Fault Rigid
  cancelled : List Call → Option Fault

namespace Script

/-- Make a call: the script's answer to it after the calls so far, and the call recorded. -/
def ask {α : Type} (c : Call) (answer : List Call → α) : Traced α := fun h => (answer h, h ++ [c])

variable (sc : Script)

/-- The sensor at a position, as the script answers for it. -/
def device (i : Nat) (v : SensorView) : RefineDevice Traced where
  view := v
  lastFrame := ask (.lastFrame i) (sc.lastFrame · i)
  pushWorld w := ask (.pushWorld i w) (sc.pushWorld · i w)

/-- The sensors with the given views, from position `k` on. -/
def devicesFrom : Nat → List SensorView → List (RefineDevice Traced)
  | _, [] => []
  | k, v :: vs => sc.device k v :: devicesFrom (k + 1) vs

/-- The refiner whose aligner the script answers for; with `store`, every transform it
records is a call. -/
def refiner (rounds iterations : Int) (store : Bool) : Refiner Traced where
  align t s n := ask (.align t s n) (sc.align · t s n)
  rounds := rounds
  iterations := iterations
  store := if store then some fun serial w => modify (· ++ [.record serial w]) else none

/-- The caller's context, as the script answers for it. -/
def context : Traced (Option Fault) := ask .cancelled sc.cancelled

/-- A refinement of the sensors with the given views, every call answered by the script. -/
def refine (views : List SensorView) (rounds iterations : Int) (store : Bool) : Traced Refined :=
  (sc.refiner rounds iterations store).refine sc.context (sc.devicesFrom 0 views)

/-- The answers to fetching the frames of sensors `k, …, k + n - 1` in order after the calls
`h`. -/
def fetched (h : List Call) (k n : Nat) : List (Except Fault (Option Frame)) :=
  (List.range n).map fun j => sc.lastFrame (h ++ (List.range' k j).map .lastFrame) (k + j)

end Script

namespace Traced

variable {α β : Type}

@[simp] theorem run_bind (x : Traced α) (f : α → Traced β) (h : List Call) :
    (x >>= f).run h = (f (x.run h).1).run (x.run h).2 := rfl

@[simp] theorem run_pure (a : α) (h : List Call) : (pure a : Traced α).run h = (a, h) := rfl

@[simp] theorem run_ask (c : Call) (answer : List Call → α) (h : List Call) :
    (Script.ask c answer).run h = (answer h, h ++ [c]) := rfl

end Traced

namespace Script

variable (sc : Script)

theorem map_view_devicesFrom (k : Nat) (views : List SensorView) :
    (sc.devicesFrom k views).map (·.view) = views := by
  induction views generalizing k with
  | nil => rfl
  | cons v vs ih => simp only [devicesFrom, List.map_cons, ih]; rfl

/-- The frames are fetched in sensor order, each fetch one call. -/
theorem run_fetch (h : List Call) (k : Nat) (views : List SensorView) :
    ((sc.devicesFrom k views).mapM fun d : RefineDevice Traced => d.lastFrame).run h =
      (sc.fetched h k views.length, h ++ (List.range' k views.length).map .lastFrame) := by
  induction views generalizing k h with
  | nil =>
    simp only [devicesFrom, fetched, List.length_nil, List.range'_zero, List.map_nil, List.append_nil]
    rfl
  | cons v vs ih =>
    simp only [devicesFrom, List.mapM_cons, Traced.run_bind, device, Traced.run_ask, ih,
      Traced.run_pure, List.length_cons, List.range'_succ, List.map_cons, List.append_assoc,
      List.singleton_append]
    refine Prod.ext ?_ rfl
    simp only [fetched, List.range_succ_eq_map, List.map_cons, List.map_map]
    congr 1
    · simp
    · refine List.map_congr_left fun j _ => ?_
      simp [List.range'_succ, Nat.add_assoc, Nat.add_comm 1]

/-- From the start, the fetches are the first calls, one per sensor in order. -/
theorem run_fetch_start (views : List SensorView) :
    ((sc.devicesFrom 0 views).mapM fun d : RefineDevice Traced => d.lastFrame).run [] =
      (sc.fetched [] 0 views.length, (List.range views.length).map .lastFrame) := by
  rw [run_fetch, List.nil_append, List.range_eq_range']

/-- No fetch failure is reported exactly when no fetch failed. -/
theorem fetchFailure_eq_none_iff (views : List SensorView)
    (fetched : List (Except Fault (Option Frame))) (hlen : fetched.length = views.length) :
    Refiner.fetchFailure views fetched = none ↔ ∀ r ∈ fetched, ∀ e, r ≠ .error e := by
  induction views generalizing fetched with
  | nil =>
    rw [List.length_nil, List.length_eq_zero_iff] at hlen
    subst hlen
    simp [Refiner.fetchFailure]
  | cons v vs ih =>
    cases fetched with
    | nil => simp at hlen
    | cons r rs =>
      simp only [List.length_cons, Nat.add_right_cancel_iff] at hlen
      have hrest := ih rs hlen
      simp only [Refiner.fetchFailure, List.zip_cons_cons, List.findSome?_cons] at hrest ⊢
      cases r with
      | error e => simp
      | ok f => simp [hrest]

@[simp] theorem snapshots_nil : Refiner.snapshots [] = some [] := rfl

theorem snapshots_cons_some (f : Frame) (rs : List (Except Fault (Option Frame))) :
    Refiner.snapshots (.ok (some f) :: rs) = (Refiner.snapshots rs).map (f :: ·) := by
  simp only [Refiner.snapshots, List.mapM_cons, Option.map_eq_bind]
  rfl

theorem snapshots_cons_none (rs : List (Except Fault (Option Frame))) :
    Refiner.snapshots (.ok none :: rs) = none := rfl

/-- With no failed fetch, a snapshot is missing exactly when some fetch answered none. -/
theorem snapshots_eq_none_iff {fetched : List (Except Fault (Option Frame))}
    (hok : ∀ r ∈ fetched, ∀ e, r ≠ .error e) :
    Refiner.snapshots fetched = none ↔ .ok none ∈ fetched := by
  induction fetched with
  | nil => simp
  | cons r rs ih =>
    have hrest := ih fun r' hr' => hok r' (List.mem_cons_of_mem _ hr')
    cases r with
    | error e => exact absurd rfl (hok _ List.mem_cons_self e)
    | ok f =>
      cases f with
      | none => simp [snapshots_cons_none]
      | some f => simp [snapshots_cons_some, hrest]

/-- With no failed fetch and none answered without a snapshot, every snapshot is there. -/
theorem exists_snapshots {fetched : List (Except Fault (Option Frame))}
    (hok : ∀ r ∈ fetched, ∀ e, r ≠ .error e) (hnone : .ok none ∉ fetched) :
    ∃ frames, Refiner.snapshots fetched = some frames :=
  Option.ne_none_iff_exists'.1 fun h => hnone ((snapshots_eq_none_iff hok).1 h)

/-- A refinement reads through a missing snapshot exactly when its preconditions hold, no
fetch failed, and some fetch answered with no snapshot; in every other case it returns. -/
theorem refine_panics_iff (views : List SensorView) (rounds iterations : Int) (store : Bool) :
    (∃ message, ((sc.refine views rounds iterations store).run []).1 = .panicked message) ↔
      Refiner.check views = none ∧ (∀ r ∈ sc.fetched [] 0 views.length, ∀ e, r ≠ .error e) ∧
        .ok none ∈ sc.fetched [] 0 views.length := by
  unfold refine Refiner.refine
  simp only [map_view_devicesFrom]
  cases hcheck : Refiner.check views with
  | some f => simp
  | none =>
    simp only [Traced.run_bind, run_fetch, true_and]
    have hlen : (sc.fetched [] 0 views.length).length = views.length := by simp [fetched]
    cases hfail : Refiner.fetchFailure views (sc.fetched [] 0 views.length) with
    | some f =>
      have hfailed : ¬ ∀ r ∈ sc.fetched [] 0 views.length, ∀ e, r ≠ .error e :=
        fun h => by simp [(fetchFailure_eq_none_iff views _ hlen).2 h] at hfail
      simp [hfailed]
    | none =>
      have hok := (fetchFailure_eq_none_iff views _ hlen).1 hfail
      cases hsnap : Refiner.snapshots (sc.fetched [] 0 views.length) with
      | none => exact iff_of_true ⟨_, rfl⟩ ⟨hok, (snapshots_eq_none_iff hok).1 hsnap⟩
      | some frames =>
        -- every snapshot is there: what follows only ever returns
        have hmissing : .ok none ∉ sc.fetched [] 0 views.length :=
          fun h => by simp [(snapshots_eq_none_iff hok).2 h] at hsnap
        simp only [hmissing, Traced.run_bind, and_false, iff_false, not_exists]
        intro message
        split <;> simp

end Script

/-! ## The alignment phase -/

namespace Fitting

variable {P W S : Type}

/-- The cloud of the sensor at a position, empty past the last. -/
def cloudAt (fs : List (Fitting P W S)) (i : Nat) : List P := (fs[i]?.map (·.cloud)).getD []

/-- The fittings after the corrections `steps`, the `j`-th moving sensor `is[j]`. -/
def after (mo : Motion P W S) (fs : List (Fitting P W S)) (is : List Nat) (steps : List S) :
    List (Fitting P W S) :=
  (is.zip steps).foldl (fun gs (i, s) => gs.modify i (·.correct mo s)) fs

@[simp] theorem after_nil_right (mo : Motion P W S) (fs : List (Fitting P W S)) (is : List Nat) :
    after mo fs is [] = fs := by
  simp [after]

@[simp] theorem after_cons (mo : Motion P W S) (fs : List (Fitting P W S)) (i : Nat) (is : List Nat)
    (s : S) (steps : List S) :
    after mo fs (i :: is) (s :: steps) = after mo (fs.modify i (·.correct mo s)) is steps := rfl

@[simp] theorem length_after (mo : Motion P W S) (fs : List (Fitting P W S)) (is : List Nat)
    (steps : List S) : (after mo fs is steps).length = fs.length := by
  induction is generalizing fs steps with
  | nil => simp [after]
  | cons i is ih => cases steps <;> simp [ih]

theorem set_correct_eq_modify (mo : Motion P W S) {fs : List (Fitting P W S)} {i : Nat}
    {f : Fitting P W S} (hf : fs[i]? = some f) (s : S) :
    fs.set i (f.correct mo s) = fs.modify i (·.correct mo s) := by
  simp [List.modify_eq_set_getElem?, hf]

end Fitting

namespace Script

variable (sc : Script) (it : Int)

/-- The aligner of a refinement with iteration bound `it`, as the script answers for it. -/
def aligner (t s : List Point3) : Traced (Except Fault Rigid) := ask (.align t s it) (sc.align · t s it)

@[simp] theorem run_context (h : List Call) : sc.context.run h = (sc.cancelled h, h ++ [.cancelled]) :=
  rfl

/-- The calls of one alignment of sensor `i` among the fittings `gs`: the cancellation
check, then the alignment of its cloud onto the others'. -/
def alignmentCalls (gs : List (Fitting Point3 Affine Rigid)) (i : Nat) : List Call :=
  [.cancelled, .align (Fitting.others gs i) (Fitting.cloudAt gs i) it]

/-- The calls of a pass over the sensors `is` from `fs` whose alignments were answered with
the corrections `steps`: each alignment's calls, among the fittings the corrections before it
left. -/
def passCalls : List (Fitting Point3 Affine Rigid) → List Nat → List Rigid → List Call
  | fs, i :: is, s :: steps =>
    alignmentCalls it fs i ++ passCalls (fs.modify i (·.correct rigidMotion s)) is steps
  | _, _, _ => []

/-- After the calls `h`, the script answered the alignments of a pass over the sensors `is`
from `fs` with the corrections `steps`, cancelling none of them. -/
def Answers : List Call → List (Fitting Point3 Affine Rigid) → List Nat → List Rigid → Prop
  | h, fs, i :: is, s :: steps =>
    sc.cancelled h = none ∧
      sc.align (h ++ [.cancelled]) (Fitting.others fs i) (Fitting.cloudAt fs i) it = .ok s ∧
      Answers (h ++ alignmentCalls it fs i) (fs.modify i (·.correct rigidMotion s)) is steps
  | _, _, _, [] => True
  | _, _, [], _ :: _ => False

/-- How a pass over the sensors `is` from `fs` ends, after the calls `h`: every alignment
answered with a correction and the fittings they leave; or, after the answered ones, the
context cancelled; or the next alignment failed. -/
def PassEnds (name : Nat → String) (h : List Call) (fs : List (Fitting Point3 Affine Rigid))
    (is : List Nat) (steps : List Rigid)
    (r : Except Fault (List (Fitting Point3 Affine Rigid)) × List Call) : Prop :=
  let pre := h ++ passCalls it fs is steps
  let gs := Fitting.after rigidMotion fs is steps
  let i := is.getD steps.length 0
  (steps.length = is.length ∧ r = (.ok gs, pre)) ∨
  (steps.length < is.length ∧ ∃ e, sc.cancelled pre = some e ∧ r = (.error e, pre ++ [.cancelled])) ∨
  (steps.length < is.length ∧ sc.cancelled pre = none ∧
    ∃ x, sc.align (pre ++ [.cancelled]) (Fitting.others gs i) (Fitting.cloudAt gs i) it = .error x ∧
      r = (.error (x.wrap ("align " ++ name i)), pre ++ alignmentCalls it gs i))

/-- One alignment of an existing sensor: the context is asked, then the aligner, and the
sensor moves by the correction answered. -/
theorem run_alignSensor (name : Nat → String) {fs : List (Fitting Point3 Affine Rigid)} {i : Nat}
    {f : Fitting Point3 Affine Rigid} (hf : fs[i]? = some f) (h : List Call) :
    (alignSensor rigidMotion (sc.aligner it) sc.context name fs i).run h =
      match sc.cancelled h with
      | some e => (.error e, h ++ [.cancelled])
      | none =>
        match sc.align (h ++ [.cancelled]) (Fitting.others fs i) (Fitting.cloudAt fs i) it with
        | .error x => (.error (x.wrap ("align " ++ name i)), h ++ alignmentCalls it fs i)
        | .ok s => (.ok (fs.modify i (·.correct rigidMotion s)), h ++ alignmentCalls it fs i) := by
  have hcloud : Fitting.cloudAt fs i = f.cloud := by simp [Fitting.cloudAt, hf]
  cases hc : sc.cancelled h with
  | some e => simp only [alignSensor, Traced.run_bind, run_context, hc]; rfl
  | none =>
    simp only [alignSensor, Traced.run_bind, run_context, hc, hf, aligner, Traced.run_ask, hcloud,
      alignmentCalls, List.append_assoc, List.singleton_append]
    cases sc.align (h ++ [.cancelled]) (Fitting.others fs i) f.cloud it with
    | error x => rfl
    | ok s => simp only [Fitting.set_correct_eq_modify rigidMotion hf]; rfl

/-- A pass over sensors that all exist: the script answers some of its alignments with
corrections, and the pass ends as `PassEnds` says. -/
theorem run_alignEach (name : Nat → String) (h : List Call) (fs : List (Fitting Point3 Affine Rigid))
    (is : List Nat) (hlt : ∀ i ∈ is, i < fs.length) :
    ∃ steps, steps.length ≤ is.length ∧ sc.Answers it h fs is steps ∧
      sc.PassEnds it name h fs is steps
        ((alignEach rigidMotion (sc.aligner it) sc.context name fs is).run h) := by
  induction is generalizing fs h with
  | nil => exact ⟨[], Nat.le_refl _, trivial, Or.inl ⟨rfl, by simp [alignEach, passCalls]; rfl⟩⟩
  | cons i is ih =>
    obtain ⟨f, hf⟩ : ∃ f, fs[i]? = some f :=
      ⟨_, List.getElem?_eq_getElem (hlt i List.mem_cons_self)⟩
    rw [alignEach, Traced.run_bind, run_alignSensor sc it name hf]
    cases hc : sc.cancelled h with
    | some e =>
      refine ⟨[], Nat.zero_le _, trivial, Or.inr (Or.inl ⟨Nat.zero_lt_succ _, e, ?_, ?_⟩)⟩
      · simpa [passCalls] using hc
      · simp only [passCalls, List.append_nil]
        rfl
    | none =>
      cases ha : sc.align (h ++ [.cancelled]) (Fitting.others fs i) (Fitting.cloudAt fs i) it with
      | error x =>
        refine ⟨[], Nat.zero_le _, trivial, Or.inr (Or.inr ⟨Nat.zero_lt_succ _, ?_, x, ?_, ?_⟩)⟩
        · simpa [passCalls] using hc
        · simpa [passCalls] using ha
        · simp only [passCalls, List.append_nil, Fitting.after_nil_right, List.length_nil,
            List.getD_cons_zero]
          rfl
      | ok s =>
        -- the first alignment answered: the rest of the pass runs from the corrected fittings
        have hlt' : ∀ j ∈ is, j < (fs.modify i (·.correct rigidMotion s)).length :=
          fun j hj => by simpa using hlt j (List.mem_cons_of_mem _ hj)
        obtain ⟨steps, hlen, hans, hend⟩ := ih (h ++ alignmentCalls it fs i) _ hlt'
        refine ⟨s :: steps, by simpa using hlen, ⟨hc, ha, hans⟩, ?_⟩
        simpa only [PassEnds, passCalls, Fitting.after_cons, List.getD_cons_succ, List.length_cons,
          List.append_assoc, Nat.add_right_cancel_iff, Nat.add_lt_add_iff_right] using hend

/-! ## The push phase -/

variable (store : Bool)

/-- The calls of pushing `w` to the sensor at position `k` with view `v`, after the calls
`h`: the push, then the transform recorded under the sensor's serial when `store` and the
push answered no failure. -/
def pushOneCalls (h : List Call) (k : Nat) (v : SensorView) (w : Affine) : List Call :=
  .pushWorld k w :: if store && (sc.pushWorld h k w).isNone then [.record v.serial w] else []

/-- The calls of pushing the transforms `ws` to the sensors with views `vs` from position
`k` on, in order, after the calls `h`. -/
def pushCalls : List Call → Nat → List SensorView → List Affine → List Call
  | h, k, v :: vs, w :: ws =>
    sc.pushOneCalls store h k v w ++ pushCalls (h ++ sc.pushOneCalls store h k v w) (k + 1) vs ws
  | _, _, _, _ => []

/-- What those pushes answered. -/
def pushAnswers : List Call → Nat → List SensorView → List Affine → List (Option Fault)
  | h, k, v :: vs, w :: ws =>
    sc.pushWorld h k w :: pushAnswers (h ++ sc.pushOneCalls store h k v w) (k + 1) vs ws
  | _, _, _, _ => []

theorem run_pushOne (rounds iterations : Int) (h : List Call) (k : Nat) (v : SensorView)
    (w : Affine) :
    ((sc.refiner rounds iterations store).pushOne (sc.device k v) w).run h =
      (sc.pushWorld h k w, h ++ sc.pushOneCalls store h k v w) := by
  simp only [Refiner.pushOne, Traced.run_bind, device, Traced.run_ask, pushOneCalls]
  by_cases hp : (sc.pushWorld h k w).isNone = true
  · cases store
    · simp only [hp, ↓reduceIte, refiner, Bool.false_and, Bool.false_eq_true]; rfl
    · simp only [hp, ↓reduceIte, refiner, Bool.true_and]
      exact Prod.ext rfl (List.append_assoc _ _ _)
  · simp only [Bool.not_eq_true] at hp
    simp only [hp, ↓reduceIte, Bool.and_false, Bool.false_eq_true]; rfl

/-- The transforms are pushed in sensor order, each push followed by its record. -/
theorem run_push (rounds iterations : Int)
    (g : RefineDevice Traced × Fitting Point3 Affine Rigid → Traced (Option Fault))
    (hg : ∀ d f, g (d, f) = (sc.refiner rounds iterations store).pushOne d f.world)
    (h : List Call) (k : Nat) (views : List SensorView) (fs : List (Fitting Point3 Affine Rigid)) :
    (((sc.devicesFrom k views).zip fs).mapM g).run h =
      (sc.pushAnswers store h k views (fs.map (·.world)),
        h ++ sc.pushCalls store h k views (fs.map (·.world))) := by
  induction views generalizing k h fs with
  | nil => simp only [devicesFrom, List.zip_nil_left, pushAnswers, pushCalls, List.append_nil]; rfl
  | cons v vs ih =>
    cases fs with
    | nil =>
      simp only [List.zip_nil_right, List.map_nil, pushAnswers, pushCalls, List.append_nil]; rfl
    | cons f fs =>
      simp only [devicesFrom, List.zip_cons_cons, List.mapM_cons, Traced.run_bind, hg,
        run_pushOne, ih, List.map_cons, pushAnswers, pushCalls, List.append_assoc]
      rfl

/-! ## Pushes and records in each phase -/

@[simp] theorem length_fetched (h : List Call) (k n : Nat) : (sc.fetched h k n).length = n := by
  simp [fetched]

@[simp] theorem filterMap_pushed_alignmentCalls (it : Int) (gs : List (Fitting Point3 Affine Rigid))
    (i : Nat) : (alignmentCalls it gs i).filterMap Call.pushed? = [] := rfl

@[simp] theorem filterMap_recorded_alignmentCalls (it : Int)
    (gs : List (Fitting Point3 Affine Rigid)) (i : Nat) :
    (alignmentCalls it gs i).filterMap Call.recorded? = [] := rfl

@[simp] theorem filterMap_pushed_passCalls (it : Int) (fs : List (Fitting Point3 Affine Rigid))
    (is : List Nat) (steps : List Rigid) : (passCalls it fs is steps).filterMap Call.pushed? = [] := by
  induction is generalizing fs steps with
  | nil => simp [passCalls]
  | cons i is ih => cases steps <;> simp [passCalls, ih]

@[simp] theorem filterMap_recorded_passCalls (it : Int) (fs : List (Fitting Point3 Affine Rigid))
    (is : List Nat) (steps : List Rigid) :
    (passCalls it fs is steps).filterMap Call.recorded? = [] := by
  induction is generalizing fs steps with
  | nil => simp [passCalls]
  | cons i is ih => cases steps <;> simp [passCalls, ih]

/-- Every sensor's transform is pushed once, in sensor order. -/
theorem filterMap_pushed_pushCalls (h : List Call) (k : Nat) (views : List SensorView)
    (ws : List Affine) (hlen : ws.length = views.length) :
    (sc.pushCalls store h k views ws).filterMap Call.pushed? = (List.range' k views.length).zip ws := by
  induction views generalizing h k ws with
  | nil => simp [pushCalls]
  | cons v vs ih =>
    cases ws with
    | nil => simp at hlen
    | cons w ws =>
      simp only [List.length_cons, Nat.add_right_cancel_iff] at hlen
      simp only [pushCalls, List.filterMap_append, ih _ _ _ hlen, List.length_cons,
        List.range'_succ, List.zip_cons_cons, pushOneCalls]
      split <;> simp [Call.pushed?]

/-- A pushed transform is recorded, under its sensor's serial, exactly when `store` and its
push answered no failure. -/
theorem filterMap_recorded_pushCalls (h : List Call) (k : Nat) (views : List SensorView)
    (ws : List Affine) :
    (sc.pushCalls store h k views ws).filterMap Call.recorded? =
      ((views.zip ws).zip (sc.pushAnswers store h k views ws)).filterMap fun ((v, w), a) =>
        if store && a.isNone then some (v.serial, w) else none := by
  induction views generalizing h k ws with
  | nil => simp [pushCalls]
  | cons v vs ih =>
    cases ws with
    | nil => simp [pushCalls, pushAnswers]
    | cons w ws =>
      simp only [pushCalls, pushAnswers, List.filterMap_append, ih, List.zip_cons_cons,
        List.filterMap_cons, pushOneCalls]
      by_cases hc : (store && (sc.pushWorld h k w).isNone) = true <;> simp [hc, Call.recorded?]

/-- However a pass ends, either every alignment was answered, or after the answered ones the
pass failed with calls that push and record nothing. -/
theorem PassEnds.answered_or_failed {name : Nat → String} {h : List Call}
    {fs : List (Fitting Point3 Affine Rigid)} {is : List Nat} {steps : List Rigid}
    {r : Except Fault (List (Fitting Point3 Affine Rigid)) × List Call}
    (hend : sc.PassEnds it name h fs is steps r) :
    (steps.length = is.length ∧
      r = (.ok (Fitting.after rigidMotion fs is steps), h ++ passCalls it fs is steps)) ∨
    (steps.length < is.length ∧ ∃ e rest, r = (.error e, (h ++ passCalls it fs is steps) ++ rest) ∧
      rest.filterMap Call.pushed? = [] ∧ rest.filterMap Call.recorded? = []) := by
  rcases hend with hdone | ⟨hlt, e, -, hr⟩ | ⟨hlt, -, x, -, hr⟩
  · exact Or.inl hdone
  · exact Or.inr ⟨hlt, e, [.cancelled], hr, rfl, rfl⟩
  · exact Or.inr ⟨hlt, _, _, hr, filterMap_pushed_alignmentCalls .., filterMap_recorded_alignmentCalls ..⟩

end Script

namespace Script

variable (sc : Script)

theorem length_of_snapshots {fetched : List (Except Fault (Option Frame))} {frames : List Frame}
    (h : Refiner.snapshots fetched = some frames) : frames.length = fetched.length := by
  induction fetched generalizing frames with
  | nil => simp_all
  | cons r rs ih =>
    match r, h with
    | .ok (some f), h =>
      rw [snapshots_cons_some] at h
      obtain ⟨rest, hrest, rfl⟩ := Option.map_eq_some_iff.1 h
      simp [ih hrest]

theorem lt_of_mem_schedule {n rounds i : Nat} (h : i ∈ schedule n rounds) : i < n := by
  simp only [schedule, List.mem_flatten, List.mem_replicate] at h
  obtain ⟨l, ⟨_, rfl⟩, hi⟩ := h
  exact List.mem_range.1 hi

/-- Once its preconditions hold and every snapshot was fetched, a refinement is one pass of
alignments over the schedule from the frames placed by the sensors' transforms, then, when
every alignment answered, the pushes. -/
theorem run_refine_of_snapshots (views : List SensorView) (rounds iterations : Int) (store : Bool)
    (hcheck : Refiner.check views = none)
    (hfail : Refiner.fetchFailure views (sc.fetched [] 0 views.length) = none)
    {frames : List Frame} (hframes : Refiner.snapshots (sc.fetched [] 0 views.length) = some frames) :
    (sc.refine views rounds iterations store).run [] =
      let start := (views.zip frames).map fun (v, f) => Fitting.start rigidMotion v.world f.vertices
      match (alignEach rigidMotion (sc.aligner iterations) sc.context
          (fun i => (views.getD i default).endpoint) start (schedule views.length rounds.toNat)).run
          ((List.range views.length).map .lastFrame) with
      | (.error f, h) => (.returned none (some f), h)
      | (.ok fs, h) =>
        let answers := sc.pushAnswers store h 0 views (fs.map (·.world))
        let report :=
          Refiner.report views (fs.map fun f => (f.world, (f.last.map (·.rms)).getD 0)) answers
        (.returned (some report) (report.fault.map (Fault.wrap "push calibration")),
          h ++ sc.pushCalls store h 0 views (fs.map (·.world))) := by
  simp only [refine, Refiner.refine, map_view_devicesFrom, hcheck, Traced.run_bind, run_fetch_start,
    hfail, hframes, alignRounds_eq_alignEach]
  have haligner : (fun t s => (sc.refiner rounds iterations store).align t s
      (sc.refiner rounds iterations store).iterations) = sc.aligner iterations := rfl
  rw [haligner, show (sc.refiner rounds iterations store).rounds = rounds from rfl]
  generalize StateT.run (alignEach rigidMotion (sc.aligner iterations) _ _ _ _) _ = p
  obtain ⟨r, h⟩ := p
  cases r with
  | error f => rfl
  | ok fs =>
    rw [Traced.run_bind, sc.run_push store rounds iterations
      (fun x => (sc.refiner rounds iterations store).pushOne x.1 x.2.world) (fun _ _ => rfl)]
    rfl

/-- A refinement whose fetches never answer without a snapshot updates its sensors all or
nothing, on a fixed schedule. It makes no call when its preconditions fail, and only the
fetches, in sensor order, when a fetch fails. Otherwise its calls go on with the alignments of
the schedule, the `k`-th aligning sensor `k % n` onto the others' clouds as the corrections
before it left them, within the iteration bound. Either the context cancels or an alignment
fails before all `rounds · n` are answered, and the run ends with that failure, nothing pushed
and nothing recorded; or all are answered, and then every sensor's new transform is pushed
once, in sensor order, recorded under its serial exactly when storing and its push succeeded,
and the push failures are reported. -/
theorem refine_all_or_nothing (views : List SensorView) (rounds iterations : Int) (store : Bool)
    (hsnap : ∀ h i, sc.lastFrame h i ≠ .ok none) :
    let n := views.length
    let run := (sc.refine views rounds iterations store).run []
    let fetches := (List.range n).map Call.lastFrame
    (∀ f, Refiner.check views = some f → run = (.returned none (some f), [])) ∧
    (Refiner.check views = none →
      (∀ f, Refiner.fetchFailure views (sc.fetched [] 0 n) = some f →
        run = (.returned none (some f), fetches)) ∧
      (Refiner.fetchFailure views (sc.fetched [] 0 n) = none →
        ∃ frames steps, Refiner.snapshots (sc.fetched [] 0 n) = some frames ∧
          let start := (views.zip frames).map fun (v, f) => Fitting.start rigidMotion v.world f.vertices
          let is := schedule n rounds.toNat
          let aligned := fetches ++ passCalls iterations start is steps
          steps.length ≤ rounds.toNat * n ∧ sc.Answers iterations fetches start is steps ∧
          aligned <+: run.2 ∧
          (steps.length < rounds.toNat * n →
            (∃ f, run.1 = .returned none (some f)) ∧
            run.2.filterMap Call.pushed? = [] ∧ run.2.filterMap Call.recorded? = []) ∧
          (steps.length = rounds.toNat * n →
            let fs := Fitting.after rigidMotion start is steps
            let ws := fs.map (·.world)
            let answers := sc.pushAnswers store aligned 0 views ws
            let report :=
              Refiner.report views (fs.map fun f => (f.world, (f.last.map (·.rms)).getD 0)) answers
            run.1 = .returned (some report) (report.fault.map (Fault.wrap "push calibration")) ∧
            run.2 = aligned ++ sc.pushCalls store aligned 0 views ws ∧
            run.2.filterMap Call.pushed? = (List.range n).zip ws ∧
            run.2.filterMap Call.recorded? =
              ((views.zip ws).zip answers).filterMap fun ((v, w), a) =>
                if store && a.isNone then some (v.serial, w) else none))) := by
  dsimp only
  refine ⟨fun f hcheck => ?_, fun hcheck => ⟨fun f hfail => ?_, fun hfail => ?_⟩⟩
  · simp only [refine, Refiner.refine, map_view_devicesFrom, hcheck]
    rfl
  · simp only [refine, Refiner.refine, map_view_devicesFrom, hcheck, Traced.run_bind,
      run_fetch_start, hfail]
    rfl
  · have hok := (fetchFailure_eq_none_iff views _ (sc.length_fetched [] 0 _)).1 hfail
    obtain ⟨frames, hframes⟩ := exists_snapshots hok fun hnone => by
      obtain ⟨j, -, hj⟩ := List.mem_map.1 hnone
      exact hsnap _ _ hj
    have hstart : ((views.zip frames).map fun (v, f) =>
        Fitting.start rigidMotion v.world f.vertices).length = views.length := by
      simp [(length_of_snapshots hframes).trans (sc.length_fetched [] 0 _)]
    obtain ⟨steps, hsteps, hans, hend⟩ := sc.run_alignEach iterations
      (fun i => (views.getD i default).endpoint) ((List.range views.length).map .lastFrame) _
      (schedule views.length rounds.toNat) fun i hi => hstart ▸ lt_of_mem_schedule hi
    refine ⟨frames, steps, hframes, ?_⟩
    rw [sc.run_refine_of_snapshots views rounds iterations store hcheck hfail hframes]
    dsimp only
    rw [length_schedule] at hsteps
    rcases hend.answered_or_failed with ⟨hl, hr⟩ | ⟨hl, e, rest, hr, hpush, hrecord⟩
    · -- every alignment answered: the pushes follow
      rw [length_schedule] at hl
      rw [hr]
      dsimp only
      refine ⟨hsteps, hans, List.prefix_append _ _, fun hlt => absurd hl (by omega), fun _ => ⟨rfl, rfl, ?_, ?_⟩⟩
      · have hws := (Fitting.length_after rigidMotion _ (schedule views.length rounds.toNat) steps).trans
          hstart
        rw [List.filterMap_append, List.filterMap_append, filterMap_pushed_passCalls,
          sc.filterMap_pushed_pushCalls store _ _ _ _ (by simpa using hws), List.range_eq_range']
        simp [Call.pushed?]
      · simp [List.filterMap_append, Call.recorded?, filterMap_recorded_pushCalls]
    · -- the context cancelled or an alignment failed: the run ends there
      rw [length_schedule] at hl
      rw [hr]
      dsimp only
      exact ⟨hsteps, hans, List.prefix_append _ _,
        fun _ => ⟨⟨e, rfl⟩, by simp [hpush, Call.pushed?], by simp [hrecord, Call.recorded?]⟩,
        fun h => absurd h (by omega)⟩

end Script

/-- Two calibrated sensors, one round, each pushed transform recorded when its push succeeds.
An aligner that fails on its second call ends the run after the fetches and both alignments,
with nothing pushed or recorded; one that always answers has both sensors pushed once, in
order, and only the first recorded, its push alone having succeeded. -/
theorem refine_two_sensors_all_or_nothing :
    let views : List SensorView :=
      [⟨"dev-0", "A", true, Affine.identity⟩, ⟨"dev-1", "B", true, Affine.identity⟩]
    let sc (fails : Bool) : Script :=
      { lastFrame := fun _ i => .ok (some { vertices := List.replicate (i + 2) default })
        pushWorld := fun _ i _ => if i = 1 then some (.plain "send failed") else none
        align := fun h _ _ _ =>
          if fails && 3 < h.length then .error (.plain "no fit") else .ok Rigid.identity
        cancelled := fun _ => none }
    (∀ fails, (∀ h i, (sc fails).lastFrame h i ≠ .ok none) ∧
      let n := views.length
      let run := ((sc fails).refine views 1 1 true).run []
      let fetches := (List.range n).map Call.lastFrame
      (∀ f, Refiner.check views = some f → run = (.returned none (some f), [])) ∧
      (Refiner.check views = none →
        (∀ f, Refiner.fetchFailure views ((sc fails).fetched [] 0 n) = some f →
          run = (.returned none (some f), fetches)) ∧
        (Refiner.fetchFailure views ((sc fails).fetched [] 0 n) = none →
          ∃ frames steps, Refiner.snapshots ((sc fails).fetched [] 0 n) = some frames ∧
            let start := (views.zip frames).map fun (v, f) =>
              Fitting.start rigidMotion v.world f.vertices
            let is := schedule n (1 : Int).toNat
            let aligned := fetches ++ Script.passCalls 1 start is steps
            steps.length ≤ (1 : Int).toNat * n ∧ (sc fails).Answers 1 fetches start is steps ∧
            aligned <+: run.2 ∧
            (steps.length < (1 : Int).toNat * n →
              (∃ f, run.1 = .returned none (some f)) ∧
              run.2.filterMap Call.pushed? = [] ∧ run.2.filterMap Call.recorded? = []) ∧
            (steps.length = (1 : Int).toNat * n →
              let fs := Fitting.after rigidMotion start is steps
              let ws := fs.map (·.world)
              let answers := (sc fails).pushAnswers true aligned 0 views ws
              let report :=
                Refiner.report views (fs.map fun f => (f.world, (f.last.map (·.rms)).getD 0)) answers
              run.1 = .returned (some report) (report.fault.map (Fault.wrap "push calibration")) ∧
              run.2 = aligned ++ (sc fails).pushCalls true aligned 0 views ws ∧
              run.2.filterMap Call.pushed? = (List.range n).zip ws ∧
              run.2.filterMap Call.recorded? =
                ((views.zip ws).zip answers).filterMap fun ((v, w), a) =>
                  if true && a.isNone then some (v.serial, w) else none)))) ∧
    Refiner.check views = none ∧
    (((sc true).refine views 1 1 true).run []).2.length = 6 ∧
    (((sc true).refine views 1 1 true).run []).2.filterMap Call.pushed? = [] ∧
    (((sc true).refine views 1 1 true).run []).2.filterMap Call.recorded? = [] ∧
    (((sc false).refine views 1 1 true).run []).2.length = 9 ∧
    ((((sc false).refine views 1 1 true).run []).2.filterMap Call.pushed?).map Prod.fst = [0, 1] ∧
    ((((sc false).refine views 1 1 true).run []).2.filterMap Call.recorded?).map Prod.fst =
      ["A"] := by
  intro views sc
  have hsnap : ∀ fails h i, (sc fails).lastFrame h i ≠ .ok none := fun _ _ _ => nofun
  exact ⟨fun fails => ⟨hsnap fails, (sc fails).refine_all_or_nothing views 1 1 true (hsnap fails)⟩,
    by decide +kernel⟩

/-- Two calibrated sensors, the first answering its fetch with neither a snapshot nor a
failure: the refinement reads through the missing snapshot. -/
theorem refine_reads_missing_snapshot :
    let sc : Script :=
      { lastFrame := fun _ i => if i = 0 then .ok none else .ok (some {})
        pushWorld := fun _ _ _ => none
        align := fun _ _ _ _ => .ok Rigid.identity
        cancelled := fun _ => none }
    ((sc.refine [⟨"dev-0", "A", true, Affine.identity⟩, ⟨"dev-1", "B", true, Affine.identity⟩]
      1 1 false).run []).1 = .panicked nilDereference := rfl

end DepthRig
