import DepthRig.Proofs.Sync.Plans
import DepthRig.Sync.Reconciler

/-!
# Reconciliation runs degrade, never half-apply

A reconciliation run either builds a plan from every sensor's timestamps, then sends every
sensor its own relabelling and names exactly those that refused, or sends nothing at all;
every failure is a synchronization failure (`RunOutcome.Degrades`). Over a sequence of runs
the reconciler remembers the latest plan built and the latest failure.
-/

namespace DepthRig.Sync

/-- A sensor with its answer to the timestamp request and its refusal of the relabelling. -/
abbrev Scripted := Peer × Except Fault TimestampList × Option Fault

/-- Every failure of a run is recognised as synchronization being unavailable. -/
theorem RunError.is_syncUnavailable (e : RunError) : e.toFault.is .syncUnavailable = true := by
  cases e <;> simp [RunError.toFault, SyncError.toFault, Fault.is]

namespace Reconciler

/-- The sensors' inputs to the plan: each answered list, with the sensor's role and delay. -/
def planInputs (peers : List Scripted) : List DeviceTimes :=
  peers.map fun (p, a, _) => p.times (a.toOption.getD default)

variable (r : Reconciler)

/-- The plan of a run: refused with no sensors or with a sensor that gave no timestamps,
otherwise the plan built from the answers. -/
theorem plan_cases (peers : List Scripted) :
    (peers = [] ∨ (∃ x ∈ peers, x.2.1.toOption = none)) ∧
        (∃ e, r.plan (peers.map fun (p, a, _) => (p, a)) = .error e) ∨
      (peers ≠ [] ∧ (∀ x ∈ peers, x.2.1.toOption.isSome) ∧
        r.plan (peers.map fun (p, a, _) => (p, a)) = buildPlan (planInputs peers) r.tolerance) := by
  unfold plan
  by_cases hnil : peers = []
  · subst hnil
    exact .inl ⟨.inl rfl, _, rfl⟩
  have hne : (peers.map fun (p, a, _) => (p, a)).isEmpty = false := by
    cases peers with
    | nil => contradiction
    | cons _ _ => rfl
  simp only [hne, Bool.false_eq_true, if_false]
  split
  · -- the first sensor that gave no timestamps stops the run
    rename_i p f hfind
    obtain ⟨hnone, hmem⟩ := List.find?_eq_some_iff_getElem.1 hfind |>.imp_right
      fun ⟨i, hi, hget, _⟩ => List.mem_of_getElem hget
    obtain ⟨x, hx, hpx⟩ := List.mem_map.1 hmem
    refine .inl ⟨.inr ⟨x, hx, ?_⟩, _, rfl⟩
    rw [← hpx] at hnone
    simpa using hnone
  · rename_i hfind
    refine .inr ⟨hnil, fun x hx => ?_, ?_⟩
    · -- no sensor is left without timestamps
      cases hfound : (peers.map fun (p, a, _) => (p, a)).find? (fun a => a.2.toOption.isNone) with
      | none =>
        have := List.find?_eq_none.1 hfound (x.1, x.2.1) (List.mem_map.2 ⟨x, hx, rfl⟩)
        simpa [Option.isSome_iff_ne_none] using this
      | some y =>
        obtain ⟨hy, hymem⟩ := (List.find?_eq_some_iff_getElem.1 hfound).imp_right
          fun ⟨i, hi, hget, _⟩ => List.mem_of_getElem hget
        obtain ⟨p, a⟩ := y
        cases a with
        | error f => exact absurd hfound (hfind p f)
        | ok l => simp [Except.toOption] at hy
    · simp only [List.map_map]
      rfl

/-- The failure of the relabellings names, in order, the sensors that refused theirs, each
as a reorder failure; there is none when no sensor refused. -/
theorem reorderError_names (refusals : List (Peer × Option Fault)) :
    (reorderError refusals = none ↔ ∀ x ∈ refusals, x.2 = none) ∧
      ∀ e, reorderError refusals = some e → ∃ first rest, e = .reorder first rest ∧
        (first :: rest).map (·.device) = (refusals.filter (·.2.isSome)).map (·.1.endpoint) ∧
        ∀ s ∈ first :: rest, s.stage = .reorder := by
  -- the failures, one per refusal in order
  have hnames : ∀ l : List (Peer × Option Fault),
      (l.filterMap fun x => x.2.map fun f => (⟨.reorder, x.1.endpoint, some f⟩ : SyncError)).map
        (·.device) = (l.filter (·.2.isSome)).map (·.1.endpoint) ∧
      ∀ s ∈ l.filterMap (fun x => x.2.map fun f => (⟨.reorder, x.1.endpoint, some f⟩ : SyncError)),
        s.stage = .reorder := by
    intro l
    induction l with
    | nil => simp
    | cons x l ih =>
      obtain ⟨p, f⟩ := x
      cases f with
      | none => simpa using ih
      | some f => simpa using ih
  obtain ⟨hdev, hstage⟩ := hnames refusals
  unfold reorderError
  split
  · rename_i hnil
    refine ⟨iff_of_true rfl fun x hx => ?_, fun e he => by cases he⟩
    obtain ⟨p, f⟩ := x
    cases f with
    | none => rfl
    | some f =>
      have := List.filterMap_eq_nil_iff.1 hnil (p, some f) hx
      simp at this
  · rename_i first rest hcons
    refine ⟨iff_of_false (by simp) fun hall => ?_, fun e he => ?_⟩
    · -- the first failure comes from a sensor that refused
      have hmem : first ∈ first :: rest := List.mem_cons_self
      rw [← hcons] at hmem
      obtain ⟨⟨p, f⟩, hx, hg⟩ := List.mem_filterMap.1 hmem
      have hf : f = none := hall (p, f) hx
      subst hf
      cases hg
    · cases he
      rw [hcons] at hdev hstage
      exact ⟨first, rest, rfl, hdev, hstage⟩

end Reconciler

/-- What a reconciliation run over `peers` promises: every failure is a synchronization
failure; there is no plan exactly when there are no sensors, a sensor gave no timestamps, or
no plan can be built from them, and then no sensor is sent anything; otherwise the plan is the
one built from the timestamps, every sensor is sent its own part's relabelling, and the
failure names exactly the sensors that refused theirs. -/
structure RunOutcome.Degrades (tolerance : Duration) (peers : List Scripted) (o : RunOutcome) :
    Prop where
  unavailable : ∀ e, o.error = some e → e.toFault.is .syncUnavailable = true
  none_iff : o.plan = none ↔ peers = [] ∨ (∃ x ∈ peers, x.2.1.toOption = none) ∨
    ∃ e, buildPlan (Reconciler.planInputs peers) tolerance = .error e
  nothing_sent : o.plan = none → o.sent = peers.map (fun _ => none) ∧ ∃ e, o.error = some (.sync e)
  planned : ∀ plan, o.plan = some plan →
    buildPlan (Reconciler.planInputs peers) tolerance = .ok plan ∧
      plan.devices.length = peers.length ∧ o.sent = plan.devices.map fun d => some d.postSync
  unrefused : o.plan.isSome → (o.error = none ↔ ∀ x ∈ peers, x.2.2 = none)
  refusals_named : o.plan.isSome → ∀ e, o.error = some e → ∃ first rest,
    e = .reorder first rest ∧
      (first :: rest).map (·.device) = (peers.filter (·.2.2.isSome)).map (·.1.endpoint) ∧
      ∀ s ∈ first :: rest, s.stage = .reorder

namespace Reconciler

variable (r : Reconciler)

/-- A built plan has one part per sensor. -/
theorem length_devices_of_buildPlan {devices : List DeviceTimes} {tolerance : Duration}
    {plan : Plan} (h : buildPlan devices tolerance = .ok plan) :
    plan.devices.length = devices.length := by
  -- a built plan has exactly one main sensor
  have hone : devices.countP (·.main) = 1 := by
    by_contra hne
    obtain ⟨e, he, -⟩ := (buildPlan_outcome devices tolerance).1.2 hne
    rw [h] at he
    cases he
  obtain ⟨m, hm⟩ := List.length_eq_one_iff.1 ((length_mainPositions devices).trans hone)
  obtain ⟨main, hmain, hmainMain⟩ := mem_mainPositions.1 (hm ▸ List.mem_singleton_self m)
  exact (fits_of_buildPlan hmain hm h).length

/-- A run stopped before any plan sends nothing and fails once, as synchronization
unavailable. -/
theorem degrades_of_stopped {tolerance : Duration} {peers : List Scripted} (e : SyncError)
    (hstop : peers = [] ∨ (∃ x ∈ peers, x.2.1.toOption = none) ∨
      ∃ e, buildPlan (planInputs peers) tolerance = .error e) :
    RunOutcome.Degrades tolerance peers ⟨none, some (.sync e), peers.map fun _ => none⟩ where
  unavailable := by
    rintro e' ⟨⟩
    exact RunError.is_syncUnavailable _
  none_iff := iff_of_true rfl hstop
  nothing_sent _ := ⟨rfl, e, rfl⟩
  planned _ h := by cases h
  unrefused h := by cases h
  refusals_named h := by cases h

/-- A run with a plan sends every sensor its part's relabelling, and fails exactly on the
sensors that refused theirs. -/
theorem degrades_of_planned {tolerance : Duration} {peers : List Scripted} {plan : Plan}
    (hne : peers ≠ []) (hall : ∀ x ∈ peers, x.2.1.toOption.isSome)
    (hbuild : buildPlan (planInputs peers) tolerance = .ok plan) :
    RunOutcome.Degrades tolerance peers ⟨some plan,
      reorderError (peers.map fun (p, _, f) => (p, f)),
      plan.devices.map fun d => some d.postSync⟩ where
  unavailable e _ := RunError.is_syncUnavailable e
  none_iff := by
    refine iff_of_false (by simp) ?_
    rintro (h | ⟨x, hx, hx'⟩ | ⟨e, he⟩)
    · exact hne h
    · simpa [hx'] using hall x hx
    · rw [hbuild] at he
      cases he
  nothing_sent h := by cases h
  planned plan' h := by
    cases h
    refine ⟨hbuild, ?_, rfl⟩
    rw [length_devices_of_buildPlan hbuild, planInputs, List.length_map]
  unrefused _ := (reorderError_names _).1.trans List.forall_mem_map
  refusals_named _ e he := by
    -- the refusals, read off the sensors, keep their order
    have hfilter : ((peers.map fun (p, _, f) => (p, f)).filter (·.2.isSome)).map (·.1.endpoint) =
        (peers.filter (·.2.2.isSome)).map (·.1.endpoint) := by
      rw [List.filter_map, List.map_map]
      rfl
    rw [← hfilter]
    exact (reorderError_names _).2 e he

/-- One run keeps what it promises. -/
theorem run_degrades (peers : List Scripted) : (r.run peers).1.Degrades r.tolerance peers := by
  unfold run
  rcases plan_cases r peers with ⟨hstop, e, he⟩ | ⟨hne, hall, hplan⟩
  · rw [he]
    rcases hstop with h | h
    · exact degrades_of_stopped e (.inl h)
    · exact degrades_of_stopped e (.inr (.inl h))
  · rw [hplan]
    cases hbuild : buildPlan (planInputs peers) r.tolerance with
    | error e => exact degrades_of_stopped e (.inr (.inr ⟨e, hbuild⟩))
    | ok plan => exact degrades_of_planned hne hall hbuild

/-- A run remembers its plan, if it built one, and its failure. -/
theorem run_remembers (peers : List Scripted) :
    (r.run peers).2 = r.record (r.run peers).1.plan (r.run peers).1.error := by
  unfold run
  split <;> rfl

@[simp] theorem tolerance_record (plan : Option Plan) (error : Option RunError) :
    (r.record plan error).tolerance = r.tolerance := rfl

/-- The plan of the latest run that built one, scanning back from the most recent, or what
the reconciler remembered before the runs. -/
def latestPlan (before : Option Plan) (outcomes : List RunOutcome) : Option Plan :=
  (outcomes.reverse.findSome? (·.plan)).orElse fun _ => before

/-- A first run, then the others: what is remembered after the first is the start for the
others. -/
theorem latestPlan_cons (before : Option Plan) (o : RunOutcome) (os : List RunOutcome) :
    latestPlan before (o :: os) = latestPlan (o.plan.orElse fun _ => before) os := by
  simp only [latestPlan, List.reverse_cons, List.findSome?_append, List.findSome?_singleton]
  cases os.reverse.findSome? (·.plan) <;> cases o.plan <;> rfl

/-- The latest run comes first when scanning back. -/
theorem latestPlan_concat (before : Option Plan) (os : List RunOutcome) (o : RunOutcome) :
    latestPlan before (os ++ [o]) = o.plan.orElse fun _ => latestPlan before os := by
  simp only [latestPlan, List.reverse_append, List.reverse_singleton, List.singleton_append,
    List.findSome?_cons]
  cases o.plan <;> rfl

theorem runAll_cons (peers : List Scripted) (more : List (List Scripted)) :
    r.runAll (peers :: more) = r.run peers :: (r.run peers).2.runAll more := rfl

/-- Run `j` of a sequence is a run over the `j`-th sensors by a reconciler with the same
tolerance, which remembers the latest plan of the runs before it. -/
theorem runAll_getElem? : ∀ (runs : List (List Scripted)) (r : Reconciler) (j : Nat)
    (o : RunOutcome) (r' : Reconciler), (r.runAll runs)[j]? = some (o, r') →
    ∃ (peers : List Scripted) (r₀ : Reconciler), runs[j]? = some peers ∧
      r₀.tolerance = r.tolerance ∧ r₀.run peers = (o, r') ∧
      r₀.last = latestPlan r.last (((r.runAll runs).take j).map (·.1))
  | [], _, _, _, _, h => by simp [runAll] at h
  | peers :: more, r, j, o, r', h => by
    rw [runAll_cons] at h
    cases j with
    | zero =>
      rw [List.getElem?_cons_zero] at h
      exact ⟨peers, r, rfl, rfl, Option.some.inj h, rfl⟩
    | succ j =>
      -- the rest of the runs start from the reconciler after the first
      rw [List.getElem?_cons_succ] at h
      obtain ⟨peers', r₀, hpeers, htol, hrun, hlast⟩ := runAll_getElem? more (r.run peers).2 j o r' h
      refine ⟨peers', r₀, hpeers, ?_, hrun, ?_⟩
      · rw [htol, run_remembers]
        rfl
      · rw [hlast, runAll_cons, List.take_succ_cons, List.map_cons, latestPlan_cons, run_remembers]
        rfl

end Reconciler

/-- Every run of a reconciler degrades and never half-applies a plan: each failure is a
synchronization failure; with no sensors, a sensor without timestamps or no plan, no sensor is
sent anything; otherwise each sensor is sent its part's relabelling once and the failure names
every sensor that refused. After each run the reconciler holds the plan of the latest run that
built one (or what it held before the runs) and the failure of that run. -/
theorem reconcile_runs_degrade (r : Reconciler) (runs : List (List Scripted)) (j : Nat)
    (o : RunOutcome) (r' : Reconciler) (h : (r.runAll runs)[j]? = some (o, r')) :
    ∃ peers, runs[j]? = some peers ∧ o.Degrades r.tolerance peers ∧
      r'.last = Reconciler.latestPlan r.last (((r.runAll runs).take (j + 1)).map (·.1)) ∧
      r'.lastError = o.error := by
  obtain ⟨peers, r₀, hpeers, htol, hrun, hlast⟩ := Reconciler.runAll_getElem? runs r j o r' h
  have hdeg := Reconciler.run_degrades r₀ peers
  have hmem := Reconciler.run_remembers r₀ peers
  rw [hrun] at hdeg hmem
  dsimp only at hdeg hmem
  refine ⟨peers, hpeers, htol ▸ hdeg, ?_, by rw [hmem]; rfl⟩
  -- the run's own plan comes after those of the runs before it
  rw [List.take_add_one, h, Option.toList_some, List.map_append, List.map_singleton,
    Reconciler.latestPlan_concat, hmem, ← hlast]
  rfl

/-- A first run builds a plan though one sensor refuses its relabelling; a second run fails
on a sensor that gives no timestamps. After the second run the reconciler still holds the
first run's plan, with the second run's failure. -/
theorem reconcile_keeps_plan_after_failed_run :
    let runs : List (List Scripted) :=
      [[(⟨"dev-0", "A", { DeviceConfig.default with softwareSync := .main }⟩, .ok ⟨[0], []⟩, none),
        (⟨"dev-1", "B", { DeviceConfig.default with softwareSync := .subordinate, syncOffset := 1 }⟩,
          .ok ⟨[160], []⟩, some (.plain "refused"))],
       [(⟨"dev-0", "A", { DeviceConfig.default with softwareSync := .main }⟩,
          .error (.plain "lost"), none),
        (⟨"dev-1", "B", { DeviceConfig.default with softwareSync := .subordinate, syncOffset := 1 }⟩,
          .ok ⟨[160], []⟩, none)]]
    let failed : RunOutcome :=
      ⟨none, some (.sync ⟨.timestamps, "dev-0", some (.plain "lost")⟩), [none, none]⟩
    let after : Reconciler := ⟨⟨2000000⟩, some ⟨⟨2000000⟩, [0],
      [⟨"dev-0", "A", true, [some 0], [0], [0]⟩, ⟨"dev-1", "B", false, [some 0], [0], [0]⟩]⟩,
      failed.error⟩
    ((Reconciler.create ⟨2000000⟩).runAll runs)[1]? = some (failed, after) ∧
      ∃ peers, runs[1]? = some peers ∧ failed.Degrades ⟨2000000⟩ peers ∧
        after.last = Reconciler.latestPlan none
          ((((Reconciler.create ⟨2000000⟩).runAll runs).take 2).map (·.1)) ∧
        after.lastError = failed.error := by
  intro runs failed after
  have h : ((Reconciler.create ⟨2000000⟩).runAll runs)[1]? = some (failed, after) := by
    simp +decide [runs, failed, after, Reconciler.runAll, Reconciler.run, Reconciler.plan,
      Reconciler.create, Reconciler.record, buildPlan, mainPositions, DeviceTimes.corrected,
      TimestampList.frameNumber, Duration.wholeMicros, planDevice, matchTimes, matchFrom, nearest,
      gap, DevicePlan.matched, Peer.times, DeviceConfig.default, DeviceConfig.syncDelayNs,
      Except.toOption]
  exact ⟨h, reconcile_runs_degrade _ runs 1 failed after h⟩

end DepthRig.Sync
