import TokyoTester.Library.Serial
import TokyoTester.Runs.Dependencies

set_option autoImplicit false

/-! # Successful scenarios

A scenario succeeds when none of its results failed. When its tests have just run, every test has a
result, whatever became of the rows that were to be stored. But a scenario that was interrupted
during its cleanup, or that had ended before, gets its results from these rows alone, and a test
without a row is then simply not counted. A stored result is counted under the name in its data;
a row whose data name another test stands for its own test and is counted for none. -/

namespace TokyoTester

open Handler

/-- A successful response carries one result for every test, and each of them passed. -/
def SuccessSound {τ : Type} (resultOf : τ → Dto.TestResult → Prop) (tests : List τ)
    (response : ScenarioResponse) : Prop :=
  response.success = true → List.Forall₂ resultOf tests (responseResults response) ∧
    ∀ r ∈ responseResults response, r.passed = true

theorem passed_of_countInt {results : List Dto.TestResult} (hlength : results.length < 2 ^ 63)
    (h : countInt (fun r => !r.passed) results = 0) : ∀ r ∈ results, r.passed = true := by
  have hle : results.countP (fun r => !r.passed) ≤ results.length := List.countP_le_length
  have hzero : results.countP (fun r => !r.passed) = 0 := by
    have hint := congrArg Int64.toInt h
    unfold countInt at hint
    rw [Int64.toInt_ofNat_of_lt (by omega)] at hint
    simpa using hint
  intro r hr
  have := List.countP_eq_zero.1 hzero r hr
  simpa using this

/-! ## A scenario that runs -/

/-- When an interrupted cleanup is finished, every test of the plan has a row. -/
def CheckpointComplete (tests : List TestConfig) (events : List (Event Reply)) : Prop :=
  ∀ previous rows, Resumed previous events →
    (previous.phase = .cleaningUp ∨ previous.phase = .cleanupFailed) →
    previous.checkpointIndex ≥ tests.length → Listed rows events →
    ∀ t ∈ tests, t.name ∈ rows.map (·.testName)

/-- The stored results of the plan's tests name their tests. -/
def NamesStored (tests : List TestConfig) (events : List (Event Reply)) : Prop :=
  ∀ rows, Listed rows events → ∀ row ∈ rows, row.testName ∈ tests.map (·.name) →
    (restoreResult row).name = row.testName

/-- A result of a test, under its name: of its execution in this run, or stored in its row. -/
def ResultOf (events : List (Event Reply)) (test : TestConfig) (result : Dto.TestResult) : Prop :=
  result.name = test.name ∧ (Started test events ∨
    ∃ rows, Listed rows events ∧ ∃ row ∈ rows, row.testName = test.name ∧
      result = restoreResult row)

section Results

variable {events : List (Event Reply)} {tests : List TestConfig}

/-- A result that was loaded for a test is one of its rows. -/
theorem resultOf_loaded (hnames : NamesStored tests events)
    {byName : List (String × Dto.TestResult)} (hloaded : Loaded byName events) {t : TestConfig}
    (ht : t ∈ tests) {r : Dto.TestResult} (hr : byName.lookup t.name = some r) :
    ResultOf events t r := by
  rcases hloaded with ⟨rfl, -⟩ | ⟨rows, hrows, rfl⟩
  · cases hr
  · obtain ⟨row, hrow, heq⟩ := List.mem_map.1 (lookup_mem hr)
    obtain ⟨hname, rfl⟩ := Prod.mk.inj heq
    have hrow := List.mem_reverse.1 hrow
    have hmem : row.testName ∈ tests.map (·.name) := hname ▸ List.mem_map.2 ⟨t, ht, rfl⟩
    exact ⟨(hnames rows hrows row hrow hmem).trans hname, .inr ⟨rows, hrows, row, hrow, hname, rfl⟩⟩

/-- The results of rows that have every test. -/
theorem forall₂_of_rows {rows : List TestResult} (hrows : Listed rows events)
    (hcomplete : ∀ t ∈ tests, t.name ∈ rows.map (·.testName))
    (hnames : NamesStored tests events) :
    List.Forall₂ (ResultOf events) tests
      (orderedResults (rows.reverse.map fun row => (row.testName, restoreResult row)) tests) := by
  refine forall₂_filterMap fun t ht => ?_
  obtain ⟨r, hr⟩ := Option.isSome_iff_exists.1 (lookup_isSome
    (rows.reverse.map fun row => (row.testName, restoreResult row)) t.name
    (by simpa using hcomplete t ht))
  exact ⟨r, hr, resultOf_loaded hnames (.inr ⟨rows, hrows, rfl⟩) ht hr⟩

theorem mem_of_lookup_resultByName {results : List Dto.TestResult} {name : String}
    {r : Dto.TestResult} (h : (resultByName results).lookup name = some r) :
    r ∈ results ∧ r.name = name := by
  have hentry := lookup_mem h
  rw [resultByName, List.mem_reverse] at hentry
  obtain ⟨r', hr', heq⟩ := List.mem_map.1 hentry
  obtain ⟨hname, rfl⟩ := Prod.mk.inj heq
  exact ⟨hr', hname⟩

theorem exists_lookup_resultByName {results : List Dto.TestResult} {r : Dto.TestResult}
    (hr : r ∈ results) : ∃ r', (resultByName results).lookup r.name = some r' := by
  refine Option.isSome_iff_exists.1 (lookup_isSome _ _ ?_)
  rw [resultByName, List.map_reverse, List.mem_reverse, List.map_map]
  exact List.mem_map.2 ⟨r, hr, rfl⟩

/-- **The merged results**: when the stored results name their tests, every test of the plan has
    a result. -/
theorem Merged.forall₂ {results : List Dto.TestResult} (h : Merged events tests results)
    (hnames : NamesStored tests events) : List.Forall₂ (ResultOf events) tests results := by
  obtain ⟨byName, newResults, hloaded, hstarted, hnamed, rfl⟩ := h
  refine forall₂_filterMap fun t ht => ?_
  -- a test has a stored result or is executed
  have hsome : ∃ r ∈ orderedResults byName tests ++ newResults, r.name = t.name := by
    cases hstored : byName.lookup t.name with
    | some r =>
        exact ⟨r, List.mem_append_left _ (List.mem_filterMap.2 ⟨t, ht, hstored⟩),
          (resultOf_loaded hnames hloaded ht hstored).1⟩
    | none =>
        have hmem : t.name ∈ newResults.map (·.name) := by
          rw [show newResults.map (·.name) = _ from hnamed]
          exact List.mem_map.2 ⟨t, List.mem_filter.2 ⟨ht, by rw [hstored]; rfl⟩, rfl⟩
        obtain ⟨r, hr, hname⟩ := List.mem_map.1 hmem
        exact ⟨r, List.mem_append_right _ hr, hname⟩
  obtain ⟨r, hr, hname⟩ := hsome
  obtain ⟨r', hr'⟩ := exists_lookup_resultByName hr
  rw [hname] at hr'
  refine ⟨r', hr', ?_⟩
  obtain ⟨hmem, hname'⟩ := mem_of_lookup_resultByName hr'
  rcases List.mem_append.1 hmem with hmem | hmem
  · obtain ⟨u, hu, hstored⟩ := List.mem_filterMap.1 hmem
    obtain ⟨hsame, hfrom⟩ := resultOf_loaded hnames hloaded hu hstored
    have hut : u.name = t.name := hsame.symm.trans hname'
    rw [hut] at hstored
    exact resultOf_loaded hnames hloaded ht hstored
  · have hnew : r'.name ∈ newResults.map (·.name) := List.mem_map.2 ⟨r', hmem, rfl⟩
    rw [show newResults.map (·.name) = _ from hnamed] at hnew
    obtain ⟨u, hu, hsame⟩ := List.mem_map.1 hnew
    have hremaining : t ∈ remainingTests byName tests := by
      refine List.mem_filter.2 ⟨ht, ?_⟩
      rw [← hname', ← hsame]
      exact (List.mem_filter.1 hu).2
    exact ⟨hname', .inl (hstarted t hremaining)⟩

end Results

theorem permits_true (tests : List TestConfig) : Permits (fun _ _ => True) tests :=
  ⟨fun _ _ _ => trivial, fun _ _ _ => trivial, fun _ _ _ _ _ _ _ _ => trivial⟩

theorem Outcome.sound {tests : List TestConfig} {response : ScenarioResponse}
    {events : List (Event Reply)} (h : Outcome tests response events)
    (hlength : tests.length < 2 ^ 63) (hcomplete : CheckpointComplete tests events)
    (hnames : NamesStored tests events) : SuccessSound (ResultOf events) tests response := by
  intro hsuccess
  obtain ⟨results, hresults, hcount, hfrom⟩ := h hsuccess
  have hforall : List.Forall₂ (ResultOf events) tests results := by
    rcases hfrom with hmerged | ⟨previous, rows, hresumed, hphase, hindex, hrows, rfl⟩
    · exact Merged.forall₂ hmerged hnames
    · exact forall₂_of_rows hrows (hcomplete previous rows hresumed hphase hindex hrows) hnames
  have hsame : responseResults response = results := by
    simp [responseResults, hresults]
  rw [hsame]
  exact ⟨hforall, passed_of_countInt (hforall.length_eq ▸ hlength) hcount⟩

/-! ## A scenario that had ended -/

namespace Execution

/-- A result restored from a row of a scenario that had ended. -/
def RestoredOf (events : List (Event Reply)) (test : ScenarioTestDefinition)
    (result : Dto.TestResult) : Prop :=
  ∃ rows, Listed rows events ∧ ∃ row ∈ rows, row.testName = test.name ∧
    result = checkpointResult row

/-- Of a session that is stored as completed, every test has a row, and the last one passed. -/
def CompletedFully (tests : List ScenarioTestDefinition) (events : List (Event Reply)) : Prop :=
  ∀ persisted rows, SessionRead persisted events → persisted.status = .completed →
    Listed rows events → ∀ t ∈ tests, ∃ row ∈ rows,
      rows.reverse.find? (fun r => r.testName = t.name) = some row ∧ row.status = .passed

theorem lookup_rows (rows : List TestResult) (f : TestResult → Dto.TestResult) (name : String) :
    (rows.map fun row => (row.testName, f row)).lookup name
      = (rows.find? fun r => r.testName = name).map f := by
  induction rows with
  | nil => rfl
  | cons row rows ih =>
      rw [List.map_cons, List.lookup_cons, List.find?_cons, ih]
      by_cases hname : row.testName = name
      · simp [hname]
      · have hne : (name == row.testName) = false := beq_eq_false_iff_ne.2 (Ne.symm hname)
        simp [hname, hne]

/-- The response of a scenario that had ended is read off its row and those of its results. -/
theorem safe_completedScenario (scenario : RunScenario) (j : RunJournal) :
    ScenarioSafe (fun _ _ => True)
      (fun reply j => ∀ response, reply = some response → ∃ persisted rows,
        SessionRead persisted j.events ∧ Listed rows j.events ∧
          response = checkpointResponse scenario persisted rows)
      (completedScenario scenario) j := by
  have hpost (persisted : Session) (rows : List TestResult) : Stable fun j =>
      SessionRead persisted j.events ∧ Listed rows j.events :=
    (stable_sessionRead persisted).and (stable_listed rows)
  have hnone {j : RunJournal} : ScenarioSafe (fun _ _ => True)
      (fun reply j => ∀ response, reply = some response → ∃ persisted rows,
        SessionRead persisted j.events ∧ Listed rows j.events ∧
          response = checkpointResponse scenario persisted rows) (pure none) j :=
    ScenarioSafe.pure (fun _ _ _ _ => by simp) (by simp)
  -- the session and its results are two reads; what either returned stays returned
  have hread : ScenarioSafe (fun _ _ => True)
      (fun reply j => ∀ session, reply = .ok session → SessionRead session j.events)
      (Task.store false (.getSession scenario.scenarioRunId)) j := by
    refine ScenarioSafe.perform (fun _ => Stable.forall fun session =>
      (stable_sessionRead session).imp_const) fun j' _ a => ⟨trivial, ?_⟩
    intro session hsession
    exact .inl ⟨_, _, List.mem_append_right _ (List.mem_singleton.2 (by rw [← hsession]))⟩
  refine ScenarioSafe.bind hread fun reply j hreply => ?_
  cases reply with
  | error e => exact hnone
  | ok persisted =>
  have hpersisted := hreply persisted rfl
  dsimp only
  split_ifs
  · have hlist : ScenarioSafe (fun _ _ => True)
        (fun reply j => SessionRead persisted j.events ∧
          ∀ rows, reply = .ok rows → Listed rows j.events)
        (Task.store false (.listTestResults scenario.scenarioRunId)) j := by
      refine ScenarioSafe.perform (fun _ => (stable_sessionRead persisted).and
        (Stable.forall fun rows => (stable_listed rows).imp_const)) fun j' hlater a =>
          ⟨trivial, stable_sessionRead persisted (later_append _ _)
            (stable_sessionRead persisted hlater hpersisted), ?_⟩
      intro rows hrows
      exact ⟨_, _, List.mem_append_right _ (List.mem_singleton.2 (by rw [← hrows]))⟩
    refine ScenarioSafe.bind hlist fun reply j hreply => ?_
    cases reply with
    | error e => exact hnone
    | ok rows =>
        refine ScenarioSafe.pure ?_ ?_
        · intro j j' hlater h response hresponse
          obtain ⟨persisted, rows, hrows, heq⟩ := h response hresponse
          exact ⟨persisted, rows, hpost persisted rows hlater ⟨hrows, heq.1⟩ |>.1,
            (hpost persisted rows hlater ⟨hrows, heq.1⟩).2, heq.2⟩
        · rintro response heq
          exact ⟨persisted, rows, hreply.1, hreply.2 rows rfl, (Option.some.inj heq).symm⟩
  · exact hnone

/-- The response restored from rows that have every test. -/
theorem checkpointResponse_sound {scenario : RunScenario} {persisted : Session}
    {rows : List TestResult} {events : List (Event Reply)} (hread : SessionRead persisted events)
    (hrows : Listed rows events) (hcompleted : CompletedFully scenario.tests events) :
    SuccessSound (RestoredOf events) scenario.tests
      (checkpointResponse scenario persisted rows) := by
  intro hsuccess
  have hstatus : persisted.status = .completed := by simpa [checkpointResponse] using hsuccess
  have hfound (t : ScenarioTestDefinition) (ht : t ∈ scenario.tests) : ∃ row ∈ rows,
      (rows.reverse.map fun row => (row.testName, checkpointResult row)).lookup t.name
        = some (checkpointResult row) ∧ row.testName = t.name ∧ row.status = .passed := by
    obtain ⟨row, hrow, hfind, hpassed⟩ := hcompleted persisted rows hread hstatus hrows t ht
    refine ⟨row, hrow, by rw [lookup_rows, hfind]; rfl, ?_, hpassed⟩
    simpa using List.find?_some hfind
  have hresults : responseResults (checkpointResponse scenario persisted rows)
      = scenario.tests.filterMap fun t =>
        (rows.reverse.map fun row => (row.testName, checkpointResult row)).lookup t.name := by
    simp only [responseResults, checkpointResponse]
    split_ifs with hempty
    · exact (List.isEmpty_iff.1 hempty).symm
    · rfl
  rw [hresults]
  refine ⟨forall₂_filterMap fun t ht => ?_, ?_⟩
  · obtain ⟨row, hrow, hlookup, hname, -⟩ := hfound t ht
    exact ⟨_, hlookup, rows, hrows, row, hrow, hname, rfl⟩
  · intro r hr
    obtain ⟨t, ht, hlookup⟩ := List.mem_filterMap.1 hr
    obtain ⟨row, -, hlookup', -, hpassed⟩ := hfound t ht
    obtain rfl := Option.some.inj (hlookup.symm.trans hlookup')
    simp [checkpointResult, hpassed]

end Execution

/-- **A successful scenario has a passed result for every test** in every run in which the rows
    that stand in for an execution are complete and name their tests. -/
theorem scenario_success_sound (s s' : ThreadState) (events : List (Event Reply))
    (response : ScenarioResponse) :
    (∀ (h : Handler) (request : Request) (run : RunScenario) (b : Bundle)
      (scenario : BundleScenario) (translated : TranslationResult) (execution : ExecutionContext),
      b.translateScenario scenario = .ok translated → translated.tests.length < 2 ^ 63 →
      scenarioSetting.Run s (h.runWorkflowBundleScenarioForRun
        (Execution.scenarioReporter request run) b scenario execution) events s'
        (.done response) →
      CheckpointComplete translated.tests events → NamesStored translated.tests events →
      SuccessSound (ResultOf events) translated.tests response) ∧
    ∀ scenario : RunScenario,
      scenarioSetting.Run s (Execution.completedScenario scenario) events s'
        (.done (some response)) →
      Execution.CompletedFully scenario.tests events →
      SuccessSound (Execution.RestoredOf events) scenario.tests response := by
  constructor
  · intro h request run b scenario translated execution htranslated hlength hrun hcomplete hnames
    have hsafe := h.safe_runWorkflowBundleScenarioForRun (j := ⟨[], s⟩)
      (Execution.quiet_scenarioReporter request run) htranslated (permits_true _) execution
    exact Outcome.sound (Setting.Safe.finished hrun hsafe).1 hlength hcomplete hnames
  · intro scenario hrun hcompleted
    have hsafe := Execution.safe_completedScenario scenario ⟨[], s⟩
    obtain ⟨persisted, rows, hread, hrows, rfl⟩ :=
      (Setting.Safe.finished hrun hsafe).1 response rfl
    exact Execution.checkpointResponse_sound hread hrows hcompleted

/-! ## A run that is interrupted -/

/-- A test that passes. -/
def passedRun : TestRun := .executed none [] 5 false none

def dependentExecution : ExecutionContext where
  sessionId := "run-scenario"
  workflowId := "workflow"
  workflowRunId := "run"
  scenarioId := "scenario"
  scenarioName := "dependent"

def dependentRun : Task ScenarioResponse :=
  Handler.runWorkflowBundleScenarioForRun {} (Execution.scenarioReporter default default) shopBundle
    (dependentScenario ["t1", "t2"]) dependentExecution

/-- The database before the run. -/
def beforeRun : ThreadState where
  db :=
    { workflows := [{ (default : Workflow) with id := "workflow" }]
      workflowRuns := [{ (default : WorkflowRun) with id := "run", workflowId := "workflow" }] }

/-- Answers under which every test passes; one call is refused. -/
def passingAnswers (refused : Option Nat) (n : Nat) : List Answer :=
  (List.range n).map fun k =>
    { id := "session", test := passedRun, now := 10
      fault := if refused = some k then .refused "connection lost" else .none }

/-- The row of the second result is not stored, and the runner crashes during the cleanup. -/
def interruptedRun : Option ThreadState :=
  (Program.follow handle (passingAnswers (some 42) 54) beforeRun dependentRun).map Prod.snd

/-- No stored result is found, and no earlier attempt is cleaned up. -/
def startsAnew : Event Reply → Bool
  | ⟨.cleanResources _, _⟩ => false
  | ⟨.store _ (.listTestResults _), .ok rows⟩ => rows.isEmpty
  | _ => true

theorem scenario_success_sound_passed :
    ∃ s' response translated,
      shopBundle.translateScenario (dependentScenario ["t1", "t2"]) = .ok translated ∧
      (dependentRun.run handle (passingAnswers none 80) beforeRun) = some (response, s') ∧
      response.success = true ∧
      SuccessSound (ResultOf (dependentRun.events handle (passingAnswers none 80) beforeRun))
        translated.tests response := by
  have hvalid : validateScenario shopBundle.serviceGraph (dependentScenario ["t1", "t2"]) 0
      = .ok () := by decide +kernel
  have hruns : (dependentRun.run handle (passingAnswers none 80) beforeRun).map
      (fun r => r.1.success) = some true := by decide +kernel
  -- nothing was interrupted before, and nothing was stored
  have hfresh : (dependentRun.events handle (passingAnswers none 80) beforeRun).all startsAnew
      = true := by decide +kernel
  have hlength : (translateScenarioTests (dependentScenario ["t1", "t2"])
      (expandScenarioServiceSubset shopBundle.serviceGraph
        (dependentScenario ["t1", "t2"]).tests)).length < 2 ^ 63 := by decide +kernel
  obtain ⟨⟨response, s'⟩, hr, hsuccess⟩ := Option.map_eq_some_iff.1 hruns
  refine ⟨s', response, _, translateScenario_eq hvalid, hr, hsuccess,
    (scenario_success_sound _ _ _ _).1 {} default default shopBundle
      (dependentScenario ["t1", "t2"]) _ dependentExecution (translateScenario_eq hvalid) hlength
      (Setting.Run.of_run (S := scenarioSetting) (fun _ _ _ => trivial) hr) ?_ ?_⟩
  · rintro previous rows ⟨before, reply, after, heq, -⟩
    rw [heq, List.all_append, List.all_cons] at hfresh
    simp [startsAnew] at hfresh
  · rintro rows ⟨detached, id, hmem⟩ row hrow -
    have hempty : rows = [] := by simpa [startsAnew] using List.all_eq_true.1 hfresh _ hmem
    rw [hempty] at hrow
    cases hrow

/-- The scenario is finished with the one result that was stored, and succeeds. -/
theorem scenario_success_unsound :
    ¬∀ (h : Handler) (request : Request) (run : RunScenario) (b : Bundle)
      (scenario : BundleScenario) (translated : TranslationResult) (execution : ExecutionContext)
      (s s' : ThreadState) (events : List (Event Reply)) (response : ScenarioResponse),
      b.translateScenario scenario = .ok translated →
      scenarioSetting.Run s (h.runWorkflowBundleScenarioForRun
        (Execution.scenarioReporter request run) b scenario execution) events s'
        (.done response) →
      SuccessSound (ResultOf events) translated.tests response := by
  intro hall
  have hvalid : validateScenario shopBundle.serviceGraph (dependentScenario ["t1", "t2"]) 0
      = .ok () := by decide +kernel
  have hruns : (interruptedRun.bind fun s =>
      dependentRun.run handle (passingAnswers none 20) s).map
        (fun r => (r.1.success, (responseResults r.1).length)) = some (true, 1) := by
    decide +kernel
  have hlength : (translateScenarioTests (dependentScenario ["t1", "t2"])
      (expandScenarioServiceSubset shopBundle.serviceGraph
        (dependentScenario ["t1", "t2"]).tests)).length = 2 := by decide +kernel
  obtain ⟨⟨response, s'⟩, hr, hpair⟩ := Option.map_eq_some_iff.1 hruns
  obtain ⟨s, -, hr⟩ := Option.bind_eq_some_iff.1 hr
  obtain ⟨hsuccess, hone⟩ := Prod.mk.inj hpair
  have hsound := hall {} default default shopBundle (dependentScenario ["t1", "t2"]) _
    dependentExecution _ _ _ _ (translateScenario_eq hvalid)
    (Setting.Run.of_run (S := scenarioSetting) (fun _ _ _ => trivial) hr) hsuccess
  have htwo := hsound.1.length_eq
  rw [hone] at htwo
  exact absurd (hlength.symm.trans htwo) (by decide)

end TokyoTester
