import TokyoTester.Runs.Recovery

set_option autoImplicit false

/-! # The totals of a recovered run

The summary of a run counts its scenarios and their tests. A run that was interrupted between two
scenarios has the totals it would have had, except where the restored scenarios had tests that
were retried, or an environment that could not be removed. -/

namespace TokyoTester

open Program Handler

/-! ## Totals -/

/-- What the summary of a run counts. -/
structure RunTotals where
  success : Bool
  status : ExecutionStatus
  totalScenarios : Nat
  passedScenarios : Nat
  failedScenarios : Nat
  totalTests : Int64
  passedTests : Int64
  failedTests : Int64
  retriedTests : Int64
deriving DecidableEq

namespace Execution

/-- The sum of a count over the scenarios. -/
def sumTests (f : Dto.TestSummary → Int64) (results : List ScenarioResponse) : Int64 :=
  (results.map fun r : ScenarioResponse => f r.summary).foldl (· + ·) 0

def runTotals (results : List ScenarioResponse) : RunTotals where
  success := results.all (·.success)
  status := runStatus results
  totalScenarios := results.length
  passedScenarios := results.countP (·.success)
  failedScenarios := results.countP fun r => !r.success
  totalTests := sumTests (·.total) results
  passedTests := sumTests (·.passed) results
  failedTests := sumTests (·.failed) results
  retriedTests := sumTests (·.retried) results

end Execution

/-- The members of a run's summary that are its totals. -/
def RunTotals.members (t : RunTotals) : List (String × Json) :=
  [("success", .bool t.success), ("status", .str t.status.text),
    ("totalScenarios", .int t.totalScenarios), ("passedScenarios", .int t.passedScenarios),
    ("failedScenarios", .int t.failedScenarios), ("totalTests", .int t.totalTests.toInt),
    ("passedTests", .int t.passedTests.toInt), ("failedTests", .int t.failedTests.toInt),
    ("retriedTests", .int t.retriedTests.toInt)]

/-- The summary of a run tells its totals. -/
theorem resultPayload_eq (scenarios : List RunScenario) (results : List ScenarioResponse) :
    Execution.resultPayload scenarios results = jsonMap ((Execution.runTotals results).members ++
      [("scenarioResults", scenarioSnapshots scenarios results),
        ("diagnostics", (Codec.slice Diagnostic.codec).encode (workflowDiagnostics results))]) :=
  rfl

/-! ## Scenarios -/

/-- The names of a scenario's tests, in the order in which they run. -/
def Bundle.testNames (b : Bundle) (scenario : BundleScenario) : List String :=
  (translateScenarioTests scenario
    (expandScenarioServiceSubset b.serviceGraph scenario.tests)).map (·.name)

/-- The tests with more than one attempt. -/
def retriedTests (R : ScenarioResponse) : Nat :=
  (responseResults R).countP fun r => r.attempts.length > 1

/-- Tests ran, and all of them passed. -/
def testsPassed (R : ScenarioResponse) : Bool :=
  R.results.isSome && countInt (fun r => !r.passed) (responseResults R) = 0

/-- How a test went. -/
def testOutcome (r : Dto.TestResult) : String × Bool × Nat := (r.name, r.passed, r.attempts.length)

/-- A scenario that had ended, or was interrupted after its last test. -/
def Database.Finished (db : Database) (id : String) (tests : Nat) : Prop :=
  (db.HasRow id fun s => s.progress.terminal = true) ∨
    db.HasRow id fun s => s.progress.interrupted tests = true

section Scenario

variable {names : List String} {rows rows' : List TestResult} {R R' : ScenarioResponse}

theorem Reported.summary_eq (h : Reported names R rows) :
    R.summary = { summarizeTestResults (responseResults R) names.length with
      retried := Int64.ofNat (retriedTests R) } := h.summary

theorem Reported.success_eq (h : Reported names R rows) :
    R.success = (!R.cleanupFailed && testsPassed R) := by
  have hfailed : R.summary.failed = countInt (fun r => !r.passed) (responseResults R) := by
    rw [h.summary]
    rfl
  rw [h.success, hfailed, testsPassed, Bool.and_assoc]

/-- The same outcomes are reported alike. -/
theorem Reported.congr (h : Reported names R rows) (h' : Reported names R' rows')
    (houtcomes : R'.results.map (·.map testOutcome) = R.results.map (·.map testOutcome))
    (hcleanup : R'.cleanupFailed = R.cleanupFailed) :
    R'.summary = R.summary ∧ R'.success = R.success := by
  have hlists : (responseResults R').map testOutcome = (responseResults R).map testOutcome := by
    have := congrArg (Option.getD · []) houtcomes
    unfold responseResults
    cases hR : R.results <;> cases hR' : R'.results <;> simp_all
  have hcount (p : Dto.TestResult → Bool) (k : String × Bool × Nat → Bool)
      (hp : p = k ∘ testOutcome) :
      (responseResults R').countP p = (responseResults R).countP p := by
    rw [hp, ← List.countP_map, ← List.countP_map, hlists]
  have hpassed := hcount (·.passed) (fun o => o.2.1) rfl
  have hfailed := hcount (fun r => !r.passed) (fun o => !o.2.1) rfl
  have hretried := hcount (fun r => r.attempts.length > 1) (fun o => o.2.2 > 1) rfl
  have hsome : R'.results.isSome = R.results.isSome := by
    simpa using congrArg Option.isSome houtcomes
  refine ⟨?_, ?_⟩
  · rw [h.summary, h'.summary]
    unfold summarizeTestResults countInt
    rw [hpassed, hfailed, hretried]
  · rw [h.success_eq, h'.success_eq, hcleanup, testsPassed, testsPassed, hsome, countInt, countInt,
      hfailed]

/-- What is restored of a scenario, against what it had reported. -/
theorem Reported.restored (h : Reported names R rows) (h' : Restored names rows R') :
    R.summary = { R'.summary with retried := Int64.ofNat (retriedTests R) } ∧
      R'.summary.retried = 0 ∧ R'.success = testsPassed R := by
  refine ⟨?_, ?_, ?_⟩
  · have hpassed := h.passed
    have hfailed := h.failed
    rw [h.summary_eq] at hpassed hfailed ⊢
    rw [h'.summary, ← hpassed, ← hfailed]
    rfl
  · rw [h'.summary]
  · have hfailed := h.failed
    rw [h.summary_eq] at hfailed
    rw [h'.success, storedSuccess, ← hfailed, ← h.ran]
    rfl

end Scenario

/-! ## Valid scenarios -/

/-- A scenario of a bundle that was validated. -/
structure RunScenario.Valid (bundle : Bundle) (scenario : RunScenario) : Prop where
  id : scenario.scenarioRunId ≠ ""
  tests : scenario.tests ≠ []
  scenario : validateScenario bundle.serviceGraph (Request.bundleScenario scenario) 0 = .ok ()

section Valid

variable {bundle : Bundle} {scenario : RunScenario}

theorem translateScenarioTests_names {services : List String} {b : BundleScenario}
    (h : ScenarioValid services b) (required : List String) :
    ((translateScenarioTests b required).map (·.name)).Perm (b.tests.map (·.name)) := by
  have hidentity := congrArg (List.map TestIdentity.name)
    (translateTests_identity required none (orderedTests b))
  rw [List.map_map, List.map_map] at hidentity
  have hnames : (translateScenarioTests b required).map (·.name)
      = (orderedTests b).map (·.name) := hidentity
  rw [hnames]
  exact (orderedTests_spec h).1.map _

theorem RunScenario.Valid.perm (h : scenario.Valid bundle) :
    (scenario.tests.map (·.name)).Perm
      (bundle.testNames (Request.bundleScenario scenario)) :=
  (translateScenarioTests_names (validateScenario_ok h.scenario) _).symm

theorem RunScenario.Valid.translated (h : scenario.Valid bundle) :
    ∃ translated, bundle.translateScenario (Request.bundleScenario scenario) = .ok translated ∧
      translated.tests ≠ [] ∧
      translated.tests.map (·.name) = bundle.testNames (Request.bundleScenario scenario) := by
  refine ⟨_, translateScenario_eq h.scenario, fun hnil => h.tests ?_, rfl⟩
  have hlength := h.perm.length_eq
  rw [Bundle.testNames, List.length_map, List.length_map] at hlength
  exact List.length_eq_zero_iff.1 (hlength.trans (List.length_eq_zero_iff.2 hnil))

theorem validateRunScenarios_ok {seen : List String} {scenarios : List RunScenario}
    (h : Request.validateRunScenarios seen scenarios = .ok ()) :
    ∀ s ∈ scenarios, s.scenarioRunId ≠ "" := by
  induction scenarios generalizing seen with
  | nil => simp
  | cons s rest ih =>
      unfold Request.validateRunScenarios at h
      rw [ensure_bind_eq_ok, ensure_bind_eq_ok] at h
      obtain ⟨hs, -, hrest⟩ := h
      intro s' hs'
      rcases List.mem_cons.1 hs' with rfl | hs'
      · simp only [Bool.and_eq_true, decide_eq_true_eq] at hs
        exact hs.1.2
      · exact ih hrest s' hs'

theorem normalize_scenarios {b b' : Bundle} (h : b.normalize = .ok b') :
    b'.scenarios = b.scenarios := by
  unfold Bundle.normalize at h
  rw [ensure_bind_eq_ok] at h
  replace h := h.2
  dsimp only at h
  split at h
  all_goals
    obtain ⟨edges, -, h⟩ := Transaction.bind_eq_ok.1 h
    obtain rfl := Except.ok.inj h
    rfl

theorem validateScenario_tests {graph : WorkflowServiceGraph} {b : BundleScenario} {index : Nat}
    (h : validateScenario graph b index = .ok ()) : b.tests ≠ [] := by
  unfold validateScenario at h
  simp only [ensure_bind_eq_ok] at h
  simpa using h.2.1

/-- A request that was submitted has the scenarios of the one that came in. -/
theorem validate_scenarios {r request : Request} (h : r.validate = .ok request) :
    request.scenarios = r.scenarios ∧
      Request.validateRunScenarios [] request.scenarios = .ok () := by
  unfold Request.validate at h
  simp only [ensure_bind_eq_ok] at h
  obtain ⟨-, -, h⟩ := h
  obtain ⟨u, hscenarios, h⟩ := Transaction.bind_eq_ok.1 h
  obtain ⟨b, -, h⟩ := Transaction.bind_eq_ok.1 h
  obtain rfl := Except.ok.inj h
  exact ⟨rfl, hscenarios⟩

/-- The scenarios of a request that was submitted are valid in the bundle that is run. -/
theorem valid_of_request {r request : Request} {bundle : Bundle} (h : r.validate = .ok request)
    (hbundle : request.bundle = .ok bundle) :
    ∀ scenario ∈ request.scenarios, scenario.Valid bundle := by
  intro scenario hscenario
  have hids := validateRunScenarios_ok (validate_scenarios h).2
  obtain ⟨-, hvalid⟩ := Bundle.validate_ok hbundle
  obtain ⟨b, hb, hcheck⟩ := Transaction.bind_eq_ok.1 hbundle
  obtain ⟨u, -, hcheck⟩ := Transaction.bind_eq_ok.1 hcheck
  obtain rfl := Except.ok.inj hcheck
  have hmem : Request.bundleScenario scenario ∈ b.scenarios := by
    rw [normalize_scenarios hb]
    exact List.mem_map_of_mem hscenario
  exact ⟨hids scenario hscenario, validateScenario_tests (hvalid _ hmem), hvalid _ hmem⟩

end Valid

/-! ## Runs with a crash -/

section Crash

variable {h h' : Handler} {request : Request} {bundle : Bundle} {scenario : RunScenario}
  {db db₁ db₂ mid : Database} {before after events : List (Event Reply)}
  {p : Task ScenarioResponse} {R R' : ScenarioResponse}

/-- The runs of a scenario's goroutine, while it persists. -/
abbrev scenarioRuns (bundle : Bundle) (scenario : RunScenario) :
    Setting Op Reply Database Answer :=
  persisting scenario.scenarioRunId (bundle.testNames (Request.bundleScenario scenario))

/-- The goroutine of a scenario. -/
abbrev scenarioTask (h : Handler) (request : Request) (bundle : Bundle) (scenario : RunScenario) :
    Task ScenarioResponse :=
  Execution.executeScenario h request bundle scenario (Request.bundleScenario scenario)

/-- The scenario was submitted and has not run. -/
def Database.Awaits (db : Database) (bundle : Bundle) (scenario : RunScenario) : Prop :=
  db.At scenario.scenarioRunId (bundle.testNames (Request.bundleScenario scenario)) .submitted

theorem safe_scenarioTask (hvalid : scenario.Valid bundle) (hdb : db.Awaits bundle scenario) :
    (scenarioRuns bundle scenario).Safe
      (fun R db' => db'.At scenario.scenarioRunId
        (bundle.testNames (Request.bundleScenario scenario))
        (.closed (bundle.testNames (Request.bundleScenario scenario)) R))
      (scenarioTask h request bundle scenario) db := by
  obtain ⟨translated, htranslated, htests, hnames⟩ := hvalid.translated
  unfold Database.Awaits at hdb
  unfold scenarioRuns
  rw [← hnames] at hdb ⊢
  exact leads_executeScenario hvalid.id htranslated htests db hdb

/-- A run of a scenario from a state on, and what holds in the end. -/
theorem along_persisting {id : String} {names : List String} {α : Type} {p q : Task α}
    {post : α → Database → Prop} (hp : (persisting id names).Safe post p db)
    (hrun : (persisting id names).Run db p events db₁ q) :
    Proceeds id names db db₁ ∧ (persisting id names).Safe post q db₁ :=
  hp.along (G := Proceeds id names) (Proceeds.refl id names) Proceeds.trans SameRows.proceeds
    (fun hguar => hguar) hrun

/-- **A run that is not interrupted** reports what it has stored. -/
theorem exists_reported (hvalid : scenario.Valid bundle) (hdb : db.Awaits bundle scenario)
    (hrun : (scenarioRuns bundle scenario).Run db (scenarioTask h request bundle scenario) events
      db₁ (.done R)) :
    ∃ rows, Reported (bundle.testNames (Request.bundleScenario scenario)) R rows := by
  obtain ⟨-, hend⟩ := along_persisting (safe_scenarioTask hvalid hdb) hrun
  obtain ⟨q, rows, hs⟩ := (hend db₁ (SameRows.refl _ db₁)).exists
  exact ⟨rows, hs.claim.1⟩

theorem Progress.late_of_terminal {q : Progress} (h : q.terminal = true) : q.phase.late = true := by
  rcases Bool.or_eq_true_iff.1 h with h | h
  · rw [of_decide_eq_true (Bool.and_eq_true_iff.1 h).2]
    rfl
  · rw [of_decide_eq_true (Bool.and_eq_true_iff.1 h).2]
    rfl

theorem Progress.late_of_interrupted {q : Progress} {tests : Nat}
    (h : q.interrupted tests = true) : q.phase.late = true := by
  rcases Bool.or_eq_true_iff.1 (Bool.and_eq_true_iff.1 h).1 with h | h
  · rw [of_decide_eq_true h]
    rfl
  · rw [of_decide_eq_true h]
    rfl

/-- The rows of a scenario that has come to its end tell how. -/
theorem Database.Finished.at {id : String} {names : List String}
    (hfinished : mid.Finished id names.length) (hsound : mid.Sound id names) :
    ∃ S : Stage, (S = .ended (mid.resultsOf id) ∨ S = .interrupted names (mid.resultsOf id)) ∧
      mid.At id names S := by
  rcases hfinished with hended | hinterrupted
  · refine ⟨_, .inl rfl, hsound.1, fun s hs hid => ?_⟩
    obtain ⟨hdeleted, hconsistent⟩ := hsound.2 s hs hid
    exact ⟨hdeleted, Progress.late_of_terminal (hended.2 s hs hid), hconsistent, rfl,
      hended.2 s hs hid⟩
  · refine ⟨_, .inr rfl, hsound.1, fun s hs hid => ?_⟩
    obtain ⟨hdeleted, hconsistent⟩ := hsound.2 s hs hid
    exact ⟨hdeleted, Progress.late_of_interrupted (hinterrupted.2 s hs hid), hconsistent, rfl,
      hinterrupted.2 s hs hid⟩

/-- **A crash after the end of a scenario**: what is restored of it agrees with what it would have
    reported, but for the retries, and for an environment that could not be removed. -/
theorem restored_after_crash (hvalid : scenario.Valid bundle) (hdb : db.Awaits bundle scenario)
    (hbefore : (scenarioRuns bundle scenario).Run db (scenarioTask h request bundle scenario)
      before mid p)
    (hafter : (scenarioRuns bundle scenario).Run mid p after db₁ (.done R))
    (hfinished : mid.Finished scenario.scenarioRunId scenario.tests.length)
    (hrecovery : (scenarioRuns bundle scenario).Run mid (scenarioTask h' request bundle scenario)
      events db₂ (.done R'))
    (hremoved : R'.cleanupFailed = false) :
    R.summary = { R'.summary with retried := Int64.ofNat (retriedTests R) } ∧
      R'.summary.retried = 0 ∧ R'.success = testsPassed R ∧
      R.success = (!R.cleanupFailed && R'.success) := by
  obtain ⟨hproceeds, hsafe⟩ := along_persisting (safe_scenarioTask hvalid hdb) hbefore
  obtain ⟨hlater, hend⟩ := along_persisting hsafe hafter
  have hlength : scenario.tests.length
      = (bundle.testNames (Request.bundleScenario scenario)).length := by
    rw [← hvalid.perm.length_eq, List.length_map]
  rw [hlength] at hfinished
  obtain ⟨S, hS, hmid⟩ := hfinished.at (hproceeds.sound hdb.sound)
  -- the results are those of the crash
  have hrows : db₁.resultsOf scenario.scenarioRunId = mid.resultsOf scenario.scenarioRunId := by
    have hlate : S.late = true := by rcases hS with rfl | rfl <;> rfl
    exact (hlater.late (Database.HasRow.mono hmid fun s hs => hs.2.late.trans hlate)).2
  obtain ⟨⟨s, hs, hid⟩, hall⟩ := hend db₁ (SameRows.refl _ db₁)
  have hreported : Reported _ R _ := (hall s hs hid).2.claim.1
  rw [hrows] at hreported
  obtain ⟨translated, htranslated, htests, hnames⟩ := hvalid.translated
  have hperm := hvalid.perm
  unfold scenarioRuns at hrecovery
  rw [← hnames] at hperm hmid hS hrecovery hreported
  have hleads : (persisting scenario.scenarioRunId (translated.tests.map (·.name))).Safe _
      (scenarioTask h' request bundle scenario) mid :=
    leads_executeScenario_finished hvalid.id htranslated hperm hS mid hmid
  obtain ⟨-, hrecovered⟩ := along_persisting hleads hrecovery
  obtain ⟨hR', -⟩ := (hrecovered db₂ (SameRows.refl _ db₂)).of_given
  rcases hR' with hcleanup | hrestored
  · exact absurd (hcleanup.symm.trans hremoved) (by decide)
  obtain ⟨hsummary, hretried, hsuccess⟩ := hreported.restored hrestored
  exact ⟨hsummary, hretried, hsuccess, by rw [hreported.success_eq, hsuccess]⟩

/-- What a scenario of a run has reported without a crash between two scenarios, and with it. It had
    come to its end, and is restored, or it had not run. -/
inductive Continues (h h' : Handler) (request : Request) (bundle : Bundle) (mid : Database)
    (scenario : RunScenario) : Bool → ScenarioResponse → ScenarioResponse → Prop where
  | restored {db db₁ db₂ : Database} {before after events : List (Event Reply)}
      {p : Task ScenarioResponse} {R R' : ScenarioResponse}
      (start : db.Awaits bundle scenario)
      (run : (scenarioRuns bundle scenario).Run db (scenarioTask h request bundle scenario)
        before mid p)
      (rest : (scenarioRuns bundle scenario).Run mid p after db₁ (.done R))
      (finished : mid.Finished scenario.scenarioRunId scenario.tests.length)
      (recovery : (scenarioRuns bundle scenario).Run mid
        (scenarioTask h' request bundle scenario) events db₂ (.done R'))
      (removed : R'.cleanupFailed = false) :
      Continues h h' request bundle mid scenario true R R'
  | remaining {db₁ db₂ : Database} {before events : List (Event Reply)} {R R' : ScenarioResponse}
      (start : mid.Awaits bundle scenario)
      (run : (scenarioRuns bundle scenario).Run mid (scenarioTask h request bundle scenario)
        before db₁ (.done R))
      (recovery : (scenarioRuns bundle scenario).Run mid
        (scenarioTask h' request bundle scenario) events db₂ (.done R'))
      (outcomes : R'.results.map (·.map testOutcome) = R.results.map (·.map testOutcome))
      (cleanup : R'.cleanupFailed = R.cleanupFailed) :
      Continues h h' request bundle mid scenario false R R'

/-- The responses of a scenario agree but for its retries and its cleanup. -/
theorem Continues.spec {restored : Bool} (hvalid : scenario.Valid bundle)
    (hc : Continues h h' request bundle mid scenario restored R R') :
    R'.summary = (if restored then { R.summary with retried := 0 } else R.summary) ∧
      R.summary.retried = Int64.ofNat (retriedTests R) ∧
      R'.success = (if restored then testsPassed R else R.success) ∧
      R'.cleanupFailed = (!restored && R.cleanupFailed) ∧
      R.success = (!R.cleanupFailed && testsPassed R) := by
  cases hc with
  | restored start run rest finished recovery removed =>
      obtain ⟨hsummary, hretried, hpassed, hsuccess⟩ :=
        restored_after_crash hvalid start run rest finished recovery removed
      refine ⟨?_, ?_, hpassed, removed, hpassed ▸ hsuccess⟩
      · rw [if_pos rfl, hsummary, ← hretried]
      · rw [hsummary]
  | remaining start run recovery outcomes cleanup =>
      obtain ⟨rows, hR⟩ := exists_reported hvalid start run
      obtain ⟨rows', hR'⟩ := exists_reported hvalid start recovery
      obtain ⟨hsummary, hsuccess⟩ := hR.congr hR' outcomes cleanup
      refine ⟨hsummary, ?_, hsuccess, cleanup, hR.success_eq⟩
      rw [hR.summary_eq]

end Crash

/-- A scenario of a run that was interrupted at a state of the database. -/
structure RecoveredScenario (h h' : Handler) (request : Request) (bundle : Bundle)
    (mid : Database) where
  scenario : RunScenario
  restored : Bool
  /-- What it reports without the crash. -/
  response : ScenarioResponse
  /-- What it reports after the crash. -/
  recovered : ScenarioResponse
  continues : Continues h h' request bundle mid scenario restored response recovered

/-! ## The totals of the scenarios -/

section Totals

open Execution

variable {h h' : Handler} {request : Request} {bundle : Bundle} {mid : Database}
  {runs : List (RecoveredScenario h h' request bundle mid)}

/-- The tests of the restored scenarios that were retried. -/
def restoredRetries (runs : List (RecoveredScenario h h' request bundle mid)) : Nat :=
  (runs.map fun s => if s.restored then retriedTests s.response else 0).sum

theorem sumTests_cons (f : Dto.TestSummary → Int64) (R : ScenarioResponse)
    (results : List ScenarioResponse) :
    sumTests f (R :: results) = f R.summary + sumTests f results := by
  unfold sumTests
  rw [List.map_cons, List.foldl_cons, Int64.add_comm, List.foldl_assoc]

theorem sumTests_congr {f : Dto.TestSummary → Int64}
    (hf : ∀ s ∈ runs, f s.recovered.summary = f s.response.summary) :
    sumTests f (runs.map (·.recovered)) = sumTests f (runs.map (·.response)) := by
  unfold sumTests
  rw [List.map_map, List.map_map]
  exact congrArg (List.foldl (· + ·) 0) (List.map_congr_left hf)

/-- The retries of the restored scenarios are missing. -/
theorem sumTests_retried (hvalid : ∀ s ∈ runs, s.scenario.Valid bundle) :
    sumTests (·.retried) (runs.map (·.response)) = Int64.ofNat (restoredRetries runs) +
      sumTests (·.retried) (runs.map (·.recovered)) := by
  induction runs with
  | nil => rfl
  | cons s runs ih =>
      obtain ⟨hsummary, hretried, -⟩ := s.continues.spec (hvalid s List.mem_cons_self)
      have ih := ih fun s' hs' => hvalid s' (List.mem_cons_of_mem s hs')
      have hcons : restoredRetries (s :: runs)
          = (if s.restored then retriedTests s.response else 0) + restoredRetries runs := rfl
      rw [List.map_cons, List.map_cons, sumTests_cons, sumTests_cons, ih, hcons, Int64.ofNat_add,
        hsummary]
      cases s.restored with
      | true =>
          rw [if_pos rfl, if_pos rfl, hretried, Int64.zero_add, Int64.add_assoc]
      | false =>
          rw [if_neg Bool.false_ne_true, if_neg Bool.false_ne_true, ← Int64.add_assoc,
            ← Int64.add_assoc, Int64.add_comm _ s.response.summary.retried]
          rw [show Int64.ofNat 0 = 0 from rfl, Int64.zero_add]

theorem Int64.ofNat_eq_zero_iff {n : Nat} : Int64.ofNat n = 0 ↔ 2 ^ 64 ∣ n := by
  rw [← Int64.toBitVec_inj, ← BitVec.toNat_inj, Nat.dvd_iff_mod_eq_zero]
  simp

/-- Two counts, one of which counts no less. -/
theorem countP_eq_iff {α : Type} {p q : α → Bool} {xs : List α} (h : ∀ x ∈ xs, p x → q x) :
    xs.countP p = xs.countP q ↔ ∀ x ∈ xs, q x → p x := by
  induction xs with
  | nil => simp
  | cons x xs ih =>
      have hxs : ∀ y ∈ xs, p y → q y := fun y hy => h y (List.mem_cons_of_mem x hy)
      have hle := List.countP_mono_left hxs
      have hx := h x List.mem_cons_self
      rw [List.countP_cons, List.countP_cons, List.forall_mem_cons, ← ih hxs]
      cases hp : p x <;> cases hq : q x <;> simp_all
      omega

/-- Why the totals of a recovered run are those of a run without the crash. -/
structure Unchanged (runs : List (RecoveredScenario h h' request bundle mid)) : Prop where
  retries : 2 ^ 64 ∣ restoredRetries runs
  success : ∀ s ∈ runs, s.restored → testsPassed s.response → s.response.cleanupFailed = false
  status : (∃ s ∈ runs, s.restored ∧ s.response.cleanupFailed) →
    ∃ s ∈ runs, s.restored = false ∧ s.response.cleanupFailed

section Valid

variable (hvalid : ∀ s ∈ runs, s.scenario.Valid bundle)

include hvalid

theorem retriedTests_eq_iff :
    sumTests (·.retried) (runs.map (·.recovered)) = sumTests (·.retried) (runs.map (·.response)) ↔
      2 ^ 64 ∣ restoredRetries runs := by
  rw [sumTests_retried hvalid, eq_comm, Int64.add_eq_right, Int64.ofNat_eq_zero_iff]

/-- A scenario that would have succeeded succeeds. -/
theorem recovered_success {s : RecoveredScenario h h' request bundle mid} (hs : s ∈ runs) :
    (s.response.success → s.recovered.success) ∧
      ((s.recovered.success → s.response.success) ↔
        (s.restored → testsPassed s.response → s.response.cleanupFailed = false)) := by
  obtain ⟨-, -, hrecovered, -, hresponse⟩ := s.continues.spec (hvalid s hs)
  rw [hrecovered, hresponse]
  cases s.restored <;> cases s.response.cleanupFailed <;> cases testsPassed s.response <;> simp

theorem passedScenarios_eq_iff :
    (runs.map (·.recovered)).countP (·.success) = (runs.map (·.response)).countP (·.success) ↔
      ∀ s ∈ runs, s.restored → testsPassed s.response → s.response.cleanupFailed = false := by
  have hle : ∀ s ∈ runs, s.response.success → s.recovered.success := fun s hs =>
    (recovered_success hvalid hs).1
  rw [List.countP_map, List.countP_map, eq_comm]
  exact (countP_eq_iff hle).trans (forall₂_congr fun s hs => (recovered_success hvalid hs).2)

theorem any_cleanupFailed_iff :
    (runs.map (·.recovered)).any (·.cleanupFailed) = (runs.map (·.response)).any (·.cleanupFailed) ↔
      ((∃ s ∈ runs, s.restored ∧ s.response.cleanupFailed) →
        ∃ s ∈ runs, s.restored = false ∧ s.response.cleanupFailed) := by
  have hany : (runs.map (·.recovered)).any (·.cleanupFailed)
      ↔ ∃ s ∈ runs, s.restored = false ∧ s.response.cleanupFailed := by
    rw [List.any_map, List.any_eq_true]
    refine exists_congr fun s => and_congr_right fun hs => ?_
    obtain ⟨-, -, -, hcleanup, -⟩ := s.continues.spec (hvalid s hs)
    rw [Function.comp_apply, hcleanup, Bool.and_eq_true, Bool.not_eq_true']
  rw [Bool.eq_iff_iff, hany, List.any_map, List.any_eq_true]
  refine ⟨fun hiff => ?_, fun himp => ⟨?_, ?_⟩⟩
  · rintro ⟨s, hs, -, hcleanup⟩
    exact hiff.2 ⟨s, hs, hcleanup⟩
  · rintro ⟨s, hs, -, hcleanup⟩
    exact ⟨s, hs, hcleanup⟩
  · rintro ⟨s, hs, hcleanup⟩
    cases hrestored : s.restored with
    | true => exact himp ⟨s, hs, hrestored, hcleanup⟩
    | false => exact ⟨s, hs, hrestored, hcleanup⟩

end Valid

/-- What of the totals depends on which scenarios succeeded. -/
theorem success_congr {results results' : List ScenarioResponse}
    (hsuccess : results.map (·.success) = results'.map (·.success)) :
    results.all (·.success) = results'.all (·.success) ∧
      results.any (·.success) = results'.any (·.success) ∧ results.length = results'.length ∧
      ∀ p : Bool → Bool, results.countP (fun R => p R.success)
        = results'.countP fun R => p R.success := by
  have hmap {β : Type} (f : List Bool → β) := congrArg f hsuccess
  refine ⟨?_, ?_, ?_, fun p => ?_⟩
  · simpa [List.all_map, Function.comp_def] using hmap fun xs => xs.all id
  · simpa [List.any_map, Function.comp_def] using hmap fun xs => xs.any id
  · simpa using hmap List.length
  · simpa [List.countP_map, Function.comp_def] using hmap (List.countP p)

theorem cleanupFailed_eq_of_runStatus {results results' : List ScenarioResponse}
    (h : runStatus results = runStatus results') :
    results.any (·.cleanupFailed) = results'.any (·.cleanupFailed) := by
  have hstatus (results : List ScenarioResponse) :
      results.any (·.cleanupFailed) = decide (runStatus results = .cleanupFailed) := by
    unfold runStatus
    split_ifs with hcleanup <;> simp_all
  rw [hstatus, hstatus, h]

/-- **Recovery does not change the totals** if and only if none of the restored tests had been
    retried, and the cleanup of no restored scenario had failed in a way that shows. -/
theorem recovered_totals_iff {r : Request} (hrequest : r.validate = .ok request)
    (hbundle : request.bundle = .ok bundle)
    (hruns : runs.map (·.scenario) = request.scenarios) :
    runTotals (runs.map (·.recovered)) = runTotals (runs.map (·.response)) ↔ Unchanged runs := by
  have hvalid : ∀ s ∈ runs, s.scenario.Valid bundle := fun s hs =>
    valid_of_request hrequest hbundle s.scenario (hruns ▸ List.mem_map_of_mem hs)
  constructor
  · intro heq
    refine ⟨(retriedTests_eq_iff hvalid).1 (congrArg RunTotals.retriedTests heq),
      (passedScenarios_eq_iff hvalid).1 (congrArg RunTotals.passedScenarios heq),
      (any_cleanupFailed_iff hvalid).1 ?_⟩
    exact cleanupFailed_eq_of_runStatus (congrArg RunTotals.status heq)
  · rintro ⟨hretries, hsuccess, hstatus⟩
    -- the summary of a recovered response lacks the retries and nothing else
    have hsummary (f : Dto.TestSummary → Int64) (hf : ∀ summary : Dto.TestSummary,
        f { summary with retried := 0 } = f summary) :
        sumTests f (runs.map (·.recovered)) = sumTests f (runs.map (·.response)) := by
      refine sumTests_congr fun s hs => ?_
      rw [(s.continues.spec (hvalid s hs)).1]
      split_ifs
      · exact hf _
      · rfl
    have hsame : (runs.map (·.recovered)).map (·.success)
        = (runs.map (·.response)).map (·.success) := by
      rw [List.map_map, List.map_map]
      refine List.map_congr_left fun s hs => ?_
      obtain ⟨hforth, hback⟩ := recovered_success hvalid hs
      exact Bool.eq_iff_iff.2 ⟨hback.2 (hsuccess s hs), hforth⟩
    obtain ⟨hall, hany, hlength, hcount⟩ := success_congr hsame
    have hrunStatus : runStatus (runs.map (·.recovered)) = runStatus (runs.map (·.response)) := by
      unfold runStatus
      rw [(any_cleanupFailed_iff hvalid).2 hstatus, hall, hany]
    unfold runTotals
    congr 1
    · exact hcount id
    · exact hcount fun success => !success
    · exact hsummary _ fun _ => rfl
    · exact hsummary _ fun _ => rfl
    · exact hsummary _ fun _ => rfl
    · exact (retriedTests_eq_iff hvalid).2 hretries

end Totals

/-! ## A test that is retried -/

def retriedScenario : RunScenario where
  id := "scenario"
  scenarioRunId := "run-scenario"
  name := "orders"
  tests := [{ id := "t1", name := "create", type := "delay", targetServices := ["api"]
              delayConfig := some { durationMs := 5 } }]
  testOrder := ["t1"]

def retriedRequest : Request where
  workflowRunId := "run"
  projectId := "project"
  workflowId := "workflow"
  workflowName := "shop"
  nodes := [{ id := "n1", data := { label := "api", service := { type := "redis" } } }]
  scenarios := [retriedScenario]

/-- What a scenario needs of the rows of its submission. Without the row of the run no log grows. -/
def submittedDb : Database where
  workflows := [{ (default : Workflow) with id := "workflow" }]
  sessions := [{ (default : Session) with
    id := "run-scenario", workflowId := "workflow", workflowRunId := "run"
    scenarioId := "scenario", phase := .created, isDeleted := false, checkpointIndex := 0 }]

/-- The scenario alone, with a test that passes at its last attempt. -/
def retriedRun (attempts : Nat) (request : Request) (bundle : Bundle) (db : Database) :
    Option (ScenarioResponse × Database) :=
  (scenarioTask {} request bundle retriedScenario).runChecked handleLive
    (fun op a db => op.persists "run-scenario" a db)
    ((List.range 80).map fun _ =>
      { id := "session", now := 10
        test := .executed none (List.replicate attempts default) 5 false none }) db

/-- The row of the scenario says that it has ended. -/
def endedRow (db : Database) : Bool :=
  db.sessions.map (fun s => (s.id, s.progress.terminal)) = [("run-scenario", true)]

/-- The scenario runs to its end, the runner crashes, and the scenario is restored. -/
def crashedRun (attempts : Nat) (request : Request) (bundle : Bundle) :
    Option (ScenarioResponse × ScenarioResponse) :=
  (retriedRun attempts request bundle submittedDb).bind fun r =>
    (retriedRun attempts request bundle r.2).bind fun r' =>
      if endedRow r.2 && !r'.1.cleanupFailed then some (r.1, r'.1) else none

/-- What a run with a crash comes to. -/
def crashedTotals (attempts : Nat) : Option (RunTotals × RunTotals) :=
  retriedRequest.validate.toOption.bind fun request => request.bundle.toOption.bind fun bundle =>
    (crashedRun attempts request bundle).map fun r =>
      (Execution.runTotals [r.1], Execution.runTotals [r.2])

theorem awaits_submittedDb (bundle : Bundle) : submittedDb.Awaits bundle retriedScenario := by
  refine ⟨⟨_, List.mem_singleton_self _, rfl⟩, fun s hs _ => ?_⟩
  obtain rfl := List.mem_singleton.1 hs
  exact ⟨rfl, holds_submitted_iff.2 ⟨.inr rfl, rfl, rfl⟩⟩

theorem finished_of_endedRow {db : Database} (h : endedRow db = true) :
    db.Finished "run-scenario" 1 := by
  have hrows : db.sessions.map (fun s => (s.id, s.progress.terminal)) = [("run-scenario", true)] :=
    of_decide_eq_true h
  obtain ⟨row, hsessions, hrow⟩ := List.map_eq_singleton_iff.1 hrows
  obtain ⟨hid, hterminal⟩ := Prod.mk.inj hrow
  refine .inl ⟨⟨row, by rw [hsessions]; exact List.mem_singleton_self row, hid⟩, fun s hs _ => ?_⟩
  rw [hsessions, List.mem_singleton] at hs
  exact hs ▸ hterminal

theorem exists_retriedRun {attempts : Nat} {request : Request} {bundle : Bundle}
    {db db₁ : Database} {R : ScenarioResponse}
    (h : retriedRun attempts request bundle db = some (R, db₁)) :
    ∃ events, (scenarioRuns bundle retriedScenario).Run db
      (scenarioTask {} request bundle retriedScenario) events db₁ (.done R) := by
  have hcheck (op : Op) (a : Answer) (db : Database) :
      op.persists "run-scenario" a db = true →
        (scenarioRuns bundle retriedScenario).guard op a db := id
  exact ⟨_, Setting.Run.of_runChecked hcheck h⟩

theorem exists_recoveredScenario {attempts : Nat} {request : Request} {bundle : Bundle}
    {r : ScenarioResponse × ScenarioResponse} (h : crashedRun attempts request bundle = some r) :
    ∃ mid, ∃ s : RecoveredScenario {} {} request bundle mid,
      s.scenario = retriedScenario ∧ s.response = r.1 ∧ s.recovered = r.2 := by
  obtain ⟨⟨R, mid⟩, hrun, h⟩ := Option.bind_eq_some_iff.1 h
  obtain ⟨⟨R', db⟩, hrecovery, h⟩ := Option.bind_eq_some_iff.1 h
  dsimp only at h
  split_ifs at h with hend
  obtain rfl := Option.some.inj h
  obtain ⟨hended, hremoved⟩ := Bool.and_eq_true_iff.1 hend
  obtain ⟨events, hrun⟩ := exists_retriedRun hrun
  obtain ⟨events', hrecovery⟩ := exists_retriedRun hrecovery
  exact ⟨mid, ⟨retriedScenario, true, R, R', .restored (awaits_submittedDb bundle) hrun (.stop _ _)
    (finished_of_endedRow hended) hrecovery (by simpa using hremoved)⟩, rfl, rfl, rfl⟩

theorem toOption_eq_some {ε α : Type} {x : Except ε α} {a : α} (h : x.toOption = some a) :
    x = .ok a := by
  cases x with
  | error e => cases h
  | ok b => exact congrArg _ (Option.some.inj h)

theorem exists_crashedRun (attempts : Nat) {t : RunTotals × RunTotals}
    (h : crashedTotals attempts = some t) :
    ∃ request bundle mid, ∃ runs : List (RecoveredScenario {} {} request bundle mid),
      retriedRequest.validate = .ok request ∧ request.bundle = .ok bundle ∧
      runs.map (·.scenario) = request.scenarios ∧
      Execution.runTotals (runs.map (·.response)) = t.1 ∧
      Execution.runTotals (runs.map (·.recovered)) = t.2 := by
  obtain ⟨request, hrequest, h⟩ := Option.bind_eq_some_iff.1 h
  obtain ⟨bundle, hbundle, h⟩ := Option.bind_eq_some_iff.1 h
  obtain ⟨r, hr, rfl⟩ := Option.map_eq_some_iff.1 h
  obtain ⟨mid, s, hscenario, hresponse, hrecovered⟩ := exists_recoveredScenario hr
  refine ⟨request, bundle, mid, [s], toOption_eq_some hrequest, toOption_eq_some hbundle, ?_, ?_, ?_⟩
  · rw [(validate_scenarios (toOption_eq_some hrequest)).1, List.map_singleton, hscenario]
    rfl
  · rw [List.map_singleton, hresponse]
  · rw [List.map_singleton, hrecovered]

/-- A test that passes at its second attempt is not counted as retried after a crash. -/
theorem recovered_totals_retried :
    ∃ request bundle mid, ∃ runs : List (RecoveredScenario {} {} request bundle mid),
      (Execution.runTotals (runs.map (·.recovered)) = Execution.runTotals (runs.map (·.response)) ↔
        Unchanged runs) ∧
      (Execution.runTotals (runs.map (·.response))).retriedTests = 1 ∧
      (Execution.runTotals (runs.map (·.recovered))).retriedTests = 0 := by
  have htotals : (crashedTotals 2).map (fun t => (t.1.retriedTests, t.2.retriedTests))
      = some (1, 0) := by
    decide +kernel
  obtain ⟨t, ht, heq⟩ := Option.map_eq_some_iff.1 htotals
  obtain ⟨request, bundle, mid, runs, hrequest, hbundle, hruns, hresponse, hrecovered⟩ :=
    exists_crashedRun 2 ht
  obtain ⟨hone, hzero⟩ := Prod.mk.inj heq
  refine ⟨request, bundle, mid, runs, recovered_totals_iff hrequest hbundle hruns, ?_, ?_⟩
  · rw [hresponse, hone]
  · rw [hrecovered, hzero]

end TokyoTester
