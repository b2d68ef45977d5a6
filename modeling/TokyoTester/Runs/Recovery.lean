import TokyoTester.Runs.Persisting

set_option autoImplicit false

/-! # Recovering a run

A run that was interrupted is executed again from its start. A scenario that had ended, or whose
tests had, gets its response from what was stored of it, the others run as if nothing had happened.
What was stored says which tests passed and which failed, but nobody counts the attempts of a stored
result, and a cleanup that had failed is forgotten once it succeeds. -/

namespace TokyoTester

open Program Handler

namespace Execution

/-- The goroutine of a scenario. -/
def executeScenario (h : Handler) (request : Request) (bundle : Bundle) (scenario : RunScenario)
    (bundleScenario : BundleScenario) : Task ScenarioResponse := do
  match ← startScenario request scenario with
  | some response => pure response
  | none =>
    let response ← runScenario h request bundle scenario bundleScenario
    reportScenario request scenario response

end Execution

/-! ## Responses and rows -/

/-- The response of a scenario agrees with the rows of its results. -/
structure Reported (names : List String) (R : ScenarioResponse) (rows : List TestResult) : Prop where
  summary : R.summary = { summarizeTestResults (responseResults R) names.length with
    retried := countInt (fun r => r.attempts.length > 1) (responseResults R) }
  passed : R.summary.passed = storedPassed names rows
  failed : R.summary.failed = storedFailed names rows
  ran : R.results.isSome = !rows.isEmpty
  success : R.success = (!R.cleanupFailed && R.results.isSome && R.summary.failed = 0)

/-- The response of a scenario that has not come to its tests. -/
structure Unstarted (tests : Nat) (R : ScenarioResponse) : Prop where
  results : R.results = none
  summary : R.summary = { total := Int64.ofNat tests }
  success : R.success = false
  cleanupFailed : R.cleanupFailed = false

section Reported

variable {names : List String} {R : ScenarioResponse} {rows : List TestResult} {tests : List TestConfig}

theorem storedPassed_nil (names : List String) : storedPassed names [] = 0 := by
  simp [storedPassed, countInt, lastRow]

theorem storedFailed_nil (names : List String) : storedFailed names [] = 0 := by
  simp [storedFailed, countInt, lastRow]

theorem Unstarted.reported (h : Unstarted names.length R) : Reported names R [] := by
  have hnil : responseResults R = [] := by simp [responseResults, h.results]
  refine ⟨?_, ?_, ?_, ?_, ?_⟩
  · rw [hnil, h.summary]
    rfl
  · rw [h.summary, storedPassed_nil]
  · rw [h.summary, storedFailed_nil]
  · simp [h.results]
  · simp [h.results, h.success]

theorem Reported.cleanupFailure (h : Reported names R rows) (execution : ExecutionContext)
    (e : ExecutionError) : Reported names (cleanupFailure execution e R).1 rows :=
  ⟨h.summary, h.passed, h.failed, h.ran, rfl⟩

theorem Reported.attach (h : Reported names R rows) (scenarioId : String) :
    Reported names (attachScenarioToDiagnostics R scenarioId) rows := by
  unfold attachScenarioToDiagnostics
  dsimp only
  split_ifs
  · exact h
  · refine ⟨?_, h.passed, h.failed, ?_, ?_⟩
    · rw [h.summary]
      cases hresults : R.results with
      | none => simp [responseResults, hresults]
      | some results =>
          simp [responseResults, hresults, summarizeTestResults, countInt, List.countP_map,
            Function.comp_def]
    · simpa using h.ran
    · simpa using h.success

/-- What the end of a scenario stores of its response is consistent. -/
theorem Reported.consistent (h : Reported names R rows) (hlisted : ∀ r ∈ rows, r.isDeleted = false)
    (hnames : names ≠ []) {index : Int} (hindex : rows = [] → index = 0) (phase : SessionPhase) :
    Consistent names ⟨Execution.scenarioStatus R,
      (Execution.finalPhase (Execution.scenarioStatus R)).getD phase, index⟩ rows := by
  have hsuccess := h.success
  rw [h.ran, h.failed] at hsuccess
  refine ⟨fun hended => ?_, fun htested => ?_, hlisted⟩
  · unfold Execution.scenarioStatus at hended ⊢
    unfold storedSuccess
    cases hcleanup : R.cleanupFailed with
    | true => simp [hcleanup, Execution.finalPhase, Progress.terminal] at hended
    | false =>
        rw [hcleanup, Bool.not_false, Bool.true_and] at hsuccess
        rw [← hsuccess]
        cases hR : R.success <;> simp
  · rintro rfl
    obtain ⟨-, hle⟩ := Bool.and_eq_true_iff.1 htested
    have hpos := List.length_pos_iff.2 hnames
    have hle' : (names.length : Int) ≤ index := of_decide_eq_true hle
    rw [hindex rfl] at hle'
    omega

end Reported

/-! ## Calls -/

section Calls

variable {id : String} {names : List String} {S : Stage}

theorem leads_contextCause : Leads id names S Task.contextCause fun r => S.given (r = none) :=
  Leads.ask (fun _ _ => rfl) fun _ _ _ _ => rfl

theorem leads_acquireSlot :
    Leads id names S (Program.perform Op.acquireSlot) fun r => S.given (r = none) := by
  refine Leads.ask (fun _ _ => rfl) fun a db _ _ => ?_
  show (if a.granted then none else none) = none
  exact ite_self none

theorem listTestResults_eq {db : Database} (h : ∀ r ∈ db.resultsOf id, r.isDeleted = false) :
    db.listTestResults id = db.resultsOf id := by
  refine List.filter_congr fun r hr => ?_
  by_cases hid : r.sessionId = id
  · simp [hid, h r (List.mem_filter.2 ⟨hr, decide_eq_true hid⟩)]
  · simp [hid]

theorem Leads.listTestResults (detached : Bool) :
    Leads id names S (Task.store detached (.listTestResults id)) fun r =>
      S.also fun rows => ∃ v, r = .ok v ∧ v = rows := by
  refine Leads.perform fun a db ha hdb => ?_
  have hfault : a.fault = .none := of_decide_eq_true (Bool.and_eq_true_iff.1 ha).1
  have hok : StoreOp.run a.now db (.listTestResults id) = .ok (db.listTestResults id, db) := rfl
  rw [handleLive_ok hfault hok]
  refine ⟨Database.HasRow.mono hdb fun s hs => ⟨hs.1, ?_⟩, fun hlate => ⟨hlate, rfl⟩⟩
  exact Stage.holds_also.2 ⟨⟨_, rfl, listTestResults_eq hs.2.consistent.listed⟩, hs.2⟩

/-- The stored results by the names of their tests. -/
def storedByName (rows : List TestResult) : List (String × Dto.TestResult) :=
  rows.reverse.map fun row => (row.testName, restoreResult row)

theorem Leads.loadPersistedResults {persisted : Session} (hid : persisted.id = id) :
    Leads id names S (Handler.loadPersistedResults (some persisted)) fun r =>
      S.also fun rows => ∃ v, r = .ok v ∧ v = storedByName rows := by
  subst hid
  refine Leads.bind (Leads.listTestResults false) fun r => ?_
  cases r with
  | error e => exact Leads.of_error
  | ok rows =>
  rw [Stage.also_ok]
  refine Leads.pure fun q rows' h => ?_
  obtain ⟨rfl, hs⟩ := Stage.holds_also.1 h
  exact Stage.holds_also.2 ⟨⟨_, rfl, rfl⟩, hs⟩

/-- The row is found by its id. -/
theorem Leads.resolveBySession {execution : ExecutionContext} (hid : id ≠ "")
    (hexecution : execution.sessionId = id) :
    Leads id names S (Handler.resolveBySession execution) fun r =>
      S.also fun rows => ∃ p, r = some p ∧ Read id names S p rows := by
  rw [Handler.resolveBySession, hexecution, if_neg hid]
  refine Leads.bind (Leads.getSession false) fun r => ?_
  cases r with
  | error e => exact Leads.of_error
  | ok s =>
  rw [Stage.also_ok]
  refine Leads.pure fun q rows h => ?_
  obtain ⟨hread, hs⟩ := Stage.holds_also.1 h
  exact Stage.holds_also.2 ⟨⟨s, rfl, hread⟩, hs⟩

/-- A lookup by a new id finds no other row. -/
theorem Leads.resolvePersistedSession (backendSessionId : String) {execution : ExecutionContext}
    (hid : id ≠ "") (hexecution : execution.sessionId = id) :
    Leads id names S (Handler.resolvePersistedSession backendSessionId execution) fun r =>
      S.given (∃ p, r = some p ∧ p.id = id) := by
  have hfound : Leads id names S (Handler.resolveBySession execution) fun r =>
      S.given (∃ p, r = some p ∧ p.id = id) := by
    refine (Leads.resolveBySession hid hexecution).mono fun r q rows h => ?_
    obtain ⟨⟨p, hp, hread⟩, hs⟩ := Stage.holds_also.1 h
    exact Stage.holds_given.2 ⟨⟨p, hp, hread.1⟩, hs⟩
  unfold Handler.resolvePersistedSession
  split_ifs
  · exact hfound
  have hlookup : Leads id names S
      (Task.store false (.getSessionByBackendSessionId backendSessionId)) fun r =>
        S.given (∀ p, r = .ok p → p.id = id) := by
    refine Leads.perform fun a db ha hdb => ?_
    obtain ⟨hfault, hpersists⟩ := Bool.and_eq_true_iff.1 ha
    cases hrun : db.getSessionByBackendSessionId backendSessionId with
    | error e =>
        have herror : StoreOp.run a.now db (.getSessionByBackendSessionId backendSessionId)
            = .error e := by
          simp only [StoreOp.run, hrun]
          rfl
        rw [handleLive_error (of_decide_eq_true hfault) herror]
        exact ⟨hdb.given (fun p hp => by cases hp), fun hlate => ⟨hlate, rfl⟩⟩
    | ok s =>
        have hok : StoreOp.run a.now db (.getSessionByBackendSessionId backendSessionId)
            = .ok (s, db) := by
          simp only [StoreOp.run, hrun]
          rfl
        rw [handleLive_ok (of_decide_eq_true hfault) hok]
        refine ⟨hdb.given fun p hp => ?_, fun hlate => ⟨hlate, rfl⟩⟩
        obtain rfl := Except.ok.inj hp
        simpa [StoreOp.persists, hrun] using hpersists
  refine Leads.bind hlookup fun r => Leads.of_given fun hr => ?_
  cases r with
  | ok p => exact Leads.pure fun q rows h => Stage.holds_given.2 ⟨⟨p, rfl, hr p rfl⟩, h⟩
  -- a lookup by backend id that finds nothing falls through to the ids of the execution
  | error e => exact hfound

end Calls

/-! ## The tests of a scenario -/

/-- A scenario whose environment was not provisioned. -/
def Stage.prepared : Stage := ⟨false, fun q rows => q.checkpointIndex = 0 ∧ rows = []⟩

/-- A scenario that failed before its tests. -/
def Stage.broken : Stage := ⟨true, fun q rows => q.checkpointIndex = 0 ∧ rows = []⟩

/-- A scenario whose tests have ended with these results. -/
def Stage.tested (persisted : Session) (results : List Dto.TestResult) : Stage :=
  ⟨true, fun _ rows => Held persisted results rows⟩

/-- A scenario whose tests have ended with a response. -/
def Stage.reported (names : List String) (R : ScenarioResponse) : Stage :=
  ⟨true, fun q rows => Reported names R rows ∧ (rows = [] → q.checkpointIndex = 0)⟩

section Tests

variable {h : Handler} {report : Activity → Task Unit} {id : String} {names : List String}
  {S : Stage} (hreport : ∀ activity, External (report activity))

include hreport

theorem leads_executeTest (test : TestConfig) :
    Leads id names S (executeTest report test) fun _ => S := by
  refine Leads.bind (External.leads (hreport _)) fun _ => ?_
  have hcall : Leads id names S (Program.perform (Op.runTest test)) fun _ => S.given True :=
    Leads.ask (fun _ _ => rfl) fun _ _ _ _ => trivial
  replace hcall := hcall.mono fun _ _ _ hs => (Stage.holds_given.1 hs).2
  refine Leads.bind hcall fun run => ?_
  cases run with
  | notInterpolated e => exact Leads.pure fun _ _ hs => hs
  | executed retryReason attempts durationMs recovered failure =>
      dsimp only
      split_ifs
      · cases retryReason with
        | none => exact Leads.pure fun _ _ hs => hs
        | some reason =>
            exact Leads.bind (External.leads (hreport _)) fun _ => Leads.pure fun _ _ hs => hs
      · exact Leads.pure fun _ _ hs => hs

omit hreport in
/-- **A result is recorded** and the scenario goes on. -/
theorem leads_recordResult {persisted : Session} (hid : persisted.id ≠ "")
    (results : List Dto.TestResult) (plan : List TestConfig) (test : TestConfig)
    (result : Dto.TestResult) :
    Leads persisted.id names (.running persisted results)
      (h.recordResult (some persisted) plan test result)
      fun _ => .running persisted (results ++ [result]) := by
  refine Leads.bind leads_contextCause fun cause => Leads.of_given fun hcause => ?_
  subst hcause
  refine Leads.bind (leads_persistTestResult rfl results result) fun _ => ?_
  cases plan.findIdx? fun t => t.name = test.name with
  | none => exact Leads.pure fun _ _ hs => hs
  | some index =>
      refine h.leads_persistCheckpoint hid _ _ _ _ _ (fun q rows hs => ?_) fun hlate => hlate
      exact ⟨rfl, consistent_of_early rfl hs.consistent.listed, hs.claim⟩

/-- **The loop over the tests** stores the result of each. -/
theorem leads_executeTests {persisted : Session} (hid : persisted.id ≠ "") (plan : List TestConfig)
    (tests : List TestConfig) (done : List Dto.TestResult) :
    Leads persisted.id names (.running persisted done)
      (executeTests report (h.recordResult (some persisted) plan) tests)
      fun results => (Stage.running persisted (done ++ results)).given
        (results.length = tests.length) := by
  induction tests generalizing done with
  | nil =>
      refine Leads.pure fun q rows hs => Stage.holds_given.2 ⟨rfl, ?_⟩
      rwa [List.append_nil]
  | cons test rest ih =>
      refine Leads.bind (leads_executeTest hreport test) fun r => ?_
      refine Leads.bind (leads_recordResult hid done plan test r.1) fun _ => ?_
      refine Leads.bind (External.leads (hreport _)) fun _ => ?_
      refine Leads.bind (ih (done ++ [r.1])) fun results => ?_
      refine Leads.of_given fun hlength => Leads.pure fun q rows hs => ?_
      refine Stage.holds_given.2 ⟨by rw [List.length_cons, List.length_cons, hlength], ?_⟩
      rwa [List.append_assoc, List.singleton_append] at hs

theorem leads_executeWorkflowBundleTests {persisted : Session} (hid : persisted.id ≠ "")
    (plan tests : List TestConfig) :
    Leads persisted.id names .prepared
      (executeWorkflowBundleTestsWithCallback report (h.recordResult (some persisted) plan) tests)
      fun results => (Stage.running persisted results).given (results.length = tests.length) := by
  refine Leads.bind leads_acquireSlot fun slot => Leads.of_given fun hslot => ?_
  subst hslot
  have htests : Leads persisted.id names (.running persisted []) _ _ :=
    leads_executeTests (h := h) hreport hid plan tests []
  refine Leads.weaken (M := .running persisted []) (fun q rows hs => ?_) htests
  obtain ⟨hlate, hconsistent, -, rfl⟩ := hs
  exact ⟨hlate, hconsistent, ⟨by simp, by simp, fun name => rfl⟩⟩

end Tests

/-! ## The end of a scenario -/

theorem lookup_map {α β : Type} (key : α → String) (f : α → β) (xs : List α) (name : String) :
    (xs.map fun x => (key x, f x)).lookup name = (xs.find? fun x => key x = name).map f := by
  induction xs with
  | nil => rfl
  | cons x xs ih =>
      rw [List.map_cons, List.lookup_cons, List.find?_cons, ih]
      by_cases hname : key x = name
      · simp [hname]
      · have hne : (name == key x) = false := beq_eq_false_iff_ne.2 (Ne.symm hname)
        simp [hname, hne]

section Counts

variable {persisted : Session} {results : List Dto.TestResult} {rows : List TestResult}
  {tests : List TestConfig}

theorem lookup_resultByName (name : String) :
    (resultByName results).lookup name = lastResult results name := by
  rw [resultByName, ← List.map_reverse]
  exact (lookup_map (fun r : Dto.TestResult => r.name) id _ name).trans Option.map_id_apply

/-- A count of the results of a plan is one of its rows. -/
theorem Held.countInt_eq (h : Held persisted results rows) {p : Dto.TestResult → Bool}
    {k : TestStatus → Bool} (hp : ∀ r, p r = k (resultStatus r)) :
    countInt p (orderedResults (resultByName results) tests)
      = countInt (fun name => (lastRow rows name).any fun r => k r.status)
          (tests.map (·.name)) := by
  obtain rfl : p = fun r => k (resultStatus r) := funext hp
  unfold countInt orderedResults
  rw [List.countP_filterMap, List.countP_map]
  congr 2
  funext test
  have hlast := congrArg (Option.any k) (h.last test.name)
  rw [Option.any_map, Option.any_map] at hlast
  rw [Function.comp_apply, lookup_resultByName]
  refine Eq.trans ?_ hlast.symm
  cases lastResult results test.name <;> rfl

theorem Held.storedPassed_eq (h : Held persisted results rows) :
    countInt (·.passed) (orderedResults (resultByName results) tests)
      = storedPassed (tests.map (·.name)) rows := by
  refine h.countInt_eq (k := fun status => status = .passed) fun r => ?_
  cases hr : r.passed <;> simp [resultStatus, hr]

theorem Held.storedFailed_eq (h : Held persisted results rows) :
    countInt (fun r => !r.passed) (orderedResults (resultByName results) tests)
      = storedFailed (tests.map (·.name)) rows := by
  refine h.countInt_eq (k := fun status => !(status = .passed)) fun r => ?_
  cases hr : r.passed <;> simp [resultStatus, hr]

/-- The response with the results of all tests agrees with the rows. -/
theorem Held.reported (h : Held persisted results rows) (hne : results ≠ [])
    {response : ScenarioResponse} (hresponse : response.cleanupFailed = false) :
    Reported (tests.map (·.name))
      (withResults response (orderedResults (resultByName results) tests)
        (planSummary tests (orderedResults (resultByName results) tests))) rows := by
  have hrows : rows ≠ [] := fun hnil => hne (h.rows_eq_nil_iff.1 hnil)
  refine ⟨?_, h.storedPassed_eq, h.storedFailed_eq, ?_, ?_⟩
  · simp [withResults, planSummary, summarizeTestResults, responseResults]
  · simp [withResults, hrows]
  · simp [withResults, hresponse]

end Counts

section Ends

variable {h : Handler} {report : Activity → Task Unit} {tests : List TestConfig}
  {names : List String} {R : ScenarioResponse} {rows : List TestResult}

theorem finalState_eq (R : ScenarioResponse) (phase : SessionPhase) :
    finalState R.cleanupFailed R.success
      = ((Execution.finalPhase (Execution.scenarioStatus R)).getD phase,
        Execution.scenarioStatus R) := by
  unfold finalState Execution.scenarioStatus
  cases R.cleanupFailed <;> cases R.success <;> rfl

theorem late_finalPhase (R : ScenarioResponse) (phase : SessionPhase) :
    ((Execution.finalPhase (Execution.scenarioStatus R)).getD phase).late = true := by
  unfold Execution.scenarioStatus
  cases R.cleanupFailed <;> cases R.success <;> rfl

/-- The row of a scenario that ends with a response. -/
theorem Reported.holds (hR : Reported names R rows) (hlisted : ∀ r ∈ rows, r.isDeleted = false)
    (hnames : names ≠ []) {index : Int} (hindex : rows = [] → index = 0) (phase : SessionPhase) :
    (Stage.reported names R).Holds names ⟨Execution.scenarioStatus R,
      (Execution.finalPhase (Execution.scenarioStatus R)).getD phase, index⟩ rows :=
  ⟨late_finalPhase R phase, hR.consistent hlisted hnames hindex phase, hR, hindex⟩

variable (hreport : ∀ activity, External (report activity))

include hreport

theorem external_cleanup (sessionId : String) :
    External (cleanupWorkflowBundleSession report sessionId) :=
  uses_cleanupWorkflowBundleSession hreport (fun _ => trivial) sessionId

/-- **The end of the tests**: the row says so before the environment is removed, and how it ended
    afterwards. -/
theorem leads_finishScenario {persisted : Session} (hid : persisted.id ≠ "")
    (htests : tests ≠ []) {results : List Dto.TestResult} (hne : results ≠ [])
    (sessionId : String) (execution : ExecutionContext) {response : ScenarioResponse}
    (hresponse : response.cleanupFailed = false) :
    Leads persisted.id (tests.map (·.name)) (.running persisted results)
      (h.finishScenario report sessionId execution (some persisted) tests
        (orderedResults (resultByName results) tests) response)
      fun attempt => (Stage.reported (tests.map (·.name)) attempt.response).given
        (attempt.cleanupDone = true) := by
  have hnames : tests.map (·.name) ≠ [] := by simpa using htests
  -- the row that is written when the environment has been removed, or has not
  have hends : ∀ {R : ScenarioResponse}, (∀ rows, Held persisted results rows →
      Reported (tests.map (·.name)) R rows) → ∀ q rows,
      (Stage.tested persisted results).Holds (tests.map (·.name)) q rows →
      (Stage.reported (tests.map (·.name)) R).Holds (tests.map (·.name))
        ⟨(finalState R.cleanupFailed R.success).2, (finalState R.cleanupFailed R.success).1,
          tests.length⟩ rows := by
    intro R hR q rows hs
    rw [finalState_eq R .completed]
    refine (hR rows hs.claim).holds hs.consistent.listed hnames (fun hnil => ?_) .completed
    exact absurd (hs.claim.rows_eq_nil_iff.1 hnil) hne
  have hwith : ∀ rows, Held persisted results rows → Reported (tests.map (·.name))
      (withResults response (orderedResults (resultByName results) tests)
        (planSummary tests (orderedResults (resultByName results) tests))) rows :=
    fun rows hheld => hheld.reported hne hresponse
  refine Leads.bind (h.leads_persistCheckpoint (T := .tested persisted results) hid _ _ _ _ _
    (fun q rows hs => ?_) fun _ => rfl) fun _ => ?_
  · refine ⟨rfl, ⟨fun hended => ?_, fun _ hnil => ?_, hs.consistent.listed⟩, hs.claim⟩
    · simp [Progress.terminal] at hended
    · exact hne (hs.claim.rows_eq_nil_iff.1 hnil)
  refine Leads.bind (External.leads (hreport _)) fun _ => ?_
  refine Leads.bind (External.leads (external_cleanup hreport sessionId)) fun failure => ?_
  cases failure with
  | none =>
      have hfinal := hends hwith
      rw [show (withResults response _ _).cleanupFailed = false from hresponse] at hfinal
      refine Leads.pure_bind
        (Leads.bind (h.leads_persistCheckpoint hid _ _ _ _ _ hfinal fun _ => rfl) fun _ => ?_)
      refine Leads.bind (leads_releaseSessionLease hid false) fun _ => ?_
      refine Leads.bind (External.leads (hreport _)) fun _ => ?_
      exact Leads.pure fun q rows hs => Stage.holds_given.2 ⟨rfl, hs⟩
  | some e =>
      refine Leads.bind (External.leads (hreport _)) fun _ => ?_
      have hfinal := hends fun rows hheld => (hwith rows hheld).cleanupFailure execution e
      refine Leads.pure_bind
        (Leads.bind (h.leads_persistCheckpoint hid _ _ _ _ _ hfinal fun _ => rfl) fun _ => ?_)
      refine Leads.bind (leads_releaseSessionLease hid false) fun _ => ?_
      exact Leads.pure fun q rows hs => Stage.holds_given.2 ⟨rfl, hs⟩

/-- What an attempt at a scenario leaves to its deferred cleanup. -/
def Stage.attempted (names : List String) (id : String) (attempt : Attempt) : Stage :=
  if attempt.cleanupDone then .reported names attempt.response
  else Stage.broken.given
    ((∃ p : Session, attempt.persisted = some p ∧ p.id = id ∧ p.checkpointIndex = 0) ∧
      Unstarted names.length attempt.response)

/-- The part after the services are ready. -/
theorem leads_runPlan {persisted : Session} (hid : persisted.id ≠ "") (htests : tests ≠ [])
    (sessionId : String) (execution : ExecutionContext) {response : ScenarioResponse}
    (hresponse : response.cleanupFailed = false) :
    Leads persisted.id (tests.map (·.name)) .prepared
      (h.runPlan report sessionId execution (some persisted) tests response)
      (Stage.attempted (tests.map (·.name)) persisted.id) := by
  refine Leads.bind (Leads.loadPersistedResults rfl) fun loaded => ?_
  cases loaded with
  | error e => exact Leads.of_error
  | ok byName =>
  rw [Stage.also_ok]
  -- nothing was stored yet
  refine Leads.of_fact (c := byName = []) (fun q rows hs => ?_) ?_
  · obtain ⟨rfl, -, rfl⟩ := hs.claim
    rfl
  rintro rfl
  refine Leads.weaken (M := .prepared) (fun q rows hs => (Stage.holds_also.1 hs).2) ?_
  have hall : (tests.filter fun t => (List.lookup t.name ([] : List (String × Dto.TestResult))).isNone)
      = tests := List.filter_eq_self.2 fun _ _ => rfl
  refine Leads.bind (leads_executeWorkflowBundleTests hreport hid tests _) fun results => ?_
  rw [hall]
  refine Leads.of_given fun hlength => ?_
  refine Leads.bind leads_contextCause fun cause => Leads.of_given fun hcause => ?_
  subst hcause
  have hne : results ≠ [] := by
    rintro rfl
    exact htests (List.length_eq_zero_iff.1 hlength.symm)
  show Leads _ _ _ (h.finishScenario report sessionId execution (some persisted) tests
    (orderedResults (resultByName (orderedResults [] tests ++ results)) tests) response) _
  have hnone : orderedResults [] tests = [] := List.filterMap_eq_nil_iff.2 fun _ _ => rfl
  rw [hnone, List.nil_append]
  refine (leads_finishScenario hreport hid htests hne sessionId execution hresponse).mono
    fun attempt q rows hs => ?_
  obtain ⟨hdone, hs⟩ := Stage.holds_given.1 hs
  rwa [Stage.attempted, if_pos hdone]

/-- The part that needs a provisioning slot. -/
theorem leads_provisionScenario {persisted : Session} (hid : persisted.id ≠ "")
    (hindex : persisted.checkpointIndex = 0) {translated : TranslationResult}
    (htests : translated.tests ≠ []) (sessionId : String) (execution : ExecutionContext)
    {response : ScenarioResponse}
    (hresponse : Unstarted translated.tests.length response) :
    Leads persisted.id (translated.tests.map (·.name)) .prepared
      (h.provisionScenario report sessionId execution (some persisted) translated response)
      (Stage.attempted (translated.tests.map (·.name)) persisted.id) := by
  refine Leads.bind leads_acquireSlot fun slot => Leads.of_given fun hslot => ?_
  subst hslot
  refine Leads.bind (External.leads (hreport _)) fun _ => ?_
  refine Leads.bind (External.leads (p := Program.perform (Op.provisionServices _))
    (Uses.perform trivial)) fun provisioned => ?_
  refine Leads.bind (External.leads (Uses.forEach fun a _ => hreport a)) fun _ => ?_
  cases provisioned.2 with
  | error e =>
      refine Leads.bind (External.leads (hreport _)) fun _ => ?_
      refine Leads.bind leads_contextCause fun cause => Leads.of_given fun hcause => ?_
      subst hcause
      refine Leads.bind (leads_persistSessionFailure (T := .broken) hid _ _ (fun q rows hs => ?_)
        fun hlate => by cases hlate) fun _ => ?_
      · obtain ⟨-, -, hzero, rfl⟩ := hs
        refine ⟨rfl, ⟨fun _ => ?_, fun htested => ?_, by simp⟩, hzero, rfl⟩
        · simp [storedSuccess]
        · simp [Progress.interrupted] at htested
      · refine Leads.pure fun q rows hs => ?_
        rw [Stage.attempted, if_neg (by simp)]
        refine Stage.holds_given.2 ⟨⟨⟨_, rfl, rfl, hindex⟩, ?_⟩, hs⟩
        rw [List.length_map]
        exact ⟨hresponse.results, hresponse.summary, hresponse.success, hresponse.cleanupFailed⟩
  | ok runtime =>
      -- before the first test the row may say any early phase
      have hprepared : ∀ {status : ExecutionStatus} {phase : SessionPhase} {q : Progress}
          {rows : List TestResult}, phase.late = false →
          Stage.prepared.Holds (translated.tests.map (·.name)) q rows →
          Stage.prepared.Holds (translated.tests.map (·.name)) ⟨status, phase, q.checkpointIndex⟩
            rows := fun hphase hs =>
        ⟨hphase, consistent_of_early hphase hs.consistent.listed, hs.claim⟩
      refine Leads.bind (External.leads (hreport _)) fun _ => ?_
      refine Leads.bind (h.leads_persistProvisionedState hid _ (fun q rows hs => hprepared rfl hs)
        fun hlate => hlate) fun _ => ?_
      refine Leads.bind (h.leads_ensureTestPlan hid _ (fun q rows hs => hprepared rfl hs)
        fun hlate => hlate) fun failure => Leads.of_given fun hfailure => ?_
      subst hfailure
      exact leads_runPlan hreport hid htests sessionId execution hresponse.cleanupFailed

omit hreport in
/-- The row of the session is taken over. -/
theorem leads_buildPersistedSession {id : String} (hid : id ≠ "") {execution : ExecutionContext}
    (hexecution : execution.sessionId = id) (sessionId : String) (services : List ServiceConfig) :
    Leads id names .prepared (h.buildPersistedSession sessionId execution services)
      fun built => Stage.prepared.given
        (∃ p : Session, built = (some p, none) ∧ p.id = id ∧ p.checkpointIndex = 0) := by
  refine Leads.bind (External.leads (p := Task.now) (Uses.perform trivial)) fun now => ?_
  refine Leads.bind (Leads.resolvePersistedSession sessionId hid hexecution)
    fun found => Leads.of_given ?_
  rintro ⟨p, rfl, rfl⟩
  refine Leads.bind (Leads.updatePersistedSession (T := .prepared) hid false
    (fun s hsid hdeleted => Leads.pure fun q rows hs => ?_) fun hlate => hlate) fun updated => ?_
  · obtain ⟨hread, hs⟩ := Stage.holds_also.1 hs
    refine Stage.holds_also.2 ⟨⟨_, rfl, hsid, hdeleted, rfl, ?_, ?_, hs.claim.2⟩, hs⟩
    · exact consistent_of_early rfl hs.consistent.listed
    · have hzero : s.checkpointIndex = 0 := hread.claim.1
      show max s.checkpointIndex 0 = 0
      rw [hzero, max_self]
  · cases updated with
    | error e => exact Leads.of_error
    | ok updated =>
    rw [Stage.also_ok]
    refine Leads.pure fun q rows hs => ?_
    obtain ⟨⟨p', rfl, hread⟩, hs⟩ := Stage.holds_also.1 hs
    exact Stage.holds_given.2 ⟨⟨p', rfl, hread.1, hread.2.2.claim.1⟩, (Stage.holds_also.1 hs).2⟩

theorem leads_scenarioBody {id : String} (hid : id ≠ "") {execution : ExecutionContext}
    (hexecution : execution.sessionId = id) {translated : TranslationResult}
    (htests : translated.tests ≠ []) (sessionId : String) {response : ScenarioResponse}
    (hresponse : Unstarted translated.tests.length response) :
    Leads id (translated.tests.map (·.name)) .prepared
      (h.scenarioBody report sessionId execution translated response)
      (Stage.attempted (translated.tests.map (·.name)) id) := by
  refine Leads.bind (leads_buildPersistedSession hid hexecution sessionId _)
    fun built => Leads.of_given ?_
  rintro ⟨p, rfl, rfl, hindex⟩
  refine Leads.bind (External.leads (p := Program.perform (Op.startHeartbeat p.id))
    (Uses.perform trivial)) fun _ => ?_
  refine Leads.bind
    (leads_provisionScenario hreport hid hindex htests sessionId execution hresponse)
    fun attempt => ?_
  refine Leads.bind (External.leads (p := Program.perform Op.stopHeartbeat) (Uses.perform trivial))
    fun _ => Leads.pure fun q rows hs => hs

/-- The deferred cleanup of a scenario that failed before its tests. -/
theorem leads_deferredCleanup {id : String} (hid : id ≠ "") (hnames : names ≠ [])
    (sessionId : String) (execution : ExecutionContext) (attempt : Attempt) :
    Leads id names (Stage.attempted names id attempt)
      (h.deferredCleanup report sessionId execution attempt) (Stage.reported names) := by
  unfold Stage.attempted Handler.deferredCleanup
  split_ifs with hdone
  · exact Leads.pure fun q rows hs => hs
  refine Leads.of_given ?_
  rintro ⟨⟨p, hpersisted, rfl, hindex⟩, hunstarted⟩
  rw [hpersisted]
  refine Leads.bind (External.leads (external_cleanup hreport sessionId)) fun failure => ?_
  cases failure with
  | some e =>
      refine Leads.bind (h.leads_persistCheckpoint (T := .broken) hid _ _ _ _ _ (fun q rows hs => ?_)
        fun _ => rfl) fun _ => ?_
      · obtain ⟨-, -, -, rfl⟩ := hs
        refine ⟨rfl, ⟨fun hended => ?_, fun htested => ?_, by simp⟩, hindex, rfl⟩
        · simp [Progress.terminal] at hended
        · simp [Progress.interrupted, hindex, hnames] at htested
      refine Leads.bind (leads_releaseSessionLease hid true) fun _ => ?_
      refine Leads.pure fun q rows hs => ⟨hs.late, hs.consistent, ?_⟩
      obtain ⟨hzero, rfl⟩ := hs.claim
      exact ⟨hunstarted.reported.cleanupFailure execution e, fun _ => hzero⟩
  | none =>
      refine Leads.bind leads_contextCause fun cause => Leads.of_given fun hcause => ?_
      subst hcause
      refine Leads.pure_bind (Leads.bind (leads_releaseSessionLease hid true) fun _ => ?_)
      refine Leads.pure fun q rows hs => ⟨hs.late, hs.consistent, ?_⟩
      obtain ⟨hzero, rfl⟩ := hs.claim
      exact ⟨hunstarted.reported, fun _ => hzero⟩

/-- A scenario in a new session. -/
theorem leads_runInSession {id : String} (hid : id ≠ "") {execution : ExecutionContext}
    (hexecution : execution.sessionId = id) {translated : TranslationResult}
    (htests : translated.tests ≠ []) {response : ScenarioResponse}
    (hresponse : Unstarted translated.tests.length response) :
    Leads id (translated.tests.map (·.name)) .prepared
      (h.runInSession report execution translated response)
      (Stage.reported (translated.tests.map (·.name))) := by
  have hnames : translated.tests.map (·.name) ≠ [] := by simpa using htests
  refine Leads.bind (External.leads (p := Task.newId) (Uses.perform trivial)) fun sessionId => ?_
  have hunstarted : Unstarted translated.tests.length { response with sessionId } :=
    ⟨hresponse.results, hresponse.summary, hresponse.success, hresponse.cleanupFailed⟩
  refine Leads.bind (leads_scenarioBody hreport hid hexecution htests sessionId hunstarted)
    fun attempt => ?_
  exact leads_deferredCleanup hreport hid hnames sessionId execution attempt

end Ends

/-! ## The first run of a scenario -/

/-- A scenario that was submitted and has not run. -/
def Stage.submitted : Stage :=
  ⟨false, fun q rows =>
    (q.phase = .other "" ∨ q.phase = .created) ∧ q.checkpointIndex = 0 ∧ rows = []⟩

/-- A scenario that has ended with a response, and its row says how. -/
def Stage.closed (names : List String) (R : ScenarioResponse) : Stage :=
  ⟨true, fun q rows => Reported names R rows ∧ q.status = Execution.scenarioStatus R ∧
    Execution.finalPhase (Execution.scenarioStatus R) = some q.phase⟩

section FirstRun

variable {h : Handler} {request : Request} {scenario : RunScenario} {names : List String} {S : Stage}

theorem external_emitLog (request : Request) (message status : String) (scenario : Option RunScenario)
    (result : Option (Except String Json)) :
    External (Execution.emitLog request message status scenario result) :=
  Uses.bind (Uses.perform trivial) fun _ => Uses.bind (Uses.perform trivial) fun _ => Uses.pure _

theorem external_emitTestResults (request : Request) (scenario : RunScenario)
    (response : ScenarioResponse) :
    External (Execution.emitTestResults request scenario response) :=
  Uses.bind (Uses.perform trivial) fun _ => Uses.bind (Uses.perform trivial) fun _ =>
    Uses.bind (Uses.perform trivial) fun _ => Uses.bind (Uses.perform trivial) fun _ => Uses.pure _

/-- **The end of a scenario**: how it ended is stored in its row. -/
theorem leads_reportScenario {T : Stage} {R : ScenarioResponse} (hT : ∀ q rows, S.Holds names q rows →
      T.Holds names ⟨Execution.scenarioStatus (attachScenarioToDiagnostics R scenario.id),
        (Execution.finalPhase (Execution.scenarioStatus
          (attachScenarioToDiagnostics R scenario.id))).getD q.phase, q.checkpointIndex⟩ rows)
    (hlate : S.late = true → T.late = true) :
    Leads scenario.scenarioRunId names S (Execution.reportScenario request scenario R)
      fun R' => T.given (R' = attachScenarioToDiagnostics R scenario.id) := by
  refine Leads.bind leads_contextCause fun cause => Leads.of_given fun hcause => ?_
  subst hcause
  refine Leads.bind (Leads.updateScenario rfl hT hlate) fun e => Leads.of_given fun he => ?_
  subst he
  refine Leads.pure_bind ?_
  refine Leads.bind (External.leads (external_emitTestResults _ _ _)) fun _ => ?_
  refine Leads.bind (External.leads (external_emitLog _ _ _ _ _)) fun _ => ?_
  exact Leads.pure fun q rows hs => Stage.holds_given.2 ⟨rfl, hs⟩

theorem holds_submitted_iff {q : Progress} {rows : List TestResult} :
    Stage.submitted.Holds names q rows ↔
      (q.phase = .other "" ∨ q.phase = .created) ∧ q.checkpointIndex = 0 ∧ rows = [] := by
  refine ⟨fun hs => hs.claim, ?_⟩
  rintro ⟨hphase, hindex, rfl⟩
  have hlate : q.phase.late = false := by rcases hphase with hphase | hphase <;> rw [hphase] <;> rfl
  exact ⟨hlate, consistent_of_early hlate (by simp), hphase, hindex, rfl⟩

/-- The start of a scenario that has not ended. -/
theorem leads_startScenario (hopen : ∀ q rows, S.Holds names q rows → q.terminal = false ∧
      S.Holds names ⟨.running, q.phase, q.checkpointIndex⟩ rows) :
    Leads scenario.scenarioRunId names S (Execution.startScenario request scenario)
      fun r => S.given (r = none) := by
  have hchecked : Leads scenario.scenarioRunId names S (Execution.completedScenario scenario)
      fun r => S.given (r = none) := by
    refine Leads.bind (Leads.getSession false) fun r => ?_
    cases r with
    | error e => exact Leads.of_error
    | ok s =>
    rw [Stage.also_ok]
    refine Leads.of_fact (c := Execution.isTerminalScenarioCheckpoint s = false)
      (fun q rows hs => (hopen _ rows hs.claim.1.2.2).1) fun hstarted => ?_
    show Leads _ _ _ (if Execution.isTerminalScenarioCheckpoint s then _ else _) _
    rw [hstarted, if_neg Bool.false_ne_true]
    exact Leads.pure fun q rows hs => Stage.holds_given.2 ⟨rfl, (Stage.holds_also.1 hs).2⟩
  refine Leads.bind hchecked fun checkpoint => Leads.of_given fun hnone => ?_
  subst hnone
  refine Leads.bind (Leads.updateScenario (T := S) rfl (fun q rows hs => (hopen q rows hs).2)
    fun hlate => hlate) fun e => Leads.of_given fun he => ?_
  subst he
  refine Leads.bind (External.leads (external_emitLog _ _ _ _ _)) fun _ => ?_
  exact Leads.pure fun q rows hs => Stage.holds_given.2 ⟨rfl, hs⟩

theorem submitted_open (q : Progress) (rows : List TestResult)
    (hs : Stage.submitted.Holds names q rows) : q.terminal = false ∧
      Stage.submitted.Holds names ⟨.running, q.phase, q.checkpointIndex⟩ rows := by
  refine ⟨?_, holds_submitted_iff.2 hs.claim⟩
  rcases hs.claim.1 with hphase | hphase <;> simp [Progress.terminal, hphase]

theorem leads_runScenario (hid : scenario.scenarioRunId ≠ "") {bundle : Bundle}
    {bundleScenario : BundleScenario} {translated : TranslationResult}
    (htranslated : bundle.translateScenario bundleScenario = .ok translated)
    (htests : translated.tests ≠ []) :
    Leads scenario.scenarioRunId (translated.tests.map (·.name)) .submitted
      (Execution.runScenario h request bundle scenario bundleScenario)
      (Stage.reported (translated.tests.map (·.name))) := by
  have hexecution : (Execution.executionContext request scenario).sessionId
      = scenario.scenarioRunId := rfl
  unfold Execution.runScenario Handler.runWorkflowBundleScenarioForRun
  rw [htranslated]
  dsimp only
  rw [Handler.resolvePersistedSession, if_pos rfl]
  refine Leads.bind (Leads.resolveBySession hid hexecution) fun found => ?_
  refine Leads.of_fact (c := ∃ p, found = some p ∧ (p.phase = .other "" ∨ p.phase = .created))
    (fun q rows hs => hs.claim.1.imp fun p hp => ⟨hp.1, hp.2.2.2.claim.1⟩) ?_
  rintro ⟨p, rfl, hphase⟩
  dsimp only
  rw [if_pos hphase]
  refine Leads.weaken (M := .prepared) (fun q rows hs => ?_)
    (leads_runInSession (Execution.external_scenarioReporter request scenario) hid hexecution htests
      ⟨rfl, rfl, rfl, rfl⟩)
  obtain ⟨-, hs⟩ := Stage.holds_also.1 hs
  exact ⟨hs.late, hs.consistent, hs.claim.2⟩

theorem finalPhase_scenarioStatus (R : ScenarioResponse) (phase : SessionPhase) :
    Execution.finalPhase (Execution.scenarioStatus R)
      = some ((Execution.finalPhase (Execution.scenarioStatus R)).getD phase) := by
  unfold Execution.scenarioStatus
  cases R.cleanupFailed <;> cases R.success <;> rfl

/-- **The first run of a scenario** ends with what it reports. -/
theorem leads_executeScenario (hid : scenario.scenarioRunId ≠ "") {bundle : Bundle}
    {bundleScenario : BundleScenario} {translated : TranslationResult}
    (htranslated : bundle.translateScenario bundleScenario = .ok translated)
    (htests : translated.tests ≠ []) :
    Leads scenario.scenarioRunId (translated.tests.map (·.name)) .submitted
      (Execution.executeScenario h request bundle scenario bundleScenario)
      (Stage.closed (translated.tests.map (·.name))) := by
  have hnames : translated.tests.map (·.name) ≠ [] := by simpa using htests
  refine Leads.bind (leads_startScenario submitted_open) fun r => Leads.of_given fun hr => ?_
  subst hr
  refine Leads.bind (leads_runScenario hid htranslated htests) fun response => ?_
  have hreport : Leads scenario.scenarioRunId (translated.tests.map (·.name))
      (.reported (translated.tests.map (·.name)) response)
      (Execution.reportScenario request scenario response)
      fun R => (Stage.closed (translated.tests.map (·.name))
        (attachScenarioToDiagnostics response scenario.id)).given
          (R = attachScenarioToDiagnostics response scenario.id) := by
    refine leads_reportScenario (fun q rows hs => ?_) fun _ => rfl
    have hR := hs.claim.1.attach scenario.id
    have hholds := hR.holds hs.consistent.listed hnames hs.claim.2 q.phase
    exact ⟨hholds.late, hholds.consistent, hR, rfl, finalPhase_scenarioStatus _ _⟩
  refine hreport.mono fun R q rows hs => ?_
  obtain ⟨rfl, hs'⟩ := Stage.holds_given.1 hs
  exact hs'

end FirstRun

/-! ## A scenario that is restored -/

/-- The response of a scenario that was restored from the rows of its results. -/
structure Restored (names : List String) (rows : List TestResult) (R : ScenarioResponse) :
    Prop where
  summary : R.summary = { total := Int64.ofNat names.length, passed := storedPassed names rows,
                          failed := storedFailed names rows }
  success : R.success = storedSuccess names rows
  cleanupFailed : R.cleanupFailed = false

/-- A scenario that ended with these results. -/
def Stage.ended (stored : List TestResult) : Stage :=
  ⟨true, fun q rows => rows = stored ∧ q.terminal = true⟩

/-- A scenario that was interrupted after its last test. -/
def Stage.interrupted (names : List String) (stored : List TestResult) : Stage :=
  ⟨true, fun q rows => rows = stored ∧ q.interrupted names.length = true⟩

/-- A scenario whose recovery gave a response. -/
def Stage.recovered (names : List String) (stored : List TestResult) (R : ScenarioResponse) :
    Stage :=
  ⟨true, fun q rows => rows = stored ∧
    if R.cleanupFailed then q.interrupted names.length = true else q.terminal = true⟩

section Restored

variable {names : List String} {rows : List TestResult} {R : ScenarioResponse}
  {f : TestResult → Dto.TestResult}

/-- A count of the results that are read off the rows. -/
theorem countInt_stored {p : Dto.TestResult → Bool} {k : TestStatus → Bool}
    (hp : ∀ r, p (f r) = k r.status) (names : List String) (rows : List TestResult) :
    countInt p (names.filterMap fun name =>
        (rows.reverse.map fun row => (row.testName, f row)).lookup name)
      = countInt (fun name => (lastRow rows name).any fun r => k r.status) names := by
  unfold countInt
  rw [List.countP_filterMap]
  congr 2
  funext name
  rw [lookup_map]
  show ((Option.map f (lastRow rows name)).map p).getD false = _
  cases lastRow rows name with
  | none => rfl
  | some r => exact hp r

theorem summarizeTestResults_stored (hf : ∀ r, (f r).passed = decide (r.status = .passed))
    (names : List String) (rows : List TestResult) :
    summarizeTestResults (names.filterMap fun name =>
        (rows.reverse.map fun row => (row.testName, f row)).lookup name) names.length
      = { total := Int64.ofNat names.length, passed := storedPassed names rows,
          failed := storedFailed names rows } := by
  unfold summarizeTestResults
  rw [countInt_stored (k := fun status => status = .passed) hf,
    countInt_stored (k := fun status => !(status = .passed)) fun r => by rw [hf r]]
  rfl

theorem Restored.attach (h : Restored names rows R) (scenarioId : String) :
    Restored names rows (attachScenarioToDiagnostics R scenarioId) := by
  unfold attachScenarioToDiagnostics
  dsimp only
  split_ifs
  · exact h
  · exact ⟨h.summary, h.success, h.cleanupFailed⟩

/-- What a restored scenario stores is consistent. -/
theorem Restored.consistent (h : Restored names rows R) (hlisted : ∀ r ∈ rows, r.isDeleted = false)
    (phase : SessionPhase) (index : Int) :
    Consistent names ⟨Execution.scenarioStatus R,
      (Execution.finalPhase (Execution.scenarioStatus R)).getD phase, index⟩ rows := by
  have hsuccess := h.success
  unfold Execution.scenarioStatus
  rw [h.cleanupFailed]
  refine ⟨fun _ => ?_, fun htested => ?_, hlisted⟩
  · rw [← hsuccess]
    cases R.success <;> rfl
  · cases hR : R.success <;> simp [hR, Execution.finalPhase, Progress.interrupted] at htested

/-- The response of a scenario that had ended is read off its row and those of its results. The
    order of its tests does not matter. -/
theorem restored_checkpointResponse {scenario : RunScenario}
    (hperm : (scenario.tests.map (·.name)).Perm names) {s : Session}
    (hs : Consistent names s.progress rows) (hended : s.progress.terminal = true) :
    Restored names rows (Execution.checkpointResponse scenario s rows) := by
  have hsummary := summarizeTestResults_stored (f := Execution.checkpointResult) (fun _ => rfl)
    (scenario.tests.map (·.name)) rows
  have hpassed : storedPassed (scenario.tests.map (·.name)) rows = storedPassed names rows :=
    congrArg Int64.ofNat (hperm.countP_eq _)
  have hfailed : storedFailed (scenario.tests.map (·.name)) rows = storedFailed names rows :=
    congrArg Int64.ofNat (hperm.countP_eq _)
  rw [hpassed, hfailed, hperm.length_eq, List.filterMap_map, ← hperm.length_eq,
    List.length_map] at hsummary
  refine ⟨?_, hs.ended hended, rfl⟩
  rw [← hperm.length_eq, List.length_map]
  exact hsummary

/-- The response of a scenario that was interrupted after its last test. -/
theorem restored_withResults {tests : List TestConfig} (hrows : rows ≠ [])
    {response : ScenarioResponse} (hresponse : response.cleanupFailed = false) :
    Restored (tests.map (·.name)) rows
      (withResults response (orderedResults (storedByName rows) tests)
        (summarizeTestResults (orderedResults (storedByName rows) tests) tests.length)) := by
  have hsummary := summarizeTestResults_stored (f := restoreResult) (fun _ => rfl)
    (tests.map (·.name)) rows
  rw [List.filterMap_map, List.length_map] at hsummary
  refine ⟨?_, ?_, hresponse⟩
  · rw [List.length_map]
    exact hsummary
  · have hfailed := congrArg Dto.TestSummary.failed hsummary
    have hempty : rows.isEmpty = false := by simpa using hrows
    show decide ((summarizeTestResults (orderedResults (storedByName rows) tests)
      tests.length).failed = 0) = storedSuccess (tests.map (·.name)) rows
    rw [storedSuccess, hempty, Bool.not_false, Bool.true_and]
    exact congrArg (fun failed : Int64 => decide (failed = 0)) hfailed

end Restored

section Recovered

variable {h : Handler} {request : Request} {scenario : RunScenario} {id : String}
  {names : List String} {stored rows : List TestResult} {R : ScenarioResponse}

/-- The response of a scenario that had come to its end: it was restored, or what its attempt left
    behind could not be removed. -/
def Recovered (names : List String) (stored : List TestResult) (R : ScenarioResponse) : Prop :=
  R.cleanupFailed = true ∨ Restored names stored R

theorem Recovered.attach (hR : Recovered names stored R) (scenarioId : String) :
    Recovered names stored (attachScenarioToDiagnostics R scenarioId) := by
  refine hR.imp (fun hR => ?_) fun hR => hR.attach scenarioId
  unfold attachScenarioToDiagnostics
  dsimp only
  split_ifs <;> exact hR

theorem Recovered.consistent (hR : Recovered names rows R) (hrows : rows ≠ [])
    (hlisted : ∀ r ∈ rows, r.isDeleted = false) (phase : SessionPhase) (index : Int) :
    Consistent names ⟨Execution.scenarioStatus R,
      (Execution.finalPhase (Execution.scenarioStatus R)).getD phase, index⟩ rows := by
  rcases hR with hcleanup | hR
  · unfold Execution.scenarioStatus
    rw [hcleanup]
    exact ⟨fun hended => by simp [Progress.terminal] at hended, fun _ => hrows, hlisted⟩
  · exact hR.consistent hlisted phase index

/-- The row that a recovery leaves. -/
theorem Recovered.holds (hR : Recovered names rows R) (hrows : rows ≠ [])
    (hlisted : ∀ r ∈ rows, r.isDeleted = false) (phase : SessionPhase) {index : Int}
    (hindex : R.cleanupFailed = true → (names.length : Int) ≤ index) :
    (Stage.recovered names rows R).Holds names ⟨Execution.scenarioStatus R,
      (Execution.finalPhase (Execution.scenarioStatus R)).getD phase, index⟩ rows := by
  refine ⟨late_finalPhase R phase, hR.consistent hrows hlisted phase index, rfl, ?_⟩
  unfold Execution.scenarioStatus
  cases hcleanup : R.cleanupFailed with
  | true => simp [Execution.finalPhase, Progress.interrupted, hindex hcleanup]
  | false => cases R.success <;> simp [Execution.finalPhase, Progress.terminal]

/-- The start of a scenario that had ended. -/
theorem leads_startScenario_ended (hperm : (scenario.tests.map (·.name)).Perm names) :
    Leads scenario.scenarioRunId names (.ended stored) (Execution.startScenario request scenario)
      fun r => (Stage.ended stored).given (∃ R, r = some R ∧ Restored names stored R) := by
  have hchecked : Leads scenario.scenarioRunId names (.ended stored)
      (Execution.completedScenario scenario)
      fun r => (Stage.ended stored).given (∃ R, r = some R ∧ Restored names stored R) := by
    refine Leads.bind (Leads.getSession false) fun r => ?_
    cases r with
    | error e => exact Leads.of_error
    | ok s =>
    rw [Stage.also_ok]
    refine Leads.of_fact (c := Execution.isTerminalScenarioCheckpoint s = true)
      (fun q rows hs => hs.claim.1.2.2.claim.2) fun hended => ?_
    show Leads _ _ _ (if Execution.isTerminalScenarioCheckpoint s then _ else _) _
    rw [if_pos hended]
    refine Leads.bind (Leads.listTestResults false) fun r => ?_
    cases r with
    | error e => exact Leads.of_error
    | ok listed =>
    rw [Stage.also_ok]
    refine Leads.pure fun q rows hs => ?_
    obtain ⟨rfl, hs⟩ := Stage.holds_also.1 hs
    obtain ⟨⟨-, -, hread⟩, hs⟩ := Stage.holds_also.1 hs
    obtain ⟨rfl, -⟩ := hs.claim
    exact Stage.holds_given.2
      ⟨⟨_, rfl, restored_checkpointResponse hperm hread.consistent hended⟩, hs⟩
  refine Leads.bind hchecked fun checkpoint => Leads.of_given ?_
  rintro ⟨R, rfl, hR⟩
  refine Leads.bind (External.leads (external_emitLog _ _ _ _ _)) fun _ => ?_
  exact Leads.pure fun q rows hs => Stage.holds_given.2 ⟨⟨R, rfl, hR⟩, hs⟩

theorem interrupted_open (q : Progress) (rows : List TestResult)
    (hs : (Stage.interrupted names stored).Holds names q rows) : q.terminal = false ∧
      (Stage.interrupted names stored).Holds names ⟨.running, q.phase, q.checkpointIndex⟩ rows := by
  refine ⟨?_, hs.late, ⟨fun hended => by simp [Progress.terminal] at hended, hs.consistent.tested,
    hs.consistent.listed⟩, hs.claim⟩
  have hphase := Bool.or_eq_true_iff.1 (Bool.and_eq_true_iff.1 hs.claim.2).1
  rcases hphase with hphase | hphase <;> simp [Progress.terminal, of_decide_eq_true hphase]

/-- What the recovery of a scenario leaves. -/
def Stage.recovery (names : List String) (stored : List TestResult)
    (r : Option ScenarioResponse) : Stage :=
  ⟨true, fun q rows => stored ≠ [] ∧ ∃ R, r = some R ∧ Recovered names stored R ∧
    (Stage.recovered names stored R).claim q rows⟩

/-- The results of an interrupted attempt are restored. -/
theorem leads_restoredScenario {previous : Session} (hid : previous.id ≠ "") (hstored : stored ≠ [])
    (hR : Restored names stored R) (checkpoint : Int) (summary : Json) :
    Leads previous.id names (.interrupted names stored)
      (do
        h.persistCheckpoint false previous.id checkpoint (finalState false R.success).1
          (some (finalState false R.success).2) (some summary)
        releaseSessionLease false previous.id
        pure (some R))
      (Stage.recovery names stored) := by
  refine Leads.bind (h.leads_persistCheckpoint (T := .recovered names stored R) hid _ _ _ _ _
    (fun q rows hs => ?_) fun _ => rfl) fun _ => ?_
  · obtain ⟨rfl, -⟩ := hs.claim
    have hfinal := finalState_eq R .completed
    rw [hR.cleanupFailed] at hfinal
    rw [hfinal]
    exact Recovered.holds (Or.inr hR) hstored hs.consistent.listed _ fun hcleanup =>
      absurd (hcleanup.symm.trans hR.cleanupFailed) (by decide)
  refine Leads.bind (leads_releaseSessionLease hid false) fun _ => ?_
  exact Leads.pure fun q rows hs =>
    ⟨hs.late, hs.consistent, hstored, _, rfl, Or.inr hR, hs.claim⟩

/-- What an interrupted attempt left behind is removed, and its results are restored. -/
theorem leads_recoverScenario {previous : Session} (hid : previous.id ≠ "")
    {translated : TranslationResult}
    (hprevious : previous.progress.interrupted translated.tests.length = true)
    {response : ScenarioResponse} (hresponse : response.cleanupFailed = false) :
    Leads previous.id (translated.tests.map (·.name))
      (.interrupted (translated.tests.map (·.name)) stored)
      (h.recoverScenario previous translated response)
      (Stage.recovery (translated.tests.map (·.name)) stored) := by
  generalize hnames : translated.tests.map (·.name) = names
  -- a scenario that was cleaning up after its last test has stored results
  refine Leads.of_fact (c := stored ≠ []) (fun q rows hs => ?_) fun hstored => ?_
  · obtain ⟨rfl, hinterrupted⟩ := hs.claim
    exact hs.consistent.tested hinterrupted
  refine Leads.bind (External.leads (external_cleanupPersistedSessionResources previous.id 3))
    fun failure => ?_
  cases failure with
  | some e =>
      refine Leads.bind leads_contextCause fun cause => Leads.of_given fun hcause => ?_
      subst hcause
      refine Leads.bind (leads_persistSessionFailure (T := .interrupted names stored) hid _ _
        (fun q rows hs => ?_) fun _ => rfl) fun _ => ?_
      · obtain ⟨rfl, hinterrupted⟩ := hs.claim
        obtain ⟨-, hindex⟩ := Bool.and_eq_true_iff.1 hinterrupted
        refine ⟨rfl, ⟨fun hended => ?_, fun _ => hstored, hs.consistent.listed⟩, rfl, ?_⟩
        · simp [Progress.terminal] at hended
        · simpa [Progress.interrupted] using hindex
      · exact Leads.pure fun q rows hs =>
          ⟨hs.late, hs.consistent, hstored, _, rfl, Or.inl rfl, hs.claim⟩
  | none =>
      have hcond : (previous.phase = .cleaningUp ∨ previous.phase = .cleanupFailed) ∧
          previous.checkpointIndex ≥ translated.tests.length := by
        obtain ⟨hphase, hindex⟩ := Bool.and_eq_true_iff.1 hprevious
        have hphase := Bool.or_eq_true_iff.1 hphase
        exact ⟨hphase.imp of_decide_eq_true of_decide_eq_true, of_decide_eq_true hindex⟩
      dsimp only
      rw [if_pos hcond]
      refine Leads.bind (Leads.loadPersistedResults rfl) fun loaded => ?_
      cases loaded with
      | error e => exact Leads.of_error
      | ok byName =>
      rw [Stage.also_ok]
      refine Leads.of_fact (c := byName = storedByName stored) (fun q rows hs => ?_) ?_
      · obtain ⟨rfl, rfl, -⟩ := hs.claim
        rfl
      rintro rfl
      have hrestored : Restored (translated.tests.map (·.name)) stored
          (withResults { response with sessionId := previous.backendSessionId } _ _) :=
        restored_withResults hstored hresponse
      rw [hnames] at hrestored
      exact Leads.weaken (fun q rows hs => (Stage.holds_also.1 hs).2)
        (leads_restoredScenario hid hstored hrestored _ _)

/-- The middle of a scenario that was interrupted after its last test. -/
theorem leads_runScenario_interrupted (hid : scenario.scenarioRunId ≠ "") {bundle : Bundle}
    {bundleScenario : BundleScenario} {translated : TranslationResult}
    (htranslated : bundle.translateScenario bundleScenario = .ok translated) :
    Leads scenario.scenarioRunId (translated.tests.map (·.name))
      (.interrupted (translated.tests.map (·.name)) stored)
      (Execution.runScenario h request bundle scenario bundleScenario) fun R =>
        (Stage.recovered (translated.tests.map (·.name)) stored R).given
          (stored ≠ [] ∧ Recovered (translated.tests.map (·.name)) stored R) := by
  have hexecution : (Execution.executionContext request scenario).sessionId
      = scenario.scenarioRunId := rfl
  unfold Execution.runScenario Handler.runWorkflowBundleScenarioForRun
  rw [htranslated]
  dsimp only
  rw [Handler.resolvePersistedSession, if_pos rfl]
  refine Leads.bind (Leads.resolveBySession hid hexecution) fun found => ?_
  refine Leads.of_fact (c := ∃ p : Session, found = some p ∧ p.id = scenario.scenarioRunId ∧
    p.progress.interrupted translated.tests.length = true) (fun q rows hs => ?_) ?_
  · obtain ⟨p, hp, hpid, -, hread⟩ := hs.claim.1
    refine ⟨p, hp, hpid, ?_⟩
    rw [← List.length_map (f := fun t : TestConfig => t.name)]
    exact hread.claim.2
  rintro ⟨p, rfl, hpid, hinterrupted⟩
  have hphase := Bool.or_eq_true_iff.1 (Bool.and_eq_true_iff.1 hinterrupted).1
  -- an interrupted row is not a fresh one: the run takes the branch that recovers it
  have hfresh : ¬(p.phase = .other "" ∨ p.phase = .created) := by
    rcases hphase with hphase | hphase <;>
      · have hp : p.phase = _ := of_decide_eq_true hphase
        simp [hp]
  dsimp only
  rw [if_neg hfresh, ← hpid]
  refine Leads.weaken (fun q rows hs => (Stage.holds_also.1 hs).2) ?_
  refine Leads.bind (leads_recoverScenario (hpid ▸ hid) hinterrupted rfl) fun r => ?_
  refine Leads.of_fact (c := ∃ R, r = some R)
    (fun q rows hs => hs.claim.2.imp fun R hR => hR.1) ?_
  rintro ⟨R, rfl⟩
  refine Leads.pure fun q rows hs => ?_
  obtain ⟨hstored, R', hR', hrecovered, hclaim⟩ := hs.claim
  obtain rfl := Option.some.inj hR'
  exact Stage.holds_given.2 ⟨⟨hstored, hrecovered⟩, hs.late, hs.consistent, hclaim⟩

/-- **A scenario that had come to its end** is not run again. -/
theorem leads_executeScenario_finished (hid : scenario.scenarioRunId ≠ "") {bundle : Bundle}
    {bundleScenario : BundleScenario} {translated : TranslationResult}
    (htranslated : bundle.translateScenario bundleScenario = .ok translated)
    (hperm : (scenario.tests.map (·.name)).Perm (translated.tests.map (·.name))) {S : Stage}
    (hS : S = .ended stored ∨ S = .interrupted (translated.tests.map (·.name)) stored) :
    Leads scenario.scenarioRunId (translated.tests.map (·.name)) S
      (Execution.executeScenario h request bundle scenario bundleScenario) fun R =>
        (Stage.recovered (translated.tests.map (·.name)) stored R).given
          (Recovered (translated.tests.map (·.name)) stored R) := by
  rcases hS with rfl | rfl
  · refine Leads.bind (leads_startScenario_ended hperm) fun r => Leads.of_given ?_
    rintro ⟨R, rfl, hR⟩
    refine Leads.pure fun q rows hs =>
      Stage.holds_given.2 ⟨.inr hR, hs.late, hs.consistent, hs.claim.1, ?_⟩
    rw [hR.cleanupFailed, if_neg Bool.false_ne_true]
    exact hs.claim.2
  · refine Leads.bind (leads_startScenario interrupted_open) fun r => Leads.of_given fun hr => ?_
    subst hr
    refine Leads.bind (leads_runScenario_interrupted hid htranslated) fun R => Leads.of_given ?_
    rintro ⟨hstored, hR⟩
    have hR' := hR.attach scenario.id
    have hcleanup : (attachScenarioToDiagnostics R scenario.id).cleanupFailed = R.cleanupFailed := by
      unfold attachScenarioToDiagnostics
      dsimp only
      split_ifs <;> rfl
    refine (leads_reportScenario (T := .recovered (translated.tests.map (·.name)) stored
      (attachScenarioToDiagnostics R scenario.id)) (fun q rows hs => ?_) fun _ => rfl).mono
      fun R' q rows hs => ?_
    · obtain ⟨rfl, hclaim⟩ := hs.claim
      refine hR'.holds hstored hs.consistent.listed _ fun hfailed => ?_
      rw [if_pos (hcleanup ▸ hfailed)] at hclaim
      exact of_decide_eq_true (Bool.and_eq_true_iff.1 hclaim).2
    · obtain ⟨rfl, hs'⟩ := Stage.holds_given.1 hs
      exact Stage.holds_given.2 ⟨hR', hs'⟩

end Recovered

end TokyoTester
