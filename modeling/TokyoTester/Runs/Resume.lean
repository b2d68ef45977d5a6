import TokyoTester.Runs.Success
import TokyoTester.Runs.TestRequests

set_option autoImplicit false

/-! # Resuming in a new environment

A persisted session that had run some of its tests is resumed in an environment that is provisioned
anew: by `runWorkflowBundleScenarioForRun`, which runs the tests that have no stored result, and by
`RunTests`, which starts at the checkpoint. Only `RunTests` asks whether the tests are replay safe,
and only about those from the checkpoint on; with a checkpoint beyond its plan it starts again from
the first test. -/

namespace TokyoTester

open Program Handler

/-- The stored results could not be listed. -/
def ListFailed (events : List (Event Reply)) : Prop :=
  ∃ detached id e, ⟨.store detached (.listTestResults id), .error e⟩ ∈ events

/-- Every test that was started is replay safe. -/
def ReplaySafe (events : List (Event Reply)) : Prop :=
  ∀ test, Started test events → test.replaySafe = true

/-- The tests of a plan that have no stored result are replay safe. -/
def UnstoredSafe (tests : List TestConfig) (events : List (Event Reply)) : Prop :=
  ∀ rows, Listed rows events → ∀ test ∈ tests, (∀ row ∈ rows, row.testName ≠ test.name) →
    test.replaySafe = true

/-! ## A recovered job -/

/-- A scenario starts tests of its plan that have no stored result. -/
def withoutResult (tests : List TestConfig) (events : List (Event Reply)) : Op → Prop
  | .runTest test => test ∈ tests ∧ ∃ byName, Loaded byName events ∧ byName.lookup test.name = none
  | _ => True

theorem permits_withoutResult (tests : List TestConfig) : Permits (withoutResult tests) tests := by
  refine ⟨?_, fun _ _ _ => trivial, ?_⟩
  · intro events op hop
    cases op with
    | runTest test => exact hop.elim
    | _ => exact trivial
  · intro events byName before test after hloaded hsplit _
    have hmem : test ∈ remainingTests byName tests :=
      hsplit ▸ List.mem_append_right _ List.mem_cons_self
    obtain ⟨htest, hnone⟩ := List.mem_filter.1 hmem
    exact ⟨htest, byName, hloaded, by simpa using hnone⟩

/-- A name that is not found among the rows by name. -/
theorem lookup_rows_eq_none {rows : List TestResult} {name : String}
    (h : (rows.reverse.map fun row => (row.testName, restoreResult row)).lookup name = none) :
    ∀ row ∈ rows, row.testName ≠ name := by
  intro row hrow heq
  have hentry := List.lookup_eq_none_iff.1 h (row.testName, restoreResult row)
    (List.mem_map.2 ⟨row, List.mem_reverse.2 hrow, rfl⟩)
  simp [heq] at hentry

theorem Loaded.subset {byName : List (String × Dto.TestResult)}
    {events events' : List (Event Reply)} (h : Loaded byName events)
    (hnamed : ¬NamelessRead events') (hsub : events ⊆ events') :
    ∃ rows, Listed rows events' ∧
      byName = rows.reverse.map fun row => (row.testName, restoreResult row) := by
  rcases h with ⟨-, event, hevent, hread⟩ | ⟨rows, ⟨detached, id, hrows⟩, heq⟩
  · exact absurd ⟨event, hsub hevent, hread⟩ hnamed
  · exact ⟨rows, ⟨detached, id, hsub hrows⟩, heq⟩

theorem replaySafe_of_allowed {tests : List TestConfig} {events : List (Event Reply)}
    (h : Setting.Allowed (withoutResult tests) events) (hnamed : ¬NamelessRead events)
    (hsafe : UnstoredSafe tests events) : ReplaySafe events := by
  rintro test ⟨run, hrun⟩
  obtain ⟨before, after, heq⟩ := List.append_of_mem hrun
  obtain ⟨htest, byName, hloaded, hnone⟩ := h before _ after heq
  obtain ⟨rows, hrows, rfl⟩ := hloaded.subset hnamed (heq ▸ List.subset_append_left _ _)
  exact hsafe rows hrows test htest (lookup_rows_eq_none hnone)

/-! ## A recovered session -/

/-- The calls of a request after a session was recovered from this row. -/
def ResumedRequest (h : Handler) (sessionId : String) (request : RunTestRequest)
    (persisted : Session) (events : List (Event Reply)) : Prop :=
  ∃ s₀ before s, scenarioSetting.Run s₀
      (h.getOrRecoverSession none sessionId request.executionContext) before s
      (.done (.session (some persisted))) ∧
    ∃ s' rest, scenarioSetting.Run s (h.runTestsOn request (some persisted)) events s' rest

/-- These calls end a run of `RunTests` on a session that is not in memory. -/
theorem ResumedRequest.runTests {h : Handler} {sessionId : String} {request : RunTestRequest}
    {persisted : Session} {events : List (Event Reply)}
    (hvalid : request.validate = true)
    (hpolicies : request.tests.forM TestDto.validateRetryPolicy = .ok ())
    (hresumed : ResumedRequest h sessionId request persisted events) :
    ∃ s before s' rest, scenarioSetting.Run s (h.runTests true none sessionId request)
      (before ++ events) s' rest := by
  obtain ⟨s₀, before, s, hrecover, s', rest, hrun⟩ := hresumed
  refine ⟨s₀, before, s', rest, ?_⟩
  have hbind : scenarioSetting.Run s₀ (h.getOrRecoverSession none sessionId
      request.executionContext >>= h.runTestsOnFound request) (before ++ events) s' rest :=
    (Setting.Run.bind hrecover).trans hrun
  simpa [Handler.runTests, hvalid, hpolicies] using hbind

/-- A request starts tests from its first index on, after the check for an unsafe resume. -/
def fromStart (tests : List TestConfig) (checkpointIndex : Int) (events : List (Event Reply)) :
    Op → Prop
  | .runTest test =>
    test ∈ tests.drop (startIndex checkpointIndex tests) ∧
      rejectUnsafeResume tests checkpointIndex = .ok () ∧
      (ListFailed events ∨ ∃ byName, Stored byName events ∧ byName.lookup test.name = none)
  | _ => True

/-- What `rejectUnsafeResume` lets through. -/
theorem rejectUnsafeResume_ok {tests : List TestConfig} {checkpointIndex : Int}
    (h : rejectUnsafeResume tests checkpointIndex = .ok ()) (hindex : 0 < checkpointIndex) :
    ∀ test ∈ tests.drop checkpointIndex.toNat, test.replaySafe = true := by
  rw [rejectUnsafeResume, if_neg (by omega)] at h
  cases hfind : (tests.drop checkpointIndex.toNat).find? fun t => !t.replaySafe with
  | some t => rw [hfind] at h; cases h
  | none =>
      intro test htest
      simpa using List.find?_eq_none.1 hfind test htest

/-- With a checkpoint inside its plan a request is safe; with one beyond it, the tests without a
    stored result have to be. -/
def RequestSafe (tests : List TestConfig) (checkpointIndex : Int) (events : List (Event Reply)) :
    Prop :=
  checkpointIndex < tests.length ∨
    UnstoredSafe tests events ∧ (ListFailed events → ∀ test ∈ tests, test.replaySafe = true)

theorem replaySafe_of_fromStart {tests : List TestConfig} {checkpointIndex : Int}
    {events : List (Event Reply)} (h : Setting.Allowed (fromStart tests checkpointIndex) events)
    (hindex : 0 < checkpointIndex) (hsafe : RequestSafe tests checkpointIndex events) :
    ReplaySafe events := by
  rintro test ⟨run, hrun⟩
  obtain ⟨before, after, heq⟩ := List.append_of_mem hrun
  obtain ⟨htest, hchecked, hfound⟩ := h before _ after heq
  rcases hsafe with hinside | ⟨hunstored, hunlisted⟩
  · rw [startIndex, if_pos ⟨hindex, hinside⟩] at htest
    exact rejectUnsafeResume_ok hchecked hindex test htest
  · have hsub : before ⊆ events := heq ▸ List.subset_append_left _ _
    rcases hfound with ⟨detached, id, e, hfailed⟩ |
      ⟨byName, ⟨rows, ⟨detached, id, hrows⟩, rfl⟩, hnone⟩
    · exact hunlisted ⟨detached, id, e, hsub hfailed⟩ test (List.mem_of_mem_drop htest)
    · exact hunstored rows ⟨detached, id, hsub hrows⟩ test (List.mem_of_mem_drop htest)
        (lookup_rows_eq_none hnone)

namespace Handler

variable (h : Handler) {may : List (Event Reply) → Op → Prop} {j : RunJournal}

theorem quiet_storeProgress (persisted : Session) (index : Nat) (results : List Dto.TestResult)
    (result : Dto.TestResult) : Quiet (h.storeProgress persisted index results result) := by
  refine Uses.bind (quiet_persistTestResult persisted result) fun _ => ?_
  split_ifs
  · exact (h.rowUpdate_persistCheckpoint _ _ _ _ _ _).quiet
  · exact (h.rowUpdate_persistCheckpoint _ _ _ _ _ _).quiet

theorem quiet_finishTests (persisted : Option Session) (tests : List TestConfig)
    (results : List Dto.TestResult) : Quiet (h.finishTests persisted tests results) := by
  cases persisted with
  | none => exact Uses.pure _
  | some p =>
      exact Uses.bind (h.rowUpdate_persistCheckpoint _ _ _ _ _ _).quiet
        fun _ => (rowUpdate_releaseSessionLease _ _).quiet

section Loop

variable (hquiet : ∀ events op, op.quiet → may events op)

include hquiet

/-- The loop starts the tests that have no stored result. -/
theorem safe_runTestLoop {inv : RunJournal → Prop} (hstable : Stable inv) {scenarioId : String}
    {persisted : Option Session} {byName : List (String × Dto.TestResult)} {tests : List TestConfig}
    (hmay : ∀ test ∈ tests, byName.lookup test.name = none →
      ∀ j, inv j → may j.events (.runTest test))
    (index : Nat) (results : List Dto.TestResult) (hinv : inv j) :
    ScenarioSafe may (fun _ => inv)
      (h.runTestLoop scenarioId persisted byName index tests results) j := by
  induction tests generalizing index results j with
  | nil => exact ScenarioSafe.pure hstable hinv
  | cons test rest ih =>
      have hnext (results : List Dto.TestResult) {j : RunJournal} (hj : inv j) :
          ScenarioSafe may (fun _ => inv)
            (h.runTestLoop scenarioId persisted byName (index + 1) rest results) j :=
        ih (fun t ht => hmay t (List.mem_cons_of_mem _ ht)) (index + 1) results hj
      rw [runTestLoop]
      split_ifs with hstored
      · exact hnext results hinv
      · have hcall : ScenarioSafe may (fun _ => inv) (Program.perform (Op.runTest test)) j :=
          ScenarioSafe.perform (fun _ => hstable) fun j' hlater a =>
            have hj := hstable hlater hinv
            ⟨hmay test List.mem_cons_self (Option.not_isSome_iff_eq_none.1 hstored) j' hj,
              hstable (later_append _ _) hj⟩
        refine ScenarioSafe.bind hcall fun run j hj => ?_
        cases persisted with
        | none => exact hnext _ hj
        | some p =>
            exact ScenarioSafe.bind (Quiet.safe hquiet (h.quiet_storeProgress _ _ _ _) hstable hj)
              fun _ j hj => hnext _ hj

end Loop

/-- The stored results are listed, or that fails. -/
theorem safe_listResults
    (hlist : ∀ events detached id, may events (.store detached (.listTestResults id)))
    (persisted : Session) :
    ScenarioSafe may
      (fun loaded j => (∀ byName, loaded = .ok byName → Stored byName j.events) ∧
        ∀ e, loaded = .error e → ListFailed j.events)
      (loadPersistedResults (some persisted)) j := by
  have hfailed : Stable fun j => ListFailed j.events :=
    fun _ _ hlater ⟨detached, id, e, h⟩ => ⟨detached, id, e, hlater.events.subset h⟩
  have hpost (loaded : Except String (List (String × Dto.TestResult))) : Stable fun j =>
      (∀ byName, loaded = .ok byName → Stored byName j.events) ∧
        ∀ e, loaded = .error e → ListFailed j.events :=
    (Stable.forall fun byName => (stable_stored byName).imp_const).and
      (Stable.forall fun _ => hfailed.imp_const)
  have hcall : ScenarioSafe may
      (fun reply j => (∀ rows, reply = .ok rows → Listed rows j.events) ∧
        ∀ e, reply = .error e → ListFailed j.events)
      (Task.store false (.listTestResults persisted.id)) j := by
    refine ScenarioSafe.perform (fun _ => (Stable.forall fun rows =>
      (stable_listed rows).imp_const).and (Stable.forall fun _ => hfailed.imp_const))
      fun j' hlater a => ⟨hlist _ _ _, ?_, ?_⟩
    · intro rows hrows
      exact ⟨_, _, List.mem_append_right _ (List.mem_singleton.2 (by rw [← hrows]))⟩
    · intro e he
      exact ⟨_, _, e, List.mem_append_right _ (List.mem_singleton.2 (by rw [← he]))⟩
  refine ScenarioSafe.bind hcall fun reply j hreply => ?_
  cases reply with
  | error e => exact ScenarioSafe.pure (hpost _) ⟨by simp, fun _ _ => hreply.2 e rfl⟩
  | ok rows =>
      refine ScenarioSafe.pure (hpost _) ⟨?_, by simp⟩
      rintro byName heq
      exact ⟨rows, hreply.1 rows rfl, (Except.ok.inj heq).symm⟩

theorem quiet_fromStart (tests : List TestConfig) (checkpointIndex : Int)
    (events : List (Event Reply)) (op : Op) (hop : op.quiet) :
    fromStart tests checkpointIndex events op := by
  cases op with
  | runTest test => exact hop.elim
  | _ => exact trivial

theorem safe_runTestsFrom (request : RunTestRequest) {p : Session} {tests : List TestConfig}
    (hchecked : rejectUnsafeResume tests p.checkpointIndex = .ok ()) :
    ScenarioSafe (fromStart tests p.checkpointIndex) (fun _ _ => True)
      (h.runTestsFrom request (some p) tests) j := by
  have hquiet := quiet_fromStart tests p.checkpointIndex
  have hend (byName : List (String × Dto.TestResult)) {inv : RunJournal → Prop}
      (hstable : Stable inv) {j : RunJournal} (hj : inv j)
      (hfound : ∀ name, byName.lookup name = none → ∀ j, inv j → ListFailed j.events ∨
        ∃ byName, Stored byName j.events ∧ byName.lookup name = none) :
      ScenarioSafe (fromStart tests p.checkpointIndex) (fun _ _ => True) (do
        let results ← h.runTestLoop request.executionContext.scenarioId (some p) byName
          (startIndex p.checkpointIndex tests) (tests.drop (startIndex p.checkpointIndex tests))
          (orderedResults byName tests)
        h.finishTests (some p) tests results
        pure (RunTestsResponse.results results (requestSummary request results))) j := by
    refine ScenarioSafe.bind (h.safe_runTestLoop hquiet hstable
      (fun test htest hnone j hj => ⟨htest, hchecked, hfound _ hnone j hj⟩) _ _ hj)
      fun results j _ => ?_
    refine ScenarioSafe.bind (Quiet.safe hquiet (h.quiet_finishTests _ _ _) stable_true trivial)
      fun _ j _ => ?_
    exact ScenarioSafe.pure stable_true trivial
  refine ScenarioSafe.bind (safe_listResults (fun _ _ _ => trivial) p) fun loaded j hloaded => ?_
  cases loaded with
  | error e =>
      refine hend [] ?_ (hloaded.2 e rfl) fun _ _ _ hj => .inl hj
      exact fun _ _ hlater ⟨detached, id, e, h⟩ => ⟨detached, id, e, hlater.events.subset h⟩
  | ok byName =>
      exact hend byName (stable_stored byName) (hloaded.1 byName rfl)
        fun _ hnone _ hj => .inr ⟨byName, hj, hnone⟩

/-- **A request on a row**: tests are started only after the check, and from the start index on. -/
theorem safe_runTestsOn (request : RunTestRequest) {p : Session} {tests : List TestConfig}
    (hplan : mergePersistedPlan request.toConfigList p.testPlan = some tests) :
    ScenarioSafe (fromStart tests p.checkpointIndex) (fun _ _ => True)
      (h.runTestsOn request (some p)) j := by
  rw [runTestsOn, hplan]
  refine ScenarioSafe.bind (Quiet.safe (quiet_fromStart _ _) (h.rowUpdate_ensureTestPlan _ _).quiet
    stable_true trivial) fun _ j _ => ?_
  cases hchecked : rejectUnsafeResume tests p.checkpointIndex with
  | error e => exact ScenarioSafe.pure stable_true trivial
  | ok _ => exact h.safe_runTestsFrom request hchecked

end Handler

/-- **After a resume only replay-safe tests are executed** in every run in which the tests without
    a stored result are replay safe; a request whose checkpoint is inside its plan needs no
    condition. -/
theorem resume_replay_safe (h : Handler) (events : List (Event Reply)) :
    (∀ (request : Request) (run : RunScenario) (b : Bundle) (scenario : BundleScenario)
      (translated : TranslationResult) (execution : ExecutionContext) (s s' : ThreadState)
      (rest : Task ScenarioResponse) (previous : Session),
      b.translateScenario scenario = .ok translated →
      scenarioSetting.Run s (h.runWorkflowBundleScenarioForRun
        (Execution.scenarioReporter request run) b scenario execution) events s' rest →
      Resumed previous events → 0 < previous.checkpointIndex →
      ¬NamelessRead events → UnstoredSafe translated.tests events → ReplaySafe events) ∧
    ∀ (sessionId : String) (request : RunTestRequest) (persisted : Session),
      ResumedRequest h sessionId request persisted events → 0 < persisted.checkpointIndex →
      (∀ tests, mergePersistedPlan request.toConfigList persisted.testPlan = some tests →
        RequestSafe tests persisted.checkpointIndex events) →
      ReplaySafe events := by
  constructor
  · intro request run b scenario translated execution s s' rest previous htranslated hrun _ _
      hnamed hsafe
    have hscenario := h.safe_runWorkflowBundleScenarioForRun (j := ⟨[], s⟩)
      (Execution.quiet_scenarioReporter request run) htranslated
      (permits_withoutResult translated.tests) execution
    exact replaySafe_of_allowed (Setting.Safe.allowed hrun hscenario Setting.allowed_nil).2 hnamed
      hsafe
  · rintro sessionId request persisted ⟨-, -, s, -, s', rest, hrun⟩ hindex hsafe
    cases hplan : mergePersistedPlan request.toConfigList persisted.testPlan with
    | none =>
        rw [runTestsOn, hplan] at hrun
        obtain ⟨rfl, -⟩ := hrun.of_done
        rintro test ⟨run, hmem⟩
        cases hmem
    | some tests =>
        have hrequest := h.safe_runTestsOn (j := ⟨[], s⟩) request hplan
        exact replaySafe_of_fromStart (Setting.Safe.allowed hrun hrequest Setting.allowed_nil).2
          hindex (hsafe tests hplan)

/-! ## A job that was interrupted after its first test -/

/-- Whether the resources of a row that was read, with a test executed, are removed. -/
def resumes : List Session → List (Event Reply) → Bool
  | _, [] => false
  | reads, ⟨.store _ (.getSession _), .ok row⟩ :: rest => resumes (row :: reads) rest
  | reads, ⟨.cleanResources id, _⟩ :: rest =>
    (reads.any fun row => row.id = id && 0 < row.checkpointIndex) || resumes reads rest
  | reads, _ :: rest => resumes reads rest

theorem exists_resumed {reads : List Session} (before : List (Event Reply))
    {events : List (Event Reply)} (hreads : ∀ row ∈ reads, SessionRead row before)
    (h : resumes reads events = true) :
    ∃ previous, Resumed previous (before ++ events) ∧ 0 < previous.checkpointIndex := by
  have hlater {row : Session} {before : List (Event Reply)} (event : Event Reply)
      (hread : SessionRead row before) : SessionRead row (before ++ [event]) :=
    hread.imp (fun ⟨detached, id, h⟩ => ⟨detached, id, List.mem_append_left _ h⟩)
      fun ⟨detached, run, scenario, h⟩ => ⟨detached, run, scenario, List.mem_append_left _ h⟩
  fun_induction resumes reads events generalizing before with
  | case1 => cases h
  | case2 reads detached id row rest ih =>
      rw [List.append_cons]
      refine ih _ ?_ h
      intro row' hrow'
      rcases List.mem_cons.1 hrow' with rfl | hrow'
      · exact .inl ⟨detached, id, List.mem_append_right _ (List.mem_singleton_self _)⟩
      · exact hlater _ (hreads row' hrow')
  | case3 reads id reply rest ih =>
      rcases Bool.or_eq_true_iff.1 h with hany | hrest
      · obtain ⟨row, hrow, hboth⟩ := List.any_eq_true.1 hany
        simp only [Bool.and_eq_true, decide_eq_true_eq] at hboth
        obtain ⟨rfl, hindex⟩ := hboth
        exact ⟨row, ⟨before, reply, rest, rfl, hreads row hrow⟩, hindex⟩
      · rw [List.append_cons]
        exact ih _ (fun row hrow => hlater _ (hreads row hrow)) hrest
  | case4 reads event rest _ _ ih =>
      rw [List.append_cons]
      exact ih _ (fun row hrow => hlater _ (hreads row hrow)) h

/-- A scenario whose second test runs a command. -/
def smokeScenario : BundleScenario where
  name := "smoke"
  tests :=
    [{ id := "t1", name := "list", type := "shell", targetServices := ["api"]
       shellConfig := some { command := "ls" } },
      { id := "t2", name := "pause", type := "delay", targetServices := ["api"]
        delayConfig := some { durationMs := 5 } }]
  testOrder := ["t2", "t1"]

def smokeRun : Task ScenarioResponse :=
  runWorkflowBundleScenarioForRun {} (Execution.scenarioReporter default default) shopBundle
    smokeScenario dependentExecution

/-- The runner crashes when the result of the first test is stored. -/
def afterFirstTest (run : Task ScenarioResponse) : ThreadState :=
  ((Program.follow handle (passingAnswers none 36) beforeRun run).map Prod.snd).getD beforeRun

/-- Whether a test that is not replay safe is started. -/
def startsUnsafe (events : List (Event Reply)) : Bool :=
  events.any fun event =>
    match event.1 with
    | .runTest test => !test.replaySafe
    | _ => false

theorem startsUnsafe_eq_false_iff {events : List (Event Reply)} :
    startsUnsafe events = false ↔ ReplaySafe events := by
  rw [startsUnsafe, List.any_eq_false]
  constructor
  · rintro h test ⟨run, hrun⟩
    simpa using h _ hrun
  · rintro h ⟨op, reply⟩ hevent
    cases op with
    | runTest test => simpa using h test ⟨reply, hevent⟩
    | _ => simp

/-- A request with two pauses. -/
def pausesRequest : RunTestRequest where
  tests :=
    [{ name := "pause", type := "delay", config := some .empty },
      { name := "wait", type := "delay", config := some .empty }]

/-- The row of a recovered session. -/
def recoveredRow : RecoveredSession → Option Session
  | .session persisted => persisted
  | _ => none

theorem eq_of_recoveredRow {recovered : RecoveredSession} {persisted : Session}
    (h : recoveredRow recovered = some persisted) : recovered = .session (some persisted) := by
  cases recovered with
  | session p => rw [← h]; rfl
  | failed message => cases h
  | crashed => cases h

/-- A recovered job and a recovered session, with pauses only. -/
theorem resume_replay_safe_pauses :
    (∃ previous, Resumed previous (dependentRun.events handle (passingAnswers none 80)
        (afterFirstTest dependentRun)) ∧
      ReplaySafe (dependentRun.events handle (passingAnswers none 80)
        (afterFirstTest dependentRun))) ∧
    ∃ persisted events, ResumedRequest {} "session" pausesRequest persisted events ∧
      0 < persisted.checkpointIndex ∧ ReplaySafe events := by
  constructor
  · have hvalid : validateScenario shopBundle.serviceGraph (dependentScenario ["t1", "t2"]) 0
        = .ok () := by decide +kernel
    have hruns : (dependentRun.run handle (passingAnswers none 80)
        (afterFirstTest dependentRun)).isSome = true := by decide +kernel
    have hresumes : resumes [] (dependentRun.events handle (passingAnswers none 80)
        (afterFirstTest dependentRun)) = true := by decide +kernel
    have hnamed : (dependentRun.events handle (passingAnswers none 80)
        (afterFirstTest dependentRun)).all
          (fun event => (readRow event).all fun row => row.id ≠ "") = true := by decide +kernel
    have hpauses : (translateScenarioTests (dependentScenario ["t1", "t2"])
        (expandScenarioServiceSubset shopBundle.serviceGraph
          (dependentScenario ["t1", "t2"]).tests)).all (·.replaySafe) = true := by decide +kernel
    -- a scenario that resumes after its first test
    obtain ⟨⟨response, s'⟩, hr⟩ := Option.isSome_iff_exists.1 hruns
    obtain ⟨previous, hresumed, hindex⟩ := exists_resumed [] (by simp) hresumes
    refine ⟨previous, hresumed, (resume_replay_safe {} _).1 default default shopBundle
      (dependentScenario ["t1", "t2"]) _ dependentExecution _ _ _ previous
      (translateScenario_eq hvalid)
      (Setting.Run.of_run (S := scenarioSetting) (fun _ _ _ => trivial) hr) hresumed hindex ?_ ?_⟩
    · rintro ⟨event, hevent, row, hrow, hid⟩
      have := List.all_eq_true.1 hnamed event hevent
      simp [hrow, hid] at this
    · intro rows _ test htest _
      exact List.all_eq_true.1 hpauses test htest
  · have hruns : ((({} : Handler).getOrRecoverSession none "session" {}).run handle
        (passingAnswers none 40) ⟨(afterFirstTest dependentRun).db, .live, none⟩).bind (fun r =>
          (recoveredRow r.1).bind fun persisted =>
            ((({} : Handler).runTestsOn pausesRequest (some persisted)).run handle
              (passingAnswers none 80) r.2).map fun _ => persisted.checkpointIndex) = some 1 := by
      decide +kernel
    -- a session that is recovered, and the request that goes on with its plan
    obtain ⟨⟨recovered, s⟩, hrecover, hruns⟩ := Option.bind_eq_some_iff.1 hruns
    obtain ⟨persisted, hrow, hruns⟩ := Option.bind_eq_some_iff.1 hruns
    obtain ⟨⟨response, s'⟩, hr, hindex⟩ := Option.map_eq_some_iff.1 hruns
    obtain rfl := eq_of_recoveredRow hrow
    have hresumed : ResumedRequest {} "session" pausesRequest persisted _ :=
      ⟨_, _, s, Setting.Run.of_run (S := scenarioSetting) (fun _ _ _ => trivial) hrecover, s', _,
        Setting.Run.of_run (S := scenarioSetting) (fun _ _ _ => trivial) hr⟩
    have hpositive : 0 < persisted.checkpointIndex := by
      rw [hindex]
      decide
    refine ⟨persisted, _, hresumed, hpositive,
      (resume_replay_safe {} _).2 "session" pausesRequest persisted hresumed hpositive ?_⟩
    intro tests htests
    obtain rfl := Option.some.inj htests
    exact .inl (by rw [hindex]; decide)

/-- The command is run again in the new environment. -/
theorem resume_not_replay_safe :
    ¬∀ (h : Handler) (request : Request) (run : RunScenario) (b : Bundle)
      (scenario : BundleScenario) (translated : TranslationResult) (execution : ExecutionContext)
      (s s' : ThreadState) (events : List (Event Reply)) (rest : Task ScenarioResponse)
      (previous : Session),
      b.translateScenario scenario = .ok translated →
      scenarioSetting.Run s (h.runWorkflowBundleScenarioForRun
        (Execution.scenarioReporter request run) b scenario execution) events s' rest →
      Resumed previous events → 0 < previous.checkpointIndex → ReplaySafe events := by
  intro hall
  have hvalid : validateScenario shopBundle.serviceGraph smokeScenario 0 = .ok () := by
    decide +kernel
  have hruns : (smokeRun.run handle (passingAnswers none 80) (afterFirstTest smokeRun)).isSome
      = true := by decide +kernel
  have hresumes : resumes [] (smokeRun.events handle (passingAnswers none 80)
      (afterFirstTest smokeRun)) = true := by decide +kernel
  have hstarts : startsUnsafe (smokeRun.events handle (passingAnswers none 80)
      (afterFirstTest smokeRun)) = true := by decide +kernel
  obtain ⟨⟨response, s'⟩, hr⟩ := Option.isSome_iff_exists.1 hruns
  obtain ⟨previous, hresumed, hindex⟩ := exists_resumed [] (by simp) hresumes
  have hsafe := hall {} default default shopBundle smokeScenario _ dependentExecution _ _ _ _
    previous (translateScenario_eq hvalid)
    (Setting.Run.of_run (S := scenarioSetting) (fun _ _ _ => trivial) hr) hresumed hindex
  exact Bool.noConfusion (hstarts.symm.trans (startsUnsafe_eq_false_iff.2 hsafe))

end TokyoTester
