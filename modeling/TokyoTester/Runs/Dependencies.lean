import TokyoTester.Bundle.Executable
import TokyoTester.Runs.Traces

set_option autoImplicit false

/-! # Dependencies between tests

`validateScenario` checks that the dependencies of the tests have no cycle, and that `testOrder` is a
permutation of the tests, but not that the two go together. The executor follows `testOrder` alone.
So a test may be started before one that it depends on, exactly when the order says so. -/

namespace TokyoTester

open Handler
open scoped List

/-! ## Lists -/

/-- A part of a filtered list ends before an element where a part of the list does. -/
theorem filter_split {α : Type} {p : α → Bool} {xs before after : List α} {x : α}
    (h : xs.filter p = before ++ x :: after) :
    ∃ before' after', xs = before' ++ x :: after' ∧ before'.filter p = before := by
  obtain ⟨left, right, rfl, hleft, hright⟩ := List.filter_eq_append_iff.1 h
  obtain ⟨gap, rest, rfl, hgap, -, -⟩ := List.filter_eq_cons_iff.1 hright
  refine ⟨left ++ gap, rest, by rw [List.append_assoc], ?_⟩
  rw [List.filter_append, hleft, List.filter_eq_nil_iff.2 (by simpa using hgap), List.append_nil]

/-- What comes before an element in a list without repetition. -/
theorem sublist_pair_iff {α : Type} {xs before after : List α} {x y : α} (hnodup : xs.Nodup)
    (hsplit : xs = before ++ x :: after) : [y, x] <+ xs ↔ y ∈ before := by
  subst hsplit
  constructor
  · intro h
    have hafter := (List.nodup_cons.1 (List.nodup_append.1 hnodup).2.1).1
    obtain ⟨left, right, heq, hleft, hright⟩ := List.sublist_append_iff.1 h
    cases left with
    | nil =>
        -- both would come from `x` on, and so `x` twice
        rw [List.nil_append] at heq
        subst heq
        have hrest : [x] <+ after := List.cons_sublist_cons'.1 hright |>.elim
          (fun h => (List.sublist_cons_self y [x]).trans h) (fun h => h.2)
        exact absurd (hrest.subset (List.mem_singleton_self x)) hafter
    | cons a left =>
        obtain ⟨rfl, -⟩ := List.cons.inj heq
        exact hleft.subset List.mem_cons_self
  · intro hy
    exact (List.singleton_sublist.2 hy).append
      (List.singleton_sublist.2 (List.mem_cons_self : x ∈ x :: after))

/-! ## Respecting dependencies -/

/-- A test has been executed, or restored from its checkpoint. -/
def Settled (tests : List ScenarioTestDefinition) (id : String) (events : List (Event Reply)) :
    Prop :=
  (∃ test, Started test events ∧ test.id = id) ∨
    ∃ t ∈ tests, t.id = id ∧ ∃ rows, Listed rows events ∧ t.name ∈ rows.map (·.testName)

/-- A test is started when what it depends on is settled. -/
def afterDependencies (tests : List ScenarioTestDefinition) (events : List (Event Reply)) :
    Op → Prop
  | .runTest test => ∀ t ∈ tests, t.id = test.id → ∀ dep ∈ t.dependsOnTestIds,
      Settled tests dep events
  | _ => True

/-- In every run of a scenario, each test is started when what it depends on is settled. -/
def DependenciesRespected (b : Bundle) (scenario : BundleScenario) : Prop :=
  ∀ (h : Handler) (request : Request) (run : RunScenario) (execution : ExecutionContext)
    (s s' : ThreadState) (events : List (Event Reply)) (rest : Task ScenarioResponse),
    scenarioSetting.Run s
      (h.runWorkflowBundleScenarioForRun (Execution.scenarioReporter request run) b scenario
        execution) events s' rest →
    Setting.Allowed (afterDependencies scenario.tests) events

/-- The order lists every test after those that it depends on. -/
def OrderedByDependencies (scenario : BundleScenario) : Prop :=
  ∀ t ∈ scenario.tests, ∀ dep ∈ t.dependsOnTestIds, [dep, t.id] <+ scenario.testOrder

instance (scenario : BundleScenario) : Decidable (OrderedByDependencies scenario) :=
  inferInstanceAs (Decidable (∀ t ∈ scenario.tests, ∀ dep ∈ t.dependsOnTestIds,
    [dep, t.id] <+ scenario.testOrder))

section Plan

variable {services requiredServices : List String} {scenario : BundleScenario}
  (hvalid : ScenarioValid services scenario)

include hvalid

theorem map_id_translateScenarioTests (requiredServices : List String) :
    (translateScenarioTests scenario requiredServices).map (·.id) = scenario.testOrder := by
  have hidentity := congrArg (List.map TestIdentity.id)
    (translateTests_identity requiredServices none (orderedTests scenario))
  rw [List.map_map, List.map_map] at hidentity
  exact hidentity.trans (orderedTests_spec hvalid).2

/-- A test of the plan is one of the scenario. -/
theorem exists_test_of_mem_plan {test : TestConfig}
    (h : test ∈ translateScenarioTests scenario requiredServices) :
    ∃ t ∈ scenario.tests, t.id = test.id ∧ t.name = test.name := by
  have hmem : test.identity ∈ (orderedTests scenario).map ScenarioTestDefinition.identity :=
    translateTests_identity requiredServices none (orderedTests scenario) ▸
      List.mem_map_of_mem h
  obtain ⟨t, ht, heq⟩ := List.mem_map.1 hmem
  exact ⟨t, (orderedTests_spec hvalid).1.mem_iff.1 ht, congrArg TestIdentity.id heq,
    congrArg TestIdentity.name heq⟩

/-- **An order by dependencies is enough.** -/
theorem permits_afterDependencies (hordered : OrderedByDependencies scenario) :
    Permits (afterDependencies scenario.tests)
      (translateScenarioTests scenario requiredServices) := by
  have hids := map_id_translateScenarioTests hvalid requiredServices
  refine ⟨?_, fun _ _ _ => trivial, ?_⟩
  · intro events op hop
    cases op with
    | runTest test => exact hop.elim
    | _ => exact trivial
  · intro events byName before test after hloaded hsplit hstarted t ht hid dep hdep
    obtain ⟨before', after', hplan, rfl⟩ := filter_split hsplit
    have horder : scenario.testOrder
        = before'.map (·.id) ++ test.id :: after'.map (·.id) := by
      rw [← hids, hplan, List.map_append, List.map_cons]
    -- the dependency is planned before the test
    have hmem := (sublist_pair_iff hvalid.order horder).1 (hid ▸ hordered t ht dep hdep)
    obtain ⟨u, hu, rfl⟩ := List.mem_map.1 hmem
    cases hstored : byName.lookup u.name with
    | none =>
        have hu' : u ∈ before'.filter fun t => (byName.lookup t.name).isNone :=
          List.mem_filter.2 ⟨hu, by rw [hstored]; rfl⟩
        exact .inl ⟨u, hstarted u hu', rfl⟩
    | some r =>
        have huplan : u ∈ translateScenarioTests scenario requiredServices :=
          hplan ▸ List.mem_append_left _ hu
        obtain ⟨v, hv, hvid, hvname⟩ := exists_test_of_mem_plan hvalid huplan
        rcases hloaded with ⟨rfl, -⟩ | ⟨rows, hrows, rfl⟩
        · cases hstored
        · obtain ⟨row, hrow, heq⟩ := List.mem_map.1 (lookup_mem hstored)
          refine .inr ⟨v, hv, hvid, rows, hrows, ?_⟩
          exact List.mem_map.2 ⟨row, List.mem_reverse.1 hrow,
            ((Prod.mk.inj heq).1).trans hvname.symm⟩

end Plan

theorem translateScenario_eq {b : Bundle} {scenario : BundleScenario}
    (h : validateScenario b.serviceGraph scenario 0 = .ok ()) :
    b.translateScenario scenario = .ok ⟨scenarioServices b scenario,
      translateScenarioTests scenario
        (expandScenarioServiceSubset b.serviceGraph scenario.tests)⟩ := by
  show (do
      validateScenario b.serviceGraph scenario 0
      Except.ok (TranslationResult.mk (scenarioServices b scenario) (translateScenarioTests scenario
        (expandScenarioServiceSubset b.serviceGraph scenario.tests)))) = _
  rw [h]
  rfl

theorem dependenciesRespected_of_ordered {b : Bundle} {scenario : BundleScenario}
    (hvalid : validateScenario b.serviceGraph scenario 0 = .ok ())
    (hordered : OrderedByDependencies scenario) : DependenciesRespected b scenario := by
  intro h request run execution s s' events rest hrun
  have hsafe := h.safe_runWorkflowBundleScenarioForRun (j := ⟨[], s⟩)
    (Execution.quiet_scenarioReporter request run) (translateScenario_eq hvalid)
    (permits_afterDependencies (validateScenario_ok hvalid) hordered) execution
  exact (Setting.Safe.allowed hrun hsafe Setting.allowed_nil).2

/-! ## A run in which nothing is restored -/

/-- A call of such a run. -/
def RestoresNothing (tests : List TestConfig) (event : Event Reply) : Prop :=
  event.1.quiet ∨ (∃ test ∈ tests, event.1 = .runTest test) ∨
    ∃ detached id, event = ⟨.store detached (.listTestResults id), .ok []⟩

/-- A program can run to this point, with a live context, without restoring anything. -/
def CanReach {α : Type} (tests : List TestConfig) (p q : Task α) : Prop :=
  ∀ s : ThreadState, s.context = .live → ∃ events s', scenarioSetting.Run s p events s' q ∧
    s'.context = .live ∧ ∀ event ∈ events, RestoresNothing tests event

section Reach

variable {α β : Type} {tests : List TestConfig} {p q : Task α}

theorem CanReach.bind {f : α → Task β} {r : Task β} {a : α} (h : CanReach tests p (.done a))
    (hf : CanReach tests (f a) r) : CanReach tests (p >>= f) r := by
  intro s hs
  obtain ⟨events, s', hrun, hs', hplain⟩ := h s hs
  obtain ⟨events', s'', hrun', hs'', hplain'⟩ := hf s' hs'
  refine ⟨events ++ events', s'', (Setting.Run.bind hrun).trans hrun', hs'', ?_⟩
  intro event hevent
  rcases List.mem_append.1 hevent with hevent | hevent
  · exact hplain event hevent
  · exact hplain' event hevent

theorem CanReach.left {f : α → Task β} (h : CanReach tests p q) :
    CanReach tests (p >>= f) (q >>= f) := by
  intro s hs
  obtain ⟨events, s', hrun, hs', hplain⟩ := h s hs
  exact ⟨events, s', Setting.Run.bind hrun, hs', hplain⟩

theorem CanReach.refl (p : Task α) : CanReach tests p p :=
  fun s hs => ⟨[], s, .stop s p, hs, by simp⟩

theorem handle_reply (op : Op) (a : Answer) (db : Database) (heartbeat : Option String) :
    (handle op a ⟨db, .live, heartbeat⟩).1 = (handle op a ⟨db, .live, none⟩).1 := by
  cases op with
  | store detached op => cases detached <;> rfl
  | _ => rfl

/-- One call, in a database that the others leave behind. -/
theorem CanReach.perform {op : Op} (db : Database) (a : Answer) {reply : Reply op}
    (hreply : (handle op a ⟨db, .live, none⟩).1 = reply) (hplain : RestoresNothing tests ⟨op, reply⟩) :
    CanReach tests (Program.perform op) (.done reply) := by
  intro s hs
  have hcall : scenarioSetting.Run ⟨db, .live, s.heartbeat⟩ (Program.perform op)
      [⟨op, (handle op a ⟨db, .live, s.heartbeat⟩).1⟩]
      (handle op a ⟨db, .live, s.heartbeat⟩).2
      (.done (handle op a ⟨db, .live, s.heartbeat⟩).1) :=
    .call a trivial (.stop _ _)
  rw [handle_reply, hreply] at hcall
  refine ⟨_, _, .others (fun hcancelled => absurd hs hcancelled) hcall, ?_, ?_⟩
  · exact handle_context op a ⟨db, .live, s.heartbeat⟩
  · intro event hevent
    rw [List.mem_singleton.1 hevent]
    exact hplain

/-- A quiet part ends somehow. -/
theorem Quiet.canReach (tests : List TestConfig) (hp : Quiet p) : ∃ a, CanReach tests p (.done a) := by
  induction p with
  | done a => exact ⟨a, .refl _⟩
  | call op next ih =>
      obtain ⟨a, ha⟩ := ih (handle op default ⟨{}, .live, none⟩).1 (hp.2 _)
      exact ⟨a, CanReach.bind (CanReach.perform {} default rfl (.inl hp.1)) ha⟩

/-- After a quiet part whose result does not matter. -/
theorem CanReach.quiet {f : α → Task β} {r : Task β} (hp : Quiet p)
    (hf : ∀ a, CanReach tests (f a) r) : CanReach tests (p >>= f) r := by
  obtain ⟨a, ha⟩ := hp.canReach tests
  exact ha.bind (hf a)

theorem CanReach.mono {tests' : List TestConfig} (h : CanReach tests p q) (hsub : tests ⊆ tests') :
    CanReach tests' p q := by
  intro s hs
  obtain ⟨events, s', hrun, hs', hplain⟩ := h s hs
  refine ⟨events, s', hrun, hs', fun event hevent => ?_⟩
  rcases hplain event hevent with hquiet | ⟨test, htest, heq⟩ | hlist
  · exact .inl hquiet
  · exact .inr (.inl ⟨test, hsub htest, heq⟩)
  · exact .inr (.inr hlist)

section Report

variable {report : Activity → Task Unit} (hreport : ∀ activity, Quiet (report activity))

include hreport

theorem canReach_executeTest_call (tests : List TestConfig) (test : TestConfig) :
    ∃ next, CanReach tests (executeTest report test) (.call (.runTest test) next) :=
  ⟨_, CanReach.quiet (hreport _) fun _ => .refl _⟩

theorem canReach_executeTest {test : TestConfig} (htest : test ∈ tests) :
    ∃ r, CanReach tests (executeTest report test) (.done r) := by
  refine ⟨_, CanReach.quiet (hreport _) fun _ => CanReach.bind
    (CanReach.perform {} { test := .notInterpolated default } rfl (.inr (.inl ⟨test, htest, rfl⟩)))
    (.refl _)⟩

/-- The tests before one in a plan can be executed. -/
theorem canReach_executeTests {onResult : TestConfig → Dto.TestResult → Task Unit}
    (honResult : ∀ test result, Quiet (onResult test result)) (before : List TestConfig)
    (test : TestConfig) (after : List TestConfig) :
    ∃ next, CanReach before (executeTests report onResult (before ++ test :: after))
      (.call (.runTest test) next) := by
  induction before with
  | nil =>
      obtain ⟨next, hnext⟩ := canReach_executeTest_call hreport [] test
      exact ⟨_, hnext.left⟩
  | cons u before ih =>
      obtain ⟨next, hnext⟩ := ih
      obtain ⟨r, hr⟩ := canReach_executeTest hreport (List.mem_cons_self : u ∈ u :: before)
      exact ⟨_, hr.bind (.quiet (honResult _ _) fun _ => .quiet (hreport _) fun _ =>
        (hnext.mono (List.subset_cons_self u before)).left)⟩

end Report

end Reach

/-! ## The whole scenario -/

/-- A session of a workflow that is there. -/
def plainSession : Session :=
  { (default : Session) with id := "session", workflowId := "workflow" }

/-- The database at the calls whose replies matter. -/
def plainDatabase : Database where
  workflows := [{ (default : Workflow) with id := "workflow" }]
  sessions := [plainSession]

def plainExecution : ExecutionContext := { workflowId := "workflow" }

theorem handle_upsertSession {session : Session} (hfits : session.fits = true)
    (hworkflow : session.workflowId = "workflow") :
    (handle (.store false (.upsertSession session)) {} ⟨plainDatabase, .live, none⟩).1 = .ok () := by
  have hwrite : ∃ db, plainDatabase.writeSession session = .ok db := by
    simp [Database.writeSession, hfits, Database.workflowExists, hworkflow, plainDatabase]
  obtain ⟨db, hdb⟩ := hwrite
  simp [handle, Context.cause?, StoreOp.call, StoreOp.run, hdb, Except.map, Fault.apply]

section Whole

variable {tests : List TestConfig} {report : Activity → Task Unit}

/-- The session of the run is created. -/
theorem canReach_buildPersistedSession (tests : List TestConfig)
    (services : List ServiceConfig) :
    ∃ p : Session, p.id = "session" ∧
      CanReach tests (Handler.buildPersistedSession {} "session" plainExecution services)
        (.done (some p, none)) := by
  refine ⟨Handler.newSession {} 0 "session" plainExecution
    ((Codec.slice ServiceConfig.codec).marshal services), rfl, ?_⟩
  refine CanReach.bind (CanReach.perform {} {} rfl (.inl trivial)) ?_
  have hresolve : CanReach tests (resolvePersistedSession "session" plainExecution)
      (.done none) := by
    rw [resolvePersistedSession, if_neg (by decide)]
    refine CanReach.bind (CanReach.perform {} {} rfl (.inl trivial)) ?_
    have hexecution : CanReach tests (resolveByExecution plainExecution) (.done none) := by
      rw [resolveByExecution, if_pos (.inl (by rfl))]
      exact .refl _
    show CanReach tests (resolveBySession plainExecution) (.done none)
    rw [resolveBySession, if_pos (by rfl)]
    exact hexecution
  have hfits : (Handler.newSession {} 0 "session" plainExecution "").fits = true := by
    decide +kernel
  refine hresolve.bind (CanReach.bind (CanReach.perform plainDatabase {}
    (handle_upsertSession hfits rfl) (.inl trivial)) (.refl _))

/-- An update of the session's row. -/
theorem canReach_updatePersistedSession {f : Time → Session → Session}
    (hfits : (f 0 plainSession).fits = true)
    (hworkflow : (f 0 plainSession).workflowId = "workflow") :
    CanReach tests (updatePersistedSession false "session" (timed f))
      (.done (.ok (some { f 0 plainSession with version := 1, updatedAt := 0 }))) := by
  have hread : (handle (.store false (.getSession "session")) {} ⟨plainDatabase, .live, none⟩).1
      = .ok plainSession := by
    decide +kernel
  rw [updatePersistedSession, if_neg (by decide), updateAttempts]
  refine CanReach.bind (CanReach.perform plainDatabase {} hread (.inl trivial)) ?_
  refine CanReach.bind (CanReach.bind (CanReach.perform {} {} rfl (.inl trivial)) (.refl _)) ?_
  refine CanReach.bind (CanReach.perform {} {} rfl (.inl trivial)) ?_
  exact CanReach.bind (CanReach.perform plainDatabase {} (handle_upsertSession hfits hworkflow)
    (.inl trivial)) (.refl _)

/-- The plan is stored. -/
theorem canReach_ensureTestPlan (plan : List TestConfig) :
    CanReach tests (Handler.ensureTestPlan {} "session" plan) (.done none) := by
  have hfits : Session.fits { plainSession with
      phase := .runningTests, heartbeatAt := some 0, leaseExpiresAt := some 0 } = true := by
    decide +kernel
  exact (canReach_updatePersistedSession hfits rfl).bind (.refl _)

variable (before after : List TestConfig) (test : TestConfig)
  (hreport : ∀ activity, Quiet (report activity))

include hreport

/-- Every test of a plan can be reached after those before it. -/
theorem canReach_runPlan (sessionId : String) (execution : ExecutionContext) {p : Session}
    (response : ScenarioResponse) :
    ∃ next, CanReach before (Handler.runPlan {} report sessionId execution (some p)
      (before ++ test :: after) response) (.call (.runTest test) next) := by
  have hremaining : remainingTests [] (before ++ test :: after) = before ++ test :: after :=
    List.filter_eq_self.2 fun _ _ => rfl
  have hlist : CanReach before (loadPersistedResults (some p)) (.done (.ok [])) :=
    CanReach.bind (CanReach.perform {} {} rfl (.inr (.inr ⟨_, _, rfl⟩))) (.refl _)
  obtain ⟨next, hnext⟩ := canReach_executeTests hreport
    (fun t r => Handler.quiet_recordResult {} (some p) (before ++ test :: after) t r) before test after
  have hexecute : ∃ next, CanReach before (executeWorkflowBundleTestsWithCallback report
      (Handler.recordResult {} (some p) (before ++ test :: after))
      (remainingTests [] (before ++ test :: after))) (.call (.runTest test) next) := by
    rw [hremaining]
    exact ⟨_, CanReach.bind (CanReach.perform {} {} rfl (.inl trivial)) hnext⟩
  obtain ⟨next, hnext⟩ := hexecute
  exact ⟨_, hlist.bind hnext.left⟩

theorem canReach_runWorkflowBundleScenarioForRun {b : Bundle} {scenario : BundleScenario}
    {translated : TranslationResult} (htranslated : b.translateScenario scenario = .ok translated)
    (hplan : translated.tests = before ++ test :: after) :
    ∃ next, CanReach before (Handler.runWorkflowBundleScenarioForRun {} report b scenario
      plainExecution) (.call (.runTest test) next) := by
  -- no ids are given, so no session is looked up and the plan starts at its first test
  have hnothing : resolvePersistedSession "" plainExecution = pure none := by
    rw [resolvePersistedSession, if_pos rfl, resolveBySession, if_pos (by rfl),
      resolveByExecution, if_pos (.inl (by rfl))]
  obtain ⟨p, hid, hbuilt⟩ := canReach_buildPersistedSession before translated.services
  have hprovision (response : ScenarioResponse) : ∃ next, CanReach before
      (Handler.provisionScenario {} report "session" plainExecution (some p) translated response)
      (.call (.runTest test) next) := by
    obtain ⟨next, hnext⟩ := canReach_runPlan before after test hreport "session" plainExecution
      (p := p) response
    rw [← hplan] at hnext
    have hensure : CanReach before (Handler.ensureTestPlan {} p.id translated.tests)
        (.done none) := hid ▸ canReach_ensureTestPlan translated.tests
    refine ⟨next, CanReach.bind (CanReach.perform {} {} rfl (.inl trivial)) ?_⟩
    refine CanReach.quiet (hreport _) fun _ => ?_
    refine CanReach.bind (CanReach.perform {} {} rfl (.inl trivial)) ?_
    refine CanReach.quiet (Program.Uses.forEach fun a _ => hreport a) fun _ => ?_
    refine CanReach.quiet (hreport _) fun _ => ?_
    refine CanReach.quiet (Handler.rowUpdate_persistProvisionedState {} _ _).quiet fun _ => ?_
    exact hensure.bind hnext
  have hbody (response : ScenarioResponse) : ∃ next, CanReach before
      (Handler.scenarioBody {} report "session" plainExecution translated response)
      (.call (.runTest test) next) := by
    obtain ⟨next, hnext⟩ := hprovision response
    exact ⟨_, hbuilt.bind (CanReach.bind (CanReach.perform {} {} rfl (.inl trivial)) hnext.left)⟩
  have hsession (response : ScenarioResponse) : ∃ next, CanReach before
      (Handler.runInSession {} report plainExecution translated response)
      (.call (.runTest test) next) := by
    obtain ⟨next, hnext⟩ := hbody { response with sessionId := "session" }
    exact ⟨_, CanReach.bind (CanReach.perform {} { id := "session" } rfl (.inl trivial)) hnext.left⟩
  rw [Handler.runWorkflowBundleScenarioForRun, htranslated]
  dsimp only
  rw [hnothing]
  exact hsession _

end Whole

/-- **Only an order by dependencies respects them.** -/
theorem ordered_of_dependenciesRespected {b : Bundle} {scenario : BundleScenario}
    (hvalid : validateScenario b.serviceGraph scenario 0 = .ok ())
    (h : DependenciesRespected b scenario) : OrderedByDependencies scenario := by
  intro t ht dep hdep
  have hscenario := validateScenario_ok hvalid
  have htranslated := translateScenario_eq hvalid
  generalize hplan : translateScenarioTests scenario
    (expandScenarioServiceSubset b.serviceGraph scenario.tests) = plan at htranslated
  have hids : plan.map (·.id) = scenario.testOrder :=
    hplan ▸ map_id_translateScenarioTests hscenario _
  -- the test is in the plan
  have hmem : t.id ∈ plan.map (·.id) := by
    rw [hids, ← (orderedTests_spec hscenario).2]
    exact List.mem_map_of_mem ((orderedTests_spec hscenario).1.mem_iff.2 ht)
  obtain ⟨test, htest, hid⟩ := List.mem_map.1 hmem
  obtain ⟨before, after, hsplit⟩ := List.append_of_mem htest
  have horder : scenario.testOrder = before.map (·.id) ++ t.id :: after.map (·.id) := by
    rw [← hids, hsplit, List.map_append, List.map_cons, hid]
  obtain ⟨next, hreach⟩ := canReach_runWorkflowBundleScenarioForRun before after test
    (Execution.quiet_scenarioReporter default default) htranslated hsplit
  obtain ⟨events, s', hrun, -, hplain⟩ := hreach ⟨{}, .live, none⟩ rfl
  have hstart := hrun.trans (.call default trivial (.stop _ _))
  have hallowed := h {} default default plainExecution _ _ _ _ hstart
  have hsettled : Settled scenario.tests dep events :=
    hallowed events _ [] rfl t ht hid.symm dep hdep
  rw [sublist_pair_iff hscenario.order horder]
  rcases hsettled with ⟨u, ⟨run, hu⟩, rfl⟩ | ⟨u, hu, rfl, rows, ⟨detached, id, hrows⟩, hname⟩
  · -- only the tests before it were executed
    rcases hplain _ hu with hquiet | ⟨v, hv, heq⟩ | ⟨detached, id, heq⟩
    · exact hquiet.elim
    · obtain rfl := Op.runTest.inj heq
      exact List.mem_map_of_mem hv
    · cases heq
  · -- and nothing was restored
    rcases hplain _ hrows with hquiet | ⟨v, hv, heq⟩ | ⟨detached', id', heq⟩
    · exact hquiet.elim
    · cases heq
    · cases heq
      simp at hname

/-- **Tests run after their dependencies exactly when `testOrder` lists them so.** -/
theorem dependencies_respected_iff (b : Bundle) (scenario : BundleScenario)
    (hvalid : validateScenario b.serviceGraph scenario 0 = .ok ()) :
    DependenciesRespected b scenario ↔ OrderedByDependencies scenario :=
  ⟨ordered_of_dependenciesRespected hvalid, dependenciesRespected_of_ordered hvalid⟩

/-- A scenario of two tests, the second one depending on the first. -/
def dependentScenario (testOrder : List String) : BundleScenario where
  name := "dependent"
  tests :=
    [{ id := "t1", name := "create", type := "delay", targetServices := ["api"]
       delayConfig := some { durationMs := 5 } },
      { id := "t2", name := "read", type := "delay", targetServices := ["api"]
        dependsOnTestIds := ["t1"], delayConfig := some { durationMs := 5 } }]
  testOrder := testOrder

theorem dependencies_respected_dependent :
    validateScenario shopBundle.serviceGraph (dependentScenario ["t1", "t2"]) 0 = .ok () ∧
      (DependenciesRespected shopBundle (dependentScenario ["t1", "t2"]) ↔
        OrderedByDependencies (dependentScenario ["t1", "t2"])) :=
  have hvalid : validateScenario shopBundle.serviceGraph (dependentScenario ["t1", "t2"]) 0
      = .ok () := by decide +kernel
  ⟨hvalid, dependencies_respected_iff shopBundle (dependentScenario ["t1", "t2"]) hvalid⟩

/-- The dependent test may come first. -/
theorem dependencies_not_respected :
    ¬∀ (b : Bundle) (scenario : BundleScenario),
      validateScenario b.serviceGraph scenario 0 = .ok () → DependenciesRespected b scenario := by
  intro hall
  have hvalid : validateScenario shopBundle.serviceGraph (dependentScenario ["t2", "t1"]) 0
      = .ok () := by decide +kernel
  have hordered := ordered_of_dependenciesRespected hvalid (hall _ _ hvalid)
  revert hordered
  decide +kernel

end TokyoTester
