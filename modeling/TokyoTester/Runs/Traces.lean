import TokyoTester.Library.Journal
import TokyoTester.Runs.Execution

set_option autoImplicit false

/-! # The calls of a scenario

What a run of a scenario says about its tests is read off the journal of its calls: which tests it
started, and which stored results it listed before. Every other call is `quiet`. Only `runPlan`
starts tests, and between its quiet parts it lists the results and runs the tests that have none. -/

namespace TokyoTester

/-- A call that neither starts a test nor lists the stored results. -/
def Op.quiet : Op → Prop
  | .runTest _ => False
  | .store _ (.listTestResults _) => False
  | _ => True

/-- A program all of whose calls are quiet. -/
abbrev Quiet {α : Type} (p : Task α) : Prop := p.Uses Op.quiet

/-- A quiet call that touches no row of a session but its log. -/
def Op.external : Op → Prop
  | .runTest _ => False
  | .store _ (.appendWorkflowLogEvent _ _ _ _ _) => True
  | .store _ (.appendWorkflowRunEvent _ _ _ _) => True
  | .store _ _ => False
  | _ => True

/-- A program of such calls. -/
abbrev External {α : Type} (p : Task α) : Prop := p.Uses Op.external

theorem External.quiet {α : Type} {p : Task α} (hp : External p) : Quiet p :=
  hp.mono fun op hop => by
    cases op with
    | runTest test => exact hop.elim
    | store detached op =>
        cases op with
        | listTestResults id => exact hop.elim
        | _ => trivial
    | _ => trivial

/-- A call of an update of a session's row. -/
def Op.updatesRow : Op → Prop
  | .store _ (.getSession _) => True
  | .store _ (.upsertSession _) => True
  | .now => True
  | _ => False

/-- A program that does no more than to update session rows. -/
abbrev RowUpdate {α : Type} (p : Task α) : Prop := p.Uses Op.updatesRow

theorem RowUpdate.quiet {α : Type} {p : Task α} (hp : RowUpdate p) : Quiet p :=
  hp.mono fun op hop => by
    cases op with
    | runTest test => exact hop.elim
    | store detached op =>
        cases op with
        | listTestResults id => exact hop.elim
        | _ => trivial
    | _ => trivial

/-- The setting of a scenario's run: the others may change the database between its calls, and
    cancel its context, which then stays cancelled. -/
def scenarioSetting : Setting Op Reply ThreadState Answer where
  handle := handle
  rely s s' := s.context ≠ .live → s'.context = s.context
  guard _ _ _ := True
  guar _ _ := True
  rely_refl _ _ := rfl
  rely_trans h h' hs := (h' (h hs ▸ hs)).trans (h hs)

/-! ## Quiet parts -/

open Program

namespace Handler

variable (h : Handler) {report : Activity → Task Unit}

theorem rowUpdate_updateAttempts (detached : Bool) (sessionId : String)
    {mutate : Session → Task (Except String Session)} (hmutate : ∀ s, RowUpdate (mutate s))
    (attempts : Nat) : RowUpdate (updateAttempts detached sessionId mutate attempts) := by
  induction attempts with
  | zero => exact Uses.pure _
  | succ attempts ih =>
      refine Uses.bind (Uses.perform trivial) fun read => ?_
      cases read with
      | error e => exact Uses.pure _
      | ok current =>
      refine Uses.bind (hmutate current) fun next => ?_
      cases next with
      | error e => exact Uses.pure _
      | ok next =>
      refine Uses.bind (Uses.perform trivial) fun now => Uses.bind (Uses.perform trivial)
        fun written => ?_
      cases written with
      | ok _ => exact Uses.pure _
      | error e =>
          dsimp only
          split_ifs
          · exact ih
          · exact Uses.pure _

theorem rowUpdate_updatePersistedSession (detached : Bool) (sessionId : String)
    {mutate : Session → Task (Except String Session)} (hmutate : ∀ s, RowUpdate (mutate s)) :
    RowUpdate (updatePersistedSession detached sessionId mutate) := by
  unfold updatePersistedSession
  split_ifs
  · exact Uses.pure _
  · exact rowUpdate_updateAttempts detached sessionId hmutate 3

theorem rowUpdate_timed (f : Time → Session → Session) (s : Session) : RowUpdate (timed f s) :=
  Uses.bind (Uses.perform trivial) fun _ => Uses.pure _

theorem rowUpdate_releaseSessionLease (detached : Bool) (persistedId : String) :
    RowUpdate (releaseSessionLease detached persistedId) :=
  Uses.bind (rowUpdate_updatePersistedSession _ _ (rowUpdate_timed _)) fun _ => Uses.pure _

theorem rowUpdate_persistProvisionedState (persistedId : String) (runtime : ProvisionedRuntime) :
    RowUpdate (h.persistProvisionedState persistedId runtime) :=
  Uses.bind (rowUpdate_updatePersistedSession _ _ (rowUpdate_timed _)) fun _ => Uses.pure _

theorem rowUpdate_persistSessionFailure (persistedId error : String) (phase : SessionPhase) :
    RowUpdate (persistSessionFailure persistedId error phase) :=
  Uses.bind (rowUpdate_updatePersistedSession _ _ (rowUpdate_timed _)) fun _ => Uses.pure _

theorem rowUpdate_persistInterruptedSession (persistedId : String) :
    RowUpdate (persistInterruptedSession persistedId) :=
  Uses.bind (rowUpdate_updatePersistedSession _ _ (rowUpdate_timed _)) fun _ => Uses.pure _

theorem rowUpdate_persistCheckpoint (detached : Bool) (persistedId : String) (index : Int)
    (phase : SessionPhase) (status : Option ExecutionStatus) (summary : Option Json) :
    RowUpdate (h.persistCheckpoint detached persistedId index phase status summary) :=
  Uses.bind (rowUpdate_updatePersistedSession _ _ (rowUpdate_timed _)) fun _ => Uses.pure _

theorem rowUpdate_ensureTestPlan (persistedId : String) (tests : List TestConfig) :
    RowUpdate (h.ensureTestPlan persistedId tests) := by
  refine Uses.bind (rowUpdate_updatePersistedSession _ _ (rowUpdate_timed _)) fun updated => ?_
  cases updated with
  | ok _ => exact Uses.pure _
  | error e => exact Uses.pure _

theorem quiet_persistTestResult (persisted : Session) (result : Dto.TestResult) :
    Quiet (persistTestResult persisted result) :=
  Uses.bind (Uses.perform trivial) fun _ => Uses.bind (Uses.perform trivial) fun _ => Uses.pure _

theorem quiet_recordResult (persisted : Option Session) (tests : List TestConfig)
    (test : TestConfig) (result : Dto.TestResult) :
    Quiet (h.recordResult persisted tests test result) := by
  cases persisted with
  | none => exact Uses.pure _
  | some persisted =>
  refine Uses.bind (Uses.perform trivial) fun cause => ?_
  cases cause with
  | some cause => exact Uses.pure _
  | none =>
  refine Uses.bind (quiet_persistTestResult persisted result) fun _ => ?_
  cases tests.findIdx? fun t => t.name = test.name with
  | some index => exact (h.rowUpdate_persistCheckpoint _ _ _ _ _ _).quiet
  | none => exact Uses.pure _

theorem external_cleanupPersistedSessionResources (sessionId : String) :
    ∀ attempts, External (cleanupPersistedSessionResources sessionId attempts)
  | 0 => Uses.pure _
  | 1 => Uses.perform trivial
  | attempts + 2 => by
    refine Uses.bind (Uses.perform trivial) fun failure => ?_
    cases failure with
    | none => exact Uses.pure _
    | some e =>
    refine Uses.bind (Uses.perform trivial) fun cause => ?_
    cases cause with
    | some cause => exact Uses.pure _
    | none => exact external_cleanupPersistedSessionResources sessionId (attempts + 1)

/-- The attempts to remove an environment delete its session and report. -/
theorem uses_cleanupWorkflowBundleSession {allowed : Op → Prop}
    (hreport : ∀ activity, (report activity).Uses allowed)
    (hdelete : ∀ sessionId, allowed (.deleteSession sessionId)) (sessionId : String) :
    (cleanupWorkflowBundleSession report sessionId).Uses allowed := by
  unfold cleanupWorkflowBundleSession
  generalize 3 = attempts
  induction attempts with
  | zero => exact Uses.pure _
  | succ attempts ih =>
      refine Uses.bind (Uses.perform (hdelete sessionId)) fun reply => ?_
      refine Uses.bind (Uses.forEach fun activity _ => hreport activity) fun _ => ?_
      cases reply.2 with
      | none => exact Uses.pure _
      | some e =>
          dsimp only
          split_ifs
          · exact Uses.pure _
          · exact ih

section Report

variable (hreport : ∀ activity, Quiet (report activity))

include hreport

theorem quiet_cleanupWorkflowBundleSession (sessionId : String) :
    Quiet (cleanupWorkflowBundleSession report sessionId) :=
  uses_cleanupWorkflowBundleSession hreport (fun _ => trivial) sessionId

end Report

end Handler

theorem Execution.external_scenarioReporter (request : Request) (scenario : RunScenario)
    (activity : Activity) : External (Execution.scenarioReporter request scenario activity) :=
  Uses.bind (Uses.perform trivial) fun _ => Uses.bind (Uses.perform trivial) fun _ => Uses.pure _

theorem Execution.quiet_scenarioReporter (request : Request) (scenario : RunScenario)
    (activity : Activity) : Quiet (Execution.scenarioReporter request scenario activity) :=
  (Execution.external_scenarioReporter request scenario activity).quiet

/-! ## What journals say -/

/-- The journal of a scenario's run. -/
abbrev RunJournal := Journal Reply ThreadState

/-- The test was started. -/
def Started (test : TestConfig) (events : List (Event Reply)) : Prop :=
  ∃ run : TestRun, ⟨.runTest test, run⟩ ∈ events

/-- These rows were listed as the stored results. -/
def Listed (rows : List TestResult) (events : List (Event Reply)) : Prop :=
  ∃ detached id, ⟨.store detached (.listTestResults id), .ok rows⟩ ∈ events

/-- A session was read. -/
def SessionRead (session : Session) (events : List (Event Reply)) : Prop :=
  (∃ detached id, ⟨.store detached (.getSession id), .ok session⟩ ∈ events) ∨
    ∃ detached run scenario, ⟨.store detached (.findSessionByExecution run scenario), .ok session⟩
      ∈ events

/-- The session row that a call read. -/
def readRow : Event Reply → Option Session
  | ⟨.store _ (.getSession _), .ok session⟩ => some session
  | ⟨.store _ (.getSessionByBackendSessionId _), .ok session⟩ => some session
  | ⟨.store _ (.findSessionByExecution _ _), .ok session⟩ => some session
  | _ => none

/-- A row without an id was read. -/
def NamelessRead (events : List (Event Reply)) : Prop :=
  ∃ event ∈ events, ∃ session, readRow event = some session ∧ session.id = ""

/-- A row that was found and has no id was read. -/
def NamelessReply (reply : Option Session) (events : List (Event Reply)) : Prop :=
  ∀ session, reply = some session → session.id = "" → NamelessRead events

/-- The resources of an interrupted session were removed, so that it is run again or finished. -/
def Resumed (previous : Session) (events : List (Event Reply)) : Prop :=
  ∃ before reply after, events = before ++ ⟨.cleanResources previous.id, reply⟩ :: after ∧
    SessionRead previous before

/-- Time passes: calls are added to the journal, and a cancelled context stays cancelled. -/
structure Later (j j' : RunJournal) : Prop where
  events : j.events <+: j'.events
  context : j.state.context ≠ .live → j'.state.context = j.state.context

/-- A statement about the past. -/
def Stable (inv : RunJournal → Prop) : Prop := ∀ ⦃j j'⦄, Later j j' → inv j → inv j'

theorem Stable.and {inv inv' : RunJournal → Prop} (h : Stable inv) (h' : Stable inv') :
    Stable fun j => inv j ∧ inv' j := fun _ _ hlater hj => ⟨h hlater hj.1, h' hlater hj.2⟩

theorem Stable.or {inv inv' : RunJournal → Prop} (h : Stable inv) (h' : Stable inv') :
    Stable fun j => inv j ∨ inv' j := fun _ _ hlater hj => hj.imp (h hlater) (h' hlater)

theorem Stable.and_const {inv : RunJournal → Prop} {c : Prop} (h : Stable inv) :
    Stable fun j => inv j ∧ c := fun _ _ hlater hj => ⟨h hlater hj.1, hj.2⟩

theorem stable_true : Stable fun _ => True := fun _ _ _ _ => trivial

theorem Stable.forall {ι : Sort*} {inv : ι → RunJournal → Prop} (h : ∀ i, Stable (inv i)) :
    Stable fun j => ∀ i, inv i j := fun _ _ hlater hj i => h i hlater (hj i)

theorem Stable.imp_const {inv : RunJournal → Prop} {c : Prop} (h : Stable inv) :
    Stable fun j => c → inv j := fun _ _ hlater hj hc => h hlater (hj hc)

theorem stable_started (test : TestConfig) : Stable fun j => Started test j.events :=
  fun _ _ hlater ⟨run, h⟩ => ⟨run, hlater.events.subset h⟩

theorem stable_listed (rows : List TestResult) : Stable fun j => Listed rows j.events :=
  fun _ _ hlater ⟨detached, id, h⟩ => ⟨detached, id, hlater.events.subset h⟩

theorem stable_sessionRead (session : Session) : Stable fun j => SessionRead session j.events := by
  rintro j j' hlater (⟨detached, id, h⟩ | ⟨detached, run, scenario, h⟩)
  · exact .inl ⟨detached, id, hlater.events.subset h⟩
  · exact .inr ⟨detached, run, scenario, hlater.events.subset h⟩

theorem stable_namelessRead : Stable fun j => NamelessRead j.events :=
  fun _ _ hlater ⟨event, hevent, h⟩ => ⟨event, hlater.events.subset hevent, h⟩

theorem stable_resumed (previous : Session) : Stable fun j => Resumed previous j.events := by
  rintro j j' hlater ⟨before, reply, after, heq, hread⟩
  obtain ⟨more, hmore⟩ := hlater.events
  refine ⟨before, reply, after ++ more, ?_, hread⟩
  rw [← hmore, heq, List.append_assoc, List.cons_append]

theorem stable_cancelled : Stable fun j => j.state.context ≠ .live :=
  fun _ _ hlater h hlive => h ((hlater.context h).symm.trans hlive)

theorem handle_context (op : Op) (a : Answer) (s : ThreadState) :
    (handle op a s).2.context = s.context := by
  cases op with
  | store detached op =>
      simp only [handle]
      split_ifs <;> rfl
  | _ => rfl

theorem stable_namelessReply (reply : Option Session) :
    Stable fun j => NamelessReply reply j.events :=
  fun _ _ hlater h session hsession hid => stable_namelessRead hlater (h session hsession hid)

/-! ## Rules -/

section Rules

variable {α : Type} {may : List (Event Reply) → Op → Prop} {j : RunJournal} {p : Task α}
  {inv : RunJournal → Prop}

/-- The calls of a scenario in a journal. -/
abbrev ScenarioSafe (may : List (Event Reply) → Op → Prop) (post : α → RunJournal → Prop)
    (p : Task α) (j : RunJournal) : Prop :=
  (scenarioSetting.journaled may).Safe post p j

theorem later_of_rely {j j' : RunJournal} (h : (scenarioSetting.journaled may).rely j j') :
    Later j j' := ⟨h.1 ▸ List.prefix_refl _, h.2⟩

theorem later_append {op : Op} (a : Answer) (j : RunJournal) :
    Later j ⟨j.events ++ [⟨op, (handle op a j.state).1⟩], (handle op a j.state).2⟩ :=
  ⟨List.prefix_append _ _, fun _ => handle_context op a j.state⟩

/-- A quiet part keeps what was true of the past. -/
theorem Quiet.safe (hquiet : ∀ events op, op.quiet → may events op) (hp : Quiet p)
    (hstable : Stable inv) (hinv : inv j) : ScenarioSafe may (fun _ => inv) p j :=
  Setting.Safe.of_uses inv hp (fun hrely => hstable (later_of_rely hrely))
    (fun hop _ hj => ⟨Setting.journaled_guar (hquiet _ _ hop), hstable (later_append _ _) hj⟩)
    hinv

/-- The rule for a result that stays true. -/
theorem ScenarioSafe.pure {post : α → RunJournal → Prop} {a : α} (hstable : Stable (post a))
    (hpost : post a j) : ScenarioSafe may post (Pure.pure a) j :=
  Setting.Safe.pure fun _ hrely => hstable (later_of_rely hrely) hpost

/-- The rule for one call. -/
theorem ScenarioSafe.perform {op : Op} {post : Reply op → RunJournal → Prop}
    (hstable : ∀ reply, Stable (post reply))
    (h : ∀ j', Later j j' → ∀ a, may j'.events op ∧
      post (handle op a j'.state).1 ⟨j'.events ++ [⟨op, (handle op a j'.state).1⟩],
        (handle op a j'.state).2⟩) :
    ScenarioSafe may post (Program.perform op) j :=
  Setting.Safe.perform fun j' hrely a _ =>
    ⟨Setting.journaled_guar (h j' (later_of_rely hrely) a).1, fun _ hrely' =>
      hstable _ (later_of_rely hrely') (h j' (later_of_rely hrely) a).2⟩

/-- Sequencing, when what is known before is still needed after. -/
theorem ScenarioSafe.bind {β : Type} {f : α → Task β} {mid : α → RunJournal → Prop}
    {post : β → RunJournal → Prop} (h : ScenarioSafe may mid p j)
    (hf : ∀ a j', mid a j' → ScenarioSafe may post (f a) j') : ScenarioSafe may post (p >>= f) j :=
  Setting.Safe.bind h hf

theorem ScenarioSafe.pure_bind {β : Type} {f : α → Task β} {post : β → RunJournal → Prop} {a : α}
    (h : ScenarioSafe may post (f a) j) : ScenarioSafe may post (Pure.pure a >>= f) j := h

end Rules

/-! ## A scenario -/

/-- The results of a list of tests, by the names of the tests. -/
def NamedAfter (tests : List TestConfig) (results : List Dto.TestResult) : Prop :=
  results.map (·.name) = tests.map (·.name)

/-- The results by name are those of rows that were listed. -/
def Stored (byName : List (String × Dto.TestResult)) (events : List (Event Reply)) : Prop :=
  ∃ rows, Listed rows events ∧
    byName = rows.reverse.map fun row => (row.testName, Handler.restoreResult row)

/-- The results by name that a plan starts with. Only a scenario whose row has no id goes without
    the stored ones. -/
def Loaded (byName : List (String × Dto.TestResult)) (events : List (Event Reply)) : Prop :=
  byName = [] ∧ NamelessRead events ∨ Stored byName events

theorem stable_stored (byName : List (String × Dto.TestResult)) :
    Stable fun j => Stored byName j.events :=
  fun _ _ hlater ⟨rows, hrows, heq⟩ => ⟨rows, stable_listed rows hlater hrows, heq⟩

theorem stable_loaded (byName : List (String × Dto.TestResult)) :
    Stable fun j => Loaded byName j.events :=
  fun _ _ hlater h =>
    h.imp (fun h => ⟨h.1, stable_namelessRead hlater h.2⟩) (stable_stored byName hlater)

/-- The tests of a plan that have no result yet. -/
def remainingTests (byName : List (String × Dto.TestResult)) (tests : List TestConfig) :
    List TestConfig := tests.filter fun t => (byName.lookup t.name).isNone

/-- What a journal has to allow so that a scenario with this plan can run. -/
structure Permits (may : List (Event Reply) → Op → Prop) (tests : List TestConfig) : Prop where
  quiet : ∀ events op, op.quiet → may events op
  list : ∀ events detached id, may events (.store detached (.listTestResults id))
  run : ∀ events byName before test after, Loaded byName events →
    remainingTests byName tests = before ++ test :: after → (∀ t ∈ before, Started t events) →
    may events (.runTest test)

namespace Handler

variable {may : List (Event Reply) → Op → Prop} {report : Activity → Task Unit} {j : RunJournal}
  {inv : RunJournal → Prop}

section Tests

variable (hquiet : ∀ events op, op.quiet → may events op)
  (hreport : ∀ activity, Quiet (report activity))

include hquiet hreport

theorem safe_executeTest {test : TestConfig} (hstable : Stable inv)
    (hmay : ∀ j, inv j → may j.events (.runTest test)) (hinv : inv j) :
    ScenarioSafe may (fun r j => (inv j ∧ Started test j.events) ∧ r.1.name = test.name)
      (executeTest report test) j := by
  have hkept : Stable fun j => inv j ∧ Started test j.events := hstable.and (stable_started test)
  refine ScenarioSafe.bind (Quiet.safe hquiet (hreport _) hstable hinv) fun _ j hinv => ?_
  have hcall : ScenarioSafe may (fun _ j => inv j ∧ Started test j.events)
      (Program.perform (Op.runTest test)) j := by
    refine ScenarioSafe.perform (fun _ => hkept) fun j' hlater a => ?_
    have hinv' := hstable hlater hinv
    exact ⟨hmay j' hinv', hstable (later_append _ _) hinv', _,
      List.mem_append_right _ (List.mem_singleton_self _)⟩
  refine ScenarioSafe.bind hcall fun reply j hj => ?_
  cases reply with
  | notInterpolated e => exact ScenarioSafe.pure hkept.and_const ⟨hj, rfl⟩
  | executed retryReason attempts durationMs recovered failure =>
        have hresult (result : Dto.TestResult) (activity : Activity)
            (hname : result.name = test.name) {j : RunJournal}
            (hj : inv j ∧ Started test j.events) :
            ScenarioSafe may (fun r j => (inv j ∧ Started test j.events) ∧ r.1.name = test.name)
              (pure (result, activity)) j :=
          ScenarioSafe.pure hkept.and_const ⟨hj, hname⟩
        dsimp only
        split_ifs
        · have hname : (executedResult test attempts durationMs recovered failure).name
              = test.name := by
            cases failure <;> rfl
          cases retryReason with
          | none => exact hresult _ _ hname hj
          | some reason =>
              exact ScenarioSafe.bind (Quiet.safe hquiet (hreport _) hkept hj) fun _ j hj =>
                hresult _ _ hname hj
        · exact hresult _ _ rfl hj

/-- **The loop over the tests**: each is started after the ones before it. -/
theorem safe_executeTests {onResult : TestConfig → Dto.TestResult → Task Unit}
    (honResult : ∀ test result, Quiet (onResult test result)) (hstable : Stable inv)
    {tests : List TestConfig}
    (hmay : ∀ before test after, tests = before ++ test :: after → ∀ j, inv j →
      (∀ t ∈ before, Started t j.events) → may j.events (.runTest test)) (hinv : inv j) :
    ScenarioSafe may
      (fun results j => (inv j ∧ ∀ t ∈ tests, Started t j.events) ∧ NamedAfter tests results)
      (executeTests report onResult tests) j := by
  induction tests generalizing inv j with
  | nil =>
      refine ScenarioSafe.pure (Stable.and_const ?_) ⟨⟨hinv, by simp⟩, rfl⟩
      exact hstable.and (Stable.forall fun t => (stable_started t).imp_const)
  | cons test rest ih =>
      have hkept : Stable fun j => inv j ∧ Started test j.events :=
        hstable.and (stable_started test)
      refine ScenarioSafe.bind (safe_executeTest hquiet hreport hstable
        (fun j hj => hmay [] test rest rfl j hj (by simp)) hinv) fun r j hr => ?_
      refine ScenarioSafe.bind (Quiet.safe hquiet (honResult _ _) hkept hr.1) fun _ j hj => ?_
      refine ScenarioSafe.bind (Quiet.safe hquiet (hreport _) hkept hj) fun _ j hj => ?_
      refine ScenarioSafe.bind (ih hkept ?_ hj) fun results j hresults => ?_
      · -- the tests before include the one that was just started
        rintro before t after rfl j ⟨hinv, hstarted⟩ hbefore
        refine hmay (test :: before) t after rfl j hinv ?_
        intro u hu
        rcases List.mem_cons.1 hu with rfl | hu
        · exact hstarted
        · exact hbefore u hu
      · refine ScenarioSafe.pure (Stable.and_const ?_) ⟨⟨hresults.1.1.1, ?_⟩, ?_⟩
        · exact hstable.and (Stable.forall fun t => (stable_started t).imp_const)
        · intro t ht
          rcases List.mem_cons.1 ht with rfl | ht
          · exact hresults.1.1.2
          · exact hresults.1.2 t ht
        · exact congrArg₂ List.cons hr.2 hresults.2

/-- The loop, unless the context was cancelled before it began. -/
theorem safe_executeWorkflowBundleTests {onResult : TestConfig → Dto.TestResult → Task Unit}
    (honResult : ∀ test result, Quiet (onResult test result)) (hstable : Stable inv)
    {tests : List TestConfig}
    (hmay : ∀ before test after, tests = before ++ test :: after → ∀ j, inv j →
      (∀ t ∈ before, Started t j.events) → may j.events (.runTest test)) (hinv : inv j) :
    ScenarioSafe may
      (fun results j => inv j ∧ (j.state.context ≠ .live ∨
        (∀ t ∈ tests, Started t j.events) ∧ NamedAfter tests results))
      (executeWorkflowBundleTestsWithCallback report onResult tests) j := by
  have hcall : ScenarioSafe may
      (fun reply j => inv j ∧ (reply ≠ none → j.state.context ≠ .live))
      (Program.perform Op.acquireSlot) j := by
    refine ScenarioSafe.perform (fun _ => hstable.and stable_cancelled.imp_const)
      fun j' hlater a => ⟨hquiet _ _ trivial, hstable (later_append _ _) (hstable hlater hinv), ?_⟩
    intro hreply hlive
    have hcause : j'.state.context = .live := hlive
    cases hgranted : a.granted <;> simp [handle, hgranted, hcause, Context.cause?] at hreply
  have hstarted : Stable fun j => ∀ t ∈ tests, Started t j.events :=
    Stable.forall fun t => (stable_started t).imp_const
  refine ScenarioSafe.bind hcall fun reply j hj => ?_
  cases reply with
  | some cause =>
      exact ScenarioSafe.pure (hstable.and (stable_cancelled.or hstarted.and_const))
        ⟨hj.1, .inl (hj.2 (by simp))⟩
  | none =>
      exact (safe_executeTests hquiet hreport honResult hstable hmay hj.1).mono
        fun results j h => ⟨h.1.1, .inr ⟨h.1.2, h.2⟩⟩

end Tests

/-- `ctx.Err()`: without an error, the context was live until now. -/
theorem safe_contextCause {P : RunJournal → Prop} (hquiet : ∀ events op, op.quiet → may events op)
    (hstable : Stable inv) (hP : Stable P) (h : inv j ∧ (j.state.context ≠ .live ∨ P j)) :
    ScenarioSafe may (fun reply j => inv j ∧ (reply = none → P j)) Task.contextCause j := by
  refine ScenarioSafe.perform (fun _ => hstable.and hP.imp_const)
    fun j' hlater a => ⟨hquiet _ _ trivial, hstable (later_append _ _) (hstable hlater h.1), ?_⟩
  intro hreply
  have hlive : j'.state.context = .live := by
    cases hcontext : j'.state.context with
    | live => rfl
    | cancelled cause => simp [handle, hcontext, Context.cause?] at hreply
  rcases h.2 with hcancelled | hp
  · exact absurd hlive (stable_cancelled hlater hcancelled)
  · exact hP (later_append _ _) (hP hlater hp)

section Stored

variable (hlist : ∀ events detached id, may events (.store detached (.listTestResults id)))
  (hstable : Stable inv) (hinv : inv j)

include hlist hstable hinv

/-- The stored results of a session. -/
theorem safe_loadPersistedResults_some (persisted : Session) :
    ScenarioSafe may
      (fun reply j => inv j ∧ ∀ byName, reply = .ok byName → Stored byName j.events)
      (loadPersistedResults (some persisted)) j := by
  have hpost (reply : Except String (List (String × Dto.TestResult))) : Stable fun j =>
      inv j ∧ ∀ byName, reply = .ok byName → Stored byName j.events :=
    hstable.and (Stable.forall fun byName => (stable_stored byName).imp_const)
  have hcall : ScenarioSafe may
      (fun reply j => inv j ∧ ∀ rows, reply = .ok rows → Listed rows j.events)
      (Task.store false (.listTestResults persisted.id)) j := by
    refine ScenarioSafe.perform
      (fun _ => hstable.and (Stable.forall fun rows => (stable_listed rows).imp_const))
      fun j' hlater a => ⟨hlist _ _ _, hstable (later_append _ _) (hstable hlater hinv), ?_⟩
    intro rows hrows
    exact ⟨_, _, List.mem_append_right _ (List.mem_singleton.2 (by rw [← hrows]))⟩
  refine ScenarioSafe.bind hcall fun reply j hj => ?_
  cases reply with
  | error e => exact ScenarioSafe.pure (hpost _) ⟨hj.1, by simp⟩
  | ok rows =>
      refine ScenarioSafe.pure (hpost _) ⟨hj.1, ?_⟩
      rintro byName h
      exact ⟨rows, hj.2 rows rfl, (Except.ok.inj h).symm⟩

theorem safe_loadPersistedResults {persisted : Option Session}
    (hpersisted : persisted = none → NamelessRead j.events) :
    ScenarioSafe may
      (fun reply j => inv j ∧ ∀ byName, reply = .ok byName → Loaded byName j.events)
      (loadPersistedResults persisted) j := by
  cases persisted with
  | none =>
      refine ScenarioSafe.pure (hstable.and
        (Stable.forall fun byName => (stable_loaded byName).imp_const)) ⟨hinv, ?_⟩
      rintro byName h
      exact .inl ⟨(Except.ok.inj h).symm, hpersisted rfl⟩
  | some persisted =>
      exact (safe_loadPersistedResults_some hlist hstable hinv persisted).mono
        fun reply j h => ⟨h.1, fun byName hbyName => .inr (h.2 byName hbyName)⟩

end Stored

/-! ## The results of a scenario -/

/-- The results of a plan that was executed: those stored for its tests and those of the tests
    that had none, each under the name it carries. -/
def Merged (events : List (Event Reply)) (tests : List TestConfig)
    (results : List Dto.TestResult) : Prop :=
  ∃ byName newResults, Loaded byName events ∧
    (∀ t ∈ remainingTests byName tests, Started t events) ∧
    NamedAfter (remainingTests byName tests) newResults ∧
    results = orderedResults (resultByName (orderedResults byName tests ++ newResults)) tests

/-- The results of a scenario that was finished from its checkpoint: those of the stored rows,
    however many there are. -/
def FinishedFrom (events : List (Event Reply)) (tests : List TestConfig)
    (results : List Dto.TestResult) : Prop :=
  ∃ previous rows, Resumed previous events ∧
    (previous.phase = .cleaningUp ∨ previous.phase = .cleanupFailed) ∧
    previous.checkpointIndex ≥ tests.length ∧ Listed rows events ∧
    results = orderedResults (rows.reverse.map fun row => (row.testName, restoreResult row)) tests

/-- What a successful response is based on. -/
def Outcome (tests : List TestConfig) (response : ScenarioResponse) (events : List (Event Reply)) :
    Prop :=
  response.success = true → ∃ results, response.results = some results ∧
    countInt (fun r => !r.passed) results = 0 ∧
    (Merged events tests results ∨ FinishedFrom events tests results)

theorem stable_merged (tests : List TestConfig) (results : List Dto.TestResult) :
    Stable fun j => Merged j.events tests results := by
  rintro j j' hlater ⟨byName, newResults, hloaded, hstarted, hnamed, heq⟩
  exact ⟨byName, newResults, stable_loaded byName hlater hloaded,
    fun t ht => stable_started t hlater (hstarted t ht), hnamed, heq⟩

theorem stable_outcome (tests : List TestConfig) (response : ScenarioResponse) :
    Stable fun j => Outcome tests response j.events := by
  intro j j' hlater h hsuccess
  obtain ⟨results, hresults, hcount,
    hmerged | ⟨previous, rows, hresumed, hphase, hindex, hrows, heq⟩⟩ := h hsuccess
  · exact ⟨results, hresults, hcount, .inl (stable_merged tests results hlater hmerged)⟩
  · exact ⟨results, hresults, hcount, .inr ⟨previous, rows, stable_resumed previous hlater hresumed,
      hphase, hindex, stable_listed rows hlater hrows, heq⟩⟩

theorem outcome_of_failed {tests : List TestConfig} {response : ScenarioResponse}
    {events : List (Event Reply)} (h : response.success = false) : Outcome tests response events :=
  fun hsuccess => by rw [h] at hsuccess; cases hsuccess

theorem lookup_mem {results : List (String × Dto.TestResult)} {name : String} {r : Dto.TestResult}
    (h : results.lookup name = some r) : (name, r) ∈ results := by
  induction results with
  | nil => cases h
  | cons entry rest ih =>
      rw [List.lookup_cons] at h
      cases hname : name == entry.1 with
      | true =>
          rw [hname] at h
          obtain rfl := Option.some.inj h
          rw [beq_iff_eq] at hname
          rw [hname]
          exact List.mem_cons_self
      | false =>
          rw [hname] at h
          exact List.mem_cons_of_mem _ (ih h)

theorem lookup_isSome (results : List (String × Dto.TestResult)) (name : String)
    (h : name ∈ results.map Prod.fst) : (results.lookup name).isSome = true := by
  rw [List.lookup_isSome_iff]
  obtain ⟨entry, hentry, rfl⟩ := List.mem_map.1 h
  exact ⟨entry, hentry, by simp⟩

theorem forall₂_filterMap {α β : Type} {f : α → Option β} {related : α → β → Prop} {xs : List α}
    (h : ∀ x ∈ xs, ∃ y, f x = some y ∧ related x y) :
    List.Forall₂ related xs (xs.filterMap f) := by
  induction xs with
  | nil => exact .nil
  | cons x xs ih =>
      obtain ⟨y, hy, hrelated⟩ := h x (by simp)
      rw [List.filterMap_cons_some hy]
      exact .cons hrelated (ih fun x' hx' => h x' (List.mem_cons_of_mem _ hx'))

/-! ## The parts of a scenario -/

/-- An update that was made returns the row. -/
theorem safe_updateAttempts {P : RunJournal → Prop} (hquiet : ∀ events op, op.quiet → may events op)
    {detached : Bool} {sessionId : String} {mutate : Session → Task (Except String Session)}
    (hmutate : ∀ s, Quiet (mutate s)) (attempts : Nat) :
    ScenarioSafe may (fun updated j => updated = .ok none → P j)
      (updateAttempts detached sessionId mutate attempts) j := by
  have hpure {reply : Except String (Option Session)} (hreply : reply ≠ .ok none)
      {j : RunJournal} :
      ScenarioSafe may (fun updated j => updated = .ok none → P j) (Pure.pure reply) j :=
    ScenarioSafe.pure (fun _ _ _ _ h => absurd h hreply) fun h => absurd h hreply
  have hquiet' {α : Type} {p : Task α} {j : RunJournal} (hp : Quiet p) :
      ScenarioSafe may (fun _ _ => True) p j := Quiet.safe hquiet hp stable_true trivial
  induction attempts generalizing j with
  | zero => exact hpure (by simp)
  | succ attempts ih =>
      refine ScenarioSafe.bind (hquiet' (Uses.perform trivial)) fun read j _ => ?_
      cases read with
      | error e => exact hpure (by simp)
      | ok current =>
      refine ScenarioSafe.bind (hquiet' (hmutate current)) fun next j _ => ?_
      cases next with
      | error e => exact hpure (by simp)
      | ok next =>
      refine ScenarioSafe.bind (hquiet' (Uses.perform trivial)) fun now j _ => ?_
      refine ScenarioSafe.bind (hquiet' (Uses.perform trivial)) fun written j _ => ?_
      cases written with
      | ok _ => exact hpure (by simp)
      | error e =>
          dsimp only
          split_ifs
          · exact ih
          · exact hpure (by simp)

section Parts

variable (h : Handler) {tests : List TestConfig} {response : ScenarioResponse}

theorem withResults_success {results : List Dto.TestResult} {summary : Dto.TestSummary}
    (hsuccess : (withResults response results summary).success = true) : summary.failed = 0 := by
  simpa [withResults] using hsuccess

variable (hreport : ∀ activity, Quiet (report activity))
  (hquiet : ∀ events op, op.quiet → may events op)

include hreport hquiet

/-- The end of a plan: the response has the results. -/
theorem safe_finishScenario (sessionId : String) (execution : ExecutionContext)
    (persisted : Option Session) {results : List Dto.TestResult}
    (hresults : Merged j.events tests results) :
    ScenarioSafe may (fun attempt j => Outcome tests attempt.response j.events)
      (h.finishScenario report sessionId execution persisted tests results response) j := by
  have hstable : Stable fun j => Merged j.events tests results :=
    stable_merged tests results
  -- the response is that of the results, or one of a failed cleanup
  have hwith {j : RunJournal} (hj : Merged j.events tests results) :
      Outcome tests (withResults response results (planSummary tests results)) j.events :=
    fun hsuccess => ⟨results, rfl, withResults_success hsuccess, .inl hj⟩
  have hend (attempt : Attempt) {j : RunJournal}
      (hj : Merged j.events tests results)
      (hattempt : attempt.response = withResults response results (planSummary tests results) ∨
        attempt.response.success = false) :
      ScenarioSafe may (fun attempt j => Outcome tests attempt.response j.events)
        (pure attempt) j := by
    refine ScenarioSafe.pure (stable_outcome tests attempt.response) ?_
    rcases hattempt with heq | hfailed
    · rw [heq]
      exact hwith hj
    · exact outcome_of_failed hfailed
  unfold finishScenario
  cases persisted with
  | none =>
      refine ScenarioSafe.bind (Quiet.safe hquiet (hreport _) hstable hresults) fun _ j hj => ?_
      refine ScenarioSafe.bind (Quiet.safe hquiet
        (quiet_cleanupWorkflowBundleSession hreport sessionId) hstable hj) fun failure j hj => ?_
      cases failure with
      | none =>
          refine ScenarioSafe.pure_bind (ScenarioSafe.bind
            (Quiet.safe hquiet (hreport _) hstable hj) fun _ j hj => ?_)
          exact hend _ hj (.inl rfl)
      | some e =>
          refine ScenarioSafe.bind (Quiet.safe hquiet (hreport _) hstable hj) fun _ j hj => ?_
          exact ScenarioSafe.pure_bind (hend _ hj (.inr rfl))
  | some p =>
      refine ScenarioSafe.bind (Quiet.safe hquiet (h.rowUpdate_persistCheckpoint _ _ _ _ _ _).quiet
        hstable hresults) fun _ j hj => ?_
      refine ScenarioSafe.bind (Quiet.safe hquiet (hreport _) hstable hj) fun _ j hj => ?_
      refine ScenarioSafe.bind (Quiet.safe hquiet
        (quiet_cleanupWorkflowBundleSession hreport sessionId) hstable hj) fun failure j hj => ?_
      cases failure with
      | none =>
          refine ScenarioSafe.pure_bind (ScenarioSafe.bind (Quiet.safe hquiet
            (h.rowUpdate_persistCheckpoint _ _ _ _ _ _).quiet hstable hj) fun _ j hj => ?_)
          refine ScenarioSafe.bind (Quiet.safe hquiet (rowUpdate_releaseSessionLease _ _).quiet
            hstable hj)
            fun _ j hj => ?_
          refine ScenarioSafe.bind (Quiet.safe hquiet (hreport _) hstable hj) fun _ j hj => ?_
          exact hend _ hj (.inl rfl)
      | some e =>
          refine ScenarioSafe.bind (Quiet.safe hquiet (hreport _) hstable hj) fun _ j hj => ?_
          refine ScenarioSafe.pure_bind (ScenarioSafe.bind (Quiet.safe hquiet
            (h.rowUpdate_persistCheckpoint _ _ _ _ _ _).quiet hstable hj) fun _ j hj => ?_)
          refine ScenarioSafe.bind (Quiet.safe hquiet (rowUpdate_releaseSessionLease _ _).quiet
            hstable hj)
            fun _ j hj => ?_
          exact hend _ hj (.inr rfl)

omit hquiet in
/-- The part after the services are ready. -/
theorem safe_runPlan (hpermits : Permits may tests) (sessionId : String)
    (execution : ExecutionContext) {persisted : Option Session}
    (hpersisted : persisted = none → NamelessRead j.events)
    (hresponse : response.success = false) :
    ScenarioSafe may (fun attempt j => Outcome tests attempt.response j.events)
      (h.runPlan report sessionId execution persisted tests response) j := by
  have hfailed (attempt : Attempt) (hattempt : attempt.response.success = false) {j : RunJournal} :
      ScenarioSafe may (fun attempt j => Outcome tests attempt.response j.events)
        (pure attempt) j :=
    ScenarioSafe.pure (stable_outcome tests _) (outcome_of_failed hattempt)
  refine ScenarioSafe.bind (safe_loadPersistedResults hpermits.list stable_true trivial hpersisted)
    fun loaded j hloaded => ?_
  cases loaded with
  | error e => exact hfailed _ hresponse
  | ok byName =>
  have hbyName := hloaded.2 byName rfl
  refine ScenarioSafe.bind (safe_executeWorkflowBundleTests hpermits.quiet hreport
    (fun test result => h.quiet_recordResult persisted tests test result) (stable_loaded byName)
    (fun before test after heq j hj hbefore =>
      hpermits.run j.events byName before test after hj heq hbefore) hbyName)
    fun newResults j hexecuted => ?_
  have hstarted : Stable fun j => (∀ t ∈ remainingTests byName tests, Started t j.events) ∧
      NamedAfter (remainingTests byName tests) newResults :=
    (Stable.forall fun t => (stable_started t).imp_const).and_const
  refine ScenarioSafe.bind (safe_contextCause hpermits.quiet (stable_loaded byName) hstarted
    hexecuted) fun cause j hcause => ?_
  cases cause with
  | some cause => exact hfailed _ hresponse
  | none =>
      obtain ⟨hall, hnamed⟩ := hcause.2 rfl
      exact h.safe_finishScenario hreport hpermits.quiet sessionId execution persisted
        ⟨byName, newResults, hcause.1, hall, hnamed, rfl⟩

omit hquiet in
/-- The part that needs a provisioning slot. -/
theorem safe_provisionScenario {translated : TranslationResult}
    (hpermits : Permits may translated.tests) (sessionId : String) (execution : ExecutionContext)
    {persisted : Option Session} (hpersisted : persisted = none → NamelessRead j.events)
    (hresponse : response.success = false) :
    ScenarioSafe may (fun attempt j => Outcome translated.tests attempt.response j.events)
      (h.provisionScenario report sessionId execution persisted translated response) j := by
  -- every way out before the plan runs responds with a failure
  have hfailed (attempt : Attempt) (hattempt : attempt.response.success = false) {j : RunJournal} :
      ScenarioSafe may (fun attempt j => Outcome translated.tests attempt.response j.events)
        (pure attempt) j :=
    ScenarioSafe.pure (stable_outcome _ _) (outcome_of_failed hattempt)
  have hstable : Stable fun j => persisted = none → NamelessRead j.events :=
    stable_namelessRead.imp_const
  have hquiet {α : Type} {p : Task α} {j : RunJournal} (hp : Quiet p)
      (hj : persisted = none → NamelessRead j.events) :
      ScenarioSafe may (fun _ j => persisted = none → NamelessRead j.events) p j :=
    Quiet.safe hpermits.quiet hp hstable hj
  refine ScenarioSafe.bind (hquiet (Uses.perform trivial) hpersisted) fun slot j hj => ?_
  cases slot with
  | some cause => exact hfailed _ hresponse
  | none =>
  refine ScenarioSafe.bind (hquiet (hreport _) hj) fun _ j hj => ?_
  refine ScenarioSafe.bind (hquiet (Uses.perform trivial) hj) fun provisioned j hj => ?_
  refine ScenarioSafe.bind (hquiet (Uses.forEach fun a _ => hreport a) hj) fun _ j hj => ?_
  cases provisioned.2 with
  | error e =>
      refine ScenarioSafe.bind (hquiet (hreport _) hj) fun _ j hj => ?_
      cases persisted with
      | none => exact hfailed _ hresponse
      | some p =>
          refine ScenarioSafe.bind (hquiet (Uses.perform trivial) hj) fun cause j hj => ?_
          cases cause with
          | some cause => exact hfailed _ hresponse
          | none =>
              exact ScenarioSafe.bind (hquiet (rowUpdate_persistSessionFailure _ _ _).quiet hj)
                fun _ j _ =>
                hfailed _ hresponse
  | ok runtime =>
      refine ScenarioSafe.bind (hquiet (hreport _) hj) fun _ j hj => ?_
      cases persisted with
      | none => exact h.safe_runPlan hreport hpermits sessionId execution hj hresponse
      | some p =>
          refine ScenarioSafe.bind (hquiet (h.rowUpdate_persistProvisionedState _ _).quiet hj)
            fun _ j hj => ?_
          refine ScenarioSafe.bind (hquiet (h.rowUpdate_ensureTestPlan _ _).quiet hj)
            fun failure j hj => ?_
          cases failure with
          | some e => exact hfailed _ hresponse
          | none => exact h.safe_runPlan hreport hpermits sessionId execution hj hresponse

omit hreport in
/-- A row that is found and has no id was read. -/
theorem safe_resolveNameless (backendSessionId : String) (execution : ExecutionContext) :
    ScenarioSafe may (fun reply j => NamelessReply reply j.events)
      (resolvePersistedSession backendSessionId execution) j := by
  have hnone {j : RunJournal} :
      ScenarioSafe may (fun reply j => NamelessReply reply j.events) (pure none) j :=
    ScenarioSafe.pure (stable_namelessReply none) fun _ h => by cases h
  -- one lookup: the row that it returns is one that it read
  have hlookup {j : RunJournal} (op : StoreOp) (hop : (Op.store false op).quiet)
      (toRow : op.Value → Session)
      (hrow : ∀ value, readRow ⟨.store false op, .ok value⟩ = some (toRow value)) :
      ScenarioSafe may
        (fun reply j => ∀ value, reply = .ok value → NamelessReply (some (toRow value)) j.events)
        (Task.store false op) j := by
    refine ScenarioSafe.perform (fun _ => Stable.forall fun value =>
      (stable_namelessReply _).imp_const) fun j' hlater a => ⟨hquiet _ _ hop, ?_⟩
    rintro value hvalue session hsession hid
    refine ⟨_, List.mem_append_right _ (List.mem_singleton_self _), session, ?_, hid⟩
    rw [hvalue]
    exact (hrow value).trans hsession
  have hexecution {j : RunJournal} :
      ScenarioSafe may (fun reply j => NamelessReply reply j.events)
        (resolveByExecution execution) j := by
    unfold resolveByExecution
    split_ifs
    · exact hnone
    · refine ScenarioSafe.bind (hlookup (.findSessionByExecution _ _) trivial id fun _ => rfl)
        fun reply j hreply => ?_
      cases reply with
      | ok session => exact ScenarioSafe.pure (stable_namelessReply _) (hreply session rfl)
      | error e => exact hnone
  have hsession {j : RunJournal} :
      ScenarioSafe may (fun reply j => NamelessReply reply j.events)
        (resolveBySession execution) j := by
    unfold resolveBySession
    split_ifs
    · exact hexecution
    · refine ScenarioSafe.bind (hlookup (.getSession _) trivial id fun _ => rfl)
        fun reply j hreply => ?_
      cases reply with
      | ok session => exact ScenarioSafe.pure (stable_namelessReply _) (hreply session rfl)
      | error e => exact hexecution
  unfold resolvePersistedSession
  split_ifs
  · exact hsession
  · refine ScenarioSafe.bind (hlookup (.getSessionByBackendSessionId _) trivial id fun _ => rfl)
      fun reply j hreply => ?_
    cases reply with
    | ok session => exact ScenarioSafe.pure (stable_namelessReply _) (hreply session rfl)
    | error e => exact hsession

omit hreport in
/-- Without an error, there is a row unless one without an id was read. -/
theorem safe_buildPersistedSession (backendSessionId : String) (execution : ExecutionContext)
    (services : List ServiceConfig) :
    ScenarioSafe may (fun built j => built = (none, none) → NamelessRead j.events)
      (h.buildPersistedSession backendSessionId execution services) j := by
  have hstable (built : Option Session × Option String) : Stable fun j =>
      built = (none, none) → NamelessRead j.events := stable_namelessRead.imp_const
  refine ScenarioSafe.bind (Quiet.safe hquiet (Uses.perform trivial) stable_true trivial)
    fun now j _ => ?_
  refine ScenarioSafe.bind (safe_resolveNameless hquiet backendSessionId execution)
    fun previous j hprevious => ?_
  cases previous with
  | none =>
      refine ScenarioSafe.bind (Quiet.safe hquiet (Uses.perform trivial) stable_true trivial)
        fun written j _ => ?_
      cases written with
      | ok _ => exact ScenarioSafe.pure (hstable _) (by simp)
      | error e => exact ScenarioSafe.pure (hstable _) (by simp)
  | some persisted =>
      have hupdate : ScenarioSafe may
          (fun updated j => updated = .ok none → NamelessRead j.events)
          (updatePersistedSession false persisted.id fun current =>
            pure (.ok (h.takenSession now backendSessionId execution
              ((Codec.slice ServiceConfig.codec).marshal services) current))) j := by
        unfold updatePersistedSession
        split_ifs with hid
        · exact ScenarioSafe.pure stable_namelessRead.imp_const fun _ => hprevious _ rfl hid
        · exact safe_updateAttempts hquiet (fun _ => Uses.pure _) 3
      refine ScenarioSafe.bind hupdate fun updated j hupdated => ?_
      cases updated with
      | ok updated =>
          refine ScenarioSafe.pure (hstable _) ?_
          rintro hnone
          exact hupdated (congrArg Except.ok (Prod.mk.inj hnone).1)
      | error e => exact ScenarioSafe.pure (hstable _) (by simp)

omit hquiet in
theorem safe_scenarioBody {translated : TranslationResult}
    (hpermits : Permits may translated.tests) (sessionId : String) (execution : ExecutionContext)
    (hresponse : response.success = false) :
    ScenarioSafe may (fun attempt j => Outcome translated.tests attempt.response j.events)
      (h.scenarioBody report sessionId execution translated response) j := by
  have hstable : Stable fun _ : RunJournal => True := stable_true
  refine ScenarioSafe.bind (h.safe_buildPersistedSession hpermits.quiet _ _ _) fun built j hj => ?_
  rcases built with ⟨persisted, _ | e⟩
  · cases persisted with
    | none =>
        exact h.safe_provisionScenario hreport hpermits sessionId execution (fun _ => hj rfl)
          hresponse
    | some p =>
        refine ScenarioSafe.bind (Quiet.safe hpermits.quiet (Uses.perform trivial) hstable trivial)
          fun _ j _ => ?_
        refine ScenarioSafe.bind (h.safe_provisionScenario hreport hpermits sessionId execution
          (fun hnone => by cases hnone) hresponse) fun attempt j hattempt => ?_
        refine ScenarioSafe.bind (Quiet.safe hpermits.quiet (Uses.perform trivial)
          (stable_outcome _ attempt.response) hattempt) fun _ j hattempt => ?_
        exact ScenarioSafe.pure (stable_outcome _ attempt.response) hattempt
  · exact ScenarioSafe.pure (stable_outcome _ _) (outcome_of_failed hresponse)

/-- The deferred cleanup keeps the response, or reports a failed cleanup. -/
theorem safe_deferredCleanup (sessionId : String) (execution : ExecutionContext)
    {attempt : Attempt} (hattempt : Outcome tests attempt.response j.events) :
    ScenarioSafe may (fun response j => Outcome tests response j.events)
      (h.deferredCleanup report sessionId execution attempt) j := by
  have hstable := stable_outcome tests attempt.response
  -- a cleanup that succeeds keeps the response, one that fails makes it a failure
  have hkept {j : RunJournal} (hj : Outcome tests attempt.response j.events) :
      ScenarioSafe may (fun response j => Outcome tests response j.events)
        (pure attempt.response) j :=
    ScenarioSafe.pure hstable hj
  have hfailed (e : ExecutionError) {j : RunJournal} :
      ScenarioSafe may (fun response j => Outcome tests response j.events)
        (pure (cleanupFailure execution e attempt.response).1) j :=
    ScenarioSafe.pure (stable_outcome _ _) (outcome_of_failed rfl)
  unfold deferredCleanup
  split_ifs
  · exact hkept hattempt
  · refine ScenarioSafe.bind (Quiet.safe hquiet
      (quiet_cleanupWorkflowBundleSession hreport sessionId) hstable hattempt)
          fun failure j hj => ?_
    cases failure with
    | some e =>
        cases attempt.persisted with
        | none => exact hfailed e
        | some p =>
            refine ScenarioSafe.bind (Quiet.safe hquiet
              (h.rowUpdate_persistCheckpoint _ _ _ _ _ _).quiet hstable hj) fun _ j hj => ?_
            exact ScenarioSafe.bind (Quiet.safe hquiet (rowUpdate_releaseSessionLease _ _).quiet
              hstable hj)
              fun _ j hj => hfailed e
    | none =>
        cases attempt.persisted with
        | none => exact hkept hj
        | some p =>
            refine ScenarioSafe.bind (Quiet.safe hquiet (Uses.perform trivial) hstable hj)
              fun cause j hj => ?_
            have hrelease {j : RunJournal} (hj : Outcome tests attempt.response j.events) :
                ScenarioSafe may (fun response j => Outcome tests response j.events) (do
                  releaseSessionLease true p.id
                  Pure.pure attempt.response) j :=
              ScenarioSafe.bind (Quiet.safe hquiet (rowUpdate_releaseSessionLease _ _).quiet
                hstable hj)
                fun _ j hj => hkept hj
            rcases cause with _ | cause
            · exact hrelease hj
            · cases cause with
              | cancellationRequested =>
                  exact ScenarioSafe.bind (Quiet.safe hquiet
                    (h.rowUpdate_persistCheckpoint _ _ _ _ _ _).quiet hstable hj)
                        fun _ j hj => hrelease hj
              | leaseLost message =>
                  exact ScenarioSafe.bind (Quiet.safe hquiet
                    (rowUpdate_persistInterruptedSession _).quiet hstable hj)
                    fun _ j hj => hrelease hj
              | shutdown =>
                  exact ScenarioSafe.bind (Quiet.safe hquiet
                    (rowUpdate_persistInterruptedSession _).quiet hstable hj)
                    fun _ j hj => hrelease hj

omit hreport in
/-- The session that a scenario takes up was read. -/
theorem safe_resolvePersistedSession (execution : ExecutionContext) :
    ScenarioSafe may
      (fun reply j => ∀ session, reply = some session → SessionRead session j.events)
      (resolvePersistedSession "" execution) j := by
  have hpost (reply : Option Session) : Stable fun j =>
      ∀ session, reply = some session → SessionRead session j.events :=
    Stable.forall fun session => (stable_sessionRead session).imp_const
  have hnone {j : RunJournal} : ScenarioSafe may
      (fun reply j => ∀ session, reply = some session → SessionRead session j.events)
      (pure none) j := ScenarioSafe.pure (hpost none) (by simp)
  have hsome {session : Session} {j : RunJournal} (hread : SessionRead session j.events) :
      ScenarioSafe may
        (fun reply j => ∀ session, reply = some session → SessionRead session j.events)
        (pure (some session)) j := by
    refine ScenarioSafe.pure (hpost _) ?_
    rintro session' h
    exact Option.some.inj h ▸ hread
  -- by the session id, and by the run and the scenario when that finds none
  have hexecution {j : RunJournal} : ScenarioSafe may
      (fun reply j => ∀ session, reply = some session → SessionRead session j.events)
      (resolveByExecution execution) j := by
    unfold resolveByExecution
    split_ifs
    · exact hnone
    · have hcall : ScenarioSafe may
          (fun reply j => ∀ session, reply = .ok session → SessionRead session j.events)
          (Task.store false (.findSessionByExecution execution.workflowRunId execution.scenarioId))
          j := by
        refine ScenarioSafe.perform (fun _ => Stable.forall fun session =>
          (stable_sessionRead session).imp_const) fun j' hlater a => ⟨hquiet _ _ trivial, ?_⟩
        intro session hsession
        exact .inr ⟨_, _, _, List.mem_append_right _ (List.mem_singleton.2 (by rw [← hsession]))⟩
      refine ScenarioSafe.bind hcall fun reply j hreply => ?_
      cases reply with
      | ok session => exact hsome (hreply session rfl)
      | error e => exact hnone
  rw [resolvePersistedSession, if_pos rfl, resolveBySession]
  split_ifs
  · exact hexecution
  · have hcall : ScenarioSafe may
        (fun reply j => ∀ session, reply = .ok session → SessionRead session j.events)
        (Task.store false (.getSession execution.sessionId)) j := by
      refine ScenarioSafe.perform (fun _ => Stable.forall fun session =>
        (stable_sessionRead session).imp_const) fun j' hlater a => ⟨hquiet _ _ trivial, ?_⟩
      intro session hsession
      exact .inl ⟨_, _, List.mem_append_right _ (List.mem_singleton.2 (by rw [← hsession]))⟩
    refine ScenarioSafe.bind hcall fun reply j hreply => ?_
    cases reply with
    | ok session => exact hsome (hreply session rfl)
    | error e => exact hexecution

omit hreport in
/-- Removing what a session left behind is the first that is done to it. -/
theorem safe_cleanupPersistedSessionResources {previous : Session}
    (hread : SessionRead previous j.events) :
    ScenarioSafe may (fun _ j => Resumed previous j.events)
      (cleanupPersistedSessionResources previous.id 3) j := by
  have hcall : ScenarioSafe may (fun _ j => Resumed previous j.events)
      (Program.perform (Op.cleanResources previous.id)) j := by
    refine ScenarioSafe.perform (fun _ => stable_resumed previous)
      fun j' hlater a => ⟨hquiet _ _ trivial, ?_⟩
    exact ⟨j'.events, _, [], rfl, stable_sessionRead previous hlater hread⟩
  have hstable := stable_resumed previous
  refine ScenarioSafe.bind hcall fun failure j hj => ?_
  cases failure with
  | none => exact ScenarioSafe.pure hstable hj
  | some e =>
  refine ScenarioSafe.bind (Quiet.safe hquiet (Uses.perform trivial) hstable hj)
    fun cause j hj => ?_
  cases cause with
  | some cause => exact ScenarioSafe.pure hstable hj
  | none =>
      exact Quiet.safe hquiet (external_cleanupPersistedSessionResources previous.id 2).quiet hstable hj

omit hreport in
/-- What was interrupted is cleaned up, and finished when only its end was missing. -/
theorem safe_recoverScenario {previous : Session} {translated : TranslationResult}
    (hlist : ∀ events detached id, may events (.store detached (.listTestResults id)))
    (hresponse : response.success = false) (hread : SessionRead previous j.events) :
    ScenarioSafe may
      (fun reply j => ∀ response, reply = some response →
        Outcome translated.tests response j.events)
      (h.recoverScenario previous translated response) j := by
  have hpost (reply : Option ScenarioResponse) : Stable fun j =>
      ∀ response, reply = some response → Outcome translated.tests response j.events :=
    Stable.forall fun response => (stable_outcome _ response).imp_const
  have hends {response : ScenarioResponse} {j : RunJournal}
      (hj : Outcome translated.tests response j.events) : ScenarioSafe may
        (fun reply j => ∀ response, reply = some response →
          Outcome translated.tests response j.events) (pure (some response)) j := by
    refine ScenarioSafe.pure (hpost _) ?_
    rintro response' heq
    exact Option.some.inj heq ▸ hj
  have hresumed := stable_resumed previous
  -- what the interrupted run left behind is removed first
  refine ScenarioSafe.bind (safe_cleanupPersistedSessionResources hquiet hread)
    fun failure j hj => ?_
  cases failure with
  | some e =>
      have hfailed {j : RunJournal} : Outcome translated.tests { response with
          cleanupFailed := true
          error := "failed to clean interrupted scenario resources: " ++ e } j.events :=
        outcome_of_failed hresponse
      refine ScenarioSafe.bind (Quiet.safe hquiet (Uses.perform trivial) hresumed hj)
        fun cause j hj => ?_
      cases cause with
      | some cause => exact hends hfailed
      | none =>
          exact ScenarioSafe.bind (Quiet.safe hquiet (rowUpdate_persistSessionFailure _ _ _).quiet
            hresumed hj)
            fun _ j _ => hends hfailed
  | none =>
  dsimp only
  -- when all tests had run, the response is made of their stored results
  split_ifs with hphase
  · refine ScenarioSafe.bind (safe_loadPersistedResults_some hlist hresumed hj previous)
      fun loaded j hloaded => ?_
    cases loaded with
    | error e => exact hends (outcome_of_failed hresponse)
    | ok byName =>
        have houtcome {j : RunJournal} (hj : Resumed previous j.events ∧ Stored byName j.events)
            (summary : Dto.TestSummary)
            (hsummary : summary.failed = countInt (fun r => !r.passed)
              (orderedResults byName translated.tests)) :
            Outcome translated.tests (withResults
              { response with sessionId := previous.backendSessionId }
              (orderedResults byName translated.tests) summary) j.events := by
          obtain ⟨hprevious, rows, hrows, rfl⟩ := hj
          intro hsuccess
          exact ⟨_, rfl, hsummary ▸ withResults_success hsuccess,
            .inr ⟨previous, rows, hprevious, hphase.1, hphase.2, hrows, rfl⟩⟩
        have hstored : Stable fun j => Resumed previous j.events ∧ Stored byName j.events :=
          hresumed.and (stable_stored byName)
        refine ScenarioSafe.bind (Quiet.safe hquiet
          (h.rowUpdate_persistCheckpoint _ _ _ _ _ _).quiet hstored
          ⟨hloaded.1, hloaded.2 byName rfl⟩) fun _ j hj => ?_
        refine ScenarioSafe.bind (Quiet.safe hquiet (rowUpdate_releaseSessionLease _ _).quiet
          hstored hj)
          fun _ j hj => ?_
        exact hends (houtcome hj _ rfl)
  · exact ScenarioSafe.pure (hpost _) (by simp)

omit hquiet in
theorem safe_runInSession {translated : TranslationResult}
    (hpermits : Permits may translated.tests) (execution : ExecutionContext)
    (hresponse : response.success = false) :
    ScenarioSafe may (fun response j => Outcome translated.tests response j.events)
      (h.runInSession report execution translated response) j := by
  refine ScenarioSafe.bind (Quiet.safe hpermits.quiet (Uses.perform trivial) stable_true trivial)
    fun sessionId j _ => ?_
  refine ScenarioSafe.bind (h.safe_scenarioBody hreport hpermits sessionId execution hresponse)
    fun attempt j hattempt => ?_
  exact h.safe_deferredCleanup hreport hpermits.quiet sessionId execution hattempt

omit hquiet in
/-- **A scenario**: it starts tests only as the journal permits, and a successful response has the
    outcome it should have. -/
theorem safe_runWorkflowBundleScenarioForRun {bundle : Bundle} {scenario : BundleScenario}
    {translated : TranslationResult}
    (htranslated : bundle.translateScenario scenario = .ok translated)
    (hpermits : Permits may translated.tests) (execution : ExecutionContext) :
    ScenarioSafe may (fun response j => Outcome translated.tests response j.events)
      (h.runWorkflowBundleScenarioForRun report bundle scenario execution) j := by
  have hresponse (summary : Dto.TestSummary) : ({ scenarioName := scenario.name, summary } :
      ScenarioResponse).success = false := rfl
  unfold runWorkflowBundleScenarioForRun
  rw [htranslated]
  refine ScenarioSafe.bind (safe_resolvePersistedSession hpermits.quiet execution)
    fun previous j hread => ?_
  cases previous with
  | none => exact h.safe_runInSession hreport hpermits execution (hresponse _)
  | some previous =>
  dsimp only
  split_ifs
  · exact h.safe_runInSession hreport hpermits execution (hresponse _)
  · refine ScenarioSafe.bind (h.safe_recoverScenario hpermits.quiet hpermits.list (hresponse _)
      (hread previous rfl)) fun reply j hreply => ?_
    cases reply with
    | some response => exact ScenarioSafe.pure (stable_outcome _ response) (hreply response rfl)
    | none => exact h.safe_runInSession hreport hpermits execution (hresponse _)

end Parts

end Handler

end TokyoTester
