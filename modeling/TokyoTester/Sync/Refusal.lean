import TokyoTester.Sync.Changes

set_option autoImplicit false

/-! # The changes that are refused

One failed change rolls its batch back. `SyncChange.refused` says, from the state a change is
processed in, when that happens: data that does not decode or does not fit its columns, a parent
row that is missing, an update of a row that is not there, a statement that fails. -/

namespace TokyoTester

open Table Versioned

/-! ## The conditions, entity by entity -/

/-- An insert that sees no live row against it has to fit; an update of a row that has its version
    has to fit, and any other one needs a live row. -/
def refusedWorkflow (change : SyncChange) (data : Option Workflow) (userId : String)
    (faults : StatementFaults) (now : Time) (db : Database) : Bool :=
  match change.changeType, data with
  | .delete, _ => faults.write.isSome
  | _, none => true
  | .insert, some d =>
    (faults.read.isSome || (getLive d.id db.workflows).isNone) &&
      (faults.write.isSome || !(workflowRow userId now d 1).fits)
  | .update, some d =>
    faults.write.isSome ||
      if db.workflows.any (matchesVersion d.id change.clientVersion) then
        !(workflowRow userId now d 1).fits
      else faults.read.isSome || (getLive d.id db.workflows).isNone

/-- As for workflows, and the workflow of a row that is written has to exist. -/
def refusedScenario (change : SyncChange) (data : Option Scenario) (userId : String)
    (faults : StatementFaults) (now : Time) (db : Database) : Bool :=
  match change.changeType, data with
  | .delete, _ => faults.write.isSome
  | _, none => true
  | .insert, some d =>
    (faults.read.isSome || (getLive d.id db.scenarios).isNone) &&
      (faults.write.isSome ||
        (!(scenarioRow userId now d 1).fits || !db.workflowExists d.workflowId))
  | .update, some d =>
    faults.write.isSome ||
      if db.scenarios.any (matchesVersion d.id change.clientVersion) then
        !(scenarioRow userId now d 1).fits || !db.workflowExists d.workflowId
      else faults.read.isSome || (getLive d.id db.scenarios).isNone

def refusedWorkflowRun (change : SyncChange) (data : Option WorkflowRun) (userId : String)
    (faults : StatementFaults) (db : Database) : Bool :=
  match change.changeType, data with
  | .delete, _ => faults.write.isSome
  | _, none => true
  | _, some d =>
    (db.workflowRuns.all fun r => decide (r.id ≠ d.id) ||
        writesOver change faults.read.isSome r.isDeleted r.updatedAt) &&
      (faults.write.isSome ||
        (!({ d with userId } : WorkflowRun).fits || !db.workflowExists d.workflowId))

/-- A session that would not change its row is refused too. -/
def refusedSession (change : SyncChange) (data : Option Session) (userId : String)
    (faults : StatementFaults) (db : Database) : Bool :=
  match change.changeType, data with
  | .delete, _ => faults.write.isSome
  | _, none => true
  | _, some d =>
    (db.sessions.all fun s => decide (s.id ≠ d.id) ||
        writesOver change faults.read.isSome s.isDeleted s.updatedAt) &&
      (faults.write.isSome ||
        (!({ d with userId } : Session).fits || !db.workflowExists d.workflowId ||
          db.sessions.any fun s =>
            decide ({ d with userId, id := s.id, createdAt := s.createdAt } = s) &&
              decide (s.id = d.id)))

/-- A new result needs its session. -/
def refusedTestResult (change : SyncChange) (data : Option TestResult) (userId : String)
    (faults : StatementFaults) (db : Database) : Bool :=
  match change.changeType, data with
  | .delete, _ => faults.write.isSome
  | _, none => true
  | _, some d =>
    faults.write.isSome ||
      (!({ d with userId } : TestResult).fits || !db.workflowExists d.workflowId ||
        ((db.testResults.all fun r => decide (r.id ≠ d.id)) &&
          !db.sessions.any fun s => decide (s.id = d.sessionId)))

/-- The changes that fail. -/
def SyncChange.refused (change : SyncChange) (userId : String) (faults : StatementFaults)
    (now : Time) (db : Database) : Bool :=
  match change.data with
  | .workflow data => refusedWorkflow change data userId faults now db
  | .scenario data => refusedScenario change data userId faults now db
  | .workflowRun data => refusedWorkflowRun change data userId faults db
  | .scenarioRun data => refusedSession change data userId faults db
  | .testResult data => refusedTestResult change data userId faults db

section

variable {db : Database} {change : SyncChange} {userId : String} {faults : StatementFaults}
  {now : Time}

theorem upsertWorkflow_error_iff {w : Workflow} :
    (∃ e, db.upsertWorkflow w = .error e) ↔ w.fits = false := by
  unfold Database.upsertWorkflow
  rw [Transaction.guard_eq_error]
  simp

theorem updateWorkflowIfVersion_error_iff {w : Workflow} {base : Int}
    (hk : Keyed Workflow.id db.workflows) (hversion : w.version = base + 1) :
    (∃ e, db.updateWorkflowIfVersion w base = .error e) ↔
      (∃ r ∈ db.workflows, matchesVersion w.id base r = true) ∧ w.fits = false := by
  unfold Database.updateWorkflowIfVersion
  dsimp only
  rw [Transaction.guard_eq_error, Bool.and_eq_true, updateIfVersion_fst hk hversion]
  simp [VersionedRow.key]

theorem upsertScenario_error_iff {s : Scenario} :
    (∃ e, db.upsertScenario s = .error e) ↔
      s.fits = false ∨ db.workflowExists s.workflowId = false := by
  unfold Database.upsertScenario
  rw [Transaction.guard_eq_error, Transaction.guard_eq_error]
  simp

theorem updateScenarioIfVersion_error_iff {s : Scenario} {base : Int}
    (hk : Keyed Scenario.id db.scenarios) (hversion : s.version = base + 1) :
    (∃ e, db.updateScenarioIfVersion s base = .error e) ↔
      (∃ r ∈ db.scenarios, matchesVersion s.id base r = true) ∧
        (s.fits = false ∨ db.workflowExists s.workflowId = false) := by
  unfold Database.updateScenarioIfVersion
  dsimp only
  rw [Transaction.guard_eq_error, Transaction.guard_eq_error, Bool.and_eq_true, Bool.and_eq_true,
    updateIfVersion_fst hk hversion, and_or_left]
  simp [VersionedRow.key]

theorem upsertWorkflowRun_error_iff {run : WorkflowRun} :
    (∃ e, db.upsertWorkflowRun run = .error e) ↔
      run.fits = false ∨ db.workflowExists run.workflowId = false := by
  unfold Database.upsertWorkflowRun
  rw [Transaction.guard_eq_error, Transaction.guard_eq_error]
  simp

theorem upsertTestResult_error_iff {result : TestResult} :
    (∃ e, db.upsertTestResult result now = .error e) ↔
      result.fits = false ∨ db.workflowExists result.workflowId = false ∨
        ((∀ r ∈ db.testResults, r.id ≠ result.id) ∧
          ∀ s ∈ db.sessions, s.id ≠ result.sessionId) := by
  unfold Database.upsertTestResult
  dsimp only
  rw [Transaction.guard_eq_error, Transaction.guard_eq_error, Transaction.guard_eq_error]
  simp [find_eq_none]

theorem upsertSession_error_iff {session : Session} (hk : Keyed Session.id db.sessions) :
    (∃ e, db.upsertSession session = .error e) ↔
      session.fits = false ∨ db.workflowExists session.workflowId = false ∨
        ∃ old ∈ db.sessions, old.id = session.id ∧
          { session with id := old.id, createdAt := old.createdAt } = old := by
  have hdual : (∃ e, db.upsertSession session = .error e) ↔
      ¬ ∃ db', db.upsertSession session = .ok db' := by
    cases db.upsertSession session <;> simp
  rw [hdual, upsertSession_ok_iff]
  constructor
  · intro hnot
    by_contra hnone
    apply hnot
    simp only [not_or, Bool.not_eq_false, not_exists, not_and] at hnone
    refine ⟨hnone.1, hnone.2.1, fun old hold => ?_⟩
    obtain ⟨hmem, hid⟩ := find_some hold
    exact hnone.2.2 old hmem hid
  · rintro hbad ⟨hfits, hworkflow, hchanges⟩
    rcases hbad with hbad | hbad | ⟨old, hmem, hid, hsame⟩
    · rw [hfits] at hbad
      cases hbad
    · rw [hworkflow] at hbad
      cases hbad
    · exact hchanges old (hid ▸ hk.find_mem hmem) hsame

/-- A change of a versioned entity fails when its statement does, or when it updates a row that
    is not there or not read. -/
def EntityFails {ρ : Type} [VersionedRow ρ] (store : EntityStore ρ) (faults : StatementFaults)
    (change : SyncChange) (row : Option (Int → ρ)) (t : List ρ) (db : Database) : Prop :=
  match change.changeType, row with
  | .delete, _ => faults.write.isSome = true
  | _, none => True
  | .insert, some mk =>
      (faults.read.isSome = true ∨ getLive (VersionedRow.key (mk 1)) t = none) ∧
        (faults.write.isSome = true ∨ ∃ e, store.upsert (mk 1) db = .error e)
  | .update, some mk =>
      faults.write.isSome = true ∨
        (∃ e, store.updateIfVersion (mk (change.clientVersion + 1)) change.clientVersion db
          = .error e) ∨
        (¬ ∃ r ∈ t, matchesVersion (VersionedRow.key (mk 1)) change.clientVersion r = true) ∧
          (faults.read.isSome = true ∨ getLive (VersionedRow.key (mk 1)) t = none)

theorem processEntityChange_error_iff {ρ α : Type} [DecidableEq ρ] [VersionedRow ρ]
    {store : EntityStore ρ} {table : Database → List ρ} {rest : Database → α}
    (law : LawfulStore store table rest) {row : Option (Int → ρ)}
    (hk : Keyed (VersionedRow.key : ρ → String) (table db))
    (hversion : ∀ mk, row = some mk → ∀ v, VersionedRow.version (mk v) = v)
    (hid : ∀ mk, row = some mk → ∀ v, VersionedRow.key (mk v) = VersionedRow.key (mk 1))
    (hdelete : ∀ k base, ∃ r, store.deleteIfVersion k base now db = .ok r) :
    (∃ e, processEntityChange (store.withFaults faults) change row now db = .error e) ↔
      EntityFails store faults change row (table db) db := by
  unfold EntityFails
  unfold processEntityChange
  dsimp only
  cases hct : change.changeType with
  | insert =>
      cases hrow : row with
      | none => simp
      | some mk =>
          dsimp only
          cases hget : (store.withFaults faults).get (VersionedRow.key (mk 1)) db with
          | ok existing =>
              obtain ⟨hread, hfound⟩ := failing_eq_ok.1 hget
              simp [hread, law.get hfound]
          | error e =>
              have hwrite : (∃ e, (store.withFaults faults).upsert (mk 1) db = .error e) ↔
                  faults.write.isSome = true ∨ ∃ e, store.upsert (mk 1) db = .error e :=
                failing_eq_error
              dsimp only
              rw [Transaction.bind_eq_error, hwrite, and_iff_right (law.unseen hget)]
              simp [pure, Except.pure]
  | update =>
      cases hrow : row with
      | none => simp
      | some mk =>
          have hwrite : (∃ e, (store.withFaults faults).updateIfVersion
              (mk (change.clientVersion + 1)) change.clientVersion db = .error e) ↔
              faults.write.isSome = true ∨ ∃ e, store.updateIfVersion
                (mk (change.clientVersion + 1)) change.clientVersion db = .error e :=
            failing_eq_error
          dsimp only
          rw [Transaction.bind_eq_error, hwrite, or_assoc]
          refine or_congr_right' fun hfine => or_congr_right' fun hok => ?_
          cases hup : store.updateIfVersion (mk (change.clientVersion + 1))
              change.clientVersion db with
          | error e => exact absurd ⟨e, hup⟩ hok
          | ok r =>
              obtain ⟨updated, db₁⟩ := r
              have hdone : (store.withFaults faults).updateIfVersion (mk (change.clientVersion + 1))
                  change.clientVersion db = .ok (updated, db₁) :=
                failing_eq_ok.2 ⟨Bool.eq_false_iff.2 hfine, hup⟩
              have htable := (law.update hup).1
              have hfst := updateIfVersion_fst hk (hversion mk hrow (change.clientVersion + 1))
              rw [← htable, hid mk hrow] at hfst
              cases updated with
              | true =>
                  -- the row that was updated has the version
                  refine iff_of_false ?_ fun hmissed => hmissed.1 (hfst.1 rfl)
                  rintro ⟨out, hout, e, he⟩
                  rw [hdone] at hout
                  rw [← Except.ok.inj hout] at he
                  simp [pure, Except.pure] at he
              | false =>
                  -- nothing was written, so the lookup sees the same table
                  have hmiss : ¬ ∃ r ∈ table db, matchesVersion (VersionedRow.key (mk 1))
                      change.clientVersion r = true := by
                    rw [← hfst]
                    simp
                  have hsame : table db₁ = table db := by
                    have hsnd := congrArg Prod.snd htable
                    dsimp only at hsnd
                    rw [hsnd, updateIfVersion_missed]
                    rwa [hid mk hrow]
                  cases hget : (store.withFaults faults).get
                      (VersionedRow.key (mk (change.clientVersion + 1))) db₁ with
                  | ok existing =>
                      obtain ⟨hread, hfound⟩ := failing_eq_ok.1 hget
                      have hlive := law.get hfound
                      rw [hsame, hid mk hrow] at hlive
                      refine iff_of_false ?_ ?_
                      · rintro ⟨out, hout, e, he⟩
                        rw [hdone] at hout
                        rw [← Except.ok.inj hout] at he
                        simp [hget, pure, Except.pure] at he
                      · simp [hread, hlive]
                  | error e =>
                      have hunseen := law.unseen hget
                      rw [hsame, hid mk hrow] at hunseen
                      exact iff_of_true ⟨_, hdone, _, by simp [hget]; rfl⟩ ⟨hmiss, hunseen⟩
  | delete =>
      obtain ⟨⟨deleted, db₁⟩, hdel⟩ := hdelete change.entityId change.clientVersion
      have hwrite : (∃ e, (store.withFaults faults).deleteIfVersion change.entityId
          change.clientVersion now db = .error e) ↔ faults.write.isSome = true := by
        refine failing_eq_error.trans (or_iff_left ?_)
        rintro ⟨e, he⟩
        rw [hdel] at he
        cases he
      cases hrow : row with
      | _ =>
        dsimp only
        rw [Transaction.bind_eq_error, hwrite]
        refine or_iff_left ?_
        rintro ⟨r, hr, e, he⟩
        split at he
        · cases he
        · split at he
          · cases he
          · cases he

theorem processWorkflowChangeInTx_error_iff {data : Option Workflow}
    (hk : Keyed Workflow.id db.workflows) :
    (∃ e, processWorkflowChangeInTx change data userId faults now db = .error e) ↔
      refusedWorkflow change data userId faults now db = true := by
  unfold processWorkflowChangeInTx
  rw [processEntityChange_error_iff workflowStore_lawful hk
    (by
      intro mk hmk v
      obtain ⟨d, -, rfl⟩ := Option.map_eq_some_iff.1 hmk
      rfl)
    (by
      intro mk hmk v
      obtain ⟨d, -, rfl⟩ := Option.map_eq_some_iff.1 hmk
      rfl)
    (fun k base => ⟨_, rfl⟩)]
  unfold EntityFails refusedWorkflow
  cases change.changeType with
  | insert =>
      cases data with
      | none => simp
      | some d =>
          simp only [Option.map_some, workflowStore, upsertWorkflow_error_iff, Bool.and_eq_true,
            Bool.or_eq_true, Option.isNone_iff_eq_none, Bool.not_eq_true']
          rfl
  | update =>
      cases data with
      | none => simp
      | some d =>
          have hup := updateWorkflowIfVersion_error_iff
            (w := workflowRow userId now d (change.clientVersion + 1)) hk rfl
          simp only [Option.map_some, workflowStore, hup, Bool.or_eq_true]
          refine or_congr_right ?_
          show (∃ r ∈ db.workflows, matchesVersion d.id change.clientVersion r = true) ∧
              (workflowRow userId now d 1).fits = false ∨
            (¬ ∃ r ∈ db.workflows, matchesVersion d.id change.clientVersion r = true) ∧
              (faults.read.isSome = true ∨ getLive d.id db.workflows = none) ↔ _
          rw [← List.any_eq_true]
          split_ifs with hmatch
          · simp [hmatch]
          · simp [hmatch]
  | delete => cases data <;> simp

theorem processScenarioChangeInTx_error_iff {data : Option Scenario}
    (hk : Keyed Scenario.id db.scenarios) :
    (∃ e, processScenarioChangeInTx change data userId faults now db = .error e) ↔
      refusedScenario change data userId faults now db = true := by
  unfold processScenarioChangeInTx
  rw [processEntityChange_error_iff scenarioStore_lawful hk
    (by
      intro mk hmk v
      obtain ⟨d, -, rfl⟩ := Option.map_eq_some_iff.1 hmk
      rfl)
    (by
      intro mk hmk v
      obtain ⟨d, -, rfl⟩ := Option.map_eq_some_iff.1 hmk
      rfl)
    (fun k base => ⟨_, rfl⟩)]
  unfold EntityFails refusedScenario
  cases change.changeType with
  | insert =>
      cases data with
      | none => simp
      | some d =>
          simp only [Option.map_some, scenarioStore, upsertScenario_error_iff, Bool.and_eq_true,
            Bool.or_eq_true, Option.isNone_iff_eq_none, Bool.not_eq_true']
          rfl
  | update =>
      cases data with
      | none => simp
      | some d =>
          have hup := updateScenarioIfVersion_error_iff
            (s := scenarioRow userId now d (change.clientVersion + 1)) hk rfl
          simp only [Option.map_some, scenarioStore, hup, Bool.or_eq_true]
          refine or_congr_right ?_
          show (∃ r ∈ db.scenarios, matchesVersion d.id change.clientVersion r = true) ∧
              ((scenarioRow userId now d 1).fits = false ∨
                db.workflowExists d.workflowId = false) ∨
            (¬ ∃ r ∈ db.scenarios, matchesVersion d.id change.clientVersion r = true) ∧
              (faults.read.isSome = true ∨ getLive d.id db.scenarios = none) ↔ _
          -- the update fails by its columns when a row matches, else by the row that is read
          rw [← List.any_eq_true]
          split_ifs with hmatch
          · simp [hmatch]
          · simp [hmatch]
  | delete => cases data <;> simp

/-- A change of a run or a session reaches its statement when no live row is read to be newer. -/
theorem writesOver_all_iff {ρ : Type} {key : ρ → String} {isDeleted : ρ → Bool}
    {updatedAt : ρ → Time} {t : List ρ} (hk : Keyed key t) {k : String} {unread : Bool} :
    (unread = false → ∀ existing,
      t.find? (fun r => decide (key r = k) && !isDeleted r) = some existing →
      ¬ change.clientTime < updatedAt existing) ↔
    (t.all fun r => decide (key r ≠ k) || writesOver change unread (isDeleted r) (updatedAt r))
      = true := by
  constructor
  · intro hold
    rw [List.all_eq_true]
    intro r hr
    by_cases hid : key r = k
    · simp [writesOver_of_live hk hold hr hid]
    · simp [hid]
  · intro hall hunread existing hfind hnewer
    obtain ⟨hlive, -⟩ := eq_of_live hk hfind
    have hprop := List.find?_some hfind
    have := List.all_eq_true.1 hall existing (List.mem_of_find?_eq_some hfind)
    simp only [Bool.and_eq_true, decide_eq_true_eq] at hprop
    simp [hprop.1, writesOver, hunread, hlive, not_le.2 hnewer] at this

theorem processWorkflowRunChangeInTx_error_iff {data : Option WorkflowRun}
    (hk : Keyed WorkflowRun.id db.workflowRuns) :
    (∃ e, processWorkflowRunChangeInTx change data userId faults now db = .error e) ↔
      refusedWorkflowRun change data userId faults db = true := by
  unfold processWorkflowRunChangeInTx refusedWorkflowRun
  cases data with
  | none => cases change.changeType <;> simp [failing_eq_error]
  | some d =>
      cases change.changeType with
      | delete => simp [failing_eq_error]
      | _ =>
        dsimp only
        rw [Bool.and_eq_true, ← writesOver_all_iff hk]
        cases hget : failing faults.read (db.getWorkflowRun d.id) with
        | error e =>
            rw [and_iff_right]
            · rw [Transaction.bind_eq_error, failing_eq_error, upsertWorkflowRun_error_iff]
              simp [pure, Except.pure]
            · intro hread existing hfind
              rw [failing_eq_ok.2 ⟨hread, getWorkflowRun_eq_ok.2 hfind⟩] at hget
              cases hget
        | ok existing =>
            obtain ⟨hread, hfound⟩ := failing_eq_ok.1 hget
            have hfind := getWorkflowRun_eq_ok.1 hfound
            dsimp only
            split_ifs with hnewer
            · exact iff_of_false (by simp) fun h => h.1 hread existing hfind hnewer
            · rw [and_iff_right]
              · rw [Transaction.bind_eq_error, failing_eq_error, upsertWorkflowRun_error_iff]
                simp [pure, Except.pure]
              · intro _ other hother
                rw [hfind] at hother
                rwa [← Option.some.inj hother]

theorem processSessionChangeInTx_error_iff {data : Option Session}
    (hk : Keyed Session.id db.sessions) :
    (∃ e, processSessionChangeInTx change data userId faults now db = .error e) ↔
      refusedSession change data userId faults db = true := by
  unfold processSessionChangeInTx refusedSession
  cases data with
  | none => cases change.changeType <;> simp [failing_eq_error]
  | some d =>
      cases change.changeType with
      | delete => simp [failing_eq_error]
      | _ =>
        dsimp only
        rw [Bool.and_eq_true, ← writesOver_all_iff hk]
        cases hget : failing faults.read (db.getSession d.id) with
        | error e =>
            rw [and_iff_right]
            · rw [Transaction.bind_eq_error, failing_eq_error, upsertSession_error_iff hk]
              simp [pure, Except.pure, or_assoc, and_comm]
            · intro hread existing hfind
              rw [failing_eq_ok.2 ⟨hread, getSession_eq_ok.2 hfind⟩] at hget
              cases hget
        | ok existing =>
            obtain ⟨hread, hfound⟩ := failing_eq_ok.1 hget
            have hfind := getSession_eq_ok.1 hfound
            dsimp only
            split_ifs with hnewer
            · exact iff_of_false (by simp) fun h => h.1 hread existing hfind hnewer
            · rw [and_iff_right]
              · rw [Transaction.bind_eq_error, failing_eq_error, upsertSession_error_iff hk]
                simp [pure, Except.pure, or_assoc, and_comm]
              · intro _ other hother
                rw [hfind] at hother
                rwa [← Option.some.inj hother]

theorem processTestResultChangeInTx_error_iff {data : Option TestResult} :
    (∃ e, processTestResultChangeInTx change data userId faults now db = .error e) ↔
      refusedTestResult change data userId faults db = true := by
  unfold processTestResultChangeInTx refusedTestResult
  cases data with
  | none => cases change.changeType <;> simp [failing_eq_error]
  | some d =>
      cases change.changeType with
      | delete => simp [failing_eq_error]
      | _ =>
        dsimp only
        rw [Transaction.bind_eq_error, failing_eq_error, upsertTestResult_error_iff]
        simp [pure, Except.pure, or_assoc]

/-- **A change fails exactly when it is refused.** -/
theorem processChangeInTx_error_iff (hk : KeyedTables db) :
    (∃ e, processChangeInTx userId faults now change db = .error e) ↔
      change.refused userId faults now db = true := by
  unfold processChangeInTx SyncChange.refused
  cases change.data with
  | workflow data => exact processWorkflowChangeInTx_error_iff (hk .workflow)
  | scenario data => exact processScenarioChangeInTx_error_iff (hk .scenario)
  | workflowRun data => exact processWorkflowRunChangeInTx_error_iff (hk .workflowRun)
  | scenarioRun data => exact processSessionChangeInTx_error_iff (hk .session)
  | testResult data => exact processTestResultChangeInTx_error_iff

end

end TokyoTester
