import TokyoTester.Database.Revisions
import TokyoTester.Sync.Server
import TokyoTester.Library.Trace

set_option autoImplicit false

/-! # Versions of workflows and scenarios over whole runs

An update and a deletion store the version after the one they checked, so a row that changed has
a greater version. An insert does not: it writes version 1 over whatever row its id has when it sees
no live one, and a soft-deleted row or a live one whose read fails is such a row. `keepsDeleted`
excludes that step. Runs without it keep versions monotone, and a version then identifies the row's
contents (`sync_versions_monotone`); one such step brings an old version back
(`sync_version_reset`). -/

namespace TokyoTester

open Table Versioned

/-! ## The statements, table by table -/

/-- What a store's statements do to its own table when they succeed, and that they leave `rest`
    alone. -/
structure SoundStore {ρ α : Type} [DecidableEq ρ] [VersionedRow ρ] (store : EntityStore ρ)
    (table : Database → List ρ) (rest : Database → α) : Prop where
  get : ∀ {k db r}, store.get k db = .ok r → getLive k (table db) = some r
  upsert : ∀ {row db db'}, store.upsert row db = .ok db' →
    table db' = upsertRow row (table db) ∧ rest db' = rest db
  update : ∀ {row base db b db'}, store.updateIfVersion row base db = .ok (b, db') →
    (b, table db') = updateIfVersion row base (table db) ∧ rest db' = rest db
  delete : ∀ {k base now db b db'}, store.deleteIfVersion k base now db = .ok (b, db') →
    (b, table db') = deleteIfVersion k base now (table db) ∧ rest db' = rest db

/-- Its reads moreover find every live row. -/
structure LawfulStore {ρ α : Type} [DecidableEq ρ] [VersionedRow ρ] (store : EntityStore ρ)
    (table : Database → List ρ) (rest : Database → α) : Prop extends
    SoundStore store table rest where
  finds : ∀ {k db r}, getLive k (table db) = some r → store.get k db = .ok r

theorem workflowStore_lawful :
    LawfulStore workflowStore Database.workflows (fun db => { db with workflows := [] }) where
  get {k db r} h := by
    simp only [workflowStore, Database.getWorkflow] at h
    cases hlive : getLive k db.workflows <;> simp_all
  finds {k db r} h := by
    simp only [workflowStore, Database.getWorkflow, h]
  upsert {row db db'} h := by
    simp only [workflowStore, Database.upsertWorkflow] at h
    split_ifs at h
    rw [← Except.ok.inj h]
    exact ⟨rfl, rfl⟩
  update {row base db b db'} h := by
    simp only [workflowStore, Database.updateWorkflowIfVersion] at h
    split_ifs at h
    obtain ⟨rfl, rfl⟩ := Prod.mk.inj (Except.ok.inj h)
    exact ⟨rfl, rfl⟩
  delete {k base now db b db'} h := by
    simp only [workflowStore, Database.deleteWorkflowIfVersion] at h
    obtain ⟨rfl, rfl⟩ := Prod.mk.inj (Except.ok.inj h)
    exact ⟨rfl, rfl⟩

theorem scenarioStore_lawful :
    LawfulStore scenarioStore Database.scenarios (fun db => { db with scenarios := [] }) where
  get {k db r} h := by
    simp only [scenarioStore, Database.getScenario] at h
    cases hlive : getLive k db.scenarios <;> simp_all
  finds {k db r} h := by
    simp only [scenarioStore, Database.getScenario, h]
  upsert {row db db'} h := by
    simp only [scenarioStore, Database.upsertScenario] at h
    split_ifs at h
    rw [← Except.ok.inj h]
    exact ⟨rfl, rfl⟩
  update {row base db b db'} h := by
    simp only [scenarioStore, Database.updateScenarioIfVersion] at h
    split_ifs at h
    obtain ⟨rfl, rfl⟩ := Prod.mk.inj (Except.ok.inj h)
    exact ⟨rfl, rfl⟩
  delete {k base now db b db'} h := by
    simp only [scenarioStore, Database.deleteScenarioIfVersion] at h
    obtain ⟨rfl, rfl⟩ := Prod.mk.inj (Except.ok.inj h)
    exact ⟨rfl, rfl⟩

section

variable {α : Type} {fault : Option DbError} {statement : Except DbError α}

/-- A statement succeeds without an error of its own. -/
theorem failing_eq_ok {a : α} :
    failing fault statement = .ok a ↔ fault.isSome = false ∧ statement = .ok a := by
  cases fault <;> simp [failing]

theorem failing_ok {a : α} (h : failing fault statement = .ok a) : statement = .ok a :=
  (failing_eq_ok.1 h).2

theorem failing_eq_error :
    (∃ e, failing fault statement = .error e) ↔
      fault.isSome = true ∨ ∃ e, statement = .error e := by
  cases fault <;> simp [failing]

end

/-- The statements of a change do what they do, or fail. -/
theorem LawfulStore.withFaults {ρ α : Type} [DecidableEq ρ] [VersionedRow ρ]
    {store : EntityStore ρ} {table : Database → List ρ} {rest : Database → α}
    (law : LawfulStore store table rest) (faults : StatementFaults) :
    SoundStore (store.withFaults faults) table rest where
  get h := law.get (failing_ok h)
  upsert h := law.upsert (failing_ok h)
  update h := law.update (failing_ok h)
  delete h := law.delete (failing_ok h)

/-- What a change keeps of a versioned table: unique ids, and versions that only grow. -/
structure TableStep {ρ : Type} [VersionedRow ρ] (t t' : List ρ) : Prop where
  keyed : Keyed (VersionedRow.key : ρ → String) t → Keyed (VersionedRow.key : ρ → String) t'
  advances : Advances t t'

section

variable {ρ : Type} [VersionedRow ρ] {t t' t'' : List ρ}

theorem TableStep.refl (t : List ρ) : TableStep t t := ⟨fun h => h, .refl t⟩

theorem TableStep.of_eq (h : t' = t) : TableStep t t' := by
  subst h
  exact .refl t'

theorem TableStep.trans (h₁ : TableStep t t') (h₂ : TableStep t' t'') : TableStep t t'' :=
  ⟨fun h => h₂.keyed (h₁.keyed h), h₁.advances.trans h₂.advances⟩

theorem TableStep.update [DecidableEq ρ] {row : ρ} {base : Int}
    (hrow : VersionedRow.version row = base + 1) :
    TableStep t (updateIfVersion row base t).2 :=
  ⟨keyed_updateIfVersion, advances_updateIfVersion hrow⟩

theorem TableStep.delete [DecidableEq ρ] {k : String} {base now : Int} :
    TableStep t (deleteIfVersion k base now t).2 :=
  ⟨keyed_deleteIfVersion, advances_deleteIfVersion⟩

theorem TableStep.create {row : ρ} (h : ∀ r ∈ t, VersionedRow.key r ≠ VersionedRow.key row) :
    TableStep t (upsertRow row t) :=
  ⟨keyed_upsertRow, advances_upsertRow h⟩

end

/-- The conflict of a change with a row. -/
def conflictWith {ρ : Type} [VersionedRow ρ] (store : EntityStore ρ) (change : SyncChange)
    (id : String) (existing : ρ) : ConflictInfo :=
  appendConflict store.name id change.clientVersion (VersionedRow.version existing)
    (store.current existing)

/-- What a change that succeeds has run, with the conflicts it reports. -/
theorem processEntityChange_ok {ρ : Type} [VersionedRow ρ] {store : EntityStore ρ}
    {change : SyncChange} {row : Option (Int → ρ)} {now : Time} {db db' : Database}
    {conflicts : List ConflictInfo}
    (h : processEntityChange store change row now db = .ok (conflicts, db')) :
    (∃ mk, change.changeType = .insert ∧ row = some mk ∧
      ((∃ existing, store.get (VersionedRow.key (mk 1)) db = .ok existing ∧ db' = db ∧
          conflicts = [conflictWith store change (VersionedRow.key (mk 1)) existing]) ∨
        (∃ e, store.get (VersionedRow.key (mk 1)) db = .error e) ∧
          store.upsert (mk 1) db = .ok db' ∧ conflicts = [])) ∨
    (∃ mk updated, change.changeType = .update ∧ row = some mk ∧
      store.updateIfVersion (mk (change.clientVersion + 1)) change.clientVersion db
        = .ok (updated, db') ∧
      (updated = true ∧ conflicts = [] ∨
        ∃ existing, updated = false ∧
          store.get (VersionedRow.key (mk (change.clientVersion + 1))) db' = .ok existing ∧
          conflicts = [conflictWith store change
            (VersionedRow.key (mk (change.clientVersion + 1))) existing])) ∨
    ∃ deleted, change.changeType = .delete ∧
      store.deleteIfVersion change.entityId change.clientVersion now db = .ok (deleted, db') ∧
      (deleted = true ∧ conflicts = [] ∨
        (∃ existing, deleted = false ∧ store.get change.entityId db' = .ok existing ∧
          conflicts = [conflictWith store change change.entityId existing]) ∨
        ∃ e, deleted = false ∧ store.get change.entityId db' = .error e ∧ conflicts = []) := by
  unfold processEntityChange at h
  dsimp only at h
  split at h
  · cases h
  · cases h
  · rename_i mk hct
    -- an insert never runs over a row that its read has found
    refine .inl ⟨mk, hct, rfl, ?_⟩
    split at h
    · rename_i existing hget
      obtain ⟨rfl, rfl⟩ := Prod.mk.inj (Except.ok.inj h)
      exact .inl ⟨existing, hget, rfl, rfl⟩
    · rename_i e hget
      obtain ⟨db₁, hup, hdb⟩ := Transaction.bind_eq_ok.1 h
      obtain ⟨rfl, rfl⟩ := Prod.mk.inj (Except.ok.inj hdb)
      exact .inr ⟨⟨e, hget⟩, hup, rfl⟩
  · rename_i mk hct
    obtain ⟨⟨updated, db₁⟩, hup, hdb⟩ := Transaction.bind_eq_ok.1 h
    dsimp only at hdb
    cases updated with
    | true =>
        obtain ⟨rfl, rfl⟩ := Prod.mk.inj (Except.ok.inj hdb)
        exact .inr (.inl ⟨mk, true, hct, rfl, hup, .inl ⟨rfl, rfl⟩⟩)
    | false =>
        rw [if_neg Bool.false_ne_true] at hdb
        split at hdb
        · rename_i existing hget
          obtain ⟨rfl, rfl⟩ := Prod.mk.inj (Except.ok.inj hdb)
          exact .inr (.inl ⟨mk, false, hct, rfl, hup, .inr ⟨existing, rfl, hget, rfl⟩⟩)
        · cases hdb
  · rename_i hct
    obtain ⟨⟨deleted, db₁⟩, hdel, hdb⟩ := Transaction.bind_eq_ok.1 h
    dsimp only at hdb
    cases deleted with
    | true =>
        obtain ⟨rfl, rfl⟩ := Prod.mk.inj (Except.ok.inj hdb)
        exact .inr (.inr ⟨true, hct, hdel, .inl ⟨rfl, rfl⟩⟩)
    | false =>
        rw [if_neg Bool.false_ne_true] at hdb
        split at hdb
        · rename_i existing hget
          obtain ⟨rfl, rfl⟩ := Prod.mk.inj (Except.ok.inj hdb)
          exact .inr (.inr ⟨false, hct, hdel, .inr (.inl ⟨existing, rfl, hget, rfl⟩)⟩)
        -- a deletion of a row that is gone is no conflict
        · rename_i e hget
          obtain ⟨rfl, rfl⟩ := Prod.mk.inj (Except.ok.inj hdb)
          exact .inr (.inr ⟨false, hct, hdel, .inr (.inr ⟨e, rfl, hget, rfl⟩)⟩)

/-- **What a change of a versioned entity does.** An insert is reported as a conflict or stored,
    an update and a deletion run their conditional statement. -/
theorem processEntityChange_cases {ρ : Type} [VersionedRow ρ] {store : EntityStore ρ}
    {change : SyncChange} {row : Option (Int → ρ)} {now : Time} {db db' : Database}
    {conflicts : List ConflictInfo}
    (h : processEntityChange store change row now db = .ok (conflicts, db')) :
    (∃ mk existing, change.changeType = .insert ∧ row = some mk ∧
      store.get (VersionedRow.key (mk 1)) db = .ok existing ∧ db' = db) ∨
    (∃ mk e, change.changeType = .insert ∧ row = some mk ∧
      store.get (VersionedRow.key (mk 1)) db = .error e ∧ store.upsert (mk 1) db = .ok db') ∨
    (∃ mk updated, change.changeType = .update ∧ row = some mk ∧
      store.updateIfVersion (mk (change.clientVersion + 1)) change.clientVersion db
        = .ok (updated, db')) ∨
    ∃ deleted, change.changeType = .delete ∧
      store.deleteIfVersion change.entityId change.clientVersion now db
        = .ok (deleted, db') := by
  rcases processEntityChange_ok h with
    ⟨mk, hct, hrow, ⟨existing, hget, rfl, -⟩ | ⟨⟨e, hget⟩, hup, -⟩⟩ |
    ⟨mk, updated, hct, hrow, hup, -⟩ | ⟨deleted, hct, hdel, -⟩
  · exact .inl ⟨mk, existing, hct, hrow, hget, rfl⟩
  · exact .inr (.inl ⟨mk, e, hct, hrow, hget, hup⟩)
  · exact .inr (.inr (.inl ⟨mk, updated, hct, hrow, hup⟩))
  · exact .inr (.inr (.inr ⟨deleted, hct, hdel⟩))

section

variable {ρ α : Type} [DecidableEq ρ] [VersionedRow ρ] {store : EntityStore ρ}
  {table : Database → List ρ} {rest : Database → α} {change : SyncChange}
  {row : Option (Int → ρ)} {now : Time} {db db' : Database} {conflicts : List ConflictInfo}

/-- A lookup that fails has an error of its own, or found no live row. -/
theorem LawfulStore.unseen (law : LawfulStore store table rest) {faults : StatementFaults}
    {k : String} {e : DbError} (h : (store.withFaults faults).get k db = .error e) :
    faults.read.isSome = true ∨ getLive k (table db) = none := by
  rcases failing_eq_error.1 ⟨e, h⟩ with hfails | ⟨e, hmissing⟩
  · exact .inl hfails
  · right
    cases hlive : getLive k (table db) with
    | none => rfl
    | some r =>
        rw [law.finds hlive] at hmissing
        cases hmissing

/-- A change of a versioned entity leaves the other tables alone. -/
theorem processEntityChange_rest (law : SoundStore store table rest)
    (h : processEntityChange store change row now db = .ok (conflicts, db')) :
    rest db' = rest db := by
  rcases processEntityChange_cases h with ⟨mk, existing, -, -, -, rfl⟩ |
    ⟨mk, e, -, -, -, hup⟩ | ⟨mk, updated, -, -, hup⟩ | ⟨deleted, -, hdel⟩
  · rfl
  · exact (law.upsert hup).2
  · exact (law.update hup).2
  · exact (law.delete hdel).2

/-- A change of a versioned entity that does not re-create a row advances its table. -/
theorem processEntityChange_tableStep (law : SoundStore store table rest)
    (hversion : ∀ mk, row = some mk → ∀ v, VersionedRow.version (mk v) = v)
    (hfresh : change.changeType = .insert → ∀ mk, row = some mk → ∀ e,
      store.get (VersionedRow.key (mk 1)) db = .error e →
      ∀ r ∈ table db, VersionedRow.key r ≠ VersionedRow.key (mk 1))
    (h : processEntityChange store change row now db = .ok (conflicts, db')) :
    TableStep (table db) (table db') := by
  rcases processEntityChange_cases h with ⟨mk, existing, -, -, -, rfl⟩ |
    ⟨mk, e, hct, hrow, hget, hup⟩ | ⟨mk, updated, -, hrow, hup⟩ | ⟨deleted, -, hdel⟩
  · exact .refl _
  · rw [(law.upsert hup).1]
    exact .create (hfresh hct mk hrow e hget)
  · have htable := congrArg Prod.snd (law.update hup).1
    dsimp only at htable
    rw [htable]
    exact .update (hversion mk hrow _)
  · have htable := congrArg Prod.snd (law.delete hdel).1
    dsimp only at htable
    rw [htable]
    exact .delete

end

/-! ## One change -/

/-- The id has a row, and no live one is seen: there is none, or it is not read. -/
def unseenRow {ρ : Type} [VersionedRow ρ] (unread : Bool) (k : String) (t : List ρ) : Bool :=
  (unread || (getLive k t).isNone) && t.any fun r => VersionedRow.key r = k

/-- An insert that writes over a row it does not see: it brings a soft-deleted workflow or scenario
    back, or resets one whose read fails. -/
def recreates (db : Database) (faults : StatementFaults) (change : SyncChange) : Bool :=
  change.changeType = .insert && match change.data with
    | .workflow (some data) => unseenRow faults.read.isSome data.id db.workflows
    | .scenario (some data) => unseenRow faults.read.isSome data.id db.scenarios
    | _ => false

theorem fresh_of_not_unseenRow {ρ : Type} [VersionedRow ρ] {unread : Bool} {k : String} {t : List ρ}
    (h : unseenRow unread k t = false) (hunseen : unread = true ∨ getLive k t = none) :
    ∀ r ∈ t, VersionedRow.key r ≠ k := by
  intro r hr hk
  have hunseen' : (unread || (getLive k t).isNone) = true := by simpa using hunseen
  simp only [unseenRow, hunseen', Bool.true_and, List.any_eq_false, decide_eq_true_eq] at h
  exact h r hr hk

/-- Both versioned tables advance. -/
def Advanced (db db' : Database) : Prop :=
  TableStep db.workflows db'.workflows ∧ TableStep db.scenarios db'.scenarios

theorem Advanced.refl (db : Database) : Advanced db db := ⟨.refl _, .refl _⟩

theorem Advanced.trans {db db' db'' : Database} (h₁ : Advanced db db') (h₂ : Advanced db' db'') :
    Advanced db db'' :=
  ⟨h₁.1.trans h₂.1, h₁.2.trans h₂.2⟩

/-- A step that leaves both tables alone. -/
theorem Advanced.of_eq {db db' : Database} (hw : db'.workflows = db.workflows)
    (hs : db'.scenarios = db.scenarios) : Advanced db db' :=
  ⟨.of_eq hw, .of_eq hs⟩

section

variable {db db' : Database} {change : SyncChange} {userId : String} {faults : StatementFaults}
  {now : Time} {conflicts : List ConflictInfo}

theorem processWorkflowChangeInTx_advanced {data : Option Workflow}
    (hclean : change.changeType = .insert →
      ∀ d, data = some d → unseenRow faults.read.isSome d.id db.workflows = false)
    (h : processWorkflowChangeInTx change data userId faults now db = .ok (conflicts, db')) :
    Advanced db db' := by
  have law := workflowStore_lawful.withFaults faults
  have hrest := processEntityChange_rest law h
  have hstep := processEntityChange_tableStep law
    (by
      intro mk hmk v
      obtain ⟨d, -, rfl⟩ := Option.map_eq_some_iff.1 hmk
      rfl)
    (by
      intro hinsert mk hmk e hget
      obtain ⟨d, hd, rfl⟩ := Option.map_eq_some_iff.1 hmk
      exact fresh_of_not_unseenRow (hclean hinsert d hd) (workflowStore_lawful.unseen hget)) h
  exact ⟨hstep, .of_eq (congrArg Database.scenarios hrest :)⟩

theorem processScenarioChangeInTx_advanced {data : Option Scenario}
    (hclean : change.changeType = .insert →
      ∀ d, data = some d → unseenRow faults.read.isSome d.id db.scenarios = false)
    (h : processScenarioChangeInTx change data userId faults now db = .ok (conflicts, db')) :
    Advanced db db' := by
  have law := scenarioStore_lawful.withFaults faults
  have hrest := processEntityChange_rest law h
  have hstep := processEntityChange_tableStep law
    (by
      intro mk hmk v
      obtain ⟨d, -, rfl⟩ := Option.map_eq_some_iff.1 hmk
      rfl)
    (by
      intro hinsert mk hmk e hget
      obtain ⟨d, hd, rfl⟩ := Option.map_eq_some_iff.1 hmk
      exact fresh_of_not_unseenRow (hclean hinsert d hd) (scenarioStore_lawful.unseen hget)) h
  exact ⟨.of_eq (congrArg Database.workflows hrest :), hstep⟩

theorem upsertWorkflowRun_eq {run : WorkflowRun} (h : db.upsertWorkflowRun run = .ok db') :
    ∃ runs, db' = { db with workflowRuns := runs } := by
  unfold Database.upsertWorkflowRun at h
  split_ifs at h
  exact ⟨_, (Except.ok.inj h).symm⟩

theorem upsertSession_eq {session : Session} (h : db.upsertSession session = .ok db') :
    ∃ sessions, db' = { db with sessions := sessions } := by
  unfold Database.upsertSession at h
  dsimp only at h
  split_ifs at h
  split at h
  · split_ifs at h
    exact ⟨_, (Except.ok.inj h).symm⟩
  · exact ⟨_, (Except.ok.inj h).symm⟩

theorem upsertTestResult_eq {result : TestResult}
    (h : db.upsertTestResult result now = .ok db') :
    ∃ results, db' = { db with testResults := results } := by
  unfold Database.upsertTestResult at h
  dsimp only at h
  split_ifs at h
  exact ⟨_, (Except.ok.inj h).symm⟩

/-- Finishing a session changes only the sessions. -/
theorem finalizeSession_eq (sessionId : String) (fails : Bool) (now : Time) (db : Database) :
    ∃ sessions, finalizeSession sessionId fails now db = { db with sessions := sessions } := by
  unfold finalizeSession
  dsimp only
  split
  · split
    · exact ⟨_, rfl⟩
    · split
      · split
        · rename_i hup
          exact upsertSession_eq hup
        · exact ⟨_, rfl⟩
      · exact ⟨_, rfl⟩
  · exact ⟨_, rfl⟩

/-- What a change of a run does: it deletes, loses against a newer row, or is stored. -/
theorem processWorkflowRunChangeInTx_cases {data : Option WorkflowRun}
    (h : processWorkflowRunChangeInTx change data userId faults now db = .ok (conflicts, db')) :
    (change.changeType = .delete ∧ db' = db.deleteWorkflowRun change.entityId now) ∨
    (∃ d existing, change.changeType ≠ .delete ∧ data = some d ∧
      failing faults.read (db.getWorkflowRun d.id) = .ok existing ∧
      change.clientTime < existing.updatedAt ∧ db' = db) ∨
    ∃ d, change.changeType ≠ .delete ∧ data = some d ∧
      (∀ existing, failing faults.read (db.getWorkflowRun d.id) = .ok existing →
        ¬ change.clientTime < existing.updatedAt) ∧
      db.upsertWorkflowRun { d with userId } = .ok db' := by
  unfold processWorkflowRunChangeInTx at h
  split at h
  · rename_i hct
    obtain ⟨-, rfl⟩ := Prod.mk.inj (Except.ok.inj (failing_ok h))
    exact .inl ⟨hct, rfl⟩
  · cases h
  · rename_i d hct
    dsimp only at h
    split at h
    · rename_i existing hget
      split_ifs at h with hnewer
      · obtain ⟨-, rfl⟩ := Prod.mk.inj (Except.ok.inj h)
        exact .inr (.inl ⟨d, existing, hct, rfl, hget, hnewer, rfl⟩)
      · obtain ⟨db₁, hup, hdb⟩ := Transaction.bind_eq_ok.1 h
        obtain ⟨-, rfl⟩ := Prod.mk.inj (Except.ok.inj hdb)
        refine .inr (.inr ⟨d, hct, rfl, ?_, failing_ok hup⟩)
        intro other hother
        rw [hget] at hother
        rwa [← Except.ok.inj hother]
    · rename_i e hget
      obtain ⟨db₁, hup, hdb⟩ := Transaction.bind_eq_ok.1 h
      obtain ⟨-, rfl⟩ := Prod.mk.inj (Except.ok.inj hdb)
      refine .inr (.inr ⟨d, hct, rfl, ?_, failing_ok hup⟩)
      intro other hother
      rw [hget] at hother
      cases hother

theorem processWorkflowRunChangeInTx_eq {data : Option WorkflowRun}
    (h : processWorkflowRunChangeInTx change data userId faults now db = .ok (conflicts, db')) :
    ∃ runs, db' = { db with workflowRuns := runs } := by
  rcases processWorkflowRunChangeInTx_cases h with ⟨-, rfl⟩ | ⟨d, existing, -, -, -, -, rfl⟩ |
    ⟨d, -, -, -, hup⟩
  · exact ⟨_, rfl⟩
  · exact ⟨_, rfl⟩
  · exact upsertWorkflowRun_eq hup

/-- What a change of a session does: it deletes, loses against a newer row, or is stored. -/
theorem processSessionChangeInTx_cases {data : Option Session}
    (h : processSessionChangeInTx change data userId faults now db = .ok (conflicts, db')) :
    (change.changeType = .delete ∧ db' = db.deleteSession change.entityId now) ∨
    (∃ d existing, change.changeType ≠ .delete ∧ data = some d ∧
      failing faults.read (db.getSession d.id) = .ok existing ∧
      change.clientTime < existing.updatedAt ∧ db' = db) ∨
    ∃ d, change.changeType ≠ .delete ∧ data = some d ∧
      (∀ existing, failing faults.read (db.getSession d.id) = .ok existing →
        ¬ change.clientTime < existing.updatedAt) ∧
      db.upsertSession { d with userId } = .ok db' := by
  unfold processSessionChangeInTx at h
  split at h
  · rename_i hct
    obtain ⟨-, rfl⟩ := Prod.mk.inj (Except.ok.inj (failing_ok h))
    exact .inl ⟨hct, rfl⟩
  · cases h
  · rename_i d hct
    dsimp only at h
    split at h
    · rename_i existing hget
      split_ifs at h with hnewer
      · obtain ⟨-, rfl⟩ := Prod.mk.inj (Except.ok.inj h)
        exact .inr (.inl ⟨d, existing, hct, rfl, hget, hnewer, rfl⟩)
      · obtain ⟨db₁, hup, hdb⟩ := Transaction.bind_eq_ok.1 h
        obtain ⟨-, rfl⟩ := Prod.mk.inj (Except.ok.inj hdb)
        refine .inr (.inr ⟨d, hct, rfl, ?_, failing_ok hup⟩)
        intro other hother
        rw [hget] at hother
        rwa [← Except.ok.inj hother]
    · rename_i e hget
      obtain ⟨db₁, hup, hdb⟩ := Transaction.bind_eq_ok.1 h
      obtain ⟨-, rfl⟩ := Prod.mk.inj (Except.ok.inj hdb)
      refine .inr (.inr ⟨d, hct, rfl, ?_, failing_ok hup⟩)
      intro other hother
      rw [hget] at hother
      cases hother

theorem processSessionChangeInTx_eq {data : Option Session}
    (h : processSessionChangeInTx change data userId faults now db = .ok (conflicts, db')) :
    ∃ sessions, db' = { db with sessions := sessions } := by
  rcases processSessionChangeInTx_cases h with ⟨-, rfl⟩ | ⟨d, existing, -, -, -, -, rfl⟩ |
    ⟨d, -, -, -, hup⟩
  · exact ⟨_, rfl⟩
  · exact ⟨_, rfl⟩
  · exact upsertSession_eq hup

/-- What a change of a result does: it deletes, or is stored and may finish its session. -/
theorem processTestResultChangeInTx_cases {data : Option TestResult}
    (h : processTestResultChangeInTx change data userId faults now db = .ok (conflicts, db')) :
    (change.changeType = .delete ∧ db' = db.deleteTestResult change.entityId now) ∨
    ∃ d db₁, change.changeType ≠ .delete ∧ data = some d ∧
      db.upsertTestResult { d with userId } now = .ok db₁ ∧
      db' = finalizeSession d.sessionId faults.finish now db₁ := by
  unfold processTestResultChangeInTx at h
  split at h
  · rename_i hct
    obtain ⟨-, rfl⟩ := Prod.mk.inj (Except.ok.inj (failing_ok h))
    exact .inl ⟨hct, rfl⟩
  · cases h
  · rename_i d hct
    obtain ⟨db₁, hup, hdb⟩ := Transaction.bind_eq_ok.1 h
    obtain ⟨-, rfl⟩ := Prod.mk.inj (Except.ok.inj hdb)
    exact .inr ⟨d, db₁, hct, rfl, failing_ok hup, rfl⟩

theorem processTestResultChangeInTx_eq {data : Option TestResult}
    (h : processTestResultChangeInTx change data userId faults now db = .ok (conflicts, db')) :
    ∃ results sessions, db' = { db with testResults := results, sessions := sessions } := by
  rcases processTestResultChangeInTx_cases h with ⟨-, rfl⟩ | ⟨d, db₁, -, -, hup, rfl⟩
  · exact ⟨_, _, rfl⟩
  · obtain ⟨results, rfl⟩ := upsertTestResult_eq hup
    obtain ⟨sessions, hfin⟩ :=
      finalizeSession_eq d.sessionId faults.finish now { db with testResults := results }
    exact ⟨results, sessions, hfin⟩

/-- **One change** advances both tables unless it re-creates a row. -/
theorem processChangeInTx_advanced (hclean : recreates db faults change = false)
    (h : processChangeInTx userId faults now change db = .ok (conflicts, db')) :
    Advanced db db' := by
  unfold processChangeInTx at h
  unfold recreates at hclean
  split at h
  · rename_i data hdata
    refine processWorkflowChangeInTx_advanced ?_ h
    rintro hinsert d rfl
    simpa [hinsert, hdata] using hclean
  · rename_i data hdata
    refine processScenarioChangeInTx_advanced ?_ h
    rintro hinsert d rfl
    simpa [hinsert, hdata] using hclean
  · obtain ⟨runs, rfl⟩ := processWorkflowRunChangeInTx_eq h
    exact .of_eq rfl rfl
  · obtain ⟨sessions, rfl⟩ := processSessionChangeInTx_eq h
    exact .of_eq rfl rfl
  · obtain ⟨results, sessions, rfl⟩ := processTestResultChangeInTx_eq h
    exact .of_eq rfl rfl

end

/-! ## Batches -/

/-- The transaction after one change. -/
def afterChange (userId : String) (faults : StatementFaults) (now : Time) (change : SyncChange)
    (db : Database) : Database :=
  match processChangeInTx userId faults now change db with
  | .ok (_, db) => db
  | .error _ => db

/-- Some change of the list re-creates a row when its turn comes. -/
def recreatesAny (userId : String) (clock : Nat → Time) (faults : BatchFaults) :
    List SyncChange → Nat → Database → Bool
  | [], _, _ => false
  | change :: rest, n, db =>
    recreates db (faults.statements n) change ||
      recreatesAny userId clock faults rest (n + 1)
        (afterChange userId (faults.statements n) (clock n) change db)

theorem afterChange_advanced {userId : String} {faults : StatementFaults} {now : Time}
    {change : SyncChange} {db : Database} (hclean : recreates db faults change = false) :
    Advanced db (afterChange userId faults now change db) := by
  unfold afterChange
  split
  · rename_i hok
    exact processChangeInTx_advanced hclean hok
  · exact .refl db

/-- The loop of a batch goes through the states after its changes. -/
theorem processChanges_snd (userId : String) (clock : Nat → Time) (faults : BatchFaults)
    (change : SyncChange) (rest : List SyncChange) (n : Nat) (db : Database)
    (response : SyncBatchResponse) :
    ∃ response', processChanges userId clock faults (change :: rest) n db response
      = processChanges userId clock faults rest (n + 1)
          (afterChange userId (faults.statements n) (clock n) change db) response' := by
  rw [processChanges]
  unfold afterChange
  cases processChangeInTx userId (faults.statements n) (clock n) change db with
  | error e => exact ⟨_, rfl⟩
  | ok r => exact ⟨_, rfl⟩

theorem processChanges_advanced {userId : String} {clock : Nat → Time} {faults : BatchFaults}
    {changes : List SyncChange} :
    ∀ {n : Nat} {db : Database} {response : SyncBatchResponse},
      recreatesAny userId clock faults changes n db = false →
      Advanced db (processChanges userId clock faults changes n db response).2 := by
  induction changes with
  | nil =>
      intro n db response _
      exact .refl db
  | cons change rest ih =>
      intro n db response hclean
      simp only [recreatesAny, Bool.or_eq_false_iff] at hclean
      obtain ⟨response', hstep⟩ := processChanges_snd userId clock faults change rest n db response
      rw [hstep]
      exact (afterChange_advanced hclean.1).trans (ih hclean.2)

theorem processChanges_success (userId : String) (clock : Nat → Time) (faults : BatchFaults)
    (changes : List SyncChange) (n : Nat) (db : Database) (response : SyncBatchResponse) :
    (processChanges userId clock faults changes n db response).1.success
      = response.success := by
  induction changes generalizing n db response with
  | nil => rfl
  | cons change rest ih =>
      unfold processChanges
      split <;> rw [ih]

theorem upsertSyncMetaData_eq {m : SyncMetadata} {db db' : Database}
    (h : db.upsertSyncMetaData m = .ok db') : ∃ rows, db' = { db with syncMetadata := rows } := by
  unfold Database.upsertSyncMetaData at h
  split_ifs at h
  exact ⟨_, (Except.ok.inj h).symm⟩

/-- A batch either leaves the database as it was or commits what its changes and the metadata
    made of it. -/
theorem processBatch_cases (clock : Nat → Time) (faults : BatchFaults) (req : SyncBatchRequest)
    (db : Database) :
    (processBatch clock faults req db).2 = db ∨
      ((processChanges req.userId clock faults req.changes 0 db {}).1.errors = [] ∧
        ∃ rows, (processBatch clock faults req db).2
          = { (processChanges req.userId clock faults req.changes 0 db {}).2 with
              syncMetadata := rows }) := by
  unfold processBatch
  dsimp only
  split
  · exact .inl rfl
  · rename_i committed hmeta
    split
    · exact .inl rfl
    · rename_i herrors
      split
      · exact .inl rfl
      · right
        obtain ⟨rows, hrows⟩ := upsertSyncMetaData_eq (failing_ok hmeta)
        exact ⟨not_not.1 herrors, rows, hrows⟩

theorem processBatch_advanced {clock : Nat → Time} {faults : BatchFaults} {req : SyncBatchRequest}
    {db : Database} (hclean : recreatesAny req.userId clock faults req.changes 0 db = false) :
    Advanced db (processBatch clock faults req db).2 := by
  rcases processBatch_cases clock faults req db with h | ⟨-, rows, h⟩
  · rw [h]
    exact .refl db
  · rw [h]
    exact (processChanges_advanced hclean).trans (.of_eq rfl rfl)

/-! ## Restores -/

theorem restoreTry_ok {α : Type} {x : Except DbError α} {a : α} (h : restoreTry x = .ok a) :
    x = .ok a := by
  cases x with
  | ok b => exact congrArg Except.ok (Except.ok.inj h)
  | error e => cases h

theorem restoreDeletions_advanced {now : Time} {kept : List String} {scenarios : List Scenario} :
    ∀ {db db' : Database}, restoreDeletions now kept scenarios db = .ok db' → Advanced db db' := by
  induction scenarios with
  | nil =>
      intro db db' h
      rw [← Except.ok.inj h]
      exact .refl db
  | cons scenario rest ih =>
      intro db db' h
      rw [restoreDeletions] at h
      split at h
      · exact ih h
      · obtain ⟨⟨deleted, db₁⟩, hdel, hrest⟩ := Transaction.bind_eq_ok.1 h
        obtain ⟨htable, hframe⟩ := scenarioStore_lawful.delete (restoreTry_ok hdel)
        have htable' := congrArg Prod.snd htable
        dsimp only at htable' hrest
        have hfirst : Advanced db db₁ :=
          ⟨.of_eq (congrArg Database.workflows hframe :), htable' ▸ .delete⟩
        split at hrest
        · cases hrest
        · exact hfirst.trans (ih hrest)

theorem restoreScenario_advanced {projectId workflowId userId : String} {now : Time}
    {scenario : Scenario} {unread : Option DbError} {db db' : Database}
    (hclean : unseenRow unread.isSome scenario.id db.scenarios = false)
    (h : restoreScenario projectId workflowId userId now scenario db unread = .ok db') :
    Advanced db db' := by
  unfold restoreScenario at h
  dsimp only at h
  split at h
  · rename_i e hget
    obtain ⟨htable, hframe⟩ := scenarioStore_lawful.upsert (restoreTry_ok h)
    have hunseen : unread.isSome = true ∨ getLive scenario.id db.scenarios = none :=
      scenarioStore_lawful.unseen (show (scenarioStore.withFaults { read := unread }).get
        scenario.id db = .error e from hget)
    exact ⟨.of_eq (congrArg Database.workflows hframe :),
      htable ▸ .create (fresh_of_not_unseenRow hclean hunseen)⟩
  · obtain ⟨⟨updated, db₁⟩, hup, hrest⟩ := Transaction.bind_eq_ok.1 h
    obtain ⟨htable, hframe⟩ := scenarioStore_lawful.update (restoreTry_ok hup)
    have htable' := congrArg Prod.snd htable
    dsimp only at htable' hrest
    split at hrest
    · cases hrest
    · rw [← Except.ok.inj hrest]
      exact ⟨.of_eq (congrArg Database.workflows hframe :), htable' ▸ .update rfl⟩

/-- Some scenario of the snapshot has a row, and no live one is seen when its turn comes. -/
def restoreScenariosRecreate (projectId workflowId userId : String) (now : Time) :
    List Scenario → Database → (Nat → Option DbError) → Bool
  | [], _, _ => false
  | scenario :: rest, db, unread =>
    unseenRow (unread 0).isSome scenario.id db.scenarios ||
      match restoreScenario projectId workflowId userId now scenario db (unread 0) with
      | .ok db =>
        restoreScenariosRecreate projectId workflowId userId now rest db fun n => unread (n + 1)
      | .error _ => false

theorem restoreScenarios_advanced {projectId workflowId userId : String} {now : Time}
    {scenarios : List Scenario} :
    ∀ {db db' : Database} {unread : Nat → Option DbError},
      restoreScenariosRecreate projectId workflowId userId now scenarios db unread = false →
      restoreScenarios projectId workflowId userId now scenarios db unread = .ok db' →
      Advanced db db' := by
  induction scenarios with
  | nil =>
      intro db db' unread _ h
      rw [← Except.ok.inj h]
      exact .refl db
  | cons scenario rest ih =>
      intro db db' unread hclean h
      obtain ⟨db₁, hone, hrest⟩ := Transaction.bind_eq_ok.1 h
      simp only [restoreScenariosRecreate, hone, Bool.or_eq_false_iff] at hclean
      exact (restoreScenario_advanced hclean.1 hone).trans (ih hclean.2 hrest)

theorem restoreWorkflow_advanced {projectId workflowId revisionId userId : String}
    {expectedVersion : Int} {now : Time} {db db' : Database} {scenarios : List Scenario}
    (h : restoreWorkflow projectId workflowId revisionId userId expectedVersion now db
      = .ok (scenarios, db')) : Advanced db db' := by
  unfold restoreWorkflow at h
  split_ifs at h
  split at h
  · cases h
  · split at h
    · cases h
    · dsimp only at h
      obtain ⟨⟨updated, db₁⟩, hup, hrest⟩ := Transaction.bind_eq_ok.1 h
      obtain ⟨htable, hframe⟩ := workflowStore_lawful.update (restoreTry_ok hup)
      have htable' := congrArg Prod.snd htable
      dsimp only at htable' hrest
      have hfirst : Advanced db db₁ :=
        ⟨htable' ▸ .update rfl, .of_eq (congrArg Database.scenarios hframe :)⟩
      split at hrest
      · cases hrest
      · obtain ⟨db₂, hdel, hdb⟩ := Transaction.bind_eq_ok.1 hrest
        obtain ⟨-, rfl⟩ := Prod.mk.inj (Except.ok.inj hdb)
        exact hfirst.trans (restoreDeletions_advanced hdel)

/-! ## Runs -/

/-- The writers of workflows and scenarios: sync batches, restores and the checkpoints that
    revisions are made of, with the statements that fail. In a restore those are reads of its
    scenarios, `unread`, or any other one, and then it does not commit. -/
inductive SyncLabel where
  | batch (clock : Nat → Time) (faults : BatchFaults) (req : SyncBatchRequest)
  | restore (projectId workflowId revisionId userId : String) (expectedVersion : Int) (now : Time)
      (unread : Nat → Option DbError) (commits : Bool)
  | checkpoint (projectId workflowId message userId revisionId : String) (now : Time)

/-- The database after a step; a restore that fails is rolled back. -/
def SyncLabel.apply (label : SyncLabel) (db : Database) : Database :=
  match label with
  | batch clock faults req => (processBatch clock faults req db).2
  | restore projectId workflowId revisionId userId expectedVersion now unread commits =>
    match restoreWorkflowRevision projectId workflowId revisionId userId expectedVersion now db
        unread with
    | .ok restored => if commits then restored else db
    | .error _ => db
  | checkpoint projectId workflowId message userId revisionId now =>
    match checkpointWorkflow projectId workflowId message userId revisionId now db with
    | .ok db => db
    | .error _ => db

def syncStep (db : Database) (label : SyncLabel) (db' : Database) : Prop := db' = label.apply db

/-- The step writes over a row it does not see: an insert of the batch, or a scenario that a restore
    re-creates. -/
def SyncLabel.recreates (db : Database) : SyncLabel → Bool
  | .batch clock faults req => recreatesAny req.userId clock faults req.changes 0 db
  | .restore projectId workflowId revisionId userId expectedVersion now unread commits =>
    commits &&
      match restoreWorkflow projectId workflowId revisionId userId expectedVersion now db with
      | .ok (scenarios, db) =>
        restoreScenariosRecreate projectId workflowId userId now scenarios db unread
      | .error _ => false
  | .checkpoint .. => false

/-- A step that writes over no row it does not see. -/
def keepsDeleted (db : Database) (label : SyncLabel) : Prop := label.recreates db = false

instance (db : Database) (label : SyncLabel) : Decidable (keepsDeleted db label) :=
  inferInstanceAs (Decidable (_ = false))

theorem checkpointWorkflow_eq {projectId workflowId message userId revisionId : String}
    {now : Time} {db db' : Database}
    (h : checkpointWorkflow projectId workflowId message userId revisionId now db = .ok db') :
    ∃ revisions, db' = { db with workflowRevisions := revisions } := by
  unfold checkpointWorkflow Database.createWorkflowRevision at h
  split at h
  · cases h
  · dsimp only at h
    split_ifs at h
    all_goals exact ⟨_, (Except.ok.inj h).symm⟩

/-- Alone on the table and answered at once, the statements of `CreateWorkflowRevision` do what the
    checkpoint takes as one step. -/
theorem createWorkflowRevision_run {revision : WorkflowRevision} {db db' : Database} (ctx : Nat)
    (h : db.createWorkflowRevision revision = .ok db') :
    ∃ number, (TokyoTester.createWorkflowRevision ctx revision).run RevisionTable.handle
        (List.replicate 4 .done) { committed := db.workflowRevisions }
      = some (.ok { revision with revisionNumber := number },
          { committed := db'.workflowRevisions }) := by
  unfold Database.createWorkflowRevision at h
  dsimp only at h
  split_ifs at h
  obtain rfl := Except.ok.inj h
  exact ⟨_, allocateRevision_run RevisionTable.selectNext_empty⟩

/-- **A step that re-creates no row advances both tables.** -/
theorem syncStep_advanced {db db' : Database} {label : SyncLabel}
    (hclean : keepsDeleted db label) (h : syncStep db label db') : Advanced db db' := by
  subst h
  cases label with
  | batch clock faults req =>
      exact processBatch_advanced hclean
  | restore projectId workflowId revisionId userId expectedVersion now unread commits =>
      simp only [SyncLabel.apply]
      split
      · rename_i restored hok
        split_ifs with hcommits
        · obtain ⟨⟨scenarios, db₁⟩, hfirst, hrest⟩ := Transaction.bind_eq_ok.1 hok
          simp only [keepsDeleted, SyncLabel.recreates, hfirst, hcommits, Bool.true_and] at hclean
          exact (restoreWorkflow_advanced hfirst).trans (restoreScenarios_advanced hclean hrest)
        · exact .refl db
      · exact .refl db
  | checkpoint projectId workflowId message userId revisionId now =>
      simp only [SyncLabel.apply]
      split
      · rename_i db' hok
        obtain ⟨revisions, rfl⟩ := checkpointWorkflow_eq hok
        exact .of_eq rfl rfl
      · exact .refl db

/-- A run without re-creations advances both tables. -/
theorem guarded_advanced {db db' : Database} {labels : List SyncLabel}
    (h : Trace.Guarded syncStep keepsDeleted db labels db') :
    Advanced db db' :=
  h.invariant (fun s => Advanced db s)
    (fun ok st hs => hs.trans (syncStep_advanced ok st)) (.refl db)

/-! ## What an applied change finds -/

/-- The id of the workflow that a change updates or deletes. -/
def SyncChange.workflowTarget (change : SyncChange) : Option String :=
  match change.changeType, change.data with
  | .update, .workflow (some data) => some data.id
  | .delete, .workflow _ => some change.entityId
  | _, _ => none

/-- The id of the scenario that a change updates or deletes. -/
def SyncChange.scenarioTarget (change : SyncChange) : Option String :=
  match change.changeType, change.data with
  | .update, .scenario (some data) => some data.id
  | .delete, .scenario _ => some change.entityId
  | _, _ => none

/-- An update or a deletion that changed its table found the version it names. -/
theorem processEntityChange_matches {ρ α : Type} [DecidableEq ρ] [VersionedRow ρ]
    {store : EntityStore ρ} {table : Database → List ρ} {rest : Database → α}
    (law : SoundStore store table rest) {change : SyncChange} {row : Option (Int → ρ)}
    {now : Time} {db db' : Database} {conflicts : List ConflictInfo} {k : String}
    (hupdate : change.changeType = .update → ∀ mk, row = some mk → ∀ v, VersionedRow.key (mk v) = k)
    (hdelete : change.changeType = .delete → change.entityId = k)
    (hinsert : change.changeType ≠ .insert)
    (h : processEntityChange store change row now db = .ok (conflicts, db'))
    (hne : table db' ≠ table db) :
    ∃ r ∈ table db, VersionedRow.key r = k ∧ VersionedRow.version r = change.clientVersion := by
  rcases processEntityChange_cases h with ⟨mk, existing, -, -, -, rfl⟩ |
    ⟨mk, e, hct, -, -, -⟩ | ⟨mk, updated, hct, hrow, hup⟩ | ⟨deleted, hct, hdel⟩
  · exact absurd rfl hne
  · exact absurd hct hinsert
  · have htable := congrArg Prod.snd (law.update hup).1
    dsimp only at htable
    rw [htable] at hne
    obtain ⟨r, hr, hmatch⟩ := exists_of_updateWhere_ne hne
    obtain ⟨hkey, hver, -⟩ := matchesVersion_iff.1 hmatch
    exact ⟨r, hr, hkey.trans (hupdate hct mk hrow _), hver⟩
  · have htable := congrArg Prod.snd (law.delete hdel).1
    dsimp only at htable
    rw [htable] at hne
    obtain ⟨r, hr, hmatch⟩ := exists_of_updateWhere_ne hne
    obtain ⟨hkey, hver, -⟩ := matchesVersion_iff.1 hmatch
    exact ⟨r, hr, hkey.trans (hdelete hct), hver⟩

theorem afterChange_workflow_matches {userId : String} {faults : StatementFaults} {now : Time}
    {change : SyncChange} {db : Database} {k : String}
    (htarget : change.workflowTarget = some k)
    (hne : (afterChange userId faults now change db).workflows ≠ db.workflows) :
    ∃ r ∈ db.workflows, r.id = k ∧ r.version = change.clientVersion := by
  unfold afterChange at hne
  split at hne
  · rename_i conflicts db' hok
    unfold processChangeInTx at hok
    unfold SyncChange.workflowTarget at htarget
    split at htarget
    · rename_i data hct hdata
      simp only [hdata] at hok
      refine processEntityChange_matches (workflowStore_lawful.withFaults faults) ?_ ?_ ?_ hok hne
      · rintro - mk hmk v
        obtain ⟨d, hd, rfl⟩ := Option.map_eq_some_iff.1 hmk
        rw [← Option.some.inj hd]
        exact Option.some.inj htarget
      · simp [hct]
      · simp [hct]
    · rename_i data hct hdata
      simp only [hdata] at hok
      refine processEntityChange_matches (workflowStore_lawful.withFaults faults) ?_ ?_ ?_ hok hne
      · simp [hct]
      · intro _
        exact Option.some.inj htarget
      · simp [hct]
    · cases htarget
  · exact absurd rfl hne

theorem afterChange_scenario_matches {userId : String} {faults : StatementFaults} {now : Time}
    {change : SyncChange} {db : Database} {k : String}
    (htarget : change.scenarioTarget = some k)
    (hne : (afterChange userId faults now change db).scenarios ≠ db.scenarios) :
    ∃ r ∈ db.scenarios, r.id = k ∧ r.version = change.clientVersion := by
  unfold afterChange at hne
  split at hne
  · rename_i conflicts db' hok
    unfold processChangeInTx at hok
    unfold SyncChange.scenarioTarget at htarget
    split at htarget
    · rename_i data hct hdata
      simp only [hdata] at hok
      refine processEntityChange_matches (scenarioStore_lawful.withFaults faults) ?_ ?_ ?_ hok hne
      · rintro - mk hmk v
        obtain ⟨d, hd, rfl⟩ := Option.map_eq_some_iff.1 hmk
        rw [← Option.some.inj hd]
        exact Option.some.inj htarget
      · simp [hct]
      · simp [hct]
    · rename_i data hct hdata
      simp only [hdata] at hok
      refine processEntityChange_matches (scenarioStore_lawful.withFaults faults) ?_ ?_ ?_ hok hne
      · simp [hct]
      · intro _
        exact Option.some.inj htarget
      · simp [hct]
    · cases htarget
  · exact absurd rfl hne

/-- A change to the workflow "workflow". -/
def workflowChange (changeType : ChangeType) (name : String) (clientVersion : Int) : SyncChange :=
  { entityId := "workflow", changeType, clientTime := 5, clientVersion
    data := .workflow (some { (default : Workflow) with
      id := "workflow", projectId := "project", name, version := clientVersion + 1 }) }

/-- A batch of one change to the workflow "workflow", made by one client. -/
def workflowBatch (changeType : ChangeType) (name : String) (clientVersion : Int)
    (faults : BatchFaults := {}) : SyncLabel :=
  .batch (fun _ => 5) faults
    { clientId := "client", userId := "user", projectId := "project"
      changes := [workflowChange changeType name clientVersion] }

end TokyoTester
