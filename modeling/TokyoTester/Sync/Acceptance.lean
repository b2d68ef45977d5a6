import TokyoTester.Sync.Client
import TokyoTester.Library.Pending

set_option autoImplicit false

/-! # The changes the server accepts

Seen from the server's rows, a client's change is an operation that is acceptable in some states
of its row: an insert where there is none, an update and a deletion where the live row has the
version they name. `processBatch_performs` says what happens to a batch of acceptable changes: no
conflict is reported, and the batch is performed as a whole or, when a change's data is refused or
a statement fails, not at all. Rows are compared without their update times, which the server sets
by its own clock. -/

namespace TokyoTester

open Table Versioned Pending

/-! ## Rows up to their update times -/

def ChangeData.kind : ChangeData → EntityKind
  | workflow _ => .workflow
  | scenario _ => .scenario
  | workflowRun _ => .workflowRun
  | scenarioRun _ => .session
  | testResult _ => .testResult

/-- A workflow without its update time, which the server sets by its own clock. -/
def Workflow.content (w : Workflow) : Workflow := { w with updatedAt := zeroTime }

/-- A scenario without its update time. -/
def Scenario.content (s : Scenario) : Scenario := { s with updatedAt := zeroTime }

/-- The server's row of an entity, without its update time. -/
def serverView (db : Database) : EntityKind × String → Option ChangeData
  | (.workflow, id) => (find Workflow.id id db.workflows).map fun w => .workflow (some w.content)
  | (.scenario, id) => (find Scenario.id id db.scenarios).map fun s => .scenario (some s.content)
  | _ => none

/-- The row that the server stores for a change's data at a version. -/
def ChangeData.stored (me : Identity) (version : Int) : ChangeData → ChangeData
  | workflow data => workflow (data.map fun d =>
      ({ d with userId := me.userId, projectId := me.projectId, version } : Workflow).content)
  | scenario data => scenario (data.map fun d =>
      ({ d with userId := me.userId, projectId := me.projectId, version } : Scenario).content)
  | other => other

/-- The deletion of a row. -/
def ChangeData.deleted : ChangeData → ChangeData
  | workflow data => workflow (data.map fun d =>
      { d with isDeleted := true, version := d.version + 1 })
  | scenario data => scenario (data.map fun d =>
      { d with isDeleted := true, version := d.version + 1 })
  | other => other

/-- The data of a workflow or a scenario with the given id. -/
def ChangeData.addresses (id : String) : ChangeData → Prop
  | workflow (some d) => d.id = id
  | scenario (some d) => d.id = id
  | _ => False

/-- The creation time of a row. -/
def ChangeData.createdAt : ChangeData → Time
  | workflow (some d) => d.createdAt
  | scenario (some d) => d.createdAt
  | _ => zeroTime

/-- The changes of a client as operations on the server's rows: an insert needs that there is no
    row, an update and a deletion need the live row of their version. The creation time is given by
    the insert. -/
def syncLog (me : Identity) : Log (EntityKind × String) SyncChange ChangeData where
  key c := (c.data.kind, c.entityId)
  ok c s := c.data.addresses c.entityId ∧
    match c.changeType with
    | .insert => s = none ∧ c.data.createdAt ≠ zeroTime
    | _ => ∃ r, s = some r ∧ isDeletedPayload r = false ∧ r.version = c.clientVersion ∧
        r.createdAt = c.data.createdAt
  effect c s :=
    match c.changeType with
    | .insert => some (c.data.stored me 1)
    | .update => some (c.data.stored me (c.clientVersion + 1))
    | .delete => s.map ChangeData.deleted

/-! ## The server performs an acceptable change -/

section

variable {ρ α : Type} [DecidableEq ρ] [VersionedRow ρ] {store : EntityStore ρ}
  {table : Database → List ρ} {rest : Database → α} {change : SyncChange} {mk : Int → ρ}
  {now : Time} {db : Database}

/-- An insert of an id without a row is stored or fails with its statement. -/
theorem processEntityChange_insert (law : SoundStore store table rest)
    (hct : change.changeType = .insert)
    (hnone : find VersionedRow.key (VersionedRow.key (mk 1)) (table db) = none) :
    (∃ e, store.upsert (mk 1) db = .error e ∧
      processEntityChange store change (some mk) now db = .error e) ∨
    ∃ db', processEntityChange store change (some mk) now db = .ok ([], db') ∧
      table db' = upsertRow (mk 1) (table db) ∧ rest db' = rest db := by
  have hlive : ∀ r, store.get (VersionedRow.key (mk 1)) db ≠ .ok r := by
    intro r hget
    obtain ⟨hmem, hid, -⟩ := getLive_some (law.get hget)
    exact find_eq_none.1 hnone r hmem hid
  unfold processEntityChange
  rw [hct]
  dsimp only
  cases hget : store.get (VersionedRow.key (mk 1)) db with
  | ok r => exact absurd hget (hlive r)
  | error e =>
      dsimp only
      cases hup : store.upsert (mk 1) db with
      | error e =>
          left
          exact ⟨e, rfl, rfl⟩
      | ok db' =>
          right
          exact ⟨db', rfl, law.upsert hup⟩

/-- An update of a live row at its version is stored or fails with its statement. -/
theorem processEntityChange_update (law : SoundStore store table rest)
    (hk : Keyed (VersionedRow.key : ρ → String) (table db))
    (hct : change.changeType = .update)
    (hversion : ∀ v, VersionedRow.version (mk v) = v) {r : ρ} (hr : r ∈ table db)
    (hsel : matchesVersion (VersionedRow.key (mk (change.clientVersion + 1)))
      change.clientVersion r = true) :
    (∃ e, store.updateIfVersion (mk (change.clientVersion + 1)) change.clientVersion db
        = .error e ∧ processEntityChange store change (some mk) now db = .error e) ∨
    ∃ db', processEntityChange store change (some mk) now db = .ok ([], db') ∧
      table db' = (updateIfVersion (mk (change.clientVersion + 1)) change.clientVersion
        (table db)).2 ∧ rest db' = rest db := by
  unfold processEntityChange
  rw [hct]
  dsimp only
  cases hup : store.updateIfVersion (mk (change.clientVersion + 1)) change.clientVersion db with
  | error e =>
      left
      exact ⟨e, rfl, rfl⟩
  | ok out =>
      obtain ⟨updated, db'⟩ := out
      right
      obtain ⟨htable, hrest⟩ := law.update hup
      have hfst := (updateIfVersion_fst hk (hversion (change.clientVersion + 1))).2 ⟨r, hr, hsel⟩
      rw [← htable] at hfst
      dsimp only at hfst
      refine ⟨db', ?_, congrArg Prod.snd htable, hrest⟩
      simp [hfst, bind, Except.bind, pure, Except.pure]

/-- A deletion of a live row at its version is performed or fails with its statement. -/
theorem processEntityChange_delete (mk : Int → ρ) (law : SoundStore store table rest)
    (hk : Keyed (VersionedRow.key : ρ → String) (table db))
    (hct : change.changeType = .delete) {r : ρ} (hr : r ∈ table db)
    (hsel : matchesVersion change.entityId change.clientVersion r = true) :
    (∃ e, store.deleteIfVersion change.entityId change.clientVersion now db = .error e ∧
      processEntityChange store change (some mk) now db = .error e) ∨
    ∃ db', processEntityChange store change (some mk) now db = .ok ([], db') ∧
      table db' = (deleteIfVersion change.entityId change.clientVersion now (table db)).2 ∧
        rest db' = rest db := by
  unfold processEntityChange
  rw [hct]
  dsimp only
  cases hdel : store.deleteIfVersion change.entityId change.clientVersion now db with
  | error e =>
      left
      exact ⟨e, rfl, rfl⟩
  | ok out =>
      obtain ⟨deleted, db'⟩ := out
      right
      obtain ⟨htable, hrest⟩ := law.delete hdel
      have hfst := (deleteIfVersion_fst now hk).2 ⟨r, hr, hsel⟩
      rw [← htable] at hfst
      dsimp only at hfst
      refine ⟨db', ?_, congrArg Prod.snd htable, hrest⟩
      simp [hfst, bind, Except.bind, pure, Except.pure]

/-- What an acceptable change makes of its row. -/
def performed (change : SyncChange) (mk : Int → ρ) (now : Time) (row : Option ρ) : Option ρ :=
  match change.changeType with
  | .insert => some (mk 1)
  | .update => row.map (VersionedRow.assign (mk (change.clientVersion + 1)))
  | .delete => row.map (VersionedRow.markDeleted now)

/-- The rows a change is acceptable for: an insert finds no row of its id, and an update or a
    deletion finds the live row at the version it names. -/
def Acceptable (key : ρ → String) (change : SyncChange) (rows : List ρ) : Prop :=
  match change.changeType with
  | .insert => find key change.entityId rows = none
  | _ => ∃ r, find key change.entityId rows = some r ∧
      VersionedRow.isDeleted r = false ∧ VersionedRow.version r = change.clientVersion

/-- **The server performs an acceptable change**, unless its statement is refused. -/
theorem processEntityChange_performs (law : SoundStore store table rest) (mk : Int → ρ)
    (hk : Keyed (VersionedRow.key : ρ → String) (table db))
    (hversion : ∀ v, VersionedRow.version (mk v) = v)
    (hid : ∀ v, VersionedRow.key (mk v) = change.entityId)
    (hok : Acceptable VersionedRow.key change (table db)) :
    (∃ e, processEntityChange store change (some mk) now db = .error e ∧
      (store.upsert (mk 1) db = .error e ∨
        store.updateIfVersion (mk (change.clientVersion + 1)) change.clientVersion db = .error e ∨
        store.deleteIfVersion change.entityId change.clientVersion now db = .error e)) ∨
    ∃ db', processEntityChange store change (some mk) now db = .ok ([], db') ∧
      rest db' = rest db ∧ Keyed (VersionedRow.key : ρ → String) (table db') ∧
      ∀ i, find VersionedRow.key i (table db')
        = if i = change.entityId then
            performed change mk now (find VersionedRow.key change.entityId (table db))
          else find VersionedRow.key i (table db) := by
  unfold performed
  unfold Acceptable at hok
  cases hct : change.changeType with
  | insert =>
      rw [hct] at hok
      rcases processEntityChange_insert law hct ((hid 1).symm ▸ hok) with
        ⟨e, hup, herror⟩ | ⟨db', hdone, htable, hrest⟩
      · exact .inl ⟨e, herror, .inl hup⟩
      · refine .inr ⟨db', hdone, hrest, htable ▸ keyed_upsertRow hk, fun i => ?_⟩
        rw [htable, upsertRow, find_upsert fun r _ _ => VersionedRow.assign_key _ r, hid 1]
        by_cases hi : i = change.entityId
        · rw [if_pos hi, if_pos hi, hi, hok]
          rfl
        · rw [if_neg hi, if_neg hi]
  | update =>
      rw [hct] at hok
      obtain ⟨r, hfind, hlive, hver⟩ := hok
      obtain ⟨hr, hrid⟩ := find_some hfind
      -- the conditional statement matches the row of the change, and no other
      have hsel : matchesVersion (VersionedRow.key (mk (change.clientVersion + 1)))
          change.clientVersion r = true :=
        matchesVersion_iff.2 ⟨hrid.trans (hid _).symm, hver, hlive⟩
      rcases processEntityChange_update law hk hct hversion hr hsel with
        ⟨e, hup, herror⟩ | ⟨db', hdone, htable, hrest⟩
      · exact .inl ⟨e, herror, .inr (.inl hup)⟩
      · refine .inr ⟨db', hdone, hrest, htable ▸ keyed_updateIfVersion hk, fun i => ?_⟩
        rw [htable, updateIfVersion,
          find_updateWhere_matching (fun r => VersionedRow.assign_key _ r) hk hr hsel, hid, hfind]
        rfl
  | delete =>
      rw [hct] at hok
      obtain ⟨r, hfind, hlive, hver⟩ := hok
      obtain ⟨hr, hrid⟩ := find_some hfind
      have hsel : matchesVersion change.entityId change.clientVersion r = true :=
        matchesVersion_iff.2 ⟨hrid, hver, hlive⟩
      rcases processEntityChange_delete mk law hk hct hr hsel with
        ⟨e, hdel, herror⟩ | ⟨db', hdone, htable, hrest⟩
      · exact .inl ⟨e, herror, .inr (.inr hdel)⟩
      · refine .inr ⟨db', hdone, hrest, htable ▸ keyed_deleteIfVersion hk, fun i => ?_⟩
        rw [htable, deleteIfVersion,
          find_updateWhere_matching (fun r => VersionedRow.markDeleted_key _ r) hk hr hsel, hfind]
        rfl

end

/-- The change as the route sends it on. -/
def SyncChange.bound (me : Identity) (c : SyncChange) : SyncChange :=
  { c with data := c.data.bind me.userId me.projectId }

/-- Ids are unique in the two versioned tables. -/
def KeyedEntities (db : Database) : Prop :=
  Keyed Workflow.id db.workflows ∧ Keyed Scenario.id db.scenarios

/-- The refusals of a statement are not mistaken for a missing entity. -/
theorem saysMissing_dataTooLong : saysMissing Database.dataTooLong = false := by decide +kernel

theorem saysMissing_foreignKeyFails : saysMissing Database.foreignKeyFails = false := by
  decide +kernel

/-- The error of a failed write is not mistaken for a missing entity. -/
def StatementFaults.SaysOther (faults : StatementFaults) : Prop :=
  ∀ e ∈ faults.write, saysMissing e = false

section

variable {me : Identity} {c : SyncChange} {faults : StatementFaults} {db : Database} {now : Time}

theorem failing_error {α : Type} {statement : Except DbError α} {e : DbError}
    (hfaults : faults.SaysOther) (hother : statement = .error e → saysMissing e = false)
    (h : failing faults.write statement = .error e) : saysMissing e = false := by
  unfold failing at h
  split at h
  · rename_i fault hfault
    rw [← Except.error.inj h]
    exact hfaults fault hfault
  · exact hother h

theorem upsertWorkflow_error {w : Workflow} {e : DbError} (h : db.upsertWorkflow w = .error e) :
    saysMissing e = false := by
  unfold Database.upsertWorkflow at h
  split_ifs at h
  rw [← Except.error.inj h]
  exact saysMissing_dataTooLong

theorem updateWorkflowIfVersion_error {w : Workflow} {base : Int} {e : DbError}
    (h : db.updateWorkflowIfVersion w base = .error e) : saysMissing e = false := by
  unfold Database.updateWorkflowIfVersion at h
  dsimp only at h
  split_ifs at h
  rw [← Except.error.inj h]
  exact saysMissing_dataTooLong

theorem upsertScenario_error {s : Scenario} {e : DbError} (h : db.upsertScenario s = .error e) :
    saysMissing e = false := by
  unfold Database.upsertScenario at h
  split_ifs at h
  · rw [← Except.error.inj h]
    exact saysMissing_dataTooLong
  · rw [← Except.error.inj h]
    exact saysMissing_foreignKeyFails

theorem updateScenarioIfVersion_error {s : Scenario} {base : Int} {e : DbError}
    (h : db.updateScenarioIfVersion s base = .error e) : saysMissing e = false := by
  unfold Database.updateScenarioIfVersion at h
  dsimp only at h
  split_ifs at h
  · rw [← Except.error.inj h]
    exact saysMissing_dataTooLong
  · rw [← Except.error.inj h]
    exact saysMissing_foreignKeyFails

/-- The outcome of a change: what its operation in the log makes of the server's rows, or an error
    that says nothing about a missing entity. -/
def SyncChange.Performed (me : Identity) (c : SyncChange) (db : Database) (outcome : ChangeOutcome) :
    Prop :=
  (∃ e, outcome = .error e ∧ saysMissing e = false) ∨
    ∃ db', outcome = .ok ([], db') ∧ KeyedEntities db' ∧
      serverView db' = Function.update (serverView db) ((syncLog me).key c)
        ((syncLog me).effect c (serverView db ((syncLog me).key c)))

/-- How the rows of a table appear among the server's rows. -/
structure Shows {ρ α : Type} [VersionedRow ρ] (kind : EntityKind) (table : Database → List ρ)
    (rest : Database → α) (shown : ρ → ChangeData) : Prop where
  view : ∀ db i, serverView db (kind, i) = (find VersionedRow.key i (table db)).map shown
  others : ∀ {db db' : Database}, rest db' = rest db → ∀ k : EntityKind × String, k.1 ≠ kind →
    serverView db' k = serverView db k
  keyed : ∀ {db db' : Database}, rest db' = rest db → KeyedEntities db →
    Keyed (VersionedRow.key : ρ → String) (table db') → KeyedEntities db'
  isDeleted : ∀ r, isDeletedPayload (shown r) = VersionedRow.isDeleted r
  version : ∀ r, (shown r).version = VersionedRow.version r
  deleted : ∀ now r, shown (VersionedRow.markDeleted now r) = (shown r).deleted

/-- The rows that a change stores are the ones that the client expects. -/
structure SyncChange.Stores {ρ : Type} [VersionedRow ρ] (me : Identity) (shown : ρ → ChangeData)
    (mk : Int → ρ) (c : SyncChange) : Prop where
  version : ∀ v, VersionedRow.version (mk v) = v
  key : ∀ v, VersionedRow.key (mk v) = c.entityId
  inserted : c.data.createdAt ≠ zeroTime → shown (mk 1) = c.data.stored me 1
  assigned : ∀ v r, VersionedRow.key r = c.entityId → (shown r).createdAt = c.data.createdAt →
    shown (VersionedRow.assign (mk v) r) = c.data.stored me v

/-- The acceptable changes of a table, performed by the server. -/
theorem Shows.performs {ρ α : Type} [DecidableEq ρ] [VersionedRow ρ] {store : EntityStore ρ}
    {table : Database → List ρ} {rest : Database → α} {kind : EntityKind} {shown : ρ → ChangeData}
    {mk : Int → ρ} (hshows : Shows kind table rest shown) (law : SoundStore store table rest)
    (hstores : c.Stores me shown mk) (hk : KeyedEntities db)
    (hkeyed : Keyed (VersionedRow.key : ρ → String) (table db))
    (hkind : c.data.kind = kind) (hok : (syncLog me).ok c (serverView db ((syncLog me).key c)))
    (herrors : ∀ e, store.upsert (mk 1) db = .error e ∨
      store.updateIfVersion (mk (c.clientVersion + 1)) c.clientVersion db = .error e ∨
      store.deleteIfVersion c.entityId c.clientVersion now db = .error e → saysMissing e = false) :
    c.Performed me db (processEntityChange store (c.bound me) (some mk) now db) := by
  have hkey : (syncLog me).key c = (kind, c.entityId) := congrArg (·, c.entityId) hkind
  unfold SyncChange.Performed
  rw [hkey, hshows.view] at hok ⊢
  obtain ⟨-, hok⟩ := hok
  -- the log accepts the change: the row is there as the client knows it
  have hrow : Acceptable VersionedRow.key (c.bound me) (table db) := by
    simp only [Acceptable, SyncChange.bound]
    cases hct : c.changeType with
    | insert =>
        rw [hct] at hok
        exact Option.map_eq_none_iff.1 hok.1
    | _ =>
        rw [hct] at hok
        obtain ⟨view, hview, hlive, hver, -⟩ := hok
        obtain ⟨r, hfind, rfl⟩ := Option.map_eq_some_iff.1 hview
        exact ⟨r, hfind, (hshows.isDeleted r).symm.trans hlive, (hshows.version r).symm.trans hver⟩
  rcases processEntityChange_performs law mk hkeyed hstores.version hstores.key hrow with
    ⟨e, herror, hwhy⟩ | ⟨db', hdone, hrest, hkeyed', hfind⟩
  · exact .inl ⟨e, herror, herrors e hwhy⟩
  · refine .inr ⟨db', hdone, hshows.keyed hrest hk hkeyed', ?_⟩
    funext key
    obtain ⟨kind', i⟩ := key
    rw [Function.update_apply]
    by_cases hsame : kind' = kind
    · subst hsame
      rw [hshows.view, hfind]
      by_cases heq : i = c.entityId
      · -- the row of the change becomes what its operation in the log makes of it
        rw [if_pos heq, if_pos (by rw [heq])]
        simp only [performed, syncLog]
        cases hct : c.changeType with
        | insert =>
            rw [hct] at hok
            exact congrArg some (hstores.inserted hok.2)
        | update =>
            rw [hct] at hok
            obtain ⟨view, hview, -, -, hcreated⟩ := hok
            obtain ⟨r, hr, rfl⟩ := Option.map_eq_some_iff.1 hview
            rw [hr]
            exact congrArg some (hstores.assigned _ r (find_some hr).2 hcreated)
        | delete =>
            rw [hct] at hok
            obtain ⟨view, hview, -⟩ := hok
            obtain ⟨r, hr, -⟩ := Option.map_eq_some_iff.1 hview
            rw [hr]
            exact congrArg some (hshows.deleted now r)
      · rw [if_neg heq, if_neg fun hpair => heq (Prod.mk.inj hpair).2, hshows.view]
    · rw [if_neg fun hpair => hsame (Prod.mk.inj hpair).1, hshows.others hrest _ hsame]

theorem shows_workflows : Shows .workflow Database.workflows
    (fun db : Database => { db with workflows := [] }) fun w => .workflow (some w.content) where
  view _ _ := rfl
  others {db db'} hrest := by
    have hscenarios : db'.scenarios = db.scenarios := (congrArg Database.scenarios hrest :)
    rintro ⟨kind, i⟩ hkind
    cases kind with
    | workflow => exact absurd rfl hkind
    | scenario => simp only [serverView, hscenarios]
    | _ => rfl
  keyed hrest hk hkeyed := ⟨hkeyed, (congrArg Database.scenarios hrest :) ▸ hk.2⟩
  isDeleted _ := rfl
  version _ := rfl
  deleted _ _ := rfl

theorem shows_scenarios : Shows .scenario Database.scenarios
    (fun db : Database => { db with scenarios := [] }) fun s => .scenario (some s.content) where
  view _ _ := rfl
  others {db db'} hrest := by
    have hworkflows : db'.workflows = db.workflows := (congrArg Database.workflows hrest :)
    rintro ⟨kind, i⟩ hkind
    cases kind with
    | scenario => exact absurd rfl hkind
    | workflow => simp only [serverView, hworkflows]
    | _ => rfl
  keyed hrest hk hkeyed := ⟨(congrArg Database.workflows hrest :) ▸ hk.1, hkeyed⟩
  isDeleted _ := rfl
  version _ := rfl
  deleted _ _ := rfl

/-- The acceptable changes of a workflow. -/
theorem processWorkflow_performs {d : Workflow} (hfaults : faults.SaysOther) (hk : KeyedEntities db)
    (hdata : c.data = .workflow (some d))
    (hok : (syncLog me).ok c (serverView db ((syncLog me).key c))) :
    c.Performed me db (processChangeInTx me.userId faults now (c.bound me) db) := by
  have haddr : d.id = c.entityId := by
    have haddr := hok.1
    rwa [hdata] at haddr
  let data : Workflow := { d with userId := me.userId, projectId := me.projectId }
  have hprocess : processChangeInTx me.userId faults now (c.bound me) db
      = processEntityChange (workflowStore.withFaults faults) (c.bound me)
          (some (workflowRow me.userId now data)) now db := by
    simp only [processChangeInTx, SyncChange.bound, hdata, ChangeData.bind]
    rfl
  have hstores : c.Stores me (fun w : Workflow => .workflow (some w.content))
      (workflowRow me.userId now data) := by
    refine ⟨fun _ => rfl, fun _ => haddr, fun hdated => ?_, fun v r hr hcreated => ?_⟩
    · rw [hdata] at hdated ⊢
      have hdated : d.createdAt ≠ zeroTime := hdated
      simp [ChangeData.stored, workflowRow, Workflow.content, data, hdated]
    · rw [hdata] at hcreated ⊢
      have hcreated : r.createdAt = d.createdAt := hcreated
      have hid : r.id = d.id := hr.trans haddr.symm
      simp [ChangeData.stored, workflowRow, Workflow.content, data, VersionedRow.assign, hid,
        hcreated]
  rw [hprocess]
  refine shows_workflows.performs (workflowStore_lawful.withFaults faults) hstores hk hk.1
    (by rw [hdata]; rfl) hok ?_
  rintro e (hwhy | hwhy | hwhy)
  · exact failing_error hfaults upsertWorkflow_error hwhy
  · exact failing_error hfaults updateWorkflowIfVersion_error hwhy
  · exact failing_error hfaults (fun hdel => by cases hdel) hwhy

/-- The acceptable changes of a scenario. -/
theorem processScenario_performs {d : Scenario} (hfaults : faults.SaysOther) (hk : KeyedEntities db)
    (hdata : c.data = .scenario (some d))
    (hok : (syncLog me).ok c (serverView db ((syncLog me).key c))) :
    c.Performed me db (processChangeInTx me.userId faults now (c.bound me) db) := by
  have haddr : d.id = c.entityId := by
    have haddr := hok.1
    rwa [hdata] at haddr
  let data : Scenario := { d with userId := me.userId, projectId := me.projectId }
  have hprocess : processChangeInTx me.userId faults now (c.bound me) db
      = processEntityChange (scenarioStore.withFaults faults) (c.bound me)
          (some (scenarioRow me.userId now data)) now db := by
    simp only [processChangeInTx, SyncChange.bound, hdata, ChangeData.bind]
    rfl
  have hstores : c.Stores me (fun s : Scenario => .scenario (some s.content))
      (scenarioRow me.userId now data) := by
    refine ⟨fun _ => rfl, fun _ => haddr, fun hdated => ?_, fun v r hr hcreated => ?_⟩
    · rw [hdata] at hdated ⊢
      have hdated : d.createdAt ≠ zeroTime := hdated
      simp [ChangeData.stored, scenarioRow, Scenario.content, data, hdated]
    · rw [hdata] at hcreated ⊢
      have hcreated : r.createdAt = d.createdAt := hcreated
      have hid : r.id = d.id := hr.trans haddr.symm
      simp [ChangeData.stored, scenarioRow, Scenario.content, data, VersionedRow.assign, hid,
        hcreated]
  rw [hprocess]
  refine shows_scenarios.performs (scenarioStore_lawful.withFaults faults) hstores hk hk.2
    (by rw [hdata]; rfl) hok ?_
  rintro e (hwhy | hwhy | hwhy)
  · exact failing_error hfaults upsertScenario_error hwhy
  · exact failing_error hfaults updateScenarioIfVersion_error hwhy
  · exact failing_error hfaults (fun hdel => by cases hdel) hwhy

/-- **The server performs an acceptable change** and reports no conflict, unless it refuses the
    data or the statement fails; then it says nothing about a missing entity. -/
theorem processChangeInTx_performs (now : Time) (hfaults : faults.SaysOther) (hk : KeyedEntities db)
    (hok : (syncLog me).ok c (serverView db ((syncLog me).key c))) :
    c.Performed me db (processChangeInTx me.userId faults now (c.bound me) db) := by
  have haddr : c.data.addresses c.entityId := hok.1
  cases hdata : c.data with
  | workflow data =>
      cases data with
      | none =>
          rw [hdata] at haddr
          cases haddr
      | some d => exact processWorkflow_performs hfaults hk hdata hok
  | scenario data =>
      cases data with
      | none =>
          rw [hdata] at haddr
          cases haddr
      | some d => exact processScenario_performs hfaults hk hdata hok
  | workflowRun data =>
      rw [hdata] at haddr
      cases haddr
  | scenarioRun data =>
      rw [hdata] at haddr
      cases haddr
  | testResult data =>
      rw [hdata] at haddr
      cases haddr

/-- An acceptable change that fails is one the server refuses. -/
theorem refused_of_error (hk : KeyedEntities db) (haddr : c.data.addresses c.entityId)
    {e : DbError} (h : processChangeInTx me.userId faults now (c.bound me) db = .error e) :
    (c.bound me).refused me.userId faults now db = true := by
  unfold processChangeInTx at h
  unfold SyncChange.refused
  cases hdata : c.data with
  | workflow data =>
      simp only [SyncChange.bound, hdata, ChangeData.bind] at h ⊢
      exact (processWorkflowChangeInTx_error_iff hk.1).1 ⟨e, h⟩
  | scenario data =>
      simp only [SyncChange.bound, hdata, ChangeData.bind] at h ⊢
      exact (processScenarioChangeInTx_error_iff hk.2).1 ⟨e, h⟩
  | workflowRun data =>
      rw [hdata] at haddr
      cases haddr
  | scenarioRun data =>
      rw [hdata] at haddr
      cases haddr
  | testResult data =>
      rw [hdata] at haddr
      cases haddr

end

/-! ## The server performs a batch -/

/-- Some change of the list is refused when its turn comes, and a later one is of the same
    entity. -/
def refusedBeforeOther (userId : String) (clock : Nat → Time) (faults : BatchFaults) :
    List SyncChange → Nat → Database → Bool
  | [], _, _ => false
  | change :: rest, n, db =>
    (change.refused userId (faults.statements n) (clock n) db &&
        rest.any fun c => c.sameEntity change) ||
      refusedBeforeOther userId clock faults rest (n + 1)
        (afterChange userId (faults.statements n) (clock n) change db)

theorem kind_eq_iff (d d' : ChangeData) : d.kind = d'.kind ↔ d.entityType = d'.entityType := by
  cases d <;> cases d' <;> simp [ChangeData.kind, ChangeData.entityType]

theorem sameEntity_iff (me : Identity) (c c' : SyncChange) :
    c.sameEntity c' = true ↔ (syncLog me).key c = (syncLog me).key c' := by
  simp [SyncChange.sameEntity, syncLog, kind_eq_iff]

@[simp] theorem ChangeData.bind_kind (userId projectId : String) (d : ChangeData) :
    (d.bind userId projectId).kind = d.kind := by
  cases d <;> rfl

theorem bound_sameEntity (me : Identity) (c c' : SyncChange) :
    (c.bound me).sameEntity (c'.bound me) = c.sameEntity c' := by
  rw [Bool.eq_iff_iff, sameEntity_iff me, sameEntity_iff me]
  simp [syncLog, SyncChange.bound]

/-- What a loop over acceptable changes gives: no conflict, and when no change failed the server
    has performed them all. -/
structure Performs (me : Identity) (changes : List SyncChange) (db : Database)
    (response : SyncBatchResponse) (out : SyncBatchResponse × Database) : Prop where
  conflicts : response.conflicts = [] → out.1.conflicts = []
  missing : (∀ e ∈ response.errors, isMissingError e = false) →
    ∀ e ∈ out.1.errors, isMissingError e = false
  performed : out.1.errors = [] → response.errors = [] ∧ KeyedEntities out.2 ∧
    ∀ rest goal, (syncLog me).Leads (serverView db) changes rest goal →
      (syncLog me).Leads (serverView out.2) [] rest goal

theorem processChanges_performs {me : Identity} {clock : Nat → Time} {faults : BatchFaults}
    {changes : List SyncChange} (hfaults : ∀ n, (faults.statements n).SaysOther) :
    ∀ {n : Nat} {db : Database} (response : SyncBatchResponse), KeyedEntities db →
      (syncLog me).Ready (serverView db) changes →
      refusedBeforeOther me.userId clock faults (changes.map (SyncChange.bound me)) n db = false →
      Performs me changes db response
        (processChanges me.userId clock faults (changes.map (SyncChange.bound me)) n db
          response) := by
  induction changes with
  | nil =>
      intro n db response hk _ _
      exact ⟨fun h => h, fun h => h, fun h => ⟨h, hk, fun rest goal hleads => hleads⟩⟩
  | cons c rest ih =>
      intro n db response hk hready hclean
      simp only [List.map_cons, refusedBeforeOther, Bool.or_eq_false_iff] at hclean
      rw [List.map_cons, processChanges]
      rcases processChangeInTx_performs (clock n) (hfaults n) hk hready.head with
        ⟨e, herror, hother⟩ | ⟨db', hdone, hk', hview⟩
      · -- the change is refused, so the batch has no other change of its entity
        have hrefused := refused_of_error hk hready.head.1 herror
        have hafter :
            afterChange me.userId (faults.statements n) (clock n) (c.bound me) db = db := by
          simp [afterChange, herror]
        rw [hafter] at hclean
        rw [hrefused, Bool.true_and, List.any_eq_false] at hclean
        have hlast : ∀ c' ∈ rest, (syncLog me).key c' ≠ (syncLog me).key c := by
          intro c' hc' hsame
          apply hclean.1 (c'.bound me) (List.mem_map_of_mem hc')
          rw [bound_sameEntity]
          exact (sameEntity_iff me c' c).2 hsame
        rw [herror]
        have hrest := ih (n := n + 1)
          { response with
            errors := response.errors ++
              [⟨(c.bound me).data.entityType, (c.bound me).entityId, e⟩] }
          hk (hready.refuse hlast) hclean.2
        refine ⟨hrest.conflicts, fun hold => hrest.missing ?_, fun hnone => ?_⟩
        · intro err herr
          rcases List.mem_append.1 herr with herr | herr
          · exact hold err herr
          · rw [List.mem_singleton.1 herr]
            simp [isMissingError, hother]
        · have := (hrest.performed hnone).1
          simp at this
      · have hafter :
            afterChange me.userId (faults.statements n) (clock n) (c.bound me) db = db' := by
          simp [afterChange, hdone]
        rw [hafter] at hclean
        rw [hdone]
        have hrest := ih (n := n + 1)
          { response with
            conflicts := response.conflicts ++ []
            processedCount := response.processedCount + 1 }
          hk' (hview ▸ hready.perform) hclean.2
        refine ⟨fun hold => hrest.conflicts (by simpa using hold), hrest.missing, fun hnone => ?_⟩
        obtain ⟨herrors, hkeyed, hleads⟩ := hrest.performed hnone
        exact ⟨herrors, hkeyed, fun rest' goal hl => hleads rest' goal (hview ▸ hl.perform)⟩

/-- The `entity_type` of a kind. -/
def EntityKind.text : EntityKind → String
  | workflow => "workflow"
  | scenario => "scenario"
  | workflowRun => "workflow_run"
  | session => "scenario_run"
  | testResult => "test_result"

theorem entityType_eq (d : ChangeData) : d.entityType = d.kind.text := by
  cases d <;> rfl

theorem ofKey_filter_entityType (me : Identity) (k : EntityKind × String) (entityType : String)
    (changes : List SyncChange) :
    (syncLog me).ofKey k (changes.filter fun c => c.data.entityType = entityType)
      = if k.1.text = entityType then (syncLog me).ofKey k changes else [] := by
  unfold Log.ofKey
  rw [List.filter_filter]
  split_ifs with htype
  · apply List.filter_congr
    intro c _
    by_cases hkey : (syncLog me).key c = k
    · simp [entityType_eq, ← htype, ← hkey, syncLog]
    · simp [hkey]
  · rw [List.filter_eq_nil_iff]
    intro c _ hboth
    simp only [Bool.and_eq_true, decide_eq_true_eq] at hboth
    apply htype
    rw [← hboth.2, entityType_eq, ← hboth.1]
    rfl

/-- Ordering a batch by type keeps the order of each entity's changes. -/
theorem ofKey_orderSyncChanges (me : Identity) (k : EntityKind × String)
    (changes : List SyncChange) :
    (syncLog me).ofKey k (orderSyncChanges changes) = (syncLog me).ofKey k changes := by
  unfold orderSyncChanges
  simp only [List.flatMap_cons, List.flatMap_nil, ofKey_append, ofKey_filter_entityType]
  obtain ⟨kind, id⟩ := k
  cases kind <;> simp [EntityKind.text, Log.ofKey]

/-- A batch answers with the conflicts of its changes; it is rolled back, or it had no error. -/
theorem processBatch_outcome (clock : Nat → Time) (faults : BatchFaults) (req : SyncBatchRequest)
    (db : Database) :
    (processBatch clock faults req db).1.conflicts
        = (processChanges req.userId clock faults req.changes 0 db {}).1.conflicts ∧
      (((processBatch clock faults req db).1.success = false ∧
        (processBatch clock faults req db).2 = db ∧
        ∀ e ∈ (processBatch clock faults req db).1.errors,
          e ∈ (processChanges req.userId clock faults req.changes 0 db {}).1.errors ∨
            e.entityType = "") ∨
      ((processBatch clock faults req db).1.success = true ∧
        (processBatch clock faults req db).1.errors = [] ∧
        (processChanges req.userId clock faults req.changes 0 db {}).1.errors = [] ∧
        ∃ rows, (processBatch clock faults req db).2
          = { (processChanges req.userId clock faults req.changes 0 db {}).2 with
              syncMetadata := rows })) := by
  unfold processBatch
  dsimp only
  have hadded : ∀ (errors : List SyncError) (e : DbError),
      ∀ err ∈ errors ++ [⟨"", "", e⟩], err ∈ errors ∨ err.entityType = "" := by
    intro errors e err herr
    rcases List.mem_append.1 herr with herr | herr
    · exact .inl herr
    · rw [List.mem_singleton.1 herr]
      exact .inr rfl
  split
  · exact ⟨rfl, .inl ⟨rfl, rfl, hadded _ _⟩⟩
  · rename_i committed hmeta
    split
    · exact ⟨rfl, .inl ⟨rfl, rfl, fun e he => .inl he⟩⟩
    · rename_i hnone
      split
      · exact ⟨rfl, .inl ⟨rfl, rfl, hadded _ _⟩⟩
      · obtain ⟨rows, hrows⟩ := upsertSyncMetaData_eq (failing_ok hmeta)
        exact ⟨rfl, .inr ⟨processChanges_success .., not_not.1 hnone, not_not.1 hnone, rows,
          hrows⟩⟩

/-- **A batch of acceptable changes**: no conflict, and either it is rolled back or the server
    has performed it. -/
theorem processBatch_performs {me : Identity} (clock : Nat → Time) {faults : BatchFaults}
    {db : Database} {sent : List SyncChange} (hfaults : ∀ n, (faults.statements n).SaysOther)
    (hk : KeyedEntities db) (hready : (syncLog me).Ready (serverView db) sent)
    (hclean : refusedBeforeOther me.userId clock faults (me.toBatch sent).changes 0 db = false) :
    (processBatch clock faults (me.toBatch sent) db).1.conflicts = [] ∧
    (∀ e ∈ (processBatch clock faults (me.toBatch sent) db).1.errors, isMissingError e = false) ∧
    (((processBatch clock faults (me.toBatch sent) db).1.success = false ∧
        (processBatch clock faults (me.toBatch sent) db).2 = db) ∨
      ((processBatch clock faults (me.toBatch sent) db).1.success = true ∧
        (processBatch clock faults (me.toBatch sent) db).1.errors = [] ∧
        KeyedEntities (processBatch clock faults (me.toBatch sent) db).2 ∧
        ∀ rest goal, (syncLog me).Leads (serverView db) sent rest goal →
          (syncLog me).Leads (serverView (processBatch clock faults (me.toBatch sent) db).2) [] rest
            goal)) := by
  -- ordering by kind keeps the order of the changes of one entity
  have hready' : (syncLog me).Ready (serverView db) (orderSyncChanges sent) := by
    intro k
    rw [ofKey_orderSyncChanges]
    exact hready k
  have hloop : Performs me (orderSyncChanges sent) db {}
      (processChanges (me.toBatch sent).userId clock faults (me.toBatch sent).changes 0 db {}) :=
    processChanges_performs hfaults {} hk hready' hclean
  obtain ⟨hconflicts, hrest⟩ := processBatch_outcome clock faults (me.toBatch sent) db
  have hmissing := hloop.missing (by simp)
  refine ⟨hconflicts.trans (hloop.conflicts rfl), ?_, ?_⟩
  · rcases hrest with ⟨-, -, hsub⟩ | ⟨-, hnone, -⟩
    · intro e he
      rcases hsub e he with he | htype
      · exact hmissing e he
      · simp [isMissingError, htype]
    · rw [hnone]
      simp
  · rcases hrest with ⟨hfail, hback, -⟩ | ⟨hok, hnone, hloopNone, rows, hrows⟩
    · exact .inl ⟨hfail, hback⟩
    · obtain ⟨-, hkeyed, hleads⟩ := hloop.performed hloopNone
      refine .inr ⟨hok, hnone, ?_, fun rest goal hl => ?_⟩
      · rw [hrows]
        exact hkeyed
      · have hview : serverView (processBatch clock faults (me.toBatch sent) db).2 = serverView
            (processChanges (me.toBatch sent).userId clock faults (me.toBatch sent).changes 0 db
              {}).2 := by
          rw [hrows]
          funext key
          obtain ⟨kind, i⟩ := key
          cases kind <;> rfl
        rw [hview]
        apply hleads
        intro k
        rw [ofKey_orderSyncChanges]
        exact hl k

end TokyoTester
