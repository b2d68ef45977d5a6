import TokyoTester.Library.Optimistic
import TokyoTester.Sync.Versions

set_option autoImplicit false

/-! # A batch is a fold of the optimistic rule

What the changes of workflows and scenarios in a batch should do to the rows is a rule for one
change, applied one after the other: what loses against a live row is a conflict with that row, an
update without a live row is an error. The batch runs statements that can fail. A read that fails
is taken for a row that is not there (`readsSound` excludes it where that matters); a write that
fails, like a failed commit, leaves everything as it was. -/

namespace TokyoTester

open Table Versioned

/-! ## The rule -/

/-- The rows of both tables. -/
structure SyncedRows where
  workflows : Rows Workflow
  scenarios : Rows Scenario

def Database.syncedRows (db : Database) : SyncedRows := ⟨rowsOf db.workflows, rowsOf db.scenarios⟩

section Rule

variable {ρ : Type} [VersionedRow ρ]

/-- The optimistic rule: the conflicts and the rows after a change, or none for an error. -/
def optimisticRule (store : EntityStore ρ) (change : SyncChange) (row : Option (Int → ρ))
    (now : Time) (rows : Rows ρ) : Option (List ConflictInfo × Rows ρ) :=
  match change.changeType, row with
  | .insert, some row =>
    let id := VersionedRow.key (row 1)
    match rows.live id with
    | some existing => some ([conflictWith store change id existing], rows)
    | none =>
      -- a row that was deleted is written over
      let stored := (rows id).elim (row 1) (VersionedRow.assign (row 1))
      some ([], Function.update rows id (some stored))
  | .update, some row =>
    let next := row (change.clientVersion + 1)
    let id := VersionedRow.key next
    match rows.live id with
    | some existing =>
      if VersionedRow.version existing = change.clientVersion then
        some ([], Function.update rows id (some (VersionedRow.assign next existing)))
      else some ([conflictWith store change id existing], rows)
    | none => none
  | .delete, _ =>
    let id := change.entityId
    match rows.live id with
    | some existing =>
      if VersionedRow.version existing = change.clientVersion then
        some ([], Function.update rows id (some (VersionedRow.markDeleted now existing)))
      else some ([conflictWith store change id existing], rows)
    | none => some ([], rows)
  | _, none => none

end Rule

/-- The rule for a change of either kind. -/
def ruleForChange (userId : String) (now : Time) (change : SyncChange) (rows : SyncedRows) :
    Option (List ConflictInfo × SyncedRows) :=
  match change.data with
  | .workflow data =>
    (optimisticRule workflowStore change (data.map (workflowRow userId now)) now rows.workflows).map
      fun (conflicts, workflows) => (conflicts, { rows with workflows })
  | .scenario data =>
    (optimisticRule scenarioStore change (data.map (scenarioRow userId now)) now rows.scenarios).map
      fun (conflicts, scenarios) => (conflicts, { rows with scenarios })
  | _ => none

/-- The rule applied to the changes of a batch in their order. -/
def ruleForChanges (userId : String) (clock : Nat → Time) :
    List SyncChange → Nat → SyncedRows → Option (List ConflictInfo × SyncedRows)
  | [], _, rows => some ([], rows)
  | change :: rest, n, rows => do
    let (conflicts, rows) ← ruleForChange userId (clock n) change rows
    let (later, rows) ← ruleForChanges userId clock rest (n + 1) rows
    some (conflicts ++ later, rows)

/-! ## Refused changes whose row is not read -/

/-- An insert or a deletion that the rule refuses. -/
def refusesSilently {ρ : Type} [VersionedRow ρ] (change : SyncChange) (row : Option (Int → ρ))
    (rows : Rows ρ) : Bool :=
  match change.changeType, row with
  | .insert, some row => (rows.live (VersionedRow.key (row 1))).isSome
  | .delete, _ =>
    (rows.live change.entityId).any fun existing =>
      VersionedRow.version existing ≠ change.clientVersion
  | _, _ => false

/-- The change is refused only if a row is read, and that read fails. -/
def readMissing (faults : StatementFaults) (change : SyncChange) (rows : SyncedRows) : Bool :=
  faults.read.isSome && match change.data with
    | .workflow data =>
      refusesSilently change (data.map fun d v => { d with version := v }) rows.workflows
    | .scenario data =>
      refusesSilently change (data.map fun d v => { d with version := v }) rows.scenarios
    | _ => false

/-- Along the rule, every row that refuses an insert or a deletion is read. -/
def readsSound (userId : String) (clock : Nat → Time) (faults : Nat → StatementFaults) :
    List SyncChange → Nat → SyncedRows → Bool
  | [], _, _ => true
  | change :: rest, n, rows =>
    !readMissing (faults n) change rows &&
      match ruleForChange userId (clock n) change rows with
      | some (_, rows) => readsSound userId clock faults rest (n + 1) rows
      | none => true

/-! ## One change -/

section Change

variable {ρ α : Type} [DecidableEq ρ] [VersionedRow ρ] {store : EntityStore ρ}
  {table : Database → List ρ} {rest : Database → α} {change : SyncChange}
  {row : Option (Int → ρ)} {now : Time} {db db' : Database} {conflicts : List ConflictInfo}
  {faults : StatementFaults}

/-- A read that finds nothing fails, or no live row has the key. -/
theorem withFaults_get_error (law : LawfulStore store table rest)
    (hk : Keyed (VersionedRow.key : ρ → String) (table db)) {k : String} {e : DbError}
    (h : (store.withFaults faults).get k db = .error e) :
    faults.read.isSome = true ∨ (rowsOf (table db)).live k = none := by
  rw [live_rowsOf hk]
  exact law.unseen h

/-- **A change follows the rule** when the row that refuses it is read. -/
theorem processEntityChange_refines (law : LawfulStore store table rest)
    (hk : Keyed (VersionedRow.key : ρ → String) (table db))
    (hversion : ∀ mk, row = some mk → ∀ v, VersionedRow.version (mk v) = v)
    (hread : faults.read.isSome = true → refusesSilently change row (rowsOf (table db)) = false)
    (h : processEntityChange (store.withFaults faults) change row now db = .ok (conflicts, db')) :
    optimisticRule store change row now (rowsOf (table db))
      = some (conflicts, rowsOf (table db')) := by
  have hget : ∀ {k : String} {d : Database} {r : ρ},
      Keyed (VersionedRow.key : ρ → String) (table d) →
      (store.withFaults faults).get k d = .ok r → (rowsOf (table d)).live k = some r := by
    intro k d r hkeyed hfound
    rw [live_rowsOf hkeyed]
    exact law.get (failing_ok hfound)
  unfold optimisticRule
  rcases processEntityChange_ok h with ⟨mk, hct, rfl, hcase⟩ | ⟨mk, updated, hct, rfl, hup, hcase⟩ |
    ⟨deleted, hct, hdel, hcase⟩
  · -- an insert
    rw [hct]
    dsimp only
    rcases hcase with ⟨existing, hfound, rfl, rfl⟩ | ⟨⟨e, hmissing⟩, hup, rfl⟩
    · rw [hget hk hfound]
      rfl
    · have hnone : (rowsOf (table db)).live (VersionedRow.key (mk 1)) = none := by
        rcases withFaults_get_error law hk hmissing with hfails | hnone
        · have hsilent := hread hfails
          unfold refusesSilently at hsilent
          rw [hct] at hsilent
          exact Option.isNone_iff_eq_none.1 (Option.isSome_eq_false_iff.1 hsilent)
        · exact hnone
      rw [hnone, (law.upsert (failing_ok hup)).1, rowsOf_upsertRow]
  · -- an update
    rw [hct]
    dsimp only
    obtain ⟨hupdated, htable⟩ := Prod.ext_iff.1 (law.update (failing_ok hup)).1
    dsimp only at hupdated htable
    rcases updateIfVersion_rows hk (hversion mk rfl (change.clientVersion + 1)) with
      ⟨hfst, r, hlive, hbase, hrows⟩ | ⟨hfst, hsame, hother⟩
    · rw [hlive]
      dsimp only
      rw [if_pos hbase]
      rcases hcase with ⟨-, rfl⟩ | ⟨existing, hmissed, -, -⟩
      · rw [htable, hrows]
      · rw [hupdated, hfst] at hmissed
        cases hmissed
    · rw [hsame] at htable
      rcases hcase with ⟨hfound, -⟩ | ⟨existing, -, hfound, rfl⟩
      · rw [hupdated, hfst] at hfound
        cases hfound
      · have hlive := hget (htable ▸ hk) hfound
        rw [htable] at hlive ⊢
        rw [hlive]
        dsimp only
        rw [if_neg (hother existing hlive)]
        rfl
  · -- a deletion
    rw [hct]
    dsimp only
    obtain ⟨hdeleted, htable⟩ := Prod.ext_iff.1 (law.delete (failing_ok hdel)).1
    dsimp only at hdeleted htable
    rcases deleteIfVersion_rows now hk with ⟨hfst, r, hlive, hbase, hrows⟩ | ⟨hfst, hsame, hother⟩
    · rw [hlive]
      dsimp only
      rw [if_pos hbase]
      rcases hcase with ⟨-, rfl⟩ | ⟨existing, hmissed, -, -⟩ | ⟨e, hmissed, -, -⟩
      · rw [htable, hrows]
      all_goals
        rw [hdeleted, hfst] at hmissed
        cases hmissed
    · rw [hsame] at htable
      rcases hcase with ⟨hfound, -⟩ | ⟨existing, -, hfound, rfl⟩ | ⟨e, -, hmissing, rfl⟩
      · rw [hdeleted, hfst] at hfound
        cases hfound
      · have hlive := hget (htable ▸ hk) hfound
        rw [htable] at hlive ⊢
        rw [hlive]
        dsimp only
        rw [if_neg (hother existing hlive)]
        rfl
      · have hnone : (rowsOf (table db)).live change.entityId = none := by
          rcases withFaults_get_error law (htable ▸ hk) hmissing with hfails | hnone
          · have hsilent := hread hfails
            unfold refusesSilently at hsilent
            rw [hct] at hsilent
            cases hrow : (rowsOf (table db)).live change.entityId with
            | none => rfl
            | some r =>
                simp only [hrow, Option.any_some, decide_eq_false_iff_not, not_not] at hsilent
                exact absurd hsilent (hother r hrow)
          · rwa [htable] at hnone
        rw [hnone, htable]

/-- **A refused change whose row is not read** reports nothing, and the rule reports a conflict. -/
theorem processEntityChange_missed (law : LawfulStore store table rest)
    (hk : Keyed (VersionedRow.key : ρ → String) (table db))
    (hfault : faults.read.isSome = true)
    (hsilent : refusesSilently change row (rowsOf (table db)) = true)
    (h : processEntityChange (store.withFaults faults) change row now db = .ok (conflicts, db')) :
    conflicts = [] ∧ ∃ conflict rows,
      optimisticRule store change row now (rowsOf (table db)) = some ([conflict], rows) := by
  have hget : ∀ {k : String} {d : Database} {r : ρ},
      (store.withFaults faults).get k d ≠ .ok r := by
    intro k d r hfound
    obtain ⟨e, he⟩ := Option.isSome_iff_exists.1 hfault
    have hfails : failing faults.read (store.get k d) = .ok r := hfound
    rw [he] at hfails
    cases hfails
  unfold refusesSilently at hsilent
  unfold optimisticRule
  rcases processEntityChange_ok h with ⟨mk, hct, rfl, hcase⟩ | ⟨mk, -, hct, rfl, -, -⟩ |
    ⟨deleted, hct, hdel, hcase⟩
  · -- an insert
    rw [hct] at hsilent ⊢
    obtain ⟨existing, hlive⟩ := Option.isSome_iff_exists.1 hsilent
    dsimp only
    rw [hlive]
    rcases hcase with ⟨found, hfound, -, -⟩ | ⟨-, -, rfl⟩
    · exact absurd hfound hget
    · exact ⟨rfl, _, _, rfl⟩
  · rw [hct] at hsilent
    cases hsilent
  · -- a deletion
    rw [hct] at hsilent ⊢
    obtain ⟨existing, hlive, hversion⟩ := (Option.any_eq_true _ _).1 hsilent
    have hversion : VersionedRow.version existing ≠ change.clientVersion :=
      of_decide_eq_true hversion
    dsimp only
    rw [hlive]
    dsimp only
    rw [if_neg hversion]
    obtain ⟨hdeleted, -⟩ := Prod.ext_iff.1 (law.delete (failing_ok hdel)).1
    dsimp only at hdeleted
    rcases hcase with ⟨rfl, -⟩ | ⟨found, -, hfound, -⟩ | ⟨e, -, -, rfl⟩
    · rcases deleteIfVersion_rows now hk with ⟨-, r, hother, hbase, -⟩ | ⟨hfst, -, -⟩
      · rw [hlive] at hother
        exact absurd (Option.some.inj hother ▸ hbase) hversion
      · rw [hfst] at hdeleted
        cases hdeleted
    · exact absurd hfound hget
    · exact ⟨rfl, _, _, rfl⟩

/-- A change keeps the keys of its table unique, and the other tables. -/
theorem processEntityChange_keeps (law : LawfulStore store table rest)
    (h : processEntityChange (store.withFaults faults) change row now db = .ok (conflicts, db')) :
    (Keyed (VersionedRow.key : ρ → String) (table db) →
      Keyed (VersionedRow.key : ρ → String) (table db')) ∧ rest db' = rest db := by
  rcases processEntityChange_ok h with ⟨mk, -, -, ⟨-, -, rfl, -⟩ | ⟨-, hup, -⟩⟩ |
    ⟨mk, updated, -, -, hup, -⟩ | ⟨deleted, -, hdel, -⟩
  · exact ⟨id, rfl⟩
  · obtain ⟨htable, hrest⟩ := law.upsert (failing_ok hup)
    exact ⟨fun hk => htable ▸ keyed_upsertRow hk, hrest⟩
  · obtain ⟨htable, hrest⟩ := law.update (failing_ok hup)
    have htable : table db' = _ := congrArg Prod.snd htable
    exact ⟨fun hk => htable ▸ keyed_updateIfVersion hk, hrest⟩
  · obtain ⟨htable, hrest⟩ := law.delete (failing_ok hdel)
    have htable : table db' = _ := congrArg Prod.snd htable
    exact ⟨fun hk => htable ▸ keyed_deleteIfVersion hk, hrest⟩

end Change

/-! ## A change of either kind -/

/-- A change of a workflow or a scenario. -/
def SyncChange.versioned (change : SyncChange) : Bool :=
  match change.data with
  | .workflow _ => true
  | .scenario _ => true
  | _ => false

/-- The ids of workflows and of scenarios are primary keys. -/
structure Database.VersionedKeys (db : Database) : Prop where
  workflows : Keyed (VersionedRow.key : Workflow → String) db.workflows
  scenarios : Keyed (VersionedRow.key : Scenario → String) db.scenarios

/-- The tables that a batch of workflow and scenario changes has no row in. -/
def Database.others (db : Database) : Database :=
  { db with workflows := [], scenarios := [], syncMetadata := [] }

section Versioned

variable {userId : String} {clock : Nat → Time} {now : Time} {change : SyncChange}
  {db db' : Database} {conflicts : List ConflictInfo} {faults : StatementFaults}

theorem processChangeInTx_keeps (hchange : change.versioned = true)
    (h : processChangeInTx userId faults now change db = .ok (conflicts, db')) :
    (db.VersionedKeys → db'.VersionedKeys) ∧ db'.others = db.others := by
  obtain ⟨entityId, changeType, data, clientTime, clientVersion⟩ := change
  cases data with
  | workflow data =>
      obtain ⟨hkeyed, hrest⟩ := processEntityChange_keeps workflowStore_lawful h
      refine ⟨fun hk => ⟨hkeyed hk.workflows, ?_⟩, ?_⟩
      · rw [(congrArg Database.scenarios hrest :)]
        exact hk.scenarios
      · exact congrArg (fun d : Database => { d with scenarios := [], syncMetadata := [] }) hrest
  | scenario data =>
      obtain ⟨hkeyed, hrest⟩ := processEntityChange_keeps scenarioStore_lawful h
      refine ⟨fun hk => ⟨?_, hkeyed hk.scenarios⟩, ?_⟩
      · rw [(congrArg Database.workflows hrest :)]
        exact hk.workflows
      · exact congrArg (fun d : Database => { d with workflows := [], syncMetadata := [] }) hrest
  | workflowRun data => cases hchange
  | scenarioRun data => cases hchange
  | testResult data => cases hchange

theorem refusesSilently_workflowRow (data : Option Workflow) (rows : Rows Workflow) :
    refusesSilently change (data.map (workflowRow userId now)) rows
      = refusesSilently change (data.map fun d v => { d with version := v }) rows := by
  unfold refusesSilently
  cases change.changeType <;> cases data <;> rfl

theorem refusesSilently_scenarioRow (data : Option Scenario) (rows : Rows Scenario) :
    refusesSilently change (data.map (scenarioRow userId now)) rows
      = refusesSilently change (data.map fun d v => { d with version := v }) rows := by
  unfold refusesSilently
  cases change.changeType <;> cases data <;> rfl

theorem processChangeInTx_refines (hk : db.VersionedKeys) (hchange : change.versioned = true)
    (hread : readMissing faults change db.syncedRows = false)
    (h : processChangeInTx userId faults now change db = .ok (conflicts, db')) :
    ruleForChange userId now change db.syncedRows = some (conflicts, db'.syncedRows) := by
  obtain ⟨entityId, changeType, data, clientTime, clientVersion⟩ := change
  cases data with
  | workflow data =>
      have hrest := (processEntityChange_keeps workflowStore_lawful h).2
      have hrule := processEntityChange_refines workflowStore_lawful hk.workflows
        (by
          intro mk hmk v
          obtain ⟨d, -, rfl⟩ := Option.map_eq_some_iff.1 hmk
          rfl)
        (by
          intro hfails
          rw [readMissing, hfails, Bool.true_and] at hread
          exact (refusesSilently_workflowRow data _).trans hread) h
      unfold ruleForChange Database.syncedRows
      dsimp only
      rw [hrule, (congrArg Database.scenarios hrest :)]
      rfl
  | scenario data =>
      have hrest := (processEntityChange_keeps scenarioStore_lawful h).2
      have hrule := processEntityChange_refines scenarioStore_lawful hk.scenarios
        (by
          intro mk hmk v
          obtain ⟨d, -, rfl⟩ := Option.map_eq_some_iff.1 hmk
          rfl)
        (by
          intro hfails
          rw [readMissing, hfails, Bool.true_and] at hread
          exact (refusesSilently_scenarioRow data _).trans hread) h
      unfold ruleForChange Database.syncedRows
      dsimp only
      rw [hrule, (congrArg Database.workflows hrest :)]
      rfl
  | workflowRun data => cases hchange
  | scenarioRun data => cases hchange
  | testResult data => cases hchange

theorem processChangeInTx_missed (hk : db.VersionedKeys)
    (hread : readMissing faults change db.syncedRows = true)
    (h : processChangeInTx userId faults now change db = .ok (conflicts, db')) :
    conflicts = [] ∧ ∃ conflict rows,
      ruleForChange userId now change db.syncedRows = some ([conflict], rows) := by
  obtain ⟨hfails, hsilent⟩ := (Bool.and_eq_true _ _).mp hread
  obtain ⟨entityId, changeType, data, clientTime, clientVersion⟩ := change
  cases data with
  | workflow data =>
      obtain ⟨hnone, conflict, rows, hrule⟩ := processEntityChange_missed workflowStore_lawful
        hk.workflows hfails ((refusesSilently_workflowRow data _).trans hsilent) h
      refine ⟨hnone, conflict, { db.syncedRows with workflows := rows }, ?_⟩
      exact congrArg (Option.map _) hrule
  | scenario data =>
      obtain ⟨hnone, conflict, rows, hrule⟩ := processEntityChange_missed scenarioStore_lawful
        hk.scenarios hfails ((refusesSilently_scenarioRow data _).trans hsilent) h
      refine ⟨hnone, conflict, { db.syncedRows with scenarios := rows }, ?_⟩
      exact congrArg (Option.map _) hrule
  | workflowRun data => cases hsilent
  | scenarioRun data => cases hsilent
  | testResult data => cases hsilent

end Versioned

/-! ## The loop -/

section Loop

variable {userId : String} {clock : Nat → Time} {faults : BatchFaults} {change : SyncChange}
  {changes : List SyncChange} {n : Nat} {db db' : Database} {conflicts : List ConflictInfo}

/-- The loop only adds to its response, and does not read it. -/
theorem processChanges_response (userId : String) (clock : Nat → Time) (faults : BatchFaults)
    (changes : List SyncChange) (n : Nat) (db : Database) (response : SyncBatchResponse) :
    (processChanges userId clock faults changes n db response).1.conflicts
        = response.conflicts
          ++ (processChanges userId clock faults changes n db {}).1.conflicts ∧
      (processChanges userId clock faults changes n db response).1.errors
        = response.errors ++ (processChanges userId clock faults changes n db {}).1.errors ∧
      (processChanges userId clock faults changes n db response).2
        = (processChanges userId clock faults changes n db {}).2 := by
  induction changes generalizing n db response with
  | nil => exact ⟨(List.append_nil _).symm, (List.append_nil _).symm, rfl⟩
  | cons change rest ih =>
      unfold processChanges
      cases hout : processChangeInTx userId (faults.statements n) (clock n) change db with
      | error e =>
          dsimp only
          obtain ⟨hc, he, hdb⟩ := ih (n + 1) db { response with
            errors := response.errors ++ [⟨change.data.entityType, change.entityId, e⟩] }
          obtain ⟨hc₀, he₀, hdb₀⟩ := ih (n + 1) db
            { errors := [] ++ [⟨change.data.entityType, change.entityId, e⟩] }
          refine ⟨?_, ?_, ?_⟩
          · rw [hc, hc₀, List.nil_append]
          · rw [he, he₀, List.nil_append, List.append_assoc]
          · rw [hdb, hdb₀]
      | ok out =>
          obtain ⟨added, db₁⟩ := out
          dsimp only
          obtain ⟨hc, he, hdb⟩ := ih (n + 1) db₁ { response with
            conflicts := response.conflicts ++ added
            processedCount := response.processedCount + 1 }
          obtain ⟨hc₀, he₀, hdb₀⟩ := ih (n + 1) db₁
            { conflicts := [] ++ added, processedCount := 0 + 1 }
          refine ⟨?_, ?_, ?_⟩
          · rw [hc, hc₀, List.nil_append, List.append_assoc]
          · rw [he, he₀, List.nil_append]
          · rw [hdb, hdb₀]

/-- After the changes, rows and conflicts are those of the rule. -/
def FollowsRule (userId : String) (clock : Nat → Time) (faults : BatchFaults)
    (changes : List SyncChange) (n : Nat) (db : Database) : Prop :=
  ruleForChanges userId clock changes n db.syncedRows
    = some ((processChanges userId clock faults changes n db {}).1.conflicts,
      (processChanges userId clock faults changes n db {}).2.syncedRows)

/-- A batch without an error starts with a change without one. -/
theorem processChanges_cons
    (h : (processChanges userId clock faults (change :: changes) n db {}).1.errors = []) :
    ∃ conflicts db',
      processChangeInTx userId (faults.statements n) (clock n) change db
        = .ok (conflicts, db') ∧
      (processChanges userId clock faults changes (n + 1) db' {}).1.errors = [] := by
  unfold processChanges at h
  cases hout : processChangeInTx userId (faults.statements n) (clock n) change db with
  | error e =>
      rw [hout] at h
      dsimp only at h
      rw [(processChanges_response userId clock faults changes (n + 1) db _).2.1] at h
      cases h
  | ok out =>
      rw [hout] at h
      dsimp only at h
      rw [(processChanges_response userId clock faults changes (n + 1) out.2 _).2.1] at h
      exact ⟨out.1, out.2, rfl, h⟩

theorem processChanges_ok (changes : List SyncChange)
    (hout : processChangeInTx userId (faults.statements n) (clock n) change db
      = .ok (conflicts, db')) :
    (processChanges userId clock faults (change :: changes) n db {}).1.conflicts
        = conflicts
          ++ (processChanges userId clock faults changes (n + 1) db' {}).1.conflicts ∧
      (processChanges userId clock faults (change :: changes) n db {}).2
        = (processChanges userId clock faults changes (n + 1) db' {}).2 := by
  rw [processChanges, hout]
  obtain ⟨hc, -, hdb⟩ := processChanges_response userId clock faults changes (n + 1) db'
    { conflicts := [] ++ conflicts, processedCount := 0 + 1 }
  exact ⟨hc, hdb⟩

/-- The step of the fold. -/
theorem followsRule_cons
    (hout : processChangeInTx userId (faults.statements n) (clock n) change db
      = .ok (conflicts, db'))
    (hrule : ruleForChange userId (clock n) change db.syncedRows
      = some (conflicts, db'.syncedRows)) :
    FollowsRule userId clock faults (change :: changes) n db ↔
      FollowsRule userId clock faults changes (n + 1) db' := by
  obtain ⟨hc, hdb⟩ := processChanges_ok changes hout
  unfold FollowsRule
  rw [hc, hdb, ruleForChanges, hrule]
  cases hlater : ruleForChanges userId clock changes (n + 1) db'.syncedRows with
  | none => simp [hlater]
  | some later => simp [hlater, Prod.ext_iff]

/-- A change of the loop leaves the tables it has no row in. -/
theorem processChanges_others (hchanges : ∀ c ∈ changes, c.versioned = true) :
    (processChanges userId clock faults changes n db {}).2.others = db.others := by
  induction changes generalizing n db with
  | nil => rfl
  | cons change rest ih =>
      have hrest := fun c hc => hchanges c (List.mem_cons_of_mem _ hc)
      cases hout : processChangeInTx userId (faults.statements n) (clock n) change db with
      | error e =>
          rw [processChanges, hout]
          dsimp only
          rw [(processChanges_response userId clock faults rest (n + 1) db _).2.2, ih hrest]
      | ok out =>
          rw [(processChanges_ok _ hout).2, ih hrest]
          exact (processChangeInTx_keeps (hchanges change List.mem_cons_self) hout).2

theorem processChanges_take (m : Nat)
    (h : (processChanges userId clock faults changes n db {}).1.errors = []) :
    (processChanges userId clock faults (changes.take m) n db {}).1.errors = [] := by
  induction changes generalizing n db m with
  | nil =>
      rw [List.take_nil]
      rfl
  | cons change rest ih =>
      obtain ⟨conflicts, db₁, hout, hrest⟩ := processChanges_cons h
      cases m with
      | zero => rfl
      | succ m =>
          rw [List.take_succ_cons, processChanges, hout]
          dsimp only
          rw [(processChanges_response userId clock faults _ (n + 1) db₁ _).2.1, ih m hrest]
          rfl

/-- **A loop without an error is the fold of the rule, at every change**, if and only if every row
    that refuses an insert or a deletion is read. -/
theorem processChanges_follows (hk : db.VersionedKeys)
    (hchanges : ∀ c ∈ changes, c.versioned = true)
    (h : (processChanges userId clock faults changes n db {}).1.errors = []) :
    (∀ m, FollowsRule userId clock faults (changes.take m) n db) ↔
      readsSound userId clock faults.statements changes n db.syncedRows = true := by
  induction changes generalizing n db with
  | nil =>
      refine iff_of_true (fun m => ?_) rfl
      rw [List.take_nil]
      rfl
  | cons change rest ih =>
      obtain ⟨conflicts, db₁, hout, hrest⟩ := processChanges_cons h
      have hversioned := hchanges change List.mem_cons_self
      cases hread : readMissing (faults.statements n) change db.syncedRows with
      | true =>
          -- the batch of the changes up to this one has a conflict less than the rule
          refine iff_of_false (fun hall => ?_) (by simp [readsSound, hread])
          obtain ⟨hnone, conflict, rows, hrule⟩ := processChangeInTx_missed hk hread hout
          have hone := hall 1
          rw [List.take_succ_cons, List.take_zero, FollowsRule, ruleForChanges, hrule,
            (processChanges_ok _ hout).1, hnone] at hone
          cases (Prod.ext_iff.1 (Option.some.inj hone)).1
      | false =>
          have hrule := processChangeInTx_refines hk hversioned hread hout
          have hk₁ := (processChangeInTx_keeps hversioned hout).1 hk
          have hreads : readsSound userId clock faults.statements (change :: rest) n db.syncedRows
              = readsSound userId clock faults.statements rest (n + 1) db₁.syncedRows := by
            rw [readsSound, hread, hrule]
            rfl
          rw [hreads, ← ih hk₁ (fun c hc => hchanges c (List.mem_cons_of_mem _ hc)) hrest]
          constructor
          · intro hall m
            exact (followsRule_cons hout hrule).1 (hall (m + 1))
          · intro hall m
            cases m with
            | zero => rfl
            | succ m => exact (followsRule_cons hout hrule).2 (hall m)

end Loop

/-! ## The batch -/

section Batch

variable {clock : Nat → Time} {faults : BatchFaults} {req : SyncBatchRequest} {db : Database}

/-- The transaction of a batch without errors commits. -/
def BatchFaults.Commits (faults : BatchFaults) (clock : Nat → Time) (req : SyncBatchRequest)
    (db : Database) : Prop :=
  let syncMeta := nextSyncMetaData (clock 0) req db
  faults.syncMetadata = none ∧ faults.commit = none ∧
    [syncMeta.userId, syncMeta.clientId].all (fitsVarchar 255) = true

/-- What a batch does: its rows are those of its changes, or nothing has changed. -/
theorem processBatch_commits (clock : Nat → Time) (faults : BatchFaults)
    (req : SyncBatchRequest) (db : Database) :
    let changed := processChanges req.userId clock faults req.changes 0 db {}
    let result := processBatch clock faults req db
    (result.1.success = true ∧ (changed.1.errors = [] ∧ faults.Commits clock req db) ∧
      result.1.conflicts = changed.1.conflicts ∧ result.2.syncedRows = changed.2.syncedRows ∧
      result.2.others = changed.2.others) ∨
    (result.1.success = false ∧ ¬ (changed.1.errors = [] ∧ faults.Commits clock req db) ∧
      result.2 = db) := by
  dsimp only
  have hsuccess := processChanges_success req.userId clock faults req.changes 0 db {}
  unfold processBatch BatchFaults.Commits
  dsimp only
  -- only the errors of the loop matter to what follows it
  generalize processChanges req.userId clock faults req.changes 0 db {} = out at hsuccess ⊢
  obtain ⟨response, changed⟩ := out
  dsimp only at hsuccess ⊢
  generalize nextSyncMetaData (clock 0) req db = syncMeta
  cases hmeta : failing faults.syncMetadata (changed.upsertSyncMetaData syncMeta) with
  | error e =>
      refine .inr ⟨rfl, ?_, rfl⟩
      rintro ⟨-, hfault, -, hfits⟩
      rw [hfault] at hmeta
      unfold failing Database.upsertSyncMetaData at hmeta
      rw [hfits] at hmeta
      cases hmeta
  | ok committed =>
      have hstored := failing_ok hmeta
      have hfault : faults.syncMetadata = none := by
        cases hfault : faults.syncMetadata with
        | none => rfl
        | some e =>
            rw [hfault] at hmeta
            cases hmeta
      unfold Database.upsertSyncMetaData at hstored
      split_ifs at hstored with hfits
      obtain rfl := Except.ok.inj hstored
      rw [Bool.not_eq_true, Bool.not_eq_false'] at hfits
      by_cases herrors : response.errors = []
      · dsimp only
        rw [if_neg (not_not.2 herrors)]
        cases hcommit : faults.commit with
        | some e =>
            refine .inr ⟨rfl, ?_, rfl⟩
            rintro ⟨-, -, hnone, -⟩
            cases hnone
        | none => exact .inl ⟨hsuccess, ⟨herrors, hfault, rfl, hfits⟩, rfl, rfl, rfl⟩
      · dsimp only
        rw [if_pos herrors]
        exact .inr ⟨rfl, fun h => herrors h.1, rfl⟩

/-- The batch is the fold of its changes: with `success` its rows and conflicts are those of the
    rule, and without it nothing has changed. -/
def RefinesFold (clock : Nat → Time) (faults : BatchFaults) (req : SyncBatchRequest)
    (db : Database) : Prop :=
  let result := processBatch clock faults req db
  (result.1.success = true →
    ruleForChanges req.userId clock req.changes 0 db.syncedRows
        = some (result.1.conflicts, result.2.syncedRows) ∧ result.2.others = db.others) ∧
  (result.1.success = false → result.2 = db)

/-- A batch that commits is the fold when its loop is. -/
theorem refinesFold_iff (hchanges : ∀ c ∈ req.changes, c.versioned = true) :
    RefinesFold clock faults req db ↔
      ((processBatch clock faults req db).1.success = true →
        FollowsRule req.userId clock faults req.changes 0 db) := by
  unfold RefinesFold FollowsRule
  dsimp only
  rcases processBatch_commits clock faults req db with
    ⟨hsuccess, -, hconflicts, hrows, hothers⟩ | ⟨hsuccess, -, hsame⟩
  · rw [hconflicts, hrows, hothers, processChanges_others hchanges, hsuccess]
    simp
  · rw [hsuccess, hsame]
    simp

/-- The first changes of a batch that commits are a batch that commits. -/
theorem success_take (m : Nat) (h : (processBatch clock faults req db).1.success = true) :
    (processBatch clock faults { req with changes := req.changes.take m } db).1.success
      = true := by
  rcases processBatch_commits clock faults req db with ⟨-, ⟨herrors, hcommits⟩, -⟩ | ⟨hfails, -⟩
  · rcases processBatch_commits clock faults { req with changes := req.changes.take m } db with
      ⟨hsuccess, -⟩ | ⟨-, hnot, -⟩
    · exact hsuccess
    · exact absurd ⟨processChanges_take m herrors, hcommits⟩ hnot
  · rw [h] at hfails
    cases hfails

end Batch

/-! ## Without faults -/

theorem readsSound_faultless (userId : String) (clock : Nat → Time) (changes : List SyncChange)
    (n : Nat) (rows : SyncedRows) :
    readsSound userId clock (fun _ => {}) changes n rows = true := by
  induction changes generalizing n rows with
  | nil => rfl
  | cons change rest ih =>
      unfold readsSound
      cases ruleForChange userId (clock n) change rows with
      | none => rfl
      | some out => exact ih (n + 1) out.2

/-! ## A row that is not read -/

/-- A live workflow at version 3. Its `project_id` is from before the column. -/
def storedWorkflow : Workflow where
  id := "wf-1"
  projectId := ""
  name := "checkout"
  description := ""
  nodesConfig := "[]"
  edgesConfig := "[]"
  metadata := "{}"
  version := 3
  createdAt := 10
  updatedAt := 30
  clientId := "laptop"
  userId := "ada"
  isDeleted := false

/-- An insert of that workflow from another client. -/
def insertedAgain : SyncBatchRequest where
  clientId := "desktop"
  userId := "ada"
  projectId := "shop"
  changes := [{ entityId := "wf-1", changeType := .insert, clientTime := 40, clientVersion := 0
                data := .workflow (some { storedWorkflow with
                  projectId := "shop", name := "copy", version := 0, clientId := "desktop" }) }]

/-- The statement that reads it fails. -/
def unreadColumn : BatchFaults where
  statements := fun _ =>
    { read := some (.text ("sql: Scan error on column index 1, name \"project_id\": " ++
        "converting NULL to string is unsupported")) }

theorem storedWorkflow_keys : Database.VersionedKeys { workflows := [storedWorkflow] } :=
  ⟨by decide +kernel, by decide +kernel⟩

end TokyoTester
