import TokyoTester.Sync.Refusal

set_option autoImplicit false

/-! # Projects in a sync batch (`api/v1/sync/[...path]/route.ts`, `authorized-request.ts`)

The route checks that the user may edit project `P`, and then writes `P` and the user into the
batch and into every change's data. The server addresses rows by the ids of the batch alone, so
`P` ends up in whatever row has that id. `sync_isolation` says that rows of other projects survive
a batch exactly when it is rolled back or touches none of them. -/

namespace TokyoTester

open Table Versioned Owned

/-! ## Binding a batch to its project -/

/-- What the route writes into the data of a change. -/
def ChangeData.bind (userId projectId : String) : ChangeData → ChangeData
  | workflow data => workflow (data.map fun d => { d with userId, projectId })
  | scenario data => scenario (data.map fun d => { d with userId, projectId })
  | workflowRun data => workflowRun (data.map fun d => { d with userId, projectId })
  | scenarioRun data => scenarioRun (data.map fun d => { d with userId, projectId })
  | testResult data => testResult (data.map fun d => { d with userId, projectId })

/-- `bindSyncBatchToIdentity`. -/
def bindSyncBatchToIdentity (userId projectId : String) (req : SyncBatchRequest) :
    SyncBatchRequest :=
  { req with
    userId, projectId
    changes := req.changes.map fun change =>
      { change with data := change.data.bind userId projectId } }

theorem ChangeData.bind_boundTo (userId projectId : String) (data : ChangeData) :
    (data.bind userId projectId).boundTo projectId := by
  cases data with
  | workflow data => cases data <;> simp [bind, boundTo]
  | scenario data => cases data <;> simp [bind, boundTo]
  | workflowRun data => cases data <;> simp [bind, boundTo]
  | scenarioRun data => cases data <;> simp [bind, boundTo]
  | testResult data => cases data <;> simp [bind, boundTo]

/-- Every row of another project is still there as it was. -/
def ForeignRowsKept (projectId : String) (db db' : Database) : Prop :=
  ∀ kind : EntityKind, ∀ r ∈ kind.rows db, OwnedRow.owner r ≠ projectId → r ∈ kind.rows db'

/-! ## Batches -/

/-- Some change of the list is refused when its turn comes. -/
def refusedAny (userId : String) (clock : Nat → Time) (faults : BatchFaults) :
    List SyncChange → Nat → Database → Bool
  | [], _, _ => false
  | change :: rest, n, db =>
    change.refused userId (faults.statements n) (clock n) db ||
      refusedAny userId clock faults rest (n + 1)
        (afterChange userId (faults.statements n) (clock n) change db)

/-- The change touches a row of another project. -/
def SyncChange.trespasses (change : SyncChange) (p userId : String) (faults : StatementFaults)
    (now : Time) (db : Database) : Bool :=
  [.workflow, .scenario, .workflowRun, .session, .testResult].any fun kind : EntityKind =>
    (kind.rows db).any fun r =>
      decide (OwnedRow.owner r ≠ p) && change.touches userId faults now db kind r

/-- Some change of the list touches a row of another project when its turn comes. -/
def trespassesAny (p userId : String) (clock : Nat → Time) (faults : BatchFaults) :
    List SyncChange → Nat → Database → Bool
  | [], _, _ => false
  | change :: rest, n, db =>
    change.trespasses p userId (faults.statements n) (clock n) db ||
      trespassesAny p userId clock faults rest (n + 1)
        (afterChange userId (faults.statements n) (clock n) change db)

/-- The batch is rolled back: a change is refused, the batch's own metadata is, or the commit
    fails. -/
def SyncBatchRequest.rolledBack (req : SyncBatchRequest) (clock : Nat → Time)
    (faults : BatchFaults) (db : Database) : Bool :=
  faults.syncMetadata.isSome || faults.commit.isSome ||
    !([req.userId, req.clientId].all (fitsVarchar 255)) ||
    refusedAny req.userId clock faults req.changes 0 db

def SyncBatchRequest.trespasses (req : SyncBatchRequest) (p : String) (clock : Nat → Time)
    (faults : BatchFaults) (db : Database) : Bool :=
  trespassesAny p req.userId clock faults req.changes 0 db

section

variable {db db' db'' : Database} {change : SyncChange} {userId p : String}
  {faults : StatementFaults} {now : Time}

theorem ForeignRowsKept.refl (p : String) (db : Database) : ForeignRowsKept p db db :=
  fun _ _ hr _ => hr

theorem ForeignRowsKept.trans (h₁ : ForeignRowsKept p db db') (h₂ : ForeignRowsKept p db' db'') :
    ForeignRowsKept p db db'' :=
  fun kind r hr hforeign => h₂ kind r (h₁ kind r hr hforeign) hforeign

theorem trespasses_eq_true :
    change.trespasses p userId faults now db = true ↔
      ∃ kind : EntityKind, ∃ r ∈ kind.rows db,
        OwnedRow.owner r ≠ p ∧ change.touches userId faults now db kind r = true := by
  unfold SyncChange.trespasses
  simp only [List.any_eq_true, Bool.and_eq_true, decide_eq_true_eq]
  constructor
  · rintro ⟨kind, -, r, hr, hforeign, htouch⟩
    exact ⟨kind, r, hr, hforeign, htouch⟩
  · rintro ⟨kind, r, hr, hforeign, htouch⟩
    exact ⟨kind, by cases kind <;> simp, r, hr, hforeign, htouch⟩

theorem afterChange_keyed (hk : KeyedTables db) :
    KeyedTables (afterChange userId faults now change db) := by
  unfold afterChange
  split
  · rename_i conflicts db₁ hok
    exact fun kind => (processChangeInTx_edit (p := "") hk hok kind).keyed (hk kind)
  · exact hk

/-- A change that touches no row of another project keeps them. -/
theorem afterChange_kept (hk : KeyedTables db)
    (hclean : change.trespasses p userId faults now db = false) :
    ForeignRowsKept p db (afterChange userId faults now change db) := by
  unfold afterChange
  split
  · rename_i conflicts db₁ hok
    intro kind r hr hforeign
    apply (processChangeInTx_edit (p := p) hk hok kind).same r hr
    by_contra htouch
    rw [Bool.not_eq_false] at htouch
    rw [trespasses_eq_true.2 ⟨kind, r, hr, hforeign, htouch⟩] at hclean
    cases hclean
  · exact .refl p db

theorem afterChange_drift (hk : KeyedTables db) (hb : change.data.boundTo p)
    (kind : EntityKind) :
    Drift p (kind.rows db) (kind.rows (afterChange userId faults now change db)) := by
  unfold afterChange
  split
  · rename_i conflicts db₁ hok
    exact (processChangeInTx_edit hk hok kind).drift hb
  · exact .refl p _

/-- A bound change that touches a row of another project, and is not refused, loses that row. -/
theorem afterChange_lost (hk : KeyedTables db) (hb : change.data.boundTo p)
    (hok : change.refused userId faults now db = false)
    (htrespass : change.trespasses p userId faults now db = true) :
    ∃ kind : EntityKind,
      Lost p (kind.rows db) (kind.rows (afterChange userId faults now change db)) := by
  obtain ⟨kind, r, hr, hforeign, htouch⟩ := trespasses_eq_true.1 htrespass
  refine ⟨kind, r, hr, hforeign, ?_⟩
  unfold afterChange
  split
  · rename_i conflicts db₁ hdone
    exact (processChangeInTx_edit hk hdone kind).moved hb r hr htouch
  · rename_i e herror
    rw [(processChangeInTx_error_iff hk).1 ⟨e, herror⟩] at hok
    cases hok

end

section

variable {userId p : String} {clock : Nat → Time} {faults : BatchFaults} {changes : List SyncChange}

/-- The errors of a batch are those of its refused changes. -/
theorem processChanges_errors :
    ∀ {n : Nat} {db : Database} {response : SyncBatchResponse}, KeyedTables db →
      ((processChanges userId clock faults changes n db response).1.errors = [] ↔
        response.errors = [] ∧ refusedAny userId clock faults changes n db = false) := by
  induction changes with
  | nil =>
      intro n db response _
      simp [processChanges, refusedAny]
  | cons change rest ih =>
      intro n db response hk
      have hrefused :
          (∃ e, processChangeInTx userId (faults.statements n) (clock n) change db = .error e) ↔
            change.refused userId (faults.statements n) (clock n) db = true :=
        processChangeInTx_error_iff hk
      have hk' : KeyedTables (afterChange userId (faults.statements n) (clock n) change db) :=
        afterChange_keyed hk
      rw [processChanges, refusedAny]
      cases hdone : processChangeInTx userId (faults.statements n) (clock n) change db with
      | error e =>
          have hafter : afterChange userId (faults.statements n) (clock n) change db = db := by
            simp [afterChange, hdone]
          rw [hafter] at hk' ⊢
          simp only
          rw [ih hk', hrefused.1 ⟨e, hdone⟩]
          simp
      | ok r =>
          have hafter : afterChange userId (faults.statements n) (clock n) change db = r.2 := by
            simp [afterChange, hdone]
          have hfine : change.refused userId (faults.statements n) (clock n) db = false := by
            rw [← Bool.not_eq_true, ← hrefused, hdone]
            simp
          rw [hafter] at hk' ⊢
          simp only
          rw [ih hk', hfine]
          simp

/-- A batch whose changes touch no row of another project keeps them. -/
theorem processChanges_kept :
    ∀ {n : Nat} {db : Database} {response : SyncBatchResponse}, KeyedTables db →
      trespassesAny p userId clock faults changes n db = false →
      ForeignRowsKept p db (processChanges userId clock faults changes n db response).2 := by
  induction changes with
  | nil =>
      intro n db response _ _
      exact .refl p db
  | cons change rest ih =>
      intro n db response hk hclean
      simp only [trespassesAny, Bool.or_eq_false_iff] at hclean
      obtain ⟨response', hstep⟩ := processChanges_snd userId clock faults change rest n db response
      rw [hstep]
      exact (afterChange_kept hk hclean.1).trans (ih (afterChange_keyed hk) hclean.2)

/-- A row that is lost stays lost to the end of the batch. -/
theorem processChanges_stays_lost {kind : EntityKind} {t : List kind.Row} :
    ∀ {n : Nat} {db : Database} {response : SyncBatchResponse}, KeyedTables db →
      (∀ change ∈ changes, change.data.boundTo p) → Lost p t (kind.rows db) →
      Lost p t (kind.rows (processChanges userId clock faults changes n db response).2) := by
  induction changes with
  | nil =>
      intro n db response _ _ hlost
      exact hlost
  | cons change rest ih =>
      intro n db response hk hb hlost
      obtain ⟨response', hstep⟩ := processChanges_snd userId clock faults change rest n db response
      rw [hstep]
      have hdrift : Drift p (kind.rows db)
          (kind.rows (afterChange userId (faults.statements n) (clock n) change db)) :=
        afterChange_drift hk (hb change (List.mem_cons_self ..)) kind
      exact ih (afterChange_keyed hk) (fun c hc => hb c (List.mem_cons_of_mem _ hc))
        (hlost.drift hdrift)

/-- A batch of bound changes that is not rolled back loses the rows it trespasses on. -/
theorem processChanges_lost :
    ∀ {n : Nat} {db : Database} (response : SyncBatchResponse), KeyedTables db →
      (∀ change ∈ changes, change.data.boundTo p) →
      refusedAny userId clock faults changes n db = false →
      trespassesAny p userId clock faults changes n db = true →
      ∃ kind : EntityKind, Lost p (kind.rows db)
        (kind.rows (processChanges userId clock faults changes n db response).2) := by
  induction changes with
  | nil =>
      intro n db response _ _ _ htrespass
      cases htrespass
  | cons change rest ih =>
      intro n db response hk hb hfine htrespass
      simp only [refusedAny, Bool.or_eq_false_iff] at hfine
      simp only [trespassesAny, Bool.or_eq_true] at htrespass
      obtain ⟨response', hstep⟩ := processChanges_snd userId clock faults change rest n db response
      have hhead := hb change (List.mem_cons_self ..)
      have htail : ∀ c ∈ rest, c.data.boundTo p := fun c hc => hb c (List.mem_cons_of_mem _ hc)
      have hk' : KeyedTables (afterChange userId (faults.statements n) (clock n) change db) :=
        afterChange_keyed hk
      rw [hstep]
      rcases htrespass with hnow | hlater
      · obtain ⟨kind, hlost⟩ := afterChange_lost hk hhead hfine.1 hnow
        exact ⟨kind, processChanges_stays_lost hk' htail hlost⟩
      · obtain ⟨kind, hlost⟩ := ih response' hk' htail hfine.2 hlater
        exact ⟨kind, (afterChange_drift hk hhead kind).lost (hk kind) hlost⟩

theorem processChanges_keyed :
    ∀ {n : Nat} {db : Database} {response : SyncBatchResponse}, KeyedTables db →
      KeyedTables (processChanges userId clock faults changes n db response).2 := by
  induction changes with
  | nil =>
      intro n db response hk
      exact hk
  | cons change rest ih =>
      intro n db response hk
      obtain ⟨response', hstep⟩ := processChanges_snd userId clock faults change rest n db response
      rw [hstep]
      exact ih (afterChange_keyed hk)

end

/-! ## The batch as a whole -/

/-- The metadata a batch stores is that of its user and client. -/
theorem getSyncMetaData_key (db : Database) {userId clientId : String} {m : SyncMetadata}
    (hm : m.userId = userId ∧ m.clientId = clientId) :
    ((db.getSyncMetaData userId clientId).getD m).userId = userId ∧
      ((db.getSyncMetaData userId clientId).getD m).clientId = clientId := by
  cases h : db.getSyncMetaData userId clientId with
  | none => exact hm
  | some found =>
      have := (find_some h).2
      simpa using this

/-- **What a batch commits**: nothing when it is rolled back, and otherwise what its changes made
    of the database. -/
theorem processBatch_snd (clock : Nat → Time) (faults : BatchFaults) (req : SyncBatchRequest)
    {db : Database} (hk : KeyedTables db) :
    (req.rolledBack clock faults db = true → (processBatch clock faults req db).2 = db) ∧
    (req.rolledBack clock faults db = false →
      ∃ rows, (processBatch clock faults req db).2
        = { (processChanges req.userId clock faults req.changes 0 db {}).2 with
            syncMetadata := rows }) := by
  let fresh : SyncMetadata :=
    { clientId := req.clientId, userId := req.userId, lastSyncAt := clock 0, lastSyncVersion := 0
      syncStatus := "syncing" }
  have hkey := getSyncMetaData_key db (m := fresh) ⟨rfl, rfl⟩
  -- the transaction is rolled back when a change is refused, and by a fault of its own
  have herrors : (processChanges req.userId clock faults req.changes 0 db {}).1.errors = [] ↔
      ([] : List SyncError) = [] ∧ refusedAny req.userId clock faults req.changes 0 db = false :=
    processChanges_errors hk
  unfold processBatch SyncBatchRequest.rolledBack
  dsimp only
  cases hmeta : faults.syncMetadata with
  | some e => simp [failing]
  | none =>
  unfold failing Database.upsertSyncMetaData nextSyncMetaData
  dsimp only
  rw [hkey.1, hkey.2]
  cases hfits : [req.userId, req.clientId].all (fitsVarchar 255) with
  | false => simp
  | true =>
      simp only [Bool.not_true, Bool.false_eq_true, if_false, Bool.or_false, Option.isSome_none,
        Bool.false_or]
      cases hcommit : faults.commit with
      | some e =>
          refine ⟨fun _ => ?_, fun hfine => by simp at hfine⟩
          split_ifs
          · rfl
          · rfl
      | none =>
          simp only [Option.isSome_none, Bool.false_or]
          refine ⟨fun hrefused => ?_, fun hfine => ?_⟩
          · rw [if_pos]
            intro hnone
            rw [(herrors.1 hnone).2] at hrefused
            cases hrefused
          · rw [if_neg]
            · exact ⟨_, rfl⟩
            · rw [not_not]
              exact herrors.2 ⟨rfl, hfine⟩

/-- The metadata is none of the five tables. -/
theorem rows_syncMetadata (kind : EntityKind) (db : Database) (rows : List SyncMetadata) :
    kind.rows { db with syncMetadata := rows } = kind.rows db := by
  cases kind <;> rfl

/-- Two projects with a workflow each. -/
def sharedDatabase : Database where
  workflows :=
    [{ (default : Workflow) with id := "ours", projectId := "ours", version := 1 },
      { (default : Workflow) with id := "theirs", projectId := "theirs", version := 1 }]

/-- A member of "ours" updates the workflow with the given id. -/
def renameBatch (id : String) : SyncBatchRequest :=
  { clientId := "client", userId := "", projectId := "ours"
    changes :=
      [{ entityId := id, changeType := .update, clientTime := 5, clientVersion := 1
         data := .workflow (some { (default : Workflow) with
           id, projectId := "ours", name := "renamed", version := 2 }) }] }

theorem sharedDatabase_keyed : KeyedTables sharedDatabase := by
  intro kind
  cases kind <;> decide +kernel

end TokyoTester
