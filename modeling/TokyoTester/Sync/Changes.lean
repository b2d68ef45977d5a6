import TokyoTester.Sync.Versions
import TokyoTester.Library.Owned

set_option autoImplicit false

/-! # The rows a change writes

A batch writes five tables. `SyncChange.touches` says which of their rows a change writes over,
from the state it is processed in; `processChangeInTx_edit` says that it writes exactly these, and
that a row it writes becomes the change's own or is finished or deleted under its owner. -/

namespace TokyoTester

open Table Versioned Owned

/-! ## The rows of the five entities -/

/-- The tables that a batch writes. -/
inductive EntityKind where
  | workflow | scenario | workflowRun | session | testResult
deriving DecidableEq, Repr, Inhabited

namespace EntityKind

abbrev Row : EntityKind → Type
  | workflow => Workflow
  | scenario => Scenario
  | workflowRun => WorkflowRun
  | session => Session
  | testResult => TestResult

def rows : (kind : EntityKind) → Database → List kind.Row
  | workflow, db => db.workflows
  | scenario, db => db.scenarios
  | workflowRun, db => db.workflowRuns
  | session, db => db.sessions
  | testResult, db => db.testResults

end EntityKind

/-- A deleted row has reached the last stage that the server can take it to by itself. -/
def deletionStage (isDeleted : Bool) : Nat := if isDeleted then 1 else 0

/-- The session's results can still finish it. -/
def ExecutionStatus.unfinished (status : ExecutionStatus) : Bool :=
  decide (status ≠ .completed) && decide (status ≠ .failed)

instance : OwnedRow Workflow where
  key := Workflow.id
  owner := Workflow.projectId
  stage w := deletionStage w.isDeleted

instance : OwnedRow Scenario where
  key := Scenario.id
  owner := Scenario.projectId
  stage s := deletionStage s.isDeleted

instance : OwnedRow WorkflowRun where
  key := WorkflowRun.id
  owner := WorkflowRun.projectId
  stage r := deletionStage r.isDeleted

/-- A session can be finished by its results, and then deleted. -/
instance : OwnedRow Session where
  key := Session.id
  owner := Session.projectId
  stage s := 2 * deletionStage s.isDeleted + if s.status.unfinished then 0 else 1

instance : OwnedRow TestResult where
  key := TestResult.id
  owner := TestResult.projectId
  stage r := deletionStage r.isDeleted

instance : (kind : EntityKind) → OwnedRow kind.Row
  | .workflow => inferInstanceAs (OwnedRow Workflow)
  | .scenario => inferInstanceAs (OwnedRow Scenario)
  | .workflowRun => inferInstanceAs (OwnedRow WorkflowRun)
  | .session => inferInstanceAs (OwnedRow Session)
  | .testResult => inferInstanceAs (OwnedRow TestResult)

/-- Ids are unique in every table. -/
def KeyedTables (db : Database) : Prop :=
  ∀ kind : EntityKind, Keyed (OwnedRow.key : kind.Row → String) (kind.rows db)

/-- The data carries the project. -/
def ChangeData.boundTo (projectId : String) : ChangeData → Prop
  | workflow data => ∀ d ∈ data, d.projectId = projectId
  | scenario data => ∀ d ∈ data, d.projectId = projectId
  | workflowRun data => ∀ d ∈ data, d.projectId = projectId
  | scenarioRun data => ∀ d ∈ data, d.projectId = projectId
  | testResult data => ∀ d ∈ data, d.projectId = projectId

/-! ## The rows a change writes -/

/-- An insert writes over the row of its id when that is soft-deleted or not read; an update and a
    deletion write the live row of their id and version. -/
def touchesVersioned {ρ : Type} [VersionedRow ρ] (change : SyncChange) (unread : Bool)
    (id : Option String) (t : List ρ) (r : ρ) : Bool :=
  match change.changeType, id with
  | .delete, _ => matchesVersion change.entityId change.clientVersion r
  | _, none => false
  | .insert, some id => (unread || (getLive id t).isNone) && decide (VersionedRow.key r = id)
  | .update, some id => matchesVersion id change.clientVersion r

/-- A run or a session is written over unless the live row is read and newer than the change. -/
def writesOver (change : SyncChange) (unread isDeleted : Bool) (updatedAt : Time) : Bool :=
  unread || isDeleted || decide (updatedAt ≤ change.clientTime)

def touchesWorkflowRun (change : SyncChange) (unread : Bool) (data : Option WorkflowRun)
    (r : WorkflowRun) : Bool :=
  match change.changeType, data with
  | .delete, _ => decide (r.id = change.entityId) && !r.isDeleted
  | _, none => false
  | _, some d => decide (r.id = d.id) && writesOver change unread r.isDeleted r.updatedAt

def touchesSession (change : SyncChange) (unread : Bool) (data : Option Session) (s : Session) :
    Bool :=
  match change.changeType, data with
  | .delete, _ => decide (s.id = change.entityId) && !s.isDeleted
  | _, none => false
  | _, some d => decide (s.id = d.id) && writesOver change unread s.isDeleted s.updatedAt

def touchesTestResult (change : SyncChange) (data : Option TestResult) (r : TestResult) : Bool :=
  match change.changeType, data with
  | .delete, _ => decide (r.id = change.entityId) && !r.isDeleted
  | _, none => false
  | _, some d => decide (r.id = d.id)

/-- The session is unfinished and its row can be stored once `results` are all there is. -/
def finishable (sessionId : String) (fails : Bool) (now : Time) (db : Database) (s : Session) :
    Bool :=
  !fails && decide (s.id = sessionId) && !s.isDeleted && s.status.unfinished &&
    allCompleted (db.listTestResults sessionId) &&
    (finishedSession (db.listTestResults sessionId) now s).fits && db.workflowExists s.workflowId

/-- A result finishes its session when it is stored and all results have passed or failed. -/
def finishesSession (change : SyncChange) (data : Option TestResult) (userId : String)
    (fails : Bool) (now : Time) (db : Database) (s : Session) : Bool :=
  match change.changeType, data with
  | .delete, _ => false
  | _, none => false
  | _, some d =>
    match db.upsertTestResult { d with userId } now with
    | .ok db => finishable d.sessionId fails now db s
    | .error _ => false

/-- The stored rows that a change writes, when it is not refused. -/
def SyncChange.touches (change : SyncChange) (userId : String) (faults : StatementFaults)
    (now : Time) (db : Database) : (kind : EntityKind) → kind.Row → Bool
  | .workflow, (r : Workflow) =>
    match change.data with
    | .workflow data =>
      touchesVersioned change faults.read.isSome (data.map Workflow.id) db.workflows r
    | _ => false
  | .scenario, (r : Scenario) =>
    match change.data with
    | .scenario data =>
      touchesVersioned change faults.read.isSome (data.map Scenario.id) db.scenarios r
    | _ => false
  | .workflowRun, (r : WorkflowRun) =>
    match change.data with
    | .workflowRun data => touchesWorkflowRun change faults.read.isSome data r
    | _ => false
  | .session, (s : Session) =>
    match change.data with
    | .scenarioRun data => touchesSession change faults.read.isSome data s
    | .testResult data => finishesSession change data userId faults.finish now db s
    | _ => false
  | .testResult, (r : TestResult) =>
    match change.data with
    | .testResult data => touchesTestResult change data r
    | _ => false

/-! ## Each entity's change is an edit of the rows it touches -/

section

variable {db db' : Database} {change : SyncChange} {userId p : String} {faults : StatementFaults}
  {now : Time} {conflicts : List ConflictInfo}

/-- A change of a versioned entity. -/
theorem processEntityChange_edit {ρ α : Type} [DecidableEq ρ] [VersionedRow ρ] [OwnedRow ρ]
    {store : EntityStore ρ} {table : Database → List ρ} {rest : Database → α}
    (law : LawfulStore store table rest) {row : Option (Int → ρ)}
    (hkey : (OwnedRow.key : ρ → String) = VersionedRow.key)
    (hassign : ∀ new old : ρ, OwnedRow.owner (VersionedRow.assign new old) = OwnedRow.owner new)
    (hdelete : ∀ r : ρ, VersionedRow.isDeleted r = false →
      Moved p r (VersionedRow.markDeleted now r))
    (hid : ∀ mk, row = some mk → ∀ v, VersionedRow.key (mk v) = VersionedRow.key (mk 1))
    (h : processEntityChange (store.withFaults faults) change row now db = .ok (conflicts, db')) :
    Edit (∀ mk ∈ row, ∀ v, OwnedRow.owner (mk v) = p) p
      (touchesVersioned change faults.read.isSome (row.map fun mk => VersionedRow.key (mk 1))
        (table db))
      (table db) (table db') := by
  rcases processEntityChange_cases h with ⟨mk, existing, hct, rfl, hget, rfl⟩ |
    ⟨mk, e, hct, rfl, hget, hup⟩ | ⟨mk, updated, hct, rfl, hup⟩ | ⟨deleted, hct, hdel⟩
  -- an insert that finds its row
  · obtain ⟨hread, hfound⟩ := failing_eq_ok.1 hget
    refine .of_eq rfl fun r _ => ?_
    simp [touchesVersioned, hct, hread, law.get hfound]
  -- an insert over a row that is deleted or was not read
  · have hunseen : (faults.read.isSome || (getLive (VersionedRow.key (mk 1)) (table db)).isNone)
        = true := by simpa using law.unseen hget
    rw [(law.upsert (failing_ok hup)).1]
    unfold upsertRow
    rw [← hkey]
    refine (Edit.upsert ?_ ?_ ?_).congr ?_
    · intro r
      rw [hkey]
      exact VersionedRow.assign_key _ _
    · intro hb
      exact hb mk rfl 1
    · intro hb r
      rw [hassign]
      exact hb mk rfl 1
    · intro r _
      simp [touchesVersioned, hct, hunseen, hkey]
  · have htable := congrArg Prod.snd (law.update (failing_ok hup)).1
    dsimp only [updateIfVersion] at htable
    rw [htable]
    refine (Edit.updateWhere ?_ ?_).congr ?_
    · intro r
      rw [hkey]
      exact VersionedRow.assign_key _ _
    · intro hb r _ _
      left
      rw [hassign]
      exact hb mk rfl _
    · intro r _
      simp [touchesVersioned, hct, hid mk rfl (change.clientVersion + 1)]
  · have htable := congrArg Prod.snd (law.delete (failing_ok hdel)).1
    dsimp only [deleteIfVersion] at htable
    rw [htable]
    refine (Edit.updateWhere ?_ ?_).congr ?_
    · intro r
      rw [hkey]
      exact VersionedRow.markDeleted_key _ _
    · intro _ r _ hsel
      exact hdelete r (matchesVersion_iff.1 hsel).2.2
    · intro r _
      simp [touchesVersioned, hct]

/-- A deletion moves a live row on. -/
theorem deletionStage_lt {isDeleted : Bool} (h : isDeleted = false) :
    deletionStage isDeleted < deletionStage true := by
  rw [h]
  decide

theorem processWorkflowChangeInTx_edit {data : Option Workflow}
    (h : processWorkflowChangeInTx change data userId faults now db = .ok (conflicts, db')) :
    Edit (∀ d ∈ data, d.projectId = p) p
      (touchesVersioned change faults.read.isSome (data.map Workflow.id) db.workflows) db.workflows
      db'.workflows := by
  have hedit := processEntityChange_edit (p := p) workflowStore_lawful rfl (fun _ _ => rfl)
    (fun r hr => .inr ⟨rfl, deletionStage_lt hr⟩)
    (by
      intro mk hmk v
      obtain ⟨d, -, rfl⟩ := Option.map_eq_some_iff.1 hmk
      rfl) h
  rw [Option.map_map] at hedit
  refine hedit.imp ?_
  intro hb mk hmk v
  obtain ⟨d, hd, rfl⟩ := Option.map_eq_some_iff.1 hmk
  exact hb d hd

theorem processScenarioChangeInTx_edit {data : Option Scenario}
    (h : processScenarioChangeInTx change data userId faults now db = .ok (conflicts, db')) :
    Edit (∀ d ∈ data, d.projectId = p) p
      (touchesVersioned change faults.read.isSome (data.map Scenario.id) db.scenarios) db.scenarios
      db'.scenarios := by
  have hedit := processEntityChange_edit (p := p) scenarioStore_lawful rfl (fun _ _ => rfl)
    (fun r hr => .inr ⟨rfl, deletionStage_lt hr⟩)
    (by
      intro mk hmk v
      obtain ⟨d, -, rfl⟩ := Option.map_eq_some_iff.1 hmk
      rfl) h
  rw [Option.map_map] at hedit
  refine hedit.imp ?_
  intro hb mk hmk v
  obtain ⟨d, hd, rfl⟩ := Option.map_eq_some_iff.1 hmk
  exact hb d hd

/-- The live row of an id is its only row. -/
theorem eq_of_live {ρ : Type} {key : ρ → String} {isDeleted : ρ → Bool} {t : List ρ}
    (hk : Keyed key t) {k : String} {existing : ρ}
    (hfind : t.find? (fun r => decide (key r = k) && !isDeleted r) = some existing) :
    isDeleted existing = false ∧ ∀ r ∈ t, key r = k → r = existing := by
  have hprop := List.find?_some hfind
  simp only [Bool.and_eq_true, decide_eq_true_eq, Bool.not_eq_true'] at hprop
  refine ⟨hprop.2, fun r hr hid => ?_⟩
  exact hk.eq_of_key hr (List.mem_of_find?_eq_some hfind) (hid.trans hprop.1.symm)

/-- A change that no live row is read to be newer than writes over the row of its id. -/
theorem writesOver_of_live {ρ : Type} {key : ρ → String} {isDeleted : ρ → Bool}
    {updatedAt : ρ → Time} {t : List ρ} (hk : Keyed key t) {k : String} {unread : Bool}
    (hold : unread = false → ∀ existing,
      t.find? (fun r => decide (key r = k) && !isDeleted r) = some existing →
      ¬ change.clientTime < updatedAt existing) {r : ρ} (hr : r ∈ t) (hid : key r = k) :
    writesOver change unread (isDeleted r) (updatedAt r) = true := by
  cases hunread : unread with
  | true => rfl
  | false =>
  cases hfind : t.find? (fun r => decide (key r = k) && !isDeleted r) with
  | some existing =>
      rw [(eq_of_live hk hfind).2 r hr hid]
      simp [writesOver, not_lt.1 (hold hunread existing hfind)]
  | none =>
      have hdeleted := List.find?_eq_none.1 hfind r hr
      simp only [hid, decide_true, Bool.true_and, Bool.not_eq_true', Bool.not_eq_false]
        at hdeleted
      simp [writesOver, hdeleted]

theorem getWorkflowRun_eq_ok {id : String} {run : WorkflowRun} :
    db.getWorkflowRun id = .ok run ↔
      db.workflowRuns.find? (fun r => decide (r.id = id) && !r.isDeleted) = some run := by
  unfold Database.getWorkflowRun
  cases db.workflowRuns.find? (fun r => decide (r.id = id) && !r.isDeleted) <;> simp

theorem getSession_eq_ok {id : String} {session : Session} :
    db.getSession id = .ok session ↔
      db.sessions.find? (fun s => decide (s.id = id) && !s.isDeleted) = some session := by
  unfold Database.getSession
  cases db.sessions.find? (fun s => decide (s.id = id) && !s.isDeleted) <;> simp

theorem processWorkflowRunChangeInTx_edit {data : Option WorkflowRun}
    (hk : Keyed WorkflowRun.id db.workflowRuns)
    (h : processWorkflowRunChangeInTx change data userId faults now db = .ok (conflicts, db')) :
    Edit (∀ d ∈ data, d.projectId = p) p (touchesWorkflowRun change faults.read.isSome data)
      db.workflowRuns db'.workflowRuns := by
  rcases processWorkflowRunChangeInTx_cases h with ⟨hct, rfl⟩ |
    ⟨d, existing, hct, rfl, hget, hnewer, rfl⟩ | ⟨d, hct, rfl, hold, hup⟩
  · refine (Edit.updateWhere ?_ ?_).congr ?_
    · intro r
      rfl
    · intro _ r _ hsel
      simp only [Bool.and_eq_true, Bool.not_eq_true'] at hsel
      exact .inr ⟨rfl, deletionStage_lt hsel.2⟩
    · intro r _
      simp [touchesWorkflowRun, hct]
  -- the stored run is newer: a conflict is answered and no row is touched
  · refine .of_eq rfl fun r hr => ?_
    obtain ⟨hread, hfound⟩ := failing_eq_ok.1 hget
    obtain ⟨hlive, hone⟩ := eq_of_live hk (getWorkflowRun_eq_ok.1 hfound)
    unfold touchesWorkflowRun
    by_cases hid : r.id = d.id
    · rw [hone r hr hid]
      simp [writesOver, hread, hlive, hnewer]
    · simp [hid]
  · unfold Database.upsertWorkflowRun at hup
    split_ifs at hup
    rw [← Except.ok.inj hup]
    refine (Edit.upsert ?_ ?_ ?_).congr ?_
    · intro r
      rfl
    · exact fun hb => hb d rfl
    · exact fun hb r => hb d rfl
    · intro r hr
      unfold touchesWorkflowRun
      by_cases hid : r.id = d.id
      · have hover := writesOver_of_live hk (fun hread e he =>
          hold e (failing_eq_ok.2 ⟨hread, getWorkflowRun_eq_ok.2 he⟩)) hr hid
        simp [hid, OwnedRow.key, hover]
      · simp [hid, OwnedRow.key]

/-- **When a session is stored**: it fits, its workflow exists and it changes its row. -/
theorem upsertSession_ok_iff {session : Session} :
    (∃ db', db.upsertSession session = .ok db') ↔
      session.fits = true ∧ db.workflowExists session.workflowId = true ∧
        ∀ old, find Session.id session.id db.sessions = some old →
          { session with id := old.id, createdAt := old.createdAt } ≠ old := by
  unfold Database.upsertSession
  dsimp only
  split_ifs with hfits hworkflow
  · simp at hfits
    simp [hfits]
  · simp at hworkflow
    simp [hworkflow]
  · simp only [Bool.not_eq_true', Bool.not_eq_false] at hfits hworkflow
    cases hfind : find Session.id session.id db.sessions with
    | none => simp [hfits, hworkflow]
    | some old =>
        dsimp only
        split_ifs with hsame
        · simp [hfits, hworkflow, hsame]
        · simp [hfits, hworkflow, hsame]

/-- What a stored session is. -/
theorem upsertSession_sessions {session : Session} (h : db.upsertSession session = .ok db') :
    db'.sessions = upsert Session.id session
      (fun old => { session with id := old.id, createdAt := old.createdAt }) db.sessions := by
  unfold Database.upsertSession at h
  dsimp only at h
  split_ifs at h
  split at h
  · split_ifs at h
    rw [← Except.ok.inj h]
  · rw [← Except.ok.inj h]

/-- A deletion moves a live session on. -/
theorem sessionStage_lt {s : Session} (h : s.isDeleted = false) :
    OwnedRow.stage s < OwnedRow.stage { s with isDeleted := true, updatedAt := now } := by
  simp only [OwnedRow.stage, h, deletionStage, if_true, Bool.false_eq_true, if_false]
  omega

theorem processSessionChangeInTx_edit {data : Option Session}
    (hk : Keyed Session.id db.sessions)
    (h : processSessionChangeInTx change data userId faults now db = .ok (conflicts, db')) :
    Edit (∀ d ∈ data, d.projectId = p) p (touchesSession change faults.read.isSome data)
      db.sessions db'.sessions := by
  rcases processSessionChangeInTx_cases h with ⟨hct, rfl⟩ |
    ⟨d, existing, hct, rfl, hget, hnewer, rfl⟩ | ⟨d, hct, rfl, hold, hup⟩
  · refine (Edit.updateWhere ?_ ?_).congr ?_
    · intro s
      rfl
    · intro _ s _ hsel
      simp only [Bool.and_eq_true, Bool.not_eq_true'] at hsel
      exact .inr ⟨rfl, sessionStage_lt hsel.2⟩
    · intro s _
      simp [touchesSession, hct]
  · refine .of_eq rfl fun s hs => ?_
    obtain ⟨hread, hfound⟩ := failing_eq_ok.1 hget
    obtain ⟨hlive, hone⟩ := eq_of_live hk (getSession_eq_ok.1 hfound)
    unfold touchesSession
    by_cases hid : s.id = d.id
    · rw [hone s hs hid]
      simp [writesOver, hread, hlive, hnewer]
    · simp [hid]
  · rw [upsertSession_sessions hup]
    refine (Edit.upsert ?_ ?_ ?_).congr ?_
    · intro s
      rfl
    · exact fun hb => hb d rfl
    · exact fun hb s => hb d rfl
    · intro s hs
      unfold touchesSession
      by_cases hid : s.id = d.id
      · have hover := writesOver_of_live hk (fun hread e he =>
          hold e (failing_eq_ok.2 ⟨hread, getSession_eq_ok.2 he⟩)) hs hid
        simp [hid, OwnedRow.key, hover]
      · simp [hid, OwnedRow.key]

/-- Finishing a session moves it on. -/
theorem finishedStage_lt {s : Session} {results : List TestResult} (hlive : s.isDeleted = false)
    (hopen : s.status.unfinished = true) :
    OwnedRow.stage s < OwnedRow.stage (finishedSession results now s) := by
  have hdone : (finishedSession results now s).status.unfinished = false := by
    simp only [finishedSession]
    split <;> rfl
  have hlive' : (finishedSession results now s).isDeleted = false := hlive
  simp only [OwnedRow.stage, hlive, hlive', hopen, hdone]
  decide

/-- A finished session has a new version, so its row changes. -/
theorem upsertSession_finished_ok_iff {session : Session} (results : List TestResult)
    (now : Time) (hk : Keyed Session.id db.sessions) (hmem : session ∈ db.sessions) :
    (∃ db', db.upsertSession (finishedSession results now session) = .ok db') ↔
      (finishedSession results now session).fits = true ∧
        db.workflowExists session.workflowId = true := by
  rw [upsertSession_ok_iff]
  constructor
  · rintro ⟨hfits, hworkflow, -⟩
    exact ⟨hfits, hworkflow⟩
  · rintro ⟨hfits, hworkflow⟩
    refine ⟨hfits, hworkflow, fun old hold hsame => ?_⟩
    have hold' : session = old := by
      rw [show (finishedSession results now session).id = session.id from rfl,
        hk.find_mem hmem] at hold
      exact Option.some.inj hold
    subst hold'
    have hver := congrArg Session.version hsame
    simp only [finishedSession] at hver
    omega

/-- The end of a result's change edits the session that it finishes. -/
theorem finalizeSession_edit (bound : Prop) (p sessionId : String) (fails : Bool) (now : Time)
    (hk : Keyed Session.id db.sessions) :
    Edit bound p (finishable sessionId fails now db) db.sessions
      (finalizeSession sessionId fails now db).sessions := by
  unfold finalizeSession
  dsimp only
  split
  · rename_i hboth
    rw [Bool.and_eq_true, Bool.not_eq_true'] at hboth
    obtain ⟨hfails, hall⟩ := hboth
    split
    · rename_i e hget
      -- no live session: nothing is finishable
      refine .of_eq rfl fun s hs => ?_
      by_contra hfin
      simp only [finishable, Bool.not_eq_false, Bool.and_eq_true, decide_eq_true_eq,
        Bool.not_eq_true'] at hfin
      cases hfind : db.sessions.find? (fun s => decide (s.id = sessionId) && !s.isDeleted) with
      | none =>
          have := List.find?_eq_none.1 hfind s hs
          simp [hfin] at this
      | some found =>
          rw [getSession_eq_ok.2 hfind] at hget
          cases hget
    · rename_i session hget
      obtain ⟨hlive, hone⟩ := eq_of_live hk (getSession_eq_ok.1 hget)
      have hmem := List.mem_of_find?_eq_some (getSession_eq_ok.1 hget)
      have hid : session.id = sessionId := by
        have := List.find?_some (getSession_eq_ok.1 hget)
        simp only [Bool.and_eq_true, decide_eq_true_eq] at this
        exact this.1
      split
      · rename_i hopen
        have hunfinished : session.status.unfinished = true := by
          simpa [ExecutionStatus.unfinished] using hopen
        have hstored :=
          upsertSession_finished_ok_iff (db.listTestResults sessionId) now hk hmem
        have hfound : find Session.id
            (finishedSession (db.listTestResults sessionId) now session).id db.sessions
              = some session := hk.find_mem hmem
        split
        · rename_i db₁ hup
          obtain ⟨hfits, hworkflow⟩ := hstored.1 ⟨db₁, hup⟩
          rw [upsertSession_sessions hup, upsert_of_some hfound]
          refine (Edit.updateWhere ?_ ?_).congr ?_
          · intro s
            rfl
          · intro _ s hs hsel
            rw [hone s hs ((of_decide_eq_true hsel).trans hid)]
            exact .inr ⟨rfl, finishedStage_lt hlive hunfinished⟩
          · intro s hs
            by_cases hsid : s.id = sessionId
            · rw [hone s hs hsid]
              simp only [finishable, hid, hlive, hunfinished, hall, hfits, hworkflow, hfails,
                Bool.not_false, decide_true, Bool.and_true]
              exact (decide_eq_true hid.symm).symm
            · simp [finishable, finishedSession, hid, hsid]
        · rename_i e hup
          refine .of_eq rfl fun s hs => ?_
          by_contra hfin
          simp only [finishable, Bool.not_eq_false, Bool.and_eq_true, decide_eq_true_eq,
            Bool.not_eq_true'] at hfin
          obtain ⟨⟨⟨⟨⟨⟨-, hsid⟩, -⟩, -⟩, -⟩, hfits⟩, hworkflow⟩ := hfin
          rw [hone s hs hsid] at hfits hworkflow
          obtain ⟨db₁, hok⟩ := hstored.2 ⟨hfits, hworkflow⟩
          rw [hok] at hup
          cases hup
      · rename_i hclosed
        refine .of_eq rfl fun s hs => ?_
        by_cases hsid : s.id = sessionId
        · rw [hone s hs hsid]
          have : session.status.unfinished = false := by
            simpa [ExecutionStatus.unfinished] using hclosed
          simp [finishable, this]
        · simp [finishable, hsid]
  · rename_i hnot
    refine .of_eq rfl fun s _ => ?_
    rw [Bool.and_eq_true, not_and_or] at hnot
    rcases hnot with hfails | hall
    · rw [Bool.not_eq_true, Bool.not_eq_false'] at hfails
      simp [finishable, hfails]
    · simp [finishable, hall]

theorem processTestResultChangeInTx_edit {data : Option TestResult}
    (hk : Keyed Session.id db.sessions)
    (h : processTestResultChangeInTx change data userId faults now db = .ok (conflicts, db')) :
    Edit (∀ d ∈ data, d.projectId = p) p (touchesTestResult change data) db.testResults
        db'.testResults ∧
      Edit (∀ d ∈ data, d.projectId = p) p (finishesSession change data userId faults.finish now db)
        db.sessions db'.sessions := by
  rcases processTestResultChangeInTx_cases h with ⟨hct, rfl⟩ | ⟨d, db₁, hct, rfl, hup, rfl⟩
  · refine ⟨(Edit.updateWhere ?_ ?_).congr ?_, .of_eq rfl ?_⟩
    · intro r
      rfl
    · intro _ r _ hsel
      simp only [Bool.and_eq_true, Bool.not_eq_true'] at hsel
      exact .inr ⟨rfl, deletionStage_lt hsel.2⟩
    · intro r _
      simp [touchesTestResult, hct]
    · intro s _
      simp [finishesSession, hct]
  · have hedit : Edit (∀ e ∈ some d, e.projectId = p) p (touchesTestResult change (some d))
        db.testResults db₁.testResults := by
      unfold Database.upsertTestResult at hup
      dsimp only at hup
      split_ifs at hup
      rw [← Except.ok.inj hup]
      refine (Edit.upsert ?_ ?_ ?_).congr ?_
      · intro r
        rfl
      · exact fun hb => hb d rfl
      · exact fun hb r => hb d rfl
      · intro r _
        simp [touchesTestResult, OwnedRow.key]
    -- the result is stored first, then its session is finished
    obtain ⟨sessions, hfin⟩ := finalizeSession_eq d.sessionId faults.finish now db₁
    have hsessions : db₁.sessions = db.sessions := by
      obtain ⟨results, hdb₁⟩ := upsertTestResult_eq hup
      rw [hdb₁]
    refine ⟨?_, ?_⟩
    · rw [hfin]
      exact hedit
    · have hfinal := finalizeSession_edit (∀ e ∈ some d, e.projectId = p) p d.sessionId
        faults.finish now (hsessions ▸ hk)
      rw [hsessions] at hfinal
      refine hfinal.congr fun s _ => ?_
      simp [finishesSession, hup]

end

/-- **One change edits exactly the rows it touches**, in each of the five tables. -/
theorem processChangeInTx_edit {db db' : Database} {change : SyncChange} {userId p : String}
    {faults : StatementFaults} {now : Time} {conflicts : List ConflictInfo} (hk : KeyedTables db)
    (h : processChangeInTx userId faults now change db = .ok (conflicts, db')) (kind : EntityKind) :
    Edit (change.data.boundTo p) p (change.touches userId faults now db kind) (kind.rows db)
      (kind.rows db') := by
  unfold processChangeInTx at h
  cases hdata : change.data with
  | workflow data =>
      rw [hdata] at h
      have hrest := processEntityChange_rest (workflowStore_lawful.withFaults faults) h
      cases kind with
      | workflow =>
          refine (processWorkflowChangeInTx_edit h).congr fun r _ => ?_
          simp [SyncChange.touches, hdata]
      | scenario =>
          refine .of_eq (congrArg Database.scenarios hrest :) fun r _ => ?_
          simp [SyncChange.touches, hdata]
      | workflowRun =>
          refine .of_eq (congrArg Database.workflowRuns hrest :) fun r _ => ?_
          simp [SyncChange.touches, hdata]
      | session =>
          refine .of_eq (congrArg Database.sessions hrest :) fun r _ => ?_
          simp [SyncChange.touches, hdata]
      | testResult =>
          refine .of_eq (congrArg Database.testResults hrest :) fun r _ => ?_
          simp [SyncChange.touches, hdata]
  | scenario data =>
      rw [hdata] at h
      have hrest := processEntityChange_rest (scenarioStore_lawful.withFaults faults) h
      cases kind with
      | workflow =>
          refine .of_eq (congrArg Database.workflows hrest :) fun r _ => ?_
          simp [SyncChange.touches, hdata]
      | scenario =>
          refine (processScenarioChangeInTx_edit h).congr fun r _ => ?_
          simp [SyncChange.touches, hdata]
      | workflowRun =>
          refine .of_eq (congrArg Database.workflowRuns hrest :) fun r _ => ?_
          simp [SyncChange.touches, hdata]
      | session =>
          refine .of_eq (congrArg Database.sessions hrest :) fun r _ => ?_
          simp [SyncChange.touches, hdata]
      | testResult =>
          refine .of_eq (congrArg Database.testResults hrest :) fun r _ => ?_
          simp [SyncChange.touches, hdata]
  | workflowRun data =>
      rw [hdata] at h
      have hedit := processWorkflowRunChangeInTx_edit (p := p) (hk .workflowRun) h
      obtain ⟨runs, rfl⟩ := processWorkflowRunChangeInTx_eq h
      cases kind with
      | workflowRun =>
          refine hedit.congr fun r _ => ?_
          simp [SyncChange.touches, hdata]
      | _ =>
          refine .of_eq rfl fun r _ => ?_
          simp [SyncChange.touches, hdata]
  | scenarioRun data =>
      rw [hdata] at h
      have hedit := processSessionChangeInTx_edit (p := p) (hk .session) h
      obtain ⟨sessions, rfl⟩ := processSessionChangeInTx_eq h
      cases kind with
      | session =>
          refine hedit.congr fun r _ => ?_
          simp [SyncChange.touches, hdata]
      | _ =>
          refine .of_eq rfl fun r _ => ?_
          simp [SyncChange.touches, hdata]
  | testResult data =>
      rw [hdata] at h
      obtain ⟨hresults, hsessions⟩ := processTestResultChangeInTx_edit (p := p) (hk .session) h
      obtain ⟨results, sessions, rfl⟩ := processTestResultChangeInTx_eq h
      cases kind with
      | testResult =>
          refine hresults.congr fun r _ => ?_
          simp [SyncChange.touches, hdata]
      | session =>
          refine hsessions.congr fun r _ => ?_
          simp [SyncChange.touches, hdata]
      | _ =>
          refine .of_eq rfl fun r _ => ?_
          simp [SyncChange.touches, hdata]

end TokyoTester
