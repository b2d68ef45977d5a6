import TokyoTester.Library.Latch
import TokyoTester.Sync.Optimistic

set_option autoImplicit false

/-! # Runs and sessions that are over

A change of a run or a session is stored unless the live row has a later update time than the client
says. Its status comes from the client: a snapshot that was queued while the run was pending and is
sent with a later time, or one of a row that was deleted since or is not read, writes "pending" over
a status that was final. A batch keeps what was over when it has no such change (`reopensAny`). -/

namespace TokyoTester

open Table Versioned Latch

/-! ## What is over -/

def Database.runById (db : Database) (id : String) : Option WorkflowRun :=
  find WorkflowRun.id id db.workflowRuns

def Database.sessionById (db : Database) (id : String) : Option Session :=
  find Session.id id db.sessions

def WorkflowRun.finished (run : WorkflowRun) : Bool := run.status.runTerminal

def Session.finished (session : Session) : Bool := session.status.sessionTerminal

/-- What is over in `db` is over in `db'`. -/
structure FinishedKept (db db' : Database) : Prop where
  runs : Kept WorkflowRun.finished db.runById db'.runById
  sessions : Kept Session.finished db.sessionById db'.sessionById

/-- The change of a run or a session that was over in `before` writes another status. -/
def reopens (before : Database) (faults : StatementFaults) (change : SyncChange) (db : Database) :
    Bool :=
  change.changeType ≠ .delete && match change.data with
    | .workflowRun (some data) =>
      (before.runById data.id).any WorkflowRun.finished && !data.finished &&
        -- a row that is deleted is not read, nor is one whose statement fails
        !(failing faults.read (db.getWorkflowRun data.id)).toOption.any fun existing =>
          change.clientTime < existing.updatedAt
    | .scenarioRun (some data) =>
      (before.sessionById data.id).any Session.finished && !data.finished &&
        !(failing faults.read (db.getSession data.id)).toOption.any fun existing =>
          change.clientTime < existing.updatedAt
    | _ => false

/-- A change of the batch does so. -/
def reopensAny (before : Database) (userId : String) (clock : Nat → Time) (faults : BatchFaults) :
    List SyncChange → Nat → Database → Bool
  | [], _, _ => false
  | change :: rest, n, db =>
    reopens before (faults.statements n) change db ||
      match processChangeInTx userId (faults.statements n) (clock n) change db with
      | .ok (_, db) => reopensAny before userId clock faults rest (n + 1) db
      | .error _ => reopensAny before userId clock faults rest (n + 1) db

/-! ## One statement -/

section Statements

variable {before db db' : Database} {now : Time}

theorem finishedKept_refl (db : Database) : FinishedKept db db := ⟨.refl _, .refl _⟩

/-- An upsert of a run writes the row of its id with its status. -/
theorem upsertWorkflowRun_rows {run : WorkflowRun} (h : db.upsertWorkflowRun run = .ok db') :
    (∃ stored : WorkflowRun, stored.status = run.status ∧
      db'.runById = Function.update db.runById run.id (some stored)) ∧
    db'.sessionById = db.sessionById := by
  unfold Database.upsertWorkflowRun at h
  split_ifs at h
  obtain rfl := Except.ok.inj h
  refine ⟨⟨_, ?_, find_upsert_eq_update fun _ => rfl⟩, rfl⟩
  cases find WorkflowRun.id run.id db.workflowRuns <;> rfl

theorem upsertSession_rows {session : Session} (h : db.upsertSession session = .ok db') :
    (∃ stored : Session, stored.status = session.status ∧
      db'.sessionById = Function.update db.sessionById session.id (some stored)) ∧
    db'.runById = db.runById := by
  have hsessions : ∃ sessions, db' = { db with sessions := sessions } ∧
      sessions = upsert Session.id session
        (fun old => { session with id := old.id, createdAt := old.createdAt }) db.sessions := by
    unfold Database.upsertSession at h
    dsimp only at h
    split_ifs at h
    split at h
    · split_ifs at h
      exact ⟨_, (Except.ok.inj h).symm, rfl⟩
    · exact ⟨_, (Except.ok.inj h).symm, rfl⟩
  obtain ⟨sessions, rfl, rfl⟩ := hsessions
  refine ⟨⟨_, ?_, find_upsert_eq_update fun _ => rfl⟩, rfl⟩
  cases find Session.id session.id db.sessions <;> rfl

/-- A deletion keeps the status. -/
theorem finishedKept_deleteWorkflowRun (h : FinishedKept before db) (id : String) :
    FinishedKept before (db.deleteWorkflowRun id now) :=
  ⟨h.runs.updateWhere (fun _ => rfl) fun _ hr => hr, h.sessions⟩

theorem finishedKept_deleteSession (h : FinishedKept before db) (id : String) :
    FinishedKept before (db.deleteSession id now) :=
  ⟨h.runs, h.sessions.updateWhere (fun _ => rfl) fun _ hs => hs⟩

/-- The session that its results finish is over. -/
theorem finishedKept_finalizeSession (h : FinishedKept before db) (sessionId : String)
    (fails : Bool) : FinishedKept before (finalizeSession sessionId fails now db) := by
  unfold finalizeSession
  dsimp only
  split_ifs
  · split
    · exact h
    · split_ifs
      · split
        · rename_i hup
          obtain ⟨⟨stored, hstatus, hsessions⟩, hruns⟩ := upsertSession_rows hup
          refine ⟨hruns ▸ h.runs, ?_⟩
          rw [hsessions, h.sessions.update_iff]
          intro _
          rw [Session.finished, hstatus, finishedSession]
          split_ifs <;> rfl
        · exact h
      · exact h
  · exact h

end Statements

/-! ## One change -/

section Change

variable {before db db' : Database} {userId : String} {faults : StatementFaults} {now : Time}
  {change : SyncChange} {conflicts : List ConflictInfo}

theorem toOption_any_iff {α : Type} {found : Except DbError α} {p : α → Bool} :
    found.toOption.any p = true ↔ ∃ a, found = .ok a ∧ p a = true := by
  cases found <;> simp [Except.toOption]

theorem toOption_any_eq_false {α : Type} {found : Except DbError α} {p : α → Bool}
    (h : ∀ a, found = .ok a → p a = false) : found.toOption.any p = false := by
  cases found with
  | error e => rfl
  | ok a => exact h a rfl

/-- A change of a run keeps what is over unless it reopens its run. -/
theorem workflowRunChange_kept {data : Option WorkflowRun} (h : FinishedKept before db)
    (hdata : change.data = .workflowRun data)
    (hout : processWorkflowRunChangeInTx change data userId faults now db = .ok (conflicts, db')) :
    FinishedKept before db' ↔ reopens before faults change db = false := by
  rw [reopens, hdata]
  rcases processWorkflowRunChangeInTx_cases hout with ⟨hct, rfl⟩ |
    ⟨d, existing, hct, rfl, hget, hnewer, rfl⟩ | ⟨d, hct, rfl, hguard, hup⟩
  · exact iff_of_true (finishedKept_deleteWorkflowRun h _) (by simp [hct])
  · have hlost : (failing faults.read (db'.getWorkflowRun d.id)).toOption.any
        (fun existing => change.clientTime < existing.updatedAt) = true :=
      toOption_any_iff.2 ⟨existing, hget, decide_eq_true hnewer⟩
    exact iff_of_true h (by simp [hlost])
  · obtain ⟨⟨stored, hstatus, hruns⟩, hsessions⟩ := upsertWorkflowRun_rows hup
    have hstored : (failing faults.read (db.getWorkflowRun d.id)).toOption.any
        (fun existing => change.clientTime < existing.updatedAt) = false :=
      toOption_any_eq_false fun existing hget => decide_eq_false (hguard existing hget)
    have hkept : FinishedKept before db' ↔
        ((before.runById d.id).any WorkflowRun.finished = true → d.finished = true) := by
      have hfinished : stored.finished = d.finished := congrArg ExecutionStatus.runTerminal hstatus
      rw [← hfinished]
      constructor
      · intro hkept
        exact (h.runs.update_iff).1 (hruns ▸ hkept.runs)
      · intro hdone
        exact ⟨hruns ▸ (h.runs.update_iff).2 hdone, hsessions ▸ h.sessions⟩
    rw [hkept]
    simp [hct, hstored]

/-- A change of a session likewise. -/
theorem sessionChange_kept {data : Option Session} (h : FinishedKept before db)
    (hdata : change.data = .scenarioRun data)
    (hout : processSessionChangeInTx change data userId faults now db = .ok (conflicts, db')) :
    FinishedKept before db' ↔ reopens before faults change db = false := by
  rw [reopens, hdata]
  rcases processSessionChangeInTx_cases hout with ⟨hct, rfl⟩ |
    ⟨d, existing, hct, rfl, hget, hnewer, rfl⟩ | ⟨d, hct, rfl, hguard, hup⟩
  · exact iff_of_true (finishedKept_deleteSession h _) (by simp [hct])
  · have hlost : (failing faults.read (db'.getSession d.id)).toOption.any
        (fun existing => change.clientTime < existing.updatedAt) = true :=
      toOption_any_iff.2 ⟨existing, hget, decide_eq_true hnewer⟩
    exact iff_of_true h (by simp [hlost])
  · obtain ⟨⟨stored, hstatus, hsessions⟩, hruns⟩ := upsertSession_rows hup
    have hstored : (failing faults.read (db.getSession d.id)).toOption.any
        (fun existing => change.clientTime < existing.updatedAt) = false :=
      toOption_any_eq_false fun existing hget => decide_eq_false (hguard existing hget)
    have hkept : FinishedKept before db' ↔
        ((before.sessionById d.id).any Session.finished = true → d.finished = true) := by
      have hfinished : stored.finished = d.finished :=
        congrArg ExecutionStatus.sessionTerminal hstatus
      rw [← hfinished]
      constructor
      · intro hkept
        exact (h.sessions.update_iff).1 (hsessions ▸ hkept.sessions)
      · intro hdone
        exact ⟨hruns ▸ h.runs, hsessions ▸ (h.sessions.update_iff).2 hdone⟩
    rw [hkept]
    simp [hct, hstored]

theorem finishedKept_of_eq (h : FinishedKept before db) (hruns : db'.workflowRuns = db.workflowRuns)
    (hsessions : db'.sessions = db.sessions) : FinishedKept before db' := by
  have hr : db'.runById = db.runById := by
    funext id
    rw [Database.runById, Database.runById, hruns]
  have hs : db'.sessionById = db.sessionById := by
    funext id
    rw [Database.sessionById, Database.sessionById, hsessions]
  exact ⟨hr ▸ h.runs, hs ▸ h.sessions⟩

/-- **A change keeps what is over** unless it reopens a run or a session. -/
theorem processChangeInTx_kept (h : FinishedKept before db)
    (hout : processChangeInTx userId faults now change db = .ok (conflicts, db')) :
    FinishedKept before db' ↔ reopens before faults change db = false := by
  cases hdata : change.data with
  | workflowRun data =>
      unfold processChangeInTx at hout
      rw [hdata] at hout
      exact workflowRunChange_kept h hdata hout
  | scenarioRun data =>
      unfold processChangeInTx at hout
      rw [hdata] at hout
      exact sessionChange_kept h hdata hout
  | testResult data =>
      unfold processChangeInTx at hout
      rw [hdata] at hout
      refine iff_of_true ?_ (by simp [reopens, hdata])
      rcases processTestResultChangeInTx_cases hout with ⟨-, rfl⟩ | ⟨d, db₁, -, -, hup, rfl⟩
      · exact finishedKept_of_eq h rfl rfl
      · obtain ⟨results, rfl⟩ := upsertTestResult_eq hup
        have hkept : FinishedKept before { db with testResults := results } :=
          finishedKept_of_eq h rfl rfl
        exact finishedKept_finalizeSession hkept _ _
  | _ data =>
      have hversioned : change.versioned = true := by rw [SyncChange.versioned, hdata]
      have hothers := (processChangeInTx_keeps hversioned hout).2
      refine iff_of_true ?_ (by simp [reopens, hdata])
      exact finishedKept_of_eq h (congrArg Database.workflowRuns hothers :)
        (congrArg Database.sessions hothers :)

end Change

/-! ## The batch -/

section Batch

variable {before db : Database} {userId : String} {clock : Nat → Time} {faults : BatchFaults}
  {changes : List SyncChange} {n : Nat}

/-- The loop keeps what is over, after every change, unless one reopens something. -/
theorem processChanges_finishedKept (h : FinishedKept before db)
    (hok : (processChanges userId clock faults changes n db {}).1.errors = []) :
    (∀ m, FinishedKept before
        (processChanges userId clock faults (changes.take m) n db {}).2) ↔
      reopensAny before userId clock faults changes n db = false := by
  induction changes generalizing n db with
  | nil =>
      refine iff_of_true (fun m => ?_) rfl
      rw [List.take_nil]
      exact h
  | cons change rest ih =>
      obtain ⟨conflicts, db₁, hout, hrest⟩ := processChanges_cons hok
      have hstep := processChangeInTx_kept h hout
      have hafter : ∀ m,
          (processChanges userId clock faults ((change :: rest).take (m + 1)) n db {}).2
            = (processChanges userId clock faults (rest.take m) (n + 1) db₁ {}).2 :=
        fun m => (processChanges_ok (rest.take m) hout).2
      rw [reopensAny, hout, Bool.or_eq_false_iff, ← hstep]
      constructor
      · intro hall
        have hone : FinishedKept before db₁ := by
          have hfirst := hall 1
          rw [hafter 0, List.take_zero] at hfirst
          exact hfirst
        refine ⟨hone, (ih hone hrest).1 fun m => ?_⟩
        rw [← hafter m]
        exact hall (m + 1)
      · rintro ⟨hone, hlater⟩ m
        cases m with
        | zero => exact h
        | succ m =>
            rw [hafter m]
            exact (ih hone hrest).2 hlater m

end Batch

/-- A run that the runner completed at 30. -/
def completedDatabase : Database where
  workflows := [{ (default : Workflow) with id := "wf-1", version := 1 }]
  workflowRuns :=
    [{ (default : WorkflowRun) with
      id := "run-1", workflowId := "wf-1", status := .completed, completedAt := some 30
      updatedAt := 30, version := 4 }]

/-- The snapshot of its start, with the later time at which the browser queued it last. -/
def queuedSnapshot : SyncBatchRequest where
  clientId := "laptop"
  userId := "ada"
  projectId := ""
  changes :=
    [{ entityId := "run-1", changeType := .insert, clientTime := 40, clientVersion := 0
       data := .workflowRun (some { (default : WorkflowRun) with
         id := "run-1", workflowId := "wf-1", status := .pending, updatedAt := 10 }) }]

end TokyoTester
