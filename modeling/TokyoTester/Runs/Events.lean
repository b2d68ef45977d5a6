import TokyoTester.Jobs.Records
import TokyoTester.Runs.Logs

set_option autoImplicit false

/-! # What a call does to the database

Whatever a thread calls, it runs one operation of the queue, or it writes no job. Either way the
event table stays as it is or gets one more event at its end, with the next id of its counter, and
the stored revisions stay. -/

namespace TokyoTester

open Table

/-- What a transaction does to the event table. -/
inductive EventStep (db db' : Database) : Prop where
  | same (events : db'.workflowRunEvents = db.workflowRunEvents)
      (next : db'.nextEventId = db.nextEventId)
  | stored (e : WorkflowRunEvent) (id : e.id = db.nextEventId)
      (events : db'.workflowRunEvents = db.workflowRunEvents ++ [e])
      (next : db'.nextEventId = db.nextEventId + 1)

variable {db db' : Database}

theorem EventStep.refl (db : Database) : EventStep db db := .same rfl rfl

theorem insertWorkflowRunEvent_eventStep (workflowRunId : String) (eventType : RunEventType)
    (payload : String) (createdAt : Time) :
    EventStep db (db.insertWorkflowRunEvent workflowRunId eventType payload createdAt) :=
  .stored { id := db.nextEventId, workflowRunId, eventType, payload, createdAt } rfl rfl rfl

/-- **Operations of the queue.** -/
theorem JobOp.apply_eventStep (maxRecoveries : Int) (hk : Keyed WorkflowJob.id db.workflowJobs)
    (op : JobOp) : EventStep db (op.apply maxRecoveries db) := by
  cases op.apply_recordStep maxRecoveries hk with
  | same records =>
      simp only [Database.records, Prod.mk.injEq] at records
      exact .same records.2.2.1 records.2.2.2
  | admitted run runs events next => exact .same events next
  | cancelled accepted records =>
      simp only [Database.records, Prod.mk.injEq] at records
      exact .stored _ rfl records.2.2.1 records.2.2.2

/-- What a call of the store does that is no operation of the queue. -/
structure Written (db db' : Database) : Prop where
  jobs : db'.workflowJobs = db.workflowJobs
  events : EventStep db db'
  revisions : db.workflowRevisions <+: db'.workflowRevisions

theorem Written.refl (db : Database) : Written db db := ⟨rfl, .refl db, List.prefix_rfl⟩

/-- The operation of the queue that a call of the store is. -/
def StoreOp.jobOp? (clock : Time) : StoreOp → Option JobOp
  | admitWorkflowJob job run sessions policy =>
    some (.admission clock (some job) (some run) (sessions.map some) policy)
  | cancelWorkflowJob jobId ownerId now => some (.cancel jobId ownerId now)
  | releaseWorkflowJob jobId ownerId now => some (.release jobId ownerId now)
  | completeWorkflowJob jobId ownerId now => some (.complete jobId ownerId now)
  | failWorkflowJob jobId ownerId message now => some (.fail jobId ownerId message now)
  | _ => none

/-- **Calls of the store** that are operations of the queue, -/
theorem StoreOp.apply_jobOp {clock : Time} {op : StoreOp} {jobOp : JobOp} {maxRecoveries : Int}
    (hop : op.jobOp? clock = some jobOp) :
    jobOp.apply maxRecoveries db = Transaction.after (op.run clock db) db := by
  cases op with
  | admitWorkflowJob | cancelWorkflowJob | releaseWorkflowJob | completeWorkflowJob
  | failWorkflowJob =>
      obtain rfl := Option.some.inj hop
      rfl
  | _ => cases hop

/-- and those that are not. -/
theorem StoreOp.run_written {clock : Time} {op : StoreOp} {v : op.Value}
    (hop : op.jobOp? clock = none) (h : op.run clock db = .ok (v, db')) : Written db db' := by
  -- a call that only reads
  have hread {β : Type} {x : Except DbError β} {w : β} (h : x.map (·, db) = .ok (w, db')) :
      Written db db' := by
    obtain ⟨a, -, ha⟩ := Transaction.map_eq_ok.1 h
    rw [← (Prod.mk.inj ha).2]
    exact .refl db
  -- a call that writes another table
  have hwrite {x : Except DbError Database} {w : Unit} (h : x.map ((), ·) = .ok (w, db'))
      (hx : ∀ db₁, x = .ok db₁ → Written db db₁) : Written db db' := by
    obtain ⟨db₁, hdb₁, hpair⟩ := Transaction.map_eq_ok.1 h
    rw [← (Prod.mk.inj hpair).2]
    exact hx db₁ hdb₁
  cases op with
  | admitWorkflowJob | cancelWorkflowJob | releaseWorkflowJob | completeWorkflowJob
  | failWorkflowJob => cases hop
  | getWorkflowJob => exact hread h
  | getWorkflow => exact hread h
  | getScenario => exact hread h
  | getWorkflowRun => exact hread h
  | getSession => exact hread h
  | getSessionByBackendSessionId => exact hread h
  | findSessionByExecution => exact hread h
  | listTestResults =>
      rw [← (Prod.mk.inj (Except.ok.inj h)).2]
      exact .refl db
  | upsertWorkflow workflow =>
      refine hwrite h fun db₁ hdb₁ => ?_
      unfold Database.upsertWorkflow at hdb₁
      split_ifs at hdb₁
      rw [← Except.ok.inj hdb₁]
      exact ⟨rfl, .same rfl rfl, List.prefix_rfl⟩
  | upsertScenario scenario =>
      refine hwrite h fun db₁ hdb₁ => ?_
      unfold Database.upsertScenario at hdb₁
      split_ifs at hdb₁
      rw [← Except.ok.inj hdb₁]
      exact ⟨rfl, .same rfl rfl, List.prefix_rfl⟩
  | createWorkflowRevision revision =>
      refine hwrite h fun db₁ hdb₁ => ?_
      unfold Database.createWorkflowRevision at hdb₁
      split_ifs at hdb₁
      rw [← Except.ok.inj hdb₁]
      exact ⟨rfl, .same rfl rfl, List.prefix_append _ _⟩
  | upsertWorkflowRun run =>
      refine hwrite h fun db₁ hdb₁ => ?_
      unfold Database.upsertWorkflowRun at hdb₁
      split_ifs at hdb₁
      rw [← Except.ok.inj hdb₁]
      exact ⟨rfl, .same rfl rfl, List.prefix_rfl⟩
  | upsertSession session =>
      refine hwrite h fun db₁ hdb₁ => ?_
      unfold Database.writeSession at hdb₁
      split_ifs at hdb₁
      rw [← Except.ok.inj hdb₁]
      exact ⟨rfl, .same rfl rfl, List.prefix_rfl⟩
  | upsertTestResult result =>
      refine hwrite h fun db₁ hdb₁ => ?_
      unfold Database.upsertTestResult at hdb₁
      dsimp only at hdb₁
      split_ifs at hdb₁
      rw [← Except.ok.inj hdb₁]
      exact ⟨rfl, .same rfl rfl, List.prefix_rfl⟩
  | appendWorkflowLogEvent workflowRunId payload createdAt message scenarioRunId =>
      refine hwrite h fun db₁ hdb₁ => ?_
      obtain ⟨run, logs, sessions, -, -, -, -, rfl⟩ := appendWorkflowLogEvent_eq hdb₁
      exact ⟨rfl, .stored _ rfl rfl rfl, List.prefix_rfl⟩
  | appendWorkflowRunEvent workflowRunId eventType payload createdAt =>
      rw [← (Prod.mk.inj (Except.ok.inj h)).2]
      exact ⟨rfl, insertWorkflowRunEvent_eventStep workflowRunId eventType payload createdAt,
        List.prefix_rfl⟩

/-- What a call does to the database: an operation of the queue, or it writes no job. -/
def DatabaseStep (maxRecoveries : Int) (op? : Option JobOp) (db db' : Database) : Prop :=
  Written db db' ∨ ∃ op ∈ op?, db' = op.apply maxRecoveries db

section DatabaseStep

variable {maxRecoveries : Int} {op? : Option JobOp}

/-- A transaction of the queue, whatever its fault. -/
theorem DatabaseStep.of_transaction {α : Type} {t : Except DbError (α × Database)} (op : JobOp)
    (hop : op.apply maxRecoveries db = Transaction.after t db) (fault : Fault) :
    DatabaseStep maxRecoveries (some op) db (fault.apply db t).2 := by
  rcases fault.apply_cases db t with h | ⟨v, h⟩
  · exact .inl (h.symm ▸ .refl db)
  · refine .inr ⟨op, rfl, ?_⟩
    generalize (fault.apply db t).2 = db' at h ⊢
    rw [hop, h, Transaction.after_ok]

theorem StoreOp.call_databaseStep (op : StoreOp) (fault : Fault) (clock : Time) :
    DatabaseStep maxRecoveries (op.jobOp? clock) db (op.call fault clock db).2 := by
  cases hop : op.jobOp? clock with
  | some jobOp => exact .of_transaction jobOp (StoreOp.apply_jobOp hop) fault
  | none =>
      left
      rcases fault.apply_cases db (op.run clock db) with h | ⟨v, h⟩
      · rw [StoreOp.call, h]
        exact .refl db
      · exact StoreOp.run_written hop h

theorem DatabaseStep.eventStep (h : DatabaseStep maxRecoveries op? db db')
    (hk : Keyed WorkflowJob.id db.workflowJobs) : EventStep db db' := by
  rcases h with written | ⟨op, -, rfl⟩
  · exact written.events
  · exact op.apply_eventStep maxRecoveries hk

theorem DatabaseStep.ids (h : DatabaseStep maxRecoveries op? db db')
    (hk : Keyed WorkflowJob.id db.workflowJobs) : Keyed WorkflowJob.id db'.workflowJobs := by
  rcases h with written | ⟨op, -, rfl⟩
  · exact written.jobs ▸ hk
  · exact (op.apply_queueStep maxRecoveries hk).ids hk

/-- Revisions are only added. -/
theorem DatabaseStep.workflowRevisions (h : DatabaseStep maxRecoveries op? db db')
    (hk : Keyed WorkflowJob.id db.workflowJobs) :
    db.workflowRevisions <+: db'.workflowRevisions := by
  rcases h with written | ⟨op, -, rfl⟩
  · exact written.revisions
  · rw [op.apply_workflowRevisions maxRecoveries hk]

end DatabaseStep

/-- The operation of the queue that a call is. -/
def Op.jobOp? (clock : Time) : Op → Option JobOp
  | .store _ op => op.jobOp? clock
  | _ => none

/-- **Calls of a thread**, whatever its context and the fault. -/
theorem Op.databaseStep (maxRecoveries : Int) (op : Op) (answer : Answer) (s : ThreadState) :
    DatabaseStep maxRecoveries (op.jobOp? answer.now) s.db (handle op answer s).2.db := by
  cases op with
  | store detached call =>
      simp only [handle]
      split_ifs
      · exact .inl (.refl s.db)
      · exact call.call_databaseStep answer.fault answer.now
  | contextCause | now | newId | nonce | wait | acquireSlot | cleanResources | provisionServices
  | runTest | deleteSession | startHeartbeat | stopHeartbeat => exact .inl (.refl s.db)

end TokyoTester
