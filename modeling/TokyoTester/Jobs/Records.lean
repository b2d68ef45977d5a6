import TokyoTester.Jobs.Lifecycle

set_option autoImplicit false

/-! # What the queue does to a run's other records

Besides the job table, an admission may create the row of its run and those of its sessions, and
an accepted cancellation rewrites the run, its unfinished sessions and the event log. No other
operation of the queue touches these tables. -/

namespace TokyoTester

open Table

/-- The tables that a run's records are in. -/
def Database.records (db : Database) :
    List WorkflowRun × List Session × List WorkflowRunEvent × Nat :=
  (db.workflowRuns, db.sessions, db.workflowRunEvents, db.nextEventId)

/-- The operation is an accepted cancellation of the run: a request that finds its job pending or
    running, or the end of a cancellation by the holder of the job's lease. -/
def JobOp.Cancels (workflowRunId : String) (db : Database) : JobOp → Prop
  | requestCancellation runId projectId _ _ =>
    runId = workflowRunId ∧ ∃ j ∈ db.jobOfRun runId, j.projectId = projectId ∧
      (j.status = .pending ∨ j.status = .running)
  | cancel jobId ownerId _ =>
    ∃ j ∈ db.workflowJobs, j.id = jobId ∧ j.leaseOwner = some ownerId ∧
      j.status.leased = true ∧ j.workflowRunId = workflowRunId
  | _ => False

instance (workflowRunId : String) (db : Database) (op : JobOp) :
    Decidable (op.Cancels workflowRunId db) := by
  cases op <;> unfold JobOp.Cancels <;> infer_instance

/-- What an operation of the queue does to the records. -/
inductive RecordStep (op : JobOp) (db db' : Database) : Prop where
  | same (records : db'.records = db.records)
  | admitted (run : WorkflowRun)
      (runs : db'.workflowRuns = (db.insertIgnoreWorkflowRun run).workflowRuns)
      (events : db'.workflowRunEvents = db.workflowRunEvents)
      (nextEventId : db'.nextEventId = db.nextEventId)
  | cancelled {workflowRunId : String} {status : ExecutionStatus} {reason : String} {now : Time}
      {terminal : Bool} (accepted : op.Cancels workflowRunId db)
      (records : db'.records
        = (db.updateCancelledWorkflowRecords workflowRunId status reason now terminal).records)

namespace Database

variable {db db' : Database}

theorem admitWorkflowRun_runs {run : WorkflowRun} (h : db.admitWorkflowRun run = .ok db') :
    db' = db.insertIgnoreWorkflowRun run := by
  unfold admitWorkflowRun at h
  dsimp only at h
  split at h
  · cases h
  · split_ifs at h
    exact (Except.ok.inj h).symm

theorem admitJob_records {clock : Time} {job : WorkflowJob} {policy : WorkflowAdmissionPolicy}
    {result : WorkflowJob × Bool} (h : db.admitJob clock job policy = .ok (result, db')) :
    db'.records = db.records ∧ db'.workflows = db.workflows := by
  rcases admitJob_spec h with ⟨j, -, -, -, rfl⟩ | ⟨-, db₂, hlimits, -, -, -, -, rfl⟩
  · exact ⟨rfl, rfl⟩
  · rw [enforceWorkflowRateLimits_eq hlimits]
    exact ⟨rfl, rfl⟩

/-- The row that an admission stores depends on the runs and the workflows only. -/
theorem insertIgnoreWorkflowRun_congr (run : WorkflowRun)
    (hruns : db'.workflowRuns = db.workflowRuns) (hworkflows : db'.workflows = db.workflows) :
    (db'.insertIgnoreWorkflowRun run).workflowRuns
      = (db.insertIgnoreWorkflowRun run).workflowRuns := by
  unfold insertIgnoreWorkflowRun workflowExists
  simp only [hruns, hworkflows]
  split_ifs
  · exact hruns
  · rfl

theorem admitWorkflowJob_recordStep {op : JobOp} {clock : Time} {job : WorkflowJob}
    {run : Option WorkflowRun} {sessions : List (Option Session)}
    {policy : WorkflowAdmissionPolicy} {result : WorkflowJob × Bool}
    (h : db.admitWorkflowJob clock (some job) run sessions policy = .ok (result, db')) :
    RecordStep op db db' := by
  cases run with
  | none => cases h
  | some run =>
      obtain ⟨⟨result₁, db₁⟩, h₁, h⟩ := Transaction.bind_eq_ok.1 h
      obtain ⟨db₂, h₂, h⟩ := Transaction.bind_eq_ok.1 h
      obtain ⟨db₃, h₃, h⟩ := Transaction.bind_eq_ok.1 h
      obtain ⟨rfl, rfl⟩ := Prod.mk.inj (Except.ok.inj h)
      obtain ⟨hrecords, hworkflows⟩ := admitJob_records h₁
      simp only [records, Prod.mk.injEq] at hrecords
      have hrun := admitWorkflowRun_runs h₂
      refine .admitted run ?_ ?_ ?_
      · rw [admitSessions_eq h₃, hrun]
        exact insertIgnoreWorkflowRun_congr run hrecords.1 hworkflows
      · rw [admitSessions_eq h₃, admitWorkflowRun_eq h₂]
        exact hrecords.2.2.1
      · rw [admitSessions_eq h₃, admitWorkflowRun_eq h₂]
        exact hrecords.2.2.2

theorem fencedUpdate_recordStep {op : JobOp} (hk : Keyed WorkflowJob.id db.workflowJobs)
    {jobId ownerId operation : String} {f : WorkflowJob → WorkflowJob}
    (hf : ∀ j, (f j).id = j.id) :
    RecordStep op db (Transaction.after (db.fencedUpdate jobId ownerId operation f) db) := by
  rcases fencedUpdate_spec hk hf with ⟨e, h⟩ | ⟨j, -, -, h⟩
  · rw [h]
    exact .same rfl
  · rw [h]
    exact .same rfl

end Database

/-- **Operations of the queue** leave the revisions alone. -/
theorem JobOp.apply_workflowRevisions (maxRecoveries : Int) {db : Database}
    (hk : Keyed WorkflowJob.id db.workflowJobs) (op : JobOp) :
    (op.apply maxRecoveries db).workflowRevisions = db.workflowRevisions := by
  have hfenced : ∀ {jobId ownerId operation : String} {f : WorkflowJob → WorkflowJob},
      (∀ j, (f j).id = j.id) →
        (Transaction.after (db.fencedUpdate jobId ownerId operation f) db).workflowRevisions
          = db.workflowRevisions := by
    intro jobId ownerId operation f hf
    rcases Database.fencedUpdate_spec hk hf with ⟨e, h⟩ | ⟨j, -, -, h⟩ <;> rw [h] <;> rfl
  cases op with
  -- an admission writes rate limits, a job and its records, but no revision
  | admission clock job run sessions policy =>
      simp only [JobOp.apply]
      cases h : db.admitWorkflowJob clock job run sessions policy with
      | error e => rfl
      | ok r =>
          cases job with
          | none => cases h
          | some job =>
              obtain ⟨db₁, h₁, hdb⟩ := Database.admitWorkflowJob_spec h
              rw [Transaction.after_ok, hdb]
              rcases Database.admitJob_spec h₁ with
                ⟨j, -, -, -, rfl⟩ | ⟨-, db₂, hlimits, -, -, -, -, rfl⟩
              · rfl
              · rw [Database.enforceWorkflowRateLimits_eq hlimits]
  | claim ownerId now leaseDuration policy fair locked tie =>
      simp only [JobOp.apply]
      rcases Database.claimWorkflowJob_spec hk ownerId now leaseDuration maxRecoveries policy fair
        locked tie with h | ⟨j, -, -, j', -, h⟩ <;> rw [h]
  | heartbeat jobId ownerId now leaseDuration =>
      simp only [JobOp.apply]
      rcases Database.heartbeatWorkflowJob_spec hk jobId ownerId now leaseDuration with
        ⟨e, h⟩ | ⟨j, -, -, -, h⟩ <;> rw [h] <;> rfl
  | requestCancellation workflowRunId projectId reason now =>
      simp only [JobOp.apply]
      rcases Database.requestWorkflowJobCancellation_spec hk workflowRunId projectId reason now
        with ⟨e, h⟩ | ⟨j, -, -, h⟩ | ⟨j, wasPending, text, -, -, -, h⟩ <;> rw [h] <;> rfl
  | cancel jobId ownerId now =>
      simp only [JobOp.apply]
      rcases Database.cancelWorkflowJob_spec hk jobId ownerId now with
        ⟨e, h⟩ | ⟨j, -, -, -, -, h⟩ <;> rw [h] <;> rfl
  | release jobId ownerId now => exact hfenced fun _ => rfl
  | complete jobId ownerId now => exact hfenced fun _ => rfl
  | fail jobId ownerId message now => exact hfenced fun _ => rfl

/-- **What the queue does to a run's records**: the list above is complete. -/
theorem JobOp.apply_recordStep (maxRecoveries : Int) {db : Database}
    (hk : Keyed WorkflowJob.id db.workflowJobs) (op : JobOp) :
    RecordStep op db (op.apply maxRecoveries db) := by
  cases op with
  | admission clock job run sessions policy =>
      simp only [JobOp.apply]
      cases h : db.admitWorkflowJob clock job run sessions policy with
      | error e => exact .same rfl
      | ok r =>
          cases job with
          | none => cases h
          | some job => exact Database.admitWorkflowJob_recordStep h
  | claim ownerId now leaseDuration policy fair locked tie =>
      simp only [JobOp.apply]
      rcases Database.claimWorkflowJob_spec hk ownerId now leaseDuration maxRecoveries policy fair
        locked tie with h | ⟨j, -, -, j', -, h⟩
      · rw [h]
        exact .same rfl
      · rw [h]
        exact .same rfl
  | heartbeat jobId ownerId now leaseDuration =>
      simp only [JobOp.apply]
      rcases Database.heartbeatWorkflowJob_spec hk jobId ownerId now leaseDuration with
        ⟨e, h⟩ | ⟨j, -, -, -, h⟩
      · rw [h]
        exact .same rfl
      · rw [h]
        exact .same rfl
  | requestCancellation workflowRunId projectId reason now =>
      simp only [JobOp.apply]
      rcases Database.requestWorkflowJobCancellation_spec hk workflowRunId projectId reason now
        with ⟨e, h⟩ | ⟨j, -, -, h⟩ | ⟨j, wasPending, text, hj, hproject, hstatus, h⟩
      · rw [h]
        exact .same rfl
      · rw [h]
        exact .same rfl
      · rw [h]
        have hopen : j.status = .pending ∨ j.status = .running := by
          cases wasPending with
          | true => exact .inl hstatus
          | false => exact .inr hstatus
        exact .cancelled ⟨rfl, j, hj, hproject, hopen⟩ rfl
  | cancel jobId ownerId now =>
      simp only [JobOp.apply]
      rcases Database.cancelWorkflowJob_spec hk jobId ownerId now with
        ⟨e, h⟩ | ⟨j, hj, hid, howner, hleased, h⟩
      · rw [h]
        exact .same rfl
      · rw [h]
        exact .cancelled ⟨j, hj, hid, howner, hleased, rfl⟩ rfl
  | release jobId ownerId now => exact Database.fencedUpdate_recordStep hk fun _ => rfl
  | complete jobId ownerId now => exact Database.fencedUpdate_recordStep hk fun _ => rfl
  | fail jobId ownerId message now => exact Database.fencedUpdate_recordStep hk fun _ => rfl

end TokyoTester
