import TokyoTester.Runs.Events
import TokyoTester.Runs.Submission

set_option autoImplicit false

/-! # The workers (`workflow_service.go`, `worker`)

The workers of all runners share the job table. A worker claims a job and makes the calls that
belong to it one after the other; while the scenarios of the job run it waits. Its heartbeats, the
submissions and the cancellations of clients and the writes of the scenarios' goroutines come in
between, and it may crash at any point. A worker knows its job as it was when it was claimed and
what its calls have told it since; the job table is the only place where workers meet.

Whatever happens, at most one operation of the queue changes the job table in a step, and the event
tells which (`step_jobsStep`). -/

namespace TokyoTester

open Table

/-! ## A worker -/

namespace Execution

/-- The start of `executeJob`: the request, when its scenarios are to run. A nonce of the wrong
    length is a panic, which ends the process. -/
def startJob (S : WorkflowService) (owner : String) (job : WorkflowJob) :
    Task (Option Request) :=
  match S.decodeJob job with
  | .error .panicked => pure none
  | .error (.text message) => do
    failJob owner job message
    pure none
  | .ok request =>
    match request.bundle with
    | .error message => do
      failJob owner job message
      pure none
    | .ok _ => do
      if ← prepareJob owner job request then pure (some request) else pure none

/-- A claimed job is executed, unless its recoveries are exhausted or it is to be cancelled. -/
def executes (job : WorkflowJob) : Bool := job.status ≠ .failed && job.cancelRequestedAt.isNone

/-- The body of the loop in `worker`, up to the scenarios. -/
def workJob (S : WorkflowService) (owner : String) (job : WorkflowJob) : Task (Option Request) :=
  if job.status = .failed then do
    reconcileExhaustedJob job
    pure none
  else if job.cancelRequestedAt.isSome then do
    finalizeCancellation owner job
    pure none
  else startJob S owner job

end Execution

/-- What a worker is doing. -/
inductive Worker where
  | idle
  /-- It makes calls for the job that it has claimed. -/
  | busy (job : WorkflowJob) (context : Context) (task : Task (Option Request))
  /-- The scenarios of its job run. -/
  | waiting (job : WorkflowJob) (context : Context) (request : Request)

namespace Worker

/-- A worker with what it still has to do. -/
def continuing (job : WorkflowJob) (context : Context) : Task (Option Request) → Worker
  | .done none => .idle
  | .done (some request) => .waiting job context request
  | .call op next => .busy job context (.call op next)

/-- The context of the job ends, unless it has. -/
def interrupt (cause : Cause) : Worker → Worker
  | idle => idle
  | busy job context task => busy job (context.cancel cause) task
  | waiting job context request => waiting job (context.cancel cause) request

/-- The job of a worker. -/
def job? : Worker → Option WorkflowJob
  | idle => none
  | busy job _ _ => some job
  | waiting job _ _ => some job

/-- The answer to a heartbeat, if it is one for the worker's job. -/
def beat (jobId : String) (reply : Except DbError Unit) (w : Worker) : Worker :=
  if w.job?.any fun job => job.id = jobId then
    match reply with
    | .ok _ => w
    | .error .cancellationRequested => w.interrupt .cancellationRequested
    | .error e => w.interrupt (.leaseLost e.message)
  else w

end Worker

/-! ## The system -/

/-- The runners of a deployment. A worker that crashed, or whose process has ended, may come back
    under its name. -/
structure Runners where
  db : Database
  workers : String → Worker := fun _ => .idle
  submissions : List (Request × Task (Except SubmitError Submitted)) := []
  /-- The calls of `executeJob` so far, with the worker that made them. -/
  executions : List (String × WorkflowJob) := []

/-- What happens next. -/
inductive RunnersEvent where
  | submit (request : Request)
  /-- The next call of a submission. -/
  | submission (thread : Nat) (answer : Answer)
  /-- `RequestWorkflowJobCancellation`. -/
  | cancel (workflowRunId projectId reason : String) (now : Time)
  /-- A worker claims a job, and may not learn it. -/
  | claim (owner : String) (now : Time) (locked : List String) (tie : Nat) (lost : Bool)
  /-- The next call of a worker. -/
  | call (owner : String) (answer : Answer)
  /-- The goroutines of the scenarios are over. -/
  | finish (owner : String) (results : List ScenarioResponse)
  /-- A heartbeat; it may outlive the execution that it belongs to. -/
  | heartbeat (owner jobId : String) (now : Time) (fault : Fault)
  | shutdown (owner : String)
  | crash (owner : String)
  /-- A call of another goroutine. -/
  | other (op : StoreOp) (answer : Answer)

namespace Runners

/-- A worker does something else from now on. -/
def setWorker (s : Runners) (owner : String) (w : Worker) : Runners :=
  { s with workers := Function.update s.workers owner w }

variable (S : WorkflowService)

/-- The claim of a worker. -/
def claimed (owner : String) (now : Time) (locked : List String) (tie : Nat) (s : Runners) :
    Option WorkflowJob × Database :=
  s.db.claimWorkflowJob owner now S.config.leaseDuration S.config.maxRecoveries S.config.policy
    true locked tie

/-- A worker begins with a job. -/
def began (owner : String) (job : WorkflowJob) (s : Runners) : Runners :=
  { s.setWorker owner (.continuing job .live (Execution.workJob S owner job)) with
    executions := s.executions ++ if Execution.executes job then [(owner, job)] else [] }

/-- One step, when it can happen. -/
def step (s : Runners) : RunnersEvent → Option Runners
  | .submit request =>
    some { s with submissions := s.submissions ++ [(request, S.submit request)] }
  | .submission i answer =>
    match s.submissions[i]? with
    | some (request, .call op next) =>
      let r := handle op answer { db := s.db }
      some { s with
        db := r.2.db, submissions := s.submissions.set i (request, next r.1) }
    | _ => none
  | .cancel workflowRunId projectId reason now =>
    some { s with
      db := Transaction.after
        (s.db.requestWorkflowJobCancellation workflowRunId projectId reason now) s.db }
  | .claim owner now locked tie lost =>
    match s.workers owner with
    | .idle =>
      let r := s.claimed S owner now locked tie
      match if lost then none else r.1 with
      | none => some { s with db := r.2 }
      | some job => some ({ s with db := r.2 }.began S owner job)
    | _ => none
  | .call owner answer =>
    match s.workers owner with
    | .busy job context (.call op next) =>
      let r := handle op answer { db := s.db, context }
      some ({ s with db := r.2.db }.setWorker owner (.continuing job context (next r.1)))
    | _ => none
  | .finish owner results =>
    match s.workers owner with
    | .waiting job context request =>
      some (s.setWorker owner (.continuing job context do
        Execution.finishJob owner job request results
        pure none))
    | _ => none
  | .heartbeat owner jobId now fault =>
    let r := fault.apply s.db
      (s.db.heartbeatWorkflowJob jobId owner now S.config.leaseDuration)
    some ({ s with db := r.2 }.setWorker owner ((s.workers owner).beat jobId r.1))
  | .shutdown owner => some (s.setWorker owner ((s.workers owner).interrupt .shutdown))
  | .crash owner => some (s.setWorker owner .idle)
  | .other op answer =>
    if (op.jobOp? answer.now).isSome then none
    else some { s with db := (op.call answer.fault answer.now s.db).2 }

end Runners

/-! ## What happens to the job table -/

/-- The operation of the queue that an event is. -/
def RunnersEvent.jobOp? (S : WorkflowService) (s : Runners) : RunnersEvent → Option JobOp
  | .submission i answer =>
    (s.submissions[i]?).bind fun x => x.2.next?.bind (Op.jobOp? answer.now)
  | .cancel workflowRunId projectId reason now =>
    some (.requestCancellation workflowRunId projectId reason now)
  | .claim owner now locked tie _ =>
    some (.claim owner now S.config.leaseDuration S.config.policy true locked tie)
  | .call owner answer =>
    match s.workers owner with
    | .busy _ _ task => task.next?.bind (Op.jobOp? answer.now)
    | _ => none
  | .heartbeat owner jobId now _ => some (.heartbeat jobId owner now S.config.leaseDuration)
  | .other op answer => op.jobOp? answer.now
  | _ => none

/-- A table stays as it is, or one operation of the queue changes it. -/
def JobsStep (maxRecoveries : Int) (op? : Option JobOp) (t t' : List WorkflowJob) : Prop :=
  t' = t ∨ ∃ op ∈ op?, QueueStep maxRecoveries op t t'

namespace Runners

variable {S : WorkflowService} {s s' : Runners} {event : RunnersEvent}

/-- **What a step does to the database**: at most one operation of the queue, the one that its event
    is, or it writes no job. -/
theorem step_databaseStep (h : step S s event = some s') :
    DatabaseStep S.config.maxRecoveries (event.jobOp? S s) s.db s'.db := by
  cases event with
  | submit | shutdown | crash =>
      obtain rfl := Option.some.inj h
      exact .inl (.refl s.db)
  | submission i answer =>
      simp only [step] at h
      split at h
      · rename_i request op next hi
        obtain rfl := Option.some.inj h
        simp only [RunnersEvent.jobOp?, hi, Option.bind_some, Program.next?]
        exact op.databaseStep S.config.maxRecoveries answer { db := s.db }
      · cases h
  | cancel workflowRunId projectId reason now =>
      obtain rfl := Option.some.inj h
      exact .inr ⟨_, rfl, rfl⟩
  | claim owner now locked tie lost =>
      -- the job is claimed even when the worker does not learn of it
      have hclaim : DatabaseStep S.config.maxRecoveries
          (RunnersEvent.jobOp? S s (.claim owner now locked tie lost)) s.db
          (s.claimed S owner now locked tie).2 :=
        .inr ⟨_, rfl, rfl⟩
      simp only [step] at h
      split at h
      · split at h
        · obtain rfl := Option.some.inj h
          exact hclaim
        · obtain rfl := Option.some.inj h
          exact hclaim
      · cases h
  | call owner answer =>
      simp only [step] at h
      split at h
      · rename_i job context op next hw
        obtain rfl := Option.some.inj h
        simp only [RunnersEvent.jobOp?, hw, Program.next?, Option.bind_some]
        exact op.databaseStep S.config.maxRecoveries answer { db := s.db, context }
      · cases h
  | finish owner results =>
      simp only [step] at h
      split at h
      · obtain rfl := Option.some.inj h
        exact .inl (.refl s.db)
      · cases h
  | heartbeat owner jobId now fault =>
      obtain rfl := Option.some.inj h
      exact .of_transaction (.heartbeat jobId owner now S.config.leaseDuration) rfl fault
  | other op answer =>
      simp only [step] at h
      split_ifs at h
      obtain rfl := Option.some.inj h
      exact op.call_databaseStep answer.fault answer.now

theorem step_jobsStep (h : step S s event = some s') (hk : Keyed WorkflowJob.id s.db.workflowJobs) :
    JobsStep S.config.maxRecoveries (event.jobOp? S s) s.db.workflowJobs s'.db.workflowJobs := by
  rcases step_databaseStep h with written | ⟨op, hop, hdb⟩
  · exact .inl written.jobs
  · exact .inr ⟨op, hop, hdb ▸ op.apply_queueStep S.config.maxRecoveries hk⟩

end Runners

/-! ## What a submission calls -/

namespace Submission

open Program

/-- The last call of a submission, and its answer. -/
def admission (S : WorkflowService) (r : Request) (nonce : Nonce) (now : Time) (id : String) :
    Task (Except SubmitError Submitted) := do
  match ← Task.store false (.admitWorkflowJob (newJob S r nonce now id) (newRun r now)
      (r.scenarios.map (pendingSession r now)) S.config.policy) with
  | .ok (job, created) => pure (.ok { job, created, workflowRevisionId := r.workflowRevisionId })
  | .error e => pure (.error (.store e))

/-- A revision of what a request executes. -/
structure Revises (v : Request) (revision : WorkflowRevision) : Prop where
  projectId : revision.projectId = v.projectId
  workflowId : revision.workflowId = v.workflowId
  snapshot : ∃ workflow scenarios, revision.snapshot = executedSnapshot v workflow scenarios

/-- The revision that a call has stored when it is answered. -/
def recordedBy : (op : Op) → Reply op → Option WorkflowRevision
  | .store _ (.createWorkflowRevision revision), .ok _ => some revision
  | _, _ => none

/-- A submission of a valid request, which has stored some revisions, either finds a job or ends
    with the admission of one under a revision of the request among them. -/
def Submits (S : WorkflowService) (v : Request) :
    Task (Except SubmitError Submitted) → List WorkflowRevision → Prop
  | .done result, _ => ∀ r, result = .ok r → r.created = false
  | .call op next, recorded =>
    (op.jobOp? 0 = none ∧
      ∀ reply, Submits S v (next reply) (recorded ++ (recordedBy op reply).toList)) ∨
    ∃ revision ∈ recorded, Revises v revision ∧ ∃ nonce now id, Program.call op next
      = admission S { v with workflowRevisionId := revision.id } nonce now id

variable {S : WorkflowService} {v : Request} {recorded : List WorkflowRevision}

theorem Submits.bind {α : Type} {p : Task α} {f : α → Task (Except SubmitError Submitted)}
    (hp : p.Uses fun op => op.jobOp? 0 = none)
    (hf : ∀ a recorded', recorded ⊆ recorded' → Submits S v (f a) recorded') :
    Submits S v (p >>= f) recorded := by
  induction p generalizing recorded with
  | done a => exact hf a recorded (List.Subset.refl _)
  | call op next ih =>
      refine .inl ⟨hp.1, fun reply => ih reply (hp.2 reply) fun a recorded' hmore => ?_⟩
      exact hf a recorded' fun r hr => hmore (List.mem_append_left _ hr)

theorem submits_error (e : SubmitError) : Submits S v (pure (.error e)) recorded :=
  fun _ h => by cases h

theorem ensureWorkflow_uses (r : Request) (now : Time) :
    (ensureWorkflow r now).Uses fun op => op.jobOp? 0 = none := by
  refine Uses.bind (Uses.perform rfl) fun reply => ?_
  cases reply with
  | ok workflow =>
      dsimp only
      split_ifs <;> exact Uses.pure _
  | error e =>
      refine Uses.bind (Uses.perform rfl) fun reply => ?_
      cases reply <;> exact Uses.pure _

theorem ensureScenario_uses (r : Request) (s : RunScenario) (now : Time) :
    (ensureScenario r s now).Uses fun op => op.jobOp? 0 = none := by
  refine Uses.bind (Uses.perform rfl) fun reply => ?_
  cases reply with
  | ok persisted => exact Uses.pure _
  | error e =>
      refine Uses.bind (Uses.perform rfl) fun reply => ?_
      cases reply <;> exact Uses.pure _

theorem ensureScenarios_uses (r : Request) (now : Time) (scenarios : List RunScenario) :
    (ensureScenarios r now scenarios).Uses fun op => op.jobOp? 0 = none := by
  induction scenarios with
  | nil => exact Uses.pure _
  | cons s rest ih =>
      refine Uses.bind (ensureScenario_uses r s now) fun persisted => ?_
      cases persisted with
      | error e => exact Uses.pure _
      | ok persisted =>
          dsimp only
          split_ifs
          · exact Uses.pure _
          · refine Uses.bind ih fun scenarios => ?_
            cases scenarios <;> exact Uses.pure _

theorem ensureWorkflowGraphForRun_uses (r : Request) :
    (ensureWorkflowGraphForRun r).Uses fun op => op.jobOp? 0 = none := by
  refine Uses.bind (Uses.perform rfl) fun now => ?_
  refine Uses.bind (ensureWorkflow_uses r now) fun workflow => ?_
  cases workflow with
  | error e => exact Uses.pure _
  | ok workflow =>
      refine Uses.bind (ensureScenarios_uses r now r.scenarios) fun scenarios => ?_
      cases scenarios <;> exact Uses.pure _

/-- What follows `createRevision` knows that the revision is stored, or that it failed. -/
theorem createRevision_submits {workflow : Workflow} {scenarios : List Scenario}
    {f : Except SubmitError String → Task (Except SubmitError Submitted)}
    (hok : ∀ recorded id, (∃ revision ∈ recorded, Revises v revision ∧ revision.id = id) →
      Submits S v (f (.ok id)) recorded)
    (herror : ∀ e recorded, Submits S v (f (.error e)) recorded) :
    Submits S v (createRevision v workflow scenarios >>= f) recorded := by
  refine .inl ⟨rfl, fun id => .inl ⟨rfl, fun now => .inl ⟨rfl, fun reply => ?_⟩⟩⟩
  cases reply with
  | ok _ =>
      exact hok _ id ⟨_, List.mem_append_right _ (List.mem_singleton_self _),
        ⟨rfl, rfl, workflow, scenarios, rfl⟩, rfl⟩
  | error e => exact herror _ _

theorem admitRequest_submits {revision : WorkflowRevision} (hmem : revision ∈ recorded)
    (hrevises : Revises v revision) :
    Submits S v (admitRequest S { v with workflowRevisionId := revision.id }) recorded := by
  refine Submits.bind (Uses.perform rfl) fun nonce recorded₁ h₁ => ?_
  refine Submits.bind (Uses.perform rfl) fun now recorded₂ h₂ => ?_
  refine Submits.bind (Uses.perform rfl) fun id recorded₃ h₃ => ?_
  exact .inr ⟨revision, h₃ (h₂ (h₁ hmem)), hrevises, nonce, now, id, rfl⟩

theorem matchExisting_created {r : Request} {existing : WorkflowJob} {result : Submitted}
    (h : matchExisting S r existing = .ok result) : result.created = false := by
  unfold matchExisting at h
  split at h
  · cases h
  · split_ifs at h
    rw [← Except.ok.inj h]

/-- **A submission of a valid request.** -/
theorem submit_submits {request : Request} (h : request.validate = .ok v) :
    Submits S v (S.submit request) [] := by
  unfold WorkflowService.submit
  rw [h]
  refine Submits.bind (Uses.perform rfl) fun reply _ _ => ?_
  cases reply with
  | ok existing => exact fun result hresult => matchExisting_created hresult
  | error e =>
      refine Submits.bind (ensureWorkflowGraphForRun_uses v) fun graph _ _ => ?_
      cases graph with
      | error e => exact submits_error e
      | ok graph =>
          refine createRevision_submits (fun recorded id hrevision => ?_) fun e _ => submits_error e
          obtain ⟨revision, hmem, hrevises, rfl⟩ := hrevision
          exact admitRequest_submits hmem hrevises

/-- The operations of the queue that a submission may be. -/
def Admits : Op → Prop
  | .store _ (.admitWorkflowJob _ _ _ _) => True
  | op => op.jobOp? 0 = none

theorem Submits.uses {task : Task (Except SubmitError Submitted)}
    (h : Submits S v task recorded) : task.Uses Admits := by
  induction task generalizing recorded with
  | done result => trivial
  | call op next ih =>
      rcases h with ⟨hplain, hnext⟩ | ⟨revision, -, -, nonce, now, id, hcall⟩
      · refine ⟨?_, fun reply => ih reply (hnext reply)⟩
        unfold Admits
        split
        · trivial
        · exact hplain
      · rw [hcall]
        refine Uses.bind (Uses.perform trivial) fun reply => ?_
        cases reply <;> exact Uses.pure _

/-- Whatever is submitted. -/
theorem submit_uses (request : Request) : (S.submit request).Uses Admits := by
  cases h : request.validate with
  | ok v => exact (submit_submits h).uses
  | error e =>
      unfold WorkflowService.submit
      rw [h]
      exact Uses.pure _

end Submission

/-! ## Submissions, claims and executions -/

namespace Runners

variable {S : WorkflowService} {s s' : Runners} {event : RunnersEvent}

/-- What a step does to the submissions: nothing, one begins, or the call of one is answered. -/
theorem step_submissions (h : step S s event = some s') :
    s'.submissions = s.submissions ∨
      (∃ request, s' = { s with submissions := s.submissions ++ [(request, S.submit request)] }) ∨
      ∃ i request op next answer, s.submissions[i]? = some (request, .call op next) ∧
        s' = { s with
          db := (handle op answer { db := s.db }).2.db
          submissions := s.submissions.set i
            (request, next (handle op answer { db := s.db }).1) } := by
  cases event with
  | submit request =>
      obtain rfl := Option.some.inj h
      exact .inr (.inl ⟨request, rfl⟩)
  | submission i answer =>
      simp only [Runners.step] at h
      split at h
      · rename_i request op next hi
        obtain rfl := Option.some.inj h
        exact .inr (.inr ⟨i, request, op, next, answer, hi, rfl⟩)
      · cases h
  | claim owner now locked tie lost =>
      simp only [Runners.step] at h
      split at h
      · split at h
        · obtain rfl := Option.some.inj h
          exact .inl rfl
        · obtain rfl := Option.some.inj h
          exact .inl rfl
      · cases h
  | call owner answer =>
      simp only [Runners.step] at h
      split at h
      · obtain rfl := Option.some.inj h
        exact .inl rfl
      · cases h
  | finish owner results =>
      simp only [Runners.step] at h
      split at h
      · obtain rfl := Option.some.inj h
        exact .inl rfl
      · cases h
  | other op answer =>
      simp only [Runners.step] at h
      split_ifs at h
      obtain rfl := Option.some.inj h
      exact .inl rfl
  | cancel | heartbeat | shutdown | crash =>
      obtain rfl := Option.some.inj h
      exact .inl rfl

/-- The job that a claim returns is the row it leaves. -/
theorem claimed_mem (hk : Keyed WorkflowJob.id s.db.workflowJobs) {owner : String} {now : Time}
    {locked : List String} {tie : Nat} {job : WorkflowJob}
    (h : (s.claimed S owner now locked tie).1 = some job) :
    job ∈ (s.claimed S owner now locked tie).2.workflowJobs ∧
      (job.status = .running ∨ job.status = .failed) := by
  rcases Database.claimWorkflowJob_spec hk owner now S.config.leaseDuration S.config.maxRecoveries
    S.config.policy true locked tie with hnone | ⟨j, hj, -, j', row, hclaim⟩
  · unfold claimed at h
    rw [hnone] at h
    cases h
  · unfold claimed at h ⊢
    rw [hclaim] at h ⊢
    obtain rfl := Option.some.inj h
    refine ⟨mem_replace_self hj row.id_eq.symm, ?_⟩
    cases row with
    | claimed | recovered => exact .inl rfl
    | exhausted => exact .inr rfl

/-- What is executed after a step: at most a job whose cancellation was not requested. -/
theorem step_executions (h : step S s event = some s')
    (hk : Keyed WorkflowJob.id s.db.workflowJobs) :
    s'.executions = s.executions ∨ ∃ owner job, s'.executions = s.executions ++ [(owner, job)] ∧
      job ∈ s'.db.workflowJobs ∧ job.status = .running ∧ job.cancelRequestedAt = none := by
  cases event with
  | submission i answer =>
      simp only [Runners.step] at h
      split at h
      · obtain rfl := Option.some.inj h
        exact .inl rfl
      · cases h
  | claim owner now locked tie lost =>
      simp only [Runners.step] at h
      split at h
      · split at h
        · obtain rfl := Option.some.inj h
          exact .inl rfl
        · rename_i job hjob
          obtain rfl := Option.some.inj h
          -- an execution begins with a claim whose answer arrives
          have hclaimed : (s.claimed S owner now locked tie).1 = some job := by
            cases lost <;> simp_all
          obtain ⟨hmem, hstatus⟩ := claimed_mem hk hclaimed
          cases hexec : Execution.executes job with
          | false => exact .inl (by simp [began, hexec, setWorker])
          | true =>
              simp only [Execution.executes, Bool.and_eq_true, decide_eq_true_eq,
                Option.isNone_iff_eq_none] at hexec
              exact .inr ⟨owner, job, by simp [began, Execution.executes, hexec, setWorker], hmem,
                hstatus.resolve_right hexec.1, hexec.2⟩
      · cases h
  | call owner answer =>
      simp only [Runners.step] at h
      split at h
      · obtain rfl := Option.some.inj h
        exact .inl rfl
      · cases h
  | finish owner results =>
      simp only [Runners.step] at h
      split at h
      · obtain rfl := Option.some.inj h
        exact .inl rfl
      · cases h
  | other op answer =>
      simp only [Runners.step] at h
      split_ifs at h
      obtain rfl := Option.some.inj h
      exact .inl rfl
  | submit | cancel | heartbeat | shutdown | crash =>
      obtain rfl := Option.some.inj h
      exact .inl rfl

/-- The runs of the workers. -/
abbrev Run (S : WorkflowService) : Runners → List RunnersEvent → Runners → Prop :=
  Trace.Steps fun s event s' => step S s event = some s'

end Runners

end TokyoTester
