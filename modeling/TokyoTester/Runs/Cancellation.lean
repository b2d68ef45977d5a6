import TokyoTester.Runs.Workers

set_option autoImplicit false

/-! # An accepted cancellation is final

A worker gives up its job or ends it under its own name, and ends it as cancelled only when it knows
that this was requested: from the row that it claimed, or from a heartbeat that cancelled its
context. What it knows stays true, because a request is never taken back and only the worker itself
can claim a job for itself. So every operation on a job is justified, and a job ends as cancelled if
and only if that was requested. -/

namespace TokyoTester

open Table

/-! ## What is known of a job -/

namespace Database

variable (db : Database)

/-- A cancellation of the job was requested. -/
def Requested (jobId : String) : Prop :=
  ∃ j ∈ db.workflowJobs, j.id = jobId ∧ j.cancelRequestedAt ≠ none

/-- No cancellation was requested while the worker has the job as a running one. -/
def Undisturbed (owner jobId : String) : Prop :=
  ∀ j ∈ db.workflowJobs, ownedRunning jobId owner j = true → j.cancelRequestedAt = none

end Database

/-- The job of a worker ends as its cancellation demands. -/
def JobOp.Justified (db : Database) : JobOp → Prop
  | .complete jobId ownerId _ => db.Undisturbed ownerId jobId
  | .fail jobId ownerId _ _ => db.Undisturbed ownerId jobId
  | .release jobId ownerId _ => db.Undisturbed ownerId jobId
  | .cancel jobId _ _ => db.Requested jobId
  | _ => True

/-- A job that does not run is cancelled, or about to be, if and only if that was requested. -/
def WorkflowJob.Settled (j : WorkflowJob) : Prop :=
  j.status ≠ .running →
    (j.status = .cancelling ∨ j.status = .cancelled ↔ j.cancelRequestedAt ≠ none)

section Jobs

variable {maxRecoveries : Int} {db db' : Database} {op : JobOp} {j j' : WorkflowJob}

theorem JobTransition.cancelRequestedAt (h : JobTransition maxRecoveries op j j')
    (hj : j.cancelRequestedAt ≠ none) : j'.cancelRequestedAt ≠ none := by
  cases h with
  | requestedPending | requestedRunning => simp [Database.cancelRequestedRow]
  | claimed | recovered | exhausted | heartbeat | cancelled | released | completed | failed =>
      exact hj

theorem JobTransition.settled (h : JobTransition maxRecoveries op j j')
    (hk : Keyed WorkflowJob.id db.workflowJobs) (mem : j ∈ db.workflowJobs)
    (hop : op.Justified db) : j'.Settled := by
  have howned {jobId owner : String} (hop : db.Undisturbed owner jobId)
      (owned : Database.ownedRunning jobId owner j = true) : j.cancelRequestedAt = none :=
    hop j mem owned
  cases h with
  | claimed | recovered => exact fun hrunning => absurd rfl hrunning
  | heartbeat owned => exact fun hrunning => absurd (Database.ownedRunning_status owned) hrunning
  | requestedPending | requestedRunning =>
      simp [WorkflowJob.Settled, Database.cancelRequestedRow]
  | exhausted expired notRequested =>
      simp [WorkflowJob.Settled, Database.exhaustedRow, notRequested]
  | released owned => simp [WorkflowJob.Settled, Database.releasedRow, howned hop owned]
  | completed owned => simp [WorkflowJob.Settled, Database.completedRow, howned hop owned]
  | failed owned => simp [WorkflowJob.Settled, Database.failedRow, howned hop owned]
  | cancelled id =>
      obtain ⟨k, hk', hid, hreq⟩ := hop
      obtain rfl := hk.eq_of_key hk' mem (hid.trans id.symm)
      simp [WorkflowJob.Settled, Database.cancelledRow, hreq]

/-- Whose claim an operation is. -/
def JobOp.ClaimsFor (owner : String) : JobOp → Prop
  | .claim ownerId _ _ _ _ _ _ => ownerId = owner
  | _ => False

/-- Who does not claim does not get a running job. -/
theorem JobTransition.ownedRunning (h : JobTransition maxRecoveries op j j') {owner jobId : String}
    (hop : ¬ op.ClaimsFor owner) (h' : Database.ownedRunning jobId owner j' = true) :
    Database.ownedRunning jobId owner j = true ∧ j'.cancelRequestedAt = j.cancelRequestedAt := by
  have hstatus := Database.ownedRunning_status h'
  have howner := Database.ownedRunning_owner h'
  cases h with
  | claimed | recovered => exact absurd (Option.some.inj howner) hop
  | requestedPending | requestedRunning | exhausted | cancelled | released | completed
  | failed => cases hstatus
  | heartbeat => exact ⟨h', rfl⟩

theorem QueueStep.requested (h : QueueStep maxRecoveries op db.workflowJobs db'.workflowJobs)
    (hk : Keyed WorkflowJob.id db.workflowJobs) {jobId : String} (hreq : db.Requested jobId) :
    db'.Requested jobId := by
  obtain ⟨j, hj, hid, hj'⟩ := hreq
  generalize hjobs : db'.workflowJobs = t at h
  cases h with
  | same => exact ⟨j, hjobs ▸ hj, hid, hj'⟩
  | @replaced k k' mem row =>
      by_cases hkey : j.id = k'.id
      · obtain rfl := hk.eq_of_key hj mem (hkey.trans row.id_eq)
        exact ⟨k', hjobs ▸ mem_replace_self hj hkey, hkey ▸ hid, row.cancelRequestedAt hj'⟩
      · exact ⟨j, hjobs ▸ mem_replace_of_ne hj hkey, hid, hj'⟩
  | admitted call newId newRun => exact ⟨j, hjobs ▸ List.mem_append_left _ hj, hid, hj'⟩

theorem QueueStep.undisturbed (h : QueueStep maxRecoveries op db.workflowJobs db'.workflowJobs)
    {owner jobId : String} (hop : ¬ op.ClaimsFor owner) (hund : db.Undisturbed owner jobId) :
    db'.Undisturbed owner jobId := by
  intro j hj howned
  generalize hjobs : db'.workflowJobs = t at h
  rw [hjobs] at hj
  cases h with
  | same => exact hund j hj howned
  | replaced mem row =>
      rcases mem_replace hj with rfl | ⟨hj, -⟩
      · obtain ⟨howned', hsame⟩ := row.ownedRunning hop howned
        exact hsame.trans (hund _ mem howned')
      · exact hund j hj howned
  | admitted call newId newRun =>
      rcases List.mem_append.1 hj with hj | hj
      · exact hund j hj howned
      · obtain rfl := List.mem_singleton.1 hj
        cases Database.ownedRunning_status howned

theorem QueueStep.settled (h : QueueStep maxRecoveries op db.workflowJobs db'.workflowJobs)
    (hk : Keyed WorkflowJob.id db.workflowJobs) (hop : op.Justified db)
    (hsettled : ∀ j ∈ db.workflowJobs, j.Settled) : ∀ j ∈ db'.workflowJobs, j.Settled := by
  intro j hj
  generalize hjobs : db'.workflowJobs = t at h
  rw [hjobs] at hj
  cases h with
  | same => exact hsettled j hj
  | replaced mem row =>
      rcases mem_replace hj with rfl | ⟨hj, -⟩
      · exact row.settled hk mem hop
      · exact hsettled j hj
  | admitted call newId newRun =>
      rcases List.mem_append.1 hj with hj | hj
      · exact hsettled j hj
      · obtain rfl := List.mem_singleton.1 hj
        simp [WorkflowJob.Settled, Database.admittedRow]

end Jobs

/-! ## What a worker calls -/

/-- The calls that a worker may make for its job: it gives it up or ends it when it was told to
    execute it, and cancels it when it knows that this was requested. -/
def Op.Allowed (owner jobId : String) (executing requested : Prop) : Op → Prop
  | .store _ (.admitWorkflowJob _ _ _ _) => False
  | .store _ (.completeWorkflowJob id ownerId _) => id = jobId ∧ ownerId = owner ∧ executing
  | .store _ (.failWorkflowJob id ownerId _ _) => id = jobId ∧ ownerId = owner ∧ executing
  | .store _ (.releaseWorkflowJob id ownerId _) => id = jobId ∧ ownerId = owner ∧ executing
  | .store _ (.cancelWorkflowJob id ownerId _) => id = jobId ∧ ownerId = owner ∧ requested
  | _ => True

/-- The reply that tells a worker of the cancellation of its job. -/
def Op.Tells : (op : Op) → Reply op → Prop
  | .contextCause, reply => reply = some .cancellationRequested
  | _, _ => False

namespace Task

/-- Every call is allowed, given what the replies before it have told; scenarios run only in an
    execution. -/
def Dutiful (owner jobId : String) (executing : Prop) : Prop → Task (Option Request) → Prop
  | _, .done request => request ≠ none → executing
  | requested, .call op next => op.Allowed owner jobId executing requested ∧
      ∀ reply, Dutiful owner jobId executing (requested ∨ op.Tells reply) (next reply)

variable {owner jobId : String} {executing requested : Prop} {task : Task (Option Request)}

theorem Dutiful.mono {requested' : Prop} (h : Dutiful owner jobId executing requested task)
    (hreq : requested → requested') : Dutiful owner jobId executing requested' task := by
  induction task generalizing requested requested' with
  | done request => exact h
  | call op next ih =>
      refine ⟨?_, fun reply => ih reply (h.2 reply) (Or.imp_left hreq)⟩
      have hallowed := h.1
      revert hallowed
      unfold Op.Allowed
      split <;> simp_all

theorem Dutiful.next {op : Op} (h : Dutiful owner jobId executing requested task)
    (hop : task.next? = some op) : op.Allowed owner jobId executing requested := by
  cases task with
  | done request => cases hop
  | call op' next => exact Option.some.inj hop ▸ h.1

/-- A part that does not need to know of a cancellation. -/
theorem Dutiful.bind {α : Type} {p : Task α} {f : α → Task (Option Request)}
    (hp : p.Uses (Op.Allowed owner jobId executing requested))
    (hf : ∀ a, Dutiful owner jobId executing requested (f a)) :
    Dutiful owner jobId executing requested (p >>= f) := by
  induction p with
  | done a => exact hf a
  | call op next ih => exact ⟨hp.1, fun reply => (ih reply (hp.2 reply)).mono Or.inl⟩

end Task

namespace Execution

open Program

variable {owner jobId : String} {executing requested : Prop}

/-- Calls that leave the queue alone. -/
theorem uses_plain {op : Op} (h : op.jobOp? 0 = none) :
    (perform op : Task (Reply op)).Uses (Op.Allowed owner jobId executing requested) := by
  refine Uses.perform ?_
  cases op with
  | store detached call =>
      cases call with
      | admitWorkflowJob | cancelWorkflowJob | releaseWorkflowJob | completeWorkflowJob
      | failWorkflowJob => cases h
      | _ => trivial
  | contextCause | now | newId | nonce | wait | acquireSlot | cleanResources | provisionServices
  | runTest | deleteSession | startHeartbeat | stopHeartbeat => trivial

theorem emitLog_allowed (request : Request) (message status : String)
    (scenario : Option RunScenario) (result : Option (Except String Json)) :
    (emitLog request message status scenario result).Uses
      (Op.Allowed owner jobId executing requested) := by
  refine Uses.bind (uses_plain rfl) fun now => ?_
  exact Uses.bind (uses_plain rfl) fun _ => Uses.pure ()

theorem updateRun_allowed (request : Request) (status : ExecutionStatus) (result : Option Json)
    (message : String) :
    (updateRun request status result message).Uses
      (Op.Allowed owner jobId executing requested) := by
  refine Uses.bind (uses_plain rfl) fun r => ?_
  cases r with
  | error e => exact Uses.pure _
  | ok run =>
      refine Uses.bind (uses_plain rfl) fun now => ?_
      refine Uses.bind (uses_plain rfl) fun r => ?_
      cases r <;> exact Uses.pure _

theorem failRun_allowed (job : WorkflowJob) (now : Time) (error message : String)
    (diagnostic : Diagnostic) :
    (failRun job now error message diagnostic).Uses
      (Op.Allowed owner jobId executing requested) := by
  refine Uses.bind (uses_plain rfl) fun r => ?_
  cases r with
  | error e =>
      refine Uses.bind (uses_plain rfl) fun _ => ?_
      exact Uses.bind (uses_plain rfl) fun _ => Uses.pure _
  | ok run =>
      refine Uses.bind (uses_plain rfl) fun _ => ?_
      refine Uses.bind (uses_plain rfl) fun _ => ?_
      exact Uses.bind (uses_plain rfl) fun _ => Uses.pure _

theorem failJob_allowed (job : WorkflowJob) (error : String) (hexec : executing) :
    (failJob owner job error).Uses (Op.Allowed owner job.id executing requested) := by
  refine Uses.bind (uses_plain rfl) fun now => ?_
  refine Uses.bind (Uses.perform ⟨rfl, rfl, hexec⟩) fun _ => ?_
  exact failRun_allowed job now _ _ _

theorem startJob_dutiful (S : WorkflowService) (owner : String) (job : WorkflowJob)
    (hexec : executing) : Task.Dutiful owner job.id executing requested (startJob S owner job) := by
  have hfail (message : String) :
      Task.Dutiful owner job.id executing requested (do
        failJob owner job message
        pure none) :=
    .bind (failJob_allowed job message hexec) fun _ hnone => absurd rfl hnone
  unfold startJob
  match S.decodeJob job with
  | .error .panicked => exact fun hnone => absurd rfl hnone
  | .error (.text message) => exact hfail message
  | .ok request =>
      dsimp only
      cases request.bundle with
      | error message => exact hfail message
      | ok bundle =>
          refine .bind ?_ fun started => ?_
          · refine Uses.bind (updateRun_allowed _ _ _ _) fun r => ?_
            cases r with
            | some e => exact Uses.bind (failJob_allowed job _ hexec) fun _ => Uses.pure _
            | none => exact Uses.bind (emitLog_allowed _ _ _ _ _) fun _ => Uses.pure _
          · cases started with
            | false => exact fun hnone => absurd rfl hnone
            | true => exact fun _ => hexec

/-- **A worker that has claimed a job**: it cancels the job when it was claimed for that. -/
theorem workJob_dutiful (S : WorkflowService) (owner : String) (job : WorkflowJob) :
    Task.Dutiful owner job.id (executes job = true) (job.cancelRequestedAt ≠ none)
      (workJob S owner job) := by
  unfold workJob
  split_ifs with hfailed hreq
  · exact .bind (Uses.bind (uses_plain rfl) fun now => failRun_allowed job now _ _ _)
      fun _ hnone => absurd rfl hnone
  · have hreq' : job.cancelRequestedAt ≠ none := Option.isSome_iff_ne_none.1 hreq
    refine .bind (Uses.bind (uses_plain rfl) fun now => ?_) fun _ hnone => absurd rfl hnone
    exact Uses.bind (Uses.perform ⟨rfl, rfl, hreq'⟩) fun _ => Uses.pure _
  · have hnone : job.cancelRequestedAt = none := Option.not_isSome_iff_eq_none.1 hreq
    exact startJob_dutiful S owner job (by simp [executes, hfailed, hnone])

/-- **The end of an execution**: the cause of its context tells whether to cancel the job. -/
theorem finishJob_dutiful (owner : String) (job : WorkflowJob) (request : Request)
    (results : List ScenarioResponse) :
    Task.Dutiful owner job.id True False (do
      finishJob owner job request results
      pure none) := by
  refine ⟨trivial, fun cause => ?_⟩
  have hend {p : Task Unit} {requested : Prop}
      (hp : p.Uses (Op.Allowed owner job.id True requested)) :
      Task.Dutiful owner job.id True requested (p >>= fun _ => pure none) :=
    .bind hp fun _ hnone => absurd rfl hnone
  have hrelease : Task.Dutiful owner job.id True (False ∨ Op.contextCause.Tells cause) ((do
      let now ← Task.now
      let _ ← Task.store true (.releaseWorkflowJob job.id owner now) : Task Unit) >>= fun _ =>
      pure none) := by
    refine hend (Uses.bind (uses_plain rfl) fun now => ?_)
    exact Uses.bind (Uses.perform ⟨rfl, rfl, trivial⟩) fun _ => Uses.pure _
  match cause with
  | some .cancellationRequested =>
      refine hend (p := do
        let now ← Task.now
        let _ ← Task.store true (.cancelWorkflowJob job.id owner now)) ?_
      refine Uses.bind (uses_plain rfl) fun now => ?_
      exact Uses.bind (Uses.perform ⟨rfl, rfl, .inr rfl⟩) fun _ => Uses.pure _
  | some (.leaseLost message) => exact hrelease
  | some .shutdown => exact hrelease
  | none =>
      refine hend (p := completeJob owner job request results) ?_
      refine Uses.bind (updateRun_allowed _ _ _ _) fun r => ?_
      cases r with
      | some e => exact failJob_allowed job _ trivial
      | none =>
          refine Uses.bind (emitLog_allowed _ _ _ _ _) fun _ => ?_
          refine Uses.bind (uses_plain rfl) fun now => ?_
          exact Uses.bind (Uses.perform ⟨rfl, rfl, trivial⟩) fun _ => Uses.pure _

end Execution

/-! ## The invariant -/

namespace Worker

/-- What a worker knows is true. -/
def Sound (owner : String) (db : Database) : Worker → Prop
  | idle => True
  | busy job context task =>
    (context = .cancelled .cancellationRequested → db.Requested job.id) ∧
      ∃ executing requested, Task.Dutiful owner job.id executing requested task ∧
        (executing → db.Undisturbed owner job.id) ∧ (requested → db.Requested job.id)
  | waiting job context _ =>
    (context = .cancelled .cancellationRequested → db.Requested job.id) ∧
      db.Undisturbed owner job.id

variable {owner : String} {db db' : Database} {w : Worker}

/-- What happens to the job table leaves a worker's knowledge true. -/
theorem Sound.stable (h : w.Sound owner db)
    (hreq : ∀ jobId, db.Requested jobId → db'.Requested jobId)
    (hund : w ≠ .idle → ∀ jobId, db.Undisturbed owner jobId → db'.Undisturbed owner jobId) :
    w.Sound owner db' := by
  cases w with
  | idle => trivial
  | busy job context task =>
      obtain ⟨hcontext, executing, requested, htask, hexec, hknown⟩ := h
      exact ⟨fun hc => hreq _ (hcontext hc), executing, requested, htask,
        fun he => hund (by simp) _ (hexec he), fun hr => hreq _ (hknown hr)⟩
  | waiting job context request =>
      exact ⟨fun hc => hreq _ (h.1 hc), hund (by simp) _ h.2⟩

/-- A worker that goes on with what it has to do. -/
theorem sound_continuing {job : WorkflowJob} {context : Context} {executing requested : Prop}
    {task : Task (Option Request)}
    (hcontext : context = .cancelled .cancellationRequested → db.Requested job.id)
    (htask : Task.Dutiful owner job.id executing requested task)
    (hexec : executing → db.Undisturbed owner job.id)
    (hreq : requested → db.Requested job.id) : (continuing job context task).Sound owner db := by
  match task, htask with
  | .done none, _ => trivial
  | .done (some request), hdone => exact ⟨hcontext, hexec (hdone (by simp))⟩
  | .call op next, hcall => exact ⟨hcontext, executing, requested, hcall, hexec, hreq⟩

theorem Sound.interrupt (h : w.Sound owner db) {cause : Cause}
    (hcause : cause = .cancellationRequested → ∀ job ∈ w.job?, db.Requested job.id) :
    (w.interrupt cause).Sound owner db := by
  cases w with
  | idle => trivial
  | busy job context task =>
      refine ⟨fun hc => ?_, h.2⟩
      cases context with
      | live => exact hcause (Context.cancelled.inj hc) job rfl
      | cancelled old => exact h.1 hc
  | waiting job context request =>
      refine ⟨fun hc => ?_, h.2⟩
      cases context with
      | live => exact hcause (Context.cancelled.inj hc) job rfl
      | cancelled old => exact h.1 hc

/-- A heartbeat tells the truth. -/
theorem Sound.beat (h : w.Sound owner db) {jobId : String} {reply : Except DbError Unit}
    (hreply : reply = .error .cancellationRequested → db.Requested jobId) :
    (w.beat jobId reply).Sound owner db := by
  unfold Worker.beat
  split_ifs with hjob
  · split
    · exact h
    · refine h.interrupt fun _ job hmem => ?_
      rw [Option.mem_def] at hmem
      rw [hmem, Option.any_some, decide_eq_true_eq] at hjob
      exact hjob ▸ hreply rfl
    · exact h.interrupt fun hcause => by cases hcause
  · exact h

end Worker

/-! ## The operations of threads -/

section Calls

variable {clock : Time} {owner jobId : String} {op : JobOp}

theorem StoreOp.not_claimsFor {call : StoreOp} (hop : op ∈ call.jobOp? clock) :
    ¬ op.ClaimsFor owner := by
  cases call with
  | admitWorkflowJob | cancelWorkflowJob | releaseWorkflowJob | completeWorkflowJob
  | failWorkflowJob =>
      obtain rfl := Option.some.inj hop
      exact id
  | _ => cases hop

theorem Op.not_claimsFor {call : Op} (hop : op ∈ call.jobOp? clock) : ¬ op.ClaimsFor owner := by
  cases call with
  | store detached call => exact StoreOp.not_claimsFor hop
  | _ => cases hop

/-- A submission admits jobs. -/
theorem Submission.Admits.admission {call : Op} (h : Submission.Admits call)
    (hop : op ∈ call.jobOp? clock) :
    ∃ job run sessions policy, op = .admission clock (some job) (some run) sessions policy := by
  cases call with
  | store detached call =>
      cases call with
      | admitWorkflowJob job run sessions policy =>
          exact ⟨job, run, sessions.map some, policy, (Option.some.inj hop).symm⟩
      | cancelWorkflowJob | releaseWorkflowJob | completeWorkflowJob | failWorkflowJob => cases h
      | _ => cases hop
  | _ => cases hop

/-- What a worker may do is justified when it knows the truth. -/
theorem Op.Allowed.justified {db : Database} {call : Op} {executing requested : Prop}
    (h : call.Allowed owner jobId executing requested) (hop : op ∈ call.jobOp? clock)
    (hexec : executing → db.Undisturbed owner jobId) (hreq : requested → db.Requested jobId) :
    op.Justified db := by
  cases call with
  | store detached call =>
      cases call with
      | admitWorkflowJob => cases h
      | cancelWorkflowJob =>
          obtain rfl := Option.some.inj hop
          obtain ⟨rfl, rfl, hr⟩ := h
          exact hreq hr
      | releaseWorkflowJob | completeWorkflowJob | failWorkflowJob =>
          obtain rfl := Option.some.inj hop
          obtain ⟨rfl, rfl, he⟩ := h
          exact hexec he
      | _ => cases hop
  | _ => cases hop

end Calls

namespace Runners

variable {S : WorkflowService} {s s' : Runners} {event : RunnersEvent}

/-- What holds in every run. -/
structure Invariant (s : Runners) : Prop where
  ids : Keyed WorkflowJob.id s.db.workflowJobs
  settled : ∀ j ∈ s.db.workflowJobs, j.Settled
  workers : ∀ owner, (s.workers owner).Sound owner s.db
  submissions : ∀ x ∈ s.submissions, x.2.Uses Submission.Admits

/-- **Every operation on a job is justified**: it is one that its worker may make. -/
theorem Invariant.justified (inv : Invariant s) (h : step S s event = some s') {op : JobOp}
    (hop : op ∈ event.jobOp? S s) : op.Justified s.db := by
  cases event with
  | submit | shutdown | crash | finish => cases hop
  | cancel | claim | heartbeat =>
      obtain rfl := Option.some.inj hop
      trivial
  | submission i answer =>
      obtain ⟨x, hx, hop⟩ := Option.bind_eq_some_iff.1 hop
      obtain ⟨call, hcall, hop⟩ := Option.bind_eq_some_iff.1 hop
      have huses := inv.submissions x (List.mem_of_getElem? hx)
      cases htask : x.2 with
      | done result =>
          rw [htask] at hcall
          cases hcall
      | call call' next =>
          rw [htask] at hcall huses
          obtain rfl := Option.some.inj hcall
          obtain ⟨job, run, sessions, policy, rfl⟩ := huses.1.admission hop
          trivial
  | call owner answer =>
      have hworker := inv.workers owner
      simp only [RunnersEvent.jobOp?] at hop
      split at hop
      · rename_i job context task hw
        obtain ⟨call, hcall, hop⟩ := Option.bind_eq_some_iff.1 hop
        rw [hw] at hworker
        obtain ⟨-, executing, requested, htask, hexec, hreq⟩ := hworker
        exact (htask.next hcall).justified hop hexec hreq
      · cases hop
  | other op answer =>
      simp only [step] at h
      simp only [RunnersEvent.jobOp?] at hop
      rw [Option.mem_def.1 hop] at h
      cases h

/-- Only a worker without a job claims one. -/
theorem step_claimsFor (h : step S s event = some s') {op : JobOp} (hop : op ∈ event.jobOp? S s)
    {owner : String} (hclaims : op.ClaimsFor owner) : s.workers owner = .idle := by
  cases event with
  | submit | shutdown | crash | finish => cases hop
  | cancel | heartbeat =>
      obtain rfl := Option.some.inj hop
      cases hclaims
  | claim claimer now locked tie lost =>
      obtain rfl := Option.some.inj hop
      obtain rfl : claimer = owner := hclaims
      simp only [step] at h
      split at h
      · assumption
      · cases h
  | submission i answer =>
      obtain ⟨x, -, hop⟩ := Option.bind_eq_some_iff.1 hop
      obtain ⟨call, -, hop⟩ := Option.bind_eq_some_iff.1 hop
      exact absurd hclaims (Op.not_claimsFor hop)
  | call worker answer =>
      simp only [RunnersEvent.jobOp?] at hop
      split at hop
      · obtain ⟨call, -, hop⟩ := Option.bind_eq_some_iff.1 hop
        exact absurd hclaims (Op.not_claimsFor hop)
      · cases hop
  | other op answer => exact absurd hclaims (StoreOp.not_claimsFor hop)

end Runners

namespace Runners

variable {S : WorkflowService} {s s' : Runners} {event : RunnersEvent}

theorem Invariant.step_ids (inv : Invariant s) (h : step S s event = some s') :
    Keyed WorkflowJob.id s'.db.workflowJobs := by
  rcases step_jobsStep h inv.ids with hsame | ⟨op, hop, hstep⟩
  · exact hsame ▸ inv.ids
  · exact hstep.ids inv.ids

theorem step_requested (inv : Invariant s) (h : step S s event = some s') {jobId : String}
    (hreq : s.db.Requested jobId) : s'.db.Requested jobId := by
  rcases step_jobsStep h inv.ids with hsame | ⟨op, hop, hstep⟩
  · unfold Database.Requested
    rwa [hsame]
  · exact hstep.requested inv.ids hreq

theorem step_undisturbed (inv : Invariant s) (h : step S s event = some s') {owner : String}
    (hbusy : s.workers owner ≠ .idle) {jobId : String} (hund : s.db.Undisturbed owner jobId) :
    s'.db.Undisturbed owner jobId := by
  rcases step_jobsStep h inv.ids with hsame | ⟨op, hop, hstep⟩
  · unfold Database.Undisturbed
    rwa [hsame]
  · exact hstep.undisturbed (fun hclaims => hbusy (step_claimsFor h hop hclaims)) hund

/-- What another worker knows stays true. -/
theorem Invariant.stable (inv : Invariant s) (h : step S s event = some s') (owner : String) :
    (s.workers owner).Sound owner s'.db :=
  (inv.workers owner).stable (fun _ => step_requested inv h)
    fun hbusy _ => step_undisturbed inv h hbusy

/-- A worker that takes part in a step, and the others. -/
theorem sound_update {owner : String} {w : Worker} {db : Database}
    (hothers : ∀ owner, (s.workers owner).Sound owner db) (hw : w.Sound owner db) :
    ∀ other, (Function.update s.workers owner w other).Sound other db := by
  intro other
  by_cases hother : other = owner
  · subst hother
    rwa [Function.update_self]
  · rw [Function.update_of_ne hother]
    exact hothers other

/-- A heartbeat that reports a cancellation is right. -/
theorem heartbeat_requested {db : Database} (hk : ∀ j ∈ db.workflowJobs, j.Settled)
    {jobId owner : String} {now leaseDuration : Time} {fault : Fault}
    (h : (fault.apply db (db.heartbeatWorkflowJob jobId owner now leaseDuration)).1
      = .error .cancellationRequested) : db.Requested jobId := by
  have herror : db.heartbeatWorkflowJob jobId owner now leaseDuration
      = .error .cancellationRequested := by
    cases hr : db.heartbeatWorkflowJob jobId owner now leaseDuration with
    | error e =>
        rw [hr] at h
        cases fault <;> simp_all [Fault.apply]
    | ok r =>
        rw [hr] at h
        cases fault <;> simp [Fault.apply] at h
  unfold Database.heartbeatWorkflowJob at herror
  dsimp only at herror
  split at herror
  · cases herror
  split at herror
  · rename_i j hfind
    have hj := List.find?_some hfind
    simp only [Bool.and_eq_true, decide_eq_true_eq] at hj
    refine ⟨j, List.mem_of_find?_eq_some hfind, hj.1, ?_⟩
    split at herror
    · rename_i hstatus
      rcases hstatus with hcancelling | hset
      · exact (hk j (List.mem_of_find?_eq_some hfind) (by simp [hcancelling])).1 (.inl hcancelling)
      · exact Option.isSome_iff_ne_none.1 hset
    · cases herror
  · cases herror

/-- A worker that begins with a job. -/
theorem sound_began {db : Database} (hk : Keyed WorkflowJob.id db.workflowJobs) {owner : String}
    {job : WorkflowJob} (hjob : job ∈ db.workflowJobs) :
    (Worker.continuing job .live (Execution.workJob S owner job)).Sound owner db := by
  refine Worker.sound_continuing (by simp) (Execution.workJob_dutiful S owner job) ?_ ?_
  · intro hexec j hj howned
    obtain rfl := hk.eq_of_key hj hjob (Database.ownedRunning_id howned)
    simp only [Execution.executes, Bool.and_eq_true, Option.isNone_iff_eq_none] at hexec
    exact hexec.2
  · exact fun hreq => ⟨job, hjob, rfl, hreq⟩

/-- The context of a thread stays as it is. -/
theorem handle_tells {op : Op} {answer : Answer} {t : ThreadState}
    (h : op.Tells (handle op answer t).1) : t.context = .cancelled .cancellationRequested := by
  cases op with
  | contextCause =>
      obtain ⟨db, context, beating⟩ := t
      cases context with
      | live => cases h
      | cancelled cause => exact congrArg _ (Option.some.inj h)
  | _ => exact h.elim

/-- **Every step keeps the workers' knowledge true.** -/
theorem Invariant.step_workers (inv : Invariant s) (h : step S s event = some s') :
    ∀ owner, (s'.workers owner).Sound owner s'.db := by
  -- every worker is sound in the new database; the event moves at most one of them
  have hothers := inv.stable h
  have hids : Keyed WorkflowJob.id s'.db.workflowJobs := inv.step_ids h
  have hrequested : ∀ jobId, s.db.Requested jobId → s'.db.Requested jobId :=
    fun _ => step_requested inv h
  have hundisturbed : ∀ owner, s.workers owner ≠ .idle → ∀ jobId,
      s.db.Undisturbed owner jobId → s'.db.Undisturbed owner jobId :=
    fun _ hbusy _ => step_undisturbed inv h hbusy
  cases event with
  | submit | cancel =>
      obtain rfl := Option.some.inj h
      exact hothers
  | submission i answer =>
      simp only [Runners.step] at h
      split at h
      · obtain rfl := Option.some.inj h
        exact hothers
      · cases h
  | claim owner now locked tie lost =>
      simp only [Runners.step] at h
      split at h
      · split at h
        · obtain rfl := Option.some.inj h
          exact hothers
        · rename_i job hjob
          obtain rfl := Option.some.inj h
          have hclaimed : (s.claimed S owner now locked tie).1 = some job := by
            cases lost <;> simp_all
          exact sound_update hothers (sound_began hids (claimed_mem inv.ids hclaimed).1)
      · cases h
  | call owner answer =>
      have hworker := inv.workers owner
      simp only [Runners.step] at h
      split at h
      · rename_i job context op next hw
        obtain rfl := Option.some.inj h
        rw [hw] at hworker
        obtain ⟨hcontext, executing, requested, htask, hexec, hreq⟩ := hworker
        have hbusy : s.workers owner ≠ .idle := by simp [hw]
        refine sound_update hothers (Worker.sound_continuing (fun hc => hrequested _ (hcontext hc))
          (htask.2 _) (fun he => hundisturbed owner hbusy _ (hexec he)) ?_)
        rintro (hr | htells)
        · exact hrequested _ (hreq hr)
        · exact hrequested _ (hcontext (handle_tells htells))
      · cases h
  | finish owner results =>
      have hworker := inv.workers owner
      simp only [Runners.step] at h
      split at h
      · rename_i job context request hw
        obtain rfl := Option.some.inj h
        rw [hw] at hworker
        exact sound_update hothers (Worker.sound_continuing hworker.1
          (Execution.finishJob_dutiful owner job request results) (fun _ => hworker.2)
          fun hfalse => hfalse.elim)
      · cases h
  | heartbeat owner jobId now fault =>
      obtain rfl := Option.some.inj h
      refine sound_update hothers ((hothers owner).beat fun hreply => ?_)
      exact hrequested jobId (heartbeat_requested inv.settled hreply)
  | shutdown owner =>
      obtain rfl := Option.some.inj h
      exact sound_update hothers ((hothers owner).interrupt fun hcause => by cases hcause)
  | crash owner =>
      obtain rfl := Option.some.inj h
      exact sound_update hothers trivial
  | other op answer =>
      simp only [Runners.step] at h
      split_ifs at h
      obtain rfl := Option.some.inj h
      exact hothers

/-- **Every step keeps the invariant.** -/
theorem Invariant.step (inv : Invariant s) (h : step S s event = some s') : Invariant s' := by
  refine ⟨inv.step_ids h, ?_, inv.step_workers h, ?_⟩
  · rcases step_jobsStep h inv.ids with hsame | ⟨op, hop, hstep⟩
    · exact hsame ▸ inv.settled
    · exact hstep.settled inv.ids (inv.justified h hop) inv.settled
  · intro x hx
    rcases step_submissions h with hsame | ⟨request, rfl⟩ |
      ⟨i, request, op, next, answer, hi, rfl⟩
    · exact inv.submissions x (hsame ▸ hx)
    · rcases List.mem_append.1 hx with hx | hx
      · exact inv.submissions x hx
      · rw [List.mem_singleton.1 hx]
        exact Submission.submit_uses request
    · rcases List.mem_or_eq_of_mem_set hx with hx | rfl
      · exact inv.submissions x hx
      · exact (inv.submissions _ (List.mem_of_getElem? hi)).2 _

/-! ## Runs -/

theorem Run.invariant {events : List RunnersEvent} (run : Run S s events s') (inv : Invariant s) :
    Invariant s' :=
  Trace.Steps.invariant Invariant run (fun h inv => inv.step h) inv

/-- The executions of a job, in their order. -/
def executionsOf (s : Runners) (jobId : String) : List (String × WorkflowJob) :=
  s.executions.filter fun e => e.2.id = jobId

/-- A job whose cancellation was requested is not executed any more. -/
theorem step_executionsOf (inv : Invariant s) (h : step S s event = some s') {jobId : String}
    (hreq : s.db.Requested jobId) : s'.executionsOf jobId = s.executionsOf jobId := by
  have inv' := inv.step h
  rcases step_executions h inv.ids with hsame | ⟨owner, job, hmore, hjob, -, hnone⟩
  · unfold executionsOf
    rw [hsame]
  · obtain ⟨j, hj, hid, hj'⟩ := step_requested inv h hreq
    have hne : job.id ≠ jobId := by
      intro hsame
      obtain rfl := inv'.ids.eq_of_key hjob hj (hsame.trans hid.symm)
      exact hj' hnone
    unfold executionsOf
    rw [hmore, List.filter_append, List.filter_singleton]
    simp [hne]

/-- **A cancellation is final.** Workers claim and execute jobs, heartbeat, crash, come back and
    shut down in any order, with submissions, cancellations and the writes of scenarios in between.
    A job that ends is cancelled if and only if that was requested. Once it was, it stays so: the
    job is and remains cancelled, about to be cancelled, or claimed by a worker to that end, and no
    worker executes it again. -/
theorem cancellation_final (S : WorkflowService) (db : Database)
    (hids : Keyed WorkflowJob.id db.workflowJobs) (hsettled : ∀ j ∈ db.workflowJobs, j.Settled)
    (events later : List RunnersEvent) (s s' : Runners) (run : Run S { db } events s)
    (run' : Run S s later s') :
    ∀ j ∈ s.db.workflowJobs,
      (j.status.terminal = true → (j.status = .cancelled ↔ j.cancelRequestedAt ≠ none)) ∧
      (j.cancelRequestedAt ≠ none →
        (∃ j' ∈ s'.db.workflowJobs, j'.id = j.id ∧ j'.cancelRequestedAt ≠ none ∧
          (j'.status = .running ∨ j'.status = .cancelling ∨ j'.status = .cancelled)) ∧
        s'.executionsOf j.id = s.executionsOf j.id) := by
  have inv : Invariant s := run.invariant ⟨hids, hsettled, fun _ => trivial, by simp⟩
  intro j hj
  refine ⟨fun hterminal => ?_, fun hreq => ?_⟩
  · have hj' := inv.settled j hj
    unfold WorkflowJob.Settled at hj'
    cases hstatus : j.status <;> simp_all [JobStatus.terminal]
  · have hkept : s'.db.Requested j.id ∧ s'.executionsOf j.id = s.executionsOf j.id := by
      have hall : Invariant s' ∧ s'.db.Requested j.id ∧
          s'.executionsOf j.id = s.executionsOf j.id := by
        refine Trace.Steps.invariant (fun t => Invariant t ∧ t.db.Requested j.id ∧
          t.executionsOf j.id = s.executionsOf j.id) run' ?_ ⟨inv, ⟨j, hj, rfl, hreq⟩, rfl⟩
        rintro t event t' h ⟨inv, hreq, hexec⟩
        exact ⟨inv.step h, step_requested inv h hreq, (step_executionsOf inv h hreq).trans hexec⟩
      exact hall.2
    obtain ⟨⟨j', hj', hid, hreq'⟩, hexec⟩ := hkept
    refine ⟨⟨j', hj', hid, hreq', ?_⟩, hexec⟩
    have hsettled' := (run'.invariant inv).settled j' hj'
    unfold WorkflowJob.Settled at hsettled'
    cases hstatus : j'.status <;> simp_all

/-- A service whose payloads end in a tag, and are their own hashes. -/
def sampleService : WorkflowService where
  cipher :=
    { sealed := fun _ payload => payload ++ List.replicate 16 0
      opened := fun _ c =>
        if c.drop (c.length - 16) = List.replicate 16 0 then some (c.take (c.length - 16))
        else none }
  hashPayload := fun payload => String.ofList (payload.map fun byte => Char.ofNat byte.toNat)
  handler := fun _ => {}

/-- The sample job, before a worker claims it. -/
def queuedDatabase : Database :=
  JobOp.apply 3 (.admission 0 (some sampleJob) (some sampleRun) [] {}) sampleDatabase

/-- A worker claims the job and crashes, and the run is cancelled. -/
def crashedWorker : List RunnersEvent :=
  [.claim "a" 10 [] 0 false, .crash "a", .cancel "run" "project" "" 20]

/-- Another worker claims the job when the lease has expired, and cancels it. -/
def recoveredJob : List RunnersEvent :=
  [.claim "b" 100000 [] 0 false, .call "b" { now := 100001 }, .call "b" { now := 100001 }]

/-- The job of a crashed worker is cancelled by another one, which does not execute it. -/
theorem cancellation_final_crashed :
    ∃ s s', Run sampleService { db := queuedDatabase } crashedWorker s ∧
      Run sampleService s recoveredJob s' ∧
      s'.db.workflowJobs.map (·.status) = [.cancelled] ∧ s'.executions.length = 1 ∧
      ∀ j ∈ s.db.workflowJobs, j.cancelRequestedAt ≠ none →
        s'.executionsOf j.id = s.executionsOf j.id := by
  have hruns : ((Trace.run (step sampleService) { db := queuedDatabase } crashedWorker).bind
      fun s => (Trace.run (step sampleService) s recoveredJob).map fun s' =>
        (s'.db.workflowJobs.map (·.status), s'.executions.length)) = some ([.cancelled], 1) := by
    decide +kernel
  obtain ⟨s, hs, hrest⟩ := Option.bind_eq_some_iff.1 hruns
  obtain ⟨s', hs', hvalues⟩ := Option.map_eq_some_iff.1 hrest
  obtain ⟨hstatus, hlength⟩ := Prod.mk.inj hvalues
  have run := Trace.Steps.of_run hs
  have run' := Trace.Steps.of_run hs'
  refine ⟨s, s', run, run', hstatus, hlength, fun j hj hreq => ?_⟩
  have hids : Keyed WorkflowJob.id queuedDatabase.workflowJobs := by decide +kernel
  have hsettled : ∀ j ∈ queuedDatabase.workflowJobs, j.Settled := by
    have hpending : ∀ j ∈ queuedDatabase.workflowJobs,
        j.status = .pending ∧ j.cancelRequestedAt = none := by
      decide +kernel
    intro j hj _
    simp [(hpending j hj).1, (hpending j hj).2]
  exact ((cancellation_final sampleService queuedDatabase hids hsettled crashedWorker
    recoveredJob s s' run run' j hj).2 hreq).2

end Runners

end TokyoTester
