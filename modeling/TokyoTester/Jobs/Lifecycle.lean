import TokyoTester.Jobs.Transitions
import TokyoTester.Library.Trace

set_option autoImplicit false

/-! # The life of a job

The columns of a job move together: lease, status, payload and completion time. `JobInvariant`
says how, row by row; it is kept by every transition, so it holds in every state that calls of
the queue, in any order, can reach from an empty table. A finished row is never touched again,
because no transition starts from a terminal status. -/

namespace TokyoTester

open Table

/-- How the columns of one job agree. -/
structure JobInvariant (maxRecoveries : Int) (j : WorkflowJob) : Prop where
  leaseOwner : j.status.leased = true ↔ j.leaseOwner.isSome = true
  leaseExpiresAt : j.leaseOwner.isSome = true ↔ j.leaseExpiresAt.isSome = true
  payloadCiphertext : j.status.terminal = true ↔ j.payloadCiphertext = none
  payloadNonce : j.status.terminal = true ↔ j.payloadNonce = none
  completedAt : j.status.terminal = true ↔ j.completedAt.isSome = true
  recoveryCount : j.cancelRequestedAt = none → j.recoveryCount ≤ maxRecoveries

/-! ## Transitions, row by row -/

theorem JobStatus.leased_not_terminal {s : JobStatus} (h : s.leased = true) :
    s.terminal = false := by
  cases s <;> simp_all [JobStatus.leased, JobStatus.terminal]

theorem Database.leaseExpired_leased {now : Time} {j : WorkflowJob}
    (h : leaseExpired now j = true) : j.status.leased = true := by
  unfold leaseExpired at h
  simp only [Bool.and_eq_true] at h
  exact h.1

theorem Database.ownedRunning_status {jobId ownerId : String} {j : WorkflowJob}
    (h : ownedRunning jobId ownerId j = true) : j.status = .running := by
  unfold ownedRunning at h
  simp only [Bool.and_eq_true, decide_eq_true_eq] at h
  exact h.2

theorem Database.ownedRunning_owner {jobId ownerId : String} {j : WorkflowJob}
    (h : ownedRunning jobId ownerId j = true) : j.leaseOwner = some ownerId := by
  unfold ownedRunning at h
  simp only [Bool.and_eq_true, decide_eq_true_eq] at h
  exact h.1.2

variable {maxRecoveries : Int} {op : JobOp} {j j' : WorkflowJob}

/-- A job keeps its identity. -/
theorem JobTransition.id_eq (h : JobTransition maxRecoveries op j j') : j'.id = j.id := by
  cases h <;> rfl

theorem JobTransition.workflowRunId_eq (h : JobTransition maxRecoveries op j j') :
    j'.workflowRunId = j.workflowRunId := by
  cases h <;> rfl

/-- No transition starts from a finished job. -/
theorem JobTransition.not_terminal (h : JobTransition maxRecoveries op j j') :
    j.status.terminal = false := by
  cases h with
  | claimed pending => rw [pending]; rfl
  | recovered expired _ => exact JobStatus.leased_not_terminal (Database.leaseExpired_leased expired)
  | exhausted expired _ _ =>
      exact JobStatus.leased_not_terminal (Database.leaseExpired_leased expired)
  | heartbeat owned _ => rw [Database.ownedRunning_status owned]; rfl
  | requestedPending _ pending _ => rw [pending]; rfl
  | requestedRunning _ running _ => rw [running]; rfl
  | cancelled _ _ leased => exact JobStatus.leased_not_terminal leased
  | released owned => rw [Database.ownedRunning_status owned]; rfl
  | completed owned => rw [Database.ownedRunning_status owned]; rfl
  | failed owned => rw [Database.ownedRunning_status owned]; rfl

/-- A row that takes the lease keeps the columns of an unfinished job. -/
theorem JobInvariant.claimed {ownerId : String} {now leaseDuration : Time} {wasRunning : Bool}
    (inv : JobInvariant maxRecoveries j) (hopen : j.status.terminal = false)
    (hcount : j.cancelRequestedAt = none → j.recoveryCount + boolInt wasRunning ≤ maxRecoveries) :
    JobInvariant maxRecoveries (Database.claimedRow ownerId now leaseDuration wasRunning j) where
  leaseOwner := by simp [Database.claimedRow, JobStatus.leased]
  leaseExpiresAt := by simp [Database.claimedRow]
  payloadCiphertext := by
    have := inv.payloadCiphertext
    simp only [hopen] at this
    simpa [Database.claimedRow, JobStatus.terminal] using this
  payloadNonce := by
    have := inv.payloadNonce
    simp only [hopen] at this
    simpa [Database.claimedRow, JobStatus.terminal] using this
  completedAt := by
    have := inv.completedAt
    simp only [hopen] at this
    simpa [Database.claimedRow, JobStatus.terminal] using this
  recoveryCount := hcount

/-- **Every transition keeps the columns in agreement.** -/
theorem JobTransition.invariant (h : JobTransition maxRecoveries op j j')
    (inv : JobInvariant maxRecoveries j) : JobInvariant maxRecoveries j' := by
  have hopen := h.not_terminal
  cases h with
  | claimed pending =>
      refine inv.claimed hopen ?_
      intro hreq
      have := inv.recoveryCount hreq
      simpa [boolInt] using this
  | recovered expired allowed =>
      refine inv.claimed hopen ?_
      intro hreq
      have hlt := allowed.resolve_left (fun hne => hne hreq)
      simp only [boolInt, if_true]
      omega
  -- the rows that end a job take the lease and the payload from it
  | exhausted expired notRequested spent =>
      exact
        { leaseOwner := by simp [Database.exhaustedRow, JobStatus.leased]
          leaseExpiresAt := by simp [Database.exhaustedRow]
          payloadCiphertext := by simp [Database.exhaustedRow, JobStatus.terminal]
          payloadNonce := by simp [Database.exhaustedRow, JobStatus.terminal]
          completedAt := by simp [Database.exhaustedRow, JobStatus.terminal]
          recoveryCount := inv.recoveryCount }
  | heartbeat owned notRequested =>
      have hlease := inv.leaseOwner
      have howner := Database.ownedRunning_owner owned
      exact
        { leaseOwner := hlease
          leaseExpiresAt := by simp [Database.heartbeatRow, howner]
          payloadCiphertext := inv.payloadCiphertext
          payloadNonce := inv.payloadNonce
          completedAt := inv.completedAt
          recoveryCount := inv.recoveryCount }
  | requestedPending run pending text =>
      have hlease := inv.leaseOwner
      have hexpiry := inv.leaseExpiresAt
      rw [pending] at hlease
      exact
        { leaseOwner := by simpa [Database.cancelRequestedRow, JobStatus.leased] using hlease
          leaseExpiresAt := hexpiry
          payloadCiphertext := by simp [Database.cancelRequestedRow, JobStatus.terminal]
          payloadNonce := by simp [Database.cancelRequestedRow, JobStatus.terminal]
          completedAt := by simp [Database.cancelRequestedRow, JobStatus.terminal]
          recoveryCount := by simp [Database.cancelRequestedRow] }
  -- the rows that do not end it keep the payload that an open job has
  | requestedRunning run running text =>
      have hlease := inv.leaseOwner
      have hcipher := inv.payloadCiphertext
      have hnonce := inv.payloadNonce
      have hdone := inv.completedAt
      rw [running] at hlease
      rw [hopen] at hcipher hnonce hdone
      exact
        { leaseOwner := by simpa [Database.cancelRequestedRow, JobStatus.leased] using hlease
          leaseExpiresAt := inv.leaseExpiresAt
          payloadCiphertext := by
            simpa [Database.cancelRequestedRow, JobStatus.terminal] using hcipher
          payloadNonce := by simpa [Database.cancelRequestedRow, JobStatus.terminal] using hnonce
          completedAt := by simpa [Database.cancelRequestedRow, JobStatus.terminal] using hdone
          recoveryCount := by simp [Database.cancelRequestedRow] }
  | cancelled id owner leased =>
      exact
        { leaseOwner := by simp [Database.cancelledRow, JobStatus.leased]
          leaseExpiresAt := by simp [Database.cancelledRow]
          payloadCiphertext := by simp [Database.cancelledRow, JobStatus.terminal]
          payloadNonce := by simp [Database.cancelledRow, JobStatus.terminal]
          completedAt := by simp [Database.cancelledRow, JobStatus.terminal]
          recoveryCount := inv.recoveryCount }
  | released owned =>
      have hcipher := inv.payloadCiphertext
      have hnonce := inv.payloadNonce
      have hdone := inv.completedAt
      rw [hopen] at hcipher hnonce hdone
      exact
        { leaseOwner := by simp [Database.releasedRow, JobStatus.leased]
          leaseExpiresAt := by simp [Database.releasedRow]
          payloadCiphertext := by simpa [Database.releasedRow, JobStatus.terminal] using hcipher
          payloadNonce := by simpa [Database.releasedRow, JobStatus.terminal] using hnonce
          completedAt := by simpa [Database.releasedRow, JobStatus.terminal] using hdone
          recoveryCount := inv.recoveryCount }
  | completed owned =>
      exact
        { leaseOwner := by simp [Database.completedRow, JobStatus.leased]
          leaseExpiresAt := by simp [Database.completedRow]
          payloadCiphertext := by simp [Database.completedRow, JobStatus.terminal]
          payloadNonce := by simp [Database.completedRow, JobStatus.terminal]
          completedAt := by simp [Database.completedRow, JobStatus.terminal]
          recoveryCount := inv.recoveryCount }
  | failed owned =>
      exact
        { leaseOwner := by simp [Database.failedRow, JobStatus.leased]
          leaseExpiresAt := by simp [Database.failedRow]
          payloadCiphertext := by simp [Database.failedRow, JobStatus.terminal]
          payloadNonce := by simp [Database.failedRow, JobStatus.terminal]
          completedAt := by simp [Database.failedRow, JobStatus.terminal]
          recoveryCount := inv.recoveryCount }

/-! ## The table -/

/-- An admission brings its payload: both columns are set. -/
def JobOp.PayloadPresent : JobOp → Prop
  | .admission _ (some job) _ _ _ => job.payloadCiphertext ≠ none ∧ job.payloadNonce ≠ none
  | _ => True

theorem JobInvariant.admitted {job : WorkflowJob} (hmax : 0 ≤ maxRecoveries)
    (hcipher : job.payloadCiphertext ≠ none) (hnonce : job.payloadNonce ≠ none) :
    JobInvariant maxRecoveries (Database.admittedRow job) where
  leaseOwner := by simp [Database.admittedRow, JobStatus.leased]
  leaseExpiresAt := by simp [Database.admittedRow]
  payloadCiphertext := by simpa [Database.admittedRow, JobStatus.terminal] using hcipher
  payloadNonce := by simpa [Database.admittedRow, JobStatus.terminal] using hnonce
  completedAt := by simp [Database.admittedRow, JobStatus.terminal]
  recoveryCount := by simpa [Database.admittedRow] using hmax

/-- What holds of the whole table: its keys are unique and every row is in agreement. -/
structure QueueInvariant (maxRecoveries : Int) (t : List WorkflowJob) : Prop where
  ids : Keyed WorkflowJob.id t
  runs : Keyed WorkflowJob.workflowRunId t
  rows : ∀ j ∈ t, JobInvariant maxRecoveries j

theorem QueueInvariant.empty : QueueInvariant maxRecoveries [] where
  ids := keyed_nil
  runs := keyed_nil
  rows := by simp

theorem QueueStep.ids {t t' : List WorkflowJob} (h : QueueStep maxRecoveries op t t')
    (hk : Keyed WorkflowJob.id t) : Keyed WorkflowJob.id t' := by
  cases h with
  | same => exact hk
  | replaced mem row => exact hk.replace fun k _ hkey => hkey.symm
  | admitted call newId newRun => exact hk.append newId

theorem QueueStep.invariant {t t' : List WorkflowJob} (hmax : 0 ≤ maxRecoveries)
    (hpayload : op.PayloadPresent) (h : QueueStep maxRecoveries op t t')
    (inv : QueueInvariant maxRecoveries t) : QueueInvariant maxRecoveries t' := by
  refine ⟨h.ids inv.ids, ?_, ?_⟩
  · cases h with
    | same => exact inv.runs
    | replaced mem row =>
        refine inv.runs.replace fun k hk hkey => ?_
        rw [inv.ids.eq_of_key hk mem (hkey.trans row.id_eq), row.workflowRunId_eq]
    | admitted call newId newRun => exact inv.runs.append newRun
  · cases h with
    | same => exact inv.rows
    | replaced mem row =>
        intro k hk
        rcases mem_replace hk with rfl | ⟨hk, -⟩
        · exact row.invariant (inv.rows _ mem)
        · exact inv.rows k hk
    | admitted call newId newRun =>
        subst call
        intro k hk
        rcases List.mem_append.1 hk with hk | hk
        · exact inv.rows k hk
        · rw [List.mem_singleton.1 hk]
          exact JobInvariant.admitted hmax hpayload.1 hpayload.2

/-- A finished row stays as it is. -/
theorem QueueStep.terminal_mem {t t' : List WorkflowJob} (h : QueueStep maxRecoveries op t t')
    (hk : Keyed WorkflowJob.id t) (hj : j ∈ t) (hdone : j.status.terminal = true) : j ∈ t' := by
  cases h with
  | same => exact hj
  | replaced mem row =>
      apply mem_replace_of_ne hj
      intro hkey
      rw [hk.eq_of_key hj mem (hkey.trans row.id_eq), row.not_terminal] at hdone
      exact absurd hdone (by simp)
  | admitted call newId newRun => exact List.mem_append.2 (.inl hj)

/-! ## Runs of the queue -/

/-- One call of the queue, with any owners, clock readings and lease lengths. -/
def queueStep (maxRecoveries : Int) (db : Database) (op : JobOp) (db' : Database) : Prop :=
  op.PayloadPresent ∧ db' = op.apply maxRecoveries db

theorem queueStep_invariant (hmax : 0 ≤ maxRecoveries) {db db' : Database}
    (h : queueStep maxRecoveries db op db') (inv : QueueInvariant maxRecoveries db.workflowJobs) :
    QueueInvariant maxRecoveries db'.workflowJobs := by
  obtain ⟨hpayload, rfl⟩ := h
  exact (op.apply_queueStep maxRecoveries inv.ids).invariant hmax hpayload inv

/-- Once finished, a row survives every run of the queue unchanged. -/
theorem steps_terminal_mem (hmax : 0 ≤ maxRecoveries) {db db' : Database} {ops : List JobOp}
    (h : Trace.Steps (queueStep maxRecoveries) db ops db')
    (inv : QueueInvariant maxRecoveries db.workflowJobs) (hj : j ∈ db.workflowJobs)
    (hdone : j.status.terminal = true) : j ∈ db'.workflowJobs := by
  refine h.stable (fun db => QueueInvariant maxRecoveries db.workflowJobs)
    (fun db => j ∈ db.workflowJobs) (queueStep_invariant hmax) ?_ inv hj
  intro db op db' hstep inv hj
  obtain ⟨-, rfl⟩ := hstep
  exact (op.apply_queueStep maxRecoveries inv.ids).terminal_mem inv.ids hj hdone

/-- **Job lifecycle.** In every state reachable from an empty `workflow_jobs` table by calls of
    the queue, lease, status, payload and completion columns agree, recoveries stay within the
    configured maximum unless a cancellation was requested, a finished row is never changed
    again, and a run has at most one job. The configuration check of the service makes the
    maximum positive. -/
theorem job_lifecycle (maxRecoveries : Int) (hmax : 0 ≤ maxRecoveries) (init db : Database)
    (hinit : init.workflowJobs = [])
    (hreach : Trace.Reachable (queueStep maxRecoveries) init db) :
    (∀ j ∈ db.workflowJobs,
      ((j.status.leased = true ↔ j.leaseOwner.isSome = true) ∧
        (j.leaseOwner.isSome = true ↔ j.leaseExpiresAt.isSome = true)) ∧
      ((j.status.terminal = true ↔ j.payloadCiphertext = none ∧ j.payloadNonce = none) ∧
        (j.payloadCiphertext = none ∧ j.payloadNonce = none ↔ j.completedAt.isSome = true)) ∧
      (j.status.terminal = true → ∀ ops db', Trace.Steps (queueStep maxRecoveries) db ops db' →
        db'.jobById j.id = some j) ∧
      (j.cancelRequestedAt = none → j.recoveryCount ≤ maxRecoveries)) ∧
    ∀ j ∈ db.workflowJobs, ∀ k ∈ db.workflowJobs, j.workflowRunId = k.workflowRunId → j = k := by
  have inv : QueueInvariant maxRecoveries db.workflowJobs :=
    hreach.invariant (fun db => QueueInvariant maxRecoveries db.workflowJobs)
      (queueStep_invariant hmax) (by rw [hinit]; exact .empty)
  refine ⟨?_, fun j hj k hk hrun => inv.runs.eq_of_key hj hk hrun⟩
  intro j hj
  have row := inv.rows j hj
  have herased : j.status.terminal = true ↔ j.payloadCiphertext = none ∧ j.payloadNonce = none :=
    ⟨fun h => ⟨row.payloadCiphertext.1 h, row.payloadNonce.1 h⟩,
      fun h => row.payloadCiphertext.2 h.1⟩
  refine ⟨⟨row.leaseOwner, row.leaseExpiresAt⟩, ⟨herased, herased.symm.trans row.completedAt⟩, ?_,
    row.recoveryCount⟩
  intro hdone ops db' hsteps
  have inv' : QueueInvariant maxRecoveries db'.workflowJobs :=
    hsteps.invariant (fun db => QueueInvariant maxRecoveries db.workflowJobs)
      (queueStep_invariant hmax) inv
  exact inv'.ids.find_mem (steps_terminal_mem hmax hsteps inv hj hdone)

/-- A workflow without jobs. -/
def sampleDatabase : Database where
  workflows := [{ (default : Workflow) with id := "workflow", projectId := "project" }]

def sampleJob : WorkflowJob :=
  { (default : WorkflowJob) with
    id := "job", workflowRunId := "run", projectId := "project", userId := "user"
    requestHash := "hash", payloadCiphertext := some [1], payloadNonce := some [2] }

def sampleRun : WorkflowRun :=
  { (default : WorkflowRun) with
    id := "run", projectId := "project", workflowId := "workflow", status := .pending }

/-- A job is admitted, claimed and completed by its worker. -/
def sampleCalls : List JobOp :=
  [.admission 0 (some sampleJob) (some sampleRun) [] {},
    .claim "worker" 10 30 {} true [] 0, .complete "job" "worker" 20]

/-- The completed job of the sample calls has lost its payload, and a cancellation that comes
    too late leaves its row alone. -/
theorem job_lifecycle_completed :
    let db := sampleCalls.foldl (fun db op => op.apply 3 db) sampleDatabase
    ∃ j ∈ db.workflowJobs, j.status = .completed ∧ j.payloadCiphertext = none ∧
      (JobOp.apply 3 (.requestCancellation "run" "project" "" 40) db).jobById j.id = some j := by
  have hsteps : Trace.Steps (queueStep 3) sampleDatabase sampleCalls _ :=
    Trace.Steps.foldl sampleCalls sampleDatabase (by
      intro op hop
      simp only [sampleCalls, List.mem_cons, List.not_mem_nil, or_false] at hop
      rcases hop with rfl | rfl | rfl
      · exact ⟨by decide, by decide⟩
      · trivial
      · trivial)
  have hlife := job_lifecycle 3 (by decide) sampleDatabase _ rfl ⟨_, hsteps⟩
  have hstatus : (sampleCalls.foldl (fun db op => op.apply 3 db) sampleDatabase).workflowJobs.map
      (fun j => j.status) = [.completed] := by decide +kernel
  obtain ⟨j, hj, hdone⟩ := List.mem_map.1 (hstatus ▸ List.mem_singleton.2 rfl)
  have hterminal : j.status.terminal = true := by rw [hdone]; rfl
  obtain ⟨-, ⟨herased, -⟩, hfinal, -⟩ := hlife.1 j hj
  have hlate : Trace.Steps (queueStep 3)
      (sampleCalls.foldl (fun db op => op.apply 3 db) sampleDatabase) _ _ :=
    Trace.Steps.foldl [.requestCancellation "run" "project" "" 40] _
      (by simp [JobOp.PayloadPresent])
  exact ⟨j, hj, hdone, (herased.1 hterminal).1, hfinal hterminal _ _ hlate⟩

end TokyoTester
