import TokyoTester.Database.WorkflowJobs

set_option autoImplicit false

/-! # What one queue operation does to one job

Every operation of the queue rewrites rows of `workflow_jobs` under a condition or appends one
row. `JobTransition op j j'` lists, for each operation, the rows it rewrites and their new
contents, guards included; `JobOp.apply_queueStep` says once that this list is complete. Every
invariant of the queue is read off the list, none from the operations themselves. -/

namespace TokyoTester

open Table

/-- A call of the queue. -/
inductive JobOp where
  | admission (clock : Time) (job : Option WorkflowJob) (run : Option WorkflowRun)
      (sessions : List (Option Session)) (policy : WorkflowAdmissionPolicy)
  | claim (ownerId : String) (now leaseDuration : Time) (policy : WorkflowAdmissionPolicy)
      (fair : Bool) (locked : List String) (tie : Nat)
  | heartbeat (jobId ownerId : String) (now leaseDuration : Time)
  | requestCancellation (workflowRunId projectId reason : String) (now : Time)
  | cancel (jobId ownerId : String) (now : Time)
  | release (jobId ownerId : String) (now : Time)
  | complete (jobId ownerId : String) (now : Time)
  | fail (jobId ownerId message : String) (now : Time)

namespace JobOp

/-- The database after a call; `maxRecoveries` is the service's configuration. -/
def apply (maxRecoveries : Int) (op : JobOp) (db : Database) : Database :=
  match op with
  | admission clock job run sessions policy =>
    Transaction.after (db.admitWorkflowJob clock job run sessions policy) db
  | claim ownerId now leaseDuration policy fair locked tie =>
    (db.claimWorkflowJob ownerId now leaseDuration maxRecoveries policy fair locked tie).2
  | heartbeat jobId ownerId now leaseDuration =>
    Transaction.after (db.heartbeatWorkflowJob jobId ownerId now leaseDuration) db
  | requestCancellation workflowRunId projectId reason now =>
    Transaction.after (db.requestWorkflowJobCancellation workflowRunId projectId reason now) db
  | cancel jobId ownerId now => Transaction.after (db.cancelWorkflowJob jobId ownerId now) db
  | release jobId ownerId now => Transaction.after (db.releaseWorkflowJob jobId ownerId now) db
  | complete jobId ownerId now => Transaction.after (db.completeWorkflowJob jobId ownerId now) db
  | fail jobId ownerId message now =>
    Transaction.after (db.failWorkflowJob jobId ownerId message now) db

end JobOp

open Database in
/-- The rows an operation rewrites, and what it makes of them. -/
inductive JobTransition (maxRecoveries : Int) : JobOp → WorkflowJob → WorkflowJob → Prop where
  | claimed {ownerId : String} {now leaseDuration : Time} {policy : WorkflowAdmissionPolicy}
      {fair : Bool} {locked : List String} {tie : Nat} {j : WorkflowJob}
      (pending : j.status = .pending) :
      JobTransition maxRecoveries (.claim ownerId now leaseDuration policy fair locked tie) j
        (claimedRow ownerId now leaseDuration false j)
  | recovered {ownerId : String} {now leaseDuration : Time} {policy : WorkflowAdmissionPolicy}
      {fair : Bool} {locked : List String} {tie : Nat} {j : WorkflowJob}
      (expired : leaseExpired now j = true)
      (allowed : j.cancelRequestedAt ≠ none ∨ j.recoveryCount < maxRecoveries) :
      JobTransition maxRecoveries (.claim ownerId now leaseDuration policy fair locked tie) j
        (claimedRow ownerId now leaseDuration true j)
  | exhausted {ownerId : String} {now leaseDuration : Time} {policy : WorkflowAdmissionPolicy}
      {fair : Bool} {locked : List String} {tie : Nat} {j : WorkflowJob}
      (expired : leaseExpired now j = true) (notRequested : j.cancelRequestedAt = none)
      (spent : maxRecoveries ≤ j.recoveryCount) :
      JobTransition maxRecoveries (.claim ownerId now leaseDuration policy fair locked tie) j
        (exhaustedRow now j)
  | heartbeat {jobId ownerId : String} {now leaseDuration : Time} {j : WorkflowJob}
      (owned : ownedRunning jobId ownerId j = true) (notRequested : j.cancelRequestedAt = none) :
      JobTransition maxRecoveries (.heartbeat jobId ownerId now leaseDuration) j
        (heartbeatRow now leaseDuration j)
  | requestedPending {workflowRunId projectId reason : String} {now : Time} {j : WorkflowJob}
      (run : j.workflowRunId = workflowRunId) (pending : j.status = .pending) (text : String) :
      JobTransition maxRecoveries (.requestCancellation workflowRunId projectId reason now) j
        (cancelRequestedRow true text now j)
  | requestedRunning {workflowRunId projectId reason : String} {now : Time} {j : WorkflowJob}
      (run : j.workflowRunId = workflowRunId) (running : j.status = .running) (text : String) :
      JobTransition maxRecoveries (.requestCancellation workflowRunId projectId reason now) j
        (cancelRequestedRow false text now j)
  | cancelled {jobId ownerId : String} {now : Time} {j : WorkflowJob} (id : j.id = jobId)
      (owner : j.leaseOwner = some ownerId) (leased : j.status.leased = true) :
      JobTransition maxRecoveries (.cancel jobId ownerId now) j (cancelledRow now j)
  | released {jobId ownerId : String} {now : Time} {j : WorkflowJob}
      (owned : ownedRunning jobId ownerId j = true) :
      JobTransition maxRecoveries (.release jobId ownerId now) j (releasedRow now j)
  | completed {jobId ownerId : String} {now : Time} {j : WorkflowJob}
      (owned : ownedRunning jobId ownerId j = true) :
      JobTransition maxRecoveries (.complete jobId ownerId now) j (completedRow now j)
  | failed {jobId ownerId message : String} {now : Time} {j : WorkflowJob}
      (owned : ownedRunning jobId ownerId j = true) :
      JobTransition maxRecoveries (.fail jobId ownerId message now) j (failedRow message now j)

/-- What an operation does to the whole table. -/
inductive QueueStep (maxRecoveries : Int) (op : JobOp) (t : List WorkflowJob) :
    List WorkflowJob → Prop where
  | same : QueueStep maxRecoveries op t t
  | replaced {j j' : WorkflowJob} (mem : j ∈ t) (row : JobTransition maxRecoveries op j j') :
      QueueStep maxRecoveries op t (replace WorkflowJob.id j' t)
  | admitted {clock : Time} {job : WorkflowJob} {run : Option WorkflowRun}
      {sessions : List (Option Session)} {policy : WorkflowAdmissionPolicy}
      (call : op = .admission clock (some job) run sessions policy)
      (newId : ∀ j ∈ t, j.id ≠ (Database.admittedRow job).id)
      (newRun : ∀ j ∈ t, j.workflowRunId ≠ (Database.admittedRow job).workflowRunId) :
      QueueStep maxRecoveries op t (t ++ [Database.admittedRow job])

namespace Database

variable {db db' : Database}

/-! ## The operations leave the job table alone except where they say so -/

@[simp] theorem insertWorkflowRunEvent_workflowJobs (runId : String) (eventType : RunEventType)
    (payload : String) (now : Time) :
    (db.insertWorkflowRunEvent runId eventType payload now).workflowJobs = db.workflowJobs := rfl

@[simp] theorem updateCancelledWorkflowRecords_workflowJobs (runId : String)
    (status : ExecutionStatus) (reason : String) (now : Time) (terminal : Bool) :
    (db.updateCancelledWorkflowRecords runId status reason now terminal).workflowJobs
      = db.workflowJobs := rfl

theorem enforceWorkflowRateLimit_eq {now : Time} {scope subjectId : String}
    {limit : Int} (h : db.enforceWorkflowRateLimit now scope subjectId limit = .ok db') :
    db' = { db with submissionRateLimits := db'.submissionRateLimits } := by
  unfold enforceWorkflowRateLimit at h
  by_cases hlimit : limit ≤ 0
  · rw [if_pos hlimit] at h
    rw [← Except.ok.inj h]
  · rw [if_neg hlimit] at h
    split at h
    · split_ifs at h
      rw [← Except.ok.inj h]
    · dsimp only at h
      split_ifs at h
      · rw [← Except.ok.inj h]
      · rw [← Except.ok.inj h]

theorem enforceWorkflowRateLimits_eq {clock : Time} {job : WorkflowJob}
    {policy : WorkflowAdmissionPolicy}
    (h : db.enforceWorkflowRateLimits clock job policy = .ok db') :
    db' = { db with submissionRateLimits := db'.submissionRateLimits } := by
  obtain ⟨db₁, h₁, h₂⟩ := Transaction.bind_eq_ok.1 h
  rw [enforceWorkflowRateLimit_eq h₂, enforceWorkflowRateLimit_eq h₁]

theorem insertIgnoreWorkflowRun_eq (run : WorkflowRun) :
    db.insertIgnoreWorkflowRun run
      = { db with workflowRuns := (db.insertIgnoreWorkflowRun run).workflowRuns } := by
  unfold insertIgnoreWorkflowRun
  dsimp only
  split_ifs <;> rfl

theorem admitWorkflowRun_eq {run : WorkflowRun} (h : db.admitWorkflowRun run = .ok db') :
    db' = { db with workflowRuns := db'.workflowRuns } := by
  unfold admitWorkflowRun at h
  dsimp only at h
  split at h
  · cases h
  · split_ifs at h
    rw [← Except.ok.inj h]
    exact insertIgnoreWorkflowRun_eq run

theorem insertIgnoreSession_eq (session : Session) :
    db.insertIgnoreSession session
      = { db with sessions := (db.insertIgnoreSession session).sessions } := by
  unfold insertIgnoreSession
  dsimp only
  split_ifs <;> rfl

theorem admitSession_eq {session : Session} (h : db.admitSession session = .ok db') :
    db' = { db with sessions := db'.sessions } := by
  unfold admitSession at h
  dsimp only at h
  split at h
  · cases h
  · split_ifs at h
    rw [← Except.ok.inj h]
    exact insertIgnoreSession_eq session

theorem admitSessions_eq {sessions : List (Option Session)} :
    ∀ {db : Database}, db.admitSessions sessions = .ok db' →
      db' = { db with sessions := db'.sessions } := by
  induction sessions with
  | nil =>
      intro db h
      rw [← Except.ok.inj h]
  | cons session rest ih =>
      intro db h
      cases session with
      | none => cases h
      | some session =>
          obtain ⟨db₁, h₁, h₂⟩ := Transaction.bind_eq_ok.1 h
          rw [ih h₂, admitSession_eq h₁]

/-- **What the admission of a job does**: it finds the job of the run, or it stores the job under
    fresh keys, within the limits. -/
theorem admitJob_spec {clock : Time} {job : WorkflowJob} {policy : WorkflowAdmissionPolicy}
    {result : WorkflowJob × Bool} (h : db.admitJob clock job policy = .ok (result, db')) :
    (∃ j, db.jobOfRun job.workflowRunId = some j ∧ j.requestHash = job.requestHash ∧
      result = (j, false) ∧ db' = db) ∨
    (db.jobOfRun job.workflowRunId = none ∧ ∃ db₁,
      db.enforceWorkflowRateLimits clock job policy = .ok db₁ ∧
      db₁.enforceWorkflowAdmission job policy = .ok () ∧
      (∀ j ∈ db.workflowJobs, j.id ≠ (admittedRow job).id) ∧
      (∀ j ∈ db.workflowJobs, j.workflowRunId ≠ (admittedRow job).workflowRunId) ∧
      result = (admittedRow job, true) ∧
      db' = { db₁ with workflowJobs := db.workflowJobs ++ [admittedRow job] }) := by
  unfold admitJob at h
  split at h
  · rename_i j hj
    split_ifs at h with hhash
    obtain ⟨hresult, hdb⟩ := Prod.mk.inj (Except.ok.inj h)
    exact .inl ⟨j, hj, not_not.1 hhash, hresult.symm, hdb.symm⟩
  · rename_i hnone
    obtain ⟨db₁, h₁, h₂⟩ := Transaction.bind_eq_ok.1 h
    obtain ⟨⟨⟩, hqueue, h₃⟩ := Transaction.bind_eq_ok.1 h₂
    have hjobs : db₁.workflowJobs = db.workflowJobs := by rw [enforceWorkflowRateLimits_eq h₁]
    unfold insertIgnoreWorkflowJob at h₃
    dsimp only at h₃
    split_ifs at h₃ with htaken
    · -- an ignored insert leaves no job to return
      have : db₁.jobOfRun job.workflowRunId = none := by
        unfold jobOfRun
        rw [hjobs]
        exact hnone
      rw [this] at h₃
      cases h₃
    · have hfree : ∀ j ∈ db.workflowJobs, j.id ≠ (admittedRow job).id ∧
          j.workflowRunId ≠ (admittedRow job).workflowRunId := by
        intro j hj
        simp only [List.any_eq_true, not_exists, not_and, Bool.or_eq_true, decide_eq_true_eq,
          not_or] at htaken
        exact htaken j (hjobs ▸ hj)
      split at h₃
      · cases h₃
      · rename_i existing hexisting
        obtain ⟨hresult, hdb⟩ := Prod.mk.inj (Except.ok.inj h₃)
        have hrow : existing = admittedRow job := by
          unfold jobOfRun at hexisting hnone
          rw [hjobs] at hexisting
          rw [find_append, hnone] at hexisting
          simp only [Option.none_or, Option.ite_none_right_eq_some] at hexisting
          exact (Option.some.inj hexisting.2).symm
        refine .inr ⟨hnone, db₁, h₁, hqueue, fun j hj => (hfree j hj).1,
          fun j hj => (hfree j hj).2, ?_, ?_⟩
        · rw [← hresult, hrow]
        · rw [← hdb, hjobs]

/-- **What an admission does**: the step of the job, then the run's row, then the sessions. -/
theorem admitWorkflowJob_spec {clock : Time} {job : WorkflowJob} {run : Option WorkflowRun}
    {sessions : List (Option Session)} {policy : WorkflowAdmissionPolicy}
    {result : WorkflowJob × Bool}
    (h : db.admitWorkflowJob clock (some job) run sessions policy = .ok (result, db')) :
    ∃ db₁, db.admitJob clock job policy = .ok (result, db₁) ∧
      db' = { db₁ with workflowRuns := db'.workflowRuns, sessions := db'.sessions } := by
  cases run with
  | none => cases h
  | some run =>
      obtain ⟨⟨result₁, db₁⟩, h₁, h⟩ := Transaction.bind_eq_ok.1 h
      obtain ⟨db₂, h₂, h⟩ := Transaction.bind_eq_ok.1 h
      obtain ⟨db₃, h₃, h⟩ := Transaction.bind_eq_ok.1 h
      obtain ⟨rfl, rfl⟩ := Prod.mk.inj (Except.ok.inj h)
      refine ⟨db₁, h₁, ?_⟩
      rw [admitSessions_eq h₃, admitWorkflowRun_eq h₂]

/-- An update of one job under a condition replaces the job's row, or there is nothing to
    replace. -/
theorem claimUpdate_eq {id : String} {p : WorkflowJob → Bool} {f : WorkflowJob → WorkflowJob}
    {j : WorkflowJob} (hk : Keyed WorkflowJob.id db.workflowJobs) (hj : j ∈ db.workflowJobs)
    (hid : j.id = id) (hf : (f j).id = j.id) :
    db.claimUpdate id p f = (none, db) ∨
      (p j = true ∧ db.claimUpdate id p f
        = (some (f j), { db with
            workflowJobs := replace WorkflowJob.id (f j) db.workflowJobs })) := by
  subst hid
  unfold claimUpdate
  dsimp only
  split_ifs with hrows
  · exact .inl rfl
  · right
    have hsel : ∀ k : WorkflowJob, (decide (k.id = j.id) && p k) = true → k.id = j.id := by
      intro k hsel
      simp only [Bool.and_eq_true, decide_eq_true_eq] at hsel
      exact hsel.1
    obtain ⟨k, hkmem, hksel, -⟩ := (hk.rowsAffected_eq_one_iff hsel).1 (not_not.1 hrows)
    have hkj : k = j := hk.eq_of_key hkmem hj (hsel k hksel)
    subst hkj
    have hpk : p k = true := by
      simp only [Bool.and_eq_true] at hksel
      exact hksel.2
    refine ⟨hpk, ?_⟩
    have htable := hk.updateWhere_eq_replace (f := f) hkmem hksel hsel hf
    have hfind : find WorkflowJob.id k.id (replace WorkflowJob.id (f k) db.workflowJobs)
        = some (f k) := by
      rw [find_replace, hf, if_pos rfl, hk.find_mem hkmem]
      rfl
    rw [htable]
    simp only [jobById, hfind]

theorem selectFirst_mem {before : WorkflowJob → WorkflowJob → Bool} {tie : Nat}
    {rows : List WorkflowJob} {j : WorkflowJob} (h : selectFirst before tie rows = some j) :
    j ∈ rows := by
  unfold selectFirst at h
  exact (List.mem_filter.1 (List.mem_of_getElem? h)).1

theorem fairClaimable_claimable {policy : WorkflowAdmissionPolicy} {now : Time}
    {j : WorkflowJob} (h : fairClaimable policy now db j = true) : claimable now j = true := by
  unfold fairClaimable at h
  unfold claimable
  simp only [Bool.or_eq_true, Bool.and_eq_true, decide_eq_true_eq] at h ⊢
  rcases h with h | h
  · exact .inr h
  · exact .inl h.1.1

/-- A claim selects a claimable job of the table. -/
theorem selectClaim_some {now : Time} {policy : WorkflowAdmissionPolicy} {fair : Bool}
    {locked : List String} {tie : Nat} {j : WorkflowJob}
    (h : db.selectClaim now policy fair locked tie = some j) :
    j ∈ db.workflowJobs ∧ claimable now j = true := by
  unfold selectClaim at h
  dsimp only at h
  split_ifs at h
  · obtain ⟨hfree, hsel⟩ := List.mem_filter.1 (selectFirst_mem h)
    exact ⟨(List.mem_filter.1 hfree).1, fairClaimable_claimable hsel⟩
  · obtain ⟨hfree, hsel⟩ := List.mem_filter.1 (selectFirst_mem h)
    exact ⟨(List.mem_filter.1 hfree).1, hsel⟩

/-- **What a claim does**: nothing, or it takes one job through a transition, commits it and
    returns it. -/
theorem claimWorkflowJob_spec (hk : Keyed WorkflowJob.id db.workflowJobs) (ownerId : String)
    (now leaseDuration : Time) (maxRecoveries : Int) (policy : WorkflowAdmissionPolicy)
    (fair : Bool) (locked : List String) (tie : Nat) :
    db.claimWorkflowJob ownerId now leaseDuration maxRecoveries policy fair locked tie
        = (none, db) ∨
      ∃ j ∈ db.workflowJobs, db.selectClaim now policy fair locked tie = some j ∧ ∃ j',
        JobTransition maxRecoveries (.claim ownerId now leaseDuration policy fair locked tie) j j' ∧
        db.claimWorkflowJob ownerId now leaseDuration maxRecoveries policy fair locked tie
          = (some j', { db with
              workflowJobs := replace WorkflowJob.id j' db.workflowJobs }) := by
  unfold claimWorkflowJob
  cases hsel : db.selectClaim now policy fair locked tie with
  | none => exact .inl rfl
  | some j =>
      obtain ⟨hj, hclaim⟩ := selectClaim_some hsel
      dsimp only
      split_ifs with hspent
      · rcases claimUpdate_eq (p := leaseExpired now) (f := exhaustedRow now) hk hj rfl rfl with
          h | ⟨hp, h⟩
        · exact .inl h
        · exact .inr ⟨j, hj, rfl, _, .exhausted hp hspent.2.1 hspent.2.2, h⟩
      · rcases claimUpdate_eq (p := claimable now)
            (f := claimedRow ownerId now leaseDuration j.status.leased) hk hj rfl rfl with
          h | ⟨-, h⟩
        · exact .inl h
        · refine .inr ⟨j, hj, rfl, _, ?_, h⟩
          -- a claimable job is pending or its lease has expired; only the latter is a recovery
          unfold claimable at hclaim
          simp only [Bool.or_eq_true, decide_eq_true_eq] at hclaim
          rcases hclaim with hpending | hexpired
          · have hleased : j.status.leased = false := by rw [hpending]; rfl
            rw [hleased]
            exact .claimed hpending
          · have hleased : j.status.leased = true := by
              unfold leaseExpired at hexpired
              simp only [Bool.and_eq_true] at hexpired
              exact hexpired.1
            rw [hleased]
            refine .recovered hexpired ?_
            by_cases hreq : j.cancelRequestedAt = none
            · right
              by_contra hge
              exact hspent ⟨hleased, hreq, not_lt.1 hge⟩
            · exact .inl hreq

theorem ownedRunning_id {jobId ownerId : String} {j : WorkflowJob}
    (h : ownedRunning jobId ownerId j = true) : j.id = jobId := by
  unfold ownedRunning at h
  simp only [Bool.and_eq_true, decide_eq_true_eq] at h
  exact h.1.1

/-- An update fenced by the lease either fails or replaces the row of the job it fences. -/
theorem fencedUpdate_spec (hk : Keyed WorkflowJob.id db.workflowJobs) {jobId ownerId : String}
    {operation : String} {f : WorkflowJob → WorkflowJob} (hf : ∀ j, (f j).id = j.id) :
    (∃ e, db.fencedUpdate jobId ownerId operation f = .error e) ∨
      ∃ j ∈ db.workflowJobs, ownedRunning jobId ownerId j = true ∧
        db.fencedUpdate jobId ownerId operation f
          = .ok ((), { db with workflowJobs := replace WorkflowJob.id (f j) db.workflowJobs }) := by
  unfold fencedUpdate requireOneRow
  dsimp only
  split_ifs with hrows
  · exact .inl ⟨_, rfl⟩
  · right
    have hsel : ∀ k : WorkflowJob, ownedRunning jobId ownerId k = true → k.id = jobId :=
      fun k => ownedRunning_id
    obtain ⟨j, hj, howned, -⟩ := (hk.rowsAffected_eq_one_iff hsel).1 (not_not.1 hrows)
    refine ⟨j, hj, howned, ?_⟩
    have htable := hk.updateWhere_eq_replace (f := f) hj howned
      (fun k hksel => (hsel k hksel).trans (hsel j howned).symm) (hf j)
    rw [← htable]
    rfl

theorem heartbeatWorkflowJob_spec (hk : Keyed WorkflowJob.id db.workflowJobs)
    (jobId ownerId : String) (now leaseDuration : Time) :
    (∃ e, db.heartbeatWorkflowJob jobId ownerId now leaseDuration = .error e) ∨
      ∃ j ∈ db.workflowJobs, ownedRunning jobId ownerId j = true ∧ j.cancelRequestedAt = none ∧
        db.heartbeatWorkflowJob jobId ownerId now leaseDuration
          = .ok ((), { db with
              workflowJobs :=
                replace WorkflowJob.id (heartbeatRow now leaseDuration j) db.workflowJobs }) := by
  unfold heartbeatWorkflowJob
  dsimp only
  split_ifs with hrows
  · right
    have hsel : ∀ k : WorkflowJob,
        (ownedRunning jobId ownerId k && k.cancelRequestedAt.isNone) = true → k.id = jobId := by
      intro k hksel
      simp only [Bool.and_eq_true] at hksel
      exact ownedRunning_id hksel.1
    obtain ⟨j, hj, hjsel, -⟩ := (hk.rowsAffected_eq_one_iff hsel).1 hrows
    have htable := hk.updateWhere_eq_replace (f := heartbeatRow now leaseDuration) hj hjsel
      (fun k hksel => (hsel k hksel).trans (hsel j hjsel).symm) rfl
    simp only [Bool.and_eq_true, Option.isNone_iff_eq_none] at hjsel
    exact ⟨j, hj, hjsel.1, hjsel.2, by rw [htable]⟩
  · left
    split
    · split_ifs
      · exact ⟨_, rfl⟩
      · exact ⟨_, rfl⟩
    · exact ⟨_, rfl⟩

/-- **What a cancellation request does**: it fails, leaves a finished or cancelling job as it
    is, or marks a pending or running one. -/
theorem requestWorkflowJobCancellation_spec (hk : Keyed WorkflowJob.id db.workflowJobs)
    (workflowRunId projectId reason : String) (now : Time) :
    (∃ e, db.requestWorkflowJobCancellation workflowRunId projectId reason now = .error e) ∨
      (∃ j, db.jobOfRun workflowRunId = some j ∧
        (j.status.terminal = true ∨ j.status = .cancelling) ∧
        db.requestWorkflowJobCancellation workflowRunId projectId reason now
          = .ok ((j, false), db)) ∨
      ∃ j, ∃ wasPending text, db.jobOfRun workflowRunId = some j ∧ j.projectId = projectId ∧
        j.status = (if wasPending then .pending else .running) ∧
        db.requestWorkflowJobCancellation workflowRunId projectId reason now
          = .ok ((cancelRequestedRow wasPending text now j, true),
              Database.updateCancelledWorkflowRecords workflowRunId
                (if wasPending then .cancelled else .cancelling) text now wasPending
                { db with
                  workflowJobs := replace WorkflowJob.id (cancelRequestedRow wasPending text now j)
                    db.workflowJobs }) := by
  unfold requestWorkflowJobCancellation
  cases hrun : db.jobOfRun workflowRunId with
  | none => exact .inl ⟨_, rfl⟩
  | some j =>
      have hj : j ∈ db.workflowJobs := (find_some hrun).1
      dsimp only
      by_cases hproject : j.projectId ≠ projectId
      · rw [if_pos hproject]
        exact .inl ⟨_, rfl⟩
      by_cases hterminal : j.status.terminal = true
      · rw [if_neg hproject, if_pos hterminal]
        exact .inr (.inl ⟨j, rfl, .inl hterminal, rfl⟩)
      by_cases hcancelling : j.status = .cancelling
      · rw [if_neg hproject, if_neg hterminal, if_pos hcancelling]
        exact .inr (.inl ⟨j, rfl, .inr hcancelling, rfl⟩)
      rw [if_neg hproject, if_neg hterminal, if_neg hcancelling]
      -- ids are unique, so the update by id replaces one row
      have htable (text : String) (wasPending : Bool) :
          updateWhere (fun k : WorkflowJob => decide (k.id = j.id))
              (cancelRequestedRow wasPending text now) db.workflowJobs
            = replace WorkflowJob.id (cancelRequestedRow wasPending text now j)
                db.workflowJobs :=
        hk.updateWhere_eq_replace hj (by simp) (fun k hksel => of_decide_eq_true hksel) rfl
      have hfind (text : String) (wasPending : Bool) :
          find WorkflowJob.id j.id (replace WorkflowJob.id
              (cancelRequestedRow wasPending text now j) db.workflowJobs)
            = some (cancelRequestedRow wasPending text now j) := by
        rw [find_replace]
        simp [cancelRequestedRow, hk.find_mem hj]
      have hstatus : j.status
          = (if decide (j.status = .pending) = true then .pending else .running) := by
        revert hterminal hcancelling
        cases j.status <;> simp [JobStatus.terminal]
      refine .inr (.inr ⟨j, decide (j.status = .pending),
        if reason = "" then "cancelled by user" else reason, rfl, not_not.1 hproject, hstatus, ?_⟩)
      simp only [jobById, updateCancelledWorkflowRecords_workflowJobs, htable, hfind]

theorem cancelWorkflowJob_spec (hk : Keyed WorkflowJob.id db.workflowJobs)
    (jobId ownerId : String) (now : Time) :
    (∃ e, db.cancelWorkflowJob jobId ownerId now = .error e) ∨
      ∃ j ∈ db.workflowJobs, j.id = jobId ∧ j.leaseOwner = some ownerId ∧
        j.status.leased = true ∧
        db.cancelWorkflowJob jobId ownerId now
          = .ok ((), Database.updateCancelledWorkflowRecords j.workflowRunId .cancelled
              (j.cancelReason.getD "cancelled by user") now true
              { db with
                workflowJobs := replace WorkflowJob.id (cancelledRow now j)
                  db.workflowJobs }) := by
  unfold cancelWorkflowJob
  dsimp only
  split
  · exact .inl ⟨_, rfl⟩
  · rename_i j hfind
    have hj : j ∈ db.workflowJobs := List.mem_of_find?_eq_some hfind
    have hsel := List.find?_some hfind
    have hkey : ∀ k : WorkflowJob, (decide (k.id = jobId) &&
        decide (k.leaseOwner = some ownerId) && k.status.leased) = true → k.id = j.id := by
      intro k hksel
      simp only [Bool.and_eq_true, decide_eq_true_eq] at hksel hsel
      rw [hksel.1.1, hsel.1.1]
    have htable := hk.updateWhere_eq_replace (f := cancelledRow now) hj hsel hkey rfl
    unfold requireOneRow
    split_ifs with hrows
    · exact .inl ⟨_, rfl⟩
    · right
      simp only [Bool.and_eq_true, decide_eq_true_eq] at hsel
      refine ⟨j, hj, hsel.1.1, hsel.1.2, hsel.2, ?_⟩
      rw [← htable]
      rfl

end Database

/-- **The list of transitions is complete**: every call rewrites at most one row, by one of its
    transitions, or appends an admitted job under fresh keys. -/
theorem JobOp.apply_queueStep (maxRecoveries : Int) {db : Database}
    (hk : Keyed WorkflowJob.id db.workflowJobs) (op : JobOp) :
    QueueStep maxRecoveries op db.workflowJobs (op.apply maxRecoveries db).workflowJobs := by
  cases op with
  | admission clock job run sessions policy =>
      simp only [JobOp.apply]
      cases h : db.admitWorkflowJob clock job run sessions policy with
      | error e => exact .same
      | ok r =>
          obtain ⟨result, db'⟩ := r
          cases job with
          | none => cases h
          | some job =>
              obtain ⟨db₁, h₁, hdb⟩ := Database.admitWorkflowJob_spec h
              have hjobs : db'.workflowJobs = db₁.workflowJobs := by rw [hdb]
              simp only [Transaction.after_ok, hjobs]
              rcases Database.admitJob_spec h₁ with
                ⟨j, -, -, -, rfl⟩ | ⟨-, db₂, -, -, hid, hrun, -, rfl⟩
              · exact .same
              · exact .admitted rfl hid hrun
  | claim ownerId now leaseDuration policy fair locked tie =>
      simp only [JobOp.apply]
      rcases Database.claimWorkflowJob_spec hk ownerId now leaseDuration maxRecoveries policy fair
        locked tie with h | ⟨j, hj, -, j', htr, h⟩
      · rw [h]
        exact .same
      · rw [h]
        exact .replaced hj htr
  | heartbeat jobId ownerId now leaseDuration =>
      simp only [JobOp.apply]
      rcases Database.heartbeatWorkflowJob_spec hk jobId ownerId now leaseDuration with
        ⟨e, h⟩ | ⟨j, hj, howned, hreq, h⟩
      · rw [h]
        exact .same
      · rw [h]
        exact .replaced hj (.heartbeat howned hreq)
  | requestCancellation workflowRunId projectId reason now =>
      simp only [JobOp.apply]
      rcases Database.requestWorkflowJobCancellation_spec hk workflowRunId projectId reason now
        with ⟨e, h⟩ | ⟨j, hj, hstatus, h⟩ | ⟨j, wasPending, text, hj, -, hstatus, h⟩
      · rw [h]
        exact .same
      · rw [h]
        exact .same
      · rw [h]
        obtain ⟨hmem, hrun⟩ := find_some hj
        -- a pending job is cancelled at once, a running one is asked to stop
        cases wasPending with
        | true => exact .replaced hmem (.requestedPending hrun hstatus text)
        | false => exact .replaced hmem (.requestedRunning hrun hstatus text)
  | cancel jobId ownerId now =>
      simp only [JobOp.apply]
      rcases Database.cancelWorkflowJob_spec hk jobId ownerId now with
        ⟨e, h⟩ | ⟨j, hj, hid, howner, hleased, h⟩
      · rw [h]
        exact .same
      · rw [h]
        exact .replaced hj (.cancelled hid howner hleased)
  -- the fenced updates: refused, or of the one row that its owner runs
  | release jobId ownerId now =>
      simp only [JobOp.apply, Database.releaseWorkflowJob]
      rcases Database.fencedUpdate_spec hk (f := Database.releasedRow now) (fun _ => rfl) with
        ⟨e, h⟩ | ⟨j, hj, howned, h⟩
      · rw [h]
        exact .same
      · rw [h]
        exact .replaced hj (.released howned)
  | complete jobId ownerId now =>
      simp only [JobOp.apply, Database.completeWorkflowJob]
      rcases Database.fencedUpdate_spec hk (f := Database.completedRow now) (fun _ => rfl) with
        ⟨e, h⟩ | ⟨j, hj, howned, h⟩
      · rw [h]
        exact .same
      · rw [h]
        exact .replaced hj (.completed howned)
  | fail jobId ownerId message now =>
      simp only [JobOp.apply, Database.failWorkflowJob]
      rcases Database.fencedUpdate_spec hk (f := Database.failedRow message now) (fun _ => rfl)
        with ⟨e, h⟩ | ⟨j, hj, howned, h⟩
      · rw [h]
        exact .same
      · rw [h]
        exact .replaced hj (.failed howned)

end TokyoTester
