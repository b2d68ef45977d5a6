import TokyoTester.Jobs.Lifecycle

set_option autoImplicit false

/-! # Caps on running jobs

The fair claim takes a pending job only while its user and its project hold fewer leases than
their caps. The recovery of an expired lease is not checked, and need not be: it only passes on a
lease that is counted already. No other operation takes a lease, so the caps hold in every
reachable state. -/

namespace TokyoTester

open Table

variable {maxRecoveries : Int} {op : JobOp} {j j' : WorkflowJob} {db : Database}

/-! ## One row -/

theorem JobTransition.userId_eq (h : JobTransition maxRecoveries op j j') :
    j'.userId = j.userId := by
  cases h <;> rfl

theorem JobTransition.projectId_eq (h : JobTransition maxRecoveries op j j') :
    j'.projectId = j.projectId := by
  cases h <;> rfl

/-- Only the claim of a pending job takes a lease. -/
theorem JobTransition.leased_or_pending (h : JobTransition maxRecoveries op j j')
    (hleased : j'.status.leased = true) :
    j.status.leased = true ∨
      (j.status = .pending ∧ ∃ ownerId now leaseDuration policy fair locked tie,
        op = .claim ownerId now leaseDuration policy fair locked tie) := by
  cases h with
  | claimed pending => exact .inr ⟨pending, _, _, _, _, _, _, _, rfl⟩
  | recovered expired _ => exact .inl (Database.leaseExpired_leased expired)
  | exhausted expired _ _ => exact .inl (Database.leaseExpired_leased expired)
  | heartbeat owned _ => exact .inl hleased
  | requestedPending _ _ _ => cases hleased
  | requestedRunning _ running _ =>
      left
      rw [running]
      rfl
  | cancelled _ _ _ => cases hleased
  | released _ => cases hleased
  | completed _ => cases hleased
  | failed _ => cases hleased

/-! ## The leases of a scope -/

/-- A replaced row that holds no new lease adds none to its scope. -/
theorem Database.leasedCount_replace_le (hk : Keyed WorkflowJob.id db.workflowJobs)
    (hj : j ∈ db.workflowJobs) (hid : j'.id = j.id) {scope : WorkflowJob → Bool}
    (hscope : scope j' = scope j)
    (hleased : scope j = true → j'.status.leased = true → j.status.leased = true) :
    leasedCount { db with workflowJobs := replace WorkflowJob.id j' db.workflowJobs } scope
      ≤ db.leasedCount scope := by
  have hcount := hk.countP_replace hj hid fun k => k.status.leased && scope k
  have hle : (if (j'.status.leased && scope j') = true then 1 else 0)
      ≤ if (j.status.leased && scope j) = true then 1 else 0 := by
    rw [hscope]
    cases hs : scope j with
    | false => simp
    | true =>
        cases hl : j'.status.leased with
        | false => simp
        | true => simp [hleased hs hl]
  unfold leasedCount
  push_cast
  omega

/-- A replaced row adds at most one lease to its scope. -/
theorem Database.leasedCount_replace_le_succ (hk : Keyed WorkflowJob.id db.workflowJobs)
    (hj : j ∈ db.workflowJobs) (hid : j'.id = j.id) (scope : WorkflowJob → Bool) :
    leasedCount { db with workflowJobs := replace WorkflowJob.id j' db.workflowJobs } scope
      ≤ db.leasedCount scope + 1 := by
  have hcount := hk.countP_replace hj hid fun k => k.status.leased && scope k
  have hone : (if (j'.status.leased && scope j') = true then 1 else 0) ≤ 1 := by
    split_ifs <;> omega
  unfold leasedCount
  push_cast
  omega

theorem Database.leasedCount_append_pending {row : WorkflowJob} (hrow : row.status = .pending)
    (scope : WorkflowJob → Bool) (t : List WorkflowJob) :
    leasedCount { db with workflowJobs := t ++ [row] } scope
      = leasedCount { db with workflowJobs := t } scope := by
  simp [leasedCount, List.countP_append, hrow, JobStatus.leased]

/-- What the fair claim has checked of the job it selects. -/
theorem Database.selectClaim_fair {now : Time} {policy : WorkflowAdmissionPolicy}
    {locked : List String} {tie : Nat}
    (h : db.selectClaim now policy true locked tie = some j) :
    j.status.leased = true ∨
      (db.leasedCount (fun k => k.userId = j.userId) < maxInt policy.maxRunningPerUser 1 ∧
        db.leasedCount (fun k => k.projectId = j.projectId)
          < maxInt policy.maxRunningPerProject 1) := by
  unfold selectClaim at h
  simp only [if_true] at h
  have hfair := (List.mem_filter.1 (selectFirst_mem h)).2
  unfold fairClaimable at hfair
  simp only [Bool.or_eq_true, Bool.and_eq_true, decide_eq_true_eq] at hfair
  rcases hfair with hexpired | ⟨⟨-, huser⟩, hproject⟩
  · exact .inl (leaseExpired_leased hexpired)
  · exact .inr ⟨huser, hproject⟩

/-! ## The caps along a run -/

/-- The caps of a policy, with the unique ids they are counted over. -/
structure CapInvariant (policy : WorkflowAdmissionPolicy) (db : Database) : Prop where
  ids : Keyed WorkflowJob.id db.workflowJobs
  users : ∀ user, db.leasedCount (fun j => j.userId = user) ≤ maxInt policy.maxRunningPerUser 1
  projects : ∀ project,
    db.leasedCount (fun j => j.projectId = project) ≤ maxInt policy.maxRunningPerProject 1

theorem maxInt_one_nonneg (value : Int) : 0 ≤ maxInt value 1 := by
  unfold maxInt
  split_ifs <;> omega

theorem CapInvariant.empty (policy : WorkflowAdmissionPolicy) (hdb : db.workflowJobs = []) :
    CapInvariant policy db where
  ids := by
    rw [hdb]
    exact keyed_nil
  users user := by
    have := maxInt_one_nonneg policy.maxRunningPerUser
    simpa [Database.leasedCount, hdb] using this
  projects project := by
    have := maxInt_one_nonneg policy.maxRunningPerProject
    simpa [Database.leasedCount, hdb] using this

/-- The count of leases only looks at the jobs. -/
theorem Database.leasedCount_congr (db : Database) {db' : Database} (h : db'.workflowJobs = db.workflowJobs)
    (scope : WorkflowJob → Bool) : db'.leasedCount scope = db.leasedCount scope := by
  unfold leasedCount
  rw [h]

/-- A row that takes no lease keeps the caps. -/
theorem CapInvariant.replaced {policy : WorkflowAdmissionPolicy} (inv : CapInvariant policy db)
    (hj : j ∈ db.workflowJobs) (row : JobTransition maxRecoveries op j j')
    (hleased : j'.status.leased = true → j.status.leased = true) {db' : Database}
    (hdb : db'.workflowJobs = replace WorkflowJob.id j' db.workflowJobs) :
    CapInvariant policy db' where
  ids := by
    rw [hdb]
    exact inv.ids.replace fun k _ hkey => hkey.symm
  users user := by
    refine le_trans ?_ (inv.users user)
    rw [Database.leasedCount_congr
      { db with workflowJobs := replace WorkflowJob.id j' db.workflowJobs } hdb]
    exact Database.leasedCount_replace_le inv.ids hj row.id_eq (by rw [row.userId_eq])
      fun _ => hleased
  projects project := by
    refine le_trans ?_ (inv.projects project)
    rw [Database.leasedCount_congr
      { db with workflowJobs := replace WorkflowJob.id j' db.workflowJobs } hdb]
    exact Database.leasedCount_replace_le inv.ids hj row.id_eq (by rw [row.projectId_eq])
      fun _ => hleased

/-- The fair claim of a pending job keeps the caps: its user and its project had room. -/
theorem CapInvariant.claimed {policy : WorkflowAdmissionPolicy} (inv : CapInvariant policy db)
    (hj : j ∈ db.workflowJobs) (row : JobTransition maxRecoveries op j j')
    (huser : db.leasedCount (fun k => k.userId = j.userId) < maxInt policy.maxRunningPerUser 1)
    (hproject : db.leasedCount (fun k => k.projectId = j.projectId)
      < maxInt policy.maxRunningPerProject 1) :
    CapInvariant policy
      { db with workflowJobs := replace WorkflowJob.id j' db.workflowJobs } where
  ids := inv.ids.replace fun k _ hkey => hkey.symm
  users user := by
    by_cases hu : j.userId = user
    · subst hu
      have := Database.leasedCount_replace_le_succ inv.ids hj row.id_eq
        fun k => decide (k.userId = j.userId)
      omega
    · -- a claim does not touch the leases of other users
      refine le_trans (Database.leasedCount_replace_le inv.ids hj row.id_eq
        (by rw [row.userId_eq]) ?_) (inv.users user)
      intro hscope
      exact absurd (of_decide_eq_true hscope) hu
  projects project := by
    by_cases hp : j.projectId = project
    · subst hp
      have := Database.leasedCount_replace_le_succ inv.ids hj row.id_eq
        fun k => decide (k.projectId = j.projectId)
      omega
    · refine le_trans (Database.leasedCount_replace_le inv.ids hj row.id_eq
        (by rw [row.projectId_eq]) ?_) (inv.projects project)
      intro hscope
      exact absurd (of_decide_eq_true hscope) hp

/-- The claims of the service are fair, under its policy. -/
def JobOp.Fair (policy : WorkflowAdmissionPolicy) : JobOp → Prop
  | .claim _ _ _ claimPolicy fair _ _ => claimPolicy = policy ∧ fair = true
  | _ => True

/-- One call of the queue of a service with a policy. -/
def fairStep (maxRecoveries : Int) (policy : WorkflowAdmissionPolicy) (db : Database) (op : JobOp)
    (db' : Database) : Prop :=
  op.Fair policy ∧ db' = op.apply maxRecoveries db

theorem CapInvariant.claim {policy : WorkflowAdmissionPolicy} (inv : CapInvariant policy db)
    (ownerId : String) (now leaseDuration : Time) (locked : List String) (tie : Nat) :
    CapInvariant policy
      (db.claimWorkflowJob ownerId now leaseDuration maxRecoveries policy true locked tie).2 := by
  rcases Database.claimWorkflowJob_spec inv.ids ownerId now leaseDuration maxRecoveries policy
    true locked tie with h | ⟨j, hj, hsel, j', row, h⟩
  · rw [h]
    exact inv
  · rw [h]
    rcases Database.selectClaim_fair hsel with hleased | ⟨huser, hproject⟩
    · exact inv.replaced hj row (fun _ => hleased) rfl
    · exact inv.claimed hj row huser hproject

/-- **Every call keeps the caps.** -/
theorem fairStep_capInvariant {policy : WorkflowAdmissionPolicy} {db' : Database}
    (h : fairStep maxRecoveries policy db op db') (inv : CapInvariant policy db) :
    CapInvariant policy db' := by
  obtain ⟨hfair, rfl⟩ := h
  by_cases hclaim : ∃ ownerId now leaseDuration claimPolicy fair locked tie,
      op = .claim ownerId now leaseDuration claimPolicy fair locked tie
  · obtain ⟨ownerId, now, leaseDuration, claimPolicy, fair, locked, tie, rfl⟩ := hclaim
    obtain ⟨rfl, rfl⟩ := hfair
    exact inv.claim ownerId now leaseDuration locked tie
  · have hstep := op.apply_queueStep maxRecoveries inv.ids
    generalize hdb : op.apply maxRecoveries db = db' at hstep
    generalize ht : db'.workflowJobs = t at hstep
    cases hstep with
    | same =>
        exact
          { ids := ht ▸ inv.ids
            users := fun user => Database.leasedCount_congr db ht _ ▸ inv.users user
            projects := fun project => Database.leasedCount_congr db ht _ ▸ inv.projects project }
    | replaced mem row =>
        refine inv.replaced mem row ?_ ht
        intro hleased
        exact (row.leased_or_pending hleased).resolve_right fun hpending => hclaim hpending.2
    | admitted call newId newRun =>
        have hcount (scope : WorkflowJob → Bool) :
            db'.leasedCount scope = db.leasedCount scope := by
          rw [Database.leasedCount_congr { db with workflowJobs := _ } ht,
            Database.leasedCount_append_pending rfl]
        exact
          { ids := ht ▸ inv.ids.append newId
            users := fun user => hcount _ ▸ inv.users user
            projects := fun project => hcount _ ▸ inv.projects project }

/-- **Running caps.** In every state that calls of the queue reach from an empty table, with fair
    claims under one policy, no user and no project holds more leases than its cap; a cap that
    is not positive counts as one. -/
theorem running_caps (maxRecoveries : Int) (policy : WorkflowAdmissionPolicy)
    (init db : Database) (hinit : init.workflowJobs = [])
    (hreach : Trace.Reachable (fairStep maxRecoveries policy) init db) :
    (∀ user, db.leasedCount (fun j => j.userId = user) ≤ maxInt policy.maxRunningPerUser 1) ∧
    ∀ project,
      db.leasedCount (fun j => j.projectId = project) ≤ maxInt policy.maxRunningPerProject 1 := by
  have inv : CapInvariant policy db :=
    hreach.invariant (CapInvariant policy) fairStep_capInvariant (.empty policy hinit)
  exact ⟨inv.users, inv.projects⟩

/-- A second job of the same user. -/
def sampleSecondJob : WorkflowJob := { sampleJob with id := "job-2", workflowRunId := "run-2" }

/-- Two jobs of one user are admitted, the first is claimed, and a second worker finds nothing to
    claim until the lease of the first expires. -/
def sampleFairCalls : List JobOp :=
  [.admission 0 (some sampleJob) (some sampleRun) [] {},
    .admission 0 (some sampleSecondJob) (some { sampleRun with id := "run-2" }) [] {},
    .claim "worker" 10 30 {} true [] 0, .claim "worker-2" 20 30 {} true [] 0,
    .claim "worker-2" 50 30 {} true [] 0]

/-- After the sample calls the user holds one lease, recovered by the second worker, and that is
    the cap. -/
theorem running_caps_recovered :
    let db := sampleFairCalls.foldl (fun db op => op.apply 3 db) sampleDatabase
    (db.workflowJobs.map fun j => (j.status, j.leaseOwner))
        = [(.running, some "worker-2"), (.pending, none)] ∧
      db.leasedCount (fun j => j.userId = "user") ≤ 1 := by
  refine ⟨by decide +kernel, ?_⟩
  have hsteps : Trace.Steps (fairStep 3 {}) sampleDatabase sampleFairCalls _ :=
    Trace.Steps.foldl sampleFairCalls sampleDatabase (by
      intro op hop
      simp only [sampleFairCalls, List.mem_cons, List.not_mem_nil, or_false] at hop
      rcases hop with rfl | rfl | rfl | rfl | rfl
      · trivial
      · trivial
      · exact ⟨rfl, rfl⟩
      · exact ⟨rfl, rfl⟩
      · exact ⟨rfl, rfl⟩)
  exact (running_caps 3 {} sampleDatabase _ rfl ⟨_, hsteps⟩).1 "user"

end TokyoTester
