import Mathlib.Data.String.Basic
import TokyoTester.Jobs.Transitions
import TokyoTester.Library.Ranks

set_option autoImplicit false

/-! # Positions in the queue

`GetWorkflowJobQueueInfo` counts the pending jobs before a job, and a claim selects the first row
of a sorted query. The count goes by priority, creation time and id, the query by the first two
only, and which of several first rows it gives is the server's choice. The ids are compared under
the collation of their column, which is given by the sort keys of its texts. -/

namespace TokyoTester

open Table Ranks Database

/-- `WorkflowQueueInfo`, less the estimates. -/
structure WorkflowQueueInfo where
  status : JobStatus
  position : Nat := 0
  queuedAt : Time
  startedAt : Option Time
deriving DecidableEq, Repr

section Positions

variable {κ : Type} [LinearOrder κ] (sortKey : String → κ)

/-- The condition of the count: a job is before another one. -/
def queueBefore (k job : WorkflowJob) : Bool :=
  k.priority > job.priority || (k.priority = job.priority && k.createdAt < job.createdAt) ||
    (k.priority = job.priority && k.createdAt = job.createdAt && sortKey k.id < sortKey job.id)

/-- `SELECT COUNT(*) + 1`. -/
def Database.queuePosition (db : Database) (job : WorkflowJob) : Nat :=
  (db.workflowJobs.countP fun k => k.status = .pending && queueBefore sortKey k job) + 1

/-- `GetWorkflowJobQueueInfo`, less the estimates. -/
def Database.getWorkflowJobQueueInfo (db : Database) (workflowRunId : String) :
    Except DbError WorkflowQueueInfo :=
  match db.jobOfRun workflowRunId with
  | none => .error .noRows
  | some job =>
    let info : WorkflowQueueInfo :=
      { status := job.status, queuedAt := job.createdAt, startedAt := job.startedAt }
    if job.status ≠ .pending then .ok info
    else .ok { info with position := db.queuePosition sortKey job }

/-- The position that is reported for the run of a job. -/
def Database.reportedPosition (db : Database) (job : WorkflowJob) : Option Nat :=
  match db.getWorkflowJobQueueInfo sortKey job.workflowRunId with
  | .ok info => some info.position
  | .error _ => none

def Database.pendingJobs (db : Database) : List WorkflowJob :=
  db.workflowJobs.filter fun j => j.status = .pending

/-- The claim takes the job at the first position, and the others move up by one. -/
def TakesFirst (db : Database) (claim : Option WorkflowJob × Database) : Prop :=
  ∀ first ∈ db.pendingJobs, db.reportedPosition sortKey first = some 1 →
    (∃ job, claim.1 = some job ∧ job.id = first.id) ∧
    ∀ j ∈ db.pendingJobs, j.id ≠ first.id → ∃ n,
      claim.2.reportedPosition sortKey j = some n ∧ db.reportedPosition sortKey j = some (n + 1)

omit [LinearOrder κ] in
/-- One pending job is first by priority and creation time. -/
def HeadUntied (db : Database) : Prop :=
  ∀ j ∈ db.pendingJobs, ∀ k ∈ db.pendingJobs,
    (∀ i ∈ db.pendingJobs, fairClaimBefore i j = false) →
    (∀ i ∈ db.pendingJobs, fairClaimBefore i k = false) → j = k

variable {sortKey} {db : Database}

/-! ## The positions -/

/-- What the count goes by. -/
def queueKey (sortKey : String → κ) (j : WorkflowJob) : ℤ ×ₗ Time ×ₗ κ :=
  toLex (-j.priority, toLex (j.createdAt, sortKey j.id))

theorem queueBefore_iff {j k : WorkflowJob} :
    queueBefore sortKey k j = true ↔ queueKey sortKey k < queueKey sortKey j := by
  simp only [queueBefore, queueKey, Prod.Lex.toLex_lt_toLex, Bool.or_eq_true, Bool.and_eq_true,
    decide_eq_true_eq, neg_lt_neg_iff, neg_inj, gt_iff_lt]
  tauto

theorem queuePosition_eq_rank (job : WorkflowJob) :
    db.queuePosition sortKey job = rank (queueKey sortKey) db.pendingJobs job := by
  unfold Database.queuePosition rank Database.pendingJobs
  rw [List.countP_filter]
  congr 1
  refine List.countP_congr fun k _ => ?_
  simp only [Bool.and_eq_true, queueBefore_iff, decide_eq_true_eq]
  exact and_comm

omit [LinearOrder κ] in
theorem queueKey_nodup (hk : Keyed (fun j => sortKey j.id) db.workflowJobs) :
    (db.pendingJobs.map (queueKey sortKey)).Nodup := by
  have hids : (db.pendingJobs.map fun j => sortKey j.id).Nodup :=
    List.Nodup.sublist (List.filter_sublist.map _) hk
  refine List.Nodup.of_map (fun x => (ofLex (ofLex x).2).2) ?_
  rw [List.map_map]
  exact hids

theorem reportedPosition_eq (hruns : Keyed WorkflowJob.workflowRunId db.workflowJobs)
    {j : WorkflowJob} (hj : j ∈ db.pendingJobs) :
    db.reportedPosition sortKey j = some (db.queuePosition sortKey j) := by
  obtain ⟨hmem, hpending⟩ := List.mem_filter.1 hj
  have hfound : db.jobOfRun j.workflowRunId = some j := hruns.find_mem hmem
  unfold Database.reportedPosition Database.getWorkflowJobQueueInfo
  rw [hfound]
  dsimp only
  rw [if_neg (by simpa using hpending)]

/-- **The positions are the numbers from one on**, each once. -/
theorem reportedPositions_perm (hk : Keyed (fun j => sortKey j.id) db.workflowJobs)
    (hruns : Keyed WorkflowJob.workflowRunId db.workflowJobs) :
    (db.pendingJobs.map (db.reportedPosition sortKey)).Perm
      ((List.range' 1 db.pendingJobs.length).map some) := by
  have hreported : db.pendingJobs.map (db.reportedPosition sortKey)
      = (db.pendingJobs.map (rank (queueKey sortKey) db.pendingJobs)).map some := by
    rw [List.map_map]
    refine List.map_congr_left fun j hj => ?_
    rw [reportedPosition_eq hruns hj, queuePosition_eq_rank]
    rfl
  rw [hreported]
  exact (ranks_perm (queueKey_nodup hk)).map some

/-! ## The claim -/

omit [LinearOrder κ] in
theorem keyed_id (hk : Keyed (fun j => sortKey j.id) db.workflowJobs) :
    Keyed WorkflowJob.id db.workflowJobs := by
  refine List.Nodup.of_map sortKey ?_
  rw [List.map_map]
  exact hk

/-- The order of pending jobs in the query of a claim. -/
theorem fairClaimBefore_pending {j k : WorkflowJob} (hj : j.status = .pending)
    (hk : k.status = .pending) : fairClaimBefore j k = true ↔
      k.priority < j.priority ∨ (j.priority = k.priority ∧ j.createdAt < k.createdAt) := by
  unfold fairClaimBefore
  rw [hj, hk, if_neg (by simp)]
  by_cases hpriority : j.priority = k.priority
  · simp [hpriority]
  · simp [hpriority]

theorem mem_pendingJobs {j : WorkflowJob} :
    j ∈ db.pendingJobs ↔ j ∈ db.workflowJobs ∧ j.status = .pending := by
  simp [Database.pendingJobs]

/-- The job at the first position has no pending job before it in the claim's query. -/
theorem first_not_after {first : WorkflowJob} (hfirst : first ∈ db.pendingJobs)
    (hposition : db.queuePosition sortKey first = 1) :
    ∀ i ∈ db.pendingJobs, fairClaimBefore i first = false := by
  intro i hi
  rw [queuePosition_eq_rank, Ranks.rank_eq_one_iff] at hposition
  have hle := hposition i hi
  rw [Bool.eq_false_iff, ne_eq,
    fairClaimBefore_pending (mem_pendingJobs.1 hi).2 (mem_pendingJobs.1 hfirst).2]
  intro hbefore
  refine absurd hle (not_le.2 ?_)
  simp only [queueKey, Prod.Lex.toLex_lt_toLex]
  rcases hbefore with h | ⟨h, h'⟩
  · exact .inl (by omega)
  · exact .inr ⟨by omega, .inl h'⟩

variable {ownerId : String} {now leaseDuration : Time} {maxRecoveries : Int}
  {policy : WorkflowAdmissionPolicy}

/-- **A claim takes the job that it selects.** -/
theorem claimWorkflowJob_pending (hk : Keyed WorkflowJob.id db.workflowJobs) {tie : Nat}
    {j : WorkflowJob} (hj : j ∈ db.pendingJobs)
    (hsel : db.selectClaim now policy true [] tie = some j) :
    db.claimWorkflowJob ownerId now leaseDuration maxRecoveries policy true [] tie
      = (some (claimedRow ownerId now leaseDuration false j), { db with
          workflowJobs := replace WorkflowJob.id
            (claimedRow ownerId now leaseDuration false j) db.workflowJobs }) := by
  obtain ⟨hmem, hpending⟩ := mem_pendingJobs.1 hj
  have hleased : j.status.leased = false := by rw [hpending]; rfl
  unfold Database.claimWorkflowJob
  rw [hsel]
  dsimp only
  rw [hleased, if_neg (by simp)]
  rcases claimUpdate_eq (p := claimable now)
      (f := claimedRow ownerId now leaseDuration false) hk hmem rfl rfl with hnone | ⟨-, h⟩
  · -- the row changes, since the job is pending
    exfalso
    have hrows : rowsAffected (fun i : WorkflowJob => decide (i.id = j.id) && claimable now i)
        (claimedRow ownerId now leaseDuration false) db.workflowJobs = 1 := by
      have hid : ∀ i : WorkflowJob, (decide (i.id = j.id) && claimable now i) = true →
          i.id = j.id := by
        intro i hi
        simp only [Bool.and_eq_true, decide_eq_true_eq] at hi
        exact hi.1
      refine (hk.rowsAffected_eq_one_iff hid).2 ⟨j, hmem, ?_, ?_⟩
      · simp [claimable, hpending]
      · intro heq
        have hstatus := congrArg WorkflowJob.status heq
        rw [hpending] at hstatus
        cases hstatus
    unfold Database.claimUpdate at hnone
    dsimp only at hnone
    rw [if_neg (by simp [hrows])] at hnone
    have hfound := congrArg Prod.fst hnone
    simp only [Database.jobById, find_eq_none] at hfound
    refine hfound (claimedRow ownerId now leaseDuration false j) (mem_updateWhere.2 ⟨j, hmem, ?_⟩)
      rfl
    simp [claimable, hpending]
  · exact h

section Claim

variable (hexpired : ∀ j ∈ db.workflowJobs, leaseExpired now j = false)
  (hcaps : ∀ j ∈ db.pendingJobs, fairClaimable policy now db j = true)

include hexpired hcaps

/-- The rows of the claim's query are the pending jobs. -/
theorem selectClaim_pending (tie : Nat) :
    db.selectClaim now policy true [] tie = selectFirst fairClaimBefore tie db.pendingJobs := by
  unfold Database.selectClaim
  dsimp only
  rw [if_pos rfl]
  congr 1
  rw [List.filter_filter]
  refine List.filter_congr fun j hj => ?_
  by_cases hpending : j.status = .pending
  · simp [hpending, hcaps j (mem_pendingJobs.2 ⟨hj, hpending⟩)]
  · simp [fairClaimable, hexpired j hj, hpending]

/-- A claim takes any of the jobs that no pending job is before. -/
theorem exists_tie {j : WorkflowJob} (hj : j ∈ db.pendingJobs)
    (hfirst : ∀ i ∈ db.pendingJobs, fairClaimBefore i j = false) :
    ∃ tie, db.selectClaim now policy true [] tie = some j := by
  have hmem : j ∈ db.pendingJobs.filter fun j =>
      db.pendingJobs.all fun k => !fairClaimBefore k j :=
    List.mem_filter.2 ⟨hj, by simpa using hfirst⟩
  obtain ⟨i, hi, hget⟩ := List.getElem_of_mem hmem
  refine ⟨i, ?_⟩
  rw [selectClaim_pending hexpired hcaps, selectFirst]
  rw [Nat.mod_eq_of_lt hi, List.getElem?_eq_getElem hi, hget]

/-- If the head is not tied, a claim takes it whatever the server chooses. -/
theorem selectClaim_untied (huntied : HeadUntied db) {first : WorkflowJob}
    (hmem : first ∈ db.pendingJobs)
    (hfirst : ∀ i ∈ db.pendingJobs, fairClaimBefore i first = false) (tie : Nat) :
    db.selectClaim now policy true [] tie = some first := by
  rw [selectClaim_pending hexpired hcaps, selectFirst]
  set candidates := db.pendingJobs.filter fun j =>
    db.pendingJobs.all fun k => !fairClaimBefore k j with hcandidates
  have hcandidate : first ∈ candidates := List.mem_filter.2 ⟨hmem, by simpa using hfirst⟩
  have hlt : tie % candidates.length < candidates.length :=
    Nat.mod_lt _ (List.length_pos_of_mem hcandidate)
  rw [List.getElem?_eq_getElem hlt]
  -- every candidate is the head
  obtain ⟨hpending, hbefore⟩ := List.mem_filter.1 (List.getElem_mem hlt)
  exact congrArg some (huntied _ hpending first hmem (by simpa using hbefore) hfirst)

end Claim

/-- **After a claim the others move up by one.** -/
theorem reportedPosition_claimed (hk : Keyed WorkflowJob.id db.workflowJobs)
    (hruns : Keyed WorkflowJob.workflowRunId db.workflowJobs) {first j : WorkflowJob}
    (hfirst : first ∈ db.pendingJobs) (hposition : db.queuePosition sortKey first = 1)
    (hj : j ∈ db.pendingJobs) (hne : j.id ≠ first.id)
    (hdistinct : queueKey sortKey j ≠ queueKey sortKey first) :
    ∃ n, Database.reportedPosition sortKey { db with
        workflowJobs := replace WorkflowJob.id
          (claimedRow ownerId now leaseDuration false first) db.workflowJobs } j = some n ∧
      db.reportedPosition sortKey j = some (n + 1) := by
  obtain ⟨hmem, hpending⟩ := mem_pendingJobs.1 hfirst
  obtain ⟨hjmem, hjpending⟩ := mem_pendingJobs.1 hj
  have hruns' : Keyed WorkflowJob.workflowRunId (replace WorkflowJob.id
      (claimedRow ownerId now leaseDuration false first) db.workflowJobs) := by
    refine hruns.replace fun r hr hid => ?_
    rw [hk.eq_of_key hr hmem hid]
    rfl
  have hj' : j ∈ Database.pendingJobs { db with
      workflowJobs := replace WorkflowJob.id
        (claimedRow ownerId now leaseDuration false first) db.workflowJobs } :=
    mem_pendingJobs.2 ⟨mem_replace_of_ne hjmem hne, hjpending⟩
  rw [reportedPosition_eq hruns' hj', reportedPosition_eq hruns hj]
  refine ⟨_, rfl, congrArg some ?_⟩
  -- the head was counted, and it is no longer pending
  have hbefore : queueBefore sortKey first j = true := by
    rw [queuePosition_eq_rank, Ranks.rank_eq_one_iff] at hposition
    exact queueBefore_iff.2 (lt_of_le_of_ne (hposition j hj) (Ne.symm hdistinct))
  have hid : (claimedRow ownerId now leaseDuration false first).id = first.id := rfl
  have hcount := hk.countP_replace hmem hid fun k => k.status = .pending && queueBefore sortKey k j
  rw [hpending, hbefore] at hcount
  have hclaimed : (claimedRow ownerId now leaseDuration false first).status = .running := rfl
  rw [hclaimed] at hcount
  simp only [Database.queuePosition]
  simp at hcount
  omega

/-- **Positions agree with claims** if and only if the head of the queue is not tied: the positions
    are the numbers from one on, and whatever the server chooses, a claim takes the job at the first
    one and the others move up, exactly when one pending job is first by priority and creation
    time. -/
theorem queue_positions_iff (sortKey : String → κ) (db : Database)
    (hk : Keyed (fun j => sortKey j.id) db.workflowJobs)
    (hruns : Keyed WorkflowJob.workflowRunId db.workflowJobs) (ownerId : String)
    (now leaseDuration : Time) (maxRecoveries : Int) (policy : WorkflowAdmissionPolicy)
    (hexpired : ∀ j ∈ db.workflowJobs, leaseExpired now j = false)
    (hcaps : ∀ j ∈ db.pendingJobs, fairClaimable policy now db j = true) :
    (db.pendingJobs.map (db.reportedPosition sortKey)).Perm
        ((List.range' 1 db.pendingJobs.length).map some) ∧
      ((∀ tie, TakesFirst sortKey db
        (db.claimWorkflowJob ownerId now leaseDuration maxRecoveries policy true [] tie)) ↔
          HeadUntied db) := by
  refine ⟨reportedPositions_perm hk hruns, ?_, ?_⟩
  · intro htakes j hj k hkmem hjfirst hkfirst
    -- the job at the first position is the only one that is taken
    obtain ⟨first, hfirst, hposition⟩ : ∃ first ∈ db.pendingJobs,
        db.reportedPosition sortKey first = some 1 := by
      have hone : some 1 ∈ (List.range' 1 db.pendingJobs.length).map some := by
        have := List.length_pos_of_mem hj
        exact List.mem_map.2 ⟨1, List.mem_range'_1.2 ⟨le_rfl, by omega⟩, rfl⟩
      exact List.mem_map.1 ((reportedPositions_perm hk hruns).mem_iff.2 hone)
    have htaken : ∀ i ∈ db.pendingJobs, (∀ l ∈ db.pendingJobs, fairClaimBefore l i = false) →
        i.id = first.id := by
      intro i hi hbefore
      obtain ⟨tie, htie⟩ := exists_tie hexpired hcaps hi hbefore
      obtain ⟨⟨job, hjob, hid⟩, -⟩ := htakes tie first hfirst hposition
      rw [claimWorkflowJob_pending (keyed_id hk) hi htie] at hjob
      obtain rfl := Option.some.inj hjob
      exact hid
    exact (keyed_id hk).eq_of_key (mem_pendingJobs.1 hj).1 (mem_pendingJobs.1 hkmem).1
      ((htaken j hj hjfirst).trans (htaken k hkmem hkfirst).symm)
  · intro huntied tie first hfirst hreported
    have hposition : db.queuePosition sortKey first = 1 := by
      rw [reportedPosition_eq hruns hfirst] at hreported
      exact Option.some.inj hreported
    have hsel := selectClaim_untied hexpired hcaps huntied hfirst
      (first_not_after hfirst hposition) tie
    rw [claimWorkflowJob_pending (keyed_id hk) hfirst hsel]
    refine ⟨⟨_, rfl, rfl⟩, fun j hj hne => ?_⟩
    refine reportedPosition_claimed (keyed_id hk) hruns hfirst hposition hj hne fun heq => hne ?_
    exact congrArg WorkflowJob.id (List.inj_on_of_nodup_map (queueKey_nodup hk) hj hfirst heq)

end Positions

/-- A queue of two jobs of their own users and projects. -/
def twoPending (firstCreated secondCreated : Time) : Database where
  workflowJobs :=
    [{ (default : WorkflowJob) with
        id := "a", workflowRunId := "run a", projectId := "p", userId := "u"
        status := .pending, createdAt := firstCreated },
      { (default : WorkflowJob) with
        id := "b", workflowRunId := "run b", projectId := "q", userId := "v"
        status := .pending, createdAt := secondCreated }]

theorem queue_positions_iff_two :
    ((twoPending 1 2).pendingJobs.map ((twoPending 1 2).reportedPosition id)).Perm
        ((List.range' 1 2).map some) ∧
      ((∀ tie, TakesFirst id (twoPending 1 2)
        ((twoPending 1 2).claimWorkflowJob "w" 10 30 3 default true [] tie)) ↔
          HeadUntied (twoPending 1 2)) :=
  queue_positions_iff id (twoPending 1 2) (by decide) (by decide) "w" 10 30 3 default (by decide)
    (by decide)

/-- Two jobs of one priority and creation time: the positions go by the ids, and the server may
    give the other job to the claim. -/
theorem claim_takes_second :
    (∀ j ∈ (twoPending 1 1).workflowJobs, leaseExpired 10 j = false) ∧
      (∀ j ∈ (twoPending 1 1).pendingJobs,
        fairClaimable default 10 (twoPending 1 1) j = true) ∧
      ((twoPending 1 1).pendingJobs.map fun j =>
        (j.id, (twoPending 1 1).reportedPosition id j)) = [("a", some 1), ("b", some 2)] ∧
      ¬TakesFirst id (twoPending 1 1)
        ((twoPending 1 1).claimWorkflowJob "w" 10 30 3 default true [] 1) := by
  refine ⟨by decide, by decide, by decide, fun h => ?_⟩
  obtain ⟨⟨job, hjob, hid⟩, -⟩ := h ((twoPending 1 1).workflowJobs.head (by decide)) (by decide)
    (by decide)
  have htaken : (((twoPending 1 1).claimWorkflowJob "w" 10 30 3 default true [] 1).1.map
      (·.id)) = some "b" := by decide
  rw [hjob, Option.map_some, hid] at htaken
  exact absurd htaken (by decide)

end TokyoTester
