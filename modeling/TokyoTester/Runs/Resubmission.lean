import TokyoTester.Runs.Payloads

set_option autoImplicit false

/-! # Submissions of one run

A client that gets no answer submits its run again, and several clients may submit one run at the
same time. A submission looks for the job of its run first; the ones that find none store what the
run needs and ask for an admission, and the table decides which of them brings the job. Whatever the
workers do in between, at most one submission of a run is answered as having created its job, and
all that are answered at all are answered with that job. -/

namespace TokyoTester

open Table

theorem varchar_varchar (n : Nat) (s : String) : varchar n (varchar n s) = varchar n s := by
  refine varchar_of_length_le ?_
  unfold varchar
  rw [String.toList_ofList, List.length_take]
  exact Nat.min_le_left _ _

/-! ## What a submission waits for -/

namespace Submission

open Program

/-- A submission of a valid request. -/
def search (S : WorkflowService) (v : Request) : Task (Except SubmitError Submitted) := do
  match ← Task.store false (.getWorkflowJob v.workflowRunId) with
  | .ok existing => pure (matchExisting S v existing)
  | .error _ => submitNew S v

/-- A submission that found no job fails or ends with the admission of one. -/
def Fresh (S : WorkflowService) (v : Request) : Task (Except SubmitError Submitted) → Prop
  | .done result => ∀ r, result ≠ .ok r
  | .call op next => (∀ reply, Fresh S v (next reply)) ∨
      ∃ revisionId nonce now id, Program.call op next
        = admission S { v with workflowRevisionId := revisionId } nonce now id

/-- A submission without an answer, or with an error. -/
def Pending (S : WorkflowService) (v : Request) (task : Task (Except SubmitError Submitted)) :
    Prop :=
  task = search S v ∨ Fresh S v task

variable {S : WorkflowService} {v : Request}

theorem submit_pending {request : Request} (h : request.validate = .ok v) :
    Pending S v (S.submit request) := by
  left
  unfold WorkflowService.submit
  rw [h]
  rfl

theorem Fresh.bind {α : Type} {p : Task α} {f : α → Task (Except SubmitError Submitted)}
    (hf : ∀ a, Fresh S v (f a)) : Fresh S v (p >>= f) := by
  induction p with
  | done a => exact hf a
  | call op next ih => exact .inl ih

theorem fresh_error (e : SubmitError) : Fresh S v (pure (.error e)) := fun _ h => by cases h

theorem submitNew_fresh : Fresh S v (submitNew S v) := by
  refine Fresh.bind fun graph => ?_
  cases graph with
  | error e => exact fresh_error e
  | ok graph =>
      refine Fresh.bind fun revision => ?_
      cases revision with
      | error e => exact fresh_error e
      | ok revisionId =>
          refine Fresh.bind fun nonce => Fresh.bind fun now => Fresh.bind fun id => ?_
          exact .inr ⟨revisionId, nonce, now, id, rfl⟩

theorem Pending.not_ok {r : Submitted} (h : Pending S v (.done (.ok r))) : False := by
  rcases h with h | h
  · cases h
  · exact h r rfl

theorem matchExisting_job {r : Request} {existing : WorkflowJob} {result : Submitted}
    (h : matchExisting S r existing = .ok result) : result.job = existing := by
  unfold matchExisting at h
  split at h
  · cases h
  · split_ifs at h
    rw [← Except.ok.inj h]

end Submission

/-! ## The invariant -/

/-- The job is the one of the request's run. -/
def Database.Placed (db : Database) (v : Request) (job : WorkflowJob) : Prop :=
  ∃ j ∈ db.workflowJobs, j.id = job.id ∧ j.workflowRunId = varchar 255 v.workflowRunId

namespace Runners

open Submission

variable {S : WorkflowService} {s s' : Runners} {event : RunnersEvent}

/-- A submission that was answered as having created the job of a run. -/
def Created (x : Request × Task (Except SubmitError TokyoTester.Submitted)) (runId : String) :
    Prop :=
  ∃ v r, x.1.validate = .ok v ∧ varchar 255 v.workflowRunId = runId ∧ x.2 = .done (.ok r) ∧
    r.created = true

/-- What holds of the answers in every run. -/
structure Unique (S : WorkflowService) (s : Runners) : Prop where
  answered : ∀ x ∈ s.submissions, ∀ v, x.1.validate = .ok v →
    Pending S v x.2 ∨ ∃ r, x.2 = .done (.ok r) ∧ s.db.Placed v r.job
  once : ∀ (i k : ℕ) x y, s.submissions[i]? = some x → s.submissions[k]? = some y →
    ∀ runId, Created x runId → Created y runId → i = k

/-- A job that was created has its row. -/
theorem Unique.created_placed (inv : Unique S s)
    {x : Request × Task (Except SubmitError TokyoTester.Submitted)} (hx : x ∈ s.submissions)
    {runId : String} (h : Created x runId) : ∃ j ∈ s.db.workflowJobs, j.workflowRunId = runId := by
  obtain ⟨v, r, hvalid, rfl, hdone, -⟩ := h
  rcases inv.answered x hx v hvalid with hpending | ⟨r', -, j, hj, -, hrun⟩
  · rw [hdone] at hpending
    exact hpending.not_ok.elim
  · exact ⟨j, hj, hrun⟩

/-- A row of a request's run has its run identifier as the column stores it. -/
theorem Delivers.runId_eq (inv : Delivers S s) {j : WorkflowJob} (hj : j ∈ s.db.workflowJobs)
    {v : Request} (hrun : j.workflowRunId = v.workflowRunId) :
    j.workflowRunId = varchar 255 v.workflowRunId := by
  obtain ⟨x, -, r, revision, -, -, -, hcarries⟩ := inv.rows j hj
  rw [← hrun, hcarries.1, varchar_varchar]

theorem placed_step (known : Invariant s) (h : step S s event = some s') {v : Request}
    {job : WorkflowJob} (hplaced : s.db.Placed v job) : s'.db.Placed v job :=
  step_exists known h
    (fun row hj => ⟨row.id_eq.trans hj.1, row.workflowRunId_eq.trans hj.2⟩) hplaced

/-- The answer to the first call. -/
theorem Delivers.answer_search (inv : Delivers S s) {v : Request} {fault : Fault} {clock : Time}
    {reply : Except DbError WorkflowJob} {db' : Database}
    {f : Except DbError WorkflowJob → Task (Except SubmitError TokyoTester.Submitted)}
    (hok : ∀ existing, f (.ok existing) = pure (matchExisting S v existing))
    (herror : ∀ e, f (.error e) = submitNew S v)
    (h : (StoreOp.getWorkflowJob v.workflowRunId).call fault clock s.db = (reply, db')) :
    Pending S v (f reply) ∨ ∃ r, f reply = .done (.ok r) ∧ db'.Placed v r.job ∧
      (r.created = true →
        ∀ j ∈ s.db.workflowJobs, j.workflowRunId ≠ varchar 255 v.workflowRunId) := by
  match reply, h with
  | .error e, _ => exact .inl (.inr (herror e ▸ submitNew_fresh))
  | .ok existing, h =>
      have hcommitted : (s.db.getWorkflowJob v.workflowRunId).map (·, s.db)
          = .ok (existing, ((StoreOp.getWorkflowJob v.workflowRunId).call fault clock s.db).2) :=
        apply_eq_ok (congrArg Prod.fst h)
      rw [h] at hcommitted
      obtain ⟨job, hget, hpair⟩ := Transaction.map_eq_ok.1 hcommitted
      obtain ⟨rfl, rfl⟩ := Prod.mk.inj hpair
      have hfind : s.db.jobOfRun v.workflowRunId = some job := by
        unfold Database.getWorkflowJob at hget
        split at hget
        · rename_i found hfound
          rw [hfound, Except.ok.inj hget]
        · cases hget
      rw [hok]
      -- the run has a job: the same payload is answered with it, another one is refused
      cases hmatch : matchExisting S v job with
      | error e => exact .inl (.inr (fresh_error e))
      | ok r =>
          have hmem := (find_some hfind).1
          have hrun : job.workflowRunId = v.workflowRunId := (find_some hfind).2
          refine .inr ⟨r, rfl, ⟨job, hmem, ?_, inv.runId_eq hmem hrun⟩, fun hcreated => ?_⟩
          · rw [matchExisting_job hmatch]
          · rw [matchExisting_created hmatch] at hcreated
            cases hcreated

/-- The answer to the last call. -/
theorem Delivers.answer_admission (inv : Delivers S s) {v : Request} {revisionId : String}
    {nonce : Nonce} {now : Time} {id : String} {run : WorkflowRun} {sessions : List Session}
    {policy : WorkflowAdmissionPolicy} {fault : Fault} {clock : Time}
    {reply : Except DbError (WorkflowJob × Bool)} {db' : Database}
    {f : Except DbError (WorkflowJob × Bool) → Task (Except SubmitError TokyoTester.Submitted)}
    (hok : ∀ job created, f (.ok (job, created))
      = pure (.ok { job := job, created := created, workflowRevisionId := revisionId }))
    (herror : ∀ e, f (.error e) = pure (.error (.store e)))
    (h : (StoreOp.admitWorkflowJob (newJob S (revised v revisionId) nonce now id) run
      sessions policy).call fault clock s.db = (reply, db')) :
    Pending S v (f reply) ∨ ∃ r, f reply = .done (.ok r) ∧ db'.Placed v r.job ∧
      (r.created = true →
        ∀ j ∈ s.db.workflowJobs, j.workflowRunId ≠ varchar 255 v.workflowRunId) := by
  match reply, h with
  | .error e, _ => exact .inl (.inr (herror e ▸ fresh_error _))
  | .ok (job, created), h =>
      rw [hok]
      refine .inr ⟨_, rfl, ?_⟩
      rcases admission_answer h with ⟨rfl, hj, hrun, hjobs⟩ | ⟨rfl, rfl, hjobs, hnew⟩
      · refine ⟨⟨job, hjobs ▸ hj, rfl, inv.runId_eq hj hrun⟩, fun hcreated => ?_⟩
        cases hcreated
      · exact ⟨⟨_, hjobs ▸ List.mem_append_right _ (List.mem_singleton_self _), rfl, rfl⟩,
          fun _ => hnew⟩

/-- **What an answer does to a submission.** -/
theorem Delivers.answer_pending (inv : Delivers S s) {v : Request} {op : Op}
    {next : Reply op → Task (Except SubmitError TokyoTester.Submitted)} (answer : Answer)
    (h : Pending S v (.call op next)) :
    Pending S v (next (handle op answer { db := s.db }).1) ∨
      ∃ r, next (handle op answer { db := s.db }).1 = .done (.ok r) ∧
        (handle op answer { db := s.db }).2.db.Placed v r.job ∧
        (r.created = true →
          ∀ j ∈ s.db.workflowJobs, j.workflowRunId ≠ varchar 255 v.workflowRunId) := by
  rcases h with hsearch | hplain | ⟨revisionId, nonce, now, id, hcall⟩
  · obtain ⟨rfl, hnext⟩ := Program.call.inj hsearch
    have hnext := eq_of_heq hnext
    refine inv.answer_search (f := next) (fun _ => ?_) (fun _ => ?_)
      (handleLive_store false _ answer s.db).symm
    · rw [hnext]
      rfl
    · rw [hnext]
      rfl
  · exact .inl (.inr (hplain _))
  · obtain ⟨rfl, hnext⟩ := Program.call.inj hcall
    have hnext := eq_of_heq hnext
    refine inv.answer_admission (f := next) (fun _ _ => ?_) (fun _ => ?_)
      (handleLive_store false _ answer s.db).symm
    · rw [hnext]
      rfl
    · rw [hnext]
      rfl

/-! ## What a step keeps -/

theorem Unique.step_answered (inv : Unique S s) (delivers : Delivers S s) (known : Invariant s)
    (h : step S s event = some s') : ∀ x ∈ s'.submissions, ∀ v, x.1.validate = .ok v →
      Pending S v x.2 ∨ ∃ r, x.2 = .done (.ok r) ∧ s'.db.Placed v r.job := by
  have hold : ∀ x ∈ s.submissions, ∀ v, x.1.validate = .ok v →
      Pending S v x.2 ∨ ∃ r, x.2 = .done (.ok r) ∧ s'.db.Placed v r.job := by
    intro x hx v hvalid
    refine (inv.answered x hx v hvalid).imp_right ?_
    rintro ⟨r, hdone, hplaced⟩
    exact ⟨r, hdone, placed_step known h hplaced⟩
  intro x hx v hvalid
  rcases step_submissions h with hsame | ⟨request, rfl⟩ | ⟨i, request, op, next, answer, hi, rfl⟩
  · exact hold x (hsame ▸ hx) v hvalid
  · rcases List.mem_append.1 hx with hx | hx
    · exact hold x hx v hvalid
    · obtain rfl := List.mem_singleton.1 hx
      exact .inl (submit_pending hvalid)
  · rcases List.mem_or_eq_of_mem_set hx with hx | rfl
    · exact hold x hx v hvalid
    · rcases inv.answered _ (List.mem_of_getElem? hi) v hvalid with hpending | ⟨r, hdone, -⟩
      · refine (delivers.answer_pending answer hpending).imp_right ?_
        rintro ⟨r, hdone, hplaced, -⟩
        exact ⟨r, hdone, hplaced⟩
      · cases hdone

/-- A submission that was answered as having created its job in this step, is the only one that
    changed, and its run had no job. -/
theorem Unique.step_created (inv : Unique S s) (delivers : Delivers S s)
    (h : step S s event = some s') {i : ℕ}
    {x : Request × Task (Except SubmitError TokyoTester.Submitted)}
    (hx : s'.submissions[i]? = some x) {runId : String} (hcreated : Created x runId) :
    s.submissions[i]? = some x ∨ (∀ j ∈ s.db.workflowJobs, j.workflowRunId ≠ runId) ∧
      ∀ k, k ≠ i → s'.submissions[k]? = s.submissions[k]? := by
  rcases step_submissions h with hsame | ⟨request, rfl⟩ | ⟨k, request, op, next, answer, hk, rfl⟩
  · exact .inl (hsame ▸ hx)
  · left
    rw [List.getElem?_append] at hx
    split_ifs at hx
    · exact hx
    · obtain rfl := List.mem_singleton.1 (List.mem_of_getElem? hx)
      obtain ⟨v, r, hvalid, -, hdone, -⟩ := hcreated
      have hpending : Pending S v (S.submit request) := submit_pending hvalid
      dsimp only at hdone
      rw [hdone] at hpending
      exact hpending.not_ok.elim
  · by_cases hik : k = i
    · subst hik
      have hlt := (List.getElem?_eq_some_iff.1 hk).1
      obtain rfl := Option.some.inj ((List.getElem?_set_self hlt).symm.trans hx)
      obtain ⟨v, r, hvalid, rfl, hdone, htrue⟩ := hcreated
      dsimp only at hdone
      refine .inr ⟨?_, fun m hm => List.getElem?_set_ne (Ne.symm hm)⟩
      rcases inv.answered _ (List.mem_of_getElem? hk) v hvalid with hpending | ⟨r', hdone', -⟩
      · rcases delivers.answer_pending answer hpending with hpending' | ⟨r', hdone', -, hnew⟩
        · rw [hdone] at hpending'
          exact hpending'.not_ok.elim
        · obtain rfl := Except.ok.inj (Program.done.inj (hdone.symm.trans hdone'))
          exact hnew htrue
      · cases hdone'
    · exact .inl ((List.getElem?_set_ne hik).symm.trans hx)

theorem Unique.step_once (inv : Unique S s) (delivers : Delivers S s)
    (h : step S s event = some s') :
    ∀ (i k : ℕ) x y, s'.submissions[i]? = some x → s'.submissions[k]? = some y →
      ∀ runId, Created x runId → Created y runId → i = k := by
  intro i k x y hx hy runId hcx hcy
  rcases inv.step_created delivers h hx hcx with hx | ⟨hnone, hothers⟩
  · rcases inv.step_created delivers h hy hcy with hy | ⟨hnone, -⟩
    · exact inv.once i k x y hx hy runId hcx hcy
    · obtain ⟨j, hj, hrun⟩ := inv.created_placed (List.mem_of_getElem? hx) hcx
      exact absurd hrun (hnone j hj)
  · by_contra hik
    rw [hothers k (Ne.symm hik)] at hy
    obtain ⟨j, hj, hrun⟩ := inv.created_placed (List.mem_of_getElem? hy) hcy
    exact hnone j hj hrun

/-- **Every step keeps the answers unique.** -/
theorem Unique.step (inv : Unique S s) (delivers : Delivers S s) (known : Invariant s)
    (h : step S s event = some s') : Unique S s' where
  answered := inv.step_answered delivers known h
  once := inv.step_once delivers h

/-! ## Runs -/

theorem Run.unique {db : Database} (hjobs : db.workflowJobs = [])
    (hmax : 0 ≤ S.config.maxRecoveries) {events : List RunnersEvent}
    (run : Run S { db } events s) : Delivers S s ∧ Unique S s := by
  obtain ⟨hknown, hdelivers⟩ : Invariant { db } ∧ Delivers S { db } := start_delivers hjobs
  have hall : Invariant s ∧ Delivers S s ∧ Unique S s := by
    refine Trace.Steps.invariant (fun t => Invariant t ∧ Delivers S t ∧ Unique S t) run ?_
      ⟨hknown, hdelivers, by simp, by simp⟩
    rintro t event t' h ⟨known, delivers, inv⟩
    exact ⟨known.step h, delivers.step known hmax h, inv.step delivers known h⟩
  exact hall.2

/-- **One job for a run.** From an empty job table, in every run: two submissions of one run that
    were answered with a job were answered with the same one, the job table has it, and at most one
    of them is said to have created it. -/
theorem submissions_one_job (S : WorkflowService) (hmax : 0 ≤ S.config.maxRecoveries)
    (db : Database) (hjobs : db.workflowJobs = []) (events : List RunnersEvent) (s : Runners)
    (run : Run S { db } events s) :
    ∀ (i k : ℕ) x y, s.submissions[i]? = some x → s.submissions[k]? = some y →
      ∀ v w, x.1.validate = .ok v → y.1.validate = .ok w →
        varchar 255 v.workflowRunId = varchar 255 w.workflowRunId →
        ∀ r q, x.2 = .done (.ok r) → y.2 = .done (.ok q) →
          r.job.id = q.job.id ∧ s.db.Placed v r.job ∧
            (r.created = true → q.created = true → i = k) := by
  obtain ⟨delivers, inv⟩ := run.unique hjobs hmax
  intro i k x y hx hy v w hv hw hrun r q hr hq
  have hplaced : ∀ {x v r}, x ∈ s.submissions → x.1.validate = .ok v → x.2 = .done (.ok r) →
      s.db.Placed v r.job := by
    intro x v r hx hv hr
    rcases inv.answered x hx v hv with hpending | ⟨r', hr', hplaced⟩
    · rw [hr] at hpending
      exact hpending.not_ok.elim
    · obtain rfl := Except.ok.inj (Program.done.inj (hr.symm.trans hr'))
      exact hplaced
  have hplacedx := hplaced (List.mem_of_getElem? hx) hv hr
  refine ⟨?_, hplacedx, fun hcreated hcreated' => ?_⟩
  · obtain ⟨j, hj, hid, hjrun⟩ := hplacedx
    obtain ⟨j', hj', hid', hjrun'⟩ := hplaced (List.mem_of_getElem? hy) hw hq
    obtain rfl := delivers.queue.runs.eq_of_key hj hj' (hjrun.trans (hrun.trans hjrun'.symm))
    exact hid.symm.trans hid'
  · exact inv.once i k x y hx hy _ ⟨v, r, hv, rfl, hr, hcreated⟩
      ⟨w, q, hw, hrun.symm, hq, hcreated'⟩

/-! ## A run that is submitted again -/

/-- A job that is decoded to the request of a submission is the answer to it. -/
theorem matchExisting_revised {v : Request} {job : WorkflowJob} {revisionId : String}
    (h : S.decodeJob job = .ok (revised v revisionId)) :
    matchExisting S v job = .ok { job, created := false, workflowRevisionId := revisionId } := by
  unfold matchExisting
  rw [h]
  simp [revised]

theorem step_submission {i : ℕ} {request : Request} {op : Op}
    {next : Reply op → Task (Except SubmitError TokyoTester.Submitted)}
    (h : s.submissions[i]? = some (request, .call op next)) (answer : Answer) :
    step S s (.submission i answer) = some { s with
      db := (handleLive op answer s.db).2
      submissions := s.submissions.set i (request, next (handleLive op answer s.db).1) } := by
  simp only [step, h, handleLive]

/-- The run of a job is submitted again: the first call finds the job. -/
theorem exists_resubmitted {request v : Request} {job : WorkflowJob} {revisionId : String}
    (hvalid : request.validate = .ok v) (hjob : s.db.jobOfRun v.workflowRunId = some job)
    (hread : S.decodeJob job = .ok (revised v revisionId)) (now : Time) :
    ∃ s', Run S s [.submit request, .submission s.submissions.length { now }] s' ∧
      s'.submissions = s.submissions ++
        [(request, .done (.ok { job, created := false, workflowRevisionId := revisionId }))] := by
  let s₁ : Runners := { s with submissions := s.submissions ++ [(request, search S v)] }
  have hfirst : step S s (.submit request) = some s₁ := by
    have hsubmit : S.submit request = search S v := by
      unfold WorkflowService.submit
      rw [hvalid]
      rfl
    simp only [step, hsubmit, s₁]
  have hreply : (handleLive (.store false (.getWorkflowJob v.workflowRunId)) { now } s₁.db).1
      = .ok job := by
    have hget : s.db.getWorkflowJob v.workflowRunId = .ok job := by
      unfold Database.getWorkflowJob
      rw [hjob]
    rw [handleLive_store]
    exact congrArg (fun r => (Fault.none.apply s.db (Except.map (·, s.db) r)).1) hget
  -- what the search for the job goes on with
  obtain ⟨next, hsearch, hnext⟩ : ∃ next,
      search S v = .call (.store false (.getWorkflowJob v.workflowRunId)) next ∧
        ∀ existing, next (.ok existing) = pure (matchExisting S v existing) :=
    ⟨_, rfl, fun _ => rfl⟩
  have hlast : s₁.submissions[s.submissions.length]?
      = some (request, .call (.store false (.getWorkflowJob v.workflowRunId)) next) := by
    simp only [s₁, List.getElem?_concat_length, hsearch]
  refine ⟨_, .cons hfirst (.cons (step_submission hlast { now }) (.nil _)), ?_⟩
  rw [hreply, hnext, matchExisting_revised hread]
  simp only [s₁]
  rw [List.set_append_right _ _ (Nat.le_refl _), Nat.sub_self]
  rfl

/-- The text of a request takes at most four bytes for a character. -/
theorem length_payload_le (r : Request) :
    r.payload.length ≤ 4 * (Request.codec.encode r).render.length := by
  unfold Request.payload
  rw [length_utf8]
  exact utf8ByteSize_ofList_le _

/-- The only submission was answered as having created the job of its run, which still has the
    payload of its request. -/
def firstCreated (s : Runners) : Bool :=
  match s.submissions with
  | [(request, .done (.ok r))] => request.validate.toOption.any fun v =>
    r.created && (s.db.jobOfRun v.workflowRunId).any (fun job => r.job.id = job.id &&
      job.payloadCiphertext.isSome && job.payloadNonce.isSome) &&
      (Request.codec.encode (revised v r.workflowRevisionId)).render.length ≤ 16000
  | _ => false

/-- The run has its job when it is submitted again, which does not create another one. -/
theorem submissions_one_job_resubmitted :
    ∃ events s x y r q, Run sampleService { db := {} } events s ∧
      s.submissions[0]? = some x ∧ s.submissions[1]? = some y ∧ x.1 = y.1 ∧
      x.2 = .done (.ok r) ∧ y.2 = .done (.ok q) ∧ r.created = true ∧ q.created = false ∧
      r.job.id = q.job.id := by
  have hruns : (Trace.run (step sampleService) { db := {} } submittedRequest).map firstCreated
      = some true := by
    decide +kernel
  obtain ⟨s, hs, hfirst⟩ := Option.map_eq_some_iff.1 hruns
  have run : Run sampleService { db := {} } submittedRequest s := Trace.Steps.of_run hs
  have delivers := run.delivers rfl (by decide)
  unfold firstCreated at hfirst
  split at hfirst
  case h_2 => cases hfirst
  rename_i request r hsubmissions
  obtain ⟨v, hv, hfirst⟩ := (Option.any_eq_true _ _).1 hfirst
  obtain ⟨⟨hcreated, hany⟩, hlength⟩ : (r.created = true ∧ _) ∧ _ := by
    simpa only [Bool.and_eq_true, decide_eq_true_eq] using hfirst
  obtain ⟨job, hjob, hstored⟩ := (Option.any_eq_true _ _).1 hany
  obtain ⟨⟨hid, hciphertext⟩, hnonce⟩ : (r.job.id = job.id ∧ _) ∧ _ := by
    simpa only [Bool.and_eq_true, decide_eq_true_eq, Option.isSome_iff_ne_none] using hstored
  have hvalid := toOption_eq_some hv
  -- the job of the run carries the request
  have hmem : (request, .done (.ok r)) ∈ s.submissions := by simp [hsubmissions]
  obtain ⟨⟨j, hj, hcarries⟩, -⟩ := delivers.answered _ hmem v hvalid hcreated
  have hrow := delivers.runId_eq (find_some hjob).1 (find_some hjob).2
  obtain rfl := delivers.queue.runs.eq_of_key hj (find_some hjob).1 (hcarries.1.trans hrow.symm)
  have hreads := hcarries.readsBack sampleService_lawful hciphertext hnonce
  have hfits : (revised v r.workflowRevisionId).Fits := by
    have hle := length_payload_le (revised v r.workflowRevisionId)
    unfold Request.Fits blobSize
    omega
  obtain ⟨s', hagain, hsubmissions'⟩ := exists_resubmitted hvalid hjob (hreads.2 hfits) 20
  rw [hsubmissions] at hsubmissions'
  have run' := run.append hagain
  have hx : s'.submissions[0]? = some (request, .done (.ok r)) := by
    rw [hsubmissions']
    rfl
  have hy : s'.submissions[1]? = some (request, .done (.ok
      { job := j, created := false, workflowRevisionId := r.workflowRevisionId })) := by
    rw [hsubmissions']
    rfl
  refine ⟨_, s', _, _, r, _, run', hx, hy, rfl, rfl, rfl, hcreated, rfl, ?_⟩
  exact (submissions_one_job sampleService (by decide) {} rfl _ s' run' 0 1 _ _ hx hy v v hvalid
    hvalid rfl r _ rfl rfl).1

end Runners

end TokyoTester
