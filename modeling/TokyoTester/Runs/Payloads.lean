import TokyoTester.Jobs.Positions
import TokyoTester.Runs.Cancellation
import TokyoTester.Runs.Totals

set_option autoImplicit false

/-! # A worker executes what was submitted

The request travels through the queue as the ciphertext of its JSON text. The column cuts a
ciphertext off after `blobSize` bytes, and nothing on the way notices. From an empty job table,
every job that is executed carries the payload of one submission, and when a submission was
answered as the one that created its job, that submission's: the worker reads the payload back if
and only if it fits the column together with the tag of the cipher. -/

namespace TokyoTester

open Table

/-! ## Payloads -/

/-- What the cipher promises: opening is the inverse of sealing and opens nothing else, and the tag
    takes sixteen bytes. -/
structure PayloadCipher.Lawful (c : PayloadCipher) : Prop where
  opened_iff : ∀ nonce ciphertext plaintext,
    c.opened nonce ciphertext = some plaintext ↔ ciphertext = c.sealed nonce plaintext
  length_sealed : ∀ nonce plaintext, (c.sealed nonce plaintext).length = plaintext.length + 16

/-- The payload and its tag fit the column. -/
def Request.Fits (r : Request) : Prop := r.payload.length + 16 ≤ blobSize

/-- A job has the encrypted payload of a request, unless it was erased. -/
def WorkflowJob.Carries (S : WorkflowService) (j : WorkflowJob) (r : Request) : Prop :=
  j.workflowRunId = varchar 255 r.workflowRunId ∧ ∃ nonce : Nonce,
    (∀ c ∈ j.payloadCiphertext, c = blob (S.cipher.sealed nonce r.payload)) ∧
      ∀ n ∈ j.payloadNonce, n = nonce.1

/-- A worker that decrypts the job gets the payload of the request if and only if it fits, and
    decodes it to the request then. -/
def WorkflowService.ReadsBack (S : WorkflowService) (j : WorkflowJob) (r : Request) : Prop :=
  (S.cipher.decrypt j.payloadCiphertext j.payloadNonce = .ok r.payload ↔ r.Fits) ∧
    (r.Fits → S.decodeJob j = .ok r)

theorem toListLoop_eq (bs : ByteArray) (n i : Nat) (r : List UInt8) (hn : bs.size - i = n) :
    ByteArray.toList.loop bs i r = r.reverse ++ bs.data.toList.drop i := by
  induction n generalizing i r with
  | zero =>
      unfold ByteArray.toList.loop
      have hle : bs.size ≤ i := by omega
      rw [if_neg (by omega), List.drop_eq_nil_of_le (by simpa using hle), List.append_nil]
  | succ n ih =>
      unfold ByteArray.toList.loop
      have hlt : i < bs.size := by omega
      rw [if_pos hlt, ih (i + 1) _ (by omega)]
      have hdrop : bs.data.toList.drop i = bs.get! i :: bs.data.toList.drop (i + 1) := by
        rw [List.drop_eq_getElem_cons (by simpa using hlt)]
        congr 1
        show bs.data[i] = bs.data[i]!
        rw [getElem!_pos]
      rw [hdrop, List.reverse_cons, List.append_assoc, List.singleton_append]

theorem utf8_eq (s : String) : utf8 s = s.toByteArray.data.toList := by
  unfold utf8 ByteArray.toList
  rw [toListLoop_eq s.toByteArray _ 0 [] rfl]
  rfl

/-- A text is read back from its bytes. -/
theorem ofUtf8_utf8 (s : String) : ofUtf8 (utf8 s) = some s := by
  unfold ofUtf8
  rw [utf8_eq, Array.toArray_toList]
  exact dif_pos s.isValidUTF8

theorem length_utf8 (s : String) : (utf8 s).length = s.utf8ByteSize := by
  rw [utf8_eq, Array.length_toList]
  rfl

theorem utf8ByteSize_ofList_le (cs : List Char) :
    (String.ofList cs).utf8ByteSize ≤ 4 * cs.length := by
  induction cs with
  | nil => simp
  | cons c cs ih =>
      rw [String.ofList_cons, String.utf8ByteSize_append, String.utf8ByteSize_singleton,
        List.length_cons]
      have hle := c.utf8Size_le_four
      omega

theorem Request.ofPayload_payload (r : Request) : Request.ofPayload r.payload = .ok r := by
  unfold Request.ofPayload Request.payload
  rw [ofUtf8_utf8, Option.bind_some, Request.codec.unmarshal_marshal]

section Jobs

variable {S : WorkflowService} {maxRecoveries : Int} {op : JobOp} {j j' : WorkflowJob}
  {r : Request}

/-- **What the column keeps of a payload can be read back if it fits.** -/
theorem WorkflowJob.Carries.readsBack (h : j.Carries S r) (hcipher : S.cipher.Lawful)
    (hciphertext : j.payloadCiphertext ≠ none) (hnonce : j.payloadNonce ≠ none) :
    S.ReadsBack j r := by
  obtain ⟨-, nonce, hc, hn⟩ := h
  obtain ⟨c, hcipherEq⟩ := Option.ne_none_iff_exists'.1 hciphertext
  obtain ⟨n, hnonceEq⟩ := Option.ne_none_iff_exists'.1 hnonce
  obtain rfl := hc c hcipherEq
  obtain rfl := hn n hnonceEq
  have hdecrypt : S.cipher.decrypt j.payloadCiphertext j.payloadNonce = .ok r.payload ↔
      blob (S.cipher.sealed nonce r.payload) = S.cipher.sealed nonce r.payload := by
    rw [← hcipher.opened_iff nonce, hcipherEq, hnonceEq]
    simp only [PayloadCipher.decrypt, Option.getD_some, nonce.2, dite_true]
    cases S.cipher.opened nonce (blob (S.cipher.sealed nonce r.payload)) <;> simp
  have hfits : blob (S.cipher.sealed nonce r.payload) = S.cipher.sealed nonce r.payload ↔
      r.Fits := by
    unfold blob Request.Fits
    rw [List.take_eq_self_iff, hcipher.length_sealed]
  refine ⟨hdecrypt.trans hfits, fun hfit => ?_⟩
  unfold WorkflowService.decodeJob
  rw [(hdecrypt.trans hfits).2 hfit]
  exact Request.ofPayload_payload r

/-- A job keeps its payload, or loses it. -/
theorem JobTransition.carries (h : JobTransition maxRecoveries op j j') (hj : j.Carries S r) :
    j'.Carries S r := by
  obtain ⟨hrun, nonce, hc, hn⟩ := hj
  refine ⟨h.workflowRunId_eq.trans hrun, nonce, ?_⟩
  cases h with
  | claimed | recovered | heartbeat | released => exact ⟨hc, hn⟩
  | requestedRunning => exact ⟨by simpa [Database.cancelRequestedRow] using hc,
      by simpa [Database.cancelRequestedRow] using hn⟩
  | requestedPending => simp [Database.cancelRequestedRow]
  | exhausted => simp [Database.exhaustedRow]
  | cancelled => simp [Database.cancelledRow]
  | completed => simp [Database.completedRow]
  | failed => simp [Database.failedRow]

/-- The row of an admission carries the request. -/
theorem newJob_carries (S : WorkflowService) (r : Request) (nonce : Nonce) (now : Time)
    (id : String) : (Database.admittedRow (Submission.newJob S r nonce now id)).Carries S r := by
  refine ⟨rfl, nonce, by simp [Database.admittedRow, Submission.newJob], ?_⟩
  have hfit : blob nonce.1 = nonce.1 := blob_of_length_le (by rw [nonce.2]; decide)
  simp [Database.admittedRow, Submission.newJob, hfit]

end Jobs

/-! ## The invariant -/

namespace Runners

variable {S : WorkflowService} {s s' : Runners} {event : RunnersEvent}

/-- The request that a submission of `v` stores under a revision. -/
def revised (v : Request) (revisionId : String) : Request :=
  { v with workflowRevisionId := revisionId }

/-- A job carries the payload of a submission, under a revision that is stored for it. -/
def Submitted (S : WorkflowService) (s : Runners) (j : WorkflowJob) : Prop :=
  ∃ x ∈ s.submissions, ∃ v, ∃ revision ∈ s.db.workflowRevisions, x.1.validate = .ok v ∧
    Submission.Revises v revision ∧ j.Carries S (revised v revision.id)

/-- A recorded revision is in the table, with a number. -/
def HasRevision (s : Runners) (revision : WorkflowRevision) : Prop :=
  ∃ number, { revision with revisionNumber := number } ∈ s.db.workflowRevisions

/-- The job of a request's run, and whatever was executed of it, carries the request. -/
def Established (S : WorkflowService) (s : Runners) (r : Request) : Prop :=
  (∃ j ∈ s.db.workflowJobs, j.Carries S r) ∧
    ∀ e ∈ s.executions, e.2.workflowRunId = varchar 255 r.workflowRunId → e.2.Carries S r

/-- A submission that still runs, or ended. -/
def Answered (S : WorkflowService) (s : Runners) (v : Request) :
    Task (Except SubmitError TokyoTester.Submitted) → Prop
  | .done (.error _) => True
  | .done (.ok result) =>
    result.created = true → Established S s (revised v result.workflowRevisionId)
  | .call op next => ∃ recorded, (∀ revision ∈ recorded, HasRevision s revision) ∧
    Submission.Submits S v (.call op next) recorded

/-- What holds in every run from an empty job table. -/
structure Delivers (S : WorkflowService) (s : Runners) : Prop where
  queue : QueueInvariant S.config.maxRecoveries s.db.workflowJobs
  rows : ∀ j ∈ s.db.workflowJobs, Submitted S s j
  executions : ∀ e ∈ s.executions, Submitted S s e.2 ∧ e.2.payloadCiphertext ≠ none ∧
    e.2.payloadNonce ≠ none ∧ ∃ j ∈ s.db.workflowJobs, j.workflowRunId = e.2.workflowRunId
  answered : ∀ x ∈ s.submissions, ∀ v, x.1.validate = .ok v → Answered S s v x.2
  refused : ∀ x ∈ s.submissions, ∀ e, x.1.validate = .error e → ∃ e', x.2 = .done (.error e')

/-- A submission that is answered goes on as its program says. -/
theorem answered_of_submits {v : Request} {task : Task (Except SubmitError TokyoTester.Submitted)}
    {recorded : List WorkflowRevision} (hrecorded : ∀ revision ∈ recorded, HasRevision s revision)
    (h : Submission.Submits S v task recorded) : Answered S s v task := by
  match task, h with
  | .done (.error _), _ => trivial
  | .done (.ok result), hold =>
      intro hcreated
      rw [hold result rfl] at hcreated
      cases hcreated
  | .call op next, hcall => exact ⟨recorded, hrecorded, hcall⟩

/-! ## What a step keeps -/

/-- A submission stays, with its request. -/
theorem step_requests (h : step S s event = some s')
    {x : Request × Task (Except SubmitError TokyoTester.Submitted)} (hx : x ∈ s.submissions) :
    ∃ x' ∈ s'.submissions, x'.1 = x.1 := by
  rcases step_submissions h with hsame | ⟨request, rfl⟩ | ⟨i, request, op, next, answer, hi, rfl⟩
  · exact ⟨x, hsame ▸ hx, rfl⟩
  · exact ⟨x, List.mem_append_left _ hx, rfl⟩
  · obtain ⟨k, hk⟩ := List.getElem?_of_mem hx
    by_cases hik : i = k
    · subst hik
      obtain rfl := Option.some.inj (hi.symm.trans hk)
      have hlt := (List.getElem?_eq_some_iff.1 hi).1
      exact ⟨_, List.mem_of_getElem? (List.getElem?_set_self hlt), rfl⟩
    · exact ⟨x, List.mem_of_getElem? ((List.getElem?_set_ne hik).trans hk), rfl⟩

/-- A stored revision stays. -/
theorem step_revision (known : Invariant s) (h : step S s event = some s')
    {revision : WorkflowRevision} (hrevision : revision ∈ s.db.workflowRevisions) :
    revision ∈ s'.db.workflowRevisions :=
  ((step_databaseStep h).workflowRevisions known.ids).subset hrevision

theorem Submitted.step (known : Invariant s) (h : step S s event = some s') {j : WorkflowJob}
    (hj : Submitted S s j) : Submitted S s' j := by
  obtain ⟨x, hx, v, revision, hstored, hvalid, hrevises, hcarries⟩ := hj
  obtain ⟨x', hx', hsame⟩ := step_requests h hx
  exact ⟨x', hx', v, revision, step_revision known h hstored,
    hsame ▸ hvalid, hrevises, hcarries⟩

theorem HasRevision.step (known : Invariant s) (h : step S s event = some s')
    {revision : WorkflowRevision} (hrevision : HasRevision s revision) : HasRevision s' revision := by
  obtain ⟨number, hstored⟩ := hrevision
  exact ⟨number, step_revision known h hstored⟩

/-- A worker admits nothing. -/
theorem not_admission {owner jobId : String} {executing requested : Prop} {call : Op}
    (h : call.Allowed owner jobId executing requested) {clock clock' : Time}
    {job : Option WorkflowJob} {run : Option WorkflowRun} {sessions : List (Option Session)}
    {policy : WorkflowAdmissionPolicy}
    (hop : .admission clock job run sessions policy ∈ call.jobOp? clock') : False := by
  cases call with
  | store detached call =>
      cases call with
      | admitWorkflowJob => cases h
      | cancelWorkflowJob | releaseWorkflowJob | completeWorkflowJob | failWorkflowJob =>
          cases Option.some.inj hop
      | _ => cases hop
  | _ => cases hop

theorem jobOp?_clock {call : Op} (h : call.jobOp? 0 = none) (clock : Time) :
    call.jobOp? clock = none := by
  cases call with
  | store detached call =>
      cases call with
      | admitWorkflowJob | cancelWorkflowJob | releaseWorkflowJob | completeWorkflowJob
      | failWorkflowJob => cases h
      | _ => rfl
  | _ => rfl

/-- **Jobs are admitted by submissions.** -/
theorem Delivers.admission (inv : Delivers S s) (known : Invariant s)
    (h : step S s event = some s') {clock : Time} {job : Option WorkflowJob}
    {run : Option WorkflowRun} {sessions : List (Option Session)}
    {policy : WorkflowAdmissionPolicy}
    (hop : .admission clock job run sessions policy ∈ event.jobOp? S s) :
    ∃ x ∈ s.submissions, ∃ v, ∃ revision ∈ s.db.workflowRevisions, x.1.validate = .ok v ∧
      Submission.Revises v revision ∧ ∃ nonce now id,
        job = some (Submission.newJob S (revised v revision.id) nonce now id) := by
  cases event with
  | submit | shutdown | crash | finish => cases hop
  | cancel | claim | heartbeat => cases Option.some.inj hop
  | submission i answer =>
      obtain ⟨x, hx, hop⟩ := Option.bind_eq_some_iff.1 hop
      obtain ⟨call, hcall, hop⟩ := Option.bind_eq_some_iff.1 hop
      obtain ⟨request, task⟩ := x
      have hmem := List.mem_of_getElem? hx
      cases task with
      | done result => cases hcall
      | call call' next =>
          obtain rfl := Option.some.inj hcall
          cases hvalid : request.validate with
          | error e =>
              obtain ⟨e', he'⟩ := inv.refused _ hmem e hvalid
              cases he'
          | ok v =>
              -- only the last call of a submission is an admission
              obtain ⟨recorded, hrecorded, hsubmits⟩ := inv.answered _ hmem v hvalid
              rcases hsubmits with
                ⟨hplain, -⟩ | ⟨revision, hrevision, hrevises, nonce, now, id, hlast⟩
              · rw [jobOp?_clock hplain] at hop
                cases hop
              · obtain ⟨rfl, -⟩ := Program.call.inj hlast
                obtain ⟨-, hjob, -⟩ := JobOp.admission.inj (Option.some.inj hop)
                obtain ⟨number, hstored⟩ := hrecorded revision hrevision
                exact ⟨_, hmem, v, _, hstored, hvalid,
                  ⟨hrevises.projectId, hrevises.workflowId, hrevises.snapshot⟩,
                  nonce, now, id, hjob.symm⟩
  | call owner answer =>
      -- a worker calls what its job allows, and that is no admission
      have hworker := known.workers owner
      simp only [RunnersEvent.jobOp?] at hop
      split at hop
      · rename_i job' context task hw
        obtain ⟨call, hcall, hop⟩ := Option.bind_eq_some_iff.1 hop
        rw [hw] at hworker
        obtain ⟨-, executing, requested, htask, -⟩ := hworker
        exact (not_admission (htask.next hcall) hop).elim
      · cases hop
  | other op answer =>
      simp only [Runners.step] at h
      simp only [RunnersEvent.jobOp?] at hop
      rw [Option.mem_def.1 hop] at h
      cases h

/-- An admission brings its payload. -/
theorem Delivers.payloadPresent (inv : Delivers S s) (known : Invariant s)
    (h : step S s event = some s') {op : JobOp} (hop : op ∈ event.jobOp? S s) :
    op.PayloadPresent := by
  cases op with
  | admission clock job run sessions policy =>
      obtain ⟨x, -, v, revision, -, -, -, nonce, now, id, rfl⟩ := inv.admission known h hop
      exact ⟨by simp [Submission.newJob], by simp [Submission.newJob]⟩
  | _ => trivial

theorem Delivers.step_queue (inv : Delivers S s) (known : Invariant s)
    (hmax : 0 ≤ S.config.maxRecoveries) (h : step S s event = some s') :
    QueueInvariant S.config.maxRecoveries s'.db.workflowJobs := by
  rcases step_jobsStep h known.ids with hsame | ⟨op, hop, hstep⟩
  · exact hsame ▸ inv.queue
  · exact hstep.invariant hmax (inv.payloadPresent known h hop) inv.queue

theorem Delivers.step_rows (inv : Delivers S s) (known : Invariant s)
    (h : step S s event = some s') : ∀ j ∈ s'.db.workflowJobs, Submitted S s' j := by
  intro j hj
  rcases step_jobsStep h known.ids with hsame | ⟨op, hop, hstep⟩
  · exact (inv.rows j (hsame ▸ hj)).step known h
  · generalize hjobs : s'.db.workflowJobs = t at hstep
    rw [hjobs] at hj
    cases hstep with
    | same => exact (inv.rows j hj).step known h
    | @replaced k k' mem row =>
        rcases mem_replace hj with rfl | ⟨hj, -⟩
        · obtain ⟨x, hx, v, revision, hstored, hvalid, hrevises, hcarries⟩ :=
            (inv.rows k mem).step known h
          exact ⟨x, hx, v, revision, hstored, hvalid, hrevises, row.carries hcarries⟩
        · exact (inv.rows j hj).step known h
    | admitted call newId newRun =>
        rcases List.mem_append.1 hj with hj | hj
        · exact (inv.rows j hj).step known h
        · obtain rfl := List.mem_singleton.1 hj
          subst call
          obtain ⟨x, hx, v, revision, hstored, hvalid, hrevises, nonce, now, id, hjob⟩ :=
            inv.admission known h hop
          obtain rfl := Option.some.inj hjob
          obtain ⟨x', hx', hsame⟩ := step_requests h hx
          exact ⟨x', hx', v, revision, step_revision known h hstored,
            hsame ▸ hvalid, hrevises, newJob_carries S _ nonce now id⟩

/-- What every transition keeps of a job, holds of some job after a step if it did before. -/
theorem step_exists (known : Invariant s) (h : step S s event = some s') {P : WorkflowJob → Prop}
    (hP : ∀ {op : JobOp} {j j' : WorkflowJob}, JobTransition S.config.maxRecoveries op j j' →
      P j → P j')
    (hrow : ∃ j ∈ s.db.workflowJobs, P j) : ∃ j ∈ s'.db.workflowJobs, P j := by
  obtain ⟨j, hj, hjP⟩ := hrow
  rcases step_jobsStep h known.ids with hsame | ⟨op, hop, hstep⟩
  · exact ⟨j, hsame ▸ hj, hjP⟩
  · generalize hjobs : s'.db.workflowJobs = t at hstep
    cases hstep with
    | same => exact ⟨j, hj, hjP⟩
    | @replaced k k' mem row =>
        by_cases hkey : j.id = k'.id
        · obtain rfl := known.ids.eq_of_key hj mem (hkey.trans row.id_eq)
          exact ⟨k', mem_replace_self hj hkey, hP row hjP⟩
        · exact ⟨j, mem_replace_of_ne hj hkey, hjP⟩
    | admitted call newId newRun => exact ⟨j, List.mem_append_left _ hj, hjP⟩

theorem Delivers.step_executed (inv : Delivers S s) (known : Invariant s)
    (hmax : 0 ≤ S.config.maxRecoveries) (h : step S s event = some s') :
    ∀ e ∈ s'.executions, Submitted S s' e.2 ∧ e.2.payloadCiphertext ≠ none ∧
      e.2.payloadNonce ≠ none ∧
      ∃ j ∈ s'.db.workflowJobs, j.workflowRunId = e.2.workflowRunId := by
  have hold : ∀ e ∈ s.executions, Submitted S s' e.2 ∧ e.2.payloadCiphertext ≠ none ∧
      e.2.payloadNonce ≠ none ∧
      ∃ j ∈ s'.db.workflowJobs, j.workflowRunId = e.2.workflowRunId := by
    intro e he
    obtain ⟨hsubmitted, hciphertext, hnonce, hrow⟩ := inv.executions e he
    exact ⟨hsubmitted.step known h, hciphertext, hnonce,
      step_exists known h (fun row hrun => row.workflowRunId_eq.trans hrun) hrow⟩
  intro e he
  rcases step_executions h known.ids with hsame | ⟨owner, job, hmore, hjob, hrunning, -⟩
  · exact hold e (hsame ▸ he)
  · rw [hmore] at he
    rcases List.mem_append.1 he with he | he
    · exact hold e he
    · obtain rfl := List.mem_singleton.1 he
      -- a running job has its payload
      have row := (inv.step_queue known hmax h).rows job hjob
      have hopen : job.status.terminal = false := by rw [hrunning]; rfl
      refine ⟨inv.step_rows known h job hjob, ?_, ?_, job, hjob, rfl⟩
      · exact fun hnone => by simp [row.payloadCiphertext.2 hnone] at hopen
      · exact fun hnone => by simp [row.payloadNonce.2 hnone] at hopen

/-- What is established stays so. -/
theorem Established.step (inv : Delivers S s) (known : Invariant s)
    (hmax : 0 ≤ S.config.maxRecoveries) (h : step S s event = some s') {r : Request}
    (hr : Established S s r) : Established S s' r := by
  obtain ⟨k, hk, hcarries⟩ := step_exists known h (fun row hj => row.carries hj) hr.1
  refine ⟨⟨k, hk, hcarries⟩, fun e he hrun => ?_⟩
  rcases step_executions h known.ids with hsame | ⟨owner, job, hmore, hjob, -⟩
  · exact hr.2 e (hsame ▸ he) hrun
  · rw [hmore] at he
    rcases List.mem_append.1 he with he | he
    · exact hr.2 e he hrun
    · obtain rfl := List.mem_singleton.1 he
      have hsame := (inv.step_queue known hmax h).runs.eq_of_key hjob hk
        (hrun.trans hcarries.1.symm)
      exact hsame ▸ hcarries

/-- A call without an error is a transaction that is committed. -/
theorem apply_eq_ok {α : Type} {fault : Fault} {db : Database}
    {transaction : Except DbError (α × Database)} {v : α}
    (h : (fault.apply db transaction).1 = .ok v) :
    transaction = .ok (v, (fault.apply db transaction).2) := by
  cases transaction with
  | error e => cases fault <;> cases h
  | ok r =>
      cases fault with
      | none => rw [← Except.ok.inj h]; rfl
      | refused | lost => cases h

/-- An admission that is answered with a job found it, or created it. -/
theorem admission_answer {db db' : Database} {job job' : WorkflowJob} {run : WorkflowRun}
    {sessions : List Session} {policy : WorkflowAdmissionPolicy} {fault : Fault} {clock : Time}
    {created : Bool}
    (h : (StoreOp.admitWorkflowJob job run sessions policy).call fault clock db
      = (.ok (job', created), db')) :
    (created = false ∧ job' ∈ db.workflowJobs ∧ job'.workflowRunId = job.workflowRunId ∧
      db'.workflowJobs = db.workflowJobs) ∨
    (created = true ∧ job' = Database.admittedRow job ∧
      db'.workflowJobs = db.workflowJobs ++ [Database.admittedRow job] ∧
      ∀ j ∈ db.workflowJobs, j.workflowRunId ≠ (Database.admittedRow job).workflowRunId) := by
  have hcommitted : db.admitWorkflowJob clock (some job) (some run) (sessions.map some) policy
      = .ok ((job', created),
          ((StoreOp.admitWorkflowJob job run sessions policy).call fault clock db).2) :=
    apply_eq_ok (congrArg Prod.fst h)
  rw [h] at hcommitted
  obtain ⟨db₁, h₁, hdb⟩ := Database.admitWorkflowJob_spec hcommitted
  have hjobs : db'.workflowJobs = db₁.workflowJobs :=
    (congrArg Database.workflowJobs hdb :)
  rcases Database.admitJob_spec h₁ with
    ⟨j, hj, -, hresult, rfl⟩ | ⟨-, db₂, -, -, -, hnew, hresult, rfl⟩
  · obtain ⟨rfl, rfl⟩ := Prod.mk.inj hresult
    exact .inl ⟨rfl, (find_some hj).1, (find_some hj).2, hjobs⟩
  · obtain ⟨rfl, rfl⟩ := Prod.mk.inj hresult
    exact .inr ⟨rfl, rfl, hjobs, hnew⟩

/-- The answer to the last call of a submission, which goes on as `f` says. -/
theorem Delivers.answered_admission (inv : Delivers S s) {v : Request} {revisionId : String}
    {nonce : Nonce} {now : Time} {id : String} {run : WorkflowRun} {sessions : List Session}
    {policy : WorkflowAdmissionPolicy} {fault : Fault} {clock : Time}
    {submissions : List (Request × Task (Except SubmitError TokyoTester.Submitted))}
    {reply : Except DbError (WorkflowJob × Bool)} {db' : Database}
    {f : Except DbError (WorkflowJob × Bool) → Task (Except SubmitError TokyoTester.Submitted)}
    (hok : ∀ job created, f (.ok (job, created))
      = pure (.ok { job := job, created := created, workflowRevisionId := revisionId }))
    (herror : ∀ e, f (.error e) = pure (.error (.store e)))
    (h : (StoreOp.admitWorkflowJob (Submission.newJob S (revised v revisionId) nonce now id) run
      sessions policy).call fault clock s.db = (reply, db')) :
    Answered S { s with db := db', submissions := submissions } v (f reply) := by
  match reply, h with
  | .error e, _ =>
      rw [herror]
      trivial
  | .ok (job, created), h =>
      rw [hok]
      intro hcreated
      obtain rfl : created = true := hcreated
      rcases admission_answer h with ⟨hfalse, -⟩ | ⟨-, -, hjobs, hnew⟩
      · cases hfalse
      have hcarries := newJob_carries S (revised v revisionId) nonce now id
      refine ⟨⟨_, hjobs ▸ List.mem_append_right _ (List.mem_singleton_self _), hcarries⟩, ?_⟩
      -- nothing was executed under a new run identifier
      intro e he hrun
      obtain ⟨-, -, -, j, hj, hsame⟩ := inv.executions e he
      exact absurd (hsame.trans (hrun.trans hcarries.1.symm)) (hnew j hj)

/-- An answer stays right. -/
theorem Delivers.answered_step (inv : Delivers S s) (known : Invariant s)
    (hmax : 0 ≤ S.config.maxRecoveries) (h : step S s event = some s') {v : Request}
    {task : Task (Except SubmitError TokyoTester.Submitted)} (htask : Answered S s v task) :
    Answered S s' v task := by
  match task, htask with
  | .done (.error _), _ => trivial
  | .done (.ok _), hdone => exact fun hcreated => (hdone hcreated).step inv known hmax h
  | .call _ _, ⟨recorded, hrecorded, hcall⟩ =>
      exact ⟨recorded, fun revision hmem => (hrecorded revision hmem).step known h, hcall⟩

/-- **A revision that a submission has recorded is in the table.** -/
theorem call_recordedBy {op : Op} {answer : Answer} {db db' : Database} {reply : Reply op}
    {revision : WorkflowRevision} (h : handleLive op answer db = (reply, db'))
    (hrecorded : Submission.recordedBy op reply = some revision) :
    ∃ number, { revision with revisionNumber := number } ∈ db'.workflowRevisions := by
  cases op with
  | store detached call =>
      cases call with
      | createWorkflowRevision recorded =>
          rw [handleLive_store] at h
          cases reply with
          | error e => cases hrecorded
          | ok u =>
              obtain rfl := Option.some.inj hrecorded
              have hcommitted := apply_eq_ok (congrArg Prod.fst h)
              obtain ⟨db₁, hcreate, hpair⟩ := Transaction.map_eq_ok.1 hcommitted
              obtain rfl : db₁ = db' :=
                (Prod.mk.inj hpair).2.trans (congrArg Prod.snd h)
              unfold Database.createWorkflowRevision at hcreate
              dsimp only at hcreate
              split_ifs at hcreate
              obtain rfl := Except.ok.inj hcreate
              exact ⟨_, List.mem_append_right _ (List.mem_singleton_self _)⟩
      | _ => cases hrecorded
  | _ => cases hrecorded

theorem Delivers.step_answered (inv : Delivers S s) (known : Invariant s)
    (hmax : 0 ≤ S.config.maxRecoveries) (h : step S s event = some s') :
    ∀ x ∈ s'.submissions, ∀ v, x.1.validate = .ok v → Answered S s' v x.2 := by
  have hold : ∀ x ∈ s.submissions, ∀ v, x.1.validate = .ok v → Answered S s' v x.2 :=
    fun x hx v hvalid => inv.answered_step known hmax h (inv.answered x hx v hvalid)
  intro x hx v hvalid
  rcases step_submissions h with hsame | ⟨request, rfl⟩ | ⟨i, request, op, next, answer, hi, rfl⟩
  · exact hold x (hsame ▸ hx) v hvalid
  · rcases List.mem_append.1 hx with hx | hx
    · exact hold x hx v hvalid
    · obtain rfl := List.mem_singleton.1 hx
      exact answered_of_submits (by simp) (Submission.submit_submits hvalid)
  · rcases List.mem_or_eq_of_mem_set hx with hx | rfl
    · exact hold x hx v hvalid
    · obtain ⟨recorded, hrecorded, hsubmits⟩ := inv.answered _ (List.mem_of_getElem? hi) v hvalid
      rcases hsubmits with ⟨-, hnext⟩ | ⟨revision, -, -, nonce, now, id, hcall⟩
      · refine answered_of_submits (fun revision hmem => ?_) (hnext _)
        rcases List.mem_append.1 hmem with hmem | hmem
        · exact (hrecorded revision hmem).step known h
        · exact call_recordedBy rfl (Option.mem_toList.1 hmem)
      · obtain ⟨rfl, hnext⟩ := Program.call.inj hcall
        have hnext := eq_of_heq hnext
        refine inv.answered_admission (f := next) (fun _ _ => ?_) (fun _ => ?_)
          (handleLive_store false _ answer s.db).symm
        · rw [hnext]
          rfl
        · rw [hnext]
          rfl

theorem Delivers.step_refused (inv : Delivers S s) (h : step S s event = some s') :
    ∀ x ∈ s'.submissions, ∀ e, x.1.validate = .error e → ∃ e', x.2 = .done (.error e') := by
  intro x hx e hinvalid
  rcases step_submissions h with hsame | ⟨request, rfl⟩ | ⟨i, request, op, next, answer, hi, rfl⟩
  · exact inv.refused x (hsame ▸ hx) e hinvalid
  · rcases List.mem_append.1 hx with hx | hx
    · exact inv.refused x hx e hinvalid
    · obtain rfl := List.mem_singleton.1 hx
      refine ⟨.text e, ?_⟩
      dsimp only at hinvalid ⊢
      unfold WorkflowService.submit
      rw [hinvalid]
      rfl
  · rcases List.mem_or_eq_of_mem_set hx with hx | rfl
    · exact inv.refused x hx e hinvalid
    · -- an invalid request makes no calls
      obtain ⟨e', he'⟩ := inv.refused _ (List.mem_of_getElem? hi) e hinvalid
      cases he'

/-- **Every step keeps what is delivered.** -/
theorem Delivers.step (inv : Delivers S s) (known : Invariant s)
    (hmax : 0 ≤ S.config.maxRecoveries) (h : step S s event = some s') : Delivers S s' where
  queue := inv.step_queue known hmax h
  rows := inv.step_rows known h
  executions := inv.step_executed known hmax h
  answered := inv.step_answered known hmax h
  refused := inv.step_refused h

/-! ## Runs -/

/-- An empty job table. -/
theorem start_delivers {db : Database} (hjobs : db.workflowJobs = []) :
    Invariant { db } ∧ Delivers S { db } := by
  refine ⟨⟨?_, by simp [hjobs], fun _ => trivial, by simp⟩, ?_, by simp [hjobs], by simp, by simp,
    by simp⟩
  · simp [hjobs, Keyed]
  · exact hjobs ▸ QueueInvariant.empty

theorem Run.delivers {db : Database} (hjobs : db.workflowJobs = [])
    (hmax : 0 ≤ S.config.maxRecoveries) {events : List RunnersEvent}
    (run : Run S { db } events s) : Delivers S s :=
  (Trace.Steps.invariant (fun t => Invariant t ∧ Delivers S t) run
    (fun h inv => ⟨inv.1.step h, inv.2.step inv.1 hmax h⟩) (start_delivers hjobs)).2

theorem sampleService_lawful : sampleService.cipher.Lawful := by
  refine ⟨fun nonce c p => ?_, fun nonce p => by simp [sampleService]⟩
  simp only [sampleService]
  constructor
  · intro h
    split_ifs at h with htag
    rw [← Option.some.inj h, ← htag, List.take_append_drop]
  · rintro rfl
    simp

/-- An idle worker executes the pending job that its claim selects. -/
theorem step_claim_pending (hk : Keyed WorkflowJob.id s.db.workflowJobs) {owner : String}
    (hidle : (s.workers owner).job? = none) {now : Time} {tie : ℕ} {job : WorkflowJob}
    (hsel : s.db.selectClaim now S.config.policy true [] tie = some job)
    (hpending : job.status = .pending) (hnone : job.cancelRequestedAt = none) :
    ∃ s', step S s (.claim owner now [] tie false) = some s' ∧
      s'.executions = s.executions ++
        [(owner, Database.claimedRow owner now S.config.leaseDuration false job)] := by
  have hworker : s.workers owner = .idle := by
    cases hw : s.workers owner with
    | idle => rfl
    | busy | waiting =>
        rw [hw] at hidle
        cases hidle
  have hclaim : (s.claimed S owner now [] tie).1
      = some (Database.claimedRow owner now S.config.leaseDuration false job) :=
    congrArg Prod.fst (claimWorkflowJob_pending hk
      (mem_pendingJobs.2 ⟨(Database.selectClaim_some hsel).1, hpending⟩) hsel)
  have hexec : Execution.executes
      (Database.claimedRow owner now S.config.leaseDuration false job) = true := by
    simp [Execution.executes, Database.claimedRow, hnone]
  unfold step
  simp only [hworker, hclaim]
  exact ⟨_, rfl, by simp [began, setWorker, hexec]⟩

/-- A workflow is submitted to an empty database. -/
def submittedRequest : List RunnersEvent :=
  .submit retriedRequest :: List.replicate 13 (.submission 0 { now := 10, id := "new" })

end Runners

end TokyoTester
