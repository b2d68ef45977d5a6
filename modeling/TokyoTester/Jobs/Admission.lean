import TokyoTester.Jobs.Lifecycle
import TokyoTester.Library.FixedWindow

set_option autoImplicit false

/-! # Admission control

An admission counts against the rate limits of its user and its project, then against three queue
limits, and any later refusal rolls the counters back. The counters are fixed windows of a minute,
so the bounds on a minute are those of `FixedWindow`. -/

namespace TokyoTester

open Table

/-- A call of `AdmitWorkflowJob`. -/
structure AdmissionCall where
  /-- The server's clock, read when the job carries no creation time. -/
  clock : Time
  job : WorkflowJob
  run : Option WorkflowRun
  sessions : List (Option Session)

namespace AdmissionCall

/-- The time of a call: the creation time of its job. -/
def now (c : AdmissionCall) : Time :=
  if c.job.createdAt = zeroTime then c.clock else c.job.createdAt

def result (policy : WorkflowAdmissionPolicy) (c : AdmissionCall) (db : Database) :
    Except DbError ((WorkflowJob × Bool) × Database) :=
  db.admitWorkflowJob c.clock (some c.job) c.run c.sessions policy

/-- The database after a call. -/
def after (policy : WorkflowAdmissionPolicy) (c : AdmissionCall) (db : Database) : Database :=
  Transaction.after (c.result policy db) db

/-- The call is admitted: it creates its job. -/
def admitted (policy : WorkflowAdmissionPolicy) (c : AdmissionCall) (db : Database) : Bool :=
  match c.result policy db with
  | .ok ((_, created), _) => created
  | .error _ => false

/-- The database after calls. -/
def afterAll (policy : WorkflowAdmissionPolicy) (calls : List AdmissionCall) (db : Database) :
    Database :=
  calls.foldl (fun db c => c.after policy db) db

/-- The admitted ones among calls. -/
def admittedOf (policy : WorkflowAdmissionPolicy) : List AdmissionCall → Database →
    List AdmissionCall
  | [], _ => []
  | c :: calls, db =>
    if c.admitted policy db then c :: admittedOf policy calls (c.after policy db)
    else admittedOf policy calls (c.after policy db)

end AdmissionCall

namespace Database

variable {db db' : Database}

/-! ## Counters -/

/-- The rate limit row of a subject. -/
def rateLimit (scope subjectId : String) (db : Database) : Option SubmissionRateLimit :=
  find (fun r : SubmissionRateLimit => (r.scope, r.subjectId)) (scope, subjectId)
    db.submissionRateLimits

/-- The counter of a subject. -/
def rateCounter (scope subjectId : String) (db : Database) : Option FixedWindow.Counter :=
  (db.rateLimit scope subjectId).map fun r => ⟨r.windowStartedAt, r.requestCount⟩

theorem rateCounter_congr (h : db'.submissionRateLimits = db.submissionRateLimits)
    (scope subjectId : String) :
    db'.rateCounter scope subjectId = db.rateCounter scope subjectId := by
  unfold rateCounter rateLimit
  rw [h]

/-- The counter after an update of a subject's rows. -/
theorem rateCounter_update {scope subjectId : String} {row : SubmissionRateLimit}
    (hrow : db.rateLimit scope subjectId = some row) {f : SubmissionRateLimit → SubmissionRateLimit}
    (hscope : ∀ r, (f r).scope = r.scope) (hsubject : ∀ r, (f r).subjectId = r.subjectId)
    (key : String × String) :
    rateCounter key.1 key.2 { db with
        submissionRateLimits := updateWhere (fun r => r.scope = scope && r.subjectId = subjectId) f
          db.submissionRateLimits }
      = if key = (scope, subjectId) then
          some ⟨(f row).windowStartedAt, (f row).requestCount⟩
        else db.rateCounter key.1 key.2 := by
  unfold rateCounter rateLimit
  rw [find_updateWhere (fun r _ _ => by rw [hscope, hsubject])]
  by_cases hkey : key = (scope, subjectId)
  · subst hkey
    unfold rateLimit at hrow
    have hmatch := (find_some hrow).2
    simp only [Prod.mk.injEq] at hmatch
    simp [hrow, hmatch]
  · rw [if_neg hkey]
    cases hfind : find (fun r : SubmissionRateLimit => (r.scope, r.subjectId)) key
        db.submissionRateLimits with
    | none => rfl
    | some r =>
        have hmatch := (find_some hfind).2
        have hne : ¬ (r.scope = scope ∧ r.subjectId = subjectId) := by
          rintro ⟨rfl, rfl⟩
          exact hkey hmatch.symm
        simp [hne]

/-- **What a check of the rate limits does**: a request to the subject's counter. -/
theorem enforceWorkflowRateLimit_spec {now : Time} {scope subjectId : String} {limit : Int}
    (hlimit : 0 < limit)
    (h : db.enforceWorkflowRateLimit now scope subjectId limit = .ok db') :
    ∃ c, FixedWindow.request minute limit now (db.rateCounter scope subjectId) = some c ∧
      ∀ key, db'.rateCounter key.1 key.2
        = if key = (scope, subjectId) then some c else db.rateCounter key.1 key.2 := by
  unfold enforceWorkflowRateLimit at h
  rw [if_neg (by omega)] at h
  cases hrow : db.rateLimit scope subjectId with
  -- no counter yet: the first request opens the window
  | none =>
      rw [show find _ _ _ = none from hrow] at h
      dsimp only at h
      split_ifs at h
      obtain rfl := Except.ok.inj h
      refine ⟨⟨now, 1⟩, by simp [rateCounter, hrow, FixedWindow.request], ?_⟩
      intro key
      unfold rateCounter rateLimit
      rw [find_append]
      by_cases hkey : key = (scope, subjectId)
      · subst hkey
        unfold rateLimit at hrow
        simp [hrow]
      · simp [hkey, Ne.symm hkey]
  | some row =>
      rw [show find _ _ _ = some row from hrow] at h
      dsimp only at h
      have hcounter : db.rateCounter scope subjectId
          = some ⟨row.windowStartedAt, row.requestCount⟩ := by simp [rateCounter, hrow]
      rw [hcounter]
      unfold FixedWindow.request
      dsimp only
      -- the limit is looked at only while the window runs; a later request opens the next one
      by_cases hrunning : now < row.windowStartedAt + minute
      · rw [if_neg (not_not.2 hrunning)] at h ⊢
        split_ifs at h with hfull
        obtain rfl := Except.ok.inj h
        rw [if_neg hfull]
        exact ⟨_, rfl, rateCounter_update hrow (fun _ => rfl) fun _ => rfl⟩
      · rw [if_pos hrunning] at h ⊢
        obtain rfl := Except.ok.inj h
        exact ⟨_, rfl, rateCounter_update hrow (fun _ => rfl) fun _ => rfl⟩

/-- A check leaves the counters of other subjects alone. -/
theorem enforceWorkflowRateLimit_other {now : Time} {scope subjectId : String} {limit : Int}
    (h : db.enforceWorkflowRateLimit now scope subjectId limit = .ok db')
    (key : String × String) (hkey : key ≠ (scope, subjectId)) :
    db'.rateCounter key.1 key.2 = db.rateCounter key.1 key.2 := by
  by_cases hlimit : 0 < limit
  · obtain ⟨c, -, hall⟩ := enforceWorkflowRateLimit_spec hlimit h
    rw [hall, if_neg hkey]
  · unfold enforceWorkflowRateLimit at h
    rw [if_pos (by omega)] at h
    rw [Except.ok.inj h]

end Database

/-! ## One call -/

namespace AdmissionCall

variable {policy : WorkflowAdmissionPolicy} {c : AdmissionCall} {db : Database}

/-- A call that is not admitted leaves the counters as they were. -/
theorem after_submissionRateLimits (h : c.admitted policy db = false) :
    (c.after policy db).submissionRateLimits = db.submissionRateLimits := by
  unfold admitted at h
  unfold after
  cases hresult : c.result policy db with
  | error e => rfl
  | ok r =>
      obtain ⟨⟨j, created⟩, db'⟩ := r
      rw [hresult] at h
      obtain ⟨db₁, h₁, hdb⟩ := Database.admitWorkflowJob_spec hresult
      rcases Database.admitJob_spec h₁ with
        ⟨_, -, -, -, rfl⟩ | ⟨-, _, -, -, -, -, hcreated, -⟩
      · simp only [Transaction.after_ok]
        rw [hdb]
      · obtain rfl := (Prod.mk.inj hcreated).2
        cases h

/-- An admitted call passed every check, and added its job. -/
theorem admitted_spec (h : c.admitted policy db = true) :
    ∃ db₁, db.enforceWorkflowRateLimits c.clock c.job policy = .ok db₁ ∧
      db₁.enforceWorkflowAdmission c.job policy = .ok () ∧
      (c.after policy db).submissionRateLimits = db₁.submissionRateLimits ∧
      (c.after policy db).workflowJobs = db.workflowJobs ++ [Database.admittedRow c.job] := by
  unfold admitted at h
  unfold after
  cases hresult : c.result policy db with
  | error e =>
      rw [hresult] at h
      cases h
  | ok r =>
      obtain ⟨⟨j, created⟩, db'⟩ := r
      rw [hresult] at h
      obtain ⟨db₁, h₁, hdb⟩ := Database.admitWorkflowJob_spec hresult
      rcases Database.admitJob_spec h₁ with
        ⟨_, -, -, hfound, -⟩ | ⟨-, db₂, hrates, hqueue, -, -, -, rfl⟩
      · obtain rfl := (Prod.mk.inj hfound).2
        cases h
      · refine ⟨db₂, hrates, hqueue, ?_, ?_⟩
        · simp only [Transaction.after_ok]
          rw [hdb]
        · simp only [Transaction.after_ok]
          rw [hdb]

/-- The counter of a subject under a call: a request when the call is an admitted one of the
    subject, unchanged otherwise. -/
structure Counted (policy : WorkflowAdmissionPolicy) (scope : String) (limit : Int)
    (subjectOf : AdmissionCall → String) : Prop where
  request : ∀ (c : AdmissionCall) (db : Database), c.admitted policy db = true → ∃ counter,
    FixedWindow.request minute limit c.now (db.rateCounter scope (subjectOf c)) = some counter ∧
      (c.after policy db).rateCounter scope (subjectOf c) = some counter
  other : ∀ (c : AdmissionCall) (db : Database) (subject : String), c.admitted policy db = true → subject ≠ subjectOf c →
    (c.after policy db).rateCounter scope subject = db.rateCounter scope subject

theorem counted_user (hlimit : 0 < policy.submissionsPerMinuteUser) :
    Counted policy "user_rate" policy.submissionsPerMinuteUser (·.job.userId) where
  request c db h := by
    obtain ⟨db₁, hrates, -, hafter, -⟩ := admitted_spec h
    obtain ⟨db₂, huser, hproject⟩ := Transaction.bind_eq_ok.1 hrates
    obtain ⟨counter, hreq, hall⟩ := Database.enforceWorkflowRateLimit_spec hlimit huser
    refine ⟨counter, hreq, ?_⟩
    rw [Database.rateCounter_congr hafter,
      Database.enforceWorkflowRateLimit_other hproject ("user_rate", c.job.userId)
        (by simp), hall ("user_rate", c.job.userId), if_pos rfl]
  other c db subject h hne := by
    obtain ⟨db₁, hrates, -, hafter, -⟩ := admitted_spec h
    obtain ⟨db₂, huser, hproject⟩ := Transaction.bind_eq_ok.1 hrates
    rw [Database.rateCounter_congr hafter,
      Database.enforceWorkflowRateLimit_other hproject ("user_rate", subject) (by simp),
      Database.enforceWorkflowRateLimit_other huser ("user_rate", subject)
        (by simpa using hne)]

theorem counted_project (hlimit : 0 < policy.submissionsPerMinuteProject) :
    Counted policy "project_rate" policy.submissionsPerMinuteProject (·.job.projectId) where
  request c db h := by
    obtain ⟨db₁, hrates, -, hafter, -⟩ := admitted_spec h
    obtain ⟨db₂, huser, hproject⟩ := Transaction.bind_eq_ok.1 hrates
    obtain ⟨counter, hreq, hall⟩ := Database.enforceWorkflowRateLimit_spec hlimit hproject
    rw [Database.enforceWorkflowRateLimit_other huser ("project_rate", c.job.projectId)
      (by simp)] at hreq
    refine ⟨counter, hreq, ?_⟩
    rw [Database.rateCounter_congr hafter, hall ("project_rate", c.job.projectId), if_pos rfl]
  other c db subject h hne := by
    obtain ⟨db₁, hrates, -, hafter, -⟩ := admitted_spec h
    obtain ⟨db₂, huser, hproject⟩ := Transaction.bind_eq_ok.1 hrates
    rw [Database.rateCounter_congr hafter,
      Database.enforceWorkflowRateLimit_other hproject ("project_rate", subject)
        (by simpa using hne),
      Database.enforceWorkflowRateLimit_other huser ("project_rate", subject) (by simp)]

/-! ## Sequences of calls -/

/-- The times of the admitted calls of a subject. -/
def timesOf (policy : WorkflowAdmissionPolicy) (subjectOf : AdmissionCall → String)
    (subject : String) (calls : List AdmissionCall) (db : Database) : List Time :=
  ((admittedOf policy calls db).filter fun c => subjectOf c = subject).map now

/-- **The counter after calls** is the one after the requests of the admitted calls. -/
theorem Counted.admitted_timesOf {scope : String} {limit : Int}
    {subjectOf : AdmissionCall → String} (h : Counted policy scope limit subjectOf)
    (subject : String) (calls : List AdmissionCall) :
    ∀ db : Database,
      FixedWindow.admitted minute limit (db.rateCounter scope subject)
          (timesOf policy subjectOf subject calls db)
        = some ((afterAll policy calls db).rateCounter scope subject) := by
  induction calls with
  | nil =>
      intro db
      rfl
  | cons c calls ih =>
      intro db
      have ih := ih (c.after policy db)
      simp only [timesOf, admittedOf, afterAll, List.foldl_cons] at ih ⊢
      by_cases hadm : c.admitted policy db = true
      · rw [if_pos hadm, List.filter_cons]
        by_cases hsubject : subjectOf c = subject
        · subst hsubject
          obtain ⟨counter, hreq, hcounter⟩ := h.request c db hadm
          rw [if_pos (by simp), List.map_cons]
          simp only [FixedWindow.admitted]
          rw [hreq, Option.bind_some, ← hcounter]
          exact ih
        · rw [if_neg (by simpa using hsubject), ← h.other c db subject hadm (Ne.symm hsubject)]
          exact ih
      · rw [if_neg hadm]
        rw [Bool.not_eq_true] at hadm
        rw [← Database.rateCounter_congr (after_submissionRateLimits hadm) scope subject]
        exact ih

theorem admittedOf_append (pre post : List AdmissionCall) :
    ∀ db : Database, admittedOf policy (pre ++ post) db
      = admittedOf policy pre db ++ admittedOf policy post (afterAll policy pre db) := by
  induction pre with
  | nil =>
      intro db
      rfl
  | cons c pre ih =>
      intro db
      simp only [List.cons_append, admittedOf, afterAll, List.foldl_cons] at ih ⊢
      rw [ih]
      split_ifs <;> rfl

theorem admittedOf_sublist (calls : List AdmissionCall) :
    ∀ db : Database, (admittedOf policy calls db).Sublist calls := by
  induction calls with
  | nil =>
      intro db
      exact .refl []
  | cons c calls ih =>
      intro db
      simp only [admittedOf]
      split_ifs
      · exact (ih _).cons_cons c
      · exact (ih _).cons c

theorem timesOf_sorted {subjectOf : AdmissionCall → String} {subject : String}
    {calls : List AdmissionCall} (hsorted : calls.Pairwise fun c d => c.now ≤ d.now)
    (db : Database) : (timesOf policy subjectOf subject calls db).Pairwise (· ≤ ·) := by
  unfold timesOf
  rw [List.pairwise_map]
  exact (hsorted.sublist (admittedOf_sublist calls db)).sublist List.filter_sublist

theorem timesOf_append {subjectOf : AdmissionCall → String} {subject : String}
    (pre post : List AdmissionCall) (db : Database) :
    timesOf policy subjectOf subject (pre ++ post) db
      = timesOf policy subjectOf subject pre db ++
        timesOf policy subjectOf subject post (afterAll policy pre db) := by
  simp [timesOf, admittedOf_append]

/-- The bounds on the admitted calls of a subject: the limit within a stored window, and twice the
    limit within any minute. -/
def Bounded (policy : WorkflowAdmissionPolicy) (scope : String) (limit : Int)
    (subjectOf : AdmissionCall → String) (calls : List AdmissionCall) (init : Database) : Prop :=
  ∀ subject,
    (∀ pre, pre <+: calls → ∀ row, (afterAll policy pre init).rateLimit scope subject = some row →
      ((admittedOf policy calls init).countP fun c => subjectOf c = subject &&
        (row.windowStartedAt ≤ c.now && c.now < row.windowStartedAt + minute) : Int) ≤ limit) ∧
    ∀ t, ((admittedOf policy calls init).countP fun c => subjectOf c = subject &&
      (t ≤ c.now && c.now ≤ t + minute) : Int) ≤ 2 * limit

theorem countP_timesOf {subjectOf : AdmissionCall → String} {subject : String}
    (calls : List AdmissionCall) (db : Database) (p : Time → Bool) :
    (admittedOf policy calls db).countP (fun c => subjectOf c = subject && p c.now)
      = (timesOf policy subjectOf subject calls db).countP p := by
  unfold timesOf
  rw [List.countP_map, List.countP_filter]
  congr 1
  funext c
  simp [Bool.and_comm]

theorem Counted.bounded {scope : String} {limit : Int} {subjectOf : AdmissionCall → String}
    (h : Counted policy scope limit subjectOf) (hlimit : 0 < limit) {calls : List AdmissionCall}
    (hsorted : calls.Pairwise fun c d => c.now ≤ d.now) {init : Database}
    (hinit : init.submissionRateLimits = []) :
    Bounded policy scope limit subjectOf calls init := by
  intro subject
  have hfresh : init.rateCounter scope subject = none := by
    simp [Database.rateCounter, Database.rateLimit, Table.find, hinit]
  constructor
  · rintro pre ⟨post, rfl⟩ row hrow
    -- the ledger up to the state that stores the window, then the one of the whole sequence
    obtain ⟨stamps, hledger, htimes⟩ := (FixedWindow.Ledger.empty hlimit).extend
      (show (0 : Int) < minute by decide) hlimit (timesOf policy subjectOf subject pre init)
      (by simpa using timesOf_sorted (hsorted.sublist (List.sublist_append_left pre post)) init)
      (hfresh ▸ h.admitted_timesOf subject pre init)
    obtain ⟨-, ⟨w, hw, hwstart⟩, -⟩ := hledger.last ⟨row.windowStartedAt, row.requestCount⟩
      (by simp [Database.rateCounter, hrow])
    obtain ⟨more, hmore, htail⟩ := hledger.extend (show (0 : Int) < minute by decide) hlimit
      (timesOf policy subjectOf subject post (afterAll policy pre init))
      (by
        rw [List.nil_append, htimes, ← timesOf_append]
        exact timesOf_sorted hsorted init)
      (h.admitted_timesOf subject post (afterAll policy pre init))
    have hbound := hmore.count_window_le (w := w) (by simpa using .inl hw)
    rw [hwstart] at hbound
    rw [countP_timesOf (pre ++ post) init fun now =>
        decide (row.windowStartedAt ≤ now) && decide (now < row.windowStartedAt + minute),
      FixedWindow.countP_times ([] ++ stamps ++ more)
        (by rw [timesOf_append, List.map_append, List.nil_append, htimes, htail])]
    exact hbound
  · intro t
    obtain ⟨stamps, hledger, htimes⟩ := (FixedWindow.Ledger.empty hlimit).extend
      (show (0 : Int) < minute by decide) hlimit (timesOf policy subjectOf subject calls init)
      (by simpa using timesOf_sorted hsorted init) (hfresh ▸ h.admitted_timesOf subject calls init)
    rw [countP_timesOf calls init fun now => decide (t ≤ now) && decide (now ≤ t + minute),
      FixedWindow.countP_times _ htimes]
    exact hledger.count_interval_le hlimit t

/-! ## Queue limits -/

/-- The pending jobs of a scope. -/
def pendingCount (ofScope : WorkflowJob → Bool) (db : Database) : Int :=
  (db.workflowJobs.countP fun j => j.status = .pending && ofScope j : Nat)

theorem enforceQueueLimit_ok {scope : String} {limit : Int} {ofScope : WorkflowJob → Bool}
    (h : db.enforceQueueLimit scope limit ofScope = .ok ()) (hlimit : 0 < limit) :
    pendingCount ofScope db < limit := by
  unfold Database.enforceQueueLimit at h
  split_ifs at h with hfull
  by_contra hge
  exact hfull ⟨hlimit, not_lt.1 hge⟩

/-- One more job is at most one more pending job of a scope. -/
theorem pendingCount_append_le {db' : Database} {row : WorkflowJob}
    (h : db'.workflowJobs = db.workflowJobs ++ [row]) (ofScope : WorkflowJob → Bool) :
    pendingCount ofScope db' ≤ pendingCount ofScope db + 1 := by
  unfold pendingCount
  rw [h, List.countP_append]
  have : [row].countP (fun j => j.status = .pending && ofScope j) ≤ 1 := by
    simpa using List.countP_le_length (p := fun j => j.status = .pending && ofScope j) (l := [row])
  push_cast
  omega

/-- After an admitted call every queue is within its limit. -/
theorem admitted_pendingCount (h : c.admitted policy db = true) :
    (0 < policy.maxQueuedGlobal →
      pendingCount (fun _ => true) (c.after policy db) ≤ policy.maxQueuedGlobal) ∧
    (0 < policy.maxQueuedPerUser →
      pendingCount (fun j => j.userId = c.job.userId) (c.after policy db)
        ≤ policy.maxQueuedPerUser) ∧
    (0 < policy.maxQueuedPerProject →
      pendingCount (fun j => j.projectId = c.job.projectId) (c.after policy db)
        ≤ policy.maxQueuedPerProject) := by
  obtain ⟨db₁, hrates, hqueue, -, hjobs⟩ := admitted_spec h
  have hjobs₁ : db₁.workflowJobs = db.workflowJobs := by
    rw [Database.enforceWorkflowRateLimits_eq hrates]
  have hjobs' : (c.after policy db).workflowJobs
      = db₁.workflowJobs ++ [Database.admittedRow c.job] := by rw [hjobs, hjobs₁]
  obtain ⟨⟨⟩, hglobal, hqueue⟩ := Transaction.bind_eq_ok.1 hqueue
  obtain ⟨⟨⟩, huser, hproject⟩ := Transaction.bind_eq_ok.1 hqueue
  refine ⟨fun hlimit => ?_, fun hlimit => ?_, fun hlimit => ?_⟩
  · have := enforceQueueLimit_ok hglobal hlimit
    have := pendingCount_append_le hjobs' fun _ => true
    omega
  · have := enforceQueueLimit_ok huser hlimit
    have := pendingCount_append_le hjobs' fun j => decide (j.userId = c.job.userId)
    omega
  · have := enforceQueueLimit_ok hproject hlimit
    have := pendingCount_append_le hjobs' fun j => decide (j.projectId = c.job.projectId)
    omega

end AdmissionCall

open AdmissionCall in
/-- **Admission control.** For every sequence of admissions in the order of their times, under one
    policy and from empty counters: (a) a positive rate limit bounds the admitted calls of each
    user and each project within a stored window, and twice the limit those within any minute;
    (b) a call that is refused, or whose run has a job, leaves all counters as they were; (c) after
    an admitted call no queue is over its limit. -/
theorem admission_control (policy : WorkflowAdmissionPolicy) (init : Database)
    (hinit : init.submissionRateLimits = []) (calls : List AdmissionCall)
    (hsorted : calls.Pairwise fun c d => c.now ≤ d.now) :
    ((0 < policy.submissionsPerMinuteUser →
        Bounded policy "user_rate" policy.submissionsPerMinuteUser (·.job.userId) calls init) ∧
      (0 < policy.submissionsPerMinuteProject →
        Bounded policy "project_rate" policy.submissionsPerMinuteProject (·.job.projectId) calls
          init)) ∧
    ∀ pre c, pre ++ [c] <+: calls →
      (((∃ e, c.result policy (afterAll policy pre init) = .error e) ∨
          ((afterAll policy pre init).jobOfRun c.job.workflowRunId).isSome = true) →
        (afterAll policy (pre ++ [c]) init).submissionRateLimits
          = (afterAll policy pre init).submissionRateLimits) ∧
      (c.admitted policy (afterAll policy pre init) = true →
        (0 < policy.maxQueuedGlobal →
          pendingCount (fun _ => true) (afterAll policy (pre ++ [c]) init)
            ≤ policy.maxQueuedGlobal) ∧
        (0 < policy.maxQueuedPerUser →
          pendingCount (fun j => j.userId = c.job.userId) (afterAll policy (pre ++ [c]) init)
            ≤ policy.maxQueuedPerUser) ∧
        (0 < policy.maxQueuedPerProject →
          pendingCount (fun j => j.projectId = c.job.projectId)
              (afterAll policy (pre ++ [c]) init)
            ≤ policy.maxQueuedPerProject)) := by
  refine ⟨⟨fun hlimit => (counted_user hlimit).bounded hlimit hsorted hinit,
    fun hlimit => (counted_project hlimit).bounded hlimit hsorted hinit⟩, ?_⟩
  intro pre c _
  have hstep : afterAll policy (pre ++ [c]) init = c.after policy (afterAll policy pre init) := by
    simp [afterAll]
  rw [hstep]
  refine ⟨?_, admitted_pendingCount⟩
  intro hrefused
  apply after_submissionRateLimits
  rcases hrefused with ⟨e, he⟩ | hfound
  · simp [AdmissionCall.admitted, he]
  · -- a created job had no job before it
    by_contra hcreated
    rw [Bool.not_eq_false] at hcreated
    unfold AdmissionCall.admitted at hcreated
    cases hresult : c.result policy (afterAll policy pre init) with
    | error e =>
        rw [hresult] at hcreated
        cases hcreated
    | ok r =>
        obtain ⟨⟨j, created⟩, db'⟩ := r
        rw [hresult] at hcreated
        obtain ⟨db₁, h₁, -⟩ := Database.admitWorkflowJob_spec hresult
        rcases Database.admitJob_spec h₁ with ⟨_, -, -, hsame, -⟩ | ⟨hnone, -⟩
        · obtain rfl := (Prod.mk.inj hsame).2
          cases hcreated
        · rw [hnone] at hfound
          cases hfound

/-- Admissions of one user at given times, each for a run of its own. -/
def sampleAdmission (id : String) (now : Time) : AdmissionCall where
  clock := 0
  job := { sampleJob with id, workflowRunId := id, createdAt := now }
  run := some { sampleRun with id }
  sessions := []

def sampleAdmissions : List AdmissionCall :=
  [sampleAdmission "a" 0, sampleAdmission "b" 59000, sampleAdmission "c" 59500,
    sampleAdmission "d" 60000, sampleAdmission "e" 60500]

/-- With a limit of two a minute, four of five calls are admitted within 1.5 seconds of a window's
    end, which is the most a minute can hold. -/
theorem admission_control_burst :
    ((AdmissionCall.admittedOf { submissionsPerMinuteUser := 2 } sampleAdmissions
        sampleDatabase).map (·.job.id)) = ["a", "b", "d", "e"] ∧
      AdmissionCall.Bounded { submissionsPerMinuteUser := 2 } "user_rate" 2 (·.job.userId)
        sampleAdmissions sampleDatabase :=
  ⟨by decide +kernel,
    (admission_control { submissionsPerMinuteUser := 2 } sampleDatabase rfl sampleAdmissions
      (by decide)).1.1 (by decide)⟩

end TokyoTester
