import TokyoTester.Runs.Plans

set_option autoImplicit false

/-! # The rows of test results

The id of a test's row is joined from the run, the scenario and the name of the test, and a write to
an id that is there keeps the session and the test's name of the row. So the rows of a session hold
the last results of its tests as long as no two tests, and no two sessions, get ids that are one for
the collation of the column. -/

namespace TokyoTester

open Program Handler Table

/-! ## Calls of `persistTestResult` -/

/-- A call of `persistTestResult`, with the clock that it reads and the store's reply. -/
structure PersistCall where
  persisted : Session
  result : Dto.TestResult
  clock : Answer
  reply : Answer

namespace PersistCall

variable (c : PersistCall)

def rowId : String := testResultId c.persisted c.result.name

def row : TestResult := testResultRow c.persisted c.result c.clock.now

/-- The database after the call. -/
def after (db : Database) : Database :=
  (((persistTestResult c.persisted c.result).run handleLive [c.clock, c.reply] db).map
    Prod.snd).getD db

/-- The row is written. -/
def stores (db : Database) : Bool :=
  match c.reply.fault with
  | .refused _ => false
  | _ => (db.upsertTestResult c.row c.row.updatedAt (TestResult.rowKey db.collate)).toOption.isSome

/-- The store takes the row: it fits its columns, and its workflow and its session are there. -/
def writable (db : Database) : Bool :=
  match c.reply.fault with
  | .refused _ => false
  | _ => c.row.fits && db.workflowExists c.persisted.workflowId &&
    db.sessions.any fun s => s.id = c.persisted.id

/-- What a result belongs to. -/
def triple : String × String × String :=
  (c.persisted.workflowRunId, c.persisted.scenarioId, c.result.name)

end PersistCall

/-- The database after a sequence of calls. -/
def persistAll (calls : List PersistCall) (db : Database) : Database :=
  calls.foldl (fun db c => c.after db) db

/-- The calls whose rows are written. -/
def storedCalls : List PersistCall → Database → List PersistCall
  | [], _ => []
  | c :: calls, db => (if c.stores db then [c] else []) ++ storedCalls calls (c.after db)

/-- The last result that was stored for a session and a test. -/
def lastStored (sessionId testName : String) (stored : List PersistCall) : Option PersistCall :=
  stored.reverse.find? fun c => c.persisted.id = sessionId && c.result.name = testName

/-- The result, but for a type that was left empty. -/
def SameResult (result restored : Dto.TestResult) : Prop :=
  restored = { result with type := restored.type } ∧
    (result.type ≠ "" → restored.type = result.type)

/-- `loadPersistedResults` gives the results that were stored last, and no others. -/
def LoadsLast (stored : List PersistCall) (db : Database) : Prop :=
  ∀ (persisted : Session) (reply : Answer), reply.fault = .none →
    ∃ byName, (loadPersistedResults (some persisted)).run handleLive [reply] db
        = some (.ok byName, db) ∧
      ∀ testName, match lastStored persisted.id testName stored with
        | none => byName.lookup testName = none
        | some c => ∃ restored, byName.lookup testName = some restored ∧
            SameResult c.result restored

/-- Calls with one row id are for one session and one test. -/
def OneTest (collate : String → String) (stored : List PersistCall) : Prop :=
  ∀ c ∈ stored, ∀ c' ∈ stored, collate c.rowId = collate c'.rowId →
    c.persisted.id = c'.persisted.id ∧ c.result.name = c'.result.name

/-- Of the results that the store takes, the run, the scenario and the test's name, joined with
    underscores, are one text for the collation only if the session and the test are the same. -/
def JoinedApart (calls : List PersistCall) (db : Database) : Prop :=
  ∀ c ∈ calls, ∀ c' ∈ calls, c.writable db = true → c'.writable db = true →
    db.collate (c.persisted.key.resultId c.result.name)
      = db.collate (c'.persisted.key.resultId c'.result.name) →
    c.persisted.id = c'.persisted.id ∧ c.result.name = c'.result.name

/-! ## One call -/

section Call

variable {c : PersistCall} {db : Database}

/-- What a write keeps of the row that is there. -/
def mergeResult (result : TestResult) (now : Time) (old : TestResult) : TestResult :=
  { result with
    id := old.id, sessionId := old.sessionId, testName := old.testName
    testType := old.testType, createdAt := old.createdAt, updatedAt := now }

/-- **A call writes its row**, or nothing happens. -/
theorem PersistCall.after_eq :
    c.after db = if c.stores db then
        { db with
          testResults := upsert (TestResult.rowKey db.collate) c.row
            (mergeResult c.row c.row.updatedAt) db.testResults }
      else db := by
  have hrun : c.after db = (c.reply.fault.apply db
      ((db.upsertTestResult c.row c.row.updatedAt (TestResult.rowKey db.collate)).map
        fun db' => ((), db'))).2 := rfl
  rw [hrun]
  unfold stores
  cases hup : db.upsertTestResult c.row c.row.updatedAt (TestResult.rowKey db.collate) with
  | error e => cases c.reply.fault <;> simp [Fault.apply, Except.map, Except.toOption]
  | ok db' =>
      have hdb' : db' = { db with
          testResults := upsert (TestResult.rowKey db.collate) c.row
            (mergeResult c.row c.row.updatedAt) db.testResults } := by
        unfold Database.upsertTestResult at hup
        dsimp only at hup
        split_ifs at hup
        exact (Except.ok.inj hup).symm
      cases c.reply.fault <;> simp [Fault.apply, Except.map, Except.toOption, hdb']

theorem PersistCall.rowKey_row (collate : String → String) :
    TestResult.rowKey collate c.row = collate c.rowId := rfl

theorem PersistCall.exists_after_eq (c : PersistCall) (db : Database) :
    ∃ rows, c.after db = { db with testResults := rows } := by
  rw [c.after_eq]
  split_ifs
  · exact ⟨_, rfl⟩
  · exact ⟨db.testResults, rfl⟩

/-- Whether the row of a session that is there is written depends on the call alone. -/
theorem PersistCall.stores_eq_writable {rows : List TestResult}
    (hsession : ∃ s ∈ db.sessions, s.id = c.persisted.id) :
    c.stores { db with testResults := rows } = c.writable db := by
  have hany : (db.sessions.any fun s => decide (s.id = c.persisted.id)) = true := by
    simpa using hsession
  have hwrite : ({ db with testResults := rows }.upsertTestResult c.row c.row.updatedAt
        (TestResult.rowKey db.collate)).toOption.isSome
      = (c.row.fits && db.workflowExists c.persisted.workflowId) := by
    have hrow : (db.sessions.any fun s => decide (s.id = c.row.sessionId)) = true := hany
    have hworkflow : c.row.workflowId = c.persisted.workflowId := rfl
    have hexists (id : String) : { db with testResults := rows }.workflowExists id
        = db.workflowExists id := rfl
    unfold Database.upsertTestResult
    rw [hworkflow, hexists]
    cases c.row.fits <;> cases db.workflowExists c.persisted.workflowId <;>
      simp [hrow, Except.toOption]
  unfold stores writable
  rw [hany, Bool.and_true]
  cases c.reply.fault with
  | refused _ => rfl
  | none => exact hwrite
  | lost _ => exact hwrite

end Call

theorem persistAll_append (calls calls' : List PersistCall) (db : Database) :
    persistAll (calls ++ calls') db = persistAll calls' (persistAll calls db) :=
  List.foldl_append

theorem storedCalls_append (calls calls' : List PersistCall) (db : Database) :
    storedCalls (calls ++ calls') db
      = storedCalls calls db ++ storedCalls calls' (persistAll calls db) := by
  induction calls generalizing db with
  | nil => rfl
  | cons c calls ih =>
      rw [List.cons_append, storedCalls, storedCalls, ih, List.append_assoc]
      rfl

/-! ## The rows after a sequence of calls -/

/-- The row of an id that holds the result of a call. -/
structure HeldBy (collate : String → String) (c : PersistCall) (r : TestResult) : Prop where
  id : collate r.id = collate c.rowId
  sessionId : r.sessionId = c.persisted.id
  testName : r.testName = c.result.name
  status : r.status = c.row.status
  resultData : r.resultData = c.row.resultData
  isDeleted : r.isDeleted = false

/-- The last call that was stored under the key of a row. -/
def lastWith (collate : String → String) (key : String) (stored : List PersistCall) :
    Option PersistCall :=
  stored.reverse.find? fun c => collate c.rowId = key

/-- The rows are those of the last calls. -/
structure Reflects (collate : String → String) (stored : List PersistCall)
    (rows : List TestResult) : Prop where
  keyed : Keyed (TestResult.rowKey collate) rows
  missing : ∀ key, find (TestResult.rowKey collate) key rows = none →
    lastWith collate key stored = none
  held : ∀ key r, find (TestResult.rowKey collate) key rows = some r →
    ∃ c, lastWith collate key stored = some c ∧ HeldBy collate c r

section Rows

variable {collate : String → String} {stored : List PersistCall} {rows : List TestResult}
  {c : PersistCall}

theorem lastWith_concat (key : String) :
    lastWith collate key (stored ++ [c])
      = if collate c.rowId = key then some c else lastWith collate key stored := by
  unfold lastWith
  rw [List.reverse_append, List.reverse_singleton, List.singleton_append, List.find?_cons]
  by_cases h : collate c.rowId = key <;> simp [h]

theorem lastStored_concat (sessionId testName : String) :
    lastStored sessionId testName (stored ++ [c])
      = if c.persisted.id = sessionId ∧ c.result.name = testName then some c
        else lastStored sessionId testName stored := by
  unfold lastStored
  rw [List.reverse_append, List.reverse_singleton, List.singleton_append, List.find?_cons]
  by_cases h : c.persisted.id = sessionId ∧ c.result.name = testName
  · simp [h]
  · simp only [if_neg h]
    rw [← Bool.decide_and, decide_eq_false h]

theorem lastWith_spec {key : String} (h : lastWith collate key stored = some c) :
    c ∈ stored ∧ collate c.rowId = key := by
  refine ⟨List.mem_reverse.1 (List.mem_of_find?_eq_some h), ?_⟩
  simpa using List.find?_some h

theorem exists_lastWith (hc : c ∈ stored) :
    ∃ c', lastWith collate (collate c.rowId) stored = some c' := by
  have hsome : (lastWith collate (collate c.rowId) stored).isSome = true := by
    unfold lastWith
    rw [List.find?_isSome]
    exact ⟨c, List.mem_reverse.2 hc, by simp⟩
  exact Option.isSome_iff_exists.1 hsome

theorem reflects_nil : Reflects collate [] [] :=
  ⟨List.nodup_nil, fun _ _ => rfl, fun _ _ h => by cases h⟩

/-- **One more call**: the row of its id holds its result, the others stay. -/
theorem Reflects.concat (h : Reflects collate stored rows)
    (hids : OneTest collate (stored ++ [c])) :
    Reflects collate (stored ++ [c])
      (upsert (TestResult.rowKey collate) c.row (mergeResult c.row c.row.updatedAt) rows) := by
  have hfind : ∀ key, find (TestResult.rowKey collate) key
      (upsert (TestResult.rowKey collate) c.row (mergeResult c.row c.row.updatedAt) rows)
        = if key = TestResult.rowKey collate c.row then
            some ((find (TestResult.rowKey collate) key rows).elim c.row
              (mergeResult c.row c.row.updatedAt))
          else find (TestResult.rowKey collate) key rows := find_upsert fun _ _ _ => rfl
  refine ⟨h.keyed.upsert fun _ => rfl, fun key hnone => ?_, fun key r hsome => ?_⟩
  · rw [hfind, PersistCall.rowKey_row] at hnone
    rw [lastWith_concat]
    split_ifs at hnone with hkey
    rw [if_neg (Ne.symm hkey)]
    exact h.missing key hnone
  · rw [hfind, PersistCall.rowKey_row] at hsome
    rw [lastWith_concat]
    by_cases hkey : key = collate c.rowId
    · rw [if_pos hkey] at hsome
      rw [if_pos hkey.symm]
      refine ⟨c, rfl, ?_⟩
      obtain rfl := Option.some.inj hsome
      cases hold : find (TestResult.rowKey collate) key rows with
      | none => exact ⟨rfl, rfl, rfl, rfl, rfl, rfl⟩
      | some old =>
          -- the row keeps the session and the test of the call before
          obtain ⟨d, hd, hheld⟩ := h.held key old hold
          obtain ⟨hmem, hdkey⟩ := lastWith_spec hd
          obtain ⟨hsession, hname⟩ := hids d (List.mem_append_left _ hmem) c (by simp)
            (hdkey.trans hkey)
          exact ⟨hheld.id.trans (hdkey.trans hkey), hheld.sessionId.trans hsession,
            hheld.testName.trans hname, rfl, rfl, rfl⟩
    · rw [if_neg hkey] at hsome
      rw [if_neg (Ne.symm hkey)]
      exact h.held key r hsome

/-- The sessions of calls are identified by their ids. -/
def KeysAgree (calls : List PersistCall) : Prop :=
  ∀ c ∈ calls, ∀ c' ∈ calls, c.persisted.id = c'.persisted.id → c.persisted.key = c'.persisted.key

theorem rowId_eq_resultId (c : PersistCall) : c.rowId = c.persisted.key.resultId c.result.name :=
  rfl

/-- Calls for one session and one test have one row id. -/
theorem KeysAgree.rowId_eq (h : KeysAgree stored) {c' : PersistCall} (hc : c ∈ stored)
    (hc' : c' ∈ stored) (hsession : c.persisted.id = c'.persisted.id)
    (hname : c.result.name = c'.result.name) : c.rowId = c'.rowId := by
  rw [rowId_eq_resultId, rowId_eq_resultId, h c hc c' hc' hsession, hname]

/-- What is restored from the row of a call is its result. -/
theorem HeldBy.sameResult {r : TestResult} (h : HeldBy collate c r) :
    SameResult c.result (restoreResult r) := by
  have hstatus : r.status = if c.result.passed then .passed else .failed := h.status
  have hdata : r.resultData = PersistedTestResult.codec.marshal
    { result := c.result, interpolationData := some (interpolationPayload c.result) } :=
    h.resultData
  unfold SameResult restoreResult
  rw [hdata, Codec.unmarshal_marshal, hstatus, h.testName]
  generalize c.result = result
  obtain ⟨name, type, passed, error, durationMs, attempts, recovered, containerLogs, diagnostic⟩ :=
    result
  constructor
  · cases passed <;> simp [firstNonEmpty]
  · intro htype
    simpa [firstNonEmpty] using fun h => absurd h htype

theorem run_loadPersistedResults (persisted : Session) {reply : Answer}
    (hreply : reply.fault = .none) (db : Database) :
    (loadPersistedResults (some persisted)).run handleLive [reply] db
      = some (.ok ((db.listTestResults persisted.id).reverse.map fun row =>
          (row.testName, restoreResult row)), db) := by
  obtain ⟨now, fault, id, nonce, granted, activities, failure, runtime, test⟩ := reply
  obtain rfl : fault = .none := hreply
  rfl

/-- **The rows of the last calls are what is loaded.** -/
theorem Reflects.loadsLast {db : Database} (h : Reflects collate stored db.testResults)
    (hids : OneTest collate stored) (hkeys : KeysAgree stored) : LoadsLast stored db := by
  intro persisted reply hreply
  refine ⟨_, run_loadPersistedResults persisted hreply db, fun testName => ?_⟩
  rw [Execution.lookup_rows]
  -- a row that is found is that of a call for the session and the test
  have hfound : ∀ r, ((db.listTestResults persisted.id).reverse.find? fun r =>
      r.testName = testName) = some r →
        ∃ c, lastWith collate (collate r.id) stored = some c ∧ HeldBy collate c r ∧
          c.persisted.id = persisted.id ∧ c.result.name = testName := by
    intro r hr
    have hname : r.testName = testName := by simpa using List.find?_some hr
    have hmem := List.mem_reverse.1 (List.mem_of_find?_eq_some hr)
    obtain ⟨hrow, hlisted⟩ := List.mem_filter.1 hmem
    have hsession : r.sessionId = persisted.id :=
      of_decide_eq_true (Bool.and_eq_true_iff.1 hlisted).1
    obtain ⟨c, hc, hheld⟩ := h.held (collate r.id) r (h.keyed.find_mem hrow)
    exact ⟨c, hc, hheld, hheld.sessionId.symm.trans hsession, hheld.testName.symm.trans hname⟩
  cases hlast : lastStored persisted.id testName stored with
  | none =>
      have hnone : ∀ c ∈ stored, ¬(c.persisted.id = persisted.id ∧ c.result.name = testName) := by
        intro c hc
        have hno := List.find?_eq_none.1 hlast c (List.mem_reverse.2 hc)
        simpa using hno
      show Option.map _ _ = none
      rw [Option.map_eq_none_iff, Option.eq_none_iff_forall_ne_some]
      intro r hr
      obtain ⟨c, hc, -, hboth⟩ := hfound r hr
      exact hnone c (lastWith_spec hc).1 hboth
  | some c =>
      have hc : c ∈ stored := List.mem_reverse.1 (List.mem_of_find?_eq_some hlast)
      obtain ⟨hsession, hname⟩ : c.persisted.id = persisted.id ∧ c.result.name = testName := by
        simpa using List.find?_some hlast
      -- the last call for the session and the test is the last one with its row id
      have hwith : lastWith collate (collate c.rowId) stored = some c := by
        rw [← hlast]
        refine List.find?_congr fun d hd => ?_
        rw [List.mem_reverse] at hd
        rw [← Bool.decide_and, decide_eq_decide]
        constructor
        · intro hid
          obtain ⟨hsession', hname'⟩ := hids d hd c hc hid
          exact ⟨hsession'.trans hsession, hname'.trans hname⟩
        · rintro ⟨hsession', hname'⟩
          exact congrArg collate
            (hkeys.rowId_eq hd hc (hsession'.trans hsession.symm) (hname'.trans hname.symm))
      cases hrow : find (TestResult.rowKey collate) (collate c.rowId) db.testResults with
      | none =>
          rw [h.missing _ hrow] at hwith
          cases hwith
      | some r =>
          obtain ⟨d, hd, hheld⟩ := h.held _ r hrow
          obtain rfl : c = d := Option.some.inj (hwith.symm.trans hd)
          have hlisted : r ∈ (db.listTestResults persisted.id).reverse := by
            rw [List.mem_reverse]
            refine List.mem_filter.2 ⟨(find_some hrow).1, ?_⟩
            simp [hheld.sessionId, hsession, hheld.isDeleted]
          have hsome : ((db.listTestResults persisted.id).reverse.find? fun r =>
              r.testName = testName).isSome = true := by
            rw [List.find?_isSome]
            exact ⟨r, hlisted, by simp [hheld.testName, hname]⟩
          obtain ⟨r', hr'⟩ := Option.isSome_iff_exists.1 hsome
          -- and the row that is found is that one
          obtain ⟨d, hd', hheld', hsession', hname'⟩ := hfound r' hr'
          have hid := hkeys.rowId_eq (lastWith_spec hd').1 hc (hsession'.trans hsession.symm)
            (hname'.trans hname.symm)
          rw [hheld'.id, hid, hwith] at hd'
          obtain rfl := Option.some.inj hd'
          exact ⟨_, by rw [hr']; rfl, hheld'.sameResult⟩

end Rows

/-! ## Sequences of calls -/

section Sequence

variable {calls : List PersistCall} {db : Database}

theorem mem_of_mem_storedCalls {c : PersistCall} (hc : c ∈ storedCalls calls db) : c ∈ calls := by
  induction calls generalizing db with
  | nil => cases hc
  | cons d calls ih =>
      rw [storedCalls, List.mem_append] at hc
      rcases hc with hc | hc
      · split_ifs at hc
        · rw [List.mem_singleton.1 hc]
          exact List.mem_cons_self
        · cases hc
      · exact List.mem_cons_of_mem d (ih hc)

theorem KeysAgree.stored (h : KeysAgree calls) : KeysAgree (storedCalls calls db) :=
  fun c hc c' hc' => h c (mem_of_mem_storedCalls hc) c' (mem_of_mem_storedCalls hc')

theorem persistAll_concat (calls : List PersistCall) (c : PersistCall) (db : Database) :
    persistAll (calls ++ [c]) db = c.after (persistAll calls db) := by
  rw [persistAll_append]
  rfl

theorem storedCalls_concat (calls : List PersistCall) (c : PersistCall) (db : Database) :
    storedCalls (calls ++ [c]) db
      = storedCalls calls db ++ if c.stores (persistAll calls db) then [c] else [] := by
  rw [storedCalls_append, storedCalls, storedCalls, List.append_nil]

theorem exists_persistAll_eq (calls : List PersistCall) (db : Database) :
    ∃ rows, persistAll calls db = { db with testResults := rows } := by
  induction calls using List.reverseRecOn with
  | nil => exact ⟨db.testResults, rfl⟩
  | append_singleton calls c ih =>
      obtain ⟨rows, hrows⟩ := ih
      obtain ⟨rows', hrows'⟩ := c.exists_after_eq (persistAll calls db)
      rw [persistAll_concat, hrows', hrows]
      exact ⟨rows', rfl⟩

theorem collate_persistAll (calls : List PersistCall) (db : Database) :
    (persistAll calls db).collate = db.collate := by
  obtain ⟨rows, hrows⟩ := exists_persistAll_eq calls db
  rw [hrows]

/-- The sessions of the calls are rows of the table. -/
def SessionsThere (calls : List PersistCall) (db : Database) : Prop :=
  ∀ c ∈ calls, ∃ s ∈ db.sessions, s.id = c.persisted.id

/-- **The rows that are written** are those that the store takes. -/
theorem storedCalls_eq_filter (hsessions : SessionsThere calls db) :
    storedCalls calls db = calls.filter (·.writable db) := by
  induction calls using List.reverseRecOn with
  | nil => rfl
  | append_singleton calls c ih =>
      obtain ⟨rows, hrows⟩ := exists_persistAll_eq calls db
      rw [storedCalls_concat, ih fun d hd => hsessions d (List.mem_append_left _ hd),
        List.filter_append, hrows, PersistCall.stores_eq_writable (hsessions c (by simp))]
      cases hwritable : c.writable db <;> simp [hwritable]

/-- **The rows after a sequence of calls**, if their ids agree. -/
theorem reflects_persistAll (hempty : db.testResults = [])
    (hids : OneTest db.collate (storedCalls calls db)) :
    Reflects db.collate (storedCalls calls db) (persistAll calls db).testResults := by
  induction calls using List.reverseRecOn with
  | nil =>
      show Reflects db.collate [] db.testResults
      rw [hempty]
      exact reflects_nil
  | append_singleton calls c ih =>
      have hbefore := ih fun d hd d' hd' => hids d
        (by rw [storedCalls_concat]; exact List.mem_append_left _ hd) d'
        (by rw [storedCalls_concat]; exact List.mem_append_left _ hd')
      rw [storedCalls_concat] at hids ⊢
      rw [persistAll_concat, PersistCall.after_eq, collate_persistAll]
      by_cases hstores : c.stores (persistAll calls db) = true
      · rw [if_pos hstores] at hids ⊢
        rw [if_pos hstores]
        exact hbefore.concat hids
      · rw [if_neg hstores, if_neg hstores, List.append_nil]
        exact hbefore

/-- **A write under an id that is taken** is lost, unless it is for the session and the test of the
    row. -/
theorem Reflects.agree_of_loadsLast {collate : String → String} {stored : List PersistCall}
    {rows : List TestResult} {c d : PersistCall} {db : Database}
    (h : Reflects collate stored rows) (hids : OneTest collate stored)
    (hkeys : KeysAgree (stored ++ [c])) (hd : d ∈ stored)
    (hid : collate d.rowId = collate c.rowId)
    (hrows : db.testResults = upsert (TestResult.rowKey collate) c.row
      (mergeResult c.row c.row.updatedAt) rows)
    (hloads : LoadsLast (stored ++ [c]) db) :
    d.persisted.id = c.persisted.id ∧ d.result.name = c.result.name := by
  obtain ⟨byName, hrun, hlookup⟩ := hloads c.persisted default rfl
  have hresult := hlookup c.result.name
  rw [lastStored_concat, if_pos ⟨rfl, rfl⟩] at hresult
  obtain ⟨restored, hrestored, -⟩ := hresult
  rw [run_loadPersistedResults c.persisted rfl db] at hrun
  obtain rfl := Except.ok.inj (Prod.mk.inj (Option.some.inj hrun)).1
  rw [Execution.lookup_rows, Option.map_eq_some_iff] at hrestored
  -- the row that is loaded
  obtain ⟨r, hr, -⟩ := hrestored
  have hname : r.testName = c.result.name := by simpa using List.find?_some hr
  obtain ⟨hrow, hlisted⟩ := List.mem_filter.1
    (List.mem_reverse.1 (List.mem_of_find?_eq_some hr))
  have hsession : r.sessionId = c.persisted.id :=
    of_decide_eq_true (Bool.and_eq_true_iff.1 hlisted).1
  obtain ⟨last, hlast⟩ : ∃ last, lastWith collate (collate d.rowId) stored = some last :=
    exists_lastWith hd
  rw [hid] at hlast
  cases hold : find (TestResult.rowKey collate) (TestResult.rowKey collate c.row) rows with
  | none =>
      have hnone : lastWith collate (collate c.rowId) stored = none := h.missing _ hold
      rw [hnone] at hlast
      cases hlast
  | some taken =>
      rw [hrows, upsert_of_some hold] at hrow
      obtain ⟨old, holdMem, rfl⟩ := mem_updateWhere.1 hrow
      obtain ⟨e, he, hheld⟩ := h.held (collate old.id) old (h.keyed.find_mem holdMem)
      obtain ⟨hemem, hekey⟩ := lastWith_spec he
      by_cases hkey : TestResult.rowKey collate old = TestResult.rowKey collate c.row
      · rw [if_pos (decide_eq_true hkey)] at hname hsession
        obtain ⟨hsession', hname'⟩ := hids d hd e hemem (hid.trans (hkey.symm.trans hekey.symm))
        exact ⟨hsession'.trans (hheld.sessionId.symm.trans hsession),
          hname'.trans (hheld.testName.symm.trans hname)⟩
      · exfalso
        rw [if_neg fun h => hkey (of_decide_eq_true h)] at hname hsession
        have hsame := hkeys.rowId_eq (List.mem_append_left _ hemem)
          (List.mem_append_right _ (List.mem_singleton_self c))
          (hheld.sessionId.symm.trans hsession) (hheld.testName.symm.trans hname)
        exact hkey (hekey.symm.trans (congrArg collate hsame))

/-- If what is loaded is right at each point of a sequence, the ids of its calls agree. -/
theorem oneTest_of_loadsLast (hempty : db.testResults = []) (hkeys : KeysAgree calls)
    (hloads : ∀ pre post, calls = pre ++ post →
      LoadsLast (storedCalls pre db) (persistAll pre db)) :
    OneTest db.collate (storedCalls calls db) := by
  induction calls using List.reverseRecOn with
  | nil =>
      intro c hc
      cases hc
  | append_singleton calls c ih =>
      have hids := ih
        (fun d hd d' hd' => hkeys d (List.mem_append_left _ hd) d' (List.mem_append_left _ hd'))
        fun pre post hcalls => hloads pre (post ++ [c]) (by rw [hcalls, List.append_assoc])
      have hafter := hloads (calls ++ [c]) [] (List.append_nil _).symm
      have hkeys' : KeysAgree (storedCalls (calls ++ [c]) db) := hkeys.stored
      rw [storedCalls_concat] at hkeys' hafter ⊢
      rw [persistAll_concat] at hafter
      -- a call that stores nothing adds no row id; one that stores is compared with each before it
      by_cases hstores : c.stores (persistAll calls db) = true
      · rw [if_pos hstores] at hkeys' hafter ⊢
        have hrows : (c.after (persistAll calls db)).testResults
            = upsert (TestResult.rowKey db.collate) c.row (mergeResult c.row c.row.updatedAt)
              (persistAll calls db).testResults := by
          rw [PersistCall.after_eq, if_pos hstores, collate_persistAll]
        have hnew : ∀ d ∈ storedCalls calls db, db.collate d.rowId = db.collate c.rowId →
            d.persisted.id = c.persisted.id ∧ d.result.name = c.result.name :=
          fun d hd hid => (reflects_persistAll hempty hids).agree_of_loadsLast hids hkeys' hd hid
            hrows hafter
        intro d hd d' hd' hid
        rw [List.mem_append, List.mem_singleton] at hd hd'
        rcases hd with hd | rfl
        · rcases hd' with hd' | rfl
          · exact hids d hd d' hd' hid
          · exact hnew d hd hid
        · rcases hd' with hd' | rfl
          · obtain ⟨hsession, hname⟩ := hnew d' hd' hid.symm
            exact ⟨hsession.symm, hname.symm⟩
          · exact ⟨rfl, rfl⟩
      · rw [if_neg hstores, List.append_nil]
        exact hids

/-- Results of different tests are written to different rows, and at each point of the sequence what
    is loaded of a session are the last results that were stored for it. -/
def NoCollisions (calls : List PersistCall) (db : Database) : Prop :=
  (∀ c ∈ storedCalls calls db, ∀ c' ∈ storedCalls calls db,
    c.triple ≠ c'.triple → db.collate c.rowId ≠ db.collate c'.rowId) ∧
  ∀ pre post, calls = pre ++ post → LoadsLast (storedCalls pre db) (persistAll pre db)

theorem joinedApart_iff (hsessions : SessionsThere calls db) :
    JoinedApart calls db ↔ OneTest db.collate (storedCalls calls db) := by
  rw [storedCalls_eq_filter hsessions]
  constructor
  · intro h c hc c' hc' hid
    rw [List.mem_filter] at hc hc'
    exact h c hc.1 c' hc'.1 hc.2 hc'.2 hid
  · intro h c hc c' hc' hwritable hwritable' hid
    exact h c (List.mem_filter.2 ⟨hc, hwritable⟩) c' (List.mem_filter.2 ⟨hc', hwritable'⟩) hid

/-- A run and a scenario, neither with an underscore in its id. -/
def SessionKey.Separated (k : SessionKey) : Prop :=
  (k.workflowRunId ≠ "" ∧ '_' ∉ k.workflowRunId.toList) ∧
    k.scenarioId ≠ "" ∧ '_' ∉ k.scenarioId.toList

/-- What stands before the first underscore, and after it. -/
theorem append_underscore_inj {xs xs' ys ys' : List Char} (hxs : '_' ∉ xs) (hxs' : '_' ∉ xs')
    (h : xs ++ '_' :: ys = xs' ++ '_' :: ys') : xs = xs' ∧ ys = ys' := by
  have hbefore {xs ys : List Char} (hxs : '_' ∉ xs) :
      (xs ++ '_' :: ys).takeWhile (· ≠ '_') = xs := by
    rw [List.takeWhile_append_of_pos]
    · simp
    · intro c hc
      simpa using fun heq : c = '_' => hxs (heq ▸ hc)
  have hfirst : xs = xs' := by rw [← hbefore hxs, h, hbefore hxs']
  subst hfirst
  exact ⟨rfl, (List.cons.inj (List.append_cancel_left h)).2⟩

/-- Without underscores in the ids, the joined text determines its parts. -/
theorem SessionKey.Separated.resultId_inj {k k' : SessionKey} (hk : k.Separated)
    (hk' : k'.Separated) {name name' : String} (h : k.resultId name = k'.resultId name') :
    k.workflowRunId = k'.workflowRunId ∧ k.scenarioId = k'.scenarioId ∧ name = name' := by
  obtain ⟨⟨hrun, hrun_⟩, hscenario, hscenario_⟩ := hk
  obtain ⟨⟨hrun', hrun_'⟩, hscenario', hscenario_'⟩ := hk'
  unfold SessionKey.resultId at h
  rw [if_pos ⟨hrun, hscenario⟩, if_pos ⟨hrun', hscenario'⟩] at h
  have hlist := congrArg String.toList h
  have hsep : ("_" : String).toList = ['_'] := rfl
  simp only [String.toList_append, hsep, List.append_assoc, List.cons_append, List.nil_append]
    at hlist
  obtain ⟨hruns, hlist⟩ := append_underscore_inj hrun_ hrun_' hlist
  obtain ⟨hscenarios, hnames⟩ := append_underscore_inj hscenario_ hscenario_' hlist
  exact ⟨String.toList_inj.1 hruns, String.toList_inj.1 hscenarios, String.toList_inj.1 hnames⟩

/-- **For ids without underscores** it is enough that a session is the only one of its run and
    scenario, and that the collation tells the texts apart that differ. -/
theorem joinedApart_of_separated
    (hcollate : ∀ c ∈ calls, ∀ c' ∈ calls,
      db.collate (c.persisted.key.resultId c.result.name)
        = db.collate (c'.persisted.key.resultId c'.result.name) →
      c.persisted.key.resultId c.result.name = c'.persisted.key.resultId c'.result.name)
    (hseparated : ∀ c ∈ calls, c.persisted.key.Separated)
    (hone : ∀ c ∈ calls, ∀ c' ∈ calls,
      c.persisted.workflowRunId = c'.persisted.workflowRunId →
      c.persisted.scenarioId = c'.persisted.scenarioId → c.persisted.id = c'.persisted.id) :
    JoinedApart calls db := by
  intro c hc c' hc' _ _ hid
  obtain ⟨hrun, hscenario, hname⟩ := (hseparated c hc).resultId_inj (hseparated c' hc')
    (hcollate c hc c' hc' hid)
  exact ⟨hone c hc c' hc' hrun hscenario, hname⟩

end Sequence

/-! ## Two scenarios with an underscore -/

/-- A session of a run and a scenario. -/
def sessionOf (id workflowRunId scenarioId : String) : Session :=
  { (default : Session) with id, workflowRunId, scenarioId, workflowId := "w" }

/-- Storing a passed test `d` of a session. -/
def passedCall (persisted : Session) : PersistCall where
  persisted := persisted
  result := { name := "d", type := "http", passed := true }
  clock := default
  reply := default

/-- A database with the sessions and their workflow. -/
def sessionsDatabase (sessions : List Session) : Database where
  sessions := sessions
  workflows := [{ (default : Workflow) with id := "w" }]

/-- Two scenarios of one run. -/
def separateSessions : List Session := [sessionOf "s" "a" "b", sessionOf "t" "a" "c"]

/-- The run `a` with the scenario `b_c`, and the run `a_b` with the scenario `c`. -/
def collidingSessions : List Session := [sessionOf "s" "a" "b_c", sessionOf "t" "a_b" "c"]

end TokyoTester
