import Mathlib.Data.List.DropRight
import TokyoTester.Jobs.Records
import TokyoTester.Library.Pool
import TokyoTester.Runs.Execution

set_option autoImplicit false

/-! # The two copies of a run's log

The messages of a run are stored twice: as the `workflowlog` events that a client replays, and as
the bounded tail in the `logs` column of the run's row. `AppendWorkflowLogEvent` writes both in one
transaction. The other writers do not: a cancellation appends an event without touching the
column, and `updateRun` and `failJob` write the whole row back from an earlier read, with the
column as it was then. Where neither happens, the column is the tail of the events in every
reachable state. -/

namespace TokyoTester

open Table Database

/-! ## Messages of events -/

/-- The message that the payload of an event carries. -/
def eventMessage (payload : String) : Option String :=
  match Json.parse payload with
  | some (.obj members) =>
    match members.find? fun m => m.1 = "message" with
    | some (_, .str message) => some message
    | _ => none
  | _ => none

theorem eventMessage_marshal {members : List (String × Json)} {message : String}
    (hwell : ∀ m ∈ members, m.2.wellFormed = true)
    (hmessage : members.find? (fun m => m.1 = "message") = some ("message", .str message)) :
    eventMessage (Json.marshal (.obj members)) = some message := by
  have hobj : (Json.obj members).wellFormed = true := by
    rw [Json.wellFormed]
    exact Json.wellFormedMembers_iff.2 hwell
  simp only [eventMessage, Json.parse_marshal _ hobj, hmessage]

theorem wellFormed_jsonMap {members : List (String × Json)}
    (h : ∀ m ∈ members, m.2.wellFormed = true) : (jsonMap members).wellFormed = true := by
  unfold jsonMap
  rw [Json.wellFormed]
  exact Json.wellFormedMembers_iff.2 fun m hm => h m (GoMap.mem_ofList hm)

/-- A payload built from a map carries the message that is assigned last. -/
theorem eventMessage_jsonMap (before : List (String × Json)) {after : List (String × Json)}
    {message : String}
    (hbefore : ∀ m ∈ before, m.2.wellFormed = true)
    (hafter : ∀ m ∈ after, m.1 ≠ "message" ∧ m.2.wellFormed = true) :
    eventMessage (Json.marshal (jsonMap (before ++ ("message", .str message) :: after)))
      = some message := by
  refine eventMessage_marshal ?_ ?_
  · intro m hm
    rcases List.mem_append.1 (GoMap.mem_ofList hm) with hm | hm
    · exact hbefore m hm
    · rcases List.mem_cons.1 hm with rfl | hm
      · simp [Json.wellFormed]
      · exact (hafter m hm).2
  · have hget : (GoMap.ofList (before ++ ("message", .str message) :: after)).get? "message"
        = some (Json.str message) := GoMap.get?_ofList fun m hm => (hafter m hm).1
    obtain ⟨m, hm, hvalue⟩ := Option.map_eq_some_iff.1 hget
    have hname : m.1 = "message" := by simpa using List.find?_some hm
    rw [hm, ← hname, ← hvalue]

@[simp] theorem wellFormed_int (n : Int) : (Json.int n).wellFormed = true :=
  Json.wellFormed_of_canonical _ (Json.canonical_int n)

@[simp] theorem wellFormed_str (s : String) : (Json.str s).wellFormed = true := by
  simp [Json.wellFormed]

@[simp] theorem wellFormed_bool (b : Bool) : (Json.bool b).wellFormed = true := by
  simp [Json.wellFormed]

@[simp] theorem wellFormed_null : Json.null.wellFormed = true := by
  simp [Json.wellFormed]

theorem wellFormed_scenarioSnapshots (scenarios : List RunScenario)
    (results : List ScenarioResponse) : (scenarioSnapshots scenarios results).wellFormed = true := by
  unfold scenarioSnapshots
  rw [Json.wellFormed]
  refine Json.wellFormedItems_iff.2 ?_
  intro j hj
  obtain ⟨⟨scenario, response⟩, _, rfl⟩ := List.mem_map.1 hj
  refine wellFormed_jsonMap ?_
  -- the diagnostics are `null` when there are none
  have hdiagnostics : (if response.diagnostics.isEmpty then Json.null
      else (Codec.slice Diagnostic.codec).encode response.diagnostics).wellFormed = true := by
    split_ifs
    · exact wellFormed_null
    · exact (Codec.slice Diagnostic.codec).wellFormed _
  simpa using hdiagnostics

theorem wellFormed_resultPayload (scenarios : List RunScenario) (results : List ScenarioResponse) :
    (Execution.resultPayload scenarios results).wellFormed = true := by
  refine wellFormed_jsonMap ?_
  have hdiagnostics := (Codec.slice Diagnostic.codec).wellFormed (workflowDiagnostics results)
  simpa [Execution.sumOf, wellFormed_scenarioSnapshots] using hdiagnostics

/-! ## The writers of a run -/

/-- What the threads of the service do to a run: `emitLog` with an error or with the run's
    summary, `emitActivity`, `updateRun`, `failJob` and `reconcileExhaustedJob`, and a write of a
    whole row. -/
inductive LogTask where
  | log (request : Request) (message status : String) (scenario : Option RunScenario)
      (error : Option String)
  | summary (request : Request) (message status : String) (results : List ScenarioResponse)
  | activity (request : Request) (scenario : RunScenario) (event : Activity)
  | updateRun (request : Request) (status : ExecutionStatus) (result : Option Json)
      (message : String)
  | failJob (owner : String) (job : WorkflowJob) (error : String)
  | reconcileExhaustedJob (job : WorkflowJob)
  | upsertWorkflowRun (run : WorkflowRun)

/-- The program of a writer. -/
def LogTask.program : LogTask → Task Unit
  | log request message status scenario error =>
    Execution.emitLog request message status scenario (error.map .error)
  | summary request message status results =>
    Execution.emitLog request message status none
      (some (.ok (Execution.resultPayload request.scenarios results)))
  | .activity request scenario event => Execution.emitActivity request scenario event
  | updateRun request status result message => do
    let _ ← Execution.updateRun request status result message
  | failJob owner job error => Execution.failJob owner job error
  | reconcileExhaustedJob job => Execution.reconcileExhaustedJob job
  | upsertWorkflowRun run => do
    let _ ← Task.store false (.upsertWorkflowRun run)

/-- The calls of the writers; an event carries the message that is logged. -/
def LogTask.allowed : Op → Prop
  | .store _ (.appendWorkflowLogEvent _ payload _ message _) =>
    eventMessage payload = some message
  | .store _ (.getWorkflowRun _) => True
  | .store _ (.upsertWorkflowRun _) => True
  | .store _ (.failWorkflowJob _ _ _ _) => True
  | .now => True
  | _ => False

open Program in
theorem emitLog_uses (request : Request) (message status : String) (scenario : Option RunScenario)
    (result : Option (Except String Json))
    (hresult : ∀ value, result = some (.ok value) → value.wellFormed = true) :
    (Execution.emitLog request message status scenario result).Uses LogTask.allowed := by
  refine Uses.bind (Uses.perform trivial) fun now => ?_
  refine Uses.bind (Uses.perform ?_) fun _ => Uses.pure ()
  refine eventMessage_jsonMap [_, _, _] (by simp) ?_
  cases scenario with
  | none =>
      match result, hresult with
      | none, _ => simp [Execution.unixNano]
      | some (.error e), _ => simp [Execution.unixNano]
      | some (.ok value), h => simp [Execution.unixNano, h value rfl]
  | some scenario =>
      match result, hresult with
      | none, _ => simp [Execution.unixNano]
      | some (.error e), _ => simp [Execution.unixNano]
      | some (.ok value), h => simp [Execution.unixNano, h value rfl]

theorem activityMembers_spec (activity : Activity) :
    ∀ m ∈ Execution.activityMembers activity, m.1 ≠ "message" ∧ m.2.wellFormed = true := by
  have hmember (c : Bool) {name : String} {value : Json} (hname : name ≠ "message")
      (hvalue : value.wellFormed = true) :
      ∀ m ∈ (if c then [] else [(name, value)]), m.1 ≠ "message" ∧ m.2.wellFormed = true := by
    cases c <;> simp [hname, hvalue]
  intro m hm
  unfold Execution.activityMembers at hm
  simp only [List.mem_append] at hm
  rcases hm with (((((((hm | hm) | hm) | hm) | hm) | hm) | hm) | hm) | hm
  · split_ifs at hm <;> simp_all
  · split_ifs at hm <;> simp_all
  · split_ifs at hm with hempty
    · cases hm
    · obtain rfl := List.mem_singleton.1 hm
      exact ⟨by simp, (Codec.slice Codec.string).wellFormed _⟩
  · split_ifs at hm <;> simp_all
  · split_ifs at hm <;> simp_all
  · split_ifs at hm <;> simp_all
  · split_ifs at hm <;> simp_all
  · split_ifs at hm <;> simp_all
  · cases hd : activity.diagnostic <;> simp_all [Diagnostic.codec.wellFormed]

open Program in
theorem emitActivity_uses (request : Request) (scenario : RunScenario) (activity : Activity) :
    (Execution.emitActivity request scenario activity).Uses LogTask.allowed := by
  refine Uses.bind (Uses.perform trivial) fun now => ?_
  refine Uses.bind (Uses.perform ?_) fun _ => Uses.pure ()
  refine eventMessage_jsonMap [_, _, _, _, _] (by simp) ?_
  intro m hm
  rcases List.mem_append.1 hm with hm | hm
  · have hfixed : ∀ m ∈ [("status", Json.str "running"), ("stage", .str activity.stage),
        ("kind", .str activity.kind), ("activityStatus", .str activity.status),
        ("timestamp", .int now), ("sequence", Execution.unixNano now)],
        m.1 ≠ "message" ∧ m.2.wellFormed = true := by
      simp [Execution.unixNano]
    exact hfixed m hm
  · exact activityMembers_spec activity m hm

open Program in
theorem updateRun_uses (request : Request) (status : ExecutionStatus) (result : Option Json)
    (message : String) :
    (Execution.updateRun request status result message).Uses LogTask.allowed := by
  refine Uses.bind (Uses.perform trivial) fun read => ?_
  cases read with
  | error e => exact Uses.pure _
  | ok run =>
      refine Uses.bind (Uses.perform trivial) fun now => ?_
      refine Uses.bind (Uses.perform trivial) fun written => ?_
      cases written with
      | error e => exact Uses.pure _
      | ok _ => exact Uses.pure _

open Program in
theorem failRun_uses (job : WorkflowJob) (now : Time) (error message : String)
    (diagnostic : Diagnostic) :
    (Execution.failRun job now error message diagnostic).Uses LogTask.allowed := by
  refine Uses.bind (Uses.perform trivial) fun read => ?_
  have hevent : eventMessage (Json.marshal (jsonMap [("workflowRunId", .str job.workflowRunId),
      ("projectId", .str job.projectId), ("message", .str message), ("status", .str "failed"),
      ("error", .str error), ("timestamp", .int now), ("sequence", Execution.unixNano now),
      ("stage", .str "aggregation"), ("kind", .str "diagnostic"),
      ("activityStatus", .str "failed"),
      ("diagnostic", Diagnostic.codec.encode diagnostic)])) = some message :=
    eventMessage_jsonMap [_, _] (by simp)
      (by simp [Execution.unixNano, Diagnostic.codec.wellFormed])
  cases read with
  | error e => exact ⟨trivial, fun _ => ⟨hevent, fun _ => trivial⟩⟩
  | ok run => exact ⟨trivial, fun _ => ⟨trivial, fun _ => ⟨hevent, fun _ => trivial⟩⟩⟩

open Program in
/-- **Every event of a writer carries its message.** -/
theorem LogTask.program_uses (task : LogTask) : task.program.Uses LogTask.allowed := by
  cases task with
  | log request message status scenario error =>
      rw [LogTask.program]
      refine emitLog_uses request message status scenario _ ?_
      intro value h
      cases error <;> cases h
  | summary request message status results =>
      rw [LogTask.program]
      refine emitLog_uses request message status none _ ?_
      intro value h
      have hvalue := Except.ok.inj (Option.some.inj h)
      rw [← hvalue]
      exact wellFormed_resultPayload request.scenarios results
  | activity request scenario event => exact emitActivity_uses request scenario event
  | updateRun request status result message =>
      rw [LogTask.program]
      exact Uses.bind (updateRun_uses request status result message) fun _ => Uses.pure ()
  | failJob owner job error =>
      rw [LogTask.program]
      exact Uses.bind (Uses.perform trivial) fun _ =>
        Uses.bind (Uses.perform trivial) fun _ => failRun_uses job _ _ _ _
  | reconcileExhaustedJob job =>
      rw [LogTask.program]
      exact Uses.bind (Uses.perform trivial) fun _ => failRun_uses job _ _ _ _
  | upsertWorkflowRun run =>
      rw [LogTask.program]
      exact Uses.bind (Uses.perform trivial) fun _ => Uses.pure ()

/-! ## The log and its replay -/

/-- The `workflowlog` events of a run, in the order of the table. -/
def Database.logEvents (db : Database) (runId : String) : List WorkflowRunEvent :=
  db.workflowRunEvents.filter fun e => e.workflowRunId = runId && e.eventType = .workflowlog

/-- The messages of a run's log events. -/
def Database.replayLog (db : Database) (runId : String) : List (Option String) :=
  (db.logEvents runId).map fun e => eventMessage e.payload

/-- The log column of the run's row is the tail of its log events. -/
def LogsAgree (runId : String) (db : Database) : Prop :=
  ∀ r ∈ find WorkflowRun.id runId db.workflowRuns,
    (decodeLogs r.logs).map (·.map some) = some ((db.replayLog runId).rtake logTail)

/-- What the writers of a run keep. -/
structure LogInvariant (runId : String) (db : Database) : Prop where
  jobs : Keyed WorkflowJob.id db.workflowJobs
  runs : Keyed WorkflowRun.id db.workflowRuns
  stored : (find WorkflowRun.id runId db.workflowRuns).isSome = true
  order : db.workflowRunEvents.Pairwise fun e f => e.id < f.id
  bound : ∀ e ∈ db.workflowRunEvents, e.id < db.nextEventId
  logs : LogsAgree runId db

/-- One more element, before or after the tail is taken. -/
theorem rtake_append_singleton {α : Type} (n : Nat) (xs : List α) (x : α) :
    (xs.rtake n ++ [x]).rtake n = (xs ++ [x]).rtake n := by
  cases n with
  | zero => simp
  | succ n =>
      rw [List.rtake_concat_succ, List.rtake_concat_succ]
      simp only [List.rtake, List.length_drop, List.drop_drop]
      congr 2
      omega

theorem map_rtake {α β : Type} (f : α → β) (n : Nat) (xs : List α) :
    (xs.rtake n).map f = (xs.map f).rtake n := by
  simp [List.rtake, List.map_drop]

theorem decodeLogs_marshal (logs : List String) :
    decodeLogs ((Codec.slice Codec.string).marshal logs) = some logs := by
  -- the text of a slice is neither empty nor `null`: it would not be read back
  have hparse : Json.parse ((Codec.slice Codec.string).marshal logs)
      = some ((Codec.slice Codec.string).encode logs) :=
    Json.parse_marshal _ ((Codec.slice Codec.string).wellFormed logs)
  have hempty : (Codec.slice Codec.string).marshal logs ≠ "" := by
    intro h
    rw [h, show Json.parse "" = none by decide +kernel] at hparse
    cases hparse
  have hnull : (Codec.slice Codec.string).marshal logs ≠ "null" := by
    intro h
    have hvalue : (Json.parse "null").map Json.isNull = some true := by decide +kernel
    rw [← h, hparse] at hvalue
    cases hvalue
  unfold decodeLogs
  rw [if_neg (by simp [hempty, hnull]), Codec.unmarshal_marshal]

variable {runId : String} {db db' : Database}

theorem replayLog_insertWorkflowRunEvent (workflowRunId payload : String) (createdAt : Time) :
    (db.insertWorkflowRunEvent workflowRunId .workflowlog payload createdAt).replayLog runId
      = db.replayLog runId ++ if workflowRunId = runId then [eventMessage payload] else [] := by
  unfold replayLog logEvents insertWorkflowRunEvent
  by_cases h : workflowRunId = runId
  · simp [h]
  · simp [h]

/-- An event goes to the end of the table. -/
theorem LogInvariant.insertEvent (workflowRunId : String) (eventType : RunEventType)
    (payload : String) (createdAt : Time)
    (order : db.workflowRunEvents.Pairwise fun e f => e.id < f.id)
    (bound : ∀ e ∈ db.workflowRunEvents, e.id < db.nextEventId) :
    ((db.insertWorkflowRunEvent workflowRunId eventType payload createdAt).workflowRunEvents.Pairwise
        fun e f => e.id < f.id) ∧
      ∀ e ∈ (db.insertWorkflowRunEvent workflowRunId eventType payload createdAt).workflowRunEvents,
        e.id < (db.insertWorkflowRunEvent workflowRunId eventType payload createdAt).nextEventId := by
  unfold insertWorkflowRunEvent
  refine ⟨?_, ?_⟩
  · refine List.pairwise_append.2 ⟨order, List.pairwise_singleton _ _, ?_⟩
    intro e he f hf
    rw [List.mem_singleton.1 hf]
    exact bound e he
  · intro e he
    rcases List.mem_append.1 he with he | he
    · exact Nat.lt_succ_of_lt (bound e he)
    · rw [List.mem_singleton.1 he]
      exact Nat.lt_succ_self _

/-! ## `AppendWorkflowLogEvent` -/

/-- The row of a run with the tail of a log. -/
def loggedRow (logs : List String) (now : Time) (r : WorkflowRun) : WorkflowRun :=
  { r with
    logs := (Codec.slice Codec.string).marshal (logs.rtake logTail), updatedAt := now
    version := r.version + 1 }

theorem appendRunLog_eq {workflowRunId message : String} {now : Time}
    (h : db.appendRunLog workflowRunId message now = .ok db') :
    ∃ run logs, run ∈ db.workflowRuns ∧ run.id = workflowRunId ∧ run.isDeleted = false ∧
      decodeLogs run.logs = some logs ∧
      db' = { db with
        workflowRuns := updateWhere (fun r => r.id = workflowRunId && !r.isDeleted)
          (loggedRow (logs ++ [message]) now) db.workflowRuns } := by
  unfold appendRunLog at h
  split at h
  · cases h
  · rename_i run hfind
    obtain ⟨column, hcolumn, h⟩ := Transaction.bind_eq_ok.1 h
    have hsel := List.find?_some hfind
    simp only [Bool.and_eq_true, decide_eq_true_eq, Bool.not_eq_true'] at hsel
    unfold appendLog at hcolumn
    split at hcolumn
    · cases hcolumn
    · rename_i logs hlogs
      refine ⟨run, logs, List.mem_of_find?_eq_some hfind, hsel.1, hsel.2, hlogs, ?_⟩
      rw [← Except.ok.inj h, ← Except.ok.inj hcolumn]
      rfl

theorem appendSessionLog_eq {scenarioRunId message : String} {now : Time}
    (h : db.appendSessionLog scenarioRunId message now = .ok db') :
    db' = { db with sessions := db'.sessions } := by
  unfold appendSessionLog at h
  split at h
  · cases h
  · obtain ⟨column, -, h⟩ := Transaction.bind_eq_ok.1 h
    rw [← Except.ok.inj h]

/-- The transaction as a whole: the run's row, some sessions, and the event. -/
theorem appendWorkflowLogEvent_eq {workflowRunId payload message scenarioRunId : String}
    {createdAt : Time}
    (h : db.appendWorkflowLogEvent workflowRunId payload createdAt message scenarioRunId
      = .ok db') :
    ∃ run logs sessions, run ∈ db.workflowRuns ∧ run.id = workflowRunId ∧ run.isDeleted = false ∧
      decodeLogs run.logs = some logs ∧
      db' = Database.insertWorkflowRunEvent
        { db with
          sessions
          workflowRuns := updateWhere (fun r => r.id = workflowRunId && !r.isDeleted)
            (loggedRow (logs ++ [message]) createdAt) db.workflowRuns }
        workflowRunId .workflowlog payload createdAt := by
  obtain ⟨db₁, h₁, h⟩ := Transaction.bind_eq_ok.1 h
  obtain ⟨run, logs, hmem, hid, hlive, hlogs, hdb₁⟩ := appendRunLog_eq h₁
  obtain ⟨db₂, hdb₂, h⟩ : ∃ db₂ : Database, db₂ = { db₁ with sessions := db₂.sessions } ∧
      db₂.insertWorkflowRunEvent workflowRunId .workflowlog payload createdAt = db' := by
    dsimp only at h
    split_ifs at h with hscenario
    · exact ⟨db₁, rfl, Except.ok.inj h⟩
    · obtain ⟨db₂, h₂, h⟩ := Transaction.bind_eq_ok.1 h
      exact ⟨db₂, appendSessionLog_eq h₂, Except.ok.inj h⟩
  refine ⟨run, logs, db₂.sessions, hmem, hid, hlive, hlogs, ?_⟩
  rw [← h, hdb₂, hdb₁]

/-- **Both copies take the message.** -/
theorem LogInvariant.append (inv : LogInvariant runId db)
    {workflowRunId payload message scenarioRunId : String} {createdAt : Time}
    (hpayload : eventMessage payload = some message)
    (h : db.appendWorkflowLogEvent workflowRunId payload createdAt message scenarioRunId
      = .ok db') : LogInvariant runId db' := by
  obtain ⟨run, logs, sessions, hmem, hid, hlive, hlogs, rfl⟩ := appendWorkflowLogEvent_eq h
  obtain ⟨horder, hbound⟩ := LogInvariant.insertEvent workflowRunId .workflowlog payload createdAt
    inv.order inv.bound
  have hid' (r : WorkflowRun) : (loggedRow (logs ++ [message]) createdAt r).id = r.id := by
    rw [loggedRow]
  have hfind (p : WorkflowRun → Bool) := find_updateWhere (p := p) (t := db.workflowRuns)
    (fun r _ _ => hid' r) runId
  refine
    { jobs := inv.jobs
      runs := inv.runs.updateWhere fun r _ _ => hid' r
      stored := ?_
      order := horder
      bound := hbound
      logs := ?_ }
  · change (find WorkflowRun.id runId (updateWhere _ (loggedRow _ _) db.workflowRuns)).isSome = true
    rw [hfind, Option.isSome_map]
    exact inv.stored
  · intro r hr
    rw [replayLog_insertWorkflowRunEvent]
    change find WorkflowRun.id runId (updateWhere _ (loggedRow _ _) db.workflowRuns) = some r at hr
    rw [hfind] at hr
    obtain ⟨old, hold, rfl⟩ := Option.map_eq_some_iff.1 hr
    have hagree := inv.logs old hold
    by_cases hrun : workflowRunId = runId
    · -- the row that was read is the row of the run
      have hold' : old = run := by
        have hrow := inv.runs.find_mem hmem
        rw [hid, hrun, hold] at hrow
        exact Option.some.inj hrow
      subst hold'
      rw [hlogs] at hagree
      have htail : logs.map some = (db.replayLog runId).rtake logTail := Option.some.inj hagree
      rw [if_pos (by simp [hid, hlive]), if_pos hrun, hpayload, loggedRow, decodeLogs_marshal,
        Option.map_some, map_rtake, List.map_append, htail]
      exact congrArg some (rtake_append_singleton logTail (db.replayLog runId) (some message))
    · have hother : old.id ≠ workflowRunId := by
        rw [(find_some hold).2]
        exact Ne.symm hrun
      rw [if_neg (by simp [hother]), if_neg hrun, List.append_nil]
      exact hagree

/-! ## The other writers -/

/-- What happens to other tables does not matter. -/
theorem LogInvariant.congr (inv : LogInvariant runId db)
    (jobs : Keyed WorkflowJob.id db'.workflowJobs) (runs : db'.workflowRuns = db.workflowRuns)
    (events : db'.workflowRunEvents = db.workflowRunEvents)
    (next : db'.nextEventId = db.nextEventId) : LogInvariant runId db' where
  jobs := jobs
  runs := runs ▸ inv.runs
  stored := by
    rw [runs]
    exact inv.stored
  order := events ▸ inv.order
  bound := by
    rw [events, next]
    exact inv.bound
  logs := by
    unfold LogsAgree replayLog logEvents
    rw [runs, events]
    exact inv.logs

theorem LogInvariant.upsert (inv : LogInvariant runId db) {run : WorkflowRun}
    (hkeeps : run.id = runId →
      (find WorkflowRun.id runId db.workflowRuns).map (·.logs) = some run.logs)
    (h : db.upsertWorkflowRun run = .ok db') :
    LogInvariant runId db' := by
  unfold upsertWorkflowRun at h
  split_ifs at h
  rw [← Except.ok.inj h]
  have hfind : find WorkflowRun.id runId (Table.upsert WorkflowRun.id run
      (fun old : WorkflowRun => { run with id := old.id, createdAt := old.createdAt }) db.workflowRuns) = _ :=
    find_upsert (fun _ _ _ => by rfl) runId
  refine
    { jobs := inv.jobs
      runs := inv.runs.upsert fun _ => rfl
      stored := ?_
      order := inv.order
      bound := inv.bound
      logs := ?_ }
  · rw [hfind]
    split_ifs
    · rfl
    · exact inv.stored
  · intro r hr
    change find WorkflowRun.id runId _ = some r at hr
    rw [hfind] at hr
    by_cases hrun : runId = run.id
    · rw [if_pos hrun] at hr
      -- the row is there, and the new one has its logs
      obtain ⟨old, hold⟩ := Option.isSome_iff_exists.1 inv.stored
      have hlogs := hkeeps hrun.symm
      rw [hold] at hlogs hr
      have hcolumn : r.logs = old.logs := by
        rw [← Option.some.inj hr]
        exact (Option.some.inj hlogs).symm
      rw [hcolumn]
      exact inv.logs old hold
    · rw [if_neg hrun] at hr
      exact inv.logs r hr

theorem updateCancelledWorkflowRecords_other {workflowRunId reason : String}
    {status : ExecutionStatus} {now : Time} {terminal : Bool} (hother : workflowRunId ≠ runId)
    (inv : LogInvariant runId db) :
    LogInvariant runId
      (db.updateCancelledWorkflowRecords workflowRunId status reason now terminal) := by
  obtain ⟨horder, hbound⟩ := LogInvariant.insertEvent workflowRunId .workflowlog
    (cancellationPayload workflowRunId status reason now) now inv.order inv.bound
  have hfind : find WorkflowRun.id runId
      (db.updateCancelledWorkflowRecords workflowRunId status reason now terminal).workflowRuns
        = find WorkflowRun.id runId db.workflowRuns := by
    unfold updateCancelledWorkflowRecords insertWorkflowRunEvent
    rw [find_updateWhere fun r _ _ => by rfl]
    cases hf : find WorkflowRun.id runId db.workflowRuns with
    | none => rfl
    | some r =>
        have hne : r.id ≠ workflowRunId := by
          rw [(find_some hf).2]
          exact Ne.symm hother
        simp [hne]
  refine
    { jobs := inv.jobs
      runs := inv.runs.updateWhere fun _ _ _ => rfl
      stored := hfind ▸ inv.stored
      order := horder
      bound := hbound
      logs := ?_ }
  intro r hr
  rw [hfind] at hr
  unfold updateCancelledWorkflowRecords
  rw [replayLog_insertWorkflowRunEvent, if_neg hother, List.append_nil]
  exact inv.logs r hr

theorem LogInvariant.insertIgnore (inv : LogInvariant runId db) (run : WorkflowRun) :
    LogInvariant runId (db.insertIgnoreWorkflowRun run) := by
  unfold insertIgnoreWorkflowRun
  dsimp only
  split_ifs with hexists
  · exact inv
  · simp only [Bool.or_eq_true, List.any_eq_true, decide_eq_true_eq, not_or, not_exists, not_and]
      at hexists
    obtain ⟨old, hold⟩ := Option.isSome_iff_exists.1 inv.stored
    have hfind (row : WorkflowRun) :
        find WorkflowRun.id runId (db.workflowRuns ++ [row]) = some old := by
      rw [find_append, hold]
      rfl
    exact
      { jobs := inv.jobs
        runs := inv.runs.append hexists.1
        stored := by
          rw [hfind]
          rfl
        order := inv.order
        bound := inv.bound
        logs := by
          intro r hr
          rw [hfind] at hr
          rw [← Option.some.inj hr]
          exact inv.logs old hold }

/-- **Operations of the queue.** Only an accepted cancellation of the run itself makes the copies
    differ. -/
theorem LogInvariant.queue (inv : LogInvariant runId db) (maxRecoveries : Int) (op : JobOp)
    (hspares : ¬ op.Cancels runId db) : LogInvariant runId (op.apply maxRecoveries db) := by
  have hjobs := (op.apply_queueStep maxRecoveries inv.jobs).ids inv.jobs
  cases op.apply_recordStep maxRecoveries inv.jobs with
  | same records =>
      simp only [Database.records, Prod.mk.injEq] at records
      exact inv.congr hjobs records.1 records.2.2.1 records.2.2.2
  | admitted run runs events next =>
      have hrow : db.insertIgnoreWorkflowRun run = _ := insertIgnoreWorkflowRun_eq run
      refine (inv.insertIgnore run).congr hjobs runs ?_ ?_
      · rw [events, hrow]
      · rw [next, hrow]
  | cancelled accepted records =>
      rename_i workflowRunId status reason now terminal
      simp only [Database.records, Prod.mk.injEq] at records
      have hother : workflowRunId ≠ runId := fun h => hspares (h ▸ accepted)
      exact (updateCancelledWorkflowRecords_other hother inv).congr hjobs records.1 records.2.2.1
        records.2.2.2

/-! ## Runs of the writers -/

/-- Writers over a shared database, with operations of the queue between their calls. -/
abbrev LogPool := Pool Op Reply Database Unit

abbrev LogLabel := Pool.Label LogTask Answer JobOp

def logStep (maxRecoveries : Int) (s : LogPool) (l : LogLabel) : Option LogPool :=
  Pool.step handleLive LogTask.program (fun op db => op.apply maxRecoveries db) s l

/-- The run whose row a call writes. -/
def Op.writtenRun? : Op → Option WorkflowRun
  | .store _ (.upsertWorkflowRun run) => some run
  | _ => none

/-- A call that does not write an outdated log column of the run. -/
def Op.KeepsLogs (runId : String) (db : Database) (op : Op) : Prop :=
  ∀ run ∈ op.writtenRun?, run.id = runId →
    (find WorkflowRun.id runId db.workflowRuns).map (·.logs) = some run.logs

instance (runId : String) (db : Database) (op : Op) : Decidable (op.KeepsLogs runId db) :=
  inferInstanceAs (Decidable (∀ run ∈ op.writtenRun?, run.id = runId → _ = _))

/-- The steps that keep the two copies together: a write of the run's row carries the logs that
    are stored at that moment (no event was appended since the row was read), and no cancellation
    of the run is accepted. -/
def logGuard (runId : String) : LogPool → LogLabel → Prop :=
  Pool.guard (fun db op _ => op.KeepsLogs runId db) fun db op => ¬ op.Cancels runId db

instance (runId : String) (s : LogPool) (l : LogLabel) : Decidable (logGuard runId s l) :=
  inferInstanceAs (Decidable (Pool.guard _ _ s l))

theorem LogInvariant.call (inv : LogInvariant runId db) {op : Op} {answer : Answer}
    (hallowed : LogTask.allowed op) (hkeeps : op.KeepsLogs runId db) :
    LogInvariant runId (handleLive op answer db).2 := by
  cases op with
  | now => exact inv
  | store detached call =>
      rw [handleLive_store]
      rcases answer.fault.apply_cases db (call.run answer.now db) with h | ⟨v, h⟩
      · rw [StoreOp.call, h]
        exact inv
      · rw [StoreOp.call]
        generalize (answer.fault.apply db (call.run answer.now db)).2 = db' at h ⊢
        cases call with
        | getWorkflowRun id =>
            obtain ⟨r, -, hr⟩ := Transaction.map_eq_ok.1 h
            rw [← (Prod.mk.inj hr).2]
            exact inv
        | upsertWorkflowRun run =>
            obtain ⟨db₁, hupsert, hr⟩ := Transaction.map_eq_ok.1 h
            rw [← (Prod.mk.inj hr).2]
            exact inv.upsert (hkeeps run rfl) hupsert
        | failWorkflowJob jobId ownerId message now =>
            have hqueue := inv.queue 0 (.fail jobId ownerId message now) id
            have hdb : JobOp.apply 0 (.fail jobId ownerId message now) db = db' :=
              (congrArg (Transaction.after · db) h).trans (Transaction.after_ok v db db')
            exact hdb ▸ hqueue
        | appendWorkflowLogEvent workflowRunId payload createdAt message scenarioRunId =>
            obtain ⟨db₁, happend, hr⟩ := Transaction.map_eq_ok.1 h
            rw [← (Prod.mk.inj hr).2]
            exact inv.append hallowed happend
        | _ => exact hallowed.elim
  | _ => exact hallowed.elim

/-- **The log column replays the events.** Every run of the writers from a database whose copies
    agree, all of whose steps meet `logGuard`, ends in one where the column holds the messages of
    the last 200 events, in the order of their ids. -/
theorem log_tail_replays (maxRecoveries : Int) (runId : String) (db : Database)
    (start : LogInvariant runId db) (labels : List LogLabel) (s : LogPool)
    (run : Trace.Guarded (fun s l s' => logStep maxRecoveries s l = some s') (logGuard runId)
      { shared := db } labels s) :
    (s.shared.logEvents runId).Pairwise (fun e f => e.id < f.id) ∧ LogsAgree runId s.shared := by
  have inv : Pool.Invariant (LogInvariant runId) LogTask.allowed s :=
    Pool.guarded_inv run LogTask.program_uses
      (fun hallowed hkeeps inv => inv.call hallowed hkeeps)
      (fun hspares inv => inv.queue maxRecoveries _ hspares)
      ⟨start, by simp⟩
  exact ⟨inv.shared.order.filter _, inv.shared.logs⟩

instance (runId : String) (db : Database) : Decidable (LogsAgree runId db) :=
  inferInstanceAs (Decidable (∀ r ∈ find WorkflowRun.id runId db.workflowRuns, _ = _))

/-- A run that was admitted and claimed. -/
def sampleClaimed : Database :=
  [.admission 0 (some sampleJob) (some { sampleRun with logs := "[]" }) [] {},
    .claim "worker" 10 30 {} true [] 0].foldl (fun db op => JobOp.apply 3 op db) sampleDatabase

theorem sampleClaimed_logInvariant : LogInvariant "run" sampleClaimed where
  jobs := by decide +kernel
  runs := by decide +kernel
  stored := by decide +kernel
  order := by decide +kernel
  bound := by decide +kernel
  logs := by decide +kernel

/-- The request of the sample run. -/
def sampleRequest : Request where
  workflowRunId := "run"
  projectId := "project"
  workflowId := "workflow"

/-- `updateRun` reads the run, `emitLog` appends a message, and `updateRun` writes. -/
def overtakenUpdate : List LogLabel :=
  [.spawn (.updateRun sampleRequest .running none ""), .spawn (.log sampleRequest "hello" "" none none),
    .call 0 {}, .call 0 { now := 11 }, .call 1 { now := 12 }, .call 1 {}, .call 0 {}]

/-- The same calls one task after the other. -/
def orderlyUpdate : List LogLabel :=
  [.spawn (.updateRun sampleRequest .running none ""), .spawn (.log sampleRequest "hello" "" none none),
    .call 0 {}, .call 0 { now := 11 }, .call 0 {}, .call 1 { now := 12 }, .call 1 {}]

/-- Of two orders of the same calls, the one without a log event between the read and the write
    of the run keeps the copies together. -/
theorem log_tail_replays_orderly :
    ∃ s : LogPool, Trace.Guarded (fun s l s' => logStep 3 s l = some s') (logGuard "run")
        { shared := sampleClaimed } orderlyUpdate s ∧
      (s.shared.logEvents "run").length = 1 ∧ LogsAgree "run" s.shared := by
  have hruns : (Trace.run (Trace.restrict (logStep 3) (logGuard "run"))
      { shared := sampleClaimed } orderlyUpdate).map (fun s => (s.shared.logEvents "run").length)
        = some 1 := by decide +kernel
  obtain ⟨s, hs, hlength⟩ := Option.map_eq_some_iff.1 hruns
  have hrun := Trace.Guarded.of_run hs
  exact ⟨s, hrun, hlength,
    (log_tail_replays 3 "run" sampleClaimed sampleClaimed_logInvariant orderlyUpdate s hrun).2⟩

/-- A log event between the read and the write of the run, and the column is not the tail of the
    events any more. -/
theorem log_tail_outdated :
    ¬ ∀ (db : Database) (labels : List LogLabel) (s : LogPool), LogInvariant "run" db →
      Trace.Steps (fun s l s' => logStep 3 s l = some s') { shared := db } labels s →
      LogsAgree "run" s.shared := by
  intro hall
  have hruns : (Trace.run (logStep 3) { shared := sampleClaimed } overtakenUpdate).map
      (fun s => decide (LogsAgree "run" s.shared)) = some false := by decide +kernel
  obtain ⟨s, hs, hlogs⟩ := Option.map_eq_some_iff.1 hruns
  exact of_decide_eq_false hlogs
    (hall sampleClaimed overtakenUpdate s sampleClaimed_logInvariant (Trace.Steps.of_run hs))

end TokyoTester
