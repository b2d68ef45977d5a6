import TokyoTester.Runs.Events
import TokyoTester.Runs.Stream

set_option autoImplicit false

/-! # Closing the event stream

The stream ends when a read of the job finds it finished and the read of the events just before it
found none. Between these two reads the threads of the execution go on: an event that is stored
there, followed by the end of the job, is never sent, and neither is one that is stored after the
job has ended, as `failJob` does. Where the last event of the run is stored before the stream reads
the events for the last time ahead of finding the job finished, a stream that closes has sent every
event of its run. -/

namespace TokyoTester

open Table Cursor

/-! ## Threads and a stream -/

/-- The database and a stream that watches a run. -/
structure WatchedState where
  db : Database
  stream : Stream
  /-- The events that were stored when the stream last asked for events. -/
  polled : List WorkflowRunEvent := []
  /-- The stream has read that the job is finished. -/
  runOver : Bool := false

/-- A call of a thread; the environment also says what its context is at that moment. -/
def watchedHandle (op : Op) (a : Answer × Context) (s : WatchedState) : Reply op × WatchedState :=
  let r := handle op a.1 { db := s.db, context := a.2 }
  (r.1, { s with db := r.2.db })

/-- The move reads that the job is finished. -/
def StreamMove.findsEnd : StreamMove → Bool
  | check job => job.any (·.status.terminal)
  | _ => false

/-- What happens between the calls: operations of the queue, and the loop of the stream. -/
inductive WatchEvent where
  | queue (op : JobOp)
  | poll
  | send
  | check (ok : Bool)
  | tick
  | stop

namespace WatchEvent

/-- The move of the stream; its read of the job may fail. -/
def move? (s : WatchedState) : WatchEvent → Option StreamMove
  | queue _ => none
  | poll => some .poll
  | send => some .send
  | check ok => some (.check (if ok then s.db.jobOfRun s.stream.workflowRunId else none))
  | tick => some .tick
  | stop => some .stop

/-- The move and the stream after it, if the event is a move and it is the stream's turn. -/
def moved? (event : WatchEvent) (s : WatchedState) : Option (StreamMove × Stream) :=
  (event.move? s).bind fun m => (s.stream.move s.db.workflowRunEvents m).map (m, ·)

/-- The state after an event. -/
def apply (maxRecoveries : Int) (event : WatchEvent) (s : WatchedState) : WatchedState :=
  match event with
  | queue op => { s with db := op.apply maxRecoveries s.db }
  | event =>
    match event.moved? s with
    | some (m, stream) =>
      { s with
        stream
        polled := m.polled s.db.workflowRunEvents s.polled
        runOver := s.runOver || m.findsEnd }
    | none => s

end WatchEvent

abbrev WatchPool := Pool Op Reply WatchedState Unit

abbrev WatchLabel := Pool.Label (Task Unit) (Answer × Context) WatchEvent

/-- One step: any thread may be started. -/
def watchStep (maxRecoveries : Int) (s : WatchPool) (l : WatchLabel) : Option WatchPool :=
  Pool.step watchedHandle id (WatchEvent.apply maxRecoveries) s l

/-! ## The condition -/

namespace Database

/-- The events of a run. -/
def runEvents (db : Database) (workflowRunId : String) : List WorkflowRunEvent :=
  db.workflowRunEvents.filter fun e => e.workflowRunId = workflowRunId

end Database

/-- Nothing is stored for the run once the stream has read that its job is finished. -/
def WatchedState.Ended (s : WatchedState) (db' : Database) : Prop :=
  s.runOver = true → db'.runEvents s.stream.workflowRunId = s.db.runEvents s.stream.workflowRunId

/-- The steps that store the run's last event in time: when the stream reads that the job is
    finished, nothing has been stored for the run since the stream last asked for events, and
    nothing is later. -/
def WatchEvent.InTime (maxRecoveries : Int) (s : WatchedState) : WatchEvent → Prop
  | .queue op => s.Ended (op.apply maxRecoveries s.db)
  | event => (event.moved? s).any (·.1.findsEnd) = true →
      ∀ e ∈ s.db.runEvents s.stream.workflowRunId, e ∈ s.polled

def watchGuard (maxRecoveries : Int) : WatchPool → WatchLabel → Prop :=
  Pool.guard (fun s op a => s.Ended (watchedHandle op a s).2.db)
    fun s event => event.InTime maxRecoveries s

/-! ## The invariant -/

/-- What steps in time keep. -/
structure WatchInvariant (s : WatchedState) : Prop where
  jobs : Keyed WorkflowJob.id s.db.workflowJobs
  replay : ReplayInvariant ⟨s.db.eventTable, s.stream, s.polled⟩
  seen : ∀ e ∈ s.polled, e ∈ s.db.workflowRunEvents
  /-- A poll that found nothing has seen only what was sent. -/
  window : s.stream.phase = .sending true → s.stream.reader.pending = [] ∧
    ∀ e ∈ s.polled, e.workflowRunId = s.stream.workflowRunId → e.id ≤ s.stream.reader.cursor
  closed : s.stream.phase = .closed → s.runOver = true ∧
    ∀ e ∈ s.db.runEvents s.stream.workflowRunId, e.id ≤ s.stream.reader.cursor

variable {s : WatchedState} {db' : Database}

/-- A stored event is one that is inserted and committed at once. -/
theorem ReplayInvariant.eventStep {db : Database} {stream : Stream}
    {polled : List WorkflowRunEvent} (inv : ReplayInvariant ⟨db.eventTable, stream, polled⟩)
    (hseen : ∀ e ∈ polled, e ∈ db.workflowRunEvents) (h : EventStep db db') :
    ReplayInvariant ⟨db'.eventTable, stream, polled⟩ ∧ ∀ e ∈ polled, e ∈ db'.workflowRunEvents := by
  cases h with
  | same events next =>
      unfold Database.eventTable at inv ⊢
      rw [events, next]
      exact ⟨inv, hseen⟩
  | stored e id events next =>
      have hinserted := inv.insert (o := ⟨e, false⟩) id
      -- its id is greater than all that there are
      have hcommitted := hinserted.commit (o := ⟨e, false⟩) (by simp) fun _ _ f hf _ =>
        (inv.valid.visible f (hseen f hf)).trans_eq id.symm
      unfold Database.eventTable at hcommitted ⊢
      rw [events, next]
      exact ⟨by simpa using hcommitted, fun f hf => List.mem_append_left _ (hseen f hf)⟩

/-- **A change of the database that comes in time keeps the invariant.** -/
theorem WatchInvariant.change (inv : WatchInvariant s) (hstep : EventStep s.db db')
    (hjobs : Keyed WorkflowJob.id db'.workflowJobs) (hended : s.Ended db') :
    WatchInvariant { s with db := db' } where
  jobs := hjobs
  replay := (inv.replay.eventStep inv.seen hstep).1
  seen := (inv.replay.eventStep inv.seen hstep).2
  window := inv.window
  closed hphase := by
    obtain ⟨hover, hsent⟩ := inv.closed hphase
    refine ⟨hover, ?_⟩
    rw [hended hover]
    exact hsent

theorem listWorkflowRunEvents_eq_nil {events : List WorkflowRunEvent} {workflowRunId : String}
    {afterId : Int} (h : listWorkflowRunEvents events workflowRunId afterId 250 = []) :
    ∀ e ∈ events.filter (fun e => e.workflowRunId = workflowRunId), (e.id : Int) ≤ afterId :=
  (page_eq_nil (by decide)).1 h

/-- **The loop of the stream keeps the invariant**: it closes only when the poll before found nothing
    and the job is finished. -/
theorem WatchInvariant.move (inv : WatchInvariant s) {m : StreamMove} {stream : Stream}
    (htime : m.findsEnd = true → ∀ e ∈ s.db.runEvents s.stream.workflowRunId, e ∈ s.polled)
    (h : s.stream.move s.db.workflowRunEvents m = some stream) :
    WatchInvariant { s with
      stream
      polled := m.polled s.db.workflowRunEvents s.polled
      runOver := s.runOver || m.findsEnd } := by
  have hreplay := inv.replay.move h
  have hseen : ∀ e ∈ m.polled s.db.workflowRunEvents s.polled, e ∈ s.db.workflowRunEvents := by
    cases m with
    | poll => exact fun _ he => he
    | send | check | tick | stop => exact inv.seen
  cases m with
  | poll =>
      obtain ⟨hphase, rfl⟩ := Stream.poll_eq h
      refine ⟨inv.jobs, hreplay, hseen, ?_, by simp⟩
      intro hempty
      simp only [StreamPhase.sending.injEq, List.isEmpty_iff] at hempty
      exact ⟨hempty, fun e he hrun => listWorkflowRunEvents_eq_nil hempty e
        (List.mem_filter.2 ⟨he, decide_eq_true hrun⟩)⟩
  | send =>
      obtain ⟨empty, e, rest, hphase, hpending, rfl⟩ := Stream.send_eq h
      -- a page with an event was not empty
      have hempty : empty ≠ true := by
        rintro rfl
        have hnone := (inv.window hphase).1
        rw [hpending] at hnone
        cases hnone
      exact ⟨inv.jobs, hreplay, hseen, by simp [hphase, hempty], by simp [hphase]⟩
  | check job =>
      obtain ⟨empty, hphase, hpending, rfl⟩ := Stream.check_eq h
      refine ⟨inv.jobs, hreplay, hseen, ?_, ?_⟩
      · intro hsending
        split_ifs at hsending
      · intro hclosed
        split_ifs at hclosed with hover
        simp only [Bool.and_eq_true] at hover
        obtain ⟨hfinished, rfl⟩ := hover
        have hfinds : (StreamMove.check job).findsEnd = true := hfinished
        refine ⟨by simp [hfinds], fun e he => ?_⟩
        exact (inv.window hphase).2 e (htime hfinds e he)
          (of_decide_eq_true (List.mem_filter.1 he).2)
  | tick =>
      obtain ⟨hphase, rfl⟩ := Stream.tick_eq h
      exact ⟨inv.jobs, hreplay, hseen, by simp, by simp⟩
  | stop =>
      obtain rfl := Stream.stop_eq h
      exact ⟨inv.jobs, hreplay, hseen, by simp, by simp⟩

/-- Every event is an operation of the queue or a move of the stream. -/
theorem WatchEvent.apply_cases (maxRecoveries : Int) (event : WatchEvent) (s : WatchedState) :
    (∃ op, event = .queue op) ∨ event.apply maxRecoveries s = s ∨
      ∃ m stream, event.moved? s = some (m, stream) ∧
        s.stream.move s.db.workflowRunEvents m = some stream ∧
        event.apply maxRecoveries s = { s with
          stream, polled := m.polled s.db.workflowRunEvents s.polled
          runOver := s.runOver || m.findsEnd } := by
  cases hm : event.moved? s with
  | none =>
      cases event with
      | queue op => exact .inl ⟨op, rfl⟩
      | poll | send | check | tick | stop => exact .inr (.inl (by simp only [apply, hm]))
  | some r =>
      obtain ⟨m, stream⟩ := r
      obtain ⟨m', hm', hstream⟩ := Option.bind_eq_some_iff.1 hm
      obtain ⟨stream', hmoved, hpair⟩ := Option.map_eq_some_iff.1 hstream
      obtain ⟨rfl, rfl⟩ := Prod.mk.inj hpair
      refine .inr (.inr ⟨m', stream', rfl, hmoved, ?_⟩)
      cases event with
      | queue op => cases hm'
      | poll | send | check | tick | stop => simp only [apply, hm]

theorem WatchInvariant.event (inv : WatchInvariant s) {maxRecoveries : Int} {event : WatchEvent}
    (htime : event.InTime maxRecoveries s) :
    WatchInvariant (event.apply maxRecoveries s) := by
  rcases event.apply_cases maxRecoveries s with ⟨op, rfl⟩ | h | ⟨m, stream, hm, hstream, h⟩
  · exact inv.change (op.apply_eventStep maxRecoveries inv.jobs)
      ((op.apply_queueStep maxRecoveries inv.jobs).ids inv.jobs) htime
  · rw [h]
    exact inv
  · rw [h]
    refine inv.move ?_ hstream
    cases event with
    | queue op => cases hm
    | poll | send | check | tick | stop => exact fun hfinds => htime (by rw [hm]; exact hfinds)

/-! ## Runs -/

/-- The run and the starting cursor of the stream stay the same. -/
theorem WatchEvent.apply_origin (maxRecoveries : Int) (event : WatchEvent) (s : WatchedState) :
    (event.apply maxRecoveries s).stream.origin = s.stream.origin := by
  rcases event.apply_cases maxRecoveries s with ⟨op, rfl⟩ | h | ⟨m, stream, -, hstream, h⟩
  · rfl
  · rw [h]
  · rw [h]
    exact Stream.move_origin hstream

instance (s : WatchedState) (db' : Database) : Decidable (s.Ended db') :=
  inferInstanceAs (Decidable (_ → _ = _))

instance (maxRecoveries : Int) (s : WatchedState) (event : WatchEvent) :
    Decidable (event.InTime maxRecoveries s) :=
  match event with
  | .queue op => inferInstanceAs (Decidable (s.Ended (op.apply maxRecoveries s.db)))
  | .poll | .send | .check _ | .tick | .stop =>
    inferInstanceAs (Decidable (_ → ∀ e ∈ s.db.runEvents s.stream.workflowRunId, e ∈ s.polled))

instance (maxRecoveries : Int) (s : WatchPool) (l : WatchLabel) :
    Decidable (watchGuard maxRecoveries s l) :=
  inferInstanceAs (Decidable (Pool.guard _ _ s l))

/-- The job of the sample run is completed: the row of the run, its last log event, and the job. -/
def completingCalls : List WatchLabel :=
  .spawn (Execution.finishJob "worker" sampleJob sampleRequest []) ::
    List.replicate 8 (.call 0 ({}, .live))

/-- The stream watches the end of the run from afterwards. -/
def watchedAfterwards : List WatchLabel :=
  completingCalls ++ [.environment .poll, .environment .send, .environment (.check true),
    .environment .tick, .environment .poll, .environment (.check true)]

/-- The stream's two reads are on both sides of the end of the run. -/
def watchedAround : List WatchLabel :=
  [.environment .poll] ++ completingCalls ++ [.environment (.check true)]

end TokyoTester
