import TokyoTester.Library.Cursor
import TokyoTester.Library.Trace
import TokyoTester.Runs.Store

set_option autoImplicit false

/-! # The event stream of a run (`StreamWorkflowRunEvents`)

The handler polls the event table with the id of the last event it sent as its cursor. An event's
id is taken from the table's counter when its row is inserted, but the row is seen by others only
when its transaction commits, and these two orders differ: a transaction that updates the run
before it inserts the event (`AppendWorkflowLogEvent`, a cancellation) keeps other such
transactions of the run waiting until it commits, but not the plain insert of
`AppendWorkflowRunEvent`. The table is therefore modelled with its rows in flight. -/

namespace TokyoTester

open Cursor

/-! ## The handler -/

/-- The rows that `ListWorkflowRunEvents` selects from the visible events. -/
def listWorkflowRunEvents (events : List WorkflowRunEvent) (workflowRunId : String)
    (afterId limit : Int) : List WorkflowRunEvent :=
  let limit := if limit ≤ 0 ∨ limit > 1000 then 250 else limit
  page WorkflowRunEvent.id afterId limit.toNat
    (events.filter fun e => e.workflowRunId = workflowRunId)

/-- Where the handler is in its loop. -/
inductive StreamPhase where
  /-- About to ask for events. -/
  | polling
  /-- Sending a page, and then about to read the job; `empty` is `len(events) == 0`. -/
  | sending (empty : Bool)
  /-- Waiting for a ticker. -/
  | waiting
  /-- Returned because the run is over. -/
  | closed
  /-- Returned because a read or a write failed, or the client is gone. -/
  | stopped
deriving DecidableEq, Repr

/-- A call of `StreamWorkflowRunEvents`: the entries that its reader has taken have been sent. -/
structure Stream where
  workflowRunId : String
  reader : Reader WorkflowRunEvent
  phase : StreamPhase := .polling
deriving DecidableEq, Repr

/-- What the handler does next. -/
inductive StreamMove where
  | poll
  | send
  | check (job : Option WorkflowJob)
  | tick
  | stop

namespace Stream

/-- The stream of a run from an event id on (`Last-Event-ID` or `after`). -/
def opened (workflowRunId : String) (afterId : Int) : Stream :=
  { workflowRunId, reader := { start := afterId, cursor := afterId } }

/-- The events that were sent. -/
def sent (s : Stream) : List WorkflowRunEvent := s.reader.taken

/-- The next page of events is read. -/
def poll (events : List WorkflowRunEvent) (s : Stream) : Option Stream :=
  match s.phase with
  | .polling =>
    let page := listWorkflowRunEvents events s.workflowRunId s.reader.cursor 250
    some { s with reader := { s.reader with pending := page }, phase := .sending page.isEmpty }
  | _ => none

/-- The next event of the page is sent. -/
def send (s : Stream) : Option Stream :=
  match s.phase with
  | .sending _ => (s.reader.take WorkflowRunEvent.id).map fun reader => { s with reader }
  | _ => none

/-- The job is read, perhaps in vain; a finished one ends the stream when the page was empty. -/
def check (job : Option WorkflowJob) (s : Stream) : Option Stream :=
  match s.phase with
  | .sending empty =>
    if s.reader.pending.isEmpty then
      some { s with
        phase := if job.any (·.status.terminal) && empty then .closed else .waiting }
    else none
  | _ => none

/-- A ticker fires; the heartbeat's message is not an event. -/
def tick (s : Stream) : Option Stream :=
  match s.phase with
  | .waiting => some { s with phase := .polling }
  | _ => none

/-- A read or a write fails, or the client goes away. -/
def stop (s : Stream) : Option Stream :=
  match s.phase with
  | .closed => none
  | _ => some { s with phase := .stopped }

variable {a b : Stream}

theorem poll_eq {events : List WorkflowRunEvent} (h : a.poll events = some b) :
    a.phase = .polling ∧ b = { a with
      reader := { a.reader with
        pending := listWorkflowRunEvents events a.workflowRunId a.reader.cursor 250 }
      phase := .sending
        (listWorkflowRunEvents events a.workflowRunId a.reader.cursor 250).isEmpty } := by
  unfold poll at h
  split at h
  · rename_i hphase
    exact ⟨hphase, (Option.some.inj h).symm⟩
  · cases h

theorem send_eq (h : a.send = some b) :
    ∃ empty e rest, a.phase = .sending empty ∧ a.reader.pending = e :: rest ∧
      b = { a with
        reader := { a.reader with
          cursor := e.id, taken := a.reader.taken ++ [e], pending := rest } } := by
  unfold send at h
  split at h
  · rename_i empty hphase
    obtain ⟨reader, hreader, rfl⟩ := Option.map_eq_some_iff.1 h
    unfold Reader.take at hreader
    split at hreader
    · cases hreader
    · rename_i e rest hpending
      obtain rfl := Option.some.inj hreader
      exact ⟨empty, e, rest, hphase, hpending, rfl⟩
  · cases h

theorem check_eq {job : Option WorkflowJob} (h : a.check job = some b) :
    ∃ empty, a.phase = .sending empty ∧ a.reader.pending = [] ∧ b = { a with
      phase := if job.any (·.status.terminal) && empty then .closed else .waiting } := by
  unfold check at h
  split at h
  · rename_i empty hphase
    by_cases hpending : a.reader.pending.isEmpty = true
    · rw [if_pos hpending] at h
      exact ⟨empty, hphase, List.isEmpty_iff.1 hpending, (Option.some.inj h).symm⟩
    · rw [if_neg hpending] at h
      cases h
  · cases h

theorem tick_eq (h : a.tick = some b) : a.phase = .waiting ∧ b = { a with phase := .polling } := by
  unfold tick at h
  split at h
  · rename_i hphase
    exact ⟨hphase, (Option.some.inj h).symm⟩
  · cases h

theorem stop_eq (h : a.stop = some b) : b = { a with phase := .stopped } := by
  unfold stop at h
  split at h
  · cases h
  · exact (Option.some.inj h).symm

/-- A step of the handler. -/
def move (events : List WorkflowRunEvent) (s : Stream) : StreamMove → Option Stream
  | .poll => s.poll events
  | .send => s.send
  | .check job => s.check job
  | .tick => s.tick
  | .stop => s.stop

/-- What is fixed when a stream is opened. -/
def origin (s : Stream) : String × Int := (s.workflowRunId, s.reader.start)

theorem move_origin {events : List WorkflowRunEvent} {m : StreamMove}
    (h : a.move events m = some b) : b.origin = a.origin := by
  cases m with
  | poll =>
      obtain ⟨-, rfl⟩ := poll_eq h
      rfl
  | send =>
      obtain ⟨empty, e, rest, -, -, rfl⟩ := send_eq h
      rfl
  | check job =>
      obtain ⟨empty, -, -, rfl⟩ := check_eq h
      rfl
  | tick =>
      obtain ⟨-, rfl⟩ := tick_eq h
      rfl
  | stop =>
      obtain rfl := stop_eq h
      rfl

end Stream

/-! ## The event table with rows in flight -/

/-- A row that was inserted by a transaction that has not committed. -/
structure InFlightEvent where
  event : WorkflowRunEvent
  /-- Its transaction holds the row of the run. -/
  locksRun : Bool
deriving DecidableEq, Repr

/-- The event table and its counter. -/
structure EventTable where
  /-- The committed rows, in the order of their commits. -/
  visible : List WorkflowRunEvent := []
  inFlight : List InFlightEvent := []
  nextId : Nat := 1
deriving DecidableEq, Repr

/-- The table of a database between two transactions. -/
def Database.eventTable (db : Database) : EventTable where
  visible := db.workflowRunEvents
  nextId := db.nextEventId

namespace EventTable

/-- A row is inserted and takes its id. A transaction that locks the run waits for the others that
    do. -/
def insert (workflowRunId : String) (eventType : RunEventType) (payload : String)
    (createdAt : Time) (locksRun : Bool) (t : EventTable) : Option EventTable :=
  if locksRun && t.inFlight.any (fun o => o.locksRun && o.event.workflowRunId = workflowRunId) then
    none
  else
    let event := { id := t.nextId, workflowRunId, eventType, payload, createdAt }
    some { t with inFlight := t.inFlight ++ [{ event, locksRun }], nextId := t.nextId + 1 }

/-- A transaction in flight commits. -/
def commit (id : Nat) (t : EventTable) : Option EventTable :=
  (t.inFlight.find? fun o => o.event.id = id).map fun o =>
    { t with
      visible := t.visible ++ [o.event]
      inFlight := t.inFlight.filter fun o => o.event.id ≠ id }

/-- A transaction in flight is rolled back; its id stays unused. -/
def rollback (id : Nat) (t : EventTable) : EventTable :=
  { t with inFlight := t.inFlight.filter fun o => o.event.id ≠ id }

/-- The calls of the store insert and commit in one step. -/
theorem insert_commit (db : Database) (workflowRunId : String) (eventType : RunEventType)
    (payload : String) (createdAt : Time) (locksRun : Bool) :
    (db.eventTable.insert workflowRunId eventType payload createdAt locksRun >>=
        commit db.nextEventId)
      = some (db.insertWorkflowRunEvent workflowRunId eventType payload createdAt).eventTable := by
  simp [insert, commit, Database.eventTable, Database.insertWorkflowRunEvent]

/-- The ids are distinct and below the counter. -/
structure Valid (t : EventTable) : Prop where
  ids : (t.visible.map WorkflowRunEvent.id).Nodup
  apart : ∀ o ∈ t.inFlight, ∀ e ∈ t.visible, e.id ≠ o.event.id
  visible : ∀ e ∈ t.visible, e.id < t.nextId
  inFlight : ∀ o ∈ t.inFlight, o.event.id < t.nextId

variable {t t' : EventTable}

theorem insert_eq {workflowRunId : String} {eventType : RunEventType} {payload : String}
    {createdAt : Time} {locksRun : Bool}
    (h : t.insert workflowRunId eventType payload createdAt locksRun = some t') :
    ∃ o : InFlightEvent, o.event.id = t.nextId ∧
      t' = { t with inFlight := t.inFlight ++ [o], nextId := t.nextId + 1 } := by
  unfold insert at h
  split_ifs at h
  exact ⟨_, rfl, (Option.some.inj h).symm⟩

theorem commit_eq {id : Nat} (h : t.commit id = some t') :
    ∃ o ∈ t.inFlight, o.event.id = id ∧
      t' = { t with
        visible := t.visible ++ [o.event]
        inFlight := t.inFlight.filter fun o => o.event.id ≠ id } := by
  obtain ⟨o, ho, rfl⟩ := Option.map_eq_some_iff.1 h
  exact ⟨o, List.mem_of_find?_eq_some ho, by simpa using List.find?_some ho, rfl⟩

namespace Valid

theorem insert (hvalid : t.Valid) {o : InFlightEvent} (ho : o.event.id = t.nextId) :
    Valid { t with inFlight := t.inFlight ++ [o], nextId := t.nextId + 1 } where
  ids := hvalid.ids
  apart p hp e he := by
    rcases List.mem_append.1 hp with hp | hp
    · exact hvalid.apart p hp e he
    · rw [List.mem_singleton.1 hp, ho]
      exact (hvalid.visible e he).ne
  visible e he := Nat.lt_succ_of_lt (hvalid.visible e he)
  inFlight p hp := by
    rcases List.mem_append.1 hp with hp | hp
    · exact Nat.lt_succ_of_lt (hvalid.inFlight p hp)
    · rw [List.mem_singleton.1 hp, ho]
      exact Nat.lt_succ_self _

theorem commit (hvalid : t.Valid) {o : InFlightEvent} (ho : o ∈ t.inFlight) :
    Valid { t with
      visible := t.visible ++ [o.event]
      inFlight := t.inFlight.filter fun p => p.event.id ≠ o.event.id } where
  ids := by
    rw [List.map_append, List.nodup_append]
    refine ⟨hvalid.ids, by simp, ?_⟩
    intro id hid id' hid' heq
    obtain ⟨e, he, rfl⟩ := List.mem_map.1 hid
    rw [List.map_singleton, List.mem_singleton] at hid'
    exact hvalid.apart o ho e he (heq.trans hid')
  apart p hp e he := by
    obtain ⟨hp, hne⟩ := List.mem_filter.1 hp
    rcases List.mem_append.1 he with he | he
    · exact hvalid.apart p hp e he
    · rw [List.mem_singleton.1 he]
      exact Ne.symm (of_decide_eq_true hne)
  visible e he := by
    rcases List.mem_append.1 he with he | he
    · exact hvalid.visible e he
    · rw [List.mem_singleton.1 he]
      exact hvalid.inFlight o ho
  inFlight p hp := hvalid.inFlight p (List.mem_of_mem_filter hp)

theorem rollback (hvalid : t.Valid) (id : Nat) : (t.rollback id).Valid where
  ids := hvalid.ids
  apart p hp := hvalid.apart p (List.mem_of_mem_filter hp)
  visible := hvalid.visible
  inFlight p hp := hvalid.inFlight p (List.mem_of_mem_filter hp)

end Valid

end EventTable

/-! ## Writers and a stream -/

/-- The events that the last poll could see, after a move. -/
def StreamMove.polled (events polled : List WorkflowRunEvent) : StreamMove → List WorkflowRunEvent
  | poll => events
  | _ => polled

/-- The event table and one stream that reads it. -/
structure ReplayState where
  table : EventTable
  stream : Stream
  /-- The events that were committed when the stream last asked for events. -/
  polled : List WorkflowRunEvent := []
deriving DecidableEq, Repr

/-- What happens next. -/
inductive ReplayLabel where
  | insert (workflowRunId : String) (eventType : RunEventType) (payload : String)
      (createdAt : Time) (locksRun : Bool)
  | commit (id : Nat)
  | rollback (id : Nat)
  | stream (move : StreamMove)

/-- One step, when it can happen. -/
def ReplayState.step (s : ReplayState) : ReplayLabel → Option ReplayState
  | .insert workflowRunId eventType payload createdAt locksRun =>
    (s.table.insert workflowRunId eventType payload createdAt locksRun).map fun table =>
      { s with table }
  | .commit id => (s.table.commit id).map fun table => { s with table }
  | .rollback id => some { s with table := s.table.rollback id }
  | .stream m => (s.stream.move s.table.visible m).map fun stream =>
      { s with stream, polled := m.polled s.table.visible s.polled }

/-- The commits in the order of the ids: none of an event of the run after a poll at which an event
    of the run with a greater id was committed. -/
def ReplayState.InOrder (s : ReplayState) : ReplayLabel → Prop
  | .commit id => ∀ o ∈ s.table.inFlight, o.event.id = id →
      o.event.workflowRunId = s.stream.workflowRunId → s.stream.reader.start < o.event.id →
      ∀ e ∈ s.polled, e.workflowRunId = s.stream.workflowRunId → e.id < o.event.id
  | _ => True

/-- What a run keeps as long as its commits are in order. -/
structure ReplayInvariant (s : ReplayState) : Prop where
  valid : s.table.Valid
  faithful : Faithful WorkflowRunEvent.id
    (s.table.visible.filter fun e => e.workflowRunId = s.stream.workflowRunId) s.stream.reader
  drained : s.stream.phase = .polling ∨ s.stream.phase = .waiting → s.stream.reader.pending = []
  /-- The cursor is where the stream started, or at an event that was sent. -/
  cursor : s.stream.reader.cursor = s.stream.reader.start ∨
    ∃ e ∈ s.stream.sent, s.stream.reader.cursor = e.id
  /-- What was sent or is about to be, a poll has seen. -/
  polled : ∀ e ∈ s.stream.sent ++ s.stream.reader.pending, e ∈ s.polled

variable {s s' : ReplayState}

theorem ReplayInvariant.init {t : EventTable} (hvalid : t.Valid) (workflowRunId : String)
    (afterId : Int) : ReplayInvariant { table := t, stream := .opened workflowRunId afterId } where
  valid := hvalid
  faithful := Faithful.init (hvalid.ids.sublist (List.filter_sublist.map _)) afterId
  drained _ := rfl
  cursor := .inl rfl
  polled := by simp [Stream.opened, Stream.sent]

theorem ReplayInvariant.stored (inv : ReplayInvariant s) {e : WorkflowRunEvent}
    (he : e ∈ s.stream.sent ++ s.stream.reader.pending) :
    e ∈ s.table.visible ∧ e.workflowRunId = s.stream.workflowRunId := by
  obtain ⟨hvisible, hrun⟩ := List.mem_filter.1 (inv.faithful.stored e he)
  exact ⟨hvisible, of_decide_eq_true hrun⟩

/-- A stream that only moves on in its loop keeps the invariant. -/
theorem ReplayInvariant.idle (inv : ReplayInvariant s) {phase : StreamPhase}
    (hdrained : phase = .polling ∨ phase = .waiting → s.stream.reader.pending = []) :
    ReplayInvariant { s with stream := { s.stream with phase } } where
  valid := inv.valid
  faithful := inv.faithful
  drained := hdrained
  cursor := inv.cursor
  polled := inv.polled

theorem ReplayInvariant.insert (inv : ReplayInvariant s) {o : InFlightEvent}
    (ho : o.event.id = s.table.nextId) :
    ReplayInvariant { s with
      table := { s.table with
        inFlight := s.table.inFlight ++ [o], nextId := s.table.nextId + 1 } } where
  valid := inv.valid.insert ho
  faithful := inv.faithful
  drained := inv.drained
  cursor := inv.cursor
  polled := inv.polled

theorem ReplayInvariant.commit (inv : ReplayInvariant s) {o : InFlightEvent}
    (ho : o ∈ s.table.inFlight)
    (hguard : o.event.workflowRunId = s.stream.workflowRunId →
      s.stream.reader.start < o.event.id →
      ∀ e ∈ s.polled, e.workflowRunId = s.stream.workflowRunId → e.id < o.event.id) :
    ReplayInvariant { s with
      table := { s.table with
        visible := s.table.visible ++ [o.event]
        inFlight := s.table.inFlight.filter fun p => p.event.id ≠ o.event.id } } where
  valid := inv.valid.commit ho
  faithful := by
    simp only [List.filter_append, List.filter_cons, List.filter_nil, decide_eq_true_eq]
    split_ifs with hrun
    · -- the committed row is ahead of all that a poll has seen
      have hahead : s.stream.reader.start < o.event.id →
          ∀ e ∈ s.stream.sent ++ s.stream.reader.pending, e.id < o.event.id :=
        fun hstart e he => hguard hrun hstart e (inv.polled e he) (inv.stored he).2
      refine inv.faithful.append ?_ ?_ ?_
      · intro e he
        exact inv.valid.apart o ho e (List.mem_of_mem_filter he)
      · intro hstart
        rcases inv.cursor with hcursor | ⟨e, he, hcursor⟩
        · rwa [hcursor]
        · rw [hcursor]
          exact Int.ofNat_lt.2 (hahead hstart e (List.mem_append_left _ he))
      · exact fun hstart e he => hahead hstart e (List.mem_append_right _ he)
    · rw [List.append_nil]
      exact inv.faithful
  drained := inv.drained
  cursor := inv.cursor
  polled := inv.polled

theorem ReplayInvariant.rollback (inv : ReplayInvariant s) (id : Nat) :
    ReplayInvariant { s with table := s.table.rollback id } where
  valid := inv.valid.rollback id
  faithful := inv.faithful
  drained := inv.drained
  cursor := inv.cursor
  polled := inv.polled

/-- The loop of the handler. -/
theorem ReplayInvariant.move (inv : ReplayInvariant s) {m : StreamMove} {stream : Stream}
    (h : s.stream.move s.table.visible m = some stream) :
    ReplayInvariant { s with stream, polled := m.polled s.table.visible s.polled } := by
  cases m with
  | poll =>
      obtain ⟨hphase, rfl⟩ := Stream.poll_eq h
      have hfetched := inv.faithful.fetch (inv.drained (.inl hphase)) 250
      exact
        { valid := inv.valid
          faithful := hfetched
          drained := by simp
          cursor := inv.cursor
          polled := fun e he => List.mem_of_mem_filter (hfetched.stored e he) }
  | send =>
      obtain ⟨empty, e, rest, hphase, hpending, rfl⟩ := Stream.send_eq h
      exact
        { valid := inv.valid
          faithful := inv.faithful.take (by simp [Reader.take, hpending])
          drained := by simp [hphase]
          cursor := .inr ⟨e, List.mem_append_right _ (List.mem_singleton_self e), rfl⟩
          polled := by
            have hpolled := inv.polled
            rw [hpending] at hpolled
            simpa [Stream.sent, StreamMove.polled] using hpolled }
  | check job =>
      obtain ⟨empty, -, hpending, rfl⟩ := Stream.check_eq h
      exact inv.idle fun _ => hpending
  | tick =>
      obtain ⟨hphase, rfl⟩ := Stream.tick_eq h
      exact inv.idle fun _ => inv.drained (.inr hphase)
  | stop =>
      obtain rfl := Stream.stop_eq h
      exact inv.idle (by simp)

/-- **A step that commits in order keeps the invariant.** -/
theorem ReplayInvariant.step (inv : ReplayInvariant s) {label : ReplayLabel}
    (hguard : s.InOrder label) (h : s.step label = some s') : ReplayInvariant s' := by
  cases label with
  | insert workflowRunId eventType payload createdAt locksRun =>
      obtain ⟨table, htable, rfl⟩ := Option.map_eq_some_iff.1 h
      obtain ⟨o, ho, rfl⟩ := EventTable.insert_eq htable
      exact inv.insert ho
  | commit id =>
      obtain ⟨table, htable, rfl⟩ := Option.map_eq_some_iff.1 h
      obtain ⟨o, ho, rfl, rfl⟩ := EventTable.commit_eq htable
      exact inv.commit ho (hguard o ho rfl)
  | rollback id =>
      obtain rfl := Option.some.inj h
      exact inv.rollback id
  | stream m =>
      obtain ⟨stream, hstream, rfl⟩ := Option.map_eq_some_iff.1 h
      exact inv.move hstream

theorem ReplayState.step_origin {label : ReplayLabel} (h : s.step label = some s') :
    s'.stream.origin = s.stream.origin := by
  cases label with
  | insert | commit =>
      obtain ⟨table, -, rfl⟩ := Option.map_eq_some_iff.1 h
      rfl
  | rollback =>
      obtain rfl := Option.some.inj h
      rfl
  | stream m =>
      obtain ⟨stream, hstream, rfl⟩ := Option.map_eq_some_iff.1 h
      exact Stream.move_origin hstream

/-- What is committed stays so, and what was sent comes first. -/
structure ReplayState.Continues (s s' : ReplayState) : Prop where
  visible : ∀ e ∈ s.table.visible, e ∈ s'.table.visible
  sent : s.stream.sent <+: s'.stream.sent

theorem ReplayState.Continues.step {s₀ : ReplayState} (hcont : s₀.Continues s)
    {label : ReplayLabel} (h : s.step label = some s') : s₀.Continues s' := by
  cases label with
  | insert workflowRunId eventType payload createdAt locksRun =>
      obtain ⟨table, htable, rfl⟩ := Option.map_eq_some_iff.1 h
      obtain ⟨o, ho, rfl⟩ := EventTable.insert_eq htable
      exact ⟨hcont.visible, hcont.sent⟩
  | commit id =>
      obtain ⟨table, htable, rfl⟩ := Option.map_eq_some_iff.1 h
      obtain ⟨o, ho, rfl, rfl⟩ := EventTable.commit_eq htable
      exact ⟨fun e he => List.mem_append_left _ (hcont.visible e he), hcont.sent⟩
  | rollback id =>
      obtain rfl := Option.some.inj h
      exact ⟨hcont.visible, hcont.sent⟩
  | stream m =>
      obtain ⟨stream, hstream, rfl⟩ := Option.map_eq_some_iff.1 h
      refine ⟨hcont.visible, hcont.sent.trans ?_⟩
      cases m with
      | poll =>
          obtain ⟨-, rfl⟩ := Stream.poll_eq hstream
          exact List.prefix_rfl
      | send =>
          obtain ⟨empty, e, rest, -, -, rfl⟩ := Stream.send_eq hstream
          exact List.prefix_append _ _
      | check job =>
          obtain ⟨empty, -, -, rfl⟩ := Stream.check_eq hstream
          exact List.prefix_rfl
      | tick =>
          obtain ⟨-, rfl⟩ := Stream.tick_eq hstream
          exact List.prefix_rfl
      | stop =>
          obtain rfl := Stream.stop_eq hstream
          exact List.prefix_rfl

/-- What is committed by a later point and not above the cursor has been sent. -/
theorem ReplayInvariant.mem_sent (inv : ReplayInvariant s) (inv' : ReplayInvariant s')
    (hcont : s.Continues s') (horigin : s'.stream.origin = s.stream.origin)
    {e : WorkflowRunEvent} (hvisible : e ∈ s'.table.visible)
    (hrun : e.workflowRunId = s.stream.workflowRunId) (hlow : s.stream.reader.start < e.id)
    (hhigh : e.id ≤ s.stream.reader.cursor) : e ∈ s.stream.sent := by
  obtain ⟨hsame, hstart⟩ := Prod.mk.inj horigin
  rcases inv.cursor with hcursor | ⟨f, hf, hcursor⟩
  · omega
  · -- the later cursor is not below an event that was sent
    have hle := (inv'.faithful.taken f (hcont.sent.subset hf)).2
    have he : e ∈ s'.stream.sent := by
      refine inv'.faithful.mem_taken.2 ⟨List.mem_filter.2 ⟨hvisible, ?_⟩, ?_, ?_⟩
      · rw [hsame]
        exact decide_eq_true hrun
      · rwa [hstart]
      · omega
    obtain ⟨more, hmore⟩ := hcont.sent
    rw [← hmore] at he
    rcases List.mem_append.1 he with he | he
    · exact he
    · have hordered : s'.stream.sent.Pairwise fun e f => e.id < f.id :=
        (List.pairwise_append.1 inv'.faithful.ordered).1
      rw [← hmore] at hordered
      have hlt := (List.pairwise_append.1 hordered).2.2 f hf e he
      omega

/-- **Replay skips nothing.** In every run of writers and a stream whose commits are in order, what
    has been sent at any point is, in the order of their ids and each once, exactly the events of
    the run between the starting cursor and the current one, among those committed at that point or
    at any later one. -/
theorem event_replay_complete (t : EventTable) (hvalid : t.Valid) (workflowRunId : String)
    (afterId : Int) (labels later : List ReplayLabel) (s s' : ReplayState)
    (run : Trace.Guarded (fun s l s' => s.step l = some s') ReplayState.InOrder
      { table := t, stream := .opened workflowRunId afterId } labels s)
    (rest : Trace.Guarded (fun s l s' => s.step l = some s') ReplayState.InOrder s later s') :
    s.stream.sent.Pairwise (fun e f => e.id < f.id) ∧
    ∀ e, e ∈ s.stream.sent ↔ e ∈ s'.table.visible ∧ e.workflowRunId = workflowRunId ∧
      afterId < e.id ∧ e.id ≤ s.stream.reader.cursor := by
  have inv : ReplayInvariant s :=
    run.invariant ReplayInvariant (fun hguard hstep inv => inv.step hguard hstep)
      (.init hvalid workflowRunId afterId)
  have inv' : ReplayInvariant s' :=
    rest.invariant ReplayInvariant (fun hguard hstep inv => inv.step hguard hstep) inv
  have hcont : s.Continues s' :=
    rest.steps.invariant s.Continues (fun hstep hcont => hcont.step hstep)
      ⟨fun _ he => he, List.prefix_rfl⟩
  have horigin : s.stream.origin = (workflowRunId, afterId) :=
    run.steps.invariant (fun s => s.stream.origin = (workflowRunId, afterId))
      (fun hstep h => (ReplayState.step_origin hstep).trans h) rfl
  have horigin' : s'.stream.origin = s.stream.origin :=
    rest.steps.invariant (fun s' => s'.stream.origin = s.stream.origin)
      (fun hstep h => (ReplayState.step_origin hstep).trans h) rfl
  obtain ⟨rfl, rfl⟩ := Prod.mk.inj horigin
  refine ⟨(List.pairwise_append.1 inv.faithful.ordered).1, ?_⟩
  intro e
  constructor
  · intro he
    obtain ⟨hvisible, hrun⟩ := inv.stored (List.mem_append_left _ he)
    exact ⟨hcont.visible e hvisible, hrun, inv.faithful.taken e he⟩
  · rintro ⟨hvisible, hrun, hlow, hhigh⟩
    exact inv.mem_sent inv' hcont horigin' hvisible hrun hlow hhigh

instance (s : ReplayState) (label : ReplayLabel) : Decidable (s.InOrder label) :=
  match label with
  | .commit _ =>
    inferInstanceAs (Decidable (∀ o ∈ s.table.inFlight, _ → _ → _ → ∀ e ∈ _, _ → _ < _))
  | .insert .. | .rollback _ | .stream _ => .isTrue trivial

/-- A log event and a test result are stored; the log event takes its id first and commits last. -/
def overlappingWrites : List ReplayLabel :=
  [.insert "run" .workflowlog "log" 0 true, .insert "run" .testresult "result" 0 false, .commit 2]

/-- The stream polls and sends what it finds. -/
def pollOnce : List ReplayLabel := [.stream .poll, .stream .send]

/-- A poll after both commits sends both events in the order of their ids. -/
theorem event_replay_complete_ordered :
    ∃ s : ReplayState, Trace.Guarded (fun s l s' => s.step l = some s') ReplayState.InOrder
        { table := {}, stream := .opened "run" 0 }
        (overlappingWrites ++ [.commit 1] ++ pollOnce ++ [.stream .send]) s ∧
      s.stream.sent.map (·.id) = [1, 2] ∧
      ∀ e ∈ s.table.visible, e.workflowRunId = "run" → 0 < e.id →
        e.id ≤ s.stream.reader.cursor → e ∈ s.stream.sent := by
  have hruns : (Trace.run (Trace.restrict ReplayState.step ReplayState.InOrder)
      { table := {}, stream := .opened "run" 0 }
      (overlappingWrites ++ [.commit 1] ++ pollOnce ++ [.stream .send])).map
        (fun s => s.stream.sent.map (·.id)) = some [1, 2] := by
    decide +kernel
  obtain ⟨s, hs, hsent⟩ := Option.map_eq_some_iff.1 hruns
  have hrun := Trace.Guarded.of_run hs
  have hvalid : EventTable.Valid {} := ⟨by simp, by simp, by simp, by simp⟩
  have hcomplete := (event_replay_complete {} hvalid "run" 0 _ [] s s hrun (.nil s)).2
  exact ⟨s, hrun, hsent, fun e he hrun hlow hhigh =>
    (hcomplete e).2 ⟨he, hrun, Int.ofNat_lt.2 hlow, hhigh⟩⟩

/-- A poll between the commits: the cursor passes the id of the log event, which commits and is
    never sent. -/
theorem event_replay_skips :
    ¬ ∀ (t : EventTable) (afterId : Int) (labels later : List ReplayLabel) (s s' : ReplayState),
      t.Valid →
      Trace.Steps (fun s l s' => s.step l = some s')
        { table := t, stream := .opened "run" afterId } labels s →
      Trace.Steps (fun s l s' => s.step l = some s') s later s' →
      ∀ e ∈ s'.table.visible, e.workflowRunId = "run" → afterId < e.id →
        e.id ≤ s.stream.reader.cursor → e ∈ s.stream.sent := by
  intro hall
  have hruns : (Trace.run ReplayState.step { table := {}, stream := .opened "run" 0 }
      (overlappingWrites ++ pollOnce)).map (fun s => (s.step (.commit 1)).map fun s' =>
        decide (∃ e ∈ s'.table.visible, e.workflowRunId = "run" ∧ (0 : Int) < e.id ∧
          e.id ≤ s.stream.reader.cursor ∧ e ∉ s.stream.sent)) = some (some true) := by
    decide +kernel
  obtain ⟨s, hs, hlater⟩ := Option.map_eq_some_iff.1 hruns
  obtain ⟨s', hs', hmissing⟩ := Option.map_eq_some_iff.1 hlater
  obtain ⟨e, hvisible, hrun, hlow, hhigh, hnot⟩ := of_decide_eq_true hmissing
  have hvalid : EventTable.Valid {} := ⟨by simp, by simp, by simp, by simp⟩
  exact hnot (hall {} 0 _ [.commit 1] s s' hvalid (Trace.Steps.of_run hs) (.cons hs' (.nil s')) e
    hvisible hrun hlow hhigh)

end TokyoTester
