import TokyoTester.Library.Latch
import TokyoTester.Library.Replay
import TokyoTester.Realtime.Replay

set_option autoImplicit false

/-! # The replay cursor

A cursor that moves with every event that is applied is safe as long as nothing below the event is
left behind. The two queues are drained independently, so a batch of test results is applied, and
moves the cursor, while log events with smaller ids still wait; a queue also drops its head when it
is full, and an event that cannot be read is not queued. `World.inOrder` says of a step that it does
none of this, and a run of such steps keeps the cursor safe. -/

namespace TokyoTester
namespace Realtime

open Table Latch Replay

/-! ## Event ids -/

theorem bigInt_eventIdText (id : Nat) : bigInt (eventIdText id) = some (id : Int) :=
  Json.intOfLiteral_intLiteral id

theorem eventIdText_ne_empty (id : Nat) : eventIdText id ≠ "" := by
  intro h
  have hread := bigInt_eventIdText id
  rw [h] at hread
  cases hread

theorem eventIdText_injective : Function.Injective eventIdText := by
  intro a b h
  have hread := congrArg bigInt h
  rw [bigInt_eventIdText, bigInt_eventIdText] at hread
  exact Nat.cast_inj.1 (Option.some.inj hread)

/-! ## The cursors of an execution store -/

section Cursors

variable {executions : List WorkflowExecution} {stores : Stores} {now : Now}
  {rendered : List ScenarioRun} {eventId : String}

/-- The last event id of each execution. -/
def lastEventIds (executions : List WorkflowExecution) : String → Option (Option String) :=
  fun id => (find WorkflowExecution.workflowRunId id executions).map WorkflowExecution.lastEventId

theorem cursorOf_eq (executions : List WorkflowExecution) (run : String) :
    cursorOf executions run
      = (lastEventIds executions run).bind fun lastEventId =>
          (truthy lastEventId).bind bigInt := by
  unfold cursorOf lastEventIds
  cases find WorkflowExecution.workflowRunId run executions <;> rfl

theorem lastEventIds_isSome (executions : List WorkflowExecution) (run : String) :
    (lastEventIds executions run).isSome
      = (find WorkflowExecution.workflowRunId run executions).isSome := by
  simp [lastEventIds]

/-- An update that keeps the run and the cursor of its execution. -/
theorem lastEventIds_updateExecution {f : WorkflowExecution → WorkflowExecution} (run : String)
    (hrun : ∀ e, (f e).workflowRunId = e.workflowRunId)
    (hlast : ∀ e, (f e).lastEventId = e.lastEventId) (executions : List WorkflowExecution) :
    lastEventIds (updateExecution run f executions) = lastEventIds executions :=
  map_find_updateWhere_of_eq WorkflowExecution.workflowRunId WorkflowExecution.lastEventId
    hrun hlast executions

theorem lastEventIds_appendLog (run message : String) (executions : List WorkflowExecution) :
    lastEventIds (appendLog run message executions) = lastEventIds executions := by
  unfold appendLog
  rw [lastEventIds_updateExecution] <;> intro execution <;> rfl

theorem lastEventIds_updateExecutionStatus (run : String) (status : WorkflowRunStatus)
    (result : Option AggregatedWorkflowResult) (error : Option String)
    (executions : List WorkflowExecution) :
    lastEventIds (updateExecutionStatus now run status result error executions)
      = lastEventIds executions := by
  unfold updateExecutionStatus
  rw [lastEventIds_updateExecution] <;> intro execution <;> rfl

theorem lastEventIds_failExecution (run error : String) (executions : List WorkflowExecution) :
    lastEventIds (failExecution now run error executions) = lastEventIds executions := by
  unfold failExecution
  rw [lastEventIds_updateExecution] <;> intro execution <;> rfl

theorem lastEventIds_applyWorkflowStatus (event : WorkflowLogEvent)
    (executions : List WorkflowExecution) :
    lastEventIds (applyWorkflowStatus now event executions) = lastEventIds executions := by
  unfold applyWorkflowStatus
  split
  · exact lastEventIds_updateExecutionStatus _ _ _ _ _
  · exact lastEventIds_updateExecutionStatus _ _ _ _ _
  · exact lastEventIds_updateExecutionStatus _ _ _ _ _
  · exact lastEventIds_updateExecutionStatus _ _ _ _ _
  · exact lastEventIds_failExecution _ _ _
  · rfl

/-- Of a log event, only the update of the cursor moves it. -/
theorem lastEventIds_applyLogEvent (event : WorkflowLogEvent) (h : eventId ≠ "") :
    lastEventIds (applyLogEvent now rendered eventId event stores).executions
      = lastEventIds (updateReplayCursor event.workflowRunId eventId stores.executions) := by
  unfold applyLogEvent
  cases aggregatedStatus event with
  | some status =>
      show lastEventIds (updateExecutionStatus ..) = _
      rw [lastEventIds_updateExecutionStatus, lastEventIds_appendLog, if_neg h]
  | none =>
      show lastEventIds (applyWorkflowStatus ..) = _
      rw [lastEventIds_applyWorkflowStatus, lastEventIds_appendLog, if_neg h]

theorem lastEventIds_applyResultEvent (event : ScenarioTestResultEvent) (h : eventId ≠ "") :
    lastEventIds (applyResultEvent now rendered eventId event stores).executions
      = lastEventIds (updateReplayCursor event.workflowRunId eventId stores.executions) := by
  show lastEventIds (if eventId = "" then _ else _) = _
  rw [if_neg h]

/-- The update of the cursor either leaves it or moves it to the event. -/
theorem lastEventIds_updateReplayCursor (run eventId : String)
    (executions : List WorkflowExecution) (i : String) :
    lastEventIds (updateReplayCursor run eventId executions) i
      = (lastEventIds executions i).map fun current =>
          if i = run ∧ isNewerEventId current eventId = true then some eventId else current := by
  unfold lastEventIds updateReplayCursor updateExecution
  rw [find_updateWhere]
  · cases hfind : find WorkflowExecution.workflowRunId i executions with
    | none => rfl
    | some execution =>
        obtain ⟨-, rfl⟩ := find_some hfind
        by_cases hrun : execution.workflowRunId = run <;>
          by_cases hnewer : isNewerEventId execution.lastEventId eventId <;>
          simp [hrun, hnewer]
  · intro execution _ _
    split_ifs <;> rfl

/-- The cursor of a run after an event. -/
theorem cursorOf_updateReplayCursor {run i : String} {id : Nat} {c : Int}
    (h : cursorOf (updateReplayCursor run (eventIdText id) executions) i = some c) :
    cursorOf executions i = some c ∨ i = run ∧ c = id := by
  rw [cursorOf_eq, lastEventIds_updateReplayCursor] at h
  rw [cursorOf_eq]
  cases hlast : lastEventIds executions i with
  | none => simp [hlast] at h
  | some current =>
      simp only [hlast, Option.map_some, Option.bind_some] at h
      split_ifs at h with hmoved
      · right
        have htruthy : truthy (some (eventIdText id)) = some (eventIdText id) := by
          simp [truthy, eventIdText_ne_empty]
        rw [htruthy, Option.bind_some, bigInt_eventIdText] at h
        exact ⟨hmoved.1, (Option.some.inj h).symm⟩
      · left
        exact h

theorem lastEventIds_updateReplayCursor_isSome (run eventId : String)
    (executions : List WorkflowExecution) (i : String) :
    (lastEventIds (updateReplayCursor run eventId executions) i).isSome
      = (lastEventIds executions i).isSome := by
  simp [lastEventIds_updateReplayCursor]

/-- An upsert of an execution that keeps the cursor of the one it finds, or drops it. -/
theorem cursorOf_upsert {execution : WorkflowExecution}
    {merge : WorkflowExecution → WorkflowExecution}
    (hkey : ∀ e, (merge e).workflowRunId = execution.workflowRunId)
    (hnew : execution.lastEventId = none)
    (hmerge : ∀ e, (merge e).lastEventId = none ∨ (merge e).lastEventId = e.lastEventId)
    {i : String} {c : Int}
    (h : cursorOf (upsert WorkflowExecution.workflowRunId execution merge executions) i = some c) :
    cursorOf executions i = some c := by
  unfold cursorOf at h ⊢
  rw [find_upsert fun e _ he => (hkey e).trans he.symm] at h
  split_ifs at h with hi
  · cases hfind : find WorkflowExecution.workflowRunId i executions with
    | none => simp [hfind, hnew, truthy] at h
    | some e =>
        simp only [hfind, Option.elim_some, Option.bind_some] at h ⊢
        rcases hmerge e with hnone | hsame
        · simp [hnone, truthy] at h
        · rwa [hsame] at h
  · exact h

theorem lastEventIds_upsert_isSome {execution : WorkflowExecution}
    {merge : WorkflowExecution → WorkflowExecution}
    (hkey : ∀ e, (merge e).workflowRunId = execution.workflowRunId) {i : String}
    (h : (lastEventIds executions i).isSome = true) :
    (lastEventIds (upsert WorkflowExecution.workflowRunId execution merge executions) i).isSome
      = true := by
  rw [lastEventIds_isSome] at h ⊢
  rw [find_upsert fun e _ he => (hkey e).trans he.symm]
  split_ifs
  · rfl
  · exact h

theorem cursorOf_upsertExecutionFromSync {execution : WorkflowExecution} {i : String} {c : Int}
    (h : cursorOf (upsertExecutionFromSync execution executions) i = some c) :
    cursorOf executions i = some c := by
  unfold upsertExecutionFromSync at h
  refine cursorOf_upsert ?_ rfl ?_ h
  · intro existing
    rfl
  · intro existing
    exact .inr rfl

theorem lastEventIds_upsertExecutionFromSync_isSome {execution : WorkflowExecution} {i : String}
    (h : (lastEventIds executions i).isSome = true) :
    (lastEventIds (upsertExecutionFromSync execution executions) i).isSome = true := by
  unfold upsertExecutionFromSync
  refine lastEventIds_upsert_isSome ?_ h
  intro existing
  rfl

end Cursors

/-! ## The invariant -/

namespace World

/-- The ids of the stored events of a run. -/
def storedIds (events : List StoredEvent) (run : String) : Set Int :=
  { n | ∃ event ∈ events, event.workflowRunId = run ∧ (event.id : Int) = n }

/-- The ids of the events of a run that were applied. -/
def appliedIds (applied : List (String × String)) (run : String) : Set Int :=
  { n | ∃ id : Nat, (id : Int) = n ∧ (run, eventIdText id) ∈ applied }

/-- The ids of the events that wait in the queues. -/
def waitingIds (waiting : List (String × Payload)) : Set Int :=
  { n | ∃ id : Nat, (id : Int) = n ∧ ∃ payload, (eventIdText id, payload) ∈ waiting }

/-- The events of a run up to `p` were applied or wait. -/
def Covered (w : World) (run : String) (p : Int) : Prop :=
  Complete (storedIds w.events run) (appliedIds w.applied run ∪ waitingIds w.waiting) p

/-- What holds in every state of a run that takes the events in order. -/
structure Sound (w : World) : Prop where
  positive : ∀ event ∈ w.events, 0 < event.id
  ofRun : ∀ event ∈ w.events, event.payload.isOf event.workflowRunId = true
  /-- A key belongs to one event. -/
  keys : ∀ e ∈ w.events, ∀ e' ∈ w.events, e.workflowRunId = e'.workflowRunId →
    e.payload.key = e'.payload.key → e.payload.key ≠ none → e.id = e'.id
  cursors : ∀ run c, cursorOf w.page.stores.executions run = some c →
    Complete (storedIds w.events run) (appliedIds w.applied run) c
  saved : ∀ run c, cursorOf w.savedExecutions run = some c →
    Complete (storedIds w.events run) (appliedIds w.savedApplied run) c
  /-- What waits are events of the shown run. -/
  waits : ∀ entry ∈ w.waiting, ∃ event ∈ w.events, w.run = some event.workflowRunId ∧
    entry = (eventIdText event.id, event.payload)
  queued : ∀ run, w.run = some run → ∀ n ∈ waitingIds w.waiting, w.Covered run n
  position : ∀ run p, w.run = some run → w.position = some p → w.Covered run p
  processed : ∀ key ∈ w.page.processedEventIds, ∃ event ∈ w.events,
    w.run = some event.workflowRunId ∧ event.payload.key = some key ∧
      (event.workflowRunId, eventIdText event.id) ∈ w.applied
  /-- The shown run has an execution as long as events arrive or wait. -/
  present : ∀ run, w.run = some run → w.position ≠ none ∨ w.waiting ≠ [] →
    (lastEventIds w.page.stores.executions run).isSome = true

theorem sound_empty : Sound {} where
  positive := by simp
  ofRun := by simp
  keys := by simp
  cursors := by simp [cursorOf, find]
  saved := by simp [cursorOf, find]
  waits := by simp [waiting]
  queued := by simp
  position := by simp
  processed := by simp
  present := by simp

theorem Sound.cursorSafe {w : World} (h : w.Sound) : w.CursorSafe := by
  intro run cursor _ hcursor event hevent hrun hle
  obtain ⟨id, hid, happlied⟩ := h.cursors run cursor hcursor event.id ⟨event, hevent, hrun, rfl⟩ hle
  rwa [Nat.cast_inj.1 hid] at happlied

variable {w w' : World} {run : String} {p : Int}

/-! ## Steps that leave the events alone -/

/-- The executions change, but no cursor moves and no execution goes. -/
theorem Sound.executions {stores : Stores} (h : w.Sound)
    (hcursor : ∀ run c, cursorOf stores.executions run = some c →
      cursorOf w.page.stores.executions run = some c)
    (hpresent : ∀ run, (lastEventIds w.page.stores.executions run).isSome = true →
      (lastEventIds stores.executions run).isSome = true) (rendered : List ScenarioRun) :
    Sound { w with page := { w.page with stores, rendered } } where
  positive := h.positive
  ofRun := h.ofRun
  keys := h.keys
  cursors run c hc := h.cursors run c (hcursor run c hc)
  saved := h.saved
  waits := h.waits
  queued := h.queued
  position := h.position
  processed := h.processed
  present run hrun hactive := hpresent run (h.present run hrun hactive)

/-- The hook is mounted, with the executions that are stored or were saved. -/
theorem Sound.cleared (h : w.Sound) (run : Option String) : (w.cleared run).Sound where
  positive := h.positive
  ofRun := h.ofRun
  keys := h.keys
  cursors := h.cursors
  saved := h.saved
  waits := by simp [World.cleared, waiting]
  queued := by simp [World.cleared, waiting, waitingIds]
  position := by simp [World.cleared]
  processed := by simp [World.cleared]
  present := by simp [World.cleared, waiting]

theorem Sound.reload (h : w.Sound) (scenarioRuns : List ScenarioRun)
    (testResults : List TestResult) :
    Sound { w.cleared none with
      applied := w.savedApplied
      page := { stores := { executions := w.savedExecutions, scenarioRuns, testResults } } } where
  positive := h.positive
  ofRun := h.ofRun
  keys := h.keys
  cursors := h.saved
  saved := h.saved
  waits := by simp [World.cleared, waiting]
  queued := by simp [World.cleared]
  position := by simp [World.cleared]
  processed := by simp
  present := by simp [World.cleared]

/-! ## An event is stored -/

/-- The events of other runs do not matter. -/
theorem complete_append {event : StoredEvent} {settled : Set Int}
    (h : Complete (storedIds w.events run) settled p)
    (hnew : event.workflowRunId = run → p < event.id) :
    Complete (storedIds (w.events ++ [event]) run) settled p := by
  by_cases hrun : event.workflowRunId = run
  · have hset : storedIds (w.events ++ [event]) run
        = insert (event.id : Int) (storedIds w.events run) := by
      ext n
      simp [storedIds, hrun, or_comm, eq_comm]
    rw [hset]
    exact h.insert (hnew hrun)
  · have hset : storedIds (w.events ++ [event]) run = storedIds w.events run := by
      ext n
      simp [storedIds, hrun]
    rw [hset]
    exact h

theorem Sound.store {event : StoredEvent} (h : w.Sound) (hpositive : 0 < event.id)
    (hrun : event.payload.isOf event.workflowRunId = true)
    (horder : w.inOrder (.store event) = true) :
    Sound { w with events := w.events ++ [event] } := by
  simp only [inOrder, Bool.and_eq_true, List.all_eq_true, decide_eq_true_eq] at horder
  obtain ⟨hnewest, hkey⟩ := horder
  -- the new id is greater than any that the page has seen, so what was complete stays so
  have hseen : ∀ run n, n ∈ w.seen run → event.workflowRunId = run → n < event.id := by
    rintro run n hn rfl
    exact hnewest n hn
  constructor
  case positive =>
    intro e he
    rcases List.mem_append.1 he with he | he
    · exact h.positive e he
    · exact List.mem_singleton.1 he ▸ hpositive
  case ofRun =>
    intro e he
    rcases List.mem_append.1 he with he | he
    · exact h.ofRun e he
    · exact List.mem_singleton.1 he ▸ hrun
  -- no stored event of the run has the key of the new one
  case keys =>
    have hfresh : ∀ e ∈ w.events, e.workflowRunId = event.workflowRunId →
        e.payload.key = event.payload.key → e.payload.key = none := by
      intro e he hsame hkeys
      simpa [hsame, hkeys] using hkey e he
    intro e he e' he' hruns hkeys hsome
    rcases List.mem_append.1 he with hold | hnew <;>
      rcases List.mem_append.1 he' with hold' | hnew'
    · exact h.keys e hold e' hold' hruns hkeys hsome
    · obtain rfl := List.mem_singleton.1 hnew'
      exact absurd (hfresh e hold hruns hkeys) hsome
    · obtain rfl := List.mem_singleton.1 hnew
      exact absurd (hkeys.trans (hfresh e' hold' hruns.symm hkeys.symm)) hsome
    · rw [List.mem_singleton.1 hnew, List.mem_singleton.1 hnew']
  case cursors =>
    intro run c hc
    refine complete_append (h.cursors run c hc) (hseen run c ?_)
    simp [seen, hc]
  case saved =>
    intro run c hc
    refine complete_append (h.saved run c hc) (hseen run c ?_)
    simp [seen, hc]
  case waits =>
    intro entry hentry
    obtain ⟨e, he, hshown⟩ := h.waits entry hentry
    exact ⟨e, List.mem_append_left _ he, hshown⟩
  case queued =>
    intro run hshown n hn
    refine complete_append (h.queued run hshown n hn) (hseen run n ?_)
    obtain ⟨id, rfl, payload, hmem⟩ := hn
    have hread : (id : Int) ∈ w.waiting.filterMap fun entry => bigInt entry.1 :=
      List.mem_filterMap.2 ⟨_, hmem, bigInt_eventIdText id⟩
    simp [seen, show w.run = some run from hshown, hread]
  case position =>
    intro run p hshown hp
    refine complete_append (h.position run p hshown hp) (hseen run p ?_)
    simp [seen, show w.run = some run from hshown, show w.position = some p from hp]
  case processed =>
    intro key hmem
    obtain ⟨e, he, hshown⟩ := h.processed key hmem
    exact ⟨e, List.mem_append_left _ he, hshown⟩
  case present => exact h.present

/-! ## The connection -/

/-- A connection starts after the cursor. -/
theorem Sound.connect (h : w.Sound) (hrun : w.run = some run)
    (hpresent : (lastEventIds w.page.stores.executions run).isSome = true) :
    Sound { w with position := some ((cursorOf w.page.stores.executions run).getD 0) } := by
  constructor
  case position =>
    intro run' p hshown hp
    obtain rfl := Option.some.inj (hrun.symm.trans hshown)
    obtain rfl := Option.some.inj hp
    cases hcursor : cursorOf w.page.stores.executions run with
    | some c => exact (h.cursors run c hcursor).mono Set.subset_union_left
    | none =>
        -- the ids are positive, so there is nothing up to zero
        rintro n ⟨event, hevent, -, rfl⟩ hle
        have hpos := h.positive event hevent
        simp only [Option.getD_none] at hle
        omega
  case present =>
    intro run' hshown _
    obtain rfl := Option.some.inj (hrun.symm.trans hshown)
    exact hpresent
  case positive => exact h.positive
  case ofRun => exact h.ofRun
  case keys => exact h.keys
  case cursors => exact h.cursors
  case saved => exact h.saved
  case waits => exact h.waits
  case queued => exact h.queued
  case processed => exact h.processed

theorem Sound.disconnect (h : w.Sound) : Sound { w with position := none } where
  positive := h.positive
  ofRun := h.ofRun
  keys := h.keys
  cursors := h.cursors
  saved := h.saved
  waits := h.waits
  queued := h.queued
  position := by simp
  processed := h.processed
  present run hrun hactive := h.present run hrun (.inr (hactive.resolve_left fun hp => hp rfl))

/-! ## An event is delivered -/

theorem pushed_of_room {α : Type} {queue : List (Queued α)} (h : queue.length < 500) (data : α)
    (id : Nat) : pushed queue data id = queue ++ [⟨data, eventIdText id⟩] := by
  unfold pushed
  rw [List.rtake, List.length_append, List.length_singleton,
    Nat.sub_eq_zero_of_le (by omega : queue.length + 1 ≤ 500), List.drop_zero]

/-- An event that has room waits, beside those that waited. -/
theorem mem_waiting_enqueue {event : StoredEvent} (h : w.hasRoom event = true)
    (entry : String × Payload) :
    entry ∈ (w.enqueue event).waiting ↔
      entry ∈ w.waiting ∨ entry = (eventIdText event.id, event.payload) := by
  unfold hasRoom at h
  cases hpayload : event.payload with
  | log data =>
      simp only [hpayload, decide_eq_true_eq] at h
      simp [waiting, enqueue, hpayload, pushed_of_room h, or_assoc, or_comm, eq_comm]
  | testResult data =>
      simp only [hpayload, decide_eq_true_eq] at h
      simp [waiting, enqueue, hpayload, pushed_of_room h, or_assoc, eq_comm]
  | unreadable => simp [hpayload] at h

theorem Sound.deliver {event : StoredEvent} {position : Int} (h : w.Sound)
    (hevent : event ∈ w.events) (hrun : w.run = some event.workflowRunId)
    (hposition : w.position = some position) (hafter : position < event.id)
    (horder : w.inOrder (.deliver event.id) = true) :
    Sound { w.enqueue event with position := some (event.id : Int) } := by
  simp only [inOrder, List.all_eq_true, Bool.or_eq_true, hposition, Option.all_some,
    decide_eq_true_eq] at horder
  have hroom : w.hasRoom event = true := by
    rcases horder event hevent with (hne | hle) | hroom
    · exact absurd hrun hne
    · exact absurd hle (not_le.2 hafter)
    · simpa using hroom
  -- in order, the event is the next one that is stored after the position
  have hnext : ∀ m ∈ storedIds w.events event.workflowRunId,
      position < m → (event.id : Int) ≤ m := by
    rintro m ⟨e, he, hsame, rfl⟩ hlt
    rcases horder e he with (hne | hle) | hlater
    · exact absurd (hsame ▸ hrun) hne
    · exact absurd hle (not_le.2 hlt)
    · split_ifs at hlater with heq
      · rw [heq]
      · exact Nat.cast_le.2 (Nat.le_of_lt (of_decide_eq_true hlater))
  have hmem := mem_waiting_enqueue hroom
  have hwaiting : waitingIds w.waiting ⊆ waitingIds (w.enqueue event).waiting := by
    rintro n ⟨id, rfl, payload, hwaits⟩
    exact ⟨id, rfl, payload, (hmem _).2 (.inl hwaits)⟩
  have hnew : (event.id : Int) ∈ waitingIds (w.enqueue event).waiting :=
    ⟨event.id, rfl, event.payload, (hmem _).2 (.inr rfl)⟩
  have hcovered : ∀ {n}, w.Covered event.workflowRunId n →
      (w.enqueue event).Covered event.workflowRunId n :=
    fun hn => hn.mono (Set.union_subset_union_right _ hwaiting)
  have hat : (w.enqueue event).Covered event.workflowRunId event.id :=
    (hcovered (h.position _ _ hrun hposition)).next (.inr hnew) hnext
  constructor
  case positive => exact h.positive
  case ofRun => exact h.ofRun
  case keys => exact h.keys
  case cursors => exact h.cursors
  case saved => exact h.saved
  case waits =>
    intro entry hentry
    rcases (hmem entry).1 hentry with hwaits | rfl
    · exact h.waits entry hwaits
    · exact ⟨event, hevent, hrun, rfl⟩
  case queued =>
    intro run hshown n hn
    obtain rfl := Option.some.inj (hrun.symm.trans hshown)
    obtain ⟨id, rfl, payload, hwaits⟩ := hn
    rcases (hmem _).1 hwaits with hwaits | heq
    · exact hcovered (h.queued _ hrun _ ⟨id, rfl, payload, hwaits⟩)
    · rw [eventIdText_injective (congrArg Prod.fst heq)]
      exact hat
  case position =>
    intro run p hshown hp
    obtain rfl := Option.some.inj (hrun.symm.trans hshown)
    obtain rfl := Option.some.inj hp
    exact hat
  case processed => exact h.processed
  case present =>
    intro run hshown _
    refine h.present run hshown (.inl ?_)
    simp [hposition]

/-! ## An event is applied -/

theorem Sound.eventId_ne_empty {eventId : String} {payload : Payload} (h : w.Sound)
    (hwaits : (eventId, payload) ∈ w.waiting) : eventId ≠ "" := by
  obtain ⟨event, -, -, heq⟩ := h.waits _ hwaits
  obtain ⟨rfl, -⟩ := Prod.mk.inj heq
  exact eventIdText_ne_empty event.id

/-- A key that was processed is that of an event that was applied. -/
theorem Sound.applied_of_processed {event : StoredEvent} {key : String} (h : w.Sound)
    (hevent : event ∈ w.events) (hrun : w.run = some event.workflowRunId)
    (hkey : event.payload.key = some key) (hprocessed : key ∈ w.page.processedEventIds) :
    (event.workflowRunId, eventIdText event.id) ∈ w.applied := by
  obtain ⟨e, he, hshown, hsame, happlied⟩ := h.processed key hprocessed
  have hruns : e.workflowRunId = event.workflowRunId := Option.some.inj (hshown.symm.trans hrun)
  have hid : e.id = event.id :=
    h.keys e he event hevent hruns (hsame.trans hkey.symm) (by simp [hsame])
  rwa [hruns, hid] at happlied

theorem nothingBelow_spec {id n : Nat} {payload : Payload}
    (h : w.nothingBelow (eventIdText n) = true) (hwaits : (eventIdText id, payload) ∈ w.waiting)
    (hlt : (id : Int) < n) : ∃ key, payload.key = some key ∧ key ∈ w.page.processedEventIds := by
  have hentry := List.all_eq_true.1 h _ hwaits
  simp only [bigInt_eventIdText, Option.any_some, hlt, decide_true, Bool.not_true,
    Bool.false_or] at hentry
  obtain ⟨key, hkey, hmem⟩ := (Option.any_eq_true _ _).1 hentry
  exact ⟨key, hkey, of_decide_eq_true hmem⟩

/-- **An effect takes an event** in order: the cursor stays safe, and what is left still waits. -/
theorem Sound.taken {key ofRun : String} {page : Page}
    {logs : List (Queued WorkflowLogEvent)} {results : List (Queued ScenarioTestResultEvent)}
    (h : w.Sound) (entry : String × Payload) (hkey : entry.2.key = some key)
    (hof : ∀ run, entry.2.isOf run = true → ofRun = run)
    (hw' : w' = { w with
      page, applied := w.appliedWith key ofRun entry.1
      runnerLogQueue := logs, runnerResultQueue := results })
    (hwaiting : ∀ x, x ∈ w.waiting ↔ x = entry ∨ x ∈ w'.waiting)
    (horder : key ∈ w.page.processedEventIds ∨ w.nothingBelow entry.1 = true)
    (hskip : key ∈ w.page.processedEventIds → page = w.page)
    (happly : key ∉ w.page.processedEventIds →
      page.processedEventIds = key :: w.page.processedEventIds ∧
        lastEventIds page.stores.executions
          = lastEventIds (updateReplayCursor ofRun entry.1 w.page.stores.executions)) :
    w'.Sound := by
  have hentry : entry ∈ w.waiting := (hwaiting entry).2 (.inl rfl)
  obtain ⟨event, hevent, hshown, rfl⟩ := h.waits entry hentry
  obtain rfl : ofRun = event.workflowRunId := hof _ (h.ofRun event hevent)
  have hpresent := h.present _ hshown (.inr (List.ne_nil_of_mem hentry))
  -- the event has been applied now, if not before
  have hsub : w.applied ⊆ w.appliedWith key event.workflowRunId (eventIdText event.id) := by
    unfold appliedWith
    split_ifs
    · exact List.subset_cons_self _ _
    · exact List.Subset.refl _
  have hnow : (event.workflowRunId, eventIdText event.id)
      ∈ w.appliedWith key event.workflowRunId (eventIdText event.id) := by
    by_cases hprocessed : key ∈ w.page.processedEventIds
    · exact hsub (h.applied_of_processed hevent hshown hkey hprocessed)
    · rw [appliedWith, if_pos ⟨hprocessed, lastEventIds_isSome _ _ ▸ hpresent⟩]
      exact List.mem_cons_self
  have happlied : ∀ run, appliedIds w.applied run ⊆
      appliedIds (w.appliedWith key event.workflowRunId (eventIdText event.id)) run := by
    rintro run n ⟨id, rfl, hmem⟩
    exact ⟨id, rfl, hsub hmem⟩
  have hnowId : (event.id : Int) ∈ appliedIds
      (w.appliedWith key event.workflowRunId (eventIdText event.id)) event.workflowRunId :=
    ⟨event.id, rfl, hnow⟩
  have hwaitingIds : ∀ n ∈ waitingIds w.waiting, n = event.id ∨ n ∈ waitingIds w'.waiting := by
    rintro n ⟨id, rfl, payload, hwaits⟩
    rcases (hwaiting _).1 hwaits with heq | hrest
    · left
      rw [eventIdText_injective (congrArg Prod.fst heq)]
    · exact .inr ⟨id, rfl, payload, hrest⟩
  have hrest : waitingIds w'.waiting ⊆ waitingIds w.waiting := by
    rintro n ⟨id, rfl, payload, hwaits⟩
    exact ⟨id, rfl, payload, (hwaiting _).2 (.inr hwaits)⟩
  have hcovered : ∀ {n}, w.Covered event.workflowRunId n →
      Complete (storedIds w.events event.workflowRunId)
        (appliedIds (w.appliedWith key event.workflowRunId (eventIdText event.id))
          event.workflowRunId ∪ waitingIds w'.waiting) n := by
    refine fun hn => hn.mono (Set.union_subset ?_ ?_)
    · exact fun m hm => .inl (happlied _ hm)
    · exact fun m hm => (hwaitingIds m hm).elim (fun heq => .inl (heq ▸ hnowId)) .inr
  subst hw'
  constructor
  case positive => exact h.positive
  case ofRun => exact h.ofRun
  case keys => exact h.keys
  case cursors =>
    intro run c hc
    by_cases hprocessed : key ∈ w.page.processedEventIds
    · rw [hskip hprocessed] at hc
      exact (h.cursors run c hc).mono (happlied run)
    · have hmoved : cursorOf (updateReplayCursor event.workflowRunId (eventIdText event.id)
          w.page.stores.executions) run = some c := by
        rw [cursorOf_eq, ← (happly hprocessed).2, ← cursorOf_eq]
        exact hc
      rcases cursorOf_updateReplayCursor hmoved with hold | ⟨rfl, rfl⟩
      · exact (h.cursors run c hold).mono (happlied run)
      · -- what waits below the event was applied
        have hqueued := h.queued _ hshown event.id ⟨event.id, rfl, event.payload, hentry⟩
        refine (hqueued.mono (Set.union_subset_union_left _ (happlied _))).apply hnowId ?_
        rintro m ⟨id, rfl, payload, hwaits⟩ hlt
        obtain ⟨e, he, hshown', heq⟩ := h.waits _ hwaits
        obtain ⟨heid, rfl⟩ := Prod.mk.inj heq
        obtain rfl := eventIdText_injective heid
        have hruns : e.workflowRunId = event.workflowRunId :=
          Option.some.inj (hshown'.symm.trans hshown)
        obtain ⟨k, hk, hkprocessed⟩ := nothingBelow_spec (horder.resolve_left hprocessed) hwaits hlt
        exact ⟨e.id, rfl, hsub (hruns ▸ h.applied_of_processed he hshown' hk hkprocessed)⟩
  case saved => exact h.saved
  case waits =>
    intro x hx
    exact h.waits x ((hwaiting x).2 (.inr hx))
  case queued =>
    intro run hrun n hn
    obtain rfl := Option.some.inj (hshown.symm.trans hrun)
    exact hcovered (h.queued _ hshown n (hrest hn))
  case position =>
    intro run p hrun hp
    obtain rfl := Option.some.inj (hshown.symm.trans hrun)
    exact hcovered (h.position _ p hshown hp)
  case processed =>
    intro k hk
    have hold : ∀ k ∈ w.page.processedEventIds, ∃ e ∈ w.events,
        w.run = some e.workflowRunId ∧ e.payload.key = some k ∧
          (e.workflowRunId, eventIdText e.id)
            ∈ w.appliedWith key event.workflowRunId (eventIdText event.id) := by
      intro k hk
      obtain ⟨e, he, hrun, hsame, hmem⟩ := h.processed k hk
      exact ⟨e, he, hrun, hsame, hsub hmem⟩
    by_cases hprocessed : key ∈ w.page.processedEventIds
    · exact hold k (hskip hprocessed ▸ hk)
    · rcases List.mem_cons.1 ((happly hprocessed).1 ▸ hk) with rfl | hk
      · exact ⟨event, hevent, hshown, hkey, hnow⟩
      · exact hold k hk
  case present =>
    intro run hrun _
    obtain rfl := Option.some.inj (hshown.symm.trans hrun)
    by_cases hprocessed : key ∈ w.page.processedEventIds
    · rw [hskip hprocessed]
      exact hpresent
    · rw [(happly hprocessed).2, lastEventIds_updateReplayCursor_isSome]
      exact hpresent

theorem Sound.processLog {queued : Queued WorkflowLogEvent}
    {rest : List (Queued WorkflowLogEvent)} (h : w.Sound)
    (hqueue : w.runnerLogQueue = queued :: rest) (now : Now)
    (horder : logKey queued.data ∈ w.page.processedEventIds ∨
      w.nothingBelow queued.eventId = true) :
    Sound { w with
      page := applyLog now queued.eventId queued.data w.page
      applied := w.appliedWith (logKey queued.data) queued.data.workflowRunId queued.eventId
      runnerLogQueue := rest } := by
  have hwaits : (queued.eventId, Payload.log queued.data) ∈ w.waiting := by
    simp [waiting, hqueue]
  refine h.taken (queued.eventId, .log queued.data) rfl ?_ rfl ?_ horder ?_ ?_
  · intro run hrun
    exact of_decide_eq_true hrun
  · intro x
    simp [waiting, hqueue]
  · intro hprocessed
    exact if_pos hprocessed
  · intro hprocessed
    have hid : queued.eventId ≠ "" := h.eventId_ne_empty hwaits
    rw [applyLog, Page.once, if_neg hprocessed]
    exact ⟨rfl, lastEventIds_applyLogEvent _ hid⟩

theorem Sound.processResult {queued : Queued ScenarioTestResultEvent}
    {rest : List (Queued ScenarioTestResultEvent)} (h : w.Sound)
    (hqueue : w.runnerResultQueue = queued :: rest) (now : Now)
    (horder : queued.data.bulkId ∈ w.page.processedEventIds ∨
      w.nothingBelow queued.eventId = true) :
    Sound { w with
      page := applyResults now queued.eventId queued.data w.page
      applied := w.appliedWith queued.data.bulkId queued.data.workflowRunId queued.eventId
      runnerResultQueue := rest } := by
  have hwaits : (queued.eventId, Payload.testResult queued.data) ∈ w.waiting := by
    simp [waiting, hqueue]
  refine h.taken (queued.eventId, .testResult queued.data) rfl ?_ rfl ?_ horder ?_ ?_
  · intro run hrun
    exact of_decide_eq_true hrun
  · intro x
    simp [waiting, hqueue, or_left_comm]
  · intro hprocessed
    exact if_pos hprocessed
  · intro hprocessed
    have hid : queued.eventId ≠ "" := h.eventId_ne_empty hwaits
    rw [applyResults, Page.once, if_neg hprocessed]
    exact ⟨rfl, lastEventIds_applyResultEvent _ hid⟩

/-! ## Every run -/

/-- **One step** that takes the events in order. -/
theorem step_sound {label : Label} (horder : w.inOrder label = true)
    (hstep : w.step label = some w') (h : w.Sound) : w'.Sound := by
  cases label with
  | store event =>
      simp only [step] at hstep
      split_ifs at hstep with hstored
      obtain rfl := Option.some.inj hstep
      exact h.store hstored.1 hstored.2.2 horder
  -- starting and hydrating an execution keep the cursors of all
  | start workflowRunId =>
      obtain rfl := Option.some.inj hstep
      refine h.executions ?_ ?_ w.page.rendered
      · exact fun run c hc => cursorOf_upsert (fun _ => rfl) rfl (fun _ => .inl rfl) hc
      · exact fun run hrun => lastEventIds_upsert_isSome (fun _ => rfl) hrun
  | hydrate execution scenarioRuns testResults =>
      obtain rfl := Option.some.inj hstep
      refine h.executions ?_ ?_ w.page.rendered
      · exact fun run c hc => cursorOf_upsertExecutionFromSync hc
      · exact fun run hrun => lastEventIds_upsertExecutionFromSync_isSome hrun
  | persist =>
      obtain rfl := Option.some.inj hstep
      exact { h with saved := h.cursors }
  | reload scenarioRuns testResults =>
      obtain rfl := Option.some.inj hstep
      exact h.reload scenarioRuns testResults
  | mount workflowRunId =>
      obtain rfl := Option.some.inj hstep
      exact h.cleared (some workflowRunId)
  | connect =>
      obtain ⟨run, hrun, hfound⟩ := Option.bind_eq_some_iff.1 hstep
      obtain ⟨execution, hfind, hactive⟩ := Option.bind_eq_some_iff.1 hfound
      split_ifs at hactive
      obtain rfl := Option.some.inj hactive
      refine h.connect hrun ?_
      rw [lastEventIds_isSome, hfind]
      rfl
  | disconnect =>
      obtain rfl := Option.some.inj hstep
      exact h.disconnect
  | deliver id =>
      simp only [step] at hstep
      split at hstep
      · rename_i run position hrun hposition
        obtain ⟨event, hfind, rfl⟩ := Option.map_eq_some_iff.1 hstep
        have hevent := List.mem_of_find?_eq_some hfind
        have hfound := List.find?_some hfind
        simp only [Bool.and_eq_true, decide_eq_true_eq] at hfound
        obtain ⟨⟨rfl, rfl⟩, hafter⟩ := hfound
        exact h.deliver hevent hrun hposition hafter horder
      · cases hstep
  | render =>
      obtain rfl := Option.some.inj hstep
      exact h.executions (fun _ _ hc => hc) (fun _ hrun => hrun) _
  | processLog now =>
      simp only [step] at hstep
      split at hstep
      · cases hstep
      · rename_i queued rest hqueue
        obtain rfl := Option.some.inj hstep
        simp only [inOrder, hqueue, Bool.or_eq_true, decide_eq_true_eq] at horder
        exact h.processLog hqueue now horder
  | processResult now =>
      simp only [step] at hstep
      split at hstep
      · cases hstep
      · rename_i queued rest hqueue
        obtain rfl := Option.some.inj hstep
        simp only [inOrder, hqueue, Bool.or_eq_true, decide_eq_true_eq] at horder
        exact h.processResult hqueue now horder

end World

/-- **The cursor is safe** in every state of a run whose steps lose no event and take none before
    its turn. -/
theorem replay_cursor_safe (labels : List Label) (w : World)
    (h : Trace.Guarded (fun w label w' => World.step w label = some w')
      (fun w label => w.inOrder label = true) {} labels w) : w.CursorSafe :=
  (h.invariant World.Sound World.step_sound World.sound_empty).cursorSafe

/-! ## Two queues -/

/-- Two log events of a run that starts, and then a batch of test results. -/
def startedEvents : List StoredEvent :=
  [{ id := 1, workflowRunId := "run", payload := .log
      { workflowRunId := "run", message := "Workflow started", status := some "running"
        timestamp := 1, sequence := 1 } },
   { id := 2, workflowRunId := "run", payload := .log
      { workflowRunId := "run", message := "Tests started", timestamp := 2, sequence := 2 } },
   { id := 3, workflowRunId := "run", payload := .testResult
      { workflowRunId := "run", projectId := "project", workflowId := "workflow"
        scenarioId := "scenario", scenarioName := "Scenario", bulkId := "bulk", results := [] } }]

/-- The page shows the run, and the three events arrive. -/
def arrived : List Label :=
  [.start "run", .mount "run", .connect] ++ startedEvents.map .store ++
    [.deliver 1, .deliver 2, .deliver 3, .render, .processLog ⟨0, ""⟩]

/-- The batch waits until both log events are applied. -/
theorem replay_cursor_safe_drained :
    ∃ w, Trace.run World.step {} (arrived ++ [.processLog ⟨0, ""⟩, .processResult ⟨0, ""⟩,
        .persist, .reload [] [], .mount "run", .connect]) = some w ∧
      w.position = some 3 ∧ w.CursorSafe := by
  have hsome : ((Trace.run (Trace.restrict World.step fun w label => w.inOrder label = true) {}
      (arrived ++ [.processLog ⟨0, ""⟩, .processResult ⟨0, ""⟩,
        .persist, .reload [] [], .mount "run", .connect])).any
          fun w => w.position = some 3) = true := by decide +kernel
  obtain ⟨w, hrun, hposition⟩ := (Option.any_eq_true _ _).1 hsome
  have hguarded := Trace.Guarded.of_run hrun
  exact ⟨w, hguarded.steps.run_eq, of_decide_eq_true hposition, replay_cursor_safe _ w hguarded⟩

/-- The batch is applied in the same render as the first log event, and the page is loaded again:
    the stream resumes after the batch, and the second log event does not come again. -/
theorem reload_skips_log_event :
    ¬ ∀ (labels : List Label) (w : World), Trace.run World.step {} labels = some w →
      w.CursorSafe := by
  intro hall
  have hsome : ((Trace.run World.step {} (arrived ++ [.processResult ⟨0, ""⟩, .persist,
      .reload [] [], .mount "run", .connect])).any fun w =>
        w.run = some "run" && cursorOf w.page.stores.executions "run" = some 3 &&
          (w.events.map fun event => (event.id, event.workflowRunId)) =
            [(1, "run"), (2, "run"), (3, "run")] &&
          ("run", eventIdText 2) ∉ w.applied) = true := by decide +kernel
  obtain ⟨w, hrun, hlost⟩ := (Option.any_eq_true _ _).1 hsome
  simp only [Bool.and_eq_true, decide_eq_true_eq] at hlost
  obtain ⟨⟨⟨hshown, hcursor⟩, hevents⟩, hnot⟩ := hlost
  have hmem : ((2 : Nat), "run") ∈ w.events.map fun event => (event.id, event.workflowRunId) := by
    rw [hevents]
    decide
  obtain ⟨event, hevent, heq⟩ := List.mem_map.1 hmem
  obtain ⟨hid, hof⟩ := Prod.mk.inj heq
  have hsafe := hall _ w hrun "run" 3 hshown hcursor event hevent hof (by omega)
  exact hnot (hid ▸ hsafe)

end Realtime
end TokyoTester
