import TokyoTester.Library.Pages
import TokyoTester.Runs.Logs

set_option autoImplicit false

/-! # The pages of a run's log (`ListWorkflowRunLogs`)

A reader of the log asks for the newest events first, and then for those before the last event of
each page, while new events are stored. -/

namespace TokyoTester

open Pages

/-- `ListWorkflowLogEventsBefore`: a page of log events, and whether there are others. -/
def listWorkflowLogEventsBefore (events : List WorkflowRunEvent) (workflowRunId : String)
    (beforeId limit : Int) : List WorkflowRunEvent × Bool :=
  let limit := if limit ≤ 0 ∨ limit > 250 then 100 else limit
  page WorkflowRunEvent.id (if beforeId > 0 then some beforeId.toNat else none) limit.toNat
    (events.filter fun e => e.workflowRunId = workflowRunId && e.eventType = .workflowlog)

/-- The response of `ListWorkflowRunLogs`. -/
structure LogPage where
  events : List WorkflowRunEvent
  hasMore : Bool
  nextBefore : Int

/-- `ListWorkflowRunLogs` on the numbers that it reads from the query; `none` is the response that
    the run is not found. -/
def listWorkflowRunLogs (db : Database) (runID projectID : String) (before limit : Int) :
    Option LogPage :=
  match db.getWorkflowRun runID with
  | .error _ => none
  | .ok run =>
    if projectID = "" ∨ run.projectId ≠ projectID then none
    else
      let (events, hasMore) :=
        listWorkflowLogEventsBefore db.workflowRunEvents runID before limit
      -- the zero value of an empty page
      let nextBefore : Int := match events.getLast? with
        | some e => e.id
        | none => 0
      some { events, hasMore, nextBefore }

/-- The requests of a reader who goes on with `nextBefore` while `hasMore`: the `k`-th finds the
    database `dbs k` and asks for `limits k` events. `none` when the requests run out, or when one
    is refused. -/
def followLogs (dbs : Nat → Database) (runID projectID : String) (limits : Nat → Int) :
    Nat → Nat → Int → Option (List WorkflowRunEvent)
  | 0, _, _ => none
  | fuel + 1, k, before =>
    match listWorkflowRunLogs (dbs k) runID projectID before (limits k) with
    | none => none
    | some response =>
      if response.hasMore then
        (followLogs dbs runID projectID limits fuel (k + 1) response.nextBefore).map
          (response.events ++ ·)
      else some response.events

section Pages

variable {dbs : Nat → Database} {runID projectID : String} {limits : Nat → Int}

/-- The number of events that a page is limited to. -/
def pageLimit (limit : Int) : Nat := (if limit ≤ 0 ∨ limit > 250 then 100 else limit).toNat

theorem pageLimit_pos (limit : Int) : 0 < pageLimit limit := by
  unfold pageLimit
  split_ifs <;> omega

/-- The bound of a page as the query has it. -/
def pageBound (before : Int) : Option Nat := if before > 0 then some before.toNat else none

/-- **The reader follows the pages of the log events.** -/
theorem followLogs_eq
    (hrun : ∀ k, ∃ run, (dbs k).getWorkflowRun runID = .ok run ∧ run.projectId = projectID)
    (hproject : projectID ≠ "") (hpositive : ∀ k, ∀ e ∈ (dbs k).workflowRunEvents, 0 < e.id) :
    ∀ (fuel k : Nat) (before : Int), followLogs dbs runID projectID limits fuel k before
      = follow WorkflowRunEvent.id (fun k => (dbs k).logEvents runID)
          (fun k => pageLimit (limits k)) fuel k (pageBound before) := by
  intro fuel
  induction fuel with
  | zero => exact fun _ _ => rfl
  | succ fuel ih =>
      intro k before
      obtain ⟨run, hfound, hsame⟩ := hrun k
      have hpage : listWorkflowRunLogs (dbs k) runID projectID before (limits k)
          = some
            { events := (page WorkflowRunEvent.id (pageBound before) (pageLimit (limits k))
                ((dbs k).logEvents runID)).1
              hasMore := (page WorkflowRunEvent.id (pageBound before) (pageLimit (limits k))
                ((dbs k).logEvents runID)).2
              nextBefore := match (page WorkflowRunEvent.id (pageBound before)
                  (pageLimit (limits k)) ((dbs k).logEvents runID)).1.getLast? with
                | some e => e.id
                | none => 0 } := by
        unfold listWorkflowRunLogs
        rw [hfound]
        dsimp only
        rw [if_neg (by simp [hproject, hsame])]
        rfl
      unfold followLogs follow
      rw [hpage]
      dsimp only
      split_ifs with hmore
      · rw [ih]
        -- the next bound is the id of the last event
        congr 2
        cases hlast : (page WorkflowRunEvent.id (pageBound before) (pageLimit (limits k))
            ((dbs k).logEvents runID)).1.getLast? with
        | none => rfl
        | some e =>
            have hmem : e ∈ (dbs k).logEvents runID := by
              have hpaged := List.mem_of_getLast? hlast
              rw [page_eq] at hpaged
              exact (mem_below.1 (List.mem_of_mem_take hpaged)).1
            have hid := hpositive k e (List.mem_filter.1 hmem).1
            simp [pageBound, hid]
      · rfl

/-- **Following the pages of a log enumerates it**: after finitely many requests the reader has the
    log events that were stored at the first one, each once and in descending order, and no
    others. -/
theorem log_pages_enumerate (dbs : Nat → Database) (runID projectID : String)
    (limits : Nat → Int)
    (hrun : ∀ k, ∃ run, (dbs k).getWorkflowRun runID = .ok run ∧ run.projectId = projectID)
    (hproject : projectID ≠ "")
    (hids : ∀ k, ((dbs k).workflowRunEvents.map (·.id)).Nodup ∧
      ∀ e ∈ (dbs k).workflowRunEvents, 0 < e.id)
    (hgrown : ∀ k, Grown WorkflowRunEvent.id ((dbs k).logEvents runID)
      ((dbs (k + 1)).logEvents runID)) :
    ∃ entries requests,
      (∀ fuel ≥ requests, followLogs dbs runID projectID limits fuel 0 0 = some entries) ∧
      entries.Pairwise (fun e f => f.id < e.id) ∧
      ∀ e, e ∈ entries ↔ e ∈ (dbs 0).workflowRunEvents ∧ e.workflowRunId = runID ∧
        e.eventType = .workflowlog := by
  have hkeys : (((dbs 0).logEvents runID).map WorkflowRunEvent.id).Nodup :=
    (hids 0).1.sublist (List.filter_sublist.map _)
  refine ⟨below WorkflowRunEvent.id none ((dbs 0).logEvents runID),
    ((dbs 0).logEvents runID).length + 1, ?_, below_sorted hkeys, ?_⟩
  · intro fuel hfuel
    rw [followLogs_eq hrun hproject fun k => (hids k).2]
    exact follow_eq hkeys hgrown (fun k => pageLimit_pos (limits k)) hfuel
  · intro e
    simp [mem_below, Database.logEvents]

/-- A run's database after some events of its log. -/
def loggedDatabase (events : Nat) : Database where
  workflowRuns := [{ (default : WorkflowRun) with id := "r", projectId := "p" }]
  workflowRunEvents := (List.range events).map fun n =>
    { id := n + 1, workflowRunId := "r", eventType := .workflowlog, payload := "", createdAt := 0 }

theorem logEvents_loggedDatabase (events : Nat) :
    (loggedDatabase events).logEvents "r" = (loggedDatabase events).workflowRunEvents := by
  simp [Database.logEvents, loggedDatabase]

/-- A log of three events that gets one more before each request. -/
theorem log_pages_enumerate_growing :
    ∃ entries requests,
      (∀ fuel ≥ requests, followLogs (fun k => loggedDatabase (k + 3)) "r" "p" (fun _ => 2) fuel 0 0
        = some entries) ∧
      entries.Pairwise (fun e f => f.id < e.id) ∧
      ∀ e, e ∈ entries ↔ e ∈ (loggedDatabase 3).workflowRunEvents ∧ e.workflowRunId = "r" ∧
        e.eventType = .workflowlog := by
  refine log_pages_enumerate (fun k => loggedDatabase (k + 3)) "r" "p" (fun _ => 2)
    (fun _ => ⟨_, rfl, rfl⟩) (by decide) (fun k => ⟨?_, ?_⟩) fun k => ?_
  · rw [loggedDatabase, List.map_map]
    exact List.nodup_range.map fun a b h => by simpa using h
  · simp [loggedDatabase]
  · rw [logEvents_loggedDatabase, logEvents_loggedDatabase]
    refine ⟨[⟨k + 4, "r", .workflowlog, "", 0⟩], ?_, ?_⟩
    · show ((List.range (k + 3 + 1)).map _) = _
      rw [List.range_succ, List.map_append]
      rfl
    · intro e he f hf
      obtain rfl := List.mem_singleton.1 he
      obtain ⟨n, hn, rfl⟩ := List.mem_map.1 hf
      have := List.mem_range.1 hn
      show n + 1 < k + 4
      omega

end Pages

end TokyoTester
