import TokyoTester.Library.Journal
import TokyoTester.Runs.Submission
import TokyoTester.Sync.Snapshots

set_option autoImplicit false

/-! # Restoring what an execution recorded

A checkpoint records the whole workflow. A submission records the request: its nodes, its edges and
the scenarios that it runs. A restore brings back what was recorded
(`restoreWorkflowRevision_content`), so after the revision of an execution it deletes the scenarios
that were not run. It restores the workflow as it was exactly when the request lists all of it
(`restore_restores`). -/

namespace TokyoTester

open Table Versioned

/-! ## Calls of the store -/

/-- The workflows and the scenarios are left alone. -/
def SameGraph (s s' : ThreadState) : Prop :=
  s'.db.workflows = s.db.workflows ∧ s'.db.scenarios = s.db.scenarios

/-- The setting of a submission: the others leave the workflows alone while it records. -/
def submissionSetting : Setting Op Reply ThreadState Answer where
  handle := handle
  rely := SameGraph
  guard _ _ _ := True
  guar _ _ := True
  rely_refl _ := ⟨rfl, rfl⟩
  rely_trans h h' := ⟨h'.1.trans h.1, h'.2.trans h.2⟩

variable {s t : ThreadState} {events : List (Event Reply)} {r : Request} {now : Time}

/-- A call that succeeds has run its transaction. -/
theorem handle_store_ok {detached : Bool} {op : StoreOp} {a : Answer} {v : op.Value}
    (h : (handle (.store detached op) a s).1 = .ok v) :
    op.run a.now s.db = .ok (v, (handle (.store detached op) a s).2.db) := by
  simp only [handle] at h ⊢
  split_ifs at h ⊢
  unfold StoreOp.call at h ⊢
  cases hrun : op.run a.now s.db with
  | error e =>
      rw [hrun] at h
      cases hfault : a.fault <;> rw [hfault] at h <;> cases h
  | ok result =>
      rw [hrun] at h
      cases hfault : a.fault <;> rw [hfault] at h <;> cases h
      rfl

/-- Of a finished program only the others go on. -/
theorem run_done {α : Type} {a : α} {q : Task α}
    (h : submissionSetting.Run s (.done a) events t q) : SameGraph s t :=
  have hnone : (Program.done a : Task α).Uses fun _ => False := Program.Uses.pure a
  h.keeps (I := SameGraph s) hnone
    (fun hrely hI => submissionSetting.rely_trans hI hrely) (fun hop _ => hop.elim) ⟨rfl, rfl⟩

/-- One call, between changes by the others. -/
theorem run_perform {op : Op} {reply : Reply op}
    (h : submissionSetting.Run s (Program.perform op) events t (.done reply)) :
    ∃ s₁ a, SameGraph s s₁ ∧ (handle op a s₁).1 = reply ∧ SameGraph (handle op a s₁).2 t := by
  generalize hp : (Program.perform op : Task (Reply op)) = p at h
  generalize hq : (Program.done reply : Task (Reply op)) = q at h
  induction h with
  | stop s p =>
      rw [← hq] at hp
      cases hp
  | others first rest ih =>
      obtain ⟨s₁, a, hsame, hreply, hafter⟩ := ih hp hq
      exact ⟨s₁, a, submissionSetting.rely_trans first hsame, hreply, hafter⟩
  | call e ok rest ih =>
      obtain ⟨rfl, hnext⟩ := Program.call.inj hp
      obtain rfl := eq_of_heq hnext
      obtain ⟨-, hdone⟩ := rest.of_done
      rw [hdone] at hq
      exact ⟨_, e, ⟨rfl, rfl⟩, (Program.done.inj hq).symm, run_done rest⟩

/-- A call of the store that succeeds. -/
theorem run_store {op : StoreOp} {v : op.Value}
    (h : submissionSetting.Run s (Task.store false op) events t (.done (.ok v))) :
    ∃ s₁ clock db, SameGraph s s₁ ∧ op.run clock s₁.db = .ok (v, db) ∧
      t.db.workflows = db.workflows ∧ t.db.scenarios = db.scenarios := by
  obtain ⟨s₁, a, hbefore, hreply, hafter⟩ := run_perform h
  exact ⟨s₁, a.now, _, hbefore, handle_store_ok hreply, hafter⟩

/-- A call that only reads. -/
def StoreOp.Reads (op : StoreOp) : Prop :=
  ∀ clock db v db', op.run clock db = .ok (v, db') → db' = db

theorem reads_getWorkflow (id : String) : (StoreOp.getWorkflow id).Reads := by
  intro clock db v db' h
  obtain ⟨w, -, hw⟩ := Transaction.map_eq_ok.1 h
  exact (Prod.mk.inj hw).2.symm

theorem reads_getScenario (id : String) : (StoreOp.getScenario id).Reads := by
  intro clock db v db' h
  obtain ⟨w, -, hw⟩ := Transaction.map_eq_ok.1 h
  exact (Prod.mk.inj hw).2.symm

theorem run_read {op : StoreOp} (hop : op.Reads) {reply : Except DbError op.Value}
    (h : submissionSetting.Run s (Task.store false op) events t (.done reply)) : SameGraph s t := by
  obtain ⟨s₁, a, hbefore, -, hafter⟩ := run_perform h
  have hsame : (handle (.store false op) a s₁).2.db = s₁.db := by
    simp only [handle]
    split_ifs
    · rfl
    · rcases Fault.apply_cases a.fault s₁.db (op.run a.now s₁.db) with hsame | ⟨v, hrun⟩
      · exact hsame
      · exact hop _ _ _ _ hrun
  refine submissionSetting.rely_trans hbefore (submissionSetting.rely_trans ⟨?_, ?_⟩ hafter)
  · rw [hsame]
  · rw [hsame]

theorem run_getWorkflow {id : String} {w : Workflow}
    (h : submissionSetting.Run s (Task.store false (.getWorkflow id)) events t (.done (.ok w))) :
    getLive id t.db.workflows = some w := by
  obtain ⟨s₁, clock, db, -, hrun, hworkflows, -⟩ := run_store h
  obtain ⟨v, hv, heq⟩ := Transaction.map_eq_ok.1 hrun
  obtain ⟨rfl, rfl⟩ := Prod.mk.inj heq
  rw [hworkflows]
  exact workflowStore_lawful.get hv

theorem run_getScenario {id : String} {q : Scenario}
    (h : submissionSetting.Run s (Task.store false (.getScenario id)) events t (.done (.ok q))) :
    getLive id t.db.scenarios = some q := by
  obtain ⟨s₁, clock, db, -, hrun, -, hscenarios⟩ := run_store h
  obtain ⟨v, hv, heq⟩ := Transaction.map_eq_ok.1 hrun
  obtain ⟨rfl, rfl⟩ := Prod.mk.inj heq
  rw [hscenarios]
  exact scenarioStore_lawful.get hv

theorem run_upsertWorkflow {row : Workflow} {u : Unit}
    (h : submissionSetting.Run s (Task.store false (.upsertWorkflow row)) events t
      (.done (.ok u))) :
    t.db.workflows = upsertRow row s.db.workflows ∧ t.db.scenarios = s.db.scenarios := by
  obtain ⟨s₁, clock, db, hbefore, hrun, hworkflows, hscenarios⟩ := run_store h
  obtain ⟨db', hwrite, heq⟩ := Transaction.map_eq_ok.1 hrun
  obtain rfl := (Prod.mk.inj heq).2
  obtain ⟨htable, hrest⟩ := workflowStore_lawful.upsert hwrite
  have hothers : db'.scenarios = s₁.db.scenarios := (congrArg Database.scenarios hrest :)
  exact ⟨by rw [hworkflows, htable, hbefore.1], by rw [hscenarios, hothers, hbefore.2]⟩

theorem run_upsertScenario {row : Scenario} {u : Unit}
    (h : submissionSetting.Run s (Task.store false (.upsertScenario row)) events t
      (.done (.ok u))) :
    t.db.workflows = s.db.workflows ∧ t.db.scenarios = upsertRow row s.db.scenarios := by
  obtain ⟨s₁, clock, db, hbefore, hrun, hworkflows, hscenarios⟩ := run_store h
  obtain ⟨db', hwrite, heq⟩ := Transaction.map_eq_ok.1 hrun
  obtain rfl := (Prod.mk.inj heq).2
  obtain ⟨htable, hrest⟩ := scenarioStore_lawful.upsert hwrite
  have hothers : db'.workflows = s₁.db.workflows := (congrArg Database.workflows hrest :)
  exact ⟨by rw [hworkflows, hothers, hbefore.1], by rw [hscenarios, htable, hbefore.2]⟩

/-! ## The graph that a submission makes sure of -/

/-- A scenario with this id is live in the workflow. -/
def LiveScenario (workflowId id : String) (scenarios : List Scenario) : Prop :=
  ∃ q, getLive id scenarios = some q ∧ q.workflowId = workflowId

theorem LiveScenario.upsertRow {workflowId id : String} {scenarios : List Scenario} {row : Scenario}
    (hk : Keyed Scenario.id scenarios) (hworkflow : row.workflowId = workflowId)
    (hlive : row.isDeleted = false) (h : LiveScenario workflowId id scenarios ∨ id = row.id) :
    LiveScenario workflowId id (upsertRow row scenarios) := by
  have hk' : Keyed Scenario.id (Versioned.upsertRow row scenarios) := keyed_upsertRow hk
  have hfind : find VersionedRow.key id (Versioned.upsertRow row scenarios) = if id = row.id then
      some ((find VersionedRow.key row.id scenarios).elim row (VersionedRow.assign row))
        else find VersionedRow.key id scenarios := find_upsertRow id
  by_cases hid : id = row.id
  · rw [if_pos hid] at hfind
    refine ⟨_, getLive_of_find hk' hfind ?_, ?_⟩
    · cases find VersionedRow.key row.id scenarios with
      | none => exact hlive
      | some old => exact hlive
    · cases find VersionedRow.key row.id scenarios with
      | none => exact hworkflow
      | some old => exact hworkflow
  · obtain ⟨q, hq, hqw⟩ := h.resolve_right hid
    obtain ⟨hmem, hkey, hnot⟩ := getLive_some hq
    rw [if_neg hid] at hfind
    refine ⟨q, getLive_of_find hk' (hfind.trans ?_) hnot, hqw⟩
    rw [← hkey]
    exact Keyed.find_mem hk hmem

namespace Submission

theorem run_ensureScenario {p : RunScenario} {q : Scenario}
    (h : submissionSetting.Run s (ensureScenario r p now) events t (.done (.ok q))) :
    t.db.workflows = s.db.workflows ∧
      (t.db.scenarios = s.db.scenarios ∧ getLive p.id t.db.scenarios = some q ∨
        t.db.scenarios = upsertRow (newScenario r p now) s.db.scenarios ∧
          q = newScenario r p now) := by
  obtain ⟨reply, before, s₁, after, -, hread, hrest⟩ := Setting.Run.of_bind h
  have hsame := run_read (reads_getScenario p.id) hread
  cases reply with
  | ok persisted =>
      obtain rfl := Except.ok.inj (Program.done.inj hrest.of_done.2)
      have hafter := run_done hrest
      refine ⟨hafter.1.trans hsame.1, .inl ⟨hafter.2.trans hsame.2, ?_⟩⟩
      rw [hafter.2]
      exact run_getScenario hread
  | error e =>
      obtain ⟨reply, before, s₂, after, -, hwrite, hrest⟩ := Setting.Run.of_bind hrest
      cases reply with
      | error e => cases hrest.of_done.2
      | ok u =>
          obtain rfl := Except.ok.inj (Program.done.inj hrest.of_done.2)
          have hafter := run_done hrest
          obtain ⟨hworkflows, hscenarios⟩ := run_upsertScenario hwrite
          exact ⟨hafter.1.trans (hworkflows.trans hsame.1),
            .inr ⟨hafter.2.trans (hsame.2 ▸ hscenarios), rfl⟩⟩

/-- The rows that were read or stored for scenarios of a request. -/
structure Persisted (ps : List RunScenario) (qs : List Scenario) : Prop where
  covers : ∀ p ∈ ps, ∃ q ∈ qs, q.id = p.id
  live : ∀ q ∈ qs, q.isDeleted = false

/-- **The loop**: every scenario of the list is live in the workflow when it ends. -/
theorem run_ensureScenarios {ps : List RunScenario} {qs : List Scenario}
    (hk : Keyed Scenario.id s.db.scenarios)
    (h : submissionSetting.Run s (ensureScenarios r now ps) events t (.done (.ok qs))) :
    t.db.workflows = s.db.workflows ∧ Keyed Scenario.id t.db.scenarios ∧
      Persisted ps qs ∧
      ∀ id, LiveScenario r.workflowId id s.db.scenarios ∨ id ∈ ps.map (·.id) →
        LiveScenario r.workflowId id t.db.scenarios := by
  induction ps generalizing s t events qs with
  | nil =>
      obtain rfl := Except.ok.inj (Program.done.inj h.of_done.2)
      obtain ⟨hworkflows, hscenarios⟩ := run_done h
      rw [hscenarios]
      exact ⟨hworkflows, hk, ⟨by simp, by simp⟩, fun id hid => hid.resolve_right (by simp)⟩
  | cons p ps ih =>
      obtain ⟨reply, before, s₁, after, -, hfirst, hrest⟩ := Setting.Run.of_bind h
      cases reply with
      | error e => cases hrest.of_done.2
      | ok q =>
      obtain ⟨hworkflows₁, hscenario⟩ := run_ensureScenario hfirst
      dsimp only at hrest
      split_ifs at hrest with hforeign
      · cases hrest.of_done.2
      obtain ⟨reply, before', s₂, after', -, hloop, hrest⟩ := Setting.Run.of_bind hrest
      cases reply with
      | error e => cases hrest.of_done.2
      | ok qs' =>
      obtain rfl := Except.ok.inj (Program.done.inj hrest.of_done.2)
      obtain ⟨hafterWorkflows, hafterScenarios⟩ := run_done hrest
      simp only [not_or, not_and, not_not] at hforeign
      -- The scenario is live in the workflow once it was read or stored.
      have hstored : Keyed Scenario.id s₁.db.scenarios ∧ (q.id = p.id ∧ q.isDeleted = false) ∧
          ∀ id, LiveScenario r.workflowId id s.db.scenarios ∨ id = p.id →
            LiveScenario r.workflowId id s₁.db.scenarios := by
        rcases hscenario with ⟨hsame, hget⟩ | ⟨hwritten, rfl⟩
        · obtain ⟨-, hid, hnot⟩ := getLive_some hget
          rw [hsame] at hget ⊢
          refine ⟨hk, ⟨hid, hnot⟩, fun id h => ?_⟩
          rcases h with hlive | rfl
          · exact hlive
          · exact ⟨q, hget, hforeign.2.1⟩
        · rw [hwritten]
          exact ⟨keyed_upsertRow hk, ⟨rfl, rfl⟩, fun id h => .upsertRow hk rfl rfl h⟩
      obtain ⟨hk₁, hq, hlive₁⟩ := hstored
      obtain ⟨hworkflows, hk', hall, hlive⟩ := ih hk₁ hloop
      rw [hafterScenarios]
      refine ⟨hafterWorkflows.trans (hworkflows.trans hworkflows₁), hk', ⟨?_, ?_⟩, ?_⟩
      · intro p' hp'
        rcases List.mem_cons.1 hp' with rfl | hp'
        · exact ⟨q, by simp, hq.1⟩
        · obtain ⟨q', hq', hid⟩ := hall.covers p' hp'
          exact ⟨q', List.mem_cons_of_mem _ hq', hid⟩
      · intro q' hq'
        rcases List.mem_cons.1 hq' with rfl | hq'
        · exact hq.2
        · exact hall.live q' hq'
      intro id hid
      refine hlive id ?_
      rw [List.map_cons, List.mem_cons] at hid
      rcases hid with hid | rfl | hid
      · exact .inl (hlive₁ id (.inl hid))
      · exact .inl (hlive₁ _ (.inr rfl))
      · exact .inr hid

theorem run_ensureWorkflow {w : Workflow} (hk : Keyed Workflow.id s.db.workflows)
    (h : submissionSetting.Run s (ensureWorkflow r now) events t (.done (.ok w))) :
    t.db.scenarios = s.db.scenarios ∧ w.isDeleted = false ∧
      ∃ live, getLive r.workflowId t.db.workflows = some live ∧ live.name = w.name := by
  obtain ⟨reply, before, s₁, after, -, hread, hrest⟩ := Setting.Run.of_bind h
  have hsame := run_read (reads_getWorkflow r.workflowId) hread
  cases reply with
  | ok workflow =>
      dsimp only at hrest
      split_ifs at hrest
      · cases hrest.of_done.2
      obtain rfl := Except.ok.inj (Program.done.inj hrest.of_done.2)
      have hafter := run_done hrest
      have hget := run_getWorkflow hread
      refine ⟨hafter.2.trans hsame.2, (getLive_some hget).2.2, w, ?_, rfl⟩
      rw [hafter.1]
      exact hget
  | error e =>
      obtain ⟨reply, before, s₂, after, -, hwrite, hrest⟩ := Setting.Run.of_bind hrest
      cases reply with
      | error e => cases hrest.of_done.2
      | ok u =>
          obtain rfl := Except.ok.inj (Program.done.inj hrest.of_done.2)
          have hafter := run_done hrest
          obtain ⟨hworkflows, hscenarios⟩ := run_upsertWorkflow hwrite
          rw [hsame.1] at hworkflows
          obtain ⟨live, hget, hlive⟩ := getLive_upsertRow hk (fun _ _ => rfl)
            (by rfl : VersionedRow.isDeleted (newWorkflow r now) = false)
          refine ⟨hafter.2.trans (hscenarios.trans hsame.2), rfl, live, ?_, ?_⟩
          · rw [hafter.1, hworkflows]
            exact hget
          · rcases hlive with rfl | ⟨old, rfl⟩ <;> rfl

/-- **The graph that a run is recorded with**: what was read or stored is live. -/
theorem run_ensureWorkflowGraphForRun {w : Workflow} {qs : List Scenario}
    (hkeys : s.db.PrimaryKeys)
    (h : submissionSetting.Run s (ensureWorkflowGraphForRun r) events t (.done (.ok (w, qs)))) :
    Keyed Scenario.id t.db.scenarios ∧ w.isDeleted = false ∧
      (∃ live, getLive r.workflowId t.db.workflows = some live ∧ live.name = w.name) ∧
      Persisted r.scenarios qs ∧
      ∀ p ∈ r.scenarios, LiveScenario r.workflowId p.id t.db.scenarios := by
  obtain ⟨now, before, s₁, after, -, hnow, hrest⟩ := Setting.Run.of_bind h
  obtain ⟨s₀, a, hbefore, -, hafter⟩ := run_perform hnow
  have hsame : SameGraph s s₁ := submissionSetting.rely_trans hbefore hafter
  obtain ⟨reply, before, s₂, after, -, hworkflow, hrest⟩ := Setting.Run.of_bind hrest
  cases reply with
  | error e => cases hrest.of_done.2
  | ok workflow =>
  obtain ⟨hscenarios, hnot, live, hget, hname⟩ :=
    run_ensureWorkflow (hsame.1 ▸ hkeys.workflows) hworkflow
  obtain ⟨reply, before, s₃, after, -, hloop, hrest⟩ := Setting.Run.of_bind hrest
  cases reply with
  | error e => cases hrest.of_done.2
  | ok scenarios =>
  obtain ⟨rfl, rfl⟩ := Prod.mk.inj (Except.ok.inj (Program.done.inj hrest.of_done.2))
  have hk₂ : Keyed Scenario.id s₂.db.scenarios := by
    rw [hscenarios, hsame.2]
    exact hkeys.scenarios
  obtain ⟨hworkflows, hk₃, hall, hlive⟩ := run_ensureScenarios hk₂ hloop
  obtain ⟨hworkflows', hscenarios'⟩ := run_done hrest
  rw [hscenarios', hworkflows', hworkflows]
  exact ⟨hk₃, hnot, ⟨live, hget, hname⟩, hall,
    fun p hp => hlive p.id (.inr (List.mem_map_of_mem hp))⟩

/-! ## What a submission records -/

/-- Recording a revision leaves the workflows alone, and the revision holds the request. -/
def recordsOnly (r : Request) (w : Workflow) (qs : List Scenario) : Op → Prop
  | .newId => True
  | .now => True
  | .store _ (.createWorkflowRevision revision) => revision.snapshot = executedSnapshot r w qs
  | _ => False

theorem uses_createRevision (r : Request) (w : Workflow) (qs : List Scenario) :
    (createRevision r w qs).Uses (recordsOnly r w qs) := by
  refine Program.Uses.bind (Program.Uses.perform trivial) fun id => ?_
  refine Program.Uses.bind (Program.Uses.perform trivial) fun now => ?_
  refine Program.Uses.bind (Program.Uses.perform rfl) fun reply => ?_
  cases reply <;> exact Program.Uses.pure _

theorem sameGraph_of_recordsOnly {w : Workflow} {qs : List Scenario} {op : Op} {a : Answer}
    (hop : recordsOnly r w qs op) : SameGraph s (handle op a s).2 := by
  unfold recordsOnly at hop
  split at hop
  · exact ⟨rfl, rfl⟩
  · exact ⟨rfl, rfl⟩
  · simp only [handle]
    split_ifs
    · exact ⟨rfl, rfl⟩
    · rename_i detached revision _
      rcases Fault.apply_cases a.fault s.db
        ((StoreOp.createWorkflowRevision revision).run a.now s.db) with hsame | ⟨v, hrun⟩
      · exact ⟨congrArg Database.workflows hsame, congrArg Database.scenarios hsame⟩
      · obtain ⟨db, hcreate, heq⟩ := Transaction.map_eq_ok.1 hrun
        have hdb := (Prod.mk.inj heq).2
        unfold Database.createWorkflowRevision at hcreate
        dsimp only at hcreate
        split_ifs at hcreate
        obtain rfl := Except.ok.inj hcreate
        exact ⟨(congrArg Database.workflows hdb).symm, (congrArg Database.scenarios hdb).symm⟩
  · exact hop.elim

/-- A submission of the request has recorded a revision with this snapshot, on this database. -/
structure ExecutionRecorded (r : Request) (snapshot : WorkflowSnapshot) (db : Database) : Prop where
  recorded : ∃ s s₁ s₂ events events' w qs rest revision detached reply, s.db.PrimaryKeys ∧
    submissionSetting.Run s (ensureWorkflowGraphForRun r) events s₁ (.done (.ok (w, qs))) ∧
    submissionSetting.Run s₁ (createRevision r w qs) events' s₂ rest ∧
    (⟨.store detached (.createWorkflowRevision revision), reply⟩ : Event Reply) ∈ events' ∧
    revision.snapshot = snapshot ∧ s₂.db = db

/-- A scenario of the request, as a content. -/
def executedContent (p : RunScenario) : ScenarioContent :=
  ⟨p.id, testsConfig p, testOrderConfig p⟩

/-- Looking up what is computed from the rows of a table. -/
theorem find_filterMap {α β : Type} {key : α → String} {key' : β → String} {f : α → Option β}
    {l : List α} (h : ∀ x ∈ l, ∃ y, f x = some y ∧ key' y = key x) (k : String) :
    find key' k (l.filterMap f) = (find key k l).bind f := by
  induction l with
  | nil => rfl
  | cons x l ih =>
      obtain ⟨y, hy, hkey⟩ := h x (by simp)
      have hrest := ih fun z hz => h z (List.mem_cons_of_mem _ hz)
      unfold find at hrest ⊢
      rw [List.filterMap_cons_some hy, List.find?_cons, List.find?_cons, hkey]
      cases hk : decide (key x = k) with
      | true => exact hy.symm
      | false => exact hrest

/-- The row of a scenario with the definition of the request. -/
def executed (p : RunScenario) (qs : List Scenario) : Option Scenario :=
  (qs.reverse.find? fun q => q.id = p.id).map fun persisted =>
    { persisted with
      name := p.name, description := p.description, testsConfig := testsConfig p
      testOrder := testOrderConfig p }

theorem executed_spec {p : RunScenario} {qs : List Scenario} {x : Scenario}
    (hlive : ∀ q ∈ qs, q.isDeleted = false) (h : executed p qs = some x) :
    x.restorable = executedContent p ∧ x.isDeleted = false := by
  obtain ⟨q, hq, rfl⟩ := Option.map_eq_some_iff.1 h
  have hid : q.id = p.id := (find_some hq).2
  exact ⟨congrArg (fun id => ScenarioContent.mk id (testsConfig p) (testOrderConfig p)) hid,
    hlive q (List.mem_reverse.1 (find_some hq).1)⟩

/-- **The snapshot of an execution** holds the scenarios of the request. -/
theorem mem_executedSnapshot {w : Workflow} {qs : List Scenario}
    (hall : Persisted r.scenarios qs) :
    (∀ x ∈ (executedSnapshot r w qs).scenarios, x.isDeleted = false) ∧ ∀ c,
      (∃ x, find Scenario.id x.id (executedSnapshot r w qs).scenarios.reverse = some x ∧
        x.restorable = c) ↔
      ∃ p, find RunScenario.id p.id r.scenarios.reverse = some p ∧ executedContent p = c := by
  have hfound : ∀ p ∈ r.scenarios, ∃ q, find Scenario.id p.id qs.reverse = some q := by
    intro p hp
    obtain ⟨q, hq, hid⟩ := hall.covers p hp
    refine Option.ne_none_iff_exists'.1 fun hnone => ?_
    exact find_eq_none.1 hnone q (List.mem_reverse.2 hq) hid
  have hexecuted : ∀ p ∈ r.scenarios, ∃ x, executed p qs = some x ∧ x.id = p.id := by
    intro p hp
    obtain ⟨q, hq⟩ := hfound p hp
    exact ⟨_, congrArg (Option.map _) hq, (find_some hq).2⟩
  -- a repeated id names its last scenario, on both sides
  have hfind : ∀ k, find Scenario.id k (executedSnapshot r w qs).scenarios.reverse
      = (find RunScenario.id k r.scenarios.reverse).bind fun p => executed p qs := by
    intro k
    rw [executedSnapshot, ← List.filterMap_reverse]
    exact find_filterMap (fun p hp => hexecuted p (List.mem_reverse.1 hp)) k
  refine ⟨fun x hx => ?_, fun c => ⟨?_, ?_⟩⟩
  · obtain ⟨p, hp, hx⟩ := List.mem_filterMap.1 hx
    exact (executed_spec hall.live hx).2
  · rintro ⟨x, hx, rfl⟩
    rw [hfind] at hx
    obtain ⟨p, hp, hpx⟩ := Option.bind_eq_some_iff.1 hx
    have hcontent := (executed_spec hall.live hpx).1
    have hid : x.id = p.id := congrArg ScenarioContent.id hcontent
    exact ⟨p, hid ▸ hp, hcontent.symm⟩
  · rintro ⟨p, hp, rfl⟩
    obtain ⟨x, hx, hid⟩ := hexecuted p (List.mem_reverse.1 (find_some hp).1)
    refine ⟨x, ?_, (executed_spec hall.live hx).1⟩
    rw [hfind, hid, hp]
    exact hx

/-- The scenario of the request is what is stored. -/
def Unchanged (p : RunScenario) (q : Scenario) : Prop :=
  testsConfig p = q.testsConfig ∧ testOrderConfig p = q.testOrder

/-- The request has the nodes and the edges of the stored workflow, and lists each of its scenarios
    as it is stored. -/
def ListsWorkflow (r : Request) (db : Database) : Prop :=
  (∀ w, getLive r.workflowId db.workflows = some w →
    nodesConfig r = w.nodesConfig ∧ edgesConfig r = w.edgesConfig) ∧
  ∀ q ∈ db.listScenariosByWorkflow r.workflowId,
    ∃ p, find RunScenario.id q.id r.scenarios.reverse = some p ∧ Unchanged p q

theorem ExecutionRecorded.content_iff {snapshot : WorkflowSnapshot} {db : Database}
    (h : ExecutionRecorded r snapshot db) :
    snapshot.Live ∧ (snapshot.content = db.content r.workflowId ↔ ListsWorkflow r db) := by
  obtain ⟨s, s₁, s₂, events, events', w, qs, rest, revision, detached, reply, hkeys, hensure,
    hcreate, hevent, rfl, rfl⟩ := h
  have hsnapshot : revision.snapshot = executedSnapshot r w qs :=
    hcreate.uses (uses_createRevision r w qs) _ hevent
  have hsame : SameGraph s₁ s₂ := hcreate.keeps (I := SameGraph s₁) (uses_createRevision r w qs)
    (fun hrely hI => submissionSetting.rely_trans hI hrely)
    (fun hop hI => submissionSetting.rely_trans hI (sameGraph_of_recordsOnly hop)) ⟨rfl, rfl⟩
  obtain ⟨hk, hnot, ⟨live, hget, hname⟩, hall, hlive⟩ := run_ensureWorkflowGraphForRun hkeys hensure
  rw [← hsame.1] at hget
  rw [← hsame.2] at hk hlive
  obtain ⟨hlistedLive, hcontent⟩ := mem_executedSnapshot (r := r) (w := w) hall
  rw [hsnapshot]
  refine ⟨⟨?_, hlistedLive⟩, ?_⟩
  · rintro _ ⟨⟩
    exact hnot
  -- every scenario of the request is a live row; the rows agree when the request lists them all
  have hset : (((lastOnly (executedSnapshot r w qs).scenarios).map Scenario.restorable).toFinset
      = ((s₂.db.listScenariosByWorkflow r.workflowId).map Scenario.restorable).toFinset) ↔
      ∀ q ∈ s₂.db.listScenariosByWorkflow r.workflowId,
        ∃ p, find RunScenario.id q.id r.scenarios.reverse = some p ∧ Unchanged p q := by
    rw [Finset.ext_iff]
    simp only [List.mem_toFinset, List.mem_map, mem_lastOnly]
    constructor
    · intro hsame q hq
      obtain ⟨p, hp, hpq⟩ := (hcontent q.restorable).1 ((hsame q.restorable).2 ⟨q, hq, rfl⟩)
      obtain ⟨hid, htests, horder⟩ := ScenarioContent.mk.inj hpq
      exact ⟨p, hid ▸ hp, htests, horder⟩
    · intro hlists c
      rw [hcontent]
      constructor
      · rintro ⟨p, hp, rfl⟩
        obtain ⟨q, hq, hworkflow⟩ := hlive p (List.mem_reverse.1 (find_some hp).1)
        obtain ⟨hmem, hid, hnot⟩ := getLive_some hq
        have hlisted := mem_listScenariosByWorkflow.2 ⟨hmem, hworkflow, hnot⟩
        obtain ⟨p', hp', htests, horder⟩ := hlists q hlisted
        have hid : q.id = p.id := hid
        obtain rfl : p = p' := Option.some.inj (hp.symm.trans (hid ▸ hp'))
        exact ⟨q, hlisted, by rw [executedContent, htests, horder, ← hid]; rfl⟩
      · rintro ⟨q, hq, rfl⟩
        obtain ⟨p, hp, htests, horder⟩ := hlists q hq
        exact ⟨p, (find_some hp).2.symm ▸ hp, by
          rw [executedContent, htests, horder, (find_some hp).2]; rfl⟩
  have hname : ({ w with nodesConfig := nodesConfig r, edgesConfig := edgesConfig r } :
      Workflow).name = live.name := hname.symm
  unfold WorkflowSnapshot.content Database.content ListsWorkflow
  rw [hget, executedSnapshot, Option.map_some, Option.map_some, Option.some.injEq,
    Workflow.restorable, Workflow.restorable, WorkflowContent.mk.injEq]
  constructor
  · rintro ⟨-, hnodes, hedges, hscenarios⟩
    refine ⟨?_, hset.1 hscenarios⟩
    rintro _ ⟨⟩
    exact ⟨hnodes, hedges⟩
  · rintro ⟨hgraph, hlists⟩
    obtain ⟨hnodes, hedges⟩ := hgraph live rfl
    exact ⟨hname, hnodes, hedges, hset.2 hlists⟩

end Submission

/-! ## Restoring it -/

/-- **Restoring a revision.** A checkpoint comes back as it was. The revision of an execution comes
    back as the workflow was exactly when the request lists the workflow as it is stored. Before its
    commit a restore changes nothing. -/
theorem restore_restores (projectId workflowId revisionId userId newRevisionId message : String)
    (expectedVersion : Int) (now : Time) (commits : Bool) (db db' : Database)
    (answer : RestoreAnswer) (hkeys : db.PrimaryKeys)
    (hrestore : restoreRequest projectId workflowId revisionId userId newRevisionId message
      expectedVersion now commits db = (answer, db')) :
    ((∃ e, answer = .refused e) ∨ answer = .notCommitted → db' = db) ∧
    ∀ revision, db.getWorkflowRevision projectId workflowId revisionId = some revision →
      answer = .restored →
      (∀ checkpointMessage creator id recordedAt db₀ db₁, db₀.PrimaryKeys →
        checkpointWorkflow projectId workflowId checkpointMessage creator id recordedAt db₀
          = .ok db₁ →
        db₁.workflowRevisions = db₀.workflowRevisions ++ [revision] →
        db'.content workflowId = db₀.content workflowId) ∧
      ∀ r db₀, r.workflowId = workflowId →
        Submission.ExecutionRecorded r revision.snapshot db₀ →
        (db'.content workflowId = db₀.content workflowId ↔ Submission.ListsWorkflow r db₀) := by
  refine ⟨restoreRequest_unchanged hrestore, ?_⟩
  rintro revision hrevision rfl
  constructor
  · intro checkpointMessage creator id recordedAt db₀ db₁ hkeys₀ hcheckpoint hrecorded
    obtain ⟨recorded, happend, hlive, hcontent⟩ := checkpointWorkflow_content hkeys₀ hcheckpoint
    obtain rfl : recorded = revision := by
      simpa using List.append_cancel_left (happend.symm.trans hrecorded)
    exact (restoreRequest_content hkeys hrevision hlive hrestore).trans hcontent
  · rintro r db₀ rfl hrecorded
    obtain ⟨hlive, hiff⟩ := hrecorded.content_iff
    rw [restoreRequest_content hkeys hrevision hlive hrestore]
    exact hiff

/-! ## A run over one of two scenarios -/

/-- A workflow with two scenarios. -/
def orderGraph : Database where
  workflows := [{ (default : Workflow) with
    id := "workflow", projectId := "project", version := 1
    nodesConfig := Submission.nodesConfig {}, edgesConfig := Submission.edgesConfig {} }]
  scenarios := ["checkout", "refund"].map fun id => { (default : Scenario) with
    id, projectId := "project", workflowId := "workflow", version := 1
    testsConfig := Submission.testsConfig {}, testOrder := Submission.testOrderConfig {} }

/-- A request that runs these scenarios of it. -/
def orderRequest (ids : List String) : Request where
  workflowId := "workflow"
  projectId := "project"
  scenarios := ids.map fun id => { id }

/-- The scenarios are edited. -/
def editScenarios (db : Database) : Database where
  workflows := db.workflows
  scenarios := db.scenarios.map fun q => { q with testsConfig := "edited" }
  workflowRevisions := db.workflowRevisions

def restoreEdited (db : Database) : RestoreAnswer × Database :=
  restoreRequest "project" "workflow" "revision" "user" "next" "" 1 0 true (editScenarios db)

/-- The contents of the workflow when the request was recorded, and after a restore. The scenarios
    are edited in between. -/
def recordAndRestore (r : Request) : Option (Option WorkflowContent × Option WorkflowContent) :=
  ((Submission.ensureWorkflowGraphForRun r).run handle (List.replicate 8 {})
    ⟨orderGraph, .live, none⟩).bind fun ensured =>
    match ensured.1 with
    | .error _ => none
    | .ok (w, qs) =>
      ((Submission.createRevision r w qs).run handle (List.replicate 3 { id := "revision" })
        ensured.2).bind fun created =>
        ((editScenarios created.2.db).getWorkflowRevision "project" "workflow" "revision").bind
          fun revision =>
            if revision.snapshot = Submission.executedSnapshot r w qs ∧
                (restoreEdited created.2.db).1 = RestoreAnswer.restored ∧
                Keyed Workflow.id created.2.db.workflows ∧
                Keyed Scenario.id created.2.db.scenarios then
              some (created.2.db.content "workflow",
                (restoreEdited created.2.db).2.content "workflow")
            else none

/-- A run of `recordAndRestore`. -/
theorem exists_recordAndRestore {r : Request} {c c' : Option WorkflowContent}
    (h : recordAndRestore r = some (c, c')) :
    ∃ revision db₀ db', (editScenarios db₀).PrimaryKeys ∧
      (editScenarios db₀).getWorkflowRevision "project" "workflow" "revision" = some revision ∧
      Submission.ExecutionRecorded r revision.snapshot db₀ ∧
      restoreRequest "project" "workflow" "revision" "user" "next" "" 1 0 true (editScenarios db₀)
        = (.restored, db') ∧ db₀.content "workflow" = c ∧ db'.content "workflow" = c' := by
  obtain ⟨⟨reply, s₁⟩, hensure, h⟩ := Option.bind_eq_some_iff.1 h
  cases reply with
  | error e => cases h
  | ok graph =>
  obtain ⟨w, qs⟩ := graph
  obtain ⟨⟨id, s₂⟩, hcreate, h⟩ := Option.bind_eq_some_iff.1 h
  obtain ⟨revision, hrevision, h⟩ := Option.bind_eq_some_iff.1 h
  dsimp only at h
  split_ifs at h with hchecked
  obtain ⟨hsnapshot, hrestored, hworkflows, hscenarios⟩ := hchecked
  obtain ⟨rfl, rfl⟩ := Prod.mk.inj (Option.some.inj h)
  have hedited : Keyed Scenario.id (editScenarios s₂.db).scenarios := by
    unfold Keyed editScenarios
    rw [List.map_map]
    exact hscenarios
  refine ⟨revision, s₂.db, (restoreEdited s₂.db).2, ⟨hworkflows, hedited⟩, hrevision, ?_,
    Prod.ext hrestored rfl, rfl, rfl⟩
  refine ⟨_, s₁, s₂, _, _, w, qs, _, _, false, _, ?_,
    Setting.Run.of_run (S := submissionSetting) (fun _ _ _ => trivial) hensure,
    Setting.Run.of_run (S := submissionSetting) (fun _ _ _ => trivial) hcreate,
    List.mem_cons_of_mem _ (List.mem_cons_of_mem _ List.mem_cons_self), hsnapshot.symm, rfl⟩
  exact ⟨by decide +kernel, by decide +kernel⟩

/-- A run over both scenarios. -/
theorem restore_restores_both : ∃ revision db₀ db',
    Submission.ExecutionRecorded (orderRequest ["checkout", "refund"]) revision db₀ ∧
      restoreRequest "project" "workflow" "revision" "user" "next" "" 1 0 true (editScenarios db₀)
        = (.restored, db') ∧ db'.content "workflow" = db₀.content "workflow" ∧
      Submission.ListsWorkflow (orderRequest ["checkout", "refund"]) db₀ := by
  have hrun : (recordAndRestore (orderRequest ["checkout", "refund"])).map
      (fun c => decide (c.1 = c.2)) = some true := by decide +kernel
  obtain ⟨⟨c, c'⟩, hrun, hsame⟩ := Option.map_eq_some_iff.1 hrun
  obtain ⟨revision, db₀, db', hkeys, hrevision, hrecorded, hrestore, rfl, rfl⟩ :=
    exists_recordAndRestore hrun
  have hcontent := (of_decide_eq_true hsame).symm
  exact ⟨revision.snapshot, db₀, db', hrecorded, hrestore, hcontent,
    (((restore_restores _ _ _ _ _ _ _ _ _ _ db' _ hkeys hrestore).2 revision hrevision rfl).2
      _ db₀ rfl hrecorded).1 hcontent⟩

/-- A run over one of the two: the restore deletes the other. -/
theorem execution_not_restored :
    ¬∀ (projectId workflowId revisionId userId newRevisionId message : String)
      (expectedVersion : Int) (now : Time) (commits : Bool) (db db' db₀ : Database)
      (revision : WorkflowRevision) (r : Request), db.PrimaryKeys →
      restoreRequest projectId workflowId revisionId userId newRevisionId message
        expectedVersion now commits db = (.restored, db') →
      db.getWorkflowRevision projectId workflowId revisionId = some revision →
      r.workflowId = workflowId → Submission.ExecutionRecorded r revision.snapshot db₀ →
      db'.content workflowId = db₀.content workflowId := by
  intro hall
  have hrun : (recordAndRestore (orderRequest ["checkout"])).map
      (fun c => decide (c.1 = c.2)) = some false := by decide +kernel
  obtain ⟨⟨c, c'⟩, hrun, hdiffers⟩ := Option.map_eq_some_iff.1 hrun
  obtain ⟨revision, db₀, db', hkeys, hrevision, hrecorded, hrestore, rfl, rfl⟩ :=
    exists_recordAndRestore hrun
  exact of_decide_eq_false hdiffers
    (hall _ _ _ _ _ _ _ _ _ _ db' db₀ revision _ hkeys hrestore hrevision rfl hrecorded).symm

end TokyoTester
