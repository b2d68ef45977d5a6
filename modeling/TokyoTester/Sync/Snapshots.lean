import TokyoTester.Sync.Versions

set_option autoImplicit false

/-! # What a restore brings back

A revision holds a snapshot of its workflow. A restore writes the workflow of the snapshot back,
deletes the scenarios that the snapshot does not list and writes those that it lists, the last one
for an id that is listed twice. So the content of the workflow is then the content of the snapshot,
whatever happened to it in between (`restoreWorkflowRevision_content`). -/

namespace TokyoTester

open Table Versioned

/-! ## Contents -/

structure ScenarioContent where
  id : String
  testsConfig : String
  testOrder : String
deriving DecidableEq

structure WorkflowContent where
  name : String
  nodesConfig : String
  edgesConfig : String
  scenarios : Finset ScenarioContent
deriving DecidableEq

/-- What a restore is to bring back of a scenario. -/
def Scenario.restorable (s : Scenario) : ScenarioContent := ⟨s.id, s.testsConfig, s.testOrder⟩

/-- What it is to bring back of a workflow with these scenarios. -/
def Workflow.restorable (w : Workflow) (scenarios : List Scenario) : WorkflowContent :=
  ⟨w.name, w.nodesConfig, w.edgesConfig, (scenarios.map Scenario.restorable).toFinset⟩

/-- The content of a live workflow: it and its live scenarios. -/
def Database.content (workflowId : String) (db : Database) : Option WorkflowContent :=
  (getLive workflowId db.workflows).map fun w =>
    w.restorable (db.listScenariosByWorkflow workflowId)

/-- The scenarios of a list, the last one for each id. -/
def lastOnly (scenarios : List Scenario) : List Scenario :=
  scenarios.filter fun s => find Scenario.id s.id scenarios.reverse = some s

def WorkflowSnapshot.content (s : WorkflowSnapshot) : Option WorkflowContent :=
  s.workflow.map fun w => w.restorable (lastOnly s.scenarios)

/-- What a snapshot holds was not deleted. -/
structure WorkflowSnapshot.Live (s : WorkflowSnapshot) : Prop where
  workflow : ∀ w, s.workflow = some w → w.isDeleted = false
  scenarios : ∀ p ∈ s.scenarios, p.isDeleted = false

/-- The primary keys of the two tables. -/
structure Database.PrimaryKeys (db : Database) : Prop where
  workflows : Keyed Workflow.id db.workflows
  scenarios : Keyed Scenario.id db.scenarios

theorem mem_listScenariosByWorkflow {workflowId : String} {db : Database} {p : Scenario} :
    p ∈ db.listScenariosByWorkflow workflowId ↔
      p ∈ db.scenarios ∧ p.workflowId = workflowId ∧ p.isDeleted = false := by
  simp [Database.listScenariosByWorkflow]

theorem mem_lastOnly {scenarios : List Scenario} {s : Scenario} :
    s ∈ lastOnly scenarios ↔ find Scenario.id s.id scenarios.reverse = some s := by
  unfold lastOnly
  rw [List.mem_filter, decide_eq_true_iff]
  constructor
  · exact fun h => h.2
  · exact fun h => ⟨List.mem_reverse.1 (find_some h).1, h⟩

theorem lastOnly_of_keyed {scenarios : List Scenario} (h : Keyed Scenario.id scenarios) :
    lastOnly scenarios = scenarios := by
  unfold lastOnly
  rw [List.filter_eq_self]
  intro s hs
  have hreverse : Keyed Scenario.id scenarios.reverse := by
    unfold Keyed
    rw [List.map_reverse]
    exact List.nodup_reverse.2 h
  exact decide_eq_true (hreverse.find_mem (List.mem_reverse.2 hs))

/-! ## The scenarios that the snapshot does not list -/

section

variable {ρ : Type} [VersionedRow ρ] {t : List ρ} {k : String} {base now : Int}

/-- After a deletion that found its row, the live rows are the others. -/
theorem live_deleteIfVersion [DecidableEq ρ]
    (hmark : ∀ r : ρ, VersionedRow.isDeleted (VersionedRow.markDeleted now r)
      = true) (hk : Keyed (VersionedRow.key : ρ → String) t)
    (h : (deleteIfVersion k base now t).1 = true) {r : ρ}
    (hr : r ∈ (deleteIfVersion k base now t).2)
    (hlive : VersionedRow.isDeleted r = false) : r ∈ t ∧ VersionedRow.key r ≠ k := by
  obtain ⟨row, hrow, hsel⟩ := (deleteIfVersion_fst now hk).1 h
  obtain ⟨s, hs, rfl⟩ := mem_updateWhere.1 hr
  by_cases hmatch : matchesVersion k base s = true
  · rw [if_pos hmatch, hmark] at hlive
    cases hlive
  · rw [if_neg hmatch]
    refine ⟨hs, fun hkey => hmatch ?_⟩
    rwa [hk.eq_of_key hs hrow (hkey.trans (matchesVersion_iff.1 hsel).1.symm)]

theorem getLive_of_find (hk : Keyed (VersionedRow.key : ρ → String) t) {r : ρ}
    (h : find VersionedRow.key k t = some r) (hlive : VersionedRow.isDeleted r = false) :
    getLive k t = some r := by
  obtain ⟨hr, hkey⟩ := find_some h
  cases hget : getLive k t with
  | none =>
      rw [getLive_none.1 hget r hr hkey] at hlive
      cases hlive
  | some s =>
      obtain ⟨hs, hkey', -⟩ := getLive_some hget
      rw [hk.eq_of_key hs hr (hkey'.trans hkey.symm)]

/-- An update that found its row leaves the new columns in the live row. -/
theorem getLive_updateIfVersion [DecidableEq ρ] (hk : Keyed (VersionedRow.key : ρ → String) t)
    (hassign : ∀ new old : ρ, VersionedRow.isDeleted (VersionedRow.assign new old)
      = VersionedRow.isDeleted new) {row : ρ} (hrow : VersionedRow.version row = base + 1)
    (hlive : VersionedRow.isDeleted row = false) (h : (updateIfVersion row base t).1 = true) :
    ∃ old, getLive (VersionedRow.key row) (updateIfVersion row base t).2
      = some (VersionedRow.assign row old) := by
  obtain ⟨old, hold, hsel⟩ := (updateIfVersion_fst hk hrow).1 h
  refine ⟨old, getLive_of_find (keyed_updateIfVersion hk) ?_ ((hassign row old).trans hlive)⟩
  have hfind := find_updateWhere_matching (VersionedRow.assign_key row) hk hold hsel
    (VersionedRow.key row)
  rwa [if_pos rfl] at hfind

theorem find_upsertRow {row : ρ} (i : String) :
    find VersionedRow.key i (upsertRow row t) = if i = VersionedRow.key row then
      some ((find VersionedRow.key (VersionedRow.key row) t).elim row (VersionedRow.assign row))
        else find VersionedRow.key i t := by
  unfold upsertRow
  rw [find_upsert fun r _ _ => VersionedRow.assign_key row r]
  by_cases hi : i = VersionedRow.key row
  · rw [if_pos hi, if_pos hi, hi]
  · rw [if_neg hi, if_neg hi]

/-- An upsert of a row that is not deleted leaves it, or its columns, as the live row. -/
theorem getLive_upsertRow (hk : Keyed (VersionedRow.key : ρ → String) t)
    (hassign : ∀ new old : ρ, VersionedRow.isDeleted (VersionedRow.assign new old)
      = VersionedRow.isDeleted new) {row : ρ} (hlive : VersionedRow.isDeleted row = false) :
    ∃ r, getLive (VersionedRow.key row) (upsertRow row t) = some r ∧
      (r = row ∨ ∃ old, r = VersionedRow.assign row old) := by
  have hfind : find VersionedRow.key (VersionedRow.key row) (upsertRow row t) = some
      ((find VersionedRow.key (VersionedRow.key row) t).elim row (VersionedRow.assign row)) :=
    (find_upsertRow _).trans (if_pos rfl)
  cases hold : find VersionedRow.key (VersionedRow.key row) t with
  | none =>
      rw [hold] at hfind
      exact ⟨row, getLive_of_find (keyed_upsertRow hk) hfind hlive, .inl rfl⟩
  | some old =>
      rw [hold] at hfind
      exact ⟨_, getLive_of_find (keyed_upsertRow hk) hfind ((hassign row old).trans hlive),
        .inr ⟨old, rfl⟩⟩

end

/-- **The first loop**: what is then live was there before and is kept, or was not in the list. -/
theorem restoreDeletions_spec {now : Time} {kept : List String} {scenarios : List Scenario}
    {db db' : Database} (h : restoreDeletions now kept scenarios db = .ok db')
    (hk : Keyed Scenario.id db.scenarios) :
    db'.workflows = db.workflows ∧ Keyed Scenario.id db'.scenarios ∧
      ∀ p ∈ db'.scenarios, p.isDeleted = false →
        p ∈ db.scenarios ∧ ∀ s ∈ scenarios, s.id = p.id → p.id ∈ kept := by
  induction scenarios generalizing db with
  | nil =>
      obtain rfl := Except.ok.inj h
      exact ⟨rfl, hk, fun p hp _ => ⟨hp, by simp⟩⟩
  | cons scenario rest ih =>
      rw [restoreDeletions] at h
      split_ifs at h with hkept
      · obtain ⟨hworkflows, hkeyed, hlive⟩ := ih h hk
        refine ⟨hworkflows, hkeyed, fun p hp hnot => ⟨(hlive p hp hnot).1, ?_⟩⟩
        rintro s hs hid
        rcases List.mem_cons.1 hs with rfl | hs
        · rw [← hid]
          simpa using hkept
        · exact (hlive p hp hnot).2 s hs hid
      · obtain ⟨⟨deleted, db₁⟩, hdelete, h⟩ := Transaction.bind_eq_ok.1 h
        obtain ⟨hdeleted, rfl⟩ : (deleteIfVersion scenario.id scenario.version now db.scenarios).1
            = deleted ∧ { db with scenarios :=
              (deleteIfVersion scenario.id scenario.version now db.scenarios).2 } = db₁ := by
          simpa [restoreTry, Database.deleteScenarioIfVersion] using hdelete
        dsimp only at h
        split_ifs at h with hmissed
        have hfound : (deleteIfVersion scenario.id scenario.version now db.scenarios).1 = true := by
          simpa [hdeleted] using hmissed
        obtain ⟨hworkflows, hkeyed, hlive⟩ := ih h (keyed_deleteIfVersion hk)
        refine ⟨hworkflows, hkeyed, fun p hp hnot => ?_⟩
        obtain ⟨hp₁, hrest⟩ := hlive p hp hnot
        obtain ⟨hp₀, hne⟩ := live_deleteIfVersion (fun _ => rfl) hk hfound hp₁ hnot
        refine ⟨hp₀, fun s hs hid => ?_⟩
        rcases List.mem_cons.1 hs with rfl | hs
        · exact absurd hid.symm hne
        · exact hrest s hs hid

/-! ## The scenarios that the snapshot lists -/

/-- A scenario of a snapshot as it is written back. -/
structure WrittenBack (workflowId : String) (s p : Scenario) : Prop where
  content : p.restorable = s.restorable
  workflowId : p.workflowId = workflowId
  isDeleted : p.isDeleted = s.isDeleted

theorem restoreTry_eq_ok {α : Type} {x : Except DbError α} {a : α} :
    restoreTry x = .ok a ↔ x = .ok a := by
  cases x with
  | error e => simp [restoreTry]
  | ok b => simp [restoreTry]

theorem restoreScenario_spec {projectId workflowId userId : String} {now : Time} {s : Scenario}
    {db db' : Database} (h : restoreScenario projectId workflowId userId now s db = .ok db')
    (hk : Keyed Scenario.id db.scenarios) :
    db'.workflows = db.workflows ∧ Keyed Scenario.id db'.scenarios ∧
      ∃ p, WrittenBack workflowId s p ∧ ∀ k, find Scenario.id k db'.scenarios
        = if k = s.id then some p else find Scenario.id k db.scenarios := by
  unfold restoreScenario at h
  dsimp only at h
  split at h
  · obtain ⟨hscenarios, hrest⟩ := scenarioStore_lawful.upsert (restoreTry_eq_ok.1 h)
    have hworkflows : db'.workflows = db.workflows := (congrArg Database.workflows hrest :)
    obtain ⟨row, hrow, hscenarios⟩ : ∃ row, WrittenBack workflowId s row ∧
        db'.scenarios = upsertRow row db.scenarios := ⟨_, by exact ⟨rfl, rfl, rfl⟩, hscenarios⟩
    have hid : row.id = s.id := congrArg ScenarioContent.id hrow.content
    refine ⟨hworkflows, hscenarios ▸ keyed_upsertRow hk,
      (find Scenario.id s.id db.scenarios).elim row (VersionedRow.assign row), ?_, fun k => ?_⟩
    · cases hold : find Scenario.id s.id db.scenarios with
      | none => exact hrow
      | some old =>
          have hkeep : old.id = row.id := (find_some hold).2.trans hid.symm
          exact ⟨by simpa [VersionedRow.assign, Scenario.restorable, hkeep] using hrow.content,
            hrow.workflowId, hrow.isDeleted⟩
    · rw [hscenarios, ← hid]
      exact find_upsertRow k
  · rename_i current hget
    obtain ⟨⟨updated, db₁⟩, hupdate, h⟩ := Transaction.bind_eq_ok.1 h
    dsimp only at h
    split_ifs at h with hmissed
    obtain rfl := Except.ok.inj h
    obtain ⟨hupdated, hrest⟩ := scenarioStore_lawful.update (restoreTry_eq_ok.1 hupdate)
    obtain ⟨rfl, hscenarios⟩ := Prod.mk.inj hupdated
    have hworkflows : db₁.workflows = db.workflows := (congrArg Database.workflows hrest :)
    have hfound := hmissed
    rw [Bool.not_eq_true', Bool.not_eq_false] at hfound
    obtain ⟨r, hr, hsel⟩ := (updateIfVersion_fst hk (by rfl)).1 hfound
    have hfind := fun k => (congrArg (find Scenario.id k) hscenarios).trans
      (find_updateWhere_matching (fun r => VersionedRow.assign_key _ r) hk hr hsel k)
    have hid : r.id = s.id := (matchesVersion_iff.1 hsel).1
    have hcontent := congrArg (fun id => ScenarioContent.mk id s.testsConfig s.testOrder) hid
    exact ⟨hworkflows, hscenarios ▸ keyed_updateIfVersion hk, _, by exact ⟨hcontent, rfl, rfl⟩,
      hfind⟩

/-- **The second loop**: the last scenario that the list has for an id is written back, the other
    ids are left alone. -/
theorem restoreScenarios_spec {projectId workflowId userId : String} {now : Time}
    {scenarios : List Scenario} {db db' : Database}
    (h : restoreScenarios projectId workflowId userId now scenarios db = .ok db')
    (hk : Keyed Scenario.id db.scenarios) :
    db'.workflows = db.workflows ∧ Keyed Scenario.id db'.scenarios ∧ ∀ k,
      match find Scenario.id k scenarios.reverse with
      | some s => ∃ p, WrittenBack workflowId s p ∧ find Scenario.id k db'.scenarios = some p
      | none => find Scenario.id k db'.scenarios = find Scenario.id k db.scenarios := by
  induction scenarios generalizing db with
  | nil =>
      obtain rfl := Except.ok.inj h
      exact ⟨rfl, hk, fun k => rfl⟩
  | cons scenario rest ih =>
      obtain ⟨db₁, hfirst, h⟩ := Transaction.bind_eq_ok.1 h
      obtain ⟨hworkflows₁, hk₁, p, hp, hfind₁⟩ := restoreScenario_spec hfirst hk
      obtain ⟨hworkflows, hk', hfind⟩ := ih h hk₁
      refine ⟨hworkflows.trans hworkflows₁, hk', fun k => ?_⟩
      specialize hfind k
      rw [List.reverse_cons, find_append]
      cases hrest : find Scenario.id k rest.reverse with
      | some s =>
          rw [hrest] at hfind
          exact hfind
      | none =>
          rw [hrest, hfind₁] at hfind
          by_cases hid : k = scenario.id
          · rw [if_pos hid] at hfind
            rw [if_pos hid.symm]
            exact ⟨p, hp, hfind⟩
          · rw [if_neg hid] at hfind
            rw [if_neg fun heq => hid heq.symm]
            exact hfind

/-! ## The restore -/

def Database.getWorkflowRevision (projectId workflowId revisionId : String) (db : Database) :
    Option WorkflowRevision :=
  db.workflowRevisions.find? fun r =>
    r.id = revisionId && r.projectId = projectId && r.workflowId = workflowId

/-- **A restore brings the content of the snapshot back.** -/
theorem restoreWorkflowRevision_content {projectId workflowId revisionId userId : String}
    {expectedVersion : Int} {now : Time} {db db' : Database} {revision : WorkflowRevision}
    (hkeys : db.PrimaryKeys)
    (hrevision : db.getWorkflowRevision projectId workflowId revisionId = some revision)
    (hlive : revision.snapshot.Live)
    (h : restoreWorkflowRevision projectId workflowId revisionId userId expectedVersion now db
      = .ok db') : db'.content workflowId = revision.snapshot.content := by
  unfold restoreWorkflowRevision restoreWorkflow at h
  obtain ⟨⟨scenarios, db₂⟩, hworkflow, hscenarios⟩ := Transaction.bind_eq_ok.1 h
  split_ifs at hworkflow
  unfold Database.getWorkflowRevision at hrevision
  rw [hrevision] at hworkflow
  dsimp only at hworkflow
  cases hsnapshot : revision.snapshot.workflow with
  | none => rw [hsnapshot] at hworkflow; cases hworkflow
  | some workflow =>
  rw [hsnapshot] at hworkflow
  obtain ⟨⟨updated, db₁⟩, hupdate, hworkflow⟩ := Transaction.bind_eq_ok.1 hworkflow
  dsimp only at hworkflow
  split_ifs at hworkflow with hmissed
  obtain ⟨db₂, hdeletions, hworkflow⟩ := Transaction.bind_eq_ok.1 hworkflow
  obtain ⟨rfl, rfl⟩ := Prod.mk.inj (Except.ok.inj hworkflow)
  rw [Bool.not_eq_true', Bool.not_eq_false] at hmissed
  subst hmissed
  obtain ⟨hupdated, hrest⟩ := workflowStore_lawful.update (restoreTry_eq_ok.1 hupdate)
  have hfound := congrArg Prod.fst hupdated
  have hworkflows₁ := congrArg Prod.snd hupdated
  dsimp only at hfound hworkflows₁
  have hscenarios₁ : db₁.scenarios = db.scenarios := (congrArg Database.scenarios hrest :)
  obtain ⟨old, hold⟩ := getLive_updateIfVersion hkeys.workflows (fun _ _ => rfl) (by rfl)
    (by exact hlive.workflow workflow hsnapshot) hfound.symm
  obtain ⟨hworkflows₂, hk₂, hkept⟩ := restoreDeletions_spec hdeletions
    (hscenarios₁ ▸ hkeys.scenarios)
  obtain ⟨hworkflows', hk', hfind⟩ := restoreScenarios_spec hscenarios hk₂
  rw [← hworkflows₁, ← hworkflows₂, ← hworkflows'] at hold
  have hget : getLive workflowId db'.workflows = _ := hold
  unfold Database.content WorkflowSnapshot.content
  rw [hget, hsnapshot]
  refine congrArg some (congrArg (WorkflowContent.mk _ _ _) (Finset.ext fun c => ?_))
  simp only [List.mem_toFinset, List.mem_map, mem_listScenariosByWorkflow, mem_lastOnly]
  constructor
  · rintro ⟨p, ⟨hp, hworkflow, hnot⟩, rfl⟩
    have hfindp := hfind p.id
    cases hlast : find Scenario.id p.id revision.snapshot.scenarios.reverse with
    | some s =>
        rw [hlast, hk'.find_mem hp] at hfindp
        obtain ⟨q, hq, hpq⟩ := hfindp
        obtain rfl := Option.some.inj hpq
        exact ⟨s, (find_some hlast).2 ▸ hlast, hq.content.symm⟩
    | none =>
        -- The scenario was not deleted, so the snapshot lists it.
        rw [hlast, hk'.find_mem hp] at hfindp
        obtain ⟨hp₁, hlisted⟩ := hkept p (find_some hfindp.symm).1 hnot
        rw [hscenarios₁] at hp₁
        obtain ⟨s, hs, hid⟩ := List.mem_map.1 (hlisted p
          (mem_listScenariosByWorkflow.2 ⟨hp₁, hworkflow, hnot⟩) rfl)
        exact absurd hid (find_eq_none.1 hlast s (List.mem_reverse.2 hs))
  · rintro ⟨s, hlast, rfl⟩
    have hfinds := hfind s.id
    rw [hlast] at hfinds
    obtain ⟨p, hp, hfindp⟩ := hfinds
    have hs := List.mem_reverse.1 (find_some hlast).1
    exact ⟨p, ⟨(find_some hfindp).1, hp.workflowId, hp.isDeleted.trans (hlive.scenarios s hs)⟩,
      hp.content⟩

/-! ## A checkpoint -/

theorem createWorkflowRevision_revisions {revision : WorkflowRevision} {db db' : Database}
    (h : db.createWorkflowRevision revision = .ok db') : ∃ number, db'.workflowRevisions =
      db.workflowRevisions ++ [{ revision with revisionNumber := number }] := by
  unfold Database.createWorkflowRevision at h
  dsimp only at h
  split_ifs at h
  obtain rfl := Except.ok.inj h
  exact ⟨_, rfl⟩

/-- **A checkpoint records the content of the workflow.** -/
theorem checkpointWorkflow_content {projectId workflowId message creator revisionId : String}
    {now : Time} {db db' : Database} (hkeys : db.PrimaryKeys)
    (h : checkpointWorkflow projectId workflowId message creator revisionId now db = .ok db') :
    ∃ revision, db'.workflowRevisions = db.workflowRevisions ++ [revision] ∧
      revision.snapshot.Live ∧ revision.snapshot.content = db.content workflowId := by
  unfold checkpointWorkflow at h
  cases hget : db.getWorkflow workflowId with
  | error e => rw [hget] at h; cases h
  | ok workflow =>
  rw [hget] at h
  dsimp only at h
  by_cases hproject : workflow.projectId ≠ projectId
  · rw [if_pos hproject] at h
    cases h
  rw [if_neg hproject] at h
  obtain ⟨number, hrevisions⟩ := createWorkflowRevision_revisions h
  have hlive : getLive workflowId db.workflows = some workflow := workflowStore_lawful.get hget
  refine ⟨_, hrevisions, ⟨?_, fun p hp => (mem_listScenariosByWorkflow.1 hp).2.2⟩, ?_⟩
  · rintro w hw
    obtain rfl := Option.some.inj hw
    exact (getLive_some hlive).2.2
  · have hkeyed : Keyed Scenario.id (db.listScenariosByWorkflow workflowId) :=
      hkeys.scenarios.sublist ((List.filter_sublist).map _)
    unfold WorkflowSnapshot.content Database.content
    rw [hlive, lastOnly_of_keyed hkeyed]

/-! ## The request -/

/-- How a restore is answered. -/
inductive RestoreAnswer where
  | refused (e : RestoreError)
  | notCommitted
  | withoutCheckpoint (e : DbError)
  | restored
deriving DecidableEq, Repr, Inhabited

/-- `RestoreWorkflowRevision`: whatever returns before the commit rolls the transaction back. -/
def restoreRequest (projectId workflowId revisionId userId newRevisionId message : String)
    (expectedVersion : Int) (now : Time) (commits : Bool) (db : Database) :
    RestoreAnswer × Database :=
  match restoreWorkflowRevision projectId workflowId revisionId userId expectedVersion now db with
  | .error e => (.refused e, db)
  | .ok restored =>
    if !commits then (.notCommitted, db)
    else
      match checkpointWorkflow projectId workflowId message userId newRevisionId now restored with
      | .error e => (.withoutCheckpoint e, restored)
      | .ok db' => (.restored, db')

theorem restoreRequest_content
    {projectId workflowId revisionId userId newRevisionId message : String}
    {expectedVersion : Int} {now : Time} {commits : Bool} {db db' : Database}
    {revision : WorkflowRevision} (hkeys : db.PrimaryKeys)
    (hrevision : db.getWorkflowRevision projectId workflowId revisionId = some revision)
    (hlive : revision.snapshot.Live)
    (h : restoreRequest projectId workflowId revisionId userId newRevisionId message expectedVersion
      now commits db = (.restored, db')) :
    db'.content workflowId = revision.snapshot.content := by
  unfold restoreRequest at h
  cases hrestore : restoreWorkflowRevision projectId workflowId revisionId userId expectedVersion
    now db with
  | error e => rw [hrestore] at h; cases h
  | ok restored =>
  rw [hrestore] at h
  dsimp only at h
  split_ifs at h
  · cases (Prod.mk.inj h).1
  cases hcheckpoint : checkpointWorkflow projectId workflowId message userId newRevisionId now
    restored with
  | error e => rw [hcheckpoint] at h; cases h
  | ok db₁ =>
      rw [hcheckpoint] at h
      obtain rfl : db₁ = db' := (Prod.mk.inj h).2
      obtain ⟨revisions, rfl⟩ := checkpointWorkflow_eq hcheckpoint
      have hcontent := restoreWorkflowRevision_content hkeys hrevision hlive hrestore
      exact hcontent

/-- **Before its commit a restore changes nothing.** -/
theorem restoreRequest_unchanged
    {projectId workflowId revisionId userId newRevisionId message : String}
    {expectedVersion : Int} {now : Time} {commits : Bool} {db db' : Database}
    {answer : RestoreAnswer}
    (h : restoreRequest projectId workflowId revisionId userId newRevisionId message expectedVersion
      now commits db = (answer, db'))
    (hanswer : (∃ e, answer = .refused e) ∨ answer = .notCommitted) : db' = db := by
  unfold restoreRequest at h
  cases hrestore : restoreWorkflowRevision projectId workflowId revisionId userId expectedVersion
    now db with
  | error e =>
      rw [hrestore] at h
      exact (Prod.mk.inj h).2.symm
  | ok restored =>
      rw [hrestore] at h
      dsimp only at h
      split_ifs at h
      · exact (Prod.mk.inj h).2.symm
      · cases hcheckpoint : checkpointWorkflow projectId workflowId message userId newRevisionId now
          restored with
        | error e =>
            rw [hcheckpoint] at h
            obtain rfl := (Prod.mk.inj h).1
            simp at hanswer
        | ok db₁ =>
            rw [hcheckpoint] at h
            obtain rfl := (Prod.mk.inj h).1
            simp at hanswer

end TokyoTester
