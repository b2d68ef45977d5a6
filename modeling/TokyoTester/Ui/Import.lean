import TokyoTester.Bundle.Executable
import TokyoTester.Ui.WorkflowBundle

set_option autoImplicit false

/-! # Importing a bundle

`materializeWorkflowBundle` gives every test a new id and renames what refers to it: the tests it
depends on and the order of the scenario. A reference that the map of the new ids lacks is left
out without a word. `validateWorkflowBundle` runs first, and what it accepts has no such
reference. -/

namespace TokyoTester

open Transaction Renaming

namespace Ui

/-! ## What validation has found -/

/-- The ids of the tests of a scenario are distinct, and it refers to no others. -/
structure Closed (scenario : WorkflowBundleScenario) : Prop where
  distinct : (scenario.tests.map (·.id)).Nodup
  ordered : ∀ id ∈ scenario.testOrder, id ∈ scenario.tests.map (·.id)
  dependsOn : ∀ test ∈ scenario.tests, ∀ id ∈ test.dependsOnTestIds.getD [],
    id ∈ scenario.tests.map (·.id)

theorem nodup_of_dedup_length {ids : List String} (h : ids.dedup.length = ids.length) :
    ids.Nodup :=
  List.dedup_eq_self.1 ((List.dedup_sublist ids).eq_of_length h)

theorem closed_of_valid {nodeNames : List String} {scenario : WorkflowBundleScenario} {index : ℕ}
    (hvalid : validateBundleScenario scenario index = .ok ())
    (herrors : scenarioErrors nodeNames scenario.name scenario.tests = []) : Closed scenario := by
  simp only [validateBundleScenario, then_eq_ok, forM_eq_ok, ensure_eq_ok, decide_eq_true_eq]
    at hvalid
  obtain ⟨-, -, hdistinct, -, -, horder, -⟩ := hvalid
  refine ⟨nodup_of_dedup_length hdistinct, fun id hid => ?_,
    fun test htest id hid => dependsOn_mem herrors htest hid⟩
  simpa [List.mem_dedup] using horder id hid

theorem validateScenarios_eq_ok {nodeNames : List String}
    {scenarios : List WorkflowBundleScenario} :
    ∀ {index : ℕ}, validateScenarios nodeNames index scenarios = .ok () →
      ∀ scenario ∈ scenarios, Closed scenario := by
  induction scenarios with
  | nil => intro _ _ scenario hscenario; cases hscenario
  | cons scenario scenarios ih =>
      intro index h
      simp only [validateScenarios, then_eq_ok, ensure_eq_ok, List.isEmpty_iff] at h
      obtain ⟨hvalid, herrors, hrest⟩ := h
      rw [List.forall_mem_cons]
      exact ⟨closed_of_valid hvalid herrors, ih hrest⟩

theorem closed_of_validateWorkflowBundle {bundle : WorkflowBundle}
    (h : validateWorkflowBundle bundle = .ok ()) : ∀ scenario ∈ bundle.scenarios, Closed scenario := by
  simp only [validateWorkflowBundle, then_eq_ok] at h
  obtain ⟨-, -, -, -, -, -, hscenarios⟩ := h
  exact validateScenarios_eq_ok hscenarios

/-! ## Renamed scenarios -/

/-- A test under a renaming of ids. -/
def renameTest (rename : String → String) (test : ScenarioTestDefinition) :
    ScenarioTestDefinition :=
  { test with
    id := rename test.id
    dependsOnTestIds := some ((test.dependsOnTestIds.getD []).map rename) }

/-- A scenario and the same scenario under a renaming of its test ids. -/
structure Renamed (rename : String → String) (before after : WorkflowBundleScenario) : Prop where
  closed : Closed before
  injective : Set.InjOn rename {id | id ∈ before.tests.map (·.id)}
  name : after.name = before.name
  description : after.description = some (before.description.getD "")
  tests : after.tests = before.tests.map (renameTest rename)
  testOrder : after.testOrder = before.testOrder.map rename

section Clone

variable {generateId : ℕ → String} {idMap : GoMap String} {rename : String → String}
  {ids : List String}

theorem newId_of_covers (hcovers : Covers idMap ids rename) (hne : ∀ id ∈ ids, rename id ≠ "")
    {id : String} (hid : id ∈ ids) : newId idMap id = some (rename id) := by
  rw [newId, hcovers id hid, Option.filter_some_pos (by simpa using hne id hid)]

/-- References to ids that the map has are all renamed. -/
theorem filterMap_newId (hcovers : Covers idMap ids rename) (hne : ∀ id ∈ ids, rename id ≠ "")
    {references : List String} (hsub : ∀ id ∈ references, id ∈ ids) :
    references.filterMap (newId idMap) = references.map rename :=
  (hcovers.mono hsub).filterMap_eq_map fun id hid => by simpa using hne id (hsub id hid)

/-- The loop over the tests never needs another id. -/
theorem cloneTests_eq (hcovers : Covers idMap ids rename) (hne : ∀ id ∈ ids, rename id ≠ "")
    (calls : ℕ) {tests : List ScenarioTestDefinition} (hids : ∀ test ∈ tests, test.id ∈ ids)
    (hdepends : ∀ test ∈ tests, ∀ id ∈ test.dependsOnTestIds.getD [], id ∈ ids) :
    cloneTests generateId idMap calls tests = (tests.map (renameTest rename), calls) := by
  induction tests with
  | nil => rfl
  | cons test tests ih =>
      rw [List.forall_mem_cons] at hids hdepends
      unfold cloneTests
      rw [newId_of_covers hcovers hne hids.1, filterMap_newId hcovers hne hdepends.1]
      dsimp only
      rw [ih hids.2 hdepends.2]
      rfl

end Clone

section Import

variable {generateId : ℕ → String}

/-- What cloning a scenario comes to. -/
theorem cloneScenarioForImport_eq (hne : ∀ n, generateId n ≠ "") (calls : ℕ)
    {scenario : WorkflowBundleScenario} (hclosed : Closed scenario) :
    let rename := fun id => generateId (calls + (scenario.tests.map (·.id)).idxOf id)
    cloneScenarioForImport generateId calls scenario =
      ({ name := scenario.name
         description := some (scenario.description.getD "")
         tests := scenario.tests.map (renameTest rename)
         testOrder := scenario.testOrder.map rename }, calls + scenario.tests.length) := by
  intro rename
  have hcovers : Covers (assign generateId (scenario.tests.map (·.id)) calls)
      (scenario.tests.map (·.id)) rename := covers_assign hclosed.distinct
  have hnew : ∀ id ∈ scenario.tests.map (·.id), rename id ≠ "" := fun _ _ => hne _
  unfold cloneScenarioForImport
  dsimp only
  rw [cloneTests_eq hcovers hnew _ (fun test htest => List.mem_map_of_mem htest) hclosed.dependsOn,
    filterMap_newId hcovers hnew hclosed.ordered]

/-- Cloning a scenario renames it. -/
theorem renamed_cloneScenarioForImport (hne : ∀ n, generateId n ≠ "")
    (hinj : Function.Injective generateId) (calls : ℕ) {scenario : WorkflowBundleScenario}
    (hclosed : Closed scenario) :
    ∃ rename, Renamed rename scenario (cloneScenarioForImport generateId calls scenario).1 := by
  rw [cloneScenarioForImport_eq hne calls hclosed]
  exact ⟨_, hclosed, injOn_assign hinj, rfl, rfl, rfl, rfl⟩

/-- The new ids of a scenario are those that its clone drew, one for each test. -/
theorem ids_cloneScenarioForImport (hne : ∀ n, generateId n ≠ "") (calls : ℕ)
    {scenario : WorkflowBundleScenario} (hclosed : Closed scenario) :
    (cloneScenarioForImport generateId calls scenario).1.tests.map (·.id) =
      (List.range' calls scenario.tests.length).map generateId := by
  have hdraw : _ = (List.range' calls _).map generateId := map_assign hclosed.distinct
  rw [cloneScenarioForImport_eq hne calls hclosed]
  simpa [renameTest, Function.comp_def] using hdraw

theorem forall₂_cloneScenarios (hne : ∀ n, generateId n ≠ "")
    (hinj : Function.Injective generateId) {scenarios : List WorkflowBundleScenario} :
    ∀ calls, (∀ scenario ∈ scenarios, Closed scenario) →
      List.Forall₂ (fun before after => ∃ rename, Renamed rename before after) scenarios
        (cloneScenarios generateId calls scenarios).1 := by
  induction scenarios with
  | nil => exact fun _ _ => .nil
  | cons scenario scenarios ih =>
      intro calls hclosed
      rw [List.forall_mem_cons] at hclosed
      exact .cons (renamed_cloneScenarioForImport hne hinj calls hclosed.1) (ih _ hclosed.2)

/-- The ids of all scenarios are drawn one after the other. -/
theorem ids_cloneScenarios (hne : ∀ n, generateId n ≠ "")
    {scenarios : List WorkflowBundleScenario} :
    ∀ calls, (∀ scenario ∈ scenarios, Closed scenario) → ∃ drawn,
      (cloneScenarios generateId calls scenarios).1.flatMap (·.tests.map (·.id)) =
        (List.range' calls drawn).map generateId := by
  induction scenarios with
  | nil => exact fun _ _ => ⟨0, rfl⟩
  | cons scenario scenarios ih =>
      intro calls hclosed
      rw [List.forall_mem_cons] at hclosed
      obtain ⟨drawn, hdrawn⟩ := ih (calls + scenario.tests.length) hclosed.2
      refine ⟨scenario.tests.length + drawn, ?_⟩
      have hnext : (cloneScenarioForImport generateId calls scenario).2 =
          calls + scenario.tests.length :=
        congrArg Prod.snd (cloneScenarioForImport_eq hne calls hclosed.1)
      rw [cloneScenarios, List.flatMap_cons, hnext, hdrawn,
        ids_cloneScenarioForImport hne calls hclosed.1, ← List.map_append, ← List.range'_append]
      simp

end Import

/-! ## The name -/

theorem getUniqueWorkflowName_not_mem (baseName : String) (existingWorkflowNames : List String) :
    getUniqueWorkflowName baseName existingWorkflowNames ∉ existingWorkflowNames := by
  unfold getUniqueWorkflowName
  dsimp only
  generalize (if trim baseName = "" then "Imported Workflow" else trim baseName) = trimmed
  by_cases hnew : trimmed ∉ existingWorkflowNames
  · rwa [if_pos hnew]
  · rw [if_neg hnew]
    exact candidate_firstFree_not_mem _ _ _

/-! ## The import -/

/-- **Import.** A bundle that validation accepts is imported: every scenario under an injective
    renaming of its test ids, no two tests with the same new id, and a name that is not taken. -/
theorem import_renames {generateId : ℕ → String} (hne : ∀ n, generateId n ≠ "")
    (hinj : Function.Injective generateId) (calls : ℕ) {bundle : WorkflowBundle}
    (hvalid : validateWorkflowBundle bundle = .ok ()) (existingWorkflowNames : List String) :
    ∃ imported calls',
      materializeWorkflowBundle generateId calls bundle existingWorkflowNames =
        .ok (imported, calls') ∧
      List.Forall₂ (fun before after => ∃ rename, Renamed rename before after) bundle.scenarios
        imported.scenarios ∧
      (imported.scenarios.flatMap (·.tests.map (·.id))).Nodup ∧
      imported.workflow.name ∉ existingWorkflowNames := by
  have hclosed := closed_of_validateWorkflowBundle hvalid
  unfold materializeWorkflowBundle
  rw [hvalid]
  refine ⟨_, _, rfl, forall₂_cloneScenarios hne hinj calls hclosed, ?_,
    getUniqueWorkflowName_not_mem _ _⟩
  obtain ⟨drawn, hdrawn⟩ := ids_cloneScenarios hne calls hclosed
  show ((cloneScenarios generateId calls bundle.scenarios).1.flatMap (·.tests.map (·.id))).Nodup
  rw [hdrawn]
  exact (List.nodup_range' _).map hinj

/-- A shop with one service and two tests, of which the second needs the first. -/
def shopBundle : WorkflowBundle where
  schemaVersion := 2
  kind := workflowBundleKind
  workflow := {
    name := "Shop"
    nodes := [{ id := "n1", data := { label := "db", service := { type := "postgres" } } }]
    edges := [] }
  scenarios := [{
    name := "Orders"
    tests := [{ id := "t1", name := "seed", type := "database", targetServices := ["db"] },
      { id := "t2", name := "read", type := "database", targetServices := ["db"]
        dependsOnTestIds := some ["t1"] }]
    testOrder := ["t1", "t2"] }]

theorem import_renames_shop :
    ∃ imported calls',
      materializeWorkflowBundle (fun n => "id-" ++ Json.intLiteral n) 0 shopBundle ["Shop"] =
        .ok (imported, calls') ∧
      List.Forall₂ (fun before after => ∃ rename, Renamed rename before after)
        shopBundle.scenarios imported.scenarios ∧
      (imported.scenarios.flatMap (·.tests.map (·.id))).Nodup ∧
      imported.workflow.name ∉ ["Shop"] := by
  have hinj : Function.Injective fun n : ℕ => "id-" ++ Json.intLiteral n := fun a b hab =>
    (numberedName "").injective (congrArg (" " ++ ·) ((String.append_right_inj _).1 hab))
  have hne (n : ℕ) : "id-" ++ Json.intLiteral n ≠ "" := fun heq =>
    absurd (congrArg String.toList heq) (by simp)
  exact import_renames hne hinj 0 (by decide +kernel) ["Shop"]

end Ui

end TokyoTester
