import TokyoTester.Bundle.Executable
import TokyoTester.Ui.WorkflowBundle

set_option autoImplicit false

/-! # Exporting and cloning a workflow

`createWorkflowBundle` rebuilds every node from a list of properties. What it makes is in normal
form: to export and import a workflow, or to clone it, changes nothing further. But the list of the
properties of a service stops before the last one of the runner's schema, the registry. -/

namespace TokyoTester

open Transaction

namespace Ui

/-! ## What should be kept -/

/-- The service that the runner's bundle schema reads from a service of the builder. -/
def ServiceDefinition.decoded (service : ServiceDefinition) : TokyoTester.ServiceNodeData where
  type := service.type
  image := service.image.getD ""
  command := service.command.getD []
  ports := service.ports.getD []
  env := service.env.getD []
  waitStratergy := service.waitStratergy
  initScripts := service.initScripts.getD []
  mockServer := service.mockServer
  registry := service.registry.map fun registry => { url := registry.url, authType := registry.authType }

/-- The relation of an edge; one that is missing reads as `calls`. -/
def relationOf (edge : FlowEdge) : String :=
  ((edge.data.bind (·.relation)).filter edgeRelations.contains).getD "calls"

/-- The readiness of an edge; one that is missing reads as `source_requires_target`. -/
def readinessOf (edge : FlowEdge) : String :=
  ((edge.data.bind (·.readiness)).filter edgeReadinessOptions.contains).getD
    "source_requires_target"

/-- An edge kept its endpoints, its relation and its readiness. -/
structure SameEdge (before after : FlowEdge) : Prop where
  source : after.source = before.source
  target : after.target = before.target
  relation : after.data.bind (·.relation) = some (relationOf before)
  readiness : after.data.bind (·.readiness) = some (readinessOf before)

/-- The nodes kept their services, and the edges what they say. -/
structure Preserves (before after : BundleWorkflow) : Prop where
  services : List.Forall₂ (fun node kept => kept.id = node.id ∧
    kept.data.service.decoded = node.data.service.decoded) before.nodes after.nodes
  edges : List.Forall₂ SameEdge before.edges after.edges

/-! ## Exported bundles are in normal form -/

theorem sanitizeNode_idem (node : FlowNode) : sanitizeNode (sanitizeNode node) = sanitizeNode node := by
  simp only [sanitizeNode, List.filter_filter, Bool.and_self]
  rfl

@[simp] theorem sanitizeNodesForBundle_idem (nodes : List FlowNode) :
    sanitizeNodesForBundle (sanitizeNodesForBundle nodes) = sanitizeNodesForBundle nodes := by
  rw [sanitizeNodesForBundle, sanitizeNodesForBundle, List.map_map]
  exact List.map_congr_left fun node _ => sanitizeNode_idem node

/-- An exported edge. -/
def exportedEdge (edge : FlowEdge) : FlowEdge :=
  { normalizeEdge edge with data := (normalizeEdge edge).data.map sanitizeEdgeData }

theorem sanitizeEdgesForBundle_eq_map (edges : List FlowEdge) :
    sanitizeEdgesForBundle edges = edges.map exportedEdge := by
  rw [sanitizeEdgesForBundle, normalizeEdges_eq_map, List.map_map]
  rfl

theorem normalizeEdge_exportedEdge (edge : FlowEdge) :
    normalizeEdge (exportedEdge edge) = exportedEdge edge := by
  obtain ⟨data, hdata, hnormal⟩ := normalized_normalizeEdge edge false
  have hexported : (exportedEdge edge).data = some (sanitizeEdgeData data) := by
    rw [exportedEdge, hdata, Option.map_some]
  refine normalizeEdge_of_normalized hexported rfl ?_
  exact ⟨hnormal.relation, hnormal.readiness, hnormal.needsReview, rfl⟩

@[simp] theorem normalizeEdges_sanitizeEdgesForBundle (edges : List FlowEdge) :
    normalizeEdges (sanitizeEdgesForBundle edges) = sanitizeEdgesForBundle edges := by
  rw [normalizeEdges_eq_map, sanitizeEdgesForBundle_eq_map, List.map_map]
  exact List.map_congr_left fun edge _ => normalizeEdge_exportedEdge edge

/-- Parsing an exported bundle gives it back. -/
theorem normalizeWorkflowBundle_exportedBundle (workflow : BundleWorkflow)
    (scenarios : List WorkflowBundleScenario) :
    normalizeWorkflowBundle (exportedBundle workflow scenarios) = exportedBundle workflow scenarios :=
  congrArg (fun edges => { exportedBundle workflow scenarios with
      workflow := { (exportedBundle workflow scenarios).workflow with edges } })
    (normalizeEdges_sanitizeEdgesForBundle workflow.edges)

/-! ## What is kept -/

theorem decoded_sanitizeService_iff (service : ServiceDefinition) :
    (sanitizeService service).decoded = service.decoded ↔ service.registry = none := by
  constructor
  · intro h
    have hregistry := congrArg TokyoTester.ServiceNodeData.registry h
    exact Option.map_eq_none_iff.1 hregistry.symm
  · intro h
    simp [sanitizeService, ServiceDefinition.decoded, h]

theorem sameEdge_exportedEdge (edge : FlowEdge) : SameEdge edge (exportedEdge edge) := by
  refine ⟨rfl, rfl, ?_, ?_⟩
  · rcases hdata : edge.data with - | data <;>
      simp [exportedEdge, normalizeEdge, sanitizeEdgeData, relationOf, hdata]
  · rcases hdata : edge.data with - | data <;>
      simp [exportedEdge, normalizeEdge, sanitizeEdgeData, readinessOf, hdata]

theorem forall₂_sameEdge (edges : List FlowEdge) :
    List.Forall₂ SameEdge edges (sanitizeEdgesForBundle edges) := by
  rw [sanitizeEdgesForBundle_eq_map]
  induction edges with
  | nil => exact .nil
  | cons edge edges ih => exact .cons (sameEdge_exportedEdge edge) ih

/-- A workflow whose nodes and edges were sanitised kept its services when none has a registry. -/
theorem preserves_iff {before after : BundleWorkflow}
    (hnodes : after.nodes = sanitizeNodesForBundle before.nodes)
    (hedges : after.edges = sanitizeEdgesForBundle before.edges) :
    Preserves before after ↔ ∀ node ∈ before.nodes, node.data.service.registry = none := by
  have hservices : List.Forall₂ (fun node kept => kept.id = node.id ∧
        kept.data.service.decoded = node.data.service.decoded) before.nodes after.nodes ↔
      ∀ node ∈ before.nodes, node.data.service.registry = none := by
    rw [hnodes, sanitizeNodesForBundle, List.forall₂_map_right_iff, List.forall₂_same]
    refine forall₂_congr fun node _ => ?_
    exact (and_iff_right rfl).trans (decoded_sanitizeService_iff node.data.service)
  constructor
  · exact fun h => hservices.1 h.services
  · exact fun h => ⟨hservices.2 h, hedges ▸ forall₂_sameEdge before.edges⟩

/-! ## Round trips -/

/-- Importing what was exported, and cloning, come to the sanitised workflow. -/
theorem createWorkflowBundle_eq_ok {workflow : BundleWorkflow}
    {scenarios : List WorkflowBundleScenario} {bundle : WorkflowBundle} :
    createWorkflowBundle workflow scenarios = .ok bundle ↔
      validateWorkflowBundle (exportedBundle workflow scenarios) = .ok () ∧
        exportedBundle workflow scenarios = bundle := by
  unfold createWorkflowBundle
  rw [then_eq_ok, Except.ok.injEq]

section RoundTrip

variable (generateId : ℕ → String) (calls : ℕ) {workflow : BundleWorkflow}
  {scenarios : List WorkflowBundleScenario}

theorem materialize_exportedBundle
    (hvalid : validateWorkflowBundle (exportedBundle workflow scenarios) = .ok ())
    (existingWorkflowNames : List String) :
    ∃ imported, materializeWorkflowBundle generateId calls (exportedBundle workflow scenarios)
        existingWorkflowNames = .ok imported ∧
      imported.1.workflow.nodes = sanitizeNodesForBundle workflow.nodes ∧
      imported.1.workflow.edges = sanitizeEdgesForBundle workflow.edges := by
  unfold materializeWorkflowBundle
  rw [hvalid]
  exact ⟨_, rfl, sanitizeNodesForBundle_idem _, normalizeEdges_sanitizeEdgesForBundle _⟩

theorem createCloned_exportedBundle
    (hvalid : validateWorkflowBundle (exportedBundle workflow scenarios) = .ok ())
    (existingWorkflowNames : List String) :
    ∃ cloned, createClonedWorkflowBundle generateId calls workflow scenarios
        existingWorkflowNames = .ok cloned ∧
      cloned.1.workflow.nodes = sanitizeNodesForBundle workflow.nodes ∧
      cloned.1.workflow.edges = sanitizeEdgesForBundle workflow.edges := by
  obtain ⟨imported, himported, hnodes, hedges⟩ :=
    materialize_exportedBundle generateId calls hvalid existingWorkflowNames
  refine ⟨({ imported.1 with workflow := { imported.1.workflow with
    name := getUniqueWorkflowName (workflow.name ++ " Copy") existingWorkflowNames } }, imported.2),
    ?_, hnodes, hedges⟩
  unfold createClonedWorkflowBundle
  rw [createWorkflowBundle_eq_ok.2 ⟨hvalid, rfl⟩]
  show (materializeWorkflowBundle _ _ _ _ >>= _) = _
  rw [himported]
  rfl

theorem parseWorkflowBundle_exportedBundle
    (hvalid : validateWorkflowBundle (exportedBundle workflow scenarios) = .ok ()) :
    parseWorkflowBundle (some (exportedBundle workflow scenarios)) =
      .ok (exportedBundle workflow scenarios) := by
  show (validateWorkflowBundle _ >>= _) = _
  rw [hvalid]
  exact congrArg Except.ok (normalizeWorkflowBundle_exportedBundle workflow scenarios)

/-- **Export and import, and cloning.** Both keep the services and the edges of an accepted
    workflow exactly when no service has registry settings. -/
theorem roundTrips_preserve_iff {bundle : WorkflowBundle}
    (hcreated : createWorkflowBundle workflow scenarios = .ok bundle)
    (existingWorkflowNames : List String) :
    ∃ parsed imported cloned,
      parseWorkflowBundle (some bundle) = .ok parsed ∧
      materializeWorkflowBundle generateId calls parsed existingWorkflowNames = .ok imported ∧
      createClonedWorkflowBundle generateId calls workflow scenarios existingWorkflowNames =
        .ok cloned ∧
      (Preserves workflow imported.1.workflow ↔
        ∀ node ∈ workflow.nodes, node.data.service.registry = none) ∧
      (Preserves workflow cloned.1.workflow ↔
        ∀ node ∈ workflow.nodes, node.data.service.registry = none) := by
  obtain ⟨hvalid, rfl⟩ := createWorkflowBundle_eq_ok.1 hcreated
  obtain ⟨imported, himported, hnodes, hedges⟩ :=
    materialize_exportedBundle generateId calls hvalid existingWorkflowNames
  obtain ⟨cloned, hcloned, hclonedNodes, hclonedEdges⟩ :=
    createCloned_exportedBundle generateId calls hvalid existingWorkflowNames
  exact ⟨exportedBundle workflow scenarios, imported, cloned,
    parseWorkflowBundle_exportedBundle hvalid, himported, hcloned, preserves_iff hnodes hedges,
    preserves_iff hclonedNodes hclonedEdges⟩

end RoundTrip

/-! ## A service with a registry -/

/-- A service whose image comes from a registry of the team. -/
def registryWorkflow : BundleWorkflow where
  name := "Shop"
  nodes := [{
    id := "n1"
    data := {
      label := "api"
      service := {
        type := "generic"
        image := some "team/api:1"
        registry := some { url := "registry.example.com", authType := "basic" } } } }]
  edges := []

def registryScenarios : List WorkflowBundleScenario :=
  [{ name := "Ready"
     tests := [{ id := "t1", name := "wait", type := "delay", targetServices := ["api"] }]
     testOrder := ["t1"] }]

/-- The workflow is accepted, and its registry is in neither result. -/
theorem roundTrips_drop_registry :
    ∃ bundle parsed imported cloned,
      createWorkflowBundle registryWorkflow registryScenarios = .ok bundle ∧
      parseWorkflowBundle (some bundle) = .ok parsed ∧
      materializeWorkflowBundle (fun n => Json.intLiteral n) 0 parsed [] = .ok imported ∧
      createClonedWorkflowBundle (fun n => Json.intLiteral n) 0 registryWorkflow registryScenarios
        [] = .ok cloned ∧
      ¬ Preserves registryWorkflow imported.1.workflow ∧
      ¬ Preserves registryWorkflow cloned.1.workflow := by
  have hvalid : validateWorkflowBundle (exportedBundle registryWorkflow registryScenarios) =
      .ok () := by decide +kernel
  have hregistry : ¬ ∀ node ∈ registryWorkflow.nodes, node.data.service.registry = none := by
    decide
  obtain ⟨imported, himported, hnodes, hedges⟩ :=
    materialize_exportedBundle (fun n => Json.intLiteral n) 0 hvalid []
  obtain ⟨cloned, hcloned, hclonedNodes, hclonedEdges⟩ :=
    createCloned_exportedBundle (fun n => Json.intLiteral n) 0 hvalid []
  exact ⟨_, _, imported, cloned, createWorkflowBundle_eq_ok.2 ⟨hvalid, rfl⟩,
    parseWorkflowBundle_exportedBundle hvalid, himported, hcloned,
    (preserves_iff hnodes hedges).not.2 hregistry,
    (preserves_iff hclonedNodes hclonedEdges).not.2 hregistry⟩

theorem roundTrips_preserve_iff_registry :
    ∃ parsed imported cloned,
      parseWorkflowBundle (some (exportedBundle registryWorkflow registryScenarios)) = .ok parsed ∧
      materializeWorkflowBundle (fun n => Json.intLiteral n) 0 parsed ["Shop"] = .ok imported ∧
      createClonedWorkflowBundle (fun n => Json.intLiteral n) 0 registryWorkflow registryScenarios
        ["Shop"] = .ok cloned ∧
      (Preserves registryWorkflow imported.1.workflow ↔
        ∀ node ∈ registryWorkflow.nodes, node.data.service.registry = none) ∧
      (Preserves registryWorkflow cloned.1.workflow ↔
        ∀ node ∈ registryWorkflow.nodes, node.data.service.registry = none) :=
  roundTrips_preserve_iff _ _ (createWorkflowBundle_eq_ok.2 ⟨by decide +kernel, rfl⟩) ["Shop"]

end Ui

end TokyoTester
