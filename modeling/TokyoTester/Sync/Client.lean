import TokyoTester.Sync.Isolation

set_option autoImplicit false

/-! # The sync client (`sync-middleware.ts`, `sync-service.ts`, the two stores)

An edit changes a store and records, in the store's operation tracker, what kind of change the
entity has pending; a microtask later hands the entity's latest data to the sync service, which
queues it. A flush takes up to a hundred queued changes and sends them as one batch; the answer
decides whether the batch is done, sent again with repairs, or put back at the front of the queue.

The model runs one client against the server of `Sync.Server`. Microtasks run before anything
else the browser does, so flushes and answers wait for them; the server and the network do not. -/

namespace TokyoTester

open Table

/-! ## Local entities -/

/-- Who edits: `getUserId`, `getOrCreateClientId` and `getProjectId`. -/
structure Identity where
  userId : String
  clientId : String
  projectId : String
deriving DecidableEq, Repr, Inhabited

/-- `Workflow` of the workflow store. -/
structure LocalWorkflow where
  id : String
  projectId : String
  name : String
  description : String
  nodes : Json
  edges : Json
  customTestOrder : Json
  provenance : String
  version : Int
  createdAt : Time
  updatedAt : Time
  userId : String
  clientId : String
  isDeleted : Bool
deriving Repr, Inhabited

/-- `ScenarioTestDefinition`: its id, and the whole of it. -/
structure TestDefinition where
  id : String
  definition : Json
deriving Repr, Inhabited

/-- `Scenario` of the scenario store. -/
structure LocalScenario where
  id : String
  projectId : String
  workflowId : String
  name : String
  description : String
  tests : List TestDefinition
  testOrder : List String
  version : Int
  createdAt : Time
  updatedAt : Time
  userId : String
  clientId : String
  isDeleted : Bool
deriving Repr, Inhabited

/-- What the middleware needs of an entity. -/
class SyncEntity (ε : Type) where
  id : ε → String
  /-- The entity as it is sent. -/
  serialize : ε → ChangeData

/-- `entity.version || 1`. -/
def versionOrOne (version : Int) : Int := if version = 0 then 1 else version

/-- `addSyncMetadata` on a workflow. -/
def LocalWorkflow.addSyncMetadata (me : Identity) (now : Time) (w : LocalWorkflow) :
    LocalWorkflow :=
  { w with
    version := versionOrOne w.version
    createdAt := if w.createdAt = zeroTime then now else w.createdAt
    updatedAt := now, userId := me.userId, clientId := me.clientId }

/-- `addSyncMetadata` on a scenario. -/
def LocalScenario.addSyncMetadata (me : Identity) (now : Time) (s : LocalScenario) :
    LocalScenario :=
  { s with
    version := versionOrOne s.version
    createdAt := if s.createdAt = zeroTime then now else s.createdAt
    updatedAt := now, userId := me.userId, clientId := me.clientId }

/-- The workflow of `createWorkflow`. -/
def newWorkflow (me : Identity) (id name description : String) (now : Time) : LocalWorkflow :=
  LocalWorkflow.addSyncMetadata me now
    { id, projectId := me.projectId, name, description, nodes := .arr [], edges := .arr []
      customTestOrder := .obj [], provenance := "manual", version := 0, createdAt := zeroTime
      updatedAt := zeroTime, userId := "", clientId := "", isDeleted := false }

/-- The scenario of `createScenario`. -/
def newScenario (me : Identity) (id projectId workflowId name : String) (now : Time) :
    LocalScenario :=
  LocalScenario.addSyncMetadata me now
    { id, projectId, workflowId, name, description := "", tests := [], testOrder := []
      version := 0, createdAt := zeroTime, updatedAt := zeroTime, userId := "", clientId := ""
      isDeleted := false }

/-- `markAsDeleted` on a workflow. -/
def LocalWorkflow.markAsDeleted (now : Time) (w : LocalWorkflow) : LocalWorkflow :=
  { w with isDeleted := true, version := w.version + 1, updatedAt := now }

/-- `markAsDeleted` on a scenario. -/
def LocalScenario.markAsDeleted (now : Time) (s : LocalScenario) : LocalScenario :=
  { s with isDeleted := true, version := s.version + 1, updatedAt := now }

/-- `serializeEntity` of the workflow store. -/
def LocalWorkflow.serialize (w : LocalWorkflow) : Workflow where
  id := w.id
  projectId := w.projectId
  name := w.name
  description := w.description
  nodesConfig := w.nodes.marshal
  edgesConfig := w.edges.marshal
  metadata := Json.marshal
    (.obj [("customTestOrder", w.customTestOrder), ("provenance", .str w.provenance)])
  version := w.version
  createdAt := w.createdAt
  updatedAt := w.updatedAt
  clientId := w.clientId
  userId := w.userId
  isDeleted := w.isDeleted

/-- `serializeEntity` of the scenario store. -/
def LocalScenario.serialize (s : LocalScenario) : Scenario where
  id := s.id
  projectId := s.projectId
  workflowId := s.workflowId
  name := s.name
  description := s.description
  testsConfig := Json.marshal (.arr (s.tests.map TestDefinition.definition))
  testOrder := Json.marshal (.arr (s.testOrder.map .str))
  metadata := Json.marshal (.obj [])
  version := s.version
  createdAt := s.createdAt
  updatedAt := s.updatedAt
  clientId := s.clientId
  userId := s.userId
  isDeleted := s.isDeleted

instance : SyncEntity LocalWorkflow where
  id := LocalWorkflow.id
  serialize w := .workflow (some w.serialize)

instance : SyncEntity LocalScenario where
  id := LocalScenario.id
  serialize s := .scenario (some s.serialize)

/-! ## A store behind the sync middleware -/

/-- A store: its entities, the entity of the last edit, the operation tracker and the entities
    whose microtask is scheduled. -/
structure SyncStore (ε : Type) where
  entities : List ε := []
  currentEntityId : Option String := none
  pendingOps : List (String × ChangeType) := []
  microtasks : List String := []
deriving Repr, Inhabited

/-- `coalesceChangeType`. -/
def coalesceChangeType (existing : Option ChangeType) (incoming : ChangeType) : ChangeType :=
  match existing, incoming with
  | none, incoming => incoming
  | some .insert, .update => .insert
  | some .delete, _ => .delete
  | some _, incoming => incoming

namespace SyncStore

variable {ε : Type} [SyncEntity ε]

/-- An entity of the store. -/
def get (store : SyncStore ε) (id : String) : Option ε := find SyncEntity.id id store.entities

/-- The pending operation of an entity. -/
def pendingOp (store : SyncStore ε) (id : String) : Option ChangeType :=
  (find Prod.fst id store.pendingOps).map Prod.snd

/-- `trackSync`. -/
def trackSync (id : String) (changeType : ChangeType) (store : SyncStore ε) : SyncStore ε :=
  let op := coalesceChangeType (store.pendingOp id) changeType
  { store with pendingOps := upsert Prod.fst (id, op) (fun _ => (id, op)) store.pendingOps }

/-- The end of the middleware's `syncSet`: the entity of the last edit gets a microtask. -/
def scheduleSync (store : SyncStore ε) : SyncStore ε :=
  match store.currentEntityId with
  | none => store
  | some id => { store with microtasks := store.microtasks ++ [id] }

/-- An edit that stores an entity under its id and makes it the current one. -/
def put (entity : ε) (store : SyncStore ε) : SyncStore ε :=
  { store with
    entities := upsert SyncEntity.id entity (fun _ => entity) store.entities
    currentEntityId := some (SyncEntity.id entity) }

/-- An edit of an entity; without it the state stays as it is. -/
def change (id : String) (f : ε → ε) (store : SyncStore ε) : SyncStore ε :=
  match store.get id with
  | none => store
  | some entity => store.put (f entity)

end SyncStore

/-! ## The queue -/

/-- The version of the serialised entity; `0` when there is none. -/
def ChangeData.version : ChangeData → Int
  | workflow data => (data.map Workflow.version).getD 0
  | scenario data => (data.map Scenario.version).getD 0
  | workflowRun data => (data.map WorkflowRun.version).getD 0
  | scenarioRun data => (data.map Session.version).getD 0
  | testResult _ => 0

/-- Two changes of one entity. -/
def SyncChange.sameEntity (c c' : SyncChange) : Bool :=
  decide (c.data.entityType = c'.data.entityType) && decide (c.entityId = c'.entityId)

/-- `coalesceQueuedChange`: an update of an entity whose first queued change is its insert takes
    the insert's place. -/
def coalesceQueuedChange (incoming : SyncChange) : List SyncChange → Option (List SyncChange)
  | [] => none
  | existing :: rest =>
    if existing.sameEntity incoming then
      if existing.changeType = .insert ∧ incoming.changeType = .update then
        some ({ incoming with changeType := .insert, clientVersion := 0 } :: rest)
      else none
    else (coalesceQueuedChange incoming rest).map (existing :: ·)

/-- The change that `queueChange` makes: an insert has no base version, any other change is based
    on the version before the entity's. -/
def queuedChange (entityId : String) (changeType : ChangeType) (data : ChangeData)
    (now : Time) : SyncChange :=
  { entityId, changeType, data, clientTime := now
    clientVersion := if changeType = .insert then 0 else max 0 (data.version - 1) }

/-- `queueChange`. -/
def queueChange (incoming : SyncChange) (queue : List SyncChange) : List SyncChange :=
  match coalesceQueuedChange incoming queue with
  | some queue => queue
  | none => queue ++ [incoming]

/-- `orderSyncChanges`: by entity type, and within a type in the order of the batch. -/
def orderSyncChanges (changes : List SyncChange) : List SyncChange :=
  ["workflow", "scenario", "workflow_run", "scenario_run", "test_result"].flatMap fun entityType =>
    changes.filter fun c => c.data.entityType = entityType

/-- The request of `sendBatch`, as the route hands it to the server. -/
def Identity.toBatch (me : Identity) (changes : List SyncChange) : SyncBatchRequest :=
  bindSyncBatchToIdentity me.userId me.projectId
    { clientId := me.clientId, userId := me.userId, projectId := me.projectId
      changes := orderSyncChanges changes }

/-- `isDeletedPayload`. -/
def isDeletedPayload : ChangeData → Bool
  | .workflow data => (data.map Workflow.isDeleted).getD false
  | .scenario data => (data.map Scenario.isDeleted).getD false
  | .workflowRun data => (data.map WorkflowRun.isDeleted).getD false
  | .scenarioRun data => (data.map Session.isDeleted).getD false
  | .testResult data => (data.map TestResult.isDeleted).getD false

/-- `message.includes("no longer exists")`. -/
def saysMissing : DbError → Bool
  | .text message => decide ("no longer exists".toList <:+: message.toList)
  | _ => false

/-- The errors that `repairMissingEntityUpdates` looks for. -/
def isMissingError (error : SyncError) : Bool :=
  (decide (error.entityType = "workflow") || decide (error.entityType = "scenario")) &&
    decide (error.entityId ≠ "") && saysMissing error.message

/-- `repairMissingEntityUpdates`: updates of entities the server does not have become inserts. -/
def repairMissingEntityUpdates (batch : List SyncChange) (errors : List SyncError) :
    Option (List SyncChange) :=
  let missing := errors.filter isMissingError
  let repairs (c : SyncChange) : Bool :=
    decide (c.changeType = .update) && !isDeletedPayload c.data &&
      missing.any fun e => decide (e.entityType = c.data.entityType) && decide (e.entityId = c.entityId)
  if batch.any repairs then
    some (batch.map fun c =>
      if repairs c then { c with changeType := .insert, clientVersion := 0 } else c)
  else none

/-! ## One client and the server -/

/-- A request of `commitBatch`: the batch it was started with, the changes it sends (the same, or
    repaired ones), the server's answer once there is one, and whether the client has given up
    waiting for it. -/
structure SyncRequest where
  batch : List SyncChange
  sent : List SyncChange
  repaired : Bool := false
  answer : Option SyncBatchResponse := none
  abandoned : Bool := false
deriving Repr, Inhabited

/-- The client, its requests, the server, and every answer the server has given. -/
structure SyncState where
  me : Identity
  workflows : SyncStore LocalWorkflow := {}
  scenarios : SyncStore LocalScenario := {}
  queue : List SyncChange := []
  requests : List SyncRequest := []
  server : Database := {}
  answers : List SyncBatchResponse := []
deriving Inhabited

/-- The changes of `updateScenario`; what is not given stays. -/
structure ScenarioUpdates where
  name : Option String := none
  description : Option String := none
  tests : Option (List TestDefinition) := none
  testOrder : Option (List String) := none
deriving Repr, Inhabited

/-- `deriveOrder`. -/
def deriveOrder (tests : List TestDefinition) (order : List String) : List String :=
  let existing := order.filter fun id => tests.any fun t => t.id = id
  existing ++ (tests.map TestDefinition.id).filter fun id => !existing.contains id

/-- The maximum number of changes in a batch. -/
def maxBatchSize : Nat := 100

/-- What can happen. -/
inductive SyncAction where
  | createWorkflow (id name description : String) (now : Time)
  | updateWorkflowName (id name : String) (now : Time)
  | updateWorkflowGraph (id : String) (nodes edges : Json) (customTestOrder : Option Json)
      (now : Time)
  | deleteWorkflow (id : String) (now : Time)
  | createScenario (id workflowId name : String) (now : Time)
  | updateScenario (id : String) (updates : ScenarioUpdates) (now : Time)
  | deleteScenario (id : String) (now : Time)
  | workflowMicrotask (now : Time)
  | scenarioMicrotask (now : Time)
  | flush
  | serve (k : Nat) (clock : Nat → Time) (faults : BatchFaults)
  | respond (k : Nat)
  | lose (k : Nat)
  | timeout (k : Nat)

namespace SyncState

/-- The microtask of the middleware: the pending operation of the scheduled entity is consumed
    and its latest data queued. -/
def runMicrotask {ε : Type} [SyncEntity ε] (now : Time) (store : SyncStore ε)
    (queue : List SyncChange) : Option (SyncStore ε × List SyncChange) :=
  match store.microtasks with
  | [] => none
  | id :: rest =>
    let consumed : SyncStore ε :=
      { store with
        microtasks := rest
        pendingOps := store.pendingOps.filter fun op => op.1 ≠ id }
    match store.pendingOp id, store.get id with
    | some op, some entity =>
      some (consumed, queueChange (queuedChange id op (SyncEntity.serialize entity) now) queue)
    | _, _ => some (consumed, queue)

/-- The browser has run its microtasks. -/
def idle (s : SyncState) : Bool := s.workflows.microtasks.isEmpty && s.scenarios.microtasks.isEmpty

/-- `flush`: the front of the queue becomes a request. -/
def flush (s : SyncState) : Option SyncState :=
  if !s.idle || s.queue.isEmpty then none
  else
    let batch := s.queue.take maxBatchSize
    some { s with
      queue := s.queue.drop maxBatchSize
      requests := s.requests ++ [{ batch, sent := batch }] }

/-- The server processes a request it has not processed yet; its statements may fail. -/
def serve (s : SyncState) (k : Nat) (clock : Nat → Time) (faults : BatchFaults) :
    Option SyncState :=
  match s.requests[k]? with
  | none => none
  | some request =>
    if request.answer.isSome then none
    else
      let outcome := processBatch clock faults (s.me.toBatch request.sent) s.server
      some { s with
        server := outcome.2
        answers := s.answers ++ [outcome.1]
        requests := s.requests.set k { request with answer := some outcome.1 } }

/-- The rest of `commitBatch` once its request is answered. -/
def respond (s : SyncState) (k : Nat) : Option SyncState :=
  match s.requests[k]? with
  | none => none
  | some request =>
    match request.answer with
    | none => none
    | some answer =>
      if !s.idle || request.abandoned then none
      else
        let done : SyncState := { s with requests := s.requests.eraseIdx k }
        let failed : Bool := !answer.success || !answer.errors.isEmpty
        let finish : SyncState :=
          if failed then { done with queue := request.sent ++ done.queue } else done
        if request.repaired then some finish
        else
          match repairMissingEntityUpdates request.batch answer.errors with
          | some repaired =>
            some { done with
              requests := done.requests ++
                [{ batch := request.batch, sent := repaired, repaired := true }] }
          | none => some finish

/-- A request fails on its way to the server; `commitBatch` puts its batch back. -/
def lose (s : SyncState) (k : Nat) : Option SyncState :=
  match s.requests[k]? with
  | none => none
  | some request =>
    if !s.idle || request.abandoned || request.answer.isSome then none
    else some { s with
      requests := s.requests.eraseIdx k
      queue := request.batch ++ s.queue }

/-- The client gives up on a request that the server has processed or may still process;
    `commitBatch` puts its batch back. -/
def timeout (s : SyncState) (k : Nat) : Option SyncState :=
  match s.requests[k]? with
  | none => none
  | some request =>
    if !s.idle || request.abandoned then none
    else some { s with
      requests :=
        if request.answer.isSome then s.requests.eraseIdx k
        else s.requests.set k { request with abandoned := true }
      queue := request.batch ++ s.queue }

/-- One step. -/
def step (s : SyncState) : SyncAction → Option SyncState
  | .createWorkflow id name description now =>
    let workflow := newWorkflow s.me id name description now
    some { s with
      workflows := ((s.workflows.trackSync id .insert).put workflow).scheduleSync }
  | .updateWorkflowName id name now =>
    some { s with
      workflows := ((s.workflows.trackSync id .update).change id fun w =>
        LocalWorkflow.addSyncMetadata s.me now
          { w with name, version := w.version + 1 }).scheduleSync }
  | .updateWorkflowGraph id nodes edges customTestOrder now =>
    some { s with
      workflows := ((s.workflows.trackSync id .update).change id fun w =>
        LocalWorkflow.addSyncMetadata s.me now
          { w with
            nodes, edges, customTestOrder := customTestOrder.getD w.customTestOrder
            version := w.version + 1 }).scheduleSync }
  | .deleteWorkflow id now =>
    some { s with
      workflows := ((s.workflows.trackSync id .delete).change id fun w =>
        w.markAsDeleted now).scheduleSync }
  | .createScenario id workflowId name now =>
    let projectId := ((s.workflows.get workflowId).map LocalWorkflow.projectId).getD ""
    let scenario := newScenario s.me id projectId workflowId name now
    some { s with
      scenarios := ((s.scenarios.trackSync id .insert).put scenario).scheduleSync }
  | .updateScenario id updates now =>
    if (s.scenarios.get id).isNone then some s
    else some { s with
      scenarios := ((s.scenarios.trackSync id .update).change id fun c =>
        let tests := updates.tests.getD c.tests
        LocalScenario.addSyncMetadata s.me now
          { c with
            name := updates.name.getD c.name
            description := updates.description.getD c.description
            tests, testOrder := deriveOrder tests (updates.testOrder.getD c.testOrder)
            version := c.version + 1 }).scheduleSync }
  | .deleteScenario id now =>
    if (s.scenarios.get id).isNone then some s
    else some { s with
      scenarios := ((s.scenarios.trackSync id .delete).change id fun c =>
        c.markAsDeleted now).scheduleSync }
  | .workflowMicrotask now =>
    (runMicrotask now s.workflows s.queue).map fun r =>
      { s with workflows := r.1, queue := r.2 }
  | .scenarioMicrotask now =>
    (runMicrotask now s.scenarios s.queue).map fun r =>
      { s with scenarios := r.1, queue := r.2 }
  | .flush => s.flush
  | .serve k clock faults => s.serve k clock faults
  | .respond k => s.respond k
  | .lose k => s.lose k
  | .timeout k => s.timeout k

end SyncState

end TokyoTester
