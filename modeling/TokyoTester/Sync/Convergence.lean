import TokyoTester.Sync.Acceptance
import TokyoTester.Library.Trace

set_option autoImplicit false

/-! # One client and the server converge

The client's pending changes of an entity (in a request that has not been applied, in the queue,
in the operation tracker) lead from the server's row to the client's: that is the invariant, and
it says that the server accepts every change with the version it names. It breaks where the client
merges changes without adjusting versions (an update that takes a queued insert's place, two edits
between microtasks), where a second request overtakes the first, where a request that was applied
is sent again, and where a change of a request fails and a later one of the same entity is compared
with the row the first has not written. `SyncAction.orderly` excludes these steps; runs of orderly
steps never see a conflict, and end in equal rows when the queue has drained (`sync_converges`). -/

namespace TokyoTester

open Table Versioned Pending

/-! ## A store as it will be sent -/

section

variable {ε : Type} [SyncEntity ε]

/-- A row without its update time. -/
def ChangeData.content : ChangeData → ChangeData
  | workflow data => workflow (data.map Workflow.content)
  | scenario data => scenario (data.map Scenario.content)
  | other => other

/-- The project of a row. -/
def ChangeData.projectId : ChangeData → Option String
  | workflow data => data.map Workflow.projectId
  | scenario data => data.map Scenario.projectId
  | _ => none

/-- The user of a row. -/
def ChangeData.userId : ChangeData → Option String
  | workflow data => data.map Workflow.userId
  | scenario data => data.map Scenario.userId
  | _ => none

namespace SyncStore

/-- The store's entity as it would be sent, without its update time. -/
def view (store : SyncStore ε) (id : String) : Option ChangeData :=
  (store.get id).map fun e => (SyncEntity.serialize e).content

/-- The change that the microtask of an entity will queue. -/
def tracked (store : SyncStore ε) (id : String) : List SyncChange :=
  match store.pendingOp id, store.get id with
  | some op, some e => [queuedChange id op (SyncEntity.serialize e) zeroTime]
  | _, _ => []

/-- The store after an edit that puts `e` under its id. -/
def edited (op : ChangeType) (e : ε) (store : SyncStore ε) : SyncStore ε :=
  ((store.trackSync (SyncEntity.id e) op).put e).scheduleSync

theorem edited_get (op : ChangeType) (e : ε) (store : SyncStore ε) (i : String) :
    (store.edited op e).get i = if i = SyncEntity.id e then some e else store.get i := by
  show find SyncEntity.id i (upsert SyncEntity.id e (fun _ => e) store.entities) = _
  rw [find_upsert fun r _ hr => hr.symm]
  split_ifs with hi
  · cases find SyncEntity.id i store.entities <;> rfl
  · rfl

theorem edited_pendingOp {op : ChangeType} {e : ε} {store : SyncStore ε}
    (hnone : store.pendingOp (SyncEntity.id e) = none) (i : String) :
    (store.edited op e).pendingOp i
      = if i = SyncEntity.id e then some op else store.pendingOp i := by
  have hop : coalesceChangeType (store.pendingOp (SyncEntity.id e)) op = op := by
    rw [hnone]
    rfl
  show (find Prod.fst i (upsert Prod.fst (SyncEntity.id e, _) _ store.pendingOps)).map Prod.snd = _
  rw [hop, find_upsert fun r _ hr => hr.symm]
  dsimp only
  split_ifs with hi
  · cases find Prod.fst i store.pendingOps <;> rfl
  · rfl

theorem edited_microtasks (op : ChangeType) (e : ε) (store : SyncStore ε) :
    (store.edited op e).microtasks = store.microtasks ++ [SyncEntity.id e] := rfl

theorem edited_view (op : ChangeType) (e : ε) (store : SyncStore ε) :
    (store.edited op e).view
      = Function.update store.view (SyncEntity.id e) (some (SyncEntity.serialize e).content) := by
  funext i
  rw [Function.update_apply, view, edited_get]
  split_ifs <;> rfl

theorem edited_tracked {op : ChangeType} {e : ε} {store : SyncStore ε}
    (hnone : store.pendingOp (SyncEntity.id e) = none) :
    (store.edited op e).tracked
      = Function.update store.tracked (SyncEntity.id e)
          [queuedChange (SyncEntity.id e) op (SyncEntity.serialize e) zeroTime] := by
  funext i
  rw [Function.update_apply, tracked, edited_get, edited_pendingOp hnone]
  split_ifs with hi
  · rw [hi]
  · rfl

/-- An edit of an entity that is there puts the edited entity. -/
theorem change_of_get {store : SyncStore ε} {id : String} {e : ε} (f : ε → ε) (op : ChangeType)
    (hget : store.get id = some e) (hid : SyncEntity.id (f e) = id) :
    ((store.trackSync id op).change id f).scheduleSync = store.edited op (f e) := by
  unfold change edited
  have hget' : (store.trackSync id op).get id = some e := hget
  rw [hget', hid]

theorem get_id {store : SyncStore ε} {id : String} {e : ε} (hget : store.get id = some e) :
    SyncEntity.id e = id :=
  (find_some hget).2

end SyncStore

end

/-! ## The state by entity -/

/-- The changes of a request that the server has not performed. -/
def SyncRequest.outstanding (r : SyncRequest) : List SyncChange :=
  match r.answer with
  | some answer => if answer.success then [] else r.batch
  | none => r.batch

namespace SyncState

/-- The client's entity as it would be sent, without its update time. -/
def localView (s : SyncState) : EntityKind × String → Option ChangeData
  | (.workflow, id) => s.workflows.view id
  | (.scenario, id) => s.scenarios.view id
  | _ => none

/-- The change that an entity's microtask will queue. -/
def tracked (s : SyncState) : EntityKind × String → List SyncChange
  | (.workflow, id) => s.workflows.tracked id
  | (.scenario, id) => s.scenarios.tracked id
  | _ => []

/-- The pending operation of an entity. -/
def pendingOp (s : SyncState) : EntityKind × String → Option ChangeType
  | (.workflow, id) => s.workflows.pendingOp id
  | (.scenario, id) => s.scenarios.pendingOp id
  | _ => none

/-- The entity's microtask is scheduled. -/
def scheduled (s : SyncState) : EntityKind × String → Prop
  | (.workflow, id) => id ∈ s.workflows.microtasks
  | (.scenario, id) => id ∈ s.scenarios.microtasks
  | _ => False

/-- Every change the server has not performed, in the order it was queued. -/
def outstanding (s : SyncState) : List SyncChange :=
  s.requests.flatMap SyncRequest.outstanding ++ s.queue

/-- What the server's row of an entity becomes: the client's, or what it was at the start when
    the client has none. -/
def expected (db₀ : Database) (s : SyncState) (k : EntityKind × String) : Option ChangeData :=
  (s.localView k).or (serverView db₀ k)

/-- A new id: neither the client nor the server has an entity under it. -/
def fresh (s : SyncState) (k : EntityKind × String) : Prop :=
  s.localView k = none ∧ serverView s.server k = none ∧ s.pendingOp k = none

/-- The client has the entity, it is not deleted, and no earlier edit of it waits for its
    microtask. -/
def editable (s : SyncState) (k : EntityKind × String) : Prop :=
  (∃ v, s.localView k = some v ∧ isDeletedPayload v = false) ∧ s.pendingOp k = none

/-- The entity's insert is not in the queue. -/
def insertSent (s : SyncState) (k : EntityKind × String) : Prop :=
  ∀ c ∈ s.queue, (c.data.kind, c.entityId) = k → c.changeType ≠ .insert

end SyncState

/-- The steps that keep versions in order: an edit is of a live entity without another edit
    waiting (and, for an update, without its insert in the queue), ids of new entities are new and
    their creation times are set, a flush finds no request on its way, a request that fails was not
    applied, no change of a request follows a refused or failed change of the same entity, and no
    failed statement says that an entity does not exist. -/
def SyncAction.orderly (s : SyncState) : SyncAction → Prop
  | .createWorkflow id _ _ now => s.fresh (.workflow, id) ∧ now ≠ zeroTime
  | .updateWorkflowName id _ _ => s.editable (.workflow, id) ∧ s.insertSent (.workflow, id)
  | .updateWorkflowGraph id _ _ _ _ => s.editable (.workflow, id) ∧ s.insertSent (.workflow, id)
  | .deleteWorkflow id _ => s.editable (.workflow, id)
  | .createScenario id workflowId _ now =>
      (s.fresh (.scenario, id) ∧ now ≠ zeroTime) ∧ ∃ w, s.workflows.get workflowId = some w
  | .updateScenario id _ _ => s.editable (.scenario, id) ∧ s.insertSent (.scenario, id)
  | .deleteScenario id _ => s.editable (.scenario, id)
  | .workflowMicrotask _ => True
  | .scenarioMicrotask _ => True
  | .flush => s.requests = []
  | .serve k clock faults => (∀ n, (faults.statements n).SaysOther) ∧
      ∀ r, s.requests[k]? = some r →
        refusedBeforeOther s.me.userId clock faults (s.me.toBatch r.sent).changes 0 s.server = false
  | .respond _ => True
  | .lose _ => True
  | .timeout k => ∀ r, s.requests[k]? = some r →
      ∃ answer, r.answer = some answer ∧ answer.success = false

/-! ## The invariant -/

/-- A request that is neither repaired nor given up, and whose answer asks for no repair. -/
structure SyncRequest.InOrder (r : SyncRequest) : Prop where
  sent : r.sent = r.batch
  repaired : r.repaired = false
  abandoned : r.abandoned = false
  success : ∀ answer, r.answer = some answer → answer.success = true → answer.errors = []
  missing : ∀ answer, r.answer = some answer → ∀ e ∈ answer.errors, isMissingError e = false

/-- The pending changes lead from the server's rows to the client's. -/
structure SyncInvariant (db₀ : Database) (s : SyncState) : Prop where
  keyed : KeyedEntities s.server
  requests : s.requests = [] ∨ ∃ r, s.requests = [r] ∧ r.InOrder
  leads : (syncLog s.me).Leads (serverView s.server) s.outstanding s.tracked (s.expected db₀)
  unknown : ∀ k, s.localView k = none →
    (syncLog s.me).ofKey k s.outstanding = [] ∧ s.pendingOp k = none
  scheduled : ∀ k, s.pendingOp k ≠ none → s.scheduled k
  inserts : ∀ k, s.pendingOp k = some .update → s.insertSent k
  locals : ∀ k v, s.localView k = some v →
    1 ≤ v.version ∧ v.projectId = some s.me.projectId ∧ v.createdAt ≠ zeroTime
  answers : ∀ a ∈ s.answers, a.conflicts = []

theorem tracked_of_pendingOp {s : SyncState} {k : EntityKind × String}
    (h : s.pendingOp k = none) : s.tracked k = [] := by
  obtain ⟨kind, id⟩ := k
  cases kind with
  | workflow =>
      simp only [SyncState.tracked, SyncStore.tracked]
      rw [show s.workflows.pendingOp id = none from h]
  | scenario =>
      simp only [SyncState.tracked, SyncStore.tracked]
      rw [show s.scenarios.pendingOp id = none from h]
  | _ => rfl

theorem expected_of_localView (db₀ : Database) {s : SyncState} {k : EntityKind × String}
    {v : ChangeData} (h : s.localView k = some v) : s.expected db₀ k = some v := by
  simp [SyncState.expected, h]

/-! ## Edits -/

/-- What an edit of one entity does to the state. -/
structure Edited (s s' : SyncState) (k : EntityKind × String) (op : ChangeType)
    (data : ChangeData) : Prop where
  me : s'.me = s.me
  queue : s'.queue = s.queue
  requests : s'.requests = s.requests
  server : s'.server = s.server
  answers : s'.answers = s.answers
  localView : s'.localView = Function.update s.localView k (some data.content)
  tracked : s'.tracked = Function.update s.tracked k [queuedChange k.2 op data zeroTime]
  pendingOp : s'.pendingOp = Function.update s.pendingOp k (some op)
  scheduled : ∀ k', s.scheduled k' ∨ k' = k → s'.scheduled k'

/-- The views of a state on the entities of a kind are those of a store. -/
structure HasStore {ε : Type} [SyncEntity ε] (s : SyncState) (kind : EntityKind)
    (store : SyncStore ε) : Prop where
  view : ∀ id, s.localView (kind, id) = store.view id
  tracked : ∀ id, s.tracked (kind, id) = store.tracked id
  pendingOp : ∀ id, s.pendingOp (kind, id) = store.pendingOp id
  scheduled : ∀ id, s.scheduled (kind, id) ↔ id ∈ store.microtasks

/-- One store of the client is replaced; but for the queue, the rest is as it was. -/
structure StoreStep {ε : Type} [SyncEntity ε] (s s' : SyncState) (kind : EntityKind)
    (store store' : SyncStore ε) : Prop where
  me : s'.me = s.me
  requests : s'.requests = s.requests
  server : s'.server = s.server
  answers : s'.answers = s.answers
  before : HasStore s kind store
  after : HasStore s' kind store'
  localView : ∀ k : EntityKind × String, k.1 ≠ kind → s'.localView k = s.localView k
  tracked : ∀ k : EntityKind × String, k.1 ≠ kind → s'.tracked k = s.tracked k
  pendingOp : ∀ k : EntityKind × String, k.1 ≠ kind → s'.pendingOp k = s.pendingOp k
  scheduled : ∀ k : EntityKind × String, k.1 ≠ kind → (s'.scheduled k ↔ s.scheduled k)

theorem hasStore_workflows (s : SyncState) : HasStore s .workflow s.workflows :=
  ⟨fun _ => rfl, fun _ => rfl, fun _ => rfl, fun _ => .rfl⟩

theorem hasStore_scenarios (s : SyncState) : HasStore s .scenario s.scenarios :=
  ⟨fun _ => rfl, fun _ => rfl, fun _ => rfl, fun _ => .rfl⟩

theorem storeStep_workflows (s : SyncState) (store : SyncStore LocalWorkflow)
    (queue : List SyncChange) :
    StoreStep s { s with workflows := store, queue := queue } .workflow s.workflows store := by
  refine ⟨rfl, rfl, rfl, rfl, hasStore_workflows s, hasStore_workflows _, ?_, ?_, ?_, ?_⟩ <;>
    rintro ⟨kind, i⟩ hkind <;> cases kind <;> first | rfl | exact absurd rfl hkind

theorem storeStep_scenarios (s : SyncState) (store : SyncStore LocalScenario)
    (queue : List SyncChange) :
    StoreStep s { s with scenarios := store, queue := queue } .scenario s.scenarios store := by
  refine ⟨rfl, rfl, rfl, rfl, hasStore_scenarios s, hasStore_scenarios _, ?_, ?_, ?_, ?_⟩ <;>
    rintro ⟨kind, i⟩ hkind <;> cases kind <;> first | rfl | exact absurd rfl hkind

section StoreStep

variable {ε : Type} [SyncEntity ε] {s s' : SyncState} {kind : EntityKind} {store store' : SyncStore ε}

/-- A view that changes for one id of a kind. -/
theorem update_of_kind {α : Type} {f f' : EntityKind × String → α} {g g' : String → α} {id : String}
    {a : α} (hf : ∀ i, f (kind, i) = g i) (hf' : ∀ i, f' (kind, i) = g' i)
    (hothers : ∀ k : EntityKind × String, k.1 ≠ kind → f' k = f k)
    (hg : g' = Function.update g id a) : f' = Function.update f (kind, id) a := by
  funext key
  obtain ⟨kind', i⟩ := key
  rw [Function.update_apply]
  by_cases hkind : kind' = kind
  · subst hkind
    rw [hf', hf, hg, Function.update_apply]
    simp only [Prod.mk.injEq, true_and]
  · rw [hothers (kind', i) hkind, if_neg fun heq => hkind (Prod.mk.inj heq).1]

/-- An edit of one entity of a store. -/
theorem StoreStep.edited {op : ChangeType} {e : ε}
    (h : StoreStep s s' kind store (store.edited op e)) (hqueue : s'.queue = s.queue)
    (hnone : s.pendingOp (kind, SyncEntity.id e) = none) :
    Edited s s' (kind, SyncEntity.id e) op (SyncEntity.serialize e) := by
  rw [h.before.pendingOp] at hnone
  refine ⟨h.me, hqueue, h.requests, h.server, h.answers, ?_, ?_, ?_, ?_⟩
  · exact update_of_kind h.before.view h.after.view h.localView (SyncStore.edited_view op e store)
  · exact update_of_kind h.before.tracked h.after.tracked h.tracked
      (SyncStore.edited_tracked hnone)
  · refine update_of_kind h.before.pendingOp h.after.pendingOp h.pendingOp ?_
    funext i
    rw [SyncStore.edited_pendingOp hnone, Function.update_apply]
  · rintro ⟨kind', i⟩ hscheduled
    by_cases hkind : kind' = kind
    · subst hkind
      rw [h.before.scheduled] at hscheduled
      rw [h.after.scheduled, SyncStore.edited_microtasks, List.mem_append, List.mem_singleton]
      exact hscheduled.imp id fun heq => (Prod.mk.inj heq).2
    · rw [h.scheduled (kind', i) hkind]
      exact hscheduled.resolve_right fun heq => hkind (Prod.mk.inj heq).1

end StoreStep

/-- **An edit keeps the invariant** when the change it will queue is acceptable after the pending
    ones and makes the new entity of the old. -/
theorem Edited.invariant {db₀ : Database} {s s' : SyncState} {k : EntityKind × String}
    {op : ChangeType} {data : ChangeData} (h : Edited s s' k op data)
    (inv : SyncInvariant db₀ s) (hnone : s.pendingOp k = none)
    (hok : (syncLog s.me).ok (queuedChange k.2 op data zeroTime) (s.expected db₀ k))
    (heffect : (syncLog s.me).effect (queuedChange k.2 op data zeroTime) (s.expected db₀ k)
      = some data.content)
    (hinsert : op = .update → s.insertSent k)
    (hlocal : 1 ≤ data.content.version ∧ data.content.projectId = some s.me.projectId ∧
      data.content.createdAt ≠ zeroTime) :
    SyncInvariant db₀ s' := by
  have houtstanding : s'.outstanding = s.outstanding := by
    simp [SyncState.outstanding, h.requests, h.queue]
  refine ⟨h.server ▸ inv.keyed, h.requests ▸ inv.requests, ?_, ?_, ?_, ?_, ?_,
    h.answers ▸ inv.answers⟩
  -- the new change goes behind those that are outstanding
  · intro k'
    rw [h.me, h.server, houtstanding, h.tracked]
    by_cases hk : k' = k
    · subst hk
      rw [Function.update_self]
      have hold := inv.leads k'
      rw [tracked_of_pendingOp hnone, List.append_nil] at hold
      have hnew := chain_snoc hold hok
      rw [heffect] at hnew
      rwa [expected_of_localView db₀ (by rw [h.localView, Function.update_self])]
    · rw [Function.update_of_ne hk]
      have hsame : s'.expected db₀ k' = s.expected db₀ k' := by
        simp [SyncState.expected, h.localView, Function.update_of_ne hk]
      rw [hsame]
      exact inv.leads k'
  · intro k' hlocal'
    rw [h.localView] at hlocal'
    by_cases hk : k' = k
    · rw [hk, Function.update_self] at hlocal'
      cases hlocal'
    · rw [Function.update_of_ne hk] at hlocal'
      rw [h.me, houtstanding, h.pendingOp, Function.update_of_ne hk]
      exact inv.unknown k' hlocal'
  · intro k' hpending
    apply h.scheduled
    by_cases hk : k' = k
    · exact .inr hk
    · rw [h.pendingOp, Function.update_of_ne hk] at hpending
      exact .inl (inv.scheduled k' hpending)
  · intro k' hpending c hc
    rw [h.queue] at hc
    by_cases hk : k' = k
    · rw [h.pendingOp, hk, Function.update_self] at hpending
      rw [hk]
      exact hinsert (Option.some.inj hpending) c hc
    · rw [h.pendingOp, Function.update_of_ne hk] at hpending
      exact inv.inserts k' hpending c hc
  · intro k' v hv
    rw [h.localView] at hv
    rw [h.me]
    by_cases hk : k' = k
    · rw [hk, Function.update_self] at hv
      rw [← Option.some.inj hv]
      exact hlocal
    · rw [Function.update_of_ne hk] at hv
      exact inv.locals k' v hv

/-- The server stores a row of the client's own as the client has it. -/
theorem stored_eq_content {me : Identity} {data : ChangeData}
    (huser : data.userId = some me.userId) (hproject : data.projectId = some me.projectId) :
    data.stored me data.version = data.content := by
  cases data with
  | workflow data =>
      cases data with
      | none => cases huser
      | some d =>
          have hu : d.userId = me.userId := Option.some.inj huser
          have hp : d.projectId = me.projectId := Option.some.inj hproject
          simp [ChangeData.stored, ChangeData.content, ChangeData.version, Workflow.content, ← hu,
            ← hp]
  | scenario data =>
      cases data with
      | none => cases huser
      | some d =>
          have hu : d.userId = me.userId := Option.some.inj huser
          have hp : d.projectId = me.projectId := Option.some.inj hproject
          simp [ChangeData.stored, ChangeData.content, ChangeData.version, Scenario.content, ← hu,
            ← hp]
  | _ => rfl

@[simp] theorem ChangeData.content_version (d : ChangeData) : d.content.version = d.version := by
  cases d with
  | workflow data => cases data <;> rfl
  | scenario data => cases data <;> rfl
  | _ => rfl

@[simp] theorem ChangeData.content_projectId (d : ChangeData) :
    d.content.projectId = d.projectId := by
  cases d with
  | workflow data => cases data <;> rfl
  | scenario data => cases data <;> rfl
  | _ => rfl

@[simp] theorem ChangeData.content_createdAt (d : ChangeData) :
    d.content.createdAt = d.createdAt := by
  cases d with
  | workflow data => cases data <;> rfl
  | scenario data => cases data <;> rfl
  | _ => rfl

section

variable {db₀ : Database} {s s' : SyncState} {k : EntityKind × String} {data : ChangeData}

/-- A new entity. -/
theorem Edited.insert (h : Edited s s' k .insert data) (inv : SyncInvariant db₀ s)
    (hfresh : s.fresh k) (haddr : data.addresses k.2) (hversion : data.version = 1)
    (huser : data.userId = some s.me.userId) (hproject : data.projectId = some s.me.projectId)
    (hdated : data.createdAt ≠ zeroTime) : SyncInvariant db₀ s' := by
  obtain ⟨hlocal, hserver, hnone⟩ := hfresh
  have hexpected : s.expected db₀ k = none := by
    have hold := inv.leads k
    rw [(inv.unknown k hlocal).1, tracked_of_pendingOp hnone] at hold
    exact hold.symm.trans hserver
  refine h.invariant inv hnone ⟨haddr, hexpected, hdated⟩ ?_ (fun hop => by cases hop) ?_
  · show some (data.stored s.me 1) = _
    rw [← hversion, stored_eq_content huser hproject]
  · rw [ChangeData.content_version, ChangeData.content_projectId, ChangeData.content_createdAt,
      hversion]
    exact ⟨le_refl 1, hproject, hdated⟩

/-- An update of a live entity. -/
theorem Edited.update {v : ChangeData} (h : Edited s s' k .update data)
    (inv : SyncInvariant db₀ s) (hv : s.localView k = some v) (hlive : isDeletedPayload v = false)
    (hnone : s.pendingOp k = none) (hsent : s.insertSent k) (haddr : data.addresses k.2)
    (hversion : data.version = v.version + 1) (huser : data.userId = some s.me.userId)
    (hproject : data.projectId = some s.me.projectId) (hcreated : data.createdAt = v.createdAt) :
    SyncInvariant db₀ s' := by
  have hexpected := expected_of_localView db₀ hv
  obtain ⟨hpos, -, hdated⟩ := inv.locals k v hv
  have hbase : (queuedChange k.2 .update data zeroTime).clientVersion = v.version := by
    simp only [queuedChange, hversion]
    simp only [reduceCtorEq, if_false]
    omega
  refine h.invariant inv hnone ⟨haddr, v, hexpected, hlive, hbase.symm, hcreated.symm⟩ ?_
    (fun _ => hsent) ?_
  · show some (data.stored s.me (_ + 1)) = _
    rw [hbase, ← hversion, stored_eq_content huser hproject]
  · rw [ChangeData.content_version, ChangeData.content_projectId, ChangeData.content_createdAt,
      hversion, hcreated]
    exact ⟨by omega, hproject, hdated⟩

/-- The deletion of a live entity. -/
theorem Edited.delete {v : ChangeData} (h : Edited s s' k .delete data)
    (inv : SyncInvariant db₀ s) (hv : s.localView k = some v) (hlive : isDeletedPayload v = false)
    (hnone : s.pendingOp k = none) (haddr : data.addresses k.2)
    (hversion : data.version = v.version + 1) (hdeleted : v.deleted = data.content)
    (hproject : data.projectId = v.projectId) (hcreated : data.createdAt = v.createdAt) :
    SyncInvariant db₀ s' := by
  have hexpected := expected_of_localView db₀ hv
  obtain ⟨hpos, hproj, hdated⟩ := inv.locals k v hv
  have hbase : (queuedChange k.2 .delete data zeroTime).clientVersion = v.version := by
    simp only [queuedChange, hversion]
    simp only [reduceCtorEq, if_false]
    omega
  refine h.invariant inv hnone ⟨haddr, v, hexpected, hlive, hbase.symm, hcreated.symm⟩ ?_
    (fun hop => by cases hop) ?_
  · show (s.expected db₀ k).map ChangeData.deleted = _
    rw [hexpected, Option.map_some, hdeleted]
  · rw [ChangeData.content_version, ChangeData.content_projectId, ChangeData.content_createdAt,
      hversion, hproject, hcreated]
    exact ⟨by omega, hproj, hdated⟩

section Stores

variable {ε : Type} [SyncEntity ε] {kind : EntityKind} {store : SyncStore ε} {id : String}
  {f : ε → ε}

/-- The entity behind a client's row. -/
theorem HasStore.exists_of_editable (h : HasStore s kind store) (hedit : s.editable (kind, id)) :
    ∃ e, store.get id = some e ∧ SyncEntity.id e = id ∧
      s.localView (kind, id) = some (SyncEntity.serialize e).content ∧
      isDeletedPayload (SyncEntity.serialize e).content = false := by
  obtain ⟨⟨v, hv, hlive⟩, -⟩ := hedit
  have hview := hv
  rw [h.view] at hview
  obtain ⟨e, hget, rfl⟩ := Option.map_eq_some_iff.1 hview
  exact ⟨e, hget, SyncStore.get_id hget, hv, hlive⟩

/-- An update of an entity in its store. -/
theorem StoreStep.update
    (h : StoreStep s s' kind store ((store.trackSync id .update).change id f).scheduleSync)
    (hqueue : s'.queue = s.queue) (inv : SyncInvariant db₀ s) (hedit : s.editable (kind, id))
    (hsent : s.insertSent (kind, id)) (hid : ∀ e, SyncEntity.id (f e) = SyncEntity.id e)
    (haddr : ∀ e : ε, (SyncEntity.serialize e).addresses (SyncEntity.id e))
    (hversion : ∀ e, 1 ≤ (SyncEntity.serialize e).version →
      (SyncEntity.serialize (f e)).version = (SyncEntity.serialize e).version + 1)
    (huser : ∀ e, (SyncEntity.serialize (f e)).userId = some s.me.userId)
    (hproject : ∀ e, (SyncEntity.serialize (f e)).projectId = (SyncEntity.serialize e).projectId)
    (hcreated : ∀ e, (SyncEntity.serialize e).createdAt ≠ zeroTime →
      (SyncEntity.serialize (f e)).createdAt = (SyncEntity.serialize e).createdAt) :
    SyncInvariant db₀ s' := by
  obtain ⟨e, hget, heid, hv, hlive⟩ := h.before.exists_of_editable hedit
  have hfid : SyncEntity.id (f e) = id := (hid e).trans heid
  rw [SyncStore.change_of_get f .update hget hfid] at h
  obtain ⟨hpos, hproj, hdated⟩ := inv.locals _ _ hv
  simp only [ChangeData.content_version, ChangeData.content_projectId,
    ChangeData.content_createdAt] at hpos hproj hdated
  have hedited := h.edited hqueue (hfid.symm ▸ hedit.2)
  have haddressed := haddr (f e)
  rw [hfid] at hedited haddressed
  refine hedited.update inv hv hlive hedit.2 hsent haddressed ?_ (huser e) ?_ ?_
  · rw [ChangeData.content_version, hversion e hpos]
  · rw [hproject e, hproj]
  · rw [ChangeData.content_createdAt, hcreated e hdated]

/-- The deletion of an entity in its store. -/
theorem StoreStep.delete
    (h : StoreStep s s' kind store ((store.trackSync id .delete).change id f).scheduleSync)
    (hqueue : s'.queue = s.queue) (inv : SyncInvariant db₀ s) (hedit : s.editable (kind, id))
    (hid : ∀ e, SyncEntity.id (f e) = SyncEntity.id e)
    (haddr : ∀ e : ε, (SyncEntity.serialize e).addresses (SyncEntity.id e))
    (hversion : ∀ e, (SyncEntity.serialize (f e)).version = (SyncEntity.serialize e).version + 1)
    (hdeleted : ∀ e, (SyncEntity.serialize e).content.deleted = (SyncEntity.serialize (f e)).content)
    (hproject : ∀ e, (SyncEntity.serialize (f e)).projectId = (SyncEntity.serialize e).projectId)
    (hcreated : ∀ e, (SyncEntity.serialize (f e)).createdAt = (SyncEntity.serialize e).createdAt) :
    SyncInvariant db₀ s' := by
  obtain ⟨e, hget, heid, hv, hlive⟩ := h.before.exists_of_editable hedit
  have hfid : SyncEntity.id (f e) = id := (hid e).trans heid
  rw [SyncStore.change_of_get f .delete hget hfid] at h
  have hedited := h.edited hqueue (hfid.symm ▸ hedit.2)
  have haddressed := haddr (f e)
  rw [hfid] at hedited haddressed
  refine hedited.delete inv hv hlive hedit.2 haddressed ?_ (hdeleted e) ?_ ?_
  · rw [ChangeData.content_version, hversion e]
  · rw [ChangeData.content_projectId, hproject e]
  · rw [ChangeData.content_createdAt, hcreated e]

end Stores

/-- A version that counts up is never reset. -/
theorem versionOrOne_succ {version : Int} (h : 1 ≤ version) :
    versionOrOne (version + 1) = version + 1 := by
  unfold versionOrOne
  rw [if_neg (by omega)]

end

/-! ## Microtasks -/

theorem coalesceQueuedChange_none {incoming : SyncChange} {queue : List SyncChange}
    (h : incoming.changeType = .update → ∀ c ∈ queue,
      (c.data.kind, c.entityId) = (incoming.data.kind, incoming.entityId) →
        c.changeType ≠ .insert) :
    coalesceQueuedChange incoming queue = none := by
  induction queue with
  | nil => rfl
  | cons c rest ih =>
      have hrest := ih fun hop c' hc' => h hop c' (List.mem_cons_of_mem _ hc')
      unfold coalesceQueuedChange
      rw [hrest]
      split_ifs with hsame hboth
      · have hkey : (c.data.kind, c.entityId) = (incoming.data.kind, incoming.entityId) := by
          simp only [SyncChange.sameEntity, Bool.and_eq_true, decide_eq_true_eq] at hsame
          rw [(kind_eq_iff c.data incoming.data).2 hsame.1, hsame.2]
        exact absurd hboth.1 (h hboth.2 c (List.mem_cons_self ..) hkey)
      · rfl
      · rfl

/-- What the microtask of one entity does to the state: its pending change moves to the end of
    the queue. -/
structure Consumed (s s' : SyncState) (k : EntityKind × String) (added : List SyncChange) :
    Prop where
  me : s'.me = s.me
  queue : s'.queue = s.queue ++ added
  requests : s'.requests = s.requests
  server : s'.server = s.server
  answers : s'.answers = s.answers
  localView : s'.localView = s.localView
  tracked : s'.tracked = Function.update s.tracked k []
  pendingOp : s'.pendingOp = Function.update s.pendingOp k none
  scheduled : ∀ k', k' ≠ k → s.scheduled k' → s'.scheduled k'
  key : ∀ c ∈ added, (syncLog s.me).key c = k
  chain : ∀ m l, (syncLog s.me).Chain m (s.tracked k) l → (syncLog s.me).Chain m added l
  known : s.localView k = none → added = []

theorem Consumed.invariant {db₀ : Database} {s s' : SyncState} {k : EntityKind × String}
    {added : List SyncChange} (h : Consumed s s' k added) (inv : SyncInvariant db₀ s) :
    SyncInvariant db₀ s' := by
  have houtstanding : s'.outstanding = s.outstanding ++ added := by
    simp [SyncState.outstanding, h.requests, h.queue]
  have hexpected : s'.expected db₀ = s.expected db₀ := by
    funext k'
    simp [SyncState.expected, h.localView]
  have hother : ∀ k', k' ≠ k → (syncLog s.me).ofKey k' added = [] := by
    intro k' hk
    apply ofKey_eq_nil
    intro c hc hkey
    exact hk (hkey.symm.trans (h.key c hc))
  refine ⟨h.server ▸ inv.keyed, h.requests ▸ inv.requests, ?_, ?_, ?_, ?_, ?_,
    h.answers ▸ inv.answers⟩
  -- the tracked change becomes the last of the queue, in the same chain
  · intro k'
    rw [h.me, h.server, houtstanding, hexpected, h.tracked, ofKey_append]
    by_cases hk : k' = k
    · subst hk
      have hall : (syncLog s.me).ofKey k' added = added := by
        rw [Log.ofKey, List.filter_eq_self]
        intro c hc
        exact decide_eq_true (h.key c hc)
      rw [hall, Function.update_self, List.append_nil]
      obtain ⟨m, h₁, h₂⟩ := chain_append.1 (inv.leads k')
      exact chain_append.2 ⟨m, h₁, h.chain _ _ h₂⟩
    · rw [hother k' hk, List.append_nil, Function.update_of_ne hk]
      exact inv.leads k'
  · intro k' hlocal
    rw [h.localView] at hlocal
    rw [h.me, houtstanding, ofKey_append, h.pendingOp]
    obtain ⟨hnil, hnone⟩ := inv.unknown k' hlocal
    by_cases hk : k' = k
    · subst hk
      rw [h.known hlocal, hnil, Function.update_self]
      exact ⟨rfl, rfl⟩
    · rw [hother k' hk, hnil, Function.update_of_ne hk]
      exact ⟨rfl, hnone⟩
  · intro k' hpending
    rw [h.pendingOp] at hpending
    by_cases hk : k' = k
    · rw [hk, Function.update_self] at hpending
      exact absurd rfl hpending
    · rw [Function.update_of_ne hk] at hpending
      exact h.scheduled k' hk (inv.scheduled k' hpending)
  · intro k' hpending c hc hkey
    rw [h.pendingOp] at hpending
    by_cases hk : k' = k
    · rw [hk, Function.update_self] at hpending
      cases hpending
    · rw [Function.update_of_ne hk] at hpending
      rw [h.queue] at hc
      rcases List.mem_append.1 hc with hc | hc
      · exact inv.inserts k' hpending c hc hkey
      · exact absurd (hkey.symm.trans (h.key c hc)) hk
  · intro k' v hv
    rw [h.localView] at hv
    rw [h.me]
    exact inv.locals k' v hv

section

variable {ε : Type} [SyncEntity ε] {now : Time} {store store' : SyncStore ε}
  {queue queue' : List SyncChange}

/-- What the microtask of a store does: it takes the first scheduled entity, forgets its pending
    operation and queues the change that was tracked. -/
theorem runMicrotask_spec (h : SyncState.runMicrotask now store queue = some (store', queue'))
    (hinserts : ∀ id, store.pendingOp id = some .update → ∀ e, store.get id = some e →
      ∀ c ∈ queue, (c.data.kind, c.entityId) = ((SyncEntity.serialize e).kind, id) →
        c.changeType ≠ .insert) :
    ∃ id rest added, store.microtasks = id :: rest ∧ store'.microtasks = rest ∧
      store'.get = store.get ∧
      store'.pendingOp = Function.update store.pendingOp id none ∧ queue' = queue ++ added ∧
      (added = [] ∧ store.tracked id = [] ∨
        ∃ op e, store.get id = some e ∧
          store.tracked id = [queuedChange id op (SyncEntity.serialize e) zeroTime] ∧
          added = [queuedChange id op (SyncEntity.serialize e) now]) := by
  unfold SyncState.runMicrotask at h
  split at h
  · cases h
  · rename_i id rest hmicro
    dsimp only at h
    -- the operation is taken off the tracker, whether or not the entity is there
    have hops : ∀ (s : SyncStore ε), s.pendingOps = store.pendingOps.filter (fun op => op.1 ≠ id) →
        s.pendingOp = Function.update store.pendingOp id none := by
      intro s hs
      funext i
      rw [Function.update_apply]
      unfold SyncStore.pendingOp
      rw [hs]
      unfold find
      rw [List.find?_filter]
      split_ifs with hi
      · rw [Option.map_eq_none_iff, List.find?_eq_none]
        simp [hi]
      · congr 1
        apply List.find?_congr
        intro op _
        by_cases hop : op.1 = i
        · simp [hop, hi]
        · simp [hop]
    split at h
    · rename_i op e hop hget
      obtain ⟨rfl, rfl⟩ := Prod.mk.inj (Option.some.inj h)
      have hnone : coalesceQueuedChange (queuedChange id op (SyncEntity.serialize e) now) queue
          = none := by
        apply coalesceQueuedChange_none
        intro hupdate c hc hkey
        have hop' : op = .update := hupdate
        subst hop'
        exact hinserts id hop e hget c hc hkey
      refine ⟨id, rest, [queuedChange id op (SyncEntity.serialize e) now], hmicro, rfl, rfl,
        hops _ rfl, ?_, .inr ⟨op, e, hget, ?_, rfl⟩⟩
      · unfold queueChange
        rw [hnone]
      · unfold SyncStore.tracked
        rw [hop, hget]
    · rename_i hneither
      obtain ⟨rfl, rfl⟩ := Prod.mk.inj (Option.some.inj h)
      refine ⟨id, rest, [], hmicro, rfl, rfl, hops _ rfl, (List.append_nil _).symm,
        .inl ⟨rfl, ?_⟩⟩
      unfold SyncStore.tracked
      split
      · rename_i op e hop hget
        exact absurd hget (hneither op e hop)
      · rfl

end

/-- The microtask of an entity in its store. -/
theorem StoreStep.microtask {ε : Type} [SyncEntity ε] {kind : EntityKind} {db₀ : Database}
    {s s' : SyncState} {store store' : SyncStore ε} {now : Time}
    (h : StoreStep s s' kind store store') (inv : SyncInvariant db₀ s)
    (hkind : ∀ e : ε, (SyncEntity.serialize e).kind = kind)
    (hrun : SyncState.runMicrotask now store s.queue = some (store', s'.queue)) :
    SyncInvariant db₀ s' := by
  -- an update is not merged into an insert: none of its entity is in the queue
  have hinserts : ∀ id, store.pendingOp id = some .update → ∀ e, store.get id = some e →
      ∀ c ∈ s.queue, (c.data.kind, c.entityId) = ((SyncEntity.serialize e).kind, id) →
        c.changeType ≠ .insert := by
    intro id hop e _ c hc hkey
    rw [hkind] at hkey
    exact inv.inserts (kind, id) ((h.before.pendingOp id).trans hop) c hc hkey
  obtain ⟨id, rest, added, hmicro, hmicro', hget, hop, hqueue, hadded⟩ :=
    runMicrotask_spec hrun hinserts
  have hviews : store'.view = store.view := by
    funext i
    rw [SyncStore.view, SyncStore.view, hget]
  have hconsumed : Consumed s s' (kind, id) added := by
    refine ⟨h.me, hqueue, h.requests, h.server, h.answers, ?_, ?_, ?_, ?_, ?_, ?_, ?_⟩
    · funext key
      obtain ⟨kind', i⟩ := key
      by_cases hk : kind' = kind
      · rw [hk, h.after.view, h.before.view, hviews]
      · exact h.localView _ hk
    · refine update_of_kind h.before.tracked h.after.tracked h.tracked ?_
      funext i
      rw [Function.update_apply, SyncStore.tracked, SyncStore.tracked, hget, hop,
        Function.update_apply]
      split_ifs <;> rfl
    · exact update_of_kind h.before.pendingOp h.after.pendingOp h.pendingOp hop
    · rintro ⟨kind', i⟩ hk hsched
      by_cases hsame : kind' = kind
      · subst hsame
        rw [h.before.scheduled, hmicro] at hsched
        rw [h.after.scheduled, hmicro']
        exact (List.mem_cons.1 hsched).resolve_left fun heq => hk (heq ▸ rfl)
      · exact (h.scheduled (kind', i) hsame).2 hsched
    · intro c hc
      rcases hadded with ⟨rfl, -⟩ | ⟨op, e, -, -, rfl⟩
      · cases hc
      · rw [List.mem_singleton.1 hc]
        exact congrArg (·, id) (hkind e)
    · intro m l hchain
      rw [h.before.tracked] at hchain
      rcases hadded with ⟨rfl, htracked⟩ | ⟨op, e, -, htracked, rfl⟩
      · rwa [htracked] at hchain
      · -- the time at which a change is queued is not part of the chain
        rw [htracked] at hchain
        exact hchain
    · intro hlocal
      rw [h.before.view] at hlocal
      rcases hadded with ⟨rfl, -⟩ | ⟨op, e, he, -, rfl⟩
      · rfl
      · rw [SyncStore.view, he] at hlocal
        cases hlocal
  exact hconsumed.invariant inv

/-! ## Requests -/

section

variable {db₀ : Database} {s s' : SyncState}

/-- When the browser is idle, no edit waits for its microtask. -/
theorem pendingOp_of_idle (inv : SyncInvariant db₀ s) (hidle : s.idle = true)
    (k : EntityKind × String) : s.pendingOp k = none := by
  by_contra hpending
  have hsched := inv.scheduled k hpending
  simp only [SyncState.idle, Bool.and_eq_true, List.isEmpty_iff] at hidle
  obtain ⟨kind, id⟩ := k
  cases kind with
  | workflow =>
      simp only [SyncState.scheduled, hidle.1] at hsched
      cases hsched
  | scenario =>
      simp only [SyncState.scheduled, hidle.2] at hsched
      cases hsched
  | _ => exact hsched

/-- Moving changes between the queue and the requests keeps the invariant, when no edit waits
    for its microtask and the outstanding changes are the same. -/
theorem SyncInvariant.move (inv : SyncInvariant db₀ s) (hidle : s.idle = true)
    {requests : List SyncRequest} {queue : List SyncChange}
    (hrequests : requests = [] ∨ ∃ r, requests = [r] ∧ r.InOrder)
    (hsame : requests.flatMap SyncRequest.outstanding ++ queue = s.outstanding) :
    SyncInvariant db₀ { s with requests := requests, queue := queue } := by
  refine ⟨inv.keyed, hrequests, ?_, ?_, inv.scheduled, ?_, inv.locals, inv.answers⟩
  · intro k
    show (syncLog s.me).Chain _ ((syncLog s.me).ofKey k
      (requests.flatMap SyncRequest.outstanding ++ queue) ++ _) _
    rw [hsame]
    exact inv.leads k
  · intro k hlocal
    show (syncLog s.me).ofKey k (requests.flatMap SyncRequest.outstanding ++ queue) = [] ∧ _
    rw [hsame]
    exact inv.unknown k hlocal
  · intro k hpending
    have hpending' : s.pendingOp k = some .update := hpending
    rw [pendingOp_of_idle inv hidle k] at hpending'
    cases hpending'

theorem flush_invariant (inv : SyncInvariant db₀ s) (h : s.step .flush = some s')
    (hnone : s.requests = []) : SyncInvariant db₀ s' := by
  simp only [SyncState.step, SyncState.flush] at h
  split_ifs at h with hblocked
  simp only [Bool.or_eq_true, Bool.not_eq_true', not_or, Bool.not_eq_false] at hblocked
  rw [← Option.some.inj h]
  refine inv.move hblocked.1 (.inr ⟨_, by rw [hnone]; rfl, rfl, rfl, rfl, ?_, ?_⟩) ?_
  · intro answer hanswer
    cases hanswer
  · intro answer hanswer
    cases hanswer
  · rw [hnone]
    simp [SyncState.outstanding, SyncRequest.outstanding, hnone]

/-- In an orderly run there is one request at most. -/
theorem request_of_get (inv : SyncInvariant db₀ s) {k : Nat} {r : SyncRequest}
    (hget : s.requests[k]? = some r) : s.requests = [r] ∧ k = 0 ∧ r.InOrder := by
  rcases inv.requests with hnone | ⟨r', hone, horder⟩
  · rw [hnone] at hget
    simp at hget
  · rw [hone] at hget ⊢
    cases k with
    | zero =>
        simp only [List.getElem?_cons_zero, Option.some.injEq] at hget
        rw [← hget]
        exact ⟨rfl, rfl, horder⟩
    | succ k => simp at hget

theorem serve_invariant {k : Nat} {clock : Nat → Time} {faults : BatchFaults}
    (inv : SyncInvariant db₀ s) (h : s.step (.serve k clock faults) = some s')
    (horderly : (SyncAction.serve k clock faults).orderly s) : SyncInvariant db₀ s' := by
  simp only [SyncState.step, SyncState.serve] at h
  split at h
  · cases h
  · rename_i r hget
    split_ifs at h with hserved
    rw [← Option.some.inj h]
    have hclean := horderly.2 r hget
    obtain ⟨hone, rfl, horder⟩ := request_of_get inv hget
    have hunserved : r.answer = none := by simpa using hserved
    have houtstanding : s.outstanding = r.sent ++ s.queue := by
      simp [SyncState.outstanding, SyncRequest.outstanding, hone, hunserved, horder.sent]
    have hleads : (syncLog s.me).Leads (serverView s.server) r.sent
        (fun k => (syncLog s.me).ofKey k s.queue ++ s.tracked k) (s.expected db₀) := by
      intro k
      have hold := inv.leads k
      rwa [houtstanding, ofKey_append, List.append_assoc] at hold
    obtain ⟨hconflicts, hmissing, hresult⟩ :=
      processBatch_performs clock horderly.1 inv.keyed hleads.ready hclean
    generalize processBatch clock faults (s.me.toBatch r.sent) s.server = outcome at *
    obtain ⟨answer, db'⟩ := outcome
    dsimp only at hconflicts hmissing hresult ⊢
    have hanswers : ∀ a ∈ s.answers ++ [answer],
        a.conflicts = [] := by
      intro a ha
      rcases List.mem_append.1 ha with ha | ha
      · exact inv.answers a ha
      · rw [List.mem_singleton.1 ha]
        exact hconflicts
    have hset : s.requests.set 0 { r with answer := some answer }
        = [{ r with answer := some answer }] := by
      rw [hone]
      rfl
    have horder' : SyncRequest.InOrder { r with answer := some answer } := by
      refine ⟨horder.sent, horder.repaired, horder.abandoned, ?_, ?_⟩
      · intro a hanswer hsuccess
        rw [← Option.some.inj hanswer] at hsuccess ⊢
        rcases hresult with ⟨hfail, -⟩ | ⟨-, hnone, -⟩
        · rw [hfail] at hsuccess
          cases hsuccess
        · exact hnone
      · intro a hanswer
        rw [← Option.some.inj hanswer]
        exact hmissing
    rw [hset]
    rcases hresult with ⟨hfail, hback⟩ | ⟨hok, -, hkeyed, hperformed⟩
    · -- the batch was rolled back: nothing changed, and its changes are still outstanding
      have hsame : ∀ k, (syncLog s.me).ofKey k
          ([{ r with answer := some answer }].flatMap SyncRequest.outstanding ++ s.queue)
            = (syncLog s.me).ofKey k s.outstanding := by
        intro k
        simp [SyncRequest.outstanding, hfail, houtstanding, ← horder.sent]
      refine ⟨?_, .inr ⟨_, rfl, horder'⟩, ?_, ?_, inv.scheduled, inv.inserts, inv.locals,
        hanswers⟩
      · rw [hback]
        exact inv.keyed
      · intro k
        have hold := inv.leads k
        rw [← hsame] at hold
        rw [hback]
        exact hold
      · intro k hlocal
        have hold := inv.unknown k hlocal
        rw [← hsame] at hold
        exact hold
    · -- the batch was performed: what is outstanding is the queue
      have hsame : [{ r with answer := some answer }].flatMap SyncRequest.outstanding ++ s.queue
          = s.queue := by
        simp [SyncRequest.outstanding, hok]
      refine ⟨hkeyed, .inr ⟨_, rfl, horder'⟩, ?_, ?_, inv.scheduled, inv.inserts, inv.locals,
        hanswers⟩
      · intro k
        have hnew := hperformed _ _ hleads k
        rw [show (syncLog s.me).ofKey k ([] : List SyncChange) = [] from rfl,
          List.nil_append] at hnew
        show (syncLog s.me).Chain _ ((syncLog s.me).ofKey k (_ ++ s.queue) ++ _) _
        rw [hsame]
        exact hnew
      · intro k hlocal
        show (syncLog s.me).ofKey k (_ ++ s.queue) = [] ∧ _
        rw [hsame]
        have hold := inv.unknown k hlocal
        rw [houtstanding, ofKey_append, List.append_eq_nil_iff] at hold
        exact ⟨hold.1.2, hold.2⟩

/-- Errors that name no missing entity need no repair. -/
theorem repair_none (batch : List SyncChange) {errors : List SyncError}
    (h : ∀ e ∈ errors, isMissingError e = false) :
    repairMissingEntityUpdates batch errors = none := by
  have hmissing : errors.filter isMissingError = [] := by
    rw [List.filter_eq_nil_iff]
    intro e he
    rw [h e he]
    simp
  simp [repairMissingEntityUpdates, hmissing]

theorem respond_invariant {k : Nat} (inv : SyncInvariant db₀ s)
    (h : s.step (.respond k) = some s') : SyncInvariant db₀ s' := by
  simp only [SyncState.step, SyncState.respond] at h
  split at h
  · cases h
  · rename_i r hget
    obtain ⟨hone, rfl, horder⟩ := request_of_get inv hget
    split at h
    · cases h
    · rename_i answer hanswer
      have hrepair := repair_none r.batch (horder.missing answer hanswer)
      have herase : s.requests.eraseIdx 0 = [] := by
        rw [hone]
        rfl
      cases hidle : s.idle with
      | false => simp [hidle] at h
      | true =>
          simp only [hidle, horder.abandoned, horder.repaired, hrepair, herase, Bool.not_true,
            Bool.or_self, Bool.false_eq_true, if_false, Option.some.injEq] at h
          rw [← h]
          cases hsuccess : answer.success with
          | true =>
              have hnone := horder.success answer hanswer hsuccess
              rw [hnone]
              refine inv.move hidle (.inl rfl) ?_
              simp [SyncState.outstanding, SyncRequest.outstanding, hone, hanswer, hsuccess]
          | false =>
              refine inv.move hidle (.inl rfl) ?_
              simp [SyncState.outstanding, SyncRequest.outstanding, hone, hanswer, hsuccess,
                horder.sent]

theorem lose_invariant {k : Nat} (inv : SyncInvariant db₀ s)
    (h : s.step (.lose k) = some s') : SyncInvariant db₀ s' := by
  simp only [SyncState.step, SyncState.lose] at h
  split at h
  · cases h
  · rename_i r hget
    obtain ⟨hone, rfl, horder⟩ := request_of_get inv hget
    split_ifs at h with hblocked
    simp only [Bool.or_eq_true, Bool.not_eq_true', not_or, Bool.not_eq_false,
      Bool.not_eq_true, Option.isSome_eq_false_iff, Option.isNone_iff_eq_none] at hblocked
    rw [← Option.some.inj h, hone]
    refine inv.move hblocked.1.1 (.inl rfl) ?_
    simp [SyncState.outstanding, SyncRequest.outstanding, hone, hblocked.2]

theorem timeout_invariant {k : Nat} (inv : SyncInvariant db₀ s)
    (h : s.step (.timeout k) = some s') (horderly : (SyncAction.timeout k).orderly s) :
    SyncInvariant db₀ s' := by
  simp only [SyncState.step, SyncState.timeout] at h
  split at h
  · cases h
  · rename_i r hget
    obtain ⟨answer, hanswer, hfail⟩ := horderly r hget
    obtain ⟨hone, rfl, horder⟩ := request_of_get inv hget
    split_ifs at h with hblocked hanswered
    · simp only [Bool.or_eq_true, Bool.not_eq_true', not_or, Bool.not_eq_false] at hblocked
      rw [← Option.some.inj h, hone]
      refine inv.move hblocked.1 (.inl rfl) ?_
      simp [SyncState.outstanding, SyncRequest.outstanding, hone, hanswer, hfail]
    · rw [hanswer] at hanswered
      exact absurd rfl hanswered

/-- **Every orderly step keeps the invariant.** -/
theorem step_invariant {action : SyncAction} (inv : SyncInvariant db₀ s)
    (hstep : s.step action = some s') (horderly : action.orderly s) : SyncInvariant db₀ s' := by
  cases action with
  | createWorkflow id name description now =>
      rw [← Option.some.inj hstep]
      exact ((storeStep_workflows s _ s.queue).edited (e := newWorkflow s.me id name description now)
        rfl horderly.1.2.2).insert inv horderly.1 rfl rfl rfl rfl horderly.2
  | updateWorkflowName id name now =>
      rw [← Option.some.inj hstep]
      exact (storeStep_workflows s _ s.queue).update rfl inv horderly.1 horderly.2 (fun _ => rfl)
        (fun _ => rfl) (fun _ hpos => versionOrOne_succ hpos) (fun _ => rfl) (fun _ => rfl)
        (fun _ hdated => if_neg hdated)
  | updateWorkflowGraph id nodes edges customTestOrder now =>
      rw [← Option.some.inj hstep]
      exact (storeStep_workflows s _ s.queue).update rfl inv horderly.1 horderly.2 (fun _ => rfl)
        (fun _ => rfl) (fun _ hpos => versionOrOne_succ hpos) (fun _ => rfl) (fun _ => rfl)
        (fun _ hdated => if_neg hdated)
  | deleteWorkflow id now =>
      rw [← Option.some.inj hstep]
      exact (storeStep_workflows s _ s.queue).delete rfl inv horderly (fun _ => rfl) (fun _ => rfl)
        (fun _ => rfl) (fun _ => rfl) (fun _ => rfl) fun _ => rfl
  | createScenario id workflowId name now =>
      obtain ⟨⟨hfresh, hdated⟩, w, hw⟩ := horderly
      have hview : s.localView (.workflow, workflowId)
          = some (.workflow (some w.serialize.content)) := by
        simp only [SyncState.localView, SyncStore.view, hw]
        rfl
      have hproject : w.projectId = s.me.projectId :=
        Option.some.inj (inv.locals _ _ hview).2.1
      rw [← Option.some.inj hstep]
      refine ((storeStep_scenarios s _ s.queue).edited (e := newScenario s.me id _ workflowId name now)
        rfl hfresh.2.2).insert inv hfresh rfl rfl rfl ?_ hdated
      rw [hw]
      exact congrArg some hproject
  | updateScenario id updates now =>
      obtain ⟨e, hget, -⟩ := (hasStore_scenarios s).exists_of_editable horderly.1
      simp only [SyncState.step, hget, Option.isNone_some, Bool.false_eq_true, if_false] at hstep
      rw [← Option.some.inj hstep]
      exact (storeStep_scenarios s _ s.queue).update rfl inv horderly.1 horderly.2 (fun _ => rfl)
        (fun _ => rfl) (fun _ hpos => versionOrOne_succ hpos) (fun _ => rfl) (fun _ => rfl)
        (fun _ hdated => if_neg hdated)
  | deleteScenario id now =>
      obtain ⟨e, hget, -⟩ := (hasStore_scenarios s).exists_of_editable horderly
      simp only [SyncState.step, hget, Option.isNone_some, Bool.false_eq_true, if_false] at hstep
      rw [← Option.some.inj hstep]
      exact (storeStep_scenarios s _ s.queue).delete rfl inv horderly (fun _ => rfl) (fun _ => rfl)
        (fun _ => rfl) (fun _ => rfl) (fun _ => rfl) fun _ => rfl
  | workflowMicrotask now =>
      obtain ⟨⟨store', queue'⟩, hrun, rfl⟩ := Option.map_eq_some_iff.1 hstep
      exact (storeStep_workflows s store' queue').microtask inv (fun _ => rfl) hrun
  | scenarioMicrotask now =>
      obtain ⟨⟨store', queue'⟩, hrun, rfl⟩ := Option.map_eq_some_iff.1 hstep
      exact (storeStep_scenarios s store' queue').microtask inv (fun _ => rfl) hrun
  | flush => exact flush_invariant inv hstep horderly
  | serve k clock faults => exact serve_invariant inv hstep horderly
  | respond k => exact respond_invariant inv hstep
  | lose k => exact lose_invariant inv hstep
  | timeout k => exact timeout_invariant inv hstep horderly

end

/-! ## Runs -/

/-- A step of the client, the network or the server. -/
def clientStep (s : SyncState) (action : SyncAction) (s' : SyncState) : Prop :=
  s.step action = some s'

/-- A client that has just loaded its project: nothing is pending, and what it has is what the
    server has, with a version and a creation time. -/
structure SyncStart (s : SyncState) : Prop where
  keyed : KeyedEntities s.server
  queue : s.queue = []
  requests : s.requests = []
  answers : s.answers = []
  pendingOps : s.workflows.pendingOps = [] ∧ s.scenarios.pendingOps = []
  agree : ∀ k v, s.localView k = some v → serverView s.server k = some v
  locals : ∀ k v, s.localView k = some v →
    1 ≤ v.version ∧ v.projectId = some s.me.projectId ∧ v.createdAt ≠ zeroTime

/-- Nothing is queued, on its way or waiting for its microtask. -/
def SyncState.drained (s : SyncState) : Prop := s.idle = true ∧ s.queue = [] ∧ s.requests = []

/-- The server has the client's entities, and has kept every other row. -/
def SyncState.agreesWith (db₀ : Database) (s : SyncState) : Prop :=
  (∀ k v, s.localView k = some v → serverView s.server k = some v) ∧
    ∀ k, s.localView k = none → serverView s.server k = serverView db₀ k

theorem SyncStart.pendingOp {s : SyncState} (start : SyncStart s) (k : EntityKind × String) :
    s.pendingOp k = none := by
  obtain ⟨hw, hs⟩ := start.pendingOps
  obtain ⟨kind, id⟩ := k
  cases kind with
  | workflow => simp [SyncState.pendingOp, SyncStore.pendingOp, hw, find]
  | scenario => simp [SyncState.pendingOp, SyncStore.pendingOp, hs, find]
  | _ => rfl

theorem SyncStart.invariant {s : SyncState} (start : SyncStart s) :
    SyncInvariant s.server s := by
  have houtstanding : s.outstanding = [] := by
    simp [SyncState.outstanding, start.requests, start.queue]
  refine ⟨start.keyed, .inl start.requests, ?_, ?_, ?_, ?_, start.locals, ?_⟩
  · intro k
    rw [houtstanding, tracked_of_pendingOp (start.pendingOp k)]
    show serverView s.server k = s.expected s.server k
    cases hlocal : s.localView k with
    | none => simp [SyncState.expected, hlocal]
    | some v => rw [expected_of_localView _ hlocal, start.agree k v hlocal]
  · intro k _
    rw [houtstanding]
    exact ⟨rfl, start.pendingOp k⟩
  · intro k hpending
    exact absurd (start.pendingOp k) hpending
  · intro k hpending
    rw [start.pendingOp k] at hpending
    cases hpending
  · rw [start.answers]
    simp

/-- A drained client has nothing between its rows and the server's. -/
theorem SyncInvariant.agrees {db₀ : Database} {s : SyncState} (inv : SyncInvariant db₀ s)
    (hdrained : s.drained) : s.agreesWith db₀ := by
  obtain ⟨hidle, hqueue, hrequests⟩ := hdrained
  have houtstanding : s.outstanding = [] := by
    simp [SyncState.outstanding, hrequests, hqueue]
  have hview : ∀ k, serverView s.server k = s.expected db₀ k := by
    intro k
    have hchain := inv.leads k
    rw [houtstanding, tracked_of_pendingOp (pendingOp_of_idle inv hidle k)] at hchain
    exact hchain
  refine ⟨fun k v hv => ?_, fun k hnone => ?_⟩
  · rw [hview, expected_of_localView db₀ hv]
  · rw [hview, SyncState.expected, hnone]
    rfl

/-- The actions of a list, one after the other. -/
def SyncState.run (s : SyncState) : List SyncAction → Option SyncState
  | [] => some s
  | action :: rest => (s.step action).bind fun s' => s'.run rest

theorem steps_of_run {s s' : SyncState} {actions : List SyncAction}
    (h : s.run actions = some s') : Trace.Steps clientStep s actions s' := by
  induction actions generalizing s with
  | nil =>
      rw [← Option.some.inj h]
      exact .nil s
  | cons action rest ih =>
      obtain ⟨s₁, hstep, hrest⟩ := Option.bind_eq_some_iff.1 h
      exact .cons hstep (ih hrest)

/-- A client and a server without any entity. -/
def emptyClient : SyncState where
  me := { userId := "user", clientId := "client", projectId := "project" }

theorem emptyClient_start : SyncStart emptyClient where
  keyed := ⟨keyed_nil, keyed_nil⟩
  queue := rfl
  requests := rfl
  answers := rfl
  pendingOps := ⟨rfl, rfl⟩
  agree := by
    rintro ⟨kind, id⟩ v hv
    cases kind <;> cases hv
  locals := by
    rintro ⟨kind, id⟩ v hv
    cases kind <;> cases hv

/-- The connection is lost before the commit. -/
def lostConnection : BatchFaults where
  commit := some (.text "invalid connection")

/-- A workflow is created and renamed before the first flush: the update takes the insert's place
    in the queue. -/
def createdAndRenamed : List SyncAction :=
  [.createWorkflow "workflow" "draft" "" 1, .workflowMicrotask 1,
    .updateWorkflowName "workflow" "named" 2, .workflowMicrotask 2,
    .flush, .serve 0 (fun _ => 3) {}, .respond 0]

/-- It is renamed once more. -/
def renamedAgain : List SyncAction :=
  createdAndRenamed ++ [.updateWorkflowName "workflow" "final" 4, .workflowMicrotask 4,
    .flush, .serve 0 (fun _ => 5) {}]

end TokyoTester
