import TokyoTester.Library.Parallel
import TokyoTester.Provider.Generic
import TokyoTester.Tests.Validated

set_option autoImplicit false

/-! # Containers that nobody terminates

Docker knows every container that was started. The goroutines of a level hand theirs over to the
orchestrator, which terminates it in `CleanUp`, or terminate it themselves. A call for the host, for
a mapped port or for the termination of a container ends the work of its goroutine when it fails,
and the container is then in nobody's hands. -/

namespace TokyoTester

namespace Provider

/-! ## Docker -/

/-- The containers of one service, by their indices: how many were started, which were terminated,
    and for which a provider's call for the host, a port or the termination failed. -/
structure Containers where
  started : ℕ := 0
  terminated : List ℕ := []
  refused : List ℕ := []
deriving DecidableEq, Repr, Inhabited

/-- What the goroutines of a level share. -/
structure Docker where
  services : String → Containers := fun _ => {}
  /-- `o.containers`. -/
  containers : GoMap Container := .empty
  registry : RuntimeRegistry := .empty
  /-- The services whose channels are closed. -/
  closed : List String := []

/-- How a call ends. -/
inductive Answer where
  | done (text : String) (exitCode : Int)
  /-- A container was started, but its start counts as failed. -/
  | unready (error : String)
  | failed (error : String)

def Answer.result {α : Type} (answer : Answer) (ok : String → Int → α) : Except String α :=
  match answer with
  | .done text exitCode => .ok (ok text exitCode)
  | .unready error | .failed error => .error error

def Answer.isDone : Answer → Bool
  | .done _ _ => true
  | _ => false

namespace Docker

/-- The containers of a service change. -/
def update (d : Docker) (service : String) (f : Containers → Containers) : Docker :=
  { d with services := fun s => if s = service then f (d.services s) else d.services s }

/-- A call of a provider for the container failed. -/
def refuse (d : Docker) (container : Container) : Docker :=
  d.update container.service fun s => { s with refused := s.refused ++ [container.index] }

/-- The container is gone. -/
def remove (d : Docker) (container : Container) : Docker :=
  d.update container.service fun s => { s with terminated := s.terminated ++ [container.index] }

/-- One container more. -/
def start (d : Docker) (service : String) : Docker :=
  d.update service fun s => { s with started := s.started + 1 }

/-- The effect of a call. -/
def effect (answer : Answer) (d : Docker) : ContainerOp → Docker
  | .genericContainer req =>
    match answer with
    | .done _ _ | .unready _ => d.start req.networkAlias
    | .failed _ => d
  | .host container | .mappedPort container _ =>
    if answer.isDone then d else d.refuse container
  | .terminate container => if answer.isDone then d.remove container else d.refuse container
  | .keep service container => { d with containers := GoMap.set d.containers service container }
  | .register runtime => { d with registry := GoMap.set d.registry runtime.name runtime }
  | .closeReady service => { d with closed := d.closed ++ [service] }
  | .logs _ | .exec _ _ | .awaitReady _ | .runtimes => d

/-- The reply to a call. -/
def reply (answer : Answer) (d : Docker) : (op : ContainerOp) → op.Reply
  | .genericContainer req =>
    let container : Container := ⟨req.networkAlias, (d.services req.networkAlias).started⟩
    match answer with
    | .done _ _ => .started container
    | .unready error => .failed (some container) error
    | .failed error => .failed none error
  | .logs _ | .host _ | .mappedPort _ _ => answer.result fun text _ => text
  | .exec _ _ => answer.result fun text exitCode => (exitCode, text)
  | .terminate _ => answer.result fun _ _ => ()
  | .runtimes => d.registry
  | .awaitReady _ | .keep _ _ | .register _ | .closeReady _ => ()

def handle (op : ContainerOp) (answer : Answer) (d : Docker) : op.Reply × Docker :=
  (d.reply answer op, d.effect answer op)

/-- A goroutine that waits for a service goes on when its channel is closed. -/
def Answers (op : ContainerOp) (_ : Answer) (d : Docker) : Prop :=
  match op with
  | .awaitReady service => service ∈ d.closed
  | _ => True

instance (op : ContainerOp) (answer : Answer) (d : Docker) : Decidable (Answers op answer d) := by
  unfold Answers
  cases op <;> infer_instance

/-- `CleanUp` when every termination succeeds. -/
def cleanUp (d : Docker) : Docker :=
  d.containers.entries.foldl (fun d e => d.remove e.2) d

/-! ## One service -/

/-- What is known of the containers of a service while its goroutine holds one of them, or none:
    the others are terminated, but for those that a call failed for. -/
structure Settled (service : String) (held : Option ℕ) (d : Docker) : Prop where
  terminated : ∀ k ∈ (d.services service).terminated, k < (d.services service).started
  refused : ∀ k ∈ (d.services service).refused, k < (d.services service).started
  accounted : ∀ k < (d.services service).started, held ≠ some k →
    (k ∈ (d.services service).terminated ↔ k ∉ (d.services service).refused)
  held : ∀ k, held = some k → k < (d.services service).started ∧
    k ∉ (d.services service).terminated ∧ k ∉ (d.services service).refused
  unowned : d.containers.get? service = none

/-- The goroutine of a service is done: its containers are terminated or with the orchestrator, but
    for those that a call failed for. -/
structure Accounted (service : String) (d : Docker) : Prop where
  refused : ∀ k ∈ (d.services service).refused, k < (d.services service).started
  accounted : ∀ k < (d.services service).started,
    (k ∈ (d.services service).terminated ∨ d.containers.get? service = some ⟨service, k⟩) ↔
      k ∉ (d.services service).refused
  owned : ∀ container, d.containers.get? service = some container → container.service = service

/-- Two states agree about a service. -/
structure Agree (service : String) (d d' : Docker) : Prop where
  services : d'.services service = d.services service
  containers : d'.containers.get? service = d.containers.get? service

variable {service other : String} {d d' d'' : Docker} {held : Option ℕ} {k : ℕ}

theorem Agree.refl (service : String) (d : Docker) : Agree service d d := ⟨rfl, rfl⟩

theorem Agree.trans (h : Agree service d d') (h' : Agree service d' d'') : Agree service d d'' :=
  ⟨h'.services.trans h.services, h'.containers.trans h.containers⟩

theorem Settled.of_agree (h : Settled service held d) (hagree : Agree service d d') :
    Settled service held d' := by
  obtain ⟨hservices, hcontainers⟩ := hagree
  constructor
  · rw [hservices]; exact h.terminated
  · rw [hservices]; exact h.refused
  · rw [hservices]; exact h.accounted
  · rw [hservices]; exact h.held
  · rw [hcontainers]; exact h.unowned

theorem Accounted.of_agree (h : Accounted service d) (hagree : Agree service d d') :
    Accounted service d' := by
  obtain ⟨hservices, hcontainers⟩ := hagree
  constructor
  · rw [hservices]; exact h.refused
  · rw [hservices, hcontainers]; exact h.accounted
  · rw [hcontainers]; exact h.owned

@[simp] theorem update_services_self (d : Docker) (service : String) (f : Containers → Containers) :
    (d.update service f).services service = f (d.services service) := if_pos rfl

theorem update_agree (d : Docker) (f : Containers → Containers) (h : other ≠ service) :
    Agree other d (d.update service f) := ⟨if_neg h, rfl⟩

theorem agree_start (d : Docker) (h : other ≠ service) : Agree other d (d.start service) :=
  update_agree d _ h

/-- The container in hand is terminated. -/
theorem Settled.remove (h : Settled service (some k) d) :
    Settled service none (d.remove ⟨service, k⟩) := by
  obtain ⟨hk, hkTerminated, hkRefused⟩ := h.held k rfl
  constructor
  · intro j hj
    rw [Docker.remove, update_services_self, List.mem_append, List.mem_singleton] at hj
    rw [Docker.remove, update_services_self]
    rcases hj with hj | rfl
    · exact h.terminated j hj
    · exact hk
  · rw [Docker.remove, update_services_self]
    exact h.refused
  · intro j hj _
    rw [Docker.remove, update_services_self] at hj ⊢
    rw [List.mem_append, List.mem_singleton]
    by_cases hjk : j = k
    · subst hjk
      exact iff_of_true (.inr rfl) hkRefused
    · rw [or_iff_left hjk]
      exact h.accounted j hj fun heq => hjk (Option.some.inj heq).symm
  · exact fun j hj => absurd hj (by simp)
  · exact h.unowned

/-- A call for the container in hand failed: it is in nobody's hands. -/
theorem Settled.refuse (h : Settled service (some k) d) :
    Settled service none (d.refuse ⟨service, k⟩) := by
  obtain ⟨hk, hkTerminated, hkRefused⟩ := h.held k rfl
  constructor
  · rw [Docker.refuse, update_services_self]
    exact h.terminated
  · intro j hj
    rw [Docker.refuse, update_services_self, List.mem_append, List.mem_singleton] at hj
    rw [Docker.refuse, update_services_self]
    rcases hj with hj | rfl
    · exact h.refused j hj
    · exact hk
  · intro j hj _
    rw [Docker.refuse, update_services_self] at hj ⊢
    rw [List.mem_append, List.mem_singleton]
    by_cases hjk : j = k
    · subst hjk
      exact iff_of_false hkTerminated (not_not.2 (.inr rfl))
    · rw [or_iff_left hjk]
      exact h.accounted j hj fun heq => hjk (Option.some.inj heq).symm
  · exact fun j hj => absurd hj (by simp)
  · exact h.unowned

/-- A container is started. -/
theorem Settled.start (h : Settled service none d) :
    Settled service (some (d.services service).started) (d.start service) := by
  have hlt : ∀ k < (d.services service).started, k < (d.services service).started + 1 :=
    fun _ => Nat.lt_succ_of_lt
  constructor
  · rw [Docker.start, update_services_self]
    exact fun j hj => hlt j (h.terminated j hj)
  · rw [Docker.start, update_services_self]
    exact fun j hj => hlt j (h.refused j hj)
  · intro j hj hne
    rw [Docker.start, update_services_self] at hj ⊢
    have hj' : j ≠ (d.services service).started := fun heq => hne (congrArg some heq.symm)
    exact h.accounted j (by dsimp only at hj; omega) (by simp)
  · rintro j hj
    obtain rfl := Option.some.inj hj
    rw [Docker.start, update_services_self]
    exact ⟨Nat.lt_succ_self _, fun hmem => absurd (h.terminated _ hmem) (lt_irrefl _),
      fun hmem => absurd (h.refused _ hmem) (lt_irrefl _)⟩
  · exact h.unowned

/-- The container in hand is handed over. -/
theorem Settled.keep (h : Settled service (some k) d) :
    Accounted service { d with containers := GoMap.set d.containers service ⟨service, k⟩ } := by
  obtain ⟨hk, hkTerminated, hkRefused⟩ := h.held k rfl
  have hget : (GoMap.set d.containers service ⟨service, k⟩).get? service = some ⟨service, k⟩ := by
    rw [get?_set, if_pos rfl]
  constructor
  · exact h.refused
  · intro j hj
    dsimp only
    rw [hget]
    by_cases hjk : j = k
    · subst hjk
      exact iff_of_true (.inr rfl) hkRefused
    · rw [or_iff_left fun heq => hjk (congrArg Container.index (Option.some.inj heq)).symm]
      exact h.accounted j hj fun heq => hjk (Option.some.inj heq).symm
  · intro container hcontainer
    obtain rfl := Option.some.inj (hget.symm.trans hcontainer)
    rfl

theorem Settled.accounted_none (h : Settled service none d) : Accounted service d := by
  refine ⟨h.refused, fun j hj => ?_, fun container hcontainer => ?_⟩
  · rw [h.unowned, or_iff_left (by simp)]
    exact h.accounted j hj (by simp)
  · rw [h.unowned] at hcontainer
    cases hcontainer

/-! ## One goroutine -/

/-- The setting of the goroutine of a service: the others leave its service alone, and it leaves
    theirs. A number past the end of the level has no service. -/
def setting (mine : Option String) : Setting ContainerOp ContainerOp.Reply Docker Answer where
  handle := handle
  rely d d' := ∀ service, mine = some service → Agree service d d'
  guard := Answers
  guar d d' := ∀ service, mine ≠ some service → Agree service d d'
  rely_refl d service _ := Agree.refl service d
  rely_trans h h' service hmine := (h service hmine).trans (h' service hmine)

/-- The goroutine of a service has a container in hand, or none. -/
def InHand (service : String) (hand : Option Container) (d : Docker) : Prop :=
  (∀ container ∈ hand, container.service = service) ∧ Settled service (hand.map (·.index)) d

theorem Agree.inHand {hand : Option Container} (hagree : Agree service d d')
    (h : InHand service hand d) : InHand service hand d' := ⟨h.1, h.2.of_agree hagree⟩

theorem inHand_none (h : Settled service none d) : InHand service none d := ⟨by simp, h⟩

/-- The container that a start leaves in hand. -/
def StartResult.hand : StartResult → Option Container
  | .started container => some container
  | .failed container _ => container

/-- The container that a goroutine keeps in hand when what it did with it succeeded. -/
def handAfter {α : Type} (container : Container) : Except String α → Option Container
  | .ok _ => some container
  | .error _ => none

section Goroutine

variable {α : Type} {held : Option Container} {container : Container}

/-- The rule for a call: it leaves the other services alone, and what it leaves in hand. -/
theorem safe_perform (op : ContainerOp) (handOf : op.Reply → Option Container)
    (hcall : ∀ answer d', InHand service held d' →
      InHand service (handOf (reply answer d' op)) (effect answer d' op))
    (hagree : ∀ answer d' other, InHand service held d' → other ≠ service →
      Agree other d' (effect answer d' op)) (h : InHand service held d) :
    (setting (some service)).Safe (fun r => InHand service (handOf r)) (call op) d := by
  refine Setting.Safe.perform fun d' hd' answer _ => ?_
  have h' := (hd' service rfl).inHand h
  refine ⟨fun other hother => hagree answer d' other h' fun heq => hother (congrArg _ heq.symm), ?_⟩
  exact fun d'' hd'' => (hd'' service rfl).inHand (hcall answer d' h')

/-- A call that changes nothing of any service. -/
theorem safe_call {op : ContainerOp} (hagree : ∀ answer d other, Agree other d (effect answer d op))
    (h : InHand service held d) :
    (setting (some service)).Safe (fun _ => InHand service held) (call op) d :=
  safe_perform op (fun _ => held) (fun answer d' h' => (hagree answer d' service).inHand h')
    (fun answer d' other _ _ => hagree answer d' other) h

theorem safe_pure (handOf : α → Option Container) {a : α} (h : InHand service (handOf a) d) :
    (setting (some service)).Safe (fun a => InHand service (handOf a)) (pure a) d :=
  Setting.Safe.pure fun _ hd' => (hd' service rfl).inHand h

/-! ## Calls for the container in hand -/

theorem InHand.cases (h : InHand service (some container) d) :
    ∃ k, container = ⟨service, k⟩ ∧ Settled service (some k) d := by
  obtain ⟨owner, k⟩ := container
  obtain rfl : owner = service := h.1 _ rfl
  exact ⟨k, rfl, h.2⟩

/-- When a call for it fails, the container is in nobody's hands. -/
theorem InHand.refuse (h : InHand service (some container) d) :
    InHand service none (d.refuse container) := by
  obtain ⟨k, rfl, hsettled⟩ := h.cases
  exact inHand_none hsettled.refuse

theorem InHand.remove (h : InHand service (some container) d) :
    InHand service none (d.remove container) := by
  obtain ⟨k, rfl, hsettled⟩ := h.cases
  exact inHand_none hsettled.remove

theorem InHand.agree_refuse (h : InHand service (some container) d) (hother : other ≠ service) :
    Agree other d (d.refuse container) := update_agree d _ (h.1 container rfl ▸ hother)

theorem InHand.agree_remove (h : InHand service (some container) d) (hother : other ≠ service) :
    Agree other d (d.remove container) := update_agree d _ (h.1 container rfl ▸ hother)

theorem safe_terminate (h : InHand service (some container) d) :
    (setting (some service)).Safe (fun _ => InHand service none) (call (.terminate container)) d := by
  refine safe_perform (.terminate container) (fun _ => none) (fun answer d' h' => ?_)
    (fun answer d' other h' hother => ?_) h
  · cases answer with
    | done text exitCode => exact h'.remove
    | unready error => exact h'.refuse
    | failed error => exact h'.refuse
  · cases answer with
    | done text exitCode => exact h'.agree_remove hother
    | unready error => exact h'.agree_refuse hother
    | failed error => exact h'.agree_refuse hother

theorem safe_host (h : InHand service (some container) d) :
    (setting (some service)).Safe (fun r => InHand service (handAfter container r))
      (call (.host container)) d := by
  refine safe_perform (.host container) (handAfter container) (fun answer d' h' => ?_)
    (fun answer d' other h' hother => ?_) h
  · cases answer with
    | done text exitCode => exact h'
    | unready error => exact h'.refuse
    | failed error => exact h'.refuse
  · cases answer with
    | done text exitCode => exact Agree.refl other d'
    | unready error => exact h'.agree_refuse hother
    | failed error => exact h'.agree_refuse hother

theorem safe_mappedPort (port : String) (h : InHand service (some container) d) :
    (setting (some service)).Safe (fun r => InHand service (handAfter container r))
      (call (.mappedPort container port)) d := by
  refine safe_perform (.mappedPort container port) (handAfter container) (fun answer d' h' => ?_)
    (fun answer d' other h' hother => ?_) h
  · cases answer with
    | done text exitCode => exact h'
    | unready error => exact h'.refuse
    | failed error => exact h'.refuse
  · cases answer with
    | done text exitCode => exact Agree.refl other d'
    | unready error => exact h'.agree_refuse hother
    | failed error => exact h'.agree_refuse hother

theorem safe_genericContainer {req : ContainerRequest} (hreq : req.networkAlias = service)
    (h : InHand service none d) :
    (setting (some service)).Safe (fun r => InHand service (StartResult.hand r))
      (call (.genericContainer req)) d := by
  subst hreq
  have hstarted {d : Docker} (h : InHand req.networkAlias none d) : InHand req.networkAlias
      (some ⟨req.networkAlias, (d.services req.networkAlias).started⟩)
      (d.start req.networkAlias) := ⟨by simp, h.2.start⟩
  refine safe_perform (.genericContainer req) StartResult.hand (fun answer d' h' => ?_)
    (fun answer d' other h' hother => ?_) h
  · cases answer with
    | done text exitCode => exact hstarted h'
    | unready error => exact hstarted h'
    | failed error => exact h'
  · cases answer with
    | done text exitCode => exact agree_start d' hother
    | unready error => exact agree_start d' hother
    | failed error => exact Agree.refl other d'

/-! ## The functions of the provider -/

theorem safe_describeAndCleanup {startErr : String}
    (h : InHand service held d) :
    (setting (some service)).Safe (fun _ => InHand service none)
      (describeAndCleanupFailedContainer held startErr) d := by
  cases held with
  | none => exact safe_pure (fun _ => none) h
  | some container =>
      refine Setting.Safe.bind (safe_call (fun _ d _ => Agree.refl _ d) h) fun logs d' hd' => ?_
      refine Setting.Safe.bind (safe_terminate hd') fun _ d'' hd'' => ?_
      cases logs with
      | ok raw => exact safe_pure (fun _ => none) hd''
      | error e => exact safe_pure (fun _ => none) hd''

/-- The container that an attempt leaves in hand. -/
def created : Except String Container → Option Container
  | .ok container => some container
  | .error _ => none

theorem safe_createOriginal {req : ContainerRequest} (hreq : req.networkAlias = service)
    (h : InHand service none d) :
    (setting (some service)).Safe (fun r => InHand service (created r)) (createOriginal req) d := by
  refine Setting.Safe.bind (safe_genericContainer hreq h) fun started d' hd' => ?_
  cases started with
  | started container => exact safe_pure created hd'
  | failed container error =>
      refine Setting.Safe.bind (safe_describeAndCleanup hd') fun described d'' hd'' => ?_
      exact safe_pure created hd''

theorem safe_createContainerWithFallback {env : Environment} {cfg : ServiceConfig}
    {req : ContainerRequest} (hreq : req.networkAlias = service) (h : InHand service none d) :
    (setting (some service)).Safe (fun r => InHand service (created r))
      (createContainerWithFallback env cfg req) d := by
  unfold createContainerWithFallback
  cases cfg.registry with
  | none => exact safe_createOriginal hreq h
  | some registry =>
      dsimp only
      split_ifs with hurl
      · exact safe_createOriginal hreq h
      · refine Setting.Safe.bind (safe_genericContainer hreq h) fun started d' hd' => ?_
        cases started with
        | started container => exact safe_pure created hd'
        | failed container error =>
            refine Setting.Safe.bind (safe_describeAndCleanup hd') fun _ d'' hd'' => ?_
            exact safe_createOriginal hreq hd''

/-- The container is in hand after the init scripts when none of them failed. -/
def handAfterScripts (container : Container) : Option String → Option Container
  | none => some container
  | some _ => none

theorem safe_runInitScripts {scripts : List String} :
    ∀ {i : ℕ} {d : Docker}, InHand service (some container) d →
      (setting (some service)).Safe (fun r => InHand service (handAfterScripts container r))
        (runInitScripts container i scripts) d := by
  induction scripts with
  | nil => exact fun h => safe_pure (handAfterScripts container) h
  | cons script scripts ih =>
      intro i d h
      refine Setting.Safe.bind (safe_call (fun _ d _ => Agree.refl _ d) h) fun result d' hd' => ?_
      cases result with
      | error e =>
          refine Setting.Safe.bind (safe_terminate hd') fun _ d'' hd'' => ?_
          exact safe_pure (handAfterScripts container) hd''
      | ok outcome =>
          dsimp only
          split_ifs with hexit
          · refine Setting.Safe.bind (safe_terminate hd') fun _ d'' hd'' => ?_
            exact safe_pure (handAfterScripts container) hd''
          · exact ih hd'

theorem safe_mapPorts {ports : List String} :
    ∀ {mapped : GoMap String} {d : Docker}, InHand service (some container) d →
      (setting (some service)).Safe (fun r => InHand service (handAfter container r))
        (mapPorts container ports mapped) d := by
  induction ports with
  | nil => exact fun h => safe_pure (handAfter container) h
  | cons portMapping ports ih =>
      intro mapped d h
      unfold mapPorts
      cases containerPort portMapping with
      | none => exact ih h
      | some port =>
          refine Setting.Safe.bind (safe_mappedPort port h) fun result d' hd' => ?_
          cases result with
          | error e => exact safe_pure (handAfter container) hd'
          | ok hostPort => exact ih hd'

theorem safe_buildRuntime {env : Environment} {cfg : ServiceConfig}
    (h : InHand service (some container) d) :
    (setting (some service)).Safe (fun r => InHand service (handAfter container r))
      (buildRuntime env cfg container) d := by
  refine Setting.Safe.bind (safe_host h) fun host d' hd' => ?_
  cases host with
  | error e => exact safe_pure (handAfter container) hd'
  | ok host =>
      refine Setting.Safe.bind (safe_mapPorts hd') fun mapped d'' hd'' => ?_
      cases mapped with
      | error e => exact safe_pure (handAfter container) hd''
      | ok mappedPorts => exact safe_pure (handAfter container) hd''

/-- The container that `Provision` hands over. -/
def Provisioned.hand : Provisioned → Option Container
  | .ready container _ => some container
  | .failed container _ => container

theorem safe_prepare {env : Environment} {cfg : ServiceConfig}
    (h : InHand service (some container) d) :
    (setting (some service)).Safe (fun r => InHand service (Provisioned.hand r))
      (prepare env cfg container) d := by
  refine Setting.Safe.bind (safe_runInitScripts h) fun scripts d' hd' => ?_
  cases scripts with
  | some err => exact safe_pure Provisioned.hand hd'
  | none =>
      refine Setting.Safe.bind (safe_buildRuntime hd') fun runtime d'' hd'' => ?_
      cases runtime with
      | error err => exact safe_pure Provisioned.hand hd''
      | ok runtime => exact safe_pure Provisioned.hand hd''

theorem networkAlias_containerRequest {cfg : ServiceConfig} {req : ContainerRequest}
    (h : containerRequest cfg = .ok req) : req.networkAlias = cfg.name := by
  obtain ⟨ports, -, h⟩ := Transaction.bind_eq_ok.1 h
  obtain ⟨strategy, -, h⟩ := Transaction.bind_eq_ok.1 h
  obtain rfl := Except.ok.inj h
  rfl

theorem safe_provision {env : Environment} {cfg : ServiceConfig} (hname : cfg.name = service)
    (h : InHand service none d) :
    (setting (some service)).Safe (fun r => InHand service (Provisioned.hand r))
      (provision env cfg) d := by
  unfold provision
  split_ifs with himage
  · exact safe_pure Provisioned.hand h
  · cases hreq : containerRequest cfg with
    | error err => exact safe_pure Provisioned.hand h
    | ok req =>
        have halias := (networkAlias_containerRequest hreq).trans hname
        refine Setting.Safe.bind (safe_createContainerWithFallback halias h) fun r d' hd' => ?_
        cases r with
        | error err => exact safe_pure Provisioned.hand hd'
        | ok container => exact safe_prepare hd'

/-- What is handed over is with the orchestrator. -/
theorem safe_keep (h : InHand service (some container) d) :
    (setting (some service)).Safe (fun _ => Accounted service) (call (.keep service container)) d := by
  refine Setting.Safe.perform fun d' hd' answer _ => ?_
  obtain ⟨k, rfl, hsettled⟩ := ((hd' service rfl).inHand h).cases
  refine ⟨fun other hother => ⟨rfl, ?_⟩, fun d'' hd'' => ?_⟩
  · exact (get?_set _ _ _ _).trans (if_neg fun heq => hother (congrArg some heq))
  · exact hsettled.keep.of_agree (hd'' service rfl)

/-- The rule for a call that changes nothing of any service, once the service is accounted for. -/
theorem safe_after {op : ContainerOp} (hagree : ∀ answer d other, Agree other d (effect answer d op))
    (h : Accounted service d) :
    (setting (some service)).Safe (fun _ => Accounted service) (call op) d := by
  refine Setting.Safe.perform fun d' hd' answer _ => ⟨fun other _ => hagree answer d' other, ?_⟩
  exact fun d'' hd'' =>
    ((h.of_agree (hd' service rfl)).of_agree (hagree answer d' service)).of_agree (hd'' service rfl)

theorem safe_done {a : α} (h : Accounted service d) :
    (setting (some service)).Safe (fun _ => Accounted service) (pure a) d :=
  Setting.Safe.pure fun _ hd' => h.of_agree (hd' service rfl)

theorem name_interpolateService {resolve : String → Except String String} {cfg cfg' : ServiceConfig}
    (h : interpolateService resolve cfg = .ok cfg') : cfg'.name = cfg.name := by
  obtain ⟨env, -, h⟩ := Transaction.bind_eq_ok.1 h
  obtain rfl := Except.ok.inj h
  rfl

/-- The goroutine of a service accounts for its containers, but for those that a call failed for. -/
theorem safe_provisionService {env : Environment} {level : List ServiceConfig}
    {cfg : ServiceConfig} (h : Settled cfg.name none d) :
    (setting (some cfg.name)).Safe (fun _ => Accounted cfg.name) (provisionService env level cfg)
      d := by
  unfold provisionService
  have hawait : (setting (some cfg.name)).Safe (fun _ => InHand cfg.name none)
      (Program.forEach (fun dep => call (.awaitReady dep))
        (cfg.dependsOn.filter fun dep => (level.map (·.name)).contains dep)) d :=
    Setting.Safe.forEach (InHand cfg.name none) (fun hd' h => (hd' cfg.name rfl).inHand h)
      (fun dep _ d hd => safe_call (fun _ d _ => Agree.refl _ d) hd) (inHand_none h)
  refine Setting.Safe.bind hawait fun _ d hd => ?_
  refine Setting.Safe.bind (safe_call (fun _ d _ => Agree.refl _ d) hd) fun runtimes d hd => ?_
  cases hcfg : interpolateService (resolveReference runtimes) cfg with
  | error err => exact safe_done hd.2.accounted_none
  | ok finalCfg =>
      refine Setting.Safe.bind (safe_provision (name_interpolateService hcfg) hd) fun r d hd => ?_
      rcases r with ⟨container, runtime⟩ | ⟨- | container, err⟩
      · refine Setting.Safe.bind (safe_keep hd) fun _ d hd => ?_
        refine Setting.Safe.bind (safe_after (fun _ _ _ => ⟨rfl, rfl⟩) hd) fun _ d hd => ?_
        refine Setting.Safe.bind (safe_after (fun _ _ _ => ⟨rfl, rfl⟩) hd) fun _ d hd => ?_
        exact safe_done hd
      · exact safe_done hd.2.accounted_none
      · exact Setting.Safe.bind (safe_keep hd) fun _ d hd => safe_done hd

end Goroutine

/-! ## A level -/

abbrev LevelRun := Parallel ContainerOp ContainerOp.Reply Docker ServiceConfig (Except String Unit)

abbrev LevelLabel := Parallel.Label ServiceConfig Answer Empty

/-- One step of `provisionlevel`: a goroutine is started, or its next call is answered. -/
def levelStep (env : Environment) (level : List ServiceConfig) (s : LevelRun)
    (label : LevelLabel) : Option LevelRun :=
  Parallel.step handle (fun _ cfg => provisionService env level cfg) (fun event _ => event.elim) s
    label

/-- The goroutines are started in the order of the level, and their calls answered. -/
def LevelGuard (level : List ServiceConfig) (s : LevelRun) (label : LevelLabel) : Prop :=
  Parallel.guard Answers s label ∧
    match label with
    | .start cfg => level[s.threads.length]? = some cfg
    | _ => True

/-- A run of `provisionlevel`, from what the levels before it have left. -/
def LevelSteps (env : Environment) (level : List ServiceConfig) (d₀ : Docker)
    (labels : List LevelLabel) (s : LevelRun) : Prop :=
  Trace.Guarded (fun s l s' => levelStep env level s l = some s') (LevelGuard level)
    { shared := d₀ } labels s

/-- `wg.Wait()`: every goroutine of the level was started and is done. -/
def Returned (level : List ServiceConfig) (s : LevelRun) : Prop :=
  s.threads.length = level.length ∧ ∀ t ∈ s.threads, (t.2.result?).isSome

/-- A service that has no container yet. -/
structure Fresh (service : String) (d : Docker) : Prop where
  services : d.services service = {}
  containers : d.containers.get? service = none

theorem Fresh.settled (h : Fresh service d) : Settled service none d := by
  constructor
  · rw [h.services]; simp
  · rw [h.services]; simp
  · rw [h.services]; simp
  · simp
  · exact h.containers

theorem Fresh.of_agree (h : Fresh service d) (hagree : Agree service d d') : Fresh service d' :=
  ⟨hagree.services.trans h.services, hagree.containers.trans h.containers⟩

/-- The service at a position. -/
def serviceAt (level : List ServiceConfig) (i : ℕ) : Option String := (level[i]?).map (·.name)

theorem serviceAt_inj {level : List ServiceConfig} (hnames : (level.map (·.name)).Nodup) {i j : ℕ}
    (hi : serviceAt level i = some service) (hj : serviceAt level j = some service) : i = j := by
  have hget (i : ℕ) : serviceAt level i = (level.map (·.name))[i]? := by
    rw [serviceAt, List.getElem?_map]
  rw [hget] at hi hj
  obtain ⟨hi', hi⟩ := List.getElem?_eq_some_iff.1 hi
  obtain ⟨hj', hj⟩ := List.getElem?_eq_some_iff.1 hj
  exact hnames.getElem_inj_iff.1 (hi.trans hj.symm)

/-- What a run of a level keeps: the goroutines are those of the level in its order, each keeps its
    judgement, a service whose goroutine has not begun has no container, and the services of other
    levels are left alone. -/
structure LevelInvariant (level : List ServiceConfig) (d₀ : Docker) (s : LevelRun) : Prop where
  tasks : ∀ (i : ℕ) t, s.threads[i]? = some t → level[i]? = some t.1
  safe : Parallel.AllSafe (fun i => setting (serviceAt level i)) (fun cfg _ => Accounted cfg.name) s
  fresh : ∀ i, s.threads.length ≤ i → ∀ service, serviceAt level i = some service →
    Fresh service s.shared
  others : ∀ service, service ∉ level.map (·.name) → Agree service d₀ s.shared

section Level

variable {env : Environment} {level : List ServiceConfig} {d₀ : Docker} {s s' : LevelRun}

theorem LevelInvariant.start (h : LevelInvariant level d₀ s) {cfg : ServiceConfig}
    (hcfg : level[s.threads.length]? = some cfg) :
    LevelInvariant level d₀
      { s with threads := s.threads ++ [(cfg, provisionService env level cfg)] } := by
  have hservice : serviceAt level s.threads.length = some cfg.name := by
    rw [serviceAt, hcfg, Option.map_some]
  constructor
  · intro i t ht
    rcases Parallel.getElem?_snoc ht with ht | ⟨rfl, rfl⟩
    · exact h.tasks i t ht
    · exact hcfg
  · intro i t ht
    rcases Parallel.getElem?_snoc ht with ht | ⟨rfl, rfl⟩
    · exact h.safe i t ht
    · dsimp only
      rw [hservice]
      exact safe_provisionService (h.fresh _ le_rfl _ hservice).settled
  · intro i hi
    exact h.fresh i (by simp only [List.length_append] at hi; omega)
  · exact h.others

theorem LevelInvariant.call (h : LevelInvariant level d₀ s) (hnames : (level.map (·.name)).Nodup)
    {i : ℕ} {answer : Answer} (hok : Parallel.guard Answers s (.call i answer : LevelLabel))
    (hstep : levelStep env level s (.call i answer) = some s') : LevelInvariant level d₀ s' := by
  obtain ⟨cfg, p, p', shared, hi, -, hs'⟩ := Parallel.call_eq hstep
  have hmine := h.tasks i _ hi
  obtain ⟨hguar, hsafe⟩ := h.safe.call (fun _ => rfl) (fun _ => rfl)
    (fun hij hguar service hservice => hguar service fun hmine => hij (serviceAt_inj hnames hmine
      hservice)) hok hstep
  have hlength : s'.threads.length = s.threads.length := by
    rw [hs', List.length_set]
  constructor
  · intro j t ht
    rw [hs'] at ht
    by_cases hij : i = j
    · subst hij
      rw [List.getElem?_set_self (List.getElem?_eq_some_iff.1 hi).1] at ht
      obtain rfl := Option.some.inj ht
      exact hmine
    · rw [List.getElem?_set_ne hij] at ht
      exact h.tasks j t ht
  · exact hsafe
  · intro j hj service hservice
    refine (h.fresh j (hlength ▸ hj) service hservice).of_agree (hguar service fun hi' => ?_)
    have hlt := (List.getElem?_eq_some_iff.1 hi).1
    have heq := serviceAt_inj hnames hi' hservice
    omega
  · intro service hservice
    refine (h.others service hservice).trans (hguar service fun hi' => hservice ?_)
    rw [serviceAt, hmine] at hi'
    obtain rfl := Option.some.inj hi'
    exact List.mem_map_of_mem (List.mem_of_getElem? hmine)

/-- Every run of a level keeps the accounts of its goroutines. -/
theorem levelInvariant (hnames : (level.map (·.name)).Nodup)
    (hfresh : ∀ cfg ∈ level, Fresh cfg.name d₀) {labels : List LevelLabel}
    (hrun : LevelSteps env level d₀ labels s) : LevelInvariant level d₀ s := by
  refine Trace.Guarded.invariant (LevelInvariant level d₀) hrun ?_ ?_
  · intro s label s' hok hstep h
    cases label with
    | start cfg =>
        obtain rfl := Option.some.inj hstep
        exact h.start hok.2
    | call i answer => exact h.call hnames hok.1 hstep
    | environment event => exact event.elim
  · refine ⟨fun i t ht => ?_, fun i t ht => ?_, fun i _ service hservice => ?_,
      fun service _ => Agree.refl service d₀⟩
    · cases ht
    · cases ht
    · obtain ⟨cfg, hcfg, rfl⟩ := Option.map_eq_some_iff.1 hservice
      exact hfresh cfg (List.mem_of_getElem? hcfg)

/-- When the level has returned, every one of its services is accounted for. -/
theorem accounted_of_returned (h : LevelInvariant level d₀ s) (hreturned : Returned level s) :
    ∀ cfg ∈ level, Accounted cfg.name s.shared := by
  intro cfg hcfg
  obtain ⟨i, hi, rfl⟩ := List.mem_iff_getElem.1 hcfg
  have hi' : i < s.threads.length := hreturned.1 ▸ hi
  have hthread : s.threads[i]? = some s.threads[i] := List.getElem?_eq_getElem hi'
  obtain ⟨result, hresult⟩ := Option.isSome_iff_exists.1
    (hreturned.2 _ (List.mem_of_getElem? hthread))
  have htask := h.tasks i _ hthread
  rw [List.getElem?_eq_getElem hi] at htask
  have haccounted := (h.safe i _ hthread).result hresult
  rwa [← Option.some.inj htask] at haccounted

/-! ## `CleanUp` -/

theorem mem_terminated_foldl {service : String} {k : ℕ} (entries : List (String × Container)) :
    ∀ d : Docker, k ∈ ((entries.foldl (fun d e => d.remove e.2) d).services service).terminated ↔
      k ∈ (d.services service).terminated ∨ ∃ name, (name, ⟨service, k⟩) ∈ entries := by
  induction entries with
  | nil => simp
  | cons e entries ih =>
      intro d
      obtain ⟨name, owner, j⟩ := e
      rw [List.foldl_cons, ih]
      have hremove : k ∈ ((d.remove ⟨owner, j⟩).services service).terminated ↔
          k ∈ (d.services service).terminated ∨ owner = service ∧ j = k := by
        by_cases howner : owner = service
        · subst howner
          rw [Docker.remove, update_services_self, List.mem_append, List.mem_singleton]
          simp [eq_comm]
        · rw [Docker.remove, Docker.update]
          dsimp only
          rw [if_neg fun heq => howner heq.symm]
          simp [howner]
      rw [hremove]
      simp only [List.mem_cons, Prod.mk.injEq, Container.mk.injEq, exists_or]
      constructor
      · rintro ((h | ⟨rfl, rfl⟩) | h)
        · exact .inl h
        · exact .inr (.inl ⟨name, rfl, rfl, rfl⟩)
        · exact .inr (.inr h)
      · rintro (h | ⟨-, -, rfl, rfl⟩ | h)
        · exact .inl (.inl h)
        · exact .inl (.inr ⟨rfl, rfl⟩)
        · exact .inr h

theorem started_foldl {service : String} (entries : List (String × Container)) :
    ∀ d : Docker, ((entries.foldl (fun d e => d.remove e.2) d).services service).started =
      (d.services service).started := by
  induction entries with
  | nil => simp
  | cons e entries ih =>
      intro d
      rw [List.foldl_cons, ih, Docker.remove, Docker.update]
      dsimp only
      split_ifs <;> rfl

theorem mem_entries_iff {α : Type} {m : GoMap α} {key : String} {value : α} :
    (key, value) ∈ m.entries ↔ m.get? key = some value := by
  constructor
  · exact GoMap.get?_of_mem
  · intro h
    obtain ⟨e, he, rfl⟩ := Option.map_eq_some_iff.1 h
    have hkey : e.1 = key := by simpa using List.find?_some he
    exact hkey ▸ List.mem_of_find?_eq_some he

/-- Every container that was started for the service has been terminated. -/
def AllTerminated (service : String) (d : Docker) : Prop :=
  ∀ k < (d.services service).started, k ∈ (d.services service).terminated

/-- After `CleanUp` a container of a service that is accounted for is terminated unless a call
    failed for it. -/
theorem allTerminated_cleanUp (haccounted : Accounted service d)
    (hkept : ∀ name container, d.containers.get? name = some container → container.service = name) :
    AllTerminated service (cleanUp d) ↔ (d.services service).refused = [] := by
  have hterminated : ∀ k < (d.services service).started,
      (k ∈ ((cleanUp d).services service).terminated ↔ k ∉ (d.services service).refused) := by
    intro k hk
    rw [← haccounted.accounted k hk, cleanUp, mem_terminated_foldl]
    refine or_congr_right ⟨?_, fun h => ⟨service, mem_entries_iff.2 h⟩⟩
    rintro ⟨name, hname⟩
    have hget := mem_entries_iff.1 hname
    obtain rfl : service = name := hkept _ _ hget
    exact hget
  unfold AllTerminated
  rw [cleanUp, started_foldl, ← cleanUp, List.eq_nil_iff_forall_not_mem]
  constructor
  · intro h k hk
    exact (hterminated k (haccounted.refused k hk)).1 (h k (haccounted.refused k hk)) hk
  · exact fun h k hk => (hterminated k hk).2 (h k)

/-- **Containers on a failed provision.** However the calls of a level end and interleave: once it
    has returned and `CleanUp` has run, every container that was started is terminated exactly when
    no call of a provider for the host, for a mapped port or for a termination failed. -/
theorem level_terminates_iff (hnames : (level.map (·.name)).Nodup)
    (hfresh : ∀ cfg ∈ level, Fresh cfg.name d₀)
    (hkept : ∀ name container, d₀.containers.get? name = some container → container.service = name)
    {labels : List LevelLabel} (hrun : LevelSteps env level d₀ labels s)
    (hreturned : Returned level s) :
    (∀ cfg ∈ level, AllTerminated cfg.name (cleanUp s.shared)) ↔
      ∀ cfg ∈ level, (s.shared.services cfg.name).refused = [] := by
  have hinv := levelInvariant hnames hfresh hrun
  have haccounted := accounted_of_returned hinv hreturned
  refine forall₂_congr fun cfg hcfg => allTerminated_cleanUp (haccounted cfg hcfg) ?_
  intro name container hcontainer
  by_cases hname : name ∈ level.map (·.name)
  · obtain ⟨cfg', hcfg', rfl⟩ := List.mem_map.1 hname
    exact (haccounted cfg' hcfg').owned container hcontainer
  · exact hkept name container ((hinv.others name hname).containers ▸ hcontainer)

end Level

/-! ## A lookup that fails -/

def plainEnvironment : Environment where
  lib := textLibraries
  hosts := asciiHosts
  parse := fun _ => .ok ()

/-- A level of one service. -/
def webLevel : List ServiceConfig := [{ name := "web", type := "generic", image := "nginx:1.30" }]

/-- The container starts, and then Docker does not tell its host. -/
def lostHost : List LevelLabel :=
  webLevel.map .start ++ [.call 0 (.done "" 0), .call 0 (.done "" 0),
    .call 0 (.failed "Cannot connect to the Docker daemon")]

theorem lostHost_steps :
    ∃ s, LevelSteps plainEnvironment webLevel {} lostHost s ∧ Returned webLevel s ∧
      (s.shared.services "web").started = 1 ∧ ¬ AllTerminated "web" (cleanUp s.shared) := by
  refine ⟨_, .cons ?_ rfl (.cons ?_ rfl (.cons ?_ rfl (.cons ?_ rfl (.nil _)))), ?_, rfl, ?_⟩
  · exact ⟨by decide, rfl⟩
  · exact ⟨by decide, trivial⟩
  · exact ⟨by decide, trivial⟩
  · exact ⟨by decide, trivial⟩
  · exact ⟨rfl, List.forall_mem_singleton.2 rfl⟩
  · exact fun hall => absurd (hall 0 (by decide)) (by decide)

/-- The container runs on after `CleanUp`. -/
theorem level_leaks_container :
    ∃ labels s, LevelSteps plainEnvironment webLevel {} labels s ∧ Returned webLevel s ∧
      (s.shared.services "web").started = 1 ∧ ¬ AllTerminated "web" (cleanUp s.shared) :=
  ⟨lostHost, lostHost_steps⟩

theorem level_terminates_iff_web :
    ∃ s, LevelSteps plainEnvironment webLevel {} lostHost s ∧ Returned webLevel s ∧
      ((∀ cfg ∈ webLevel, AllTerminated cfg.name (cleanUp s.shared)) ↔
        ∀ cfg ∈ webLevel, (s.shared.services cfg.name).refused = []) := by
  obtain ⟨s, hrun, hreturned, -⟩ := lostHost_steps
  refine ⟨s, hrun, hreturned, level_terminates_iff (by decide) ?_ ?_ hrun hreturned⟩
  · exact List.forall_mem_singleton.2 ⟨rfl, rfl⟩
  · intro name container hcontainer
    cases hcontainer

end Docker

end Provider

end TokyoTester
