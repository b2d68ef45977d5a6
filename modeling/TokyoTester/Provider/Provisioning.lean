import TokyoTester.Bundle.Depths
import TokyoTester.Provider.Leaks

set_option autoImplicit false

/-! # Provisioning level by level (`pkg/orchestrator/orchestrator.go`)

`ProvisionServices` pulls the images of services with a registry of their own, creates the network,
sorts the services into levels and provisions one level after the other. The goroutines of a level
run at once, and the next level begins when all of them have returned without an error.

A provider is any program of calls to Docker that reports the runtime of its service under the
service's name; the generic one is an instance. Whatever the calls are answered and however the
goroutines interleave, a service begins when all its dependencies are ready, and no goroutine waits
for one that cannot go on. -/

namespace TokyoTester

namespace Provider

open Docker

/-! ## Providers -/

/-- The calls that a provider makes. -/
def ContainerOp.isDocker : ContainerOp → Bool
  | .genericContainer _ | .logs _ | .exec _ _ | .host _ | .mappedPort _ _ | .terminate _ => true
  | .awaitReady _ | .runtimes | .keep _ _ | .register _ | .closeReady _ => false

/-- The runtime of a service that is ready has this name. -/
def Provisioned.Named (name : String) : Provisioned → Prop
  | .ready _ runtime => runtime.name = name
  | .failed _ _ => True

/-- What holds of a state holds later: containers are kept and runtimes stay registered. -/
structure Docker.Grows (d d' : Docker) : Prop where
  kept : ∀ name, (d.containers.get? name).isSome → (d'.containers.get? name).isSome
  registered : ∀ name, (d.registry.get? name).isSome → (d'.registry.get? name).isSome

/-- The orchestrator keeps the container of the service, and its runtime is registered. -/
structure Docker.Ready (d : Docker) (name : String) : Prop where
  kept : (d.containers.get? name).isSome
  registered : (d.registry.get? name).isSome

/-- The setting of a goroutine while what is shared grows. -/
def growing : Setting ContainerOp ContainerOp.Reply Docker Answer where
  handle := Docker.handle
  rely := Docker.Grows
  guard := Docker.Answers
  guar := Docker.Grows
  rely_refl _ := ⟨fun _ h => h, fun _ h => h⟩
  rely_trans h h' :=
    ⟨fun name hname => h'.kept name (h.kept name hname),
      fun name hname => h'.registered name (h.registered name hname)⟩

/-- `ServiceProvider`: it talks to Docker only, and names the runtime after the service. -/
structure ServiceProvider where
  provision : ServiceConfig → ContainerProgram Provisioned
  uses : ∀ cfg, (provision cfg).Uses fun op => op.isDocker = true
  named : ∀ cfg d, growing.Safe (fun r _ => r.Named cfg.name) (provision cfg) d

/-! ## Registries of their own -/

/-- The Docker client of `prepareRegistryImages`: whether there is one, and `PullImage`. -/
structure ImageClient where
  connect : Except String Unit
  pullImage : String → RegistryConfig → Except String String

/-- The service has a registry with an address. -/
def ownRegistry (svc : ServiceConfig) : Option RegistryConfig :=
  svc.registry.filter fun registry => registry.url != ""

/-- The loop of `prepareRegistryImages`: a service keeps the image that was pulled, and its registry
    is cleared. -/
def pullImages (client : ImageClient) : List ServiceConfig → Except String (List ServiceConfig)
  | [] => .ok []
  | svc :: services =>
    match ownRegistry svc with
    | none => (pullImages client services).map (svc :: ·)
    | some registry => do
      let image ← (client.pullImage svc.image registry).mapError fun e =>
        "failed to pull service image: " ++ e
      let services ← pullImages client services
      .ok ({ svc with image, registry := none } :: services)

/-- `prepareRegistryImages`. -/
def prepareRegistryImages (client : ImageClient) (services : List ServiceConfig) :
    Except String (List ServiceConfig) :=
  if services.any fun svc => (ownRegistry svc).isSome then do
    client.connect.mapError fun e => "create Docker client: " ++ e
    pullImages client services
  else .ok services

/-! ## Levels under way -/

/-- The goroutine of `provisionlevel` for a service. -/
def provisionLevelService (providers : String → Option ServiceProvider) (level : List ServiceConfig)
    (cfg : ServiceConfig) : ContainerProgram (Except String Unit) := do
  let awaited := cfg.dependsOn.filter fun dep => (level.map (·.name)).contains dep
  Program.forEach (fun dep => call (.awaitReady dep)) awaited
  match providers cfg.type with
  | none => pure (.error "service provider is not available")
  | some provider => do
    let runtimes ← call .runtimes
    match interpolateService (resolveReference runtimes) cfg with
    | .error err => pure (.error ("service environment interpolation failed: " ++ err))
    | .ok finalCfg => do
      match ← provider.provision finalCfg with
      | .failed container err =>
        match container with
        | none => pure (.error ("service provisioning failed: " ++ err))
        | some container => do
          call (.keep cfg.name container)
          pure (.error ("service provisioning failed: " ++ err))
      | .ready container runtime => do
        call (.keep cfg.name container)
        call (.register runtime)
        call (.closeReady cfg.name)
        pure (.ok ())

/-- A level under way, and the levels after it. -/
structure Provisioning where
  level : List ServiceConfig
  run : LevelRun
  rest : List (List ServiceConfig)

/-- `provisionlevel` has returned without an error. -/
def succeeded (level : List ServiceConfig) (s : LevelRun) : Bool :=
  s.threads.length = level.length && s.threads.all fun t => t.2.result?.any (·.isOk)

inductive ProvisionLabel where
  /-- A goroutine of the level is started, or its next call is answered. -/
  | goroutine (label : LevelLabel)
  /-- The level has returned, and the next one begins. -/
  | nextLevel

/-- One step of the loop of `ProvisionServices`; each level makes channels of its own. -/
def provisionStep (providers : String → Option ServiceProvider) (p : Provisioning) :
    ProvisionLabel → Option Provisioning
  | .goroutine label =>
    (Parallel.step Docker.handle (fun _ cfg => provisionLevelService providers p.level cfg)
      (fun event _ => event.elim) p.run label).map fun run => { p with run }
  | .nextLevel =>
    match p.rest with
    | [] => none
    | level :: rest =>
      if succeeded p.level p.run then
        some ⟨level, { shared := { p.run.shared with closed := [] } }, rest⟩
      else none

/-- The goroutines of a level are started in its order, and their calls answered. -/
def ProvisionGuard (p : Provisioning) : ProvisionLabel → Prop
  | .goroutine label => LevelGuard p.level p.run label
  | .nextLevel => True

/-- The configurations of a level. -/
def levelConfigs (services : List ServiceConfig) (names : List String) : List ServiceConfig :=
  names.filterMap fun name => (serviceMap services).get? name

/-- `ProvisionServices` up to its loop. -/
def provisionServices (client : ImageClient) (network : Except String Unit)
    (range : Nat → List String) (services : List ServiceConfig) : Except String Provisioning := do
  let services ← (prepareRegistryImages client services).mapError fun e =>
    "prepare registry images: " ++ e
  network.mapError fun e => "failed to create the Docker network: " ++ e
  let levels ← (topologicalSort (dependencyGraph services) range).mapError fun e =>
    "service dependency resolution failed: " ++ e
  .ok { level := [], run := { shared := {} }, rest := levels.map (levelConfigs services) }

/-- A run of `ProvisionServices`, from its loop on. -/
def ProvisionSteps (providers : String → Option ServiceProvider) (p : Provisioning)
    (labels : List ProvisionLabel) (p' : Provisioning) : Prop :=
  Trace.Guarded (fun p l p' => provisionStep providers p l = some p') ProvisionGuard p labels p'

/-! ## What is shared grows -/

section Grows

variable {d d' d'' : Docker} {name : String}

theorem Docker.Grows.refl (d : Docker) : Grows d d := growing.rely_refl d

theorem Docker.Grows.ready (h : Grows d d') (hready : d.Ready name) : d'.Ready name :=
  ⟨h.kept name hready.kept, h.registered name hready.registered⟩

theorem isSome_set {α : Type} {m : GoMap α} {key : String} {value : α} {name : String}
    (h : (m.get? name).isSome) : ((GoMap.set m key value).get? name).isSome := by
  rw [get?_set]
  split_ifs
  · rfl
  · exact h

/-- Every call lets what is shared grow. -/
theorem grows_effect (answer : Answer) (d : Docker) (op : ContainerOp) :
    Grows d (effect answer d op) := by
  cases op with
  | genericContainer req => cases answer <;> exact ⟨fun _ h => h, fun _ h => h⟩
  | host container => cases answer <;> exact ⟨fun _ h => h, fun _ h => h⟩
  | mappedPort container port => cases answer <;> exact ⟨fun _ h => h, fun _ h => h⟩
  | terminate container => cases answer <;> exact ⟨fun _ h => h, fun _ h => h⟩
  | keep service container => exact ⟨fun _ h => isSome_set h, fun _ h => h⟩
  | register runtime => exact ⟨fun _ h => h, fun _ h => isSome_set h⟩
  | closeReady service => exact ⟨fun _ h => h, fun _ h => h⟩
  | logs _ | exec _ _ | awaitReady _ | runtimes => exact Grows.refl d

theorem growing_perform {op : ContainerOp} {P : Docker → Prop}
    (hgrows : ∀ {d d'}, Grows d d' → P d → P d')
    (h : ∀ answer d', Grows d d' → P (effect answer d' op)) :
    growing.Safe (fun _ d => P d) (call op) d :=
  Setting.Safe.perform fun d' hd' answer _ =>
    ⟨grows_effect answer d' op, fun _ hd'' => hgrows hd'' (h answer d' hd')⟩

/-- A call that nothing is said about. -/
theorem growing_call {op : ContainerOp} : growing.Safe (fun _ _ => True) (call op) d :=
  growing_perform (P := fun _ => True) (fun _ _ => trivial) fun _ _ _ => trivial

theorem growing_true {α : Type} (p : ContainerProgram α) (d : Docker) :
    growing.Safe (fun _ _ => True) p d := by
  induction p generalizing d with
  | done a => exact fun _ _ => trivial
  | call op next ih => exact fun d' _ answer _ => ⟨grows_effect answer d' op, ih _ _⟩

theorem growing_pure {α : Type} {a : α} {post : α → Prop} (h : post a) :
    growing.Safe (fun a _ => post a) (pure a) d := Setting.Safe.pure fun _ _ => h

theorem Docker.Ready.effect {answer : Answer} {op : ContainerOp} (h : d.Ready name) :
    (effect answer d op).Ready name := (grows_effect answer d op).ready h

theorem growing_kept (name : String) (container : Container) :
    growing.Safe (fun _ d => (d.containers.get? name).isSome) (call (.keep name container)) d := by
  refine growing_perform (fun hgrows => hgrows.kept name) fun answer d' _ => ?_
  show ((GoMap.set d'.containers name container).get? name).isSome
  rw [get?_set, if_pos rfl]
  rfl

theorem growing_ready {runtime : ServiceRuntime} (hname : runtime.name = name)
    (h : (d.containers.get? name).isSome) :
    growing.Safe (fun _ d => d.Ready name) (call (.register runtime)) d := by
  refine growing_perform Grows.ready fun answer d' hd' => ⟨hd'.kept name h, ?_⟩
  show ((GoMap.set d'.registry runtime.name runtime).get? name).isSome
  rw [get?_set, if_pos hname]
  rfl

/-- **A goroutine that returns without an error** has made its service ready. -/
theorem safe_provisionLevelService {providers : String → Option ServiceProvider}
    {level : List ServiceConfig} {cfg : ServiceConfig} :
    growing.Safe (fun r d => r = .ok () → d.Ready cfg.name)
      (provisionLevelService providers level cfg) d := by
  have herror {e : String} {d : Docker} :
      growing.Safe (fun (r : Except String Unit) d => r = .ok () → d.Ready cfg.name)
        (pure (.error e)) d := Setting.Safe.pure fun _ _ h => by cases h
  unfold provisionLevelService
  refine Setting.Safe.bind (growing_true _ d) fun _ d _ => ?_
  cases providers cfg.type with
  | none => exact herror
  | some provider =>
  refine Setting.Safe.bind growing_call fun runtimes d _ => ?_
  cases hcfg : interpolateService (resolveReference runtimes) cfg with
  | error err => exact herror
  | ok finalCfg =>
  refine Setting.Safe.bind (provider.named finalCfg d) fun r d hr => ?_
  rcases r with ⟨container, runtime⟩ | ⟨- | container, err⟩
  · have hname : runtime.name = cfg.name := Eq.trans hr (name_interpolateService hcfg)
    refine Setting.Safe.bind (growing_kept cfg.name container) fun _ d hkept => ?_
    refine Setting.Safe.bind (growing_ready hname hkept) fun _ d hready => ?_
    have hclose : growing.Safe (fun _ d => d.Ready cfg.name) (call (.closeReady cfg.name)) d :=
      growing_perform Grows.ready fun _ d' hd' => (hd'.ready hready).effect
    exact Setting.Safe.bind hclose fun _ d hready =>
      Setting.Safe.pure fun _ hd' _ => hd'.ready hready
  · exact herror
  · exact Setting.Safe.bind growing_call fun _ d _ => herror

end Grows

/-! ## The generic provider -/

section Generic

variable {env : Environment} {cfg : ServiceConfig} {allowed : ContainerOp → Prop}

section Uses

-- the calls for a container that runs are allowed
variable (hplain : ∀ op : ContainerOp, op.isDocker = true → (∀ req, op ≠ .genericContainer req) →
  allowed op)

include hplain

theorem uses_plain {β : Type} {op : ContainerOp} {f : op.Reply → ContainerProgram β}
    (hop : op.isDocker = true) (hstart : ∀ req, op ≠ .genericContainer req)
    (hf : ∀ r, (f r).Uses allowed) : (call op >>= f).Uses allowed :=
  Program.Uses.bind (Program.Uses.perform (hplain op hop hstart)) hf

theorem uses_describeAndCleanup (container : Option Container) (startErr : String) :
    (describeAndCleanupFailedContainer container startErr).Uses allowed := by
  cases container with
  | none => exact Program.Uses.pure _
  | some container =>
      refine uses_plain hplain rfl (by simp) fun logs => ?_
      refine uses_plain hplain rfl (by simp) fun _ => ?_
      cases logs <;> exact Program.Uses.pure _

theorem uses_createOriginal {req : ContainerRequest} (hreq : allowed (.genericContainer req)) :
    (createOriginal req).Uses allowed := by
  refine Program.Uses.bind (Program.Uses.perform hreq) fun r => ?_
  cases r with
  | started container => exact Program.Uses.pure _
  | failed container err =>
      exact Program.Uses.bind (uses_describeAndCleanup hplain _ _) fun _ => Program.Uses.pure _

/-- A service without a registry of its own has one attempt. -/
theorem uses_createContainer {req : ContainerRequest} (hreq : allowed (.genericContainer req))
    (hown : ∀ registry ∈ ownRegistry cfg, ∀ image, allowed (.genericContainer { req with image })) :
    (createContainerWithFallback env cfg req).Uses allowed := by
  unfold createContainerWithFallback
  unfold ownRegistry at hown
  cases hregistry : cfg.registry with
  | none => exact uses_createOriginal hplain hreq
  | some registry =>
      dsimp only
      split_ifs with hurl
      · exact uses_createOriginal hplain hreq
      · have hmem : registry ∈ cfg.registry.filter fun registry => registry.url != "" := by
          rw [hregistry]
          simp [Option.filter, hurl]
        refine Program.Uses.bind (Program.Uses.perform (hown registry hmem _)) fun r => ?_
        cases r with
        | started container => exact Program.Uses.pure _
        | failed container err =>
            exact Program.Uses.bind (uses_describeAndCleanup hplain _ _) fun _ =>
              uses_createOriginal hplain hreq

theorem uses_runInitScripts (container : Container) (scripts : List String) (i : ℕ) :
    (runInitScripts container i scripts).Uses allowed := by
  induction scripts generalizing i with
  | nil => exact Program.Uses.pure _
  | cons script scripts ih =>
      refine uses_plain hplain rfl (by simp) fun r => ?_
      cases r with
      | error err => exact uses_plain hplain rfl (by simp) fun _ => Program.Uses.pure _
      | ok r =>
          obtain ⟨exitCode, stdout⟩ := r
          dsimp only
          split_ifs
          · exact uses_plain hplain rfl (by simp) fun _ => Program.Uses.pure _
          · exact ih (i + 1)

theorem uses_mapPorts (container : Container) (ports : List String) (mapped : GoMap String) :
    (mapPorts container ports mapped).Uses allowed := by
  induction ports generalizing mapped with
  | nil => exact Program.Uses.pure _
  | cons portMapping ports ih =>
      unfold mapPorts
      cases containerPort portMapping with
      | none => exact ih mapped
      | some port =>
          refine uses_plain hplain rfl (by simp) fun r => ?_
          cases r with
          | error err => exact Program.Uses.pure _
          | ok hostPort => exact ih _

theorem uses_buildRuntime (container : Container) :
    (buildRuntime env cfg container).Uses allowed := by
  refine uses_plain hplain rfl (by simp) fun r => ?_
  cases r with
  | error err => exact Program.Uses.pure _
  | ok host =>
      refine Program.Uses.bind (uses_mapPorts hplain _ _ _) fun r => ?_
      cases r <;> exact Program.Uses.pure _

/-- **The calls of the generic provider.** -/
theorem uses_provision
    (hstart : ∀ req, containerRequest cfg = .ok req → allowed (.genericContainer req) ∧
      ∀ registry ∈ ownRegistry cfg, ∀ image, allowed (.genericContainer { req with image })) :
    (provision env cfg).Uses allowed := by
  unfold provision
  split_ifs
  · exact Program.Uses.pure _
  cases hreq : containerRequest cfg with
  | error err => exact Program.Uses.pure _
  | ok req =>
  obtain ⟨horiginal, hown⟩ := hstart req hreq
  refine Program.Uses.bind (uses_createContainer hplain horiginal hown) fun r => ?_
  cases r with
  | error err => exact Program.Uses.pure _
  | ok container =>
  refine Program.Uses.bind (uses_runInitScripts hplain _ _ _) fun r => ?_
  cases r with
  | some err => exact Program.Uses.pure _
  | none =>
      refine Program.Uses.bind (uses_buildRuntime hplain container) fun r => ?_
      cases r <;> exact Program.Uses.pure _

end Uses

theorem named_buildRuntime (container : Container) (d : Docker) :
    growing.Safe (fun r _ => ∀ runtime, r = .ok runtime → runtime.name = cfg.name)
      (buildRuntime env cfg container) d := by
  unfold buildRuntime
  refine Setting.Safe.bind (growing_true _ d) fun r d _ => ?_
  cases r with
  | error err => exact growing_pure fun _ h => by cases h
  | ok host =>
      refine Setting.Safe.bind (growing_true _ d) fun r d _ => ?_
      cases r with
      | error err => exact growing_pure fun _ h => by cases h
      | ok mappedPorts =>
          refine growing_pure ?_
          rintro _ ⟨⟩
          rfl

theorem named_provision (d : Docker) :
    growing.Safe (fun r _ => r.Named cfg.name) (provision env cfg) d := by
  unfold provision
  split_ifs
  · exact growing_pure trivial
  cases containerRequest cfg with
  | error err => exact growing_pure trivial
  | ok req =>
  refine Setting.Safe.bind (growing_true _ d) fun r d _ => ?_
  cases r with
  | error err => exact growing_pure trivial
  | ok container =>
  refine Setting.Safe.bind (growing_true _ d) fun r d _ => ?_
  cases r with
  | some err => exact growing_pure trivial
  | none =>
      refine Setting.Safe.bind (named_buildRuntime container d) fun r d hr => ?_
      cases r with
      | error err => exact growing_pure trivial
      | ok runtime => exact growing_pure (hr runtime rfl)

/-- `GenericProvider`. -/
def genericProvider (env : Environment) : ServiceProvider :=
  ⟨provision env, fun _ => uses_provision (fun _ hop _ => hop) fun _ _ => ⟨rfl, fun _ _ _ => rfl⟩,
    fun _ => named_provision⟩

/-- The goroutine of a service of the generic type. -/
theorem provisionLevelService_generic {providers : String → Option ServiceProvider}
    (h : providers cfg.type = some (genericProvider env)) (level : List ServiceConfig) :
    provisionLevelService providers level cfg = provisionService env level cfg := by
  unfold provisionLevelService
  rw [h]
  rfl

end Generic

/-! ## The calls of a goroutine -/

section Goroutine

variable {providers : String → Option ServiceProvider} {level : List ServiceConfig}
  {cfg : ServiceConfig} {allowed : ContainerOp → Prop}

theorem uses_provisionLevelService
    (hawait : ∀ dep ∈ cfg.dependsOn, dep ∈ level.map (·.name) → allowed (.awaitReady dep))
    (hshared : ∀ op : ContainerOp, op.isDocker = false → (∀ service, op ≠ .awaitReady service) →
      allowed op)
    (hprovider : ∀ provider ∈ providers cfg.type, ∀ env,
      (provider.provision { cfg with env }).Uses allowed) :
    (provisionLevelService providers level cfg).Uses allowed := by
  have hcall {op : ContainerOp} (hop : op.isDocker = false)
      (hservice : ∀ service, op ≠ .awaitReady service) : (call op).Uses allowed :=
    Program.Uses.perform (hshared op hop hservice)
  unfold provisionLevelService
  refine Program.Uses.bind (Program.Uses.forEach fun dep hdep => ?_) fun _ => ?_
  · obtain ⟨hdep, hlevel⟩ := List.mem_filter.1 hdep
    exact Program.Uses.perform (hawait dep hdep (by simpa using hlevel))
  cases htype : providers cfg.type with
  | none => exact Program.Uses.pure _
  | some provider =>
  refine Program.Uses.bind (hcall rfl (by simp)) fun runtimes => ?_
  cases hcfg : interpolateService (resolveReference runtimes) cfg with
  | error err => exact Program.Uses.pure _
  | ok finalCfg =>
  obtain ⟨interpolated, -, hfinal⟩ := Transaction.bind_eq_ok.1 hcfg
  obtain rfl := Except.ok.inj hfinal
  refine Program.Uses.bind (hprovider provider htype _) fun r => ?_
  rcases r with ⟨container, runtime⟩ | ⟨- | container, err⟩
  · refine Program.Uses.bind (hcall rfl (by simp)) fun _ => ?_
    refine Program.Uses.bind (hcall rfl (by simp)) fun _ => ?_
    exact Program.Uses.bind (hcall rfl (by simp)) fun _ => Program.Uses.pure _
  · exact Program.Uses.pure _
  · exact Program.Uses.bind (hcall rfl (by simp)) fun _ => Program.Uses.pure _

/-- The goroutine does not wait for another service. -/
abbrev Unblocked {α : Type} (p : ContainerProgram α) : Prop :=
  p.Uses fun op => ∀ service, op ≠ .awaitReady service

/-- A service without dependencies in its own level does not wait. -/
theorem unblocked_provisionLevelService (h : ∀ dep ∈ cfg.dependsOn, dep ∉ level.map (·.name)) :
    Unblocked (provisionLevelService providers level cfg) := by
  refine uses_provisionLevelService (fun dep hdep hlevel => absurd hlevel (h dep hdep))
    (fun _ _ hop => hop) fun provider _ env => (provider.uses _).mono ?_
  rintro op hop service rfl
  cases hop

end Goroutine

/-! ## The levels of a run -/

section Levels

variable {services : List ServiceConfig} {names : List String} {cfg : ServiceConfig}

theorem serviceMap_get? {name : String} (h : (serviceMap services).get? name = some cfg) :
    cfg.name = name ∧ cfg.dependsOn = prerequisites (dependencyGraph services) name := by
  refine ⟨?_, ?_⟩
  · unfold serviceMap at h
    rw [GoMap.get?_ofList_eq] at h
    obtain ⟨e, he, rfl⟩ := Option.map_eq_some_iff.1 h
    obtain ⟨svc, -, rfl⟩ := List.mem_map.1 (List.mem_reverse.1 (List.mem_of_find?_eq_some he))
    simpa using List.find?_some he
  · rw [← prerequisites_serviceMap, h]
    rfl

theorem mem_services_of_mem (h : cfg ∈ levelConfigs services names) : cfg ∈ services := by
  obtain ⟨name, -, hcfg⟩ := List.mem_filterMap.1 h
  unfold serviceMap at hcfg
  rw [GoMap.get?_ofList_eq] at hcfg
  obtain ⟨e, he, rfl⟩ := Option.map_eq_some_iff.1 hcfg
  obtain ⟨svc, hsvc, rfl⟩ := List.mem_map.1 (List.mem_reverse.1 (List.mem_of_find?_eq_some he))
  exact hsvc

theorem mem_levelConfigs (h : cfg ∈ levelConfigs services names) :
    cfg.name ∈ names ∧ cfg.dependsOn = prerequisites (dependencyGraph services) cfg.name := by
  obtain ⟨name, hname, hcfg⟩ := List.mem_filterMap.1 h
  obtain ⟨rfl, hdeps⟩ := serviceMap_get? hcfg
  exact ⟨hname, hdeps⟩

theorem exists_levelConfig {name : String} (hname : name ∈ names)
    (hkey : name ∈ (dependencyGraph services).keys) :
    ∃ cfg ∈ levelConfigs services names, cfg.name = name := by
  have hservice : name ∈ (serviceMap services).keys := by
    unfold serviceMap
    rw [GoMap.mem_keys_ofList, List.map_map]
    exact mem_keys_dependencyGraph.1 hkey
  cases hget : (serviceMap services).get? name with
  | none => exact absurd hservice (GoMap.get?_eq_none.1 hget)
  | some cfg => exact ⟨cfg, List.mem_filterMap.2 ⟨name, hname, hget⟩, (serviceMap_get? hget).1⟩

end Levels

/-- Where a run is: the names of the levels that are done, of the one under way and of the others,
    as the sort has put them. -/
structure AtStage (services : List ServiceConfig) (p : Provisioning) (done names : List String)
    (levels : List (List String)) : Prop where
  level : p.level = levelConfigs services names
  rest : p.rest = levels.map (levelConfigs services)
  current : ∀ name ∈ names, name ∈ (dependencyGraph services).keys ∧ name ∉ done ∧
    prerequisites (dependencyGraph services) name ⊆ done
  later : Stages (dependencyGraph services) (done ++ names) levels
  ready : ∀ name ∈ done, p.run.shared.Ready name

/-- What a run of `ProvisionServices` keeps. -/
structure ProvisionInvariant (services : List ServiceConfig) (p : Provisioning) : Prop where
  stage : ∃ done names levels, AtStage services p done names levels
  tasks : ∀ (i : ℕ) t, p.run.threads[i]? = some t → p.level[i]? = some t.1
  unblocked : ∀ t ∈ p.run.threads, Unblocked t.2
  safe : Parallel.AllSafe (fun _ => growing) (fun cfg r d => r = .ok () → d.Ready cfg.name) p.run

section Run

variable {providers : String → Option ServiceProvider} {services : List ServiceConfig}
  {p p' : Provisioning} {done names : List String} {levels : List (List String)}

theorem AtStage.dependencies (h : AtStage services p done names levels) {cfg : ServiceConfig}
    (hcfg : cfg ∈ p.level) : cfg.dependsOn ⊆ done := by
  rw [h.level] at hcfg
  obtain ⟨hname, hdeps⟩ := mem_levelConfigs hcfg
  rw [hdeps]
  exact (h.current _ hname).2.2

/-- No service of the level under way is done before. -/
theorem AtStage.not_mem_level (h : AtStage services p done names levels) {name : String}
    (hname : name ∈ done) : name ∉ p.level.map (·.name) := by
  rw [h.level]
  intro hmem
  obtain ⟨cfg, hcfg, rfl⟩ := List.mem_map.1 hmem
  exact (h.current _ (mem_levelConfigs hcfg).1).2.1 hname

theorem AtStage.of_grows (h : AtStage services p done names levels) {run : LevelRun}
    (hgrows : Grows p.run.shared run.shared) :
    AtStage services { p with run } done names levels :=
  ⟨h.level, h.rest, h.current, h.later, fun name hname => hgrows.ready (h.ready name hname)⟩

/-- A goroutine of the level is started. -/
theorem ProvisionInvariant.start (h : ProvisionInvariant services p) {cfg : ServiceConfig}
    (hcfg : p.level[p.run.threads.length]? = some cfg) :
    ProvisionInvariant services { p with run := { p.run with
      threads := p.run.threads ++ [(cfg, provisionLevelService providers p.level cfg)] } } := by
  obtain ⟨done, names, levels, hstage⟩ := h.stage
  refine ⟨⟨done, names, levels, hstage.of_grows (Grows.refl _)⟩, fun i t ht => ?_, fun t ht => ?_,
    fun i t ht => ?_⟩
  · rcases Parallel.getElem?_snoc ht with ht | ⟨rfl, rfl⟩
    · exact h.tasks i t ht
    · exact hcfg
  · rcases List.mem_append.1 ht with ht | ht
    · exact h.unblocked t ht
    · obtain rfl := List.mem_singleton.1 ht
      exact unblocked_provisionLevelService fun dep hdep =>
        hstage.not_mem_level (hstage.dependencies (List.mem_of_getElem? hcfg) hdep)
  · rcases Parallel.getElem?_snoc ht with ht | ⟨rfl, rfl⟩
    · exact h.safe i t ht
    · exact safe_provisionLevelService

/-- A call of a goroutine is answered. -/
theorem ProvisionInvariant.call (h : ProvisionInvariant services p) {i : ℕ} {answer : Answer}
    {run : LevelRun} (hok : Parallel.guard Answers p.run (.call i answer : LevelLabel))
    (hstep : Parallel.step Docker.handle (fun _ cfg => provisionLevelService providers p.level cfg)
      (fun event _ => event.elim) p.run (.call i answer : LevelLabel) = some run) :
    ProvisionInvariant services { p with run } := by
  obtain ⟨done, names, levels, hstage⟩ := h.stage
  obtain ⟨hgrows, hsafe⟩ := h.safe.call (fun _ => rfl) (fun _ => rfl) (fun _ hguar => hguar) hok hstep
  obtain ⟨cfg, q, q', shared, hi, hadvance, rfl⟩ := Parallel.call_eq hstep
  have hlt := (List.getElem?_eq_some_iff.1 hi).1
  refine ⟨⟨done, names, levels, hstage.of_grows hgrows⟩, fun j t ht => ?_, fun t ht => ?_, hsafe⟩
  · by_cases hij : i = j
    · subst hij
      rw [List.getElem?_set_self hlt] at ht
      obtain rfl := Option.some.inj ht
      exact h.tasks i (cfg, q) hi
    · rw [List.getElem?_set_ne hij] at ht
      exact h.tasks j t ht
  · rcases List.mem_or_eq_of_mem_set ht with ht | rfl
    · exact h.unblocked t ht
    · exact ((h.unblocked _ (List.mem_of_getElem? hi)).advance hadvance).2

/-- The services of a level that has succeeded are ready. -/
theorem ProvisionInvariant.succeeded_ready (h : ProvisionInvariant services p)
    (hsucceeded : succeeded p.level p.run = true) {cfg : ServiceConfig} (hcfg : cfg ∈ p.level) :
    p.run.shared.Ready cfg.name := by
  obtain ⟨hlength, hall⟩ := Bool.and_eq_true_iff.1 hsucceeded
  have hlength : p.run.threads.length = p.level.length := of_decide_eq_true hlength
  obtain ⟨i, hi, rfl⟩ := List.mem_iff_getElem.1 hcfg
  have hi' : i < p.run.threads.length := hlength ▸ hi
  have hthread : p.run.threads[i]? = some p.run.threads[i] := List.getElem?_eq_getElem hi'
  have htask := h.tasks i _ hthread
  rw [List.getElem?_eq_getElem hi] at htask
  have hok := List.all_eq_true.1 hall _ (List.mem_of_getElem? hthread)
  rw [Option.any_eq_true] at hok
  obtain ⟨r, hr, hrok⟩ := hok
  obtain rfl : r = .ok () := by
    cases r with
    | error e => cases hrok
    | ok u => rfl
  rw [Option.some.inj htask]
  exact (h.safe i _ hthread).result hr rfl

/-- Before the goroutines of a level are started. -/
theorem AtStage.invariant {level : List ServiceConfig} {rest : List (List ServiceConfig)}
    {shared : Docker} (h : AtStage services ⟨level, { shared }, rest⟩ done names levels) :
    ProvisionInvariant services ⟨level, { shared }, rest⟩ := by
  refine ⟨⟨done, names, levels, h⟩, ?_, ?_, ?_⟩
  · exact fun i t ht => absurd ht (by simp)
  · simp
  · exact fun i t ht => absurd ht (by simp)

/-- The names of a level that has succeeded are done. -/
theorem ProvisionInvariant.nextLevel (h : ProvisionInvariant services p)
    (hsucceeded : succeeded p.level p.run = true) {level : List ServiceConfig}
    {rest : List (List ServiceConfig)} (hrest : p.rest = level :: rest) :
    ProvisionInvariant services
      ⟨level, { shared := { p.run.shared with closed := [] } }, rest⟩ := by
  obtain ⟨done, names, levels, hstage⟩ := h.stage
  obtain ⟨next, levels, rfl, rfl, rfl⟩ := List.map_eq_cons_iff.1 (hstage.rest.symm.trans hrest)
  obtain ⟨-, hnext, hlater⟩ := hstage.later
  refine AtStage.invariant ⟨rfl, rfl, fun name hname => ?_, hlater, fun name hname => ?_⟩
  · exact (hnext name).1 hname
  · have hready : p.run.shared.Ready name := by
      rcases List.mem_append.1 hname with hname | hname
      · exact hstage.ready name hname
      · obtain ⟨cfg, hcfg, rfl⟩ := exists_levelConfig hname (hstage.current name hname).1
        exact h.succeeded_ready hsucceeded (hstage.level ▸ hcfg)
    exact ⟨hready.kept, hready.registered⟩

/-- A goroutine that has not returned can go on. -/
theorem ProvisionInvariant.goes_on (h : ProvisionInvariant services p) {i : ℕ}
    {t : ServiceConfig × ContainerProgram (Except String Unit)} (ht : p.run.threads[i]? = some t)
    (hresult : t.2.result? = none) (answer : Answer) :
    ProvisionGuard p (.goroutine (.call i answer)) ∧
      ∃ p', provisionStep providers p (.goroutine (.call i answer)) = some p' := by
  obtain ⟨cfg, q⟩ := t
  cases q with
  | done r => cases hresult
  | call op next =>
      obtain ⟨hop, -⟩ := h.unblocked _ (List.mem_of_getElem? ht)
      refine ⟨⟨fun c hc => ?_, trivial⟩, ?_⟩
      · obtain rfl : (op, answer) = c := by
          simpa only [Parallel.answered, ht, Option.bind_some, Program.next?, Option.map_some,
            Option.mem_def, Option.some.injEq] using hc
        cases op with
        | awaitReady service => exact absurd rfl (hop service)
        | _ => trivial
      · unfold provisionStep Parallel.step
        dsimp only
        rw [ht]
        exact ⟨_, rfl⟩

/-- **Every run keeps the invariant.** -/
theorem ProvisionInvariant.steps (h : ProvisionInvariant services p) {labels : List ProvisionLabel}
    (hrun : ProvisionSteps providers p labels p') : ProvisionInvariant services p' := by
  refine Trace.Guarded.invariant (ProvisionInvariant services) hrun ?_ h
  intro p label p' hok hstep h
  cases label with
  | goroutine label =>
      obtain ⟨run, hrun, rfl⟩ := Option.map_eq_some_iff.1 hstep
      cases label with
      | start cfg =>
          obtain rfl := Option.some.inj hrun
          exact h.start hok.2
      | call i answer => exact h.call hok.1 hrun
      | environment event => exact event.elim
  | nextLevel =>
      unfold provisionStep at hstep
      dsimp only at hstep
      cases hrest : p.rest with
      | nil =>
          rw [hrest] at hstep
          cases hstep
      | cons level rest =>
          rw [hrest] at hstep
          dsimp only at hstep
          split_ifs at hstep with hsucceeded
          obtain rfl := Option.some.inj hstep
          exact h.nextLevel hsucceeded hrest

end Run

/-! ## The images -/

/-- What `prepareRegistryImages` makes of a service. -/
def Prepared (client : ImageClient) (svc svc' : ServiceConfig) : Prop :=
  match ownRegistry svc with
  | none => svc' = svc
  | some registry => ∃ image, client.pullImage svc.image registry = .ok image ∧
    svc' = { svc with image, registry := none }

section Images

variable {client : ImageClient} {services prepared : List ServiceConfig}

theorem Prepared.same {svc svc' : ServiceConfig} (h : Prepared client svc svc') :
    svc'.name = svc.name ∧ svc'.dependsOn = svc.dependsOn ∧ ownRegistry svc' = none := by
  unfold Prepared at h
  cases hregistry : ownRegistry svc with
  | none =>
      rw [hregistry] at h
      obtain rfl := h
      exact ⟨rfl, rfl, hregistry⟩
  | some registry =>
      rw [hregistry] at h
      obtain ⟨image, -, rfl⟩ := h
      exact ⟨rfl, rfl, rfl⟩

theorem pullImages_prepared (h : pullImages client services = .ok prepared) :
    List.Forall₂ (Prepared client) services prepared := by
  induction services generalizing prepared with
  | nil =>
      obtain rfl := Except.ok.inj h
      exact .nil
  | cons svc services ih =>
      unfold pullImages at h
      cases hregistry : ownRegistry svc with
      | none =>
          rw [hregistry] at h
          cases hrest : pullImages client services with
          | error e =>
              rw [hrest] at h
              cases h
          | ok rest =>
              rw [hrest] at h
              obtain rfl := Except.ok.inj h
              refine .cons ?_ (ih hrest)
              unfold Prepared
              rw [hregistry]
      | some registry =>
          rw [hregistry] at h
          obtain ⟨image, himage, h⟩ := Transaction.bind_eq_ok.1 h
          obtain ⟨rest, hrest, h⟩ := Transaction.bind_eq_ok.1 h
          obtain rfl := Except.ok.inj h
          refine .cons ?_ (ih hrest)
          unfold Prepared
          rw [hregistry]
          exact ⟨image, mapError_eq_ok.1 himage, rfl⟩

theorem prepareRegistryImages_prepared (h : prepareRegistryImages client services = .ok prepared) :
    List.Forall₂ (Prepared client) services prepared := by
  unfold prepareRegistryImages at h
  split_ifs at h with hown
  · obtain ⟨u, -, h⟩ := Transaction.bind_eq_ok.1 h
    exact pullImages_prepared h
  · obtain rfl := Except.ok.inj h
    refine List.forall₂_same.2 fun svc hsvc => ?_
    have hnone : ownRegistry svc = none := by
      simp only [List.any_eq_true, not_exists, not_and, Bool.not_eq_true,
        Option.isSome_eq_false_iff, Option.isNone_iff_eq_none] at hown
      exact hown svc hsvc
    unfold Prepared
    rw [hnone]

theorem prepared_names (h : List.Forall₂ (Prepared client) services prepared) :
    prepared.map (fun svc => (svc.name, svc.dependsOn))
      = services.map fun svc => (svc.name, svc.dependsOn) := by
  induction h with
  | nil => rfl
  | cons hsvc _ ih =>
      obtain ⟨hname, hdeps, -⟩ := hsvc.same
      rw [List.map_cons, List.map_cons, ih, hname, hdeps]

end Images

/-- What `ProvisionServices` begins with. -/
theorem provisionServices_invariant {client : ImageClient} {network : Except String Unit}
    {range : Nat → List String} {services : List ServiceConfig} {p : Provisioning}
    (hrange : ∀ k, (range k).Perm (dependencyGraph services).keys)
    (h : provisionServices client network range services = .ok p) :
    p.run.threads = [] ∧ ∃ prepared, List.Forall₂ (Prepared client) services prepared ∧
      ProvisionInvariant prepared p := by
  unfold provisionServices at h
  obtain ⟨prepared, hprepared, h⟩ := Transaction.bind_eq_ok.1 h
  obtain ⟨u, -, h⟩ := Transaction.bind_eq_ok.1 h
  obtain ⟨levels, hlevels, h⟩ := Transaction.bind_eq_ok.1 h
  obtain rfl := Except.ok.inj h
  have hprepared := prepareRegistryImages_prepared (mapError_eq_ok.1 hprepared)
  have hnames := prepared_names hprepared
  have hgraph : dependencyGraph prepared = dependencyGraph services :=
    congrArg GoMap.ofList hnames
  rw [← hgraph] at hrange
  obtain ⟨v, -, hsort⟩ := Transaction.bind_eq_ok.1 (mapError_eq_ok.1 hlevels)
  have hstages := sortLevels_stages hrange _ _ _ List.nodup_nil (List.nil_subset _) hsort
  have hstage : AtStage prepared ⟨[], { shared := {} }, levels.map (levelConfigs prepared)⟩ [] []
      levels := ⟨rfl, rfl, by simp, hstages, by simp⟩
  exact ⟨rfl, prepared, hprepared, hstage.invariant⟩

/-- **Services are provisioned after their dependencies.** In every run, however the calls are
    answered and the goroutines interleave: the dependencies of a service whose goroutine has begun
    are ready, a goroutine that has not returned can go on, whatever its call is answered, and when
    the last level has succeeded every service is ready. -/
theorem provisioning_respects_dependencies {providers : String → Option ServiceProvider}
    {client : ImageClient} {network : Except String Unit} {range : Nat → List String}
    {services : List ServiceConfig} {p₀ p : Provisioning} {labels : List ProvisionLabel}
    (hrange : ∀ k, (range k).Perm (dependencyGraph services).keys)
    (hstart : provisionServices client network range services = .ok p₀)
    (hrun : ProvisionSteps providers p₀ labels p) :
    (∀ t ∈ p.run.threads, ∀ dep ∈ t.1.dependsOn, p.run.shared.Ready dep) ∧
      (∀ (i : ℕ) t, p.run.threads[i]? = some t → t.2.result? = none → ∀ answer,
        ProvisionGuard p (.goroutine (.call i answer)) ∧
          ∃ p', provisionStep providers p (.goroutine (.call i answer)) = some p') ∧
      (p.rest = [] → succeeded p.level p.run = true →
        ∀ svc ∈ services, p.run.shared.Ready svc.name) := by
  obtain ⟨-, prepared, hprepared, hinv⟩ := provisionServices_invariant hrange hstart
  have hnames := prepared_names hprepared
  have h := hinv.steps hrun
  obtain ⟨done, names, levels, hstage⟩ := h.stage
  refine ⟨fun t ht dep hdep => ?_, fun i t ht hresult answer => ?_, fun hrest hsucceeded svc hsvc => ?_⟩
  · obtain ⟨i, hi⟩ := List.getElem?_of_mem ht
    exact hstage.ready dep (hstage.dependencies (List.mem_of_getElem? (h.tasks i t hi)) hdep)
  · exact h.goes_on ht hresult answer
  · -- the names of the services are those of the levels
    have hlast : levels = [] := List.map_eq_nil_iff.1 (hstage.rest.symm.trans hrest)
    have hkey : svc.name ∈ (dependencyGraph prepared).keys := by
      rw [mem_keys_dependencyGraph]
      have hfst := congrArg (List.map Prod.fst) hnames
      rw [List.map_map, List.map_map] at hfst
      exact (hfst ▸ List.mem_map_of_mem hsvc : svc.name ∈ prepared.map (Prod.fst ∘ _))
    have hlater := hstage.later
    rw [hlast] at hlater
    rcases List.mem_append.1 (hlater hkey) with hdone | hname
    · exact hstage.ready _ hdone
    · obtain ⟨cfg, hcfg, heq⟩ := exists_levelConfig hname hkey
      exact heq ▸ h.succeeded_ready hsucceeded (hstage.level ▸ hcfg)

/-! ## The images of a run -/

/-- A container that is started has the image of the service. -/
def Starts (cfg : ServiceConfig) (op : ContainerOp) : Prop :=
  ∀ req, op = .genericContainer req → req.image = cfg.image

/-- So it is for the generic type, once the service has no registry of its own. -/
def StartsPulled (cfg : ServiceConfig) (op : ContainerOp) : Prop :=
  cfg.type = "generic" → ownRegistry cfg = none → Starts cfg op

section Pulled

variable {client : ImageClient} {network : Except String Unit} {range : Nat → List String}
  {services prepared : List ServiceConfig} {env : Environment} {cfg : ServiceConfig}
  {providers : String → Option ServiceProvider} {p₀ p p' : Provisioning}
  {labels : List ProvisionLabel}

theorem starts_provision (h : ownRegistry cfg = none) :
    (provision env cfg).Uses (Starts cfg) := by
  refine uses_provision (fun op _ hop req heq => absurd heq (hop req)) fun req hreq => ⟨?_, ?_⟩
  · rintro req' ⟨⟩
    obtain ⟨ports, -, hreq⟩ := Transaction.bind_eq_ok.1 hreq
    obtain ⟨waiting, -, hreq⟩ := Transaction.bind_eq_ok.1 hreq
    obtain rfl := Except.ok.inj hreq
    rfl
  · rw [h]
    exact fun registry hregistry => absurd hregistry (by simp)

/-- A bound on the calls of a goroutine holds while it runs. -/
theorem ProvisionSteps.uses {allowed : ServiceConfig → ContainerOp → Prop}
    (huses : ∀ level cfg, (provisionLevelService providers level cfg).Uses (allowed cfg))
    (hrun : ProvisionSteps providers p labels p')
    (h : ∀ t ∈ p.run.threads, t.2.Uses (allowed t.1)) :
    ∀ t ∈ p'.run.threads, t.2.Uses (allowed t.1) := by
  refine Trace.Guarded.invariant
    (fun p => ∀ t ∈ p.run.threads, t.2.Uses (allowed t.1)) hrun ?_ h
  intro p label p' hok hstep h
  cases label with
  | goroutine label =>
      obtain ⟨run, hrun, rfl⟩ := Option.map_eq_some_iff.1 hstep
      cases label with
      | start cfg =>
          obtain rfl := Option.some.inj hrun
          intro t ht
          rcases List.mem_append.1 ht with ht | ht
          · exact h t ht
          · obtain rfl := List.mem_singleton.1 ht
            exact huses p.level cfg
      | call i answer =>
          obtain ⟨cfg, q, q', shared, hi, hadvance, rfl⟩ := Parallel.call_eq hrun
          intro t ht
          rcases List.mem_or_eq_of_mem_set ht with ht | rfl
          · exact h t ht
          · exact ((h _ (List.mem_of_getElem? hi)).advance hadvance).2
      | environment event => exact event.elim
  | nextLevel =>
      unfold provisionStep at hstep
      dsimp only at hstep
      split at hstep
      · cases hstep
      · split_ifs at hstep
        obtain rfl := Option.some.inj hstep
        exact fun t ht => absurd ht (by simp)

theorem starts_provisionLevelService (hgeneric : providers "generic" = some (genericProvider env))
    (level : List ServiceConfig) (htype : cfg.type = "generic") (hown : ownRegistry cfg = none) :
    (provisionLevelService providers level cfg).Uses (Starts cfg) := by
  refine uses_provisionLevelService (fun dep _ _ req heq => by cases heq) ?_ ?_
  · rintro op hop - req rfl
    cases hop
  · intro provider hprovider env'
    rw [htype, hgeneric] at hprovider
    obtain rfl := Option.some.inj hprovider
    have hstarts : (provision env { cfg with env := env' }).Uses (Starts { cfg with env := env' }) :=
      starts_provision hown
    exact hstarts

theorem exists_prepared (h : List.Forall₂ (Prepared client) services prepared)
    (hcfg : cfg ∈ prepared) : ∃ svc ∈ services, Prepared client svc cfg := by
  induction h with
  | nil => cases hcfg
  | cons hsvc _ ih =>
      rcases List.mem_cons.1 hcfg with rfl | hcfg
      · exact ⟨_, List.mem_cons_self, hsvc⟩
      · obtain ⟨svc, hmem, hprepared⟩ := ih hcfg
        exact ⟨svc, List.mem_cons_of_mem _ hmem, hprepared⟩

/-- **Only the images that were pulled are started**: a container of the generic type is started
    from the image pulled from the service's own registry, or without one from its image as it
    stands. No other registry is tried. -/
theorem provisioned_images {p₀ p : Provisioning} {labels : List ProvisionLabel}
    (hgeneric : providers "generic" = some (genericProvider env))
    (hrange : ∀ k, (range k).Perm (dependencyGraph services).keys)
    (hstart : provisionServices client network range services = .ok p₀)
    (hrun : ProvisionSteps providers p₀ labels p) :
    ∀ t ∈ p.run.threads, t.1.type = "generic" → ∀ req,
      t.2.next? = some (.genericContainer req) → ∃ svc ∈ services, svc.name = t.1.name ∧
        match ownRegistry svc with
        | none => req.image = svc.image
        | some registry => client.pullImage svc.image registry = .ok req.image := by
  obtain ⟨hidle, prepared, hprepared, hinv⟩ := provisionServices_invariant hrange hstart
  have h := hinv.steps hrun
  obtain ⟨done, names, levels, hstage⟩ := h.stage
  have huses : ∀ t ∈ p.run.threads, t.2.Uses (StartsPulled t.1) := by
    refine hrun.uses (fun level cfg => ?_) (by simp [hidle])
    by_cases hcfg : cfg.type = "generic" ∧ ownRegistry cfg = none
    · exact (starts_provisionLevelService hgeneric level hcfg.1 hcfg.2).mono fun _ hop _ _ => hop
    · exact (Program.uses_true _).mono fun _ _ htype hown => absurd ⟨htype, hown⟩ hcfg
  intro t ht htype req hreq
  obtain ⟨i, hi⟩ := List.getElem?_of_mem ht
  have hlevel := List.mem_of_getElem? (h.tasks i t hi)
  rw [hstage.level] at hlevel
  -- the thread of a level provisions a service as it was prepared
  obtain ⟨svc, hsvc, hpulled⟩ := exists_prepared hprepared (mem_services_of_mem hlevel)
  obtain ⟨hname, -, hown⟩ := hpulled.same
  have himage : req.image = t.1.image := by
    have hthread := huses t ht
    cases hq : t.2 with
    | done r =>
        rw [hq] at hreq
        cases hreq
    | call op next =>
        rw [hq] at hthread hreq
        exact hthread.1 htype hown req (Option.some.inj hreq)
  refine ⟨svc, hsvc, hname.symm, ?_⟩
  unfold Prepared at hpulled
  cases hregistry : ownRegistry svc with
  | none =>
      rw [hregistry] at hpulled
      exact himage.trans (congrArg ServiceConfig.image hpulled)
  | some registry =>
      rw [hregistry] at hpulled
      obtain ⟨image, hpull, hcfg⟩ := hpulled
      rw [himage, hcfg]
      exact hpull

end Pulled

/-! ## A service and its database -/

def shopServices : List ServiceConfig :=
  [{ name := "api", type := "generic", image := "shop:1", dependsOn := ["db"] },
    { name := "db", type := "generic", image := "postgres:17"
      registry := some { url := "registry.test" } }]

def plainClient : ImageClient := ⟨.ok (), fun image registry => .ok (registry.url ++ "/" ++ image)⟩

def plainProviders (type : String) : Option ServiceProvider :=
  if type = "generic" then some (genericProvider plainEnvironment) else none

/-- The services once the image of the database is there. -/
def preparedShop : List ServiceConfig :=
  [{ name := "api", type := "generic", image := "shop:1", dependsOn := ["db"] },
    { name := "db", type := "generic", image := "registry.test" ++ "/" ++ "postgres:17" }]

/-- The database is provisioned, and the service begins. -/
def shopLabels : List ProvisionLabel :=
  .nextLevel :: (preparedShop.drop 1).map (fun cfg => .goroutine (.start cfg)) ++
    List.replicate 6 (.goroutine (.call 0 (.done "" 0))) ++
    .nextLevel :: (preparedShop.take 1).map fun cfg => .goroutine (.start cfg)

theorem shop_steps : ∃ p₀ p, provisionServices plainClient (.ok ()) (fun _ => ["db", "api"])
      shopServices = .ok p₀ ∧ ProvisionSteps plainProviders p₀ shopLabels p ∧
    p.run.threads.map (fun t => t.1.dependsOn) = [["db"]] := by
  refine ⟨_, _, rfl, .cons trivial rfl (.cons ?_ rfl (.cons ?_ rfl (.cons ?_ rfl (.cons ?_ rfl
    (.cons ?_ rfl (.cons ?_ rfl (.cons ?_ rfl (.cons trivial rfl (.cons ?_ rfl (.nil _)))))))))),
    rfl⟩
  · exact ⟨by decide, rfl⟩
  · exact ⟨by decide, trivial⟩
  · exact ⟨by decide, trivial⟩
  · exact ⟨by decide, trivial⟩
  · exact ⟨by decide, trivial⟩
  · exact ⟨by decide, trivial⟩
  · exact ⟨by decide, trivial⟩
  · exact ⟨by decide, rfl⟩

theorem provisioning_respects_dependencies_shop :
    ∃ p₀ p, ProvisionSteps plainProviders p₀ shopLabels p ∧
      p.run.threads.map (fun t => t.1.dependsOn) = [["db"]] ∧ p.run.shared.Ready "db" := by
  obtain ⟨p₀, p, hstart, hrun, hthreads⟩ := shop_steps
  have hperm : ["db", "api"].Perm (dependencyGraph shopServices).keys := by decide
  obtain ⟨hready, -⟩ := provisioning_respects_dependencies (fun _ => hperm) hstart hrun
  refine ⟨p₀, p, hrun, hthreads, ?_⟩
  obtain ⟨t, ht, hdeps⟩ := List.map_eq_singleton_iff.1 hthreads
  refine hready t (by rw [ht]; exact List.mem_singleton_self t) "db" ?_
  rw [hdeps]
  exact List.mem_singleton_self "db"

theorem shop_image : ∃ p₀ p t req, provisionServices plainClient (.ok ()) (fun _ => ["db", "api"])
      shopServices = .ok p₀ ∧ ProvisionSteps plainProviders p₀ (shopLabels.take 3) p ∧
    t ∈ p.run.threads ∧ t.1.type = "generic" ∧ t.1.name = "db" ∧
      t.2.next? = some (.genericContainer req) := by
  refine ⟨_, _, _, _, rfl, .cons trivial rfl (.cons ?_ rfl (.cons ?_ rfl (.nil _))),
    List.mem_singleton_self _, rfl, rfl, rfl⟩
  · exact ⟨by decide, rfl⟩
  · exact ⟨by decide, trivial⟩

theorem provisioned_images_shop :
    ∃ p₀ p t req, ProvisionSteps plainProviders p₀ (shopLabels.take 3) p ∧ t ∈ p.run.threads ∧
      t.2.next? = some (.genericContainer req) ∧ req.image = "registry.test/postgres:17" := by
  obtain ⟨p₀, p, t, req, hstart, hrun, ht, htype, hname, hreq⟩ := shop_image
  have hperm : ["db", "api"].Perm (dependencyGraph shopServices).keys := by decide
  have hgeneric : plainProviders "generic" = some (genericProvider plainEnvironment) := rfl
  obtain ⟨svc, hsvc, hsame, himage⟩ :=
    provisioned_images hgeneric (fun _ => hperm) hstart hrun t ht htype req hreq
  refine ⟨p₀, p, t, req, hrun, ht, hreq, ?_⟩
  have hdb : svc = shopServices[1] := by
    rcases List.mem_cons.1 hsvc with rfl | hsvc
    · exact absurd (hname ▸ hsame) (by decide)
    · exact List.mem_singleton.1 hsvc
  subst hdb
  exact (Except.ok.inj himage).symm

end Provider

end TokyoTester
