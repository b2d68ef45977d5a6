import TokyoTester.Bundle.Images
import TokyoTester.Library.Program
import TokyoTester.Tests.Completeness

set_option autoImplicit false

/-! # The generic provider (`pkg/provider/generic.go`, `pkg/orchestrator/orchestrator.go`)

A service of the generic type is provisioned by a sequence of calls to Docker, each of which may
fail: an image is tried from the configured registry and then as it stands, the init scripts run,
and the host and the mapped ports are asked for. The orchestrator runs one such sequence for each
service of a level, all at once, and keeps the containers that they hand over; `CleanUp` terminates
those. Reports, log lines and the logs quoted in an error are left out. -/

namespace TokyoTester

namespace Provider

/-! ## Containers -/

/-- A container: the service it was made for, and how many were made for that service before. -/
structure Container where
  service : String
  index : ℕ
deriving DecidableEq, Repr

/-- `wait.Strategy`, as `CreateWaitStratergy` makes it; the timeout is in seconds. -/
inductive WaitingFor where
  | log (message : String) (timeout : Int64)
  | port (port : String) (timeout : Int64)
  | exec (command : List String) (timeout : Int64)

/-- `testcontainers.ContainerRequest`. The name, the labels and the limits, which the context gives,
    are left out. -/
structure ContainerRequest where
  image : String
  env : GoMap String
  networkAlias : String
  cmd : List String
  exposedPorts : List String
  waitingFor : WaitingFor

/-- What `GenericContainer` returns: an error may come with a container. -/
inductive StartResult where
  | started (container : Container)
  | failed (container : Option Container) (error : String)

/-- What `Provision` returns. -/
inductive Provisioned where
  | ready (container : Container) (runtime : ServiceRuntime)
  | failed (container : Option Container) (error : String)

/-! ## Calls -/

/-- The calls to Docker, and the accesses to what the goroutines of a level share. -/
inductive ContainerOp where
  | genericContainer (req : ContainerRequest)
  | logs (container : Container)
  | exec (container : Container) (command : List String)
  | host (container : Container)
  | mappedPort (container : Container) (port : String)
  | terminate (container : Container)
  /-- Receives from the channel that is closed once a service is ready. -/
  | awaitReady (service : String)
  /-- The runtimes registered so far. -/
  | runtimes
  /-- `o.containers[serviceName] = container`. -/
  | keep (service : String) (container : Container)
  | register (runtime : ServiceRuntime)
  | closeReady (service : String)

abbrev ContainerOp.Reply : ContainerOp → Type
  | .genericContainer _ => StartResult
  | .logs _ | .host _ | .mappedPort _ _ => Except String String
  | .exec _ _ => Except String (Int × String)
  | .terminate _ => Except String Unit
  | .runtimes => RuntimeRegistry
  | .awaitReady _ | .keep _ _ | .register _ | .closeReady _ => Unit

abbrev ContainerProgram (α : Type) := Program ContainerOp ContainerOp.Reply α

/-- A call as the next step of a program. -/
def call (op : ContainerOp) : ContainerProgram op.Reply := Program.perform op

/-! ## Requests -/

/-- `CreateWaitStratergy` (`pkg/wait`). -/
def createWaitStratergy (cfg : WaitStratergyConfig) : Except String WaitingFor :=
  let timeout := if cfg.timeout = 0 then 60 else cfg.timeout
  match cfg.type with
  | "log" =>
    if cfg.target = "" then .error "log wait stratergy required a wait message"
    else .ok (.log cfg.target timeout)
  | "port" =>
    if cfg.target = "" then .error "port startegry needs the port defination"
    else .ok (.port cfg.target timeout)
  | "exec" =>
    if cfg.target = "" then .error "exec wait stratergy needs command"
    else .ok (.exec ["sh", "-c", cfg.target] timeout)
  | type => .error ("unknkonw wait stratergy type " ++ type)

/-- The container port of a mapping `host:container`. -/
def containerPort (portMapping : String) : Option String :=
  match Text.splitAt ':' portMapping.toList with
  | [_, port] => some (String.ofList port)
  | _ => none

/-- The loop of `Provision` over the port mappings. -/
def exposedPorts : List String → Except String (List String)
  | [] => .ok []
  | portMapping :: rest =>
    match containerPort portMapping with
    | some port => (exposedPorts rest).map (port :: ·)
    | none => .error ("invalid port mapping format , " ++ portMapping ++ " (expected host:container)")

/-- The wait strategy of `Provision`: without one, any line of the logs is enough. -/
def waitingFor (cfg : ServiceConfig) : Except String WaitingFor :=
  if cfg.waitStratergy.type = "" then .ok (.log "" 60)
  else (createWaitStratergy cfg.waitStratergy).mapError fun e =>
    "faild to create the wait startergy, " ++ e

/-- The request of `Provision`. -/
def containerRequest (cfg : ServiceConfig) : Except String ContainerRequest := do
  let exposedPorts ← exposedPorts cfg.ports
  let waitingFor ← waitingFor cfg
  .ok { image := cfg.image, env := cfg.env, networkAlias := cfg.name, cmd := cfg.command
        exposedPorts, waitingFor }

/-! ## Provisioning -/

/-- `describeAndCleanupFailedContainer`: the error of the start. -/
def describeAndCleanupFailedContainer (container : Option Container) (startErr : String) :
    ContainerProgram String :=
  match container with
  | none => pure startErr
  | some container => do
    let logs ← call (.logs container)
    let _ ← call (.terminate container)
    match logs with
    | .ok raw =>
      -- 64 KiB of the logs are read
      let details := Text.trimSpace (Text.takeBytes 65536 raw)
      pure (if details = "" then startErr else startErr ++ "; container logs: " ++ details)
    | .error _ => pure startErr

/-- `ResolveImageName` (`pkg/registry/resolver.go`). -/
def resolveImageName (hosts : Hosts) (parse : ReferenceParser) (imageName : String)
    (reg : Option RegistryConfig) : String :=
  match resolveImageNameChecked hosts parse imageName reg with
  | .ok resolved => resolved
  | .error _ => imageName

/-- The parameters of the code: addresses, registry hosts and the reference grammar. -/
structure Environment where
  lib : Libraries
  hosts : Hosts
  parse : ReferenceParser

/-- The last attempt of `createContainerWithFallback`: the image as it stands. -/
def createOriginal (req : ContainerRequest) : ContainerProgram (Except String Container) := do
  match ← call (.genericContainer req) with
  | .started container => pure (.ok container)
  | .failed container err =>
    let described ← describeAndCleanupFailedContainer container err
    pure (.error ("failed to create or start image " ++ req.image ++ ": " ++ described))

/-- `createContainerWithFallback`. -/
def createContainerWithFallback (env : Environment) (cfg : ServiceConfig) (req : ContainerRequest) :
    ContainerProgram (Except String Container) :=
  match cfg.registry with
  | none => createOriginal req
  | some registry =>
    if registry.url = "" then createOriginal req
    else do
      let customImage := resolveImageName env.hosts env.parse req.image (some registry)
      match ← call (.genericContainer { req with image := customImage }) with
      | .started container => pure (.ok container)
      | .failed container err =>
        let _ ← describeAndCleanupFailedContainer container err
        createOriginal req

/-- The loop of `Provision` over the init scripts: the first one that fails ends the container. -/
def runInitScripts (container : Container) : ℕ → List String → ContainerProgram (Option String)
  | _, [] => pure none
  | i, script :: scripts => do
    match ← call (.exec container ["sh", "-c", script]) with
    | .error err =>
      let _ ← call (.terminate container)
      pure (some ("failed to execute the init script " ++ Text.decimal i ++ ": " ++ err))
    | .ok (exitCode, stdout) =>
      if exitCode ≠ 0 then
        let _ ← call (.terminate container)
        pure (some ("init script " ++ Text.decimal i ++ " exited with code " ++
          Text.decimal exitCode ++ ":" ++ stdout))
      else runInitScripts container (i + 1) scripts

/-- The loop of `buildRuntime` over the port mappings. -/
def mapPorts (container : Container) :
    List String → GoMap String → ContainerProgram (Except String (GoMap String))
  | [], mapped => pure (.ok mapped)
  | portMapping :: rest, mapped =>
    match containerPort portMapping with
    | none => mapPorts container rest mapped
    | some port => do
      match ← call (.mappedPort container port) with
      | .error err => pure (.error ("failed to get the mapped port for " ++ port ++ ":" ++ err))
      | .ok hostPort => mapPorts container rest (GoMap.set mapped port hostPort)

/-- `buildRuntime`. -/
def buildRuntime (env : Environment) (cfg : ServiceConfig) (container : Container) :
    ContainerProgram (Except String ServiceRuntime) := do
  match ← call (.host container) with
  | .error err => pure (.error ("failed to get the container host: " ++ err))
  | .ok host =>
    match ← mapPorts container cfg.ports .empty with
    | .error err => pure (.error err)
    | .ok mappedPorts =>
      pure (.ok { name := cfg.name, host := addressableHost env.lib host, mappedPorts
                  envVars := cfg.env })

/-- `Provision` once the container runs. -/
def prepare (env : Environment) (cfg : ServiceConfig) (container : Container) :
    ContainerProgram Provisioned := do
  match ← runInitScripts container 0 cfg.initScripts with
  | some err => pure (.failed none err)
  | none =>
    match ← buildRuntime env cfg container with
    | .error err => pure (.failed none ("failed to build runtime info: " ++ err))
    | .ok runtime => pure (.ready container runtime)

/-- `GenericProvider.Provision`. -/
def provision (env : Environment) (cfg : ServiceConfig) : ContainerProgram Provisioned :=
  if cfg.image = "" then pure (.failed none "image is required for generic container")
  else
    match containerRequest cfg with
    | .error err => pure (.failed none err)
    | .ok req => do
      match ← createContainerWithFallback env cfg req with
      | .error err => pure (.failed none ("failed to start the container: " ++ err))
      | .ok container => prepare env cfg container

/-! ## A level of services -/

/-- The goroutine of `provisionlevel` for one service of the generic type. -/
def provisionService (env : Environment) (level : List ServiceConfig) (cfg : ServiceConfig) :
    ContainerProgram (Except String Unit) := do
  let awaited := cfg.dependsOn.filter fun dep => (level.map (·.name)).contains dep
  Program.forEach (fun dep => call (.awaitReady dep)) awaited
  let runtimes ← call .runtimes
  match interpolateService (resolveReference runtimes) cfg with
  | .error err => pure (.error ("service environment interpolation failed: " ++ err))
  | .ok finalCfg => do
    match ← provision env finalCfg with
    | .failed container err =>
      match container with
      | none => pure (.error ("service provisioning failed: " ++ err))
      | some container => do
        call (.keep cfg.name container)
        pure (.error ("service provisioning failed: " ++ err))
    | .ready container runtime => do
      call (.keep cfg.name container)
      call (.register runtime)
      call (.closeReady cfg.name)
      pure (.ok ())

end Provider

end TokyoTester
