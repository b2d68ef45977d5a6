import TokyoTester.Runs.Store

set_option autoImplicit false

/-! # What the runner's threads call

The goroutines of the workflow service are programs over the calls below: the store, the clock
and the random source, their own context, and the container environment. The environment answers
every call; only the store's replies are computed. A call that is bound to a cancelled context
fails at once; a detached one (`context.WithoutCancel`) does not look at the context. -/

namespace TokyoTester

/-! ## Contexts -/

/-- Why a context was cancelled (`context.Cause`). -/
inductive Cause where
  /-- `ErrWorkflowCancellationRequested`, seen by the lease heartbeat. -/
  | cancellationRequested
  /-- The lease heartbeat failed. -/
  | leaseLost (message : String)
  /-- The service is shutting down. -/
  | shutdown
deriving DecidableEq, Repr, Inhabited

/-- A context that can be cancelled once. -/
inductive Context where
  | live
  | cancelled (cause : Cause)
deriving DecidableEq, Repr, Inhabited

namespace Context

def cause? : Context → Option Cause
  | live => none
  | cancelled cause => some cause

/-- Cancelling: the first cause stays. -/
def cancel (cause : Cause) : Context → Context
  | live => cancelled cause
  | cancelled cause => cancelled cause

end Context

/-- The text of a cancellation cause. -/
def Cause.message : Cause → String
  | .cancellationRequested => "workflow cancellation requested"
  | .leaseLost message => "workflow lease heartbeat failed: " ++ message
  | .shutdown => "context canceled"

/-- `ctx.Err().Error()`. -/
def contextCanceled : String := "context canceled"

/-! ## The environment -/

/-- What a provisioned environment reports about itself, as JSON texts. -/
structure ProvisionedRuntime where
  containerIds : String := ""
  runtimeSnapshot : String := ""
deriving DecidableEq, Repr, Inhabited

/-- A test that failed when it ran. -/
structure TestFailure where
  error : ExecutionError
  containerLogs : GoMap String := .empty
deriving Inhabited

/-- What running a test gives. -/
inductive TestRun where
  /-- Its configuration refers to something that is not there. -/
  | notInterpolated (error : ExecutionError)
  /-- It ran, perhaps twice. -/
  | executed (retryReason : Option String) (attempts : List Dto.TestAttempt) (durationMs : Int64)
      (recovered : Bool) (failure : Option TestFailure)
deriving Inhabited

/-- The nonce of an encryption. -/
abbrev Nonce := {b : Bytes // b.length = 12}

instance : Inhabited Nonce := ⟨⟨List.replicate 12 0, rfl⟩⟩

/-! ## Calls -/

/-- A call of a thread. -/
inductive Op where
  | store (detached : Bool) (op : StoreOp)
  /-- `ctx.Err()` and `context.Cause(ctx)`. -/
  | contextCause
  /-- `time.Now()`. -/
  | now
  /-- `uuid.NewString()`. -/
  | newId
  /-- Twelve bytes of the random source. -/
  | nonce
  /-- A pause that ends early when the context is cancelled. -/
  | wait
  /-- `acquireDurableSlot`. -/
  | acquireSlot
  /-- `CleanupSessionResources`. -/
  | cleanResources (sessionId : String)
  /-- `ProvisionServices`. -/
  | provisionServices (services : List ServiceConfig)
  /-- Interpolation and execution of a test. -/
  | runTest (test : TestConfig)
  /-- `DeleteWithContext` of the session manager, detached. -/
  | deleteSession (sessionId : String)
  /-- `go heartbeatSession`. -/
  | startHeartbeat (persistedId : String)
  /-- The end of the heartbeat's context. -/
  | stopHeartbeat

/-- What a call returns. -/
abbrev Reply : Op → Type
  | .store _ op => Except DbError op.Value
  | .contextCause => Option Cause
  | .now => Time
  | .newId => String
  | .nonce => Nonce
  | .wait => Option Cause
  | .acquireSlot => Option Cause
  | .cleanResources _ => Option String
  | .provisionServices _ => List Activity × Except ExecutionError ProvisionedRuntime
  | .runTest _ => TestRun
  | .deleteSession _ => List Activity × Option ExecutionError
  | .startHeartbeat _ => Unit
  | .stopHeartbeat => Unit

/-- A program of the runner. -/
abbrev Task (α : Type) := Program Op Reply α

/-- The environment's answer to a call. -/
structure Answer where
  now : Time := 0
  fault : Fault := .none
  id : String := ""
  nonce : Nonce := default
  /-- Whether a slot came before the cancellation. -/
  granted : Bool := true
  activities : List Activity := []
  failure : Option ExecutionError := none
  runtime : ProvisionedRuntime := {}
  test : TestRun := default
deriving Inhabited

/-- What a thread's calls read and write: the database, the context of its execution, and the
    session its heartbeat runs for. -/
structure ThreadState where
  db : Database
  context : Context := .live
  heartbeat : Option String := none
deriving Inhabited

/-- The answer to a call. -/
def handle : (op : Op) → Answer → ThreadState → Reply op × ThreadState
  | .store detached op, a, s =>
    if !detached && s.context.cause?.isSome then (.error (.text contextCanceled), s)
    else
      let r := op.call a.fault a.now s.db
      (r.1, { s with db := r.2 })
  | .contextCause, _, s => (s.context.cause?, s)
  | .now, a, s => (a.now, s)
  | .newId, a, s => (a.id, s)
  | .nonce, a, s => (a.nonce, s)
  | .wait, _, s => (s.context.cause?, s)
  | .acquireSlot, a, s => (if a.granted then none else s.context.cause?, s)
  | .cleanResources _, a, s => (a.failure.map (·.text), s)
  | .provisionServices _, a, s =>
    ((a.activities, match a.failure with
      | some e => .error e
      | none => .ok a.runtime), s)
  | .runTest _, a, s => (a.test, s)
  | .deleteSession _, a, s => ((a.activities, a.failure), s)
  | .startHeartbeat id, _, s => ((), { s with heartbeat := some id })
  | .stopHeartbeat, _, s => ((), { s with heartbeat := none })

/-- The answer to a call of a thread whose context is live. A call that a cancelled context
    refuses has a fault of that kind. -/
def handleLive (op : Op) (a : Answer) (db : Database) : Reply op × Database :=
  let r := handle op a { db }
  (r.1, r.2.db)

theorem handleLive_store (detached : Bool) (op : StoreOp) (a : Answer) (db : Database) :
    handleLive (.store detached op) a db = op.call a.fault a.now db := by
  simp [handleLive, handle, Context.cause?]

namespace Task

/-- A call of the store, bound to the context or detached from it. -/
def store (detached : Bool) (op : StoreOp) : Task (Except DbError op.Value) :=
  Program.perform (Op.store detached op)

def contextCause : Task (Option Cause) := Program.perform Op.contextCause

def now : Task Time := Program.perform Op.now

def newId : Task String := Program.perform Op.newId

end Task

end TokyoTester
