import TokyoTester.Database.Client
import TokyoTester.Library.Codec
import TokyoTester.Library.Memo
import TokyoTester.Library.Text

set_option autoImplicit false

/-! # The janitor (`pkg/janitor/service.go`)

A sweep lists the managed containers and networks, looks the session of each one up by its labels,
and removes those whose session has expired or is not known. The sessions that were looked up are
cached over the sweep, also the ones that were not found. Instants of the sweep are in nanoseconds,
those of the sessions in milliseconds. -/

namespace TokyoTester.Janitor

open Memo

def labelSessionId : String := "cots.session_id"

def labelBackendSessionId : String := "cots.backend_session_id"

abbrev Labels := GoMap String

/-- `sessionStore`, at the instant of a sweep. -/
structure SessionStore where
  getSession : String → Except String Session
  getSessionByBackendSessionId : String → Except String Session

/-- The statements of the store on a database; of several sessions that were updated last, the one
    that a query gives is the server's choice `tie`. -/
def sessionStoreOf (db : Database) (tie : Nat) : SessionStore where
  getSession id :=
    match db.sessions.find? fun s => s.id = id && !s.isDeleted with
    | some s => .ok s
    | none => .error ("session not found: " ++ id)
  getSessionByBackendSessionId backendSessionId :=
    let rows := db.sessions.filter fun s => s.backendSessionId = backendSessionId && !s.isDeleted
    let latest := rows.filter fun s => rows.all fun s' => s'.updatedAt ≤ s.updatedAt
    match latest[tie % latest.length]? with
    | some s => .ok s
    | none => .error ("session not found for backend_session_id: " ++ backendSessionId)

/-- `containerTypes.Summary`. -/
structure Container where
  id : String
  labels : Labels
  created : Int

/-- `networkTypes.Summary`. -/
structure Network where
  id : String
  name : String
  labels : Labels
  created : Int
  containers : List String

/-- What the daemon lists: resources of their own ids. -/
structure Listing (ρ : Type) (id : ρ → String) where
  items : List ρ
  nodup : (items.map id).Nodup

/-- `dockerAPI`. -/
structure Docker where
  containerList : Except String (Listing Container Container.id)
  networkList : Except String (Listing Network Network.id)
  containerRemove : String → Option String
  networkRemove : String → Option String
  imagesPrune : Except String Nat
  volumesPrune : Except String Nat
  buildCachePrune : Except String Nat

structure JanitorConfig where
  orphanTtlSec : Int
  mode : String
  dryRun : Bool

def modeOwnershipPlusDanglingPrune : String := "ownership_plus_dangling_prune"

structure Service where
  cfg : JanitorConfig
  store : Option SessionStore
  docker : Docker

/-- `containerDecision` and `networkDecision`. -/
structure Decision where
  remove : Bool := false
  reason : String := ""
deriving DecidableEq

/-! ## Instants -/

/-- `time.Time.Sub`, which saturates. -/
def sub (t u : Int) : Int := max (-2 ^ 63) (min (2 ^ 63 - 1) (t - u))

/-- `time.Duration(n) * time.Second`, which wraps around. -/
def seconds (n : Int) : Int := (n * 10 ^ 9).bmod (2 ^ 64)

/-- `time.Unix(n, 0)`. -/
def unix (n : Int) : Int := n * 10 ^ 9

/-- The instant of a column. -/
def instant (t : Time) : Int := t * 10 ^ 6

namespace Service

variable (s : Service) (now : Int)

def orphanTtl : Int := seconds s.cfg.orphanTtlSec

def sessionProtected (session : Session) : Bool :=
  if session.leaseExpiresAt.any fun t => now < instant t then true
  else if session.status = .running then
    session.heartbeatAt.any fun t => sub now (instant t) < s.orphanTtl
  else false

/-- The instant that the age of a session is counted from. -/
def referenceTime (session : Session) : Time :=
  ((session.completedAt.or session.heartbeatAt).or session.startedAt).getD session.updatedAt

def sessionExpired (session : Session) : Bool :=
  if session.leaseExpiresAt.any fun t => now < instant t then false
  else s.orphanTtl ≤ sub now (instant (referenceTime session))

/-! ## The lookup of a session -/

def isNotFoundError (err : String) : Bool := Text.contains (Text.toLower err) "not found"

/-- `strings.TrimSpace(labels[name])`, unless it is empty. -/
@[irreducible] def labelValue (labels : Labels) (name : String) : Option String :=
  let value := Text.trimSpace ((labels.get? name).getD "")
  if value ≠ "" then some value else none

abbrev LookupCache := Cache String Session

/-- `lookupSession`: the session that was found, and whether the database is available. -/
def lookupSession (labels : Labels) (cache : LookupCache) :
    Except String (Option Session × Bool) × LookupCache :=
  match s.store with
  | none => (.ok (none, false), cache)
  | some store =>
    let byBackend (cache : LookupCache) : Except String (Option Session × Bool) × LookupCache :=
      match labelValue labels labelBackendSessionId with
      | none => (.ok (none, true), cache)
      | some backendSessionId =>
        let cacheKey := "backend:" ++ backendSessionId
        match cache cacheKey with
        | some cached => (.ok (cached, true), cache)
        | none =>
          match store.getSessionByBackendSessionId backendSessionId with
          | .ok sess => (.ok (some sess, true), Function.update cache cacheKey (some (some sess)))
          | .error err =>
            if !isNotFoundError err then
              (.error ("lookup backend session " ++ backendSessionId ++ ": " ++ err), cache)
            else (.ok (none, true), Function.update cache cacheKey (some none))
    match labelValue labels labelSessionId with
    | none => byBackend cache
    | some sessionId =>
      let cacheKey := "session:" ++ sessionId
      match cache cacheKey with
      | some cached => (.ok (cached, true), cache)
      | none =>
        match store.getSession sessionId with
        | .ok sess => (.ok (some sess, true), Function.update cache cacheKey (some (some sess)))
        | .error err =>
          if !isNotFoundError err then
            (.error ("lookup session " ++ sessionId ++ ": " ++ err), cache)
          else byBackend (Function.update cache cacheKey (some none))

/-! ## The classification of a resource -/

/-- What follows from the session of a resource. -/
def decision (kind : String) (createdAt : Int) (session : Option Session) : Decision :=
  match session with
  | some sess =>
    if s.sessionProtected now sess then {}
    else if s.sessionExpired now sess then
      { remove := true, reason := "expired persisted session" }
    else {}
  | none =>
    if s.orphanTtl ≤ sub now createdAt then
      { remove := true, reason := "unknown managed " ++ kind ++ " past orphan ttl" }
    else {}

/-- The part that `classifyContainer` and `classifyNetwork` share: the decision, and whether the
    database is available. -/
def classify (kind : String) (labels : Labels) (createdAt : Int) (cache : LookupCache) :
    Except String (Decision × Bool) × LookupCache :=
  match s.lookupSession labels cache with
  | (.error err, cache) => (.error err, cache)
  | (.ok (session, dbAvailable), cache) =>
    if !dbAvailable then (.ok ({}, false), cache)
    else (.ok (s.decision now kind createdAt session, true), cache)

def classifyContainer (container : Container) (cache : LookupCache) :
    Except String (Decision × Bool) × LookupCache :=
  s.classify now "container" container.labels (unix container.created) cache

/-- A network is kept if one of its containers is. -/
def networkInUse (network : Network) (containerDecisions : String → Option Decision) : Bool :=
  network.containers.any fun containerId =>
    !(containerDecisions containerId).any Decision.remove

/-- The labels that a network is looked up by, if it is. -/
def networkAsks (containerDecisions : String → Option Decision) (network : Network) :
    Option Labels :=
  if networkInUse network containerDecisions then none else some network.labels

def classifyNetwork (network : Network) (cache : LookupCache)
    (containerDecisions : String → Option Decision) :
    Except String (Decision × Bool) × LookupCache :=
  if networkInUse network containerDecisions then (.ok ({}, true), cache)
  else s.classify now "network" network.labels network.created cache

/-! ## The sweep -/

/-- A call of `lookupSession`: the labels and the cache as it was. -/
abbrev Call := Labels × LookupCache

/-- A loop of the sweep over the managed resources. -/
structure Sweeping where
  cache : LookupCache
  logOnly : Bool
  decisions : String → Option Decision := fun _ => none
  error : Option String := none
  /-- The lookups so far, which the code does not keep. -/
  calls : List Call := []

/-- What the loops do with a resource that was classified. -/
def Sweeping.next (st : Sweeping) (id : String) (calls : List Call)
    (classified : Except String (Decision × Bool) × LookupCache) : Sweeping :=
  match classified with
  | (.error err, cache) => { st with cache := cache, error := some err, calls := st.calls ++ calls }
  | (.ok (decision, dbAvailable), cache) =>
    { st with
      cache := cache, logOnly := st.logOnly || !dbAvailable
      decisions := Function.update st.decisions id (some decision), calls := st.calls ++ calls }

/-- A loop over resources, the lookups of which are for the labels `asks`. -/
def loop {ρ : Type} (id : ρ → String) (asks : ρ → Option Labels)
    (classify : ρ → LookupCache → Except String (Decision × Bool) × LookupCache) :
    List ρ → Sweeping → Sweeping
  | [], st => st
  | r :: rs, st =>
    let st' := st.next (id r) ((asks r).toList.map fun labels => (labels, st.cache))
      (classify r st.cache)
    if st'.error.isSome then st' else loop id asks classify rs st'

def containerLoop : List Container → Sweeping → Sweeping :=
  loop Container.id (fun container => some container.labels) (s.classifyContainer now)

def networkLoop (containerDecisions : String → Option Decision) :
    List Network → Sweeping → Sweeping :=
  loop Network.id (networkAsks containerDecisions)
    (fun network cache => s.classifyNetwork now network cache containerDecisions)

/-- The state that the loop over the networks starts with. -/
def Sweeping.toNetworks (st : Sweeping) : Sweeping := { st with decisions := fun _ => none }

structure SweepStats where
  managedContainers : Nat := 0
  managedNetworks : Nat := 0
  containersRemoved : Nat := 0
  networksRemoved : Nat := 0
  imagesReclaimed : Nat := 0
  volumesReclaimed : Nat := 0
  cacheReclaimed : Nat := 0

/-- What a sweep does: the resources it tells the daemon to remove, what it counts, the error it
    returns, and its lookups. -/
structure SweepReport where
  containersRemoved : List String := []
  networksRemoved : List String := []
  stats : SweepStats := {}
  error : Option String := none
  calls : List Call := []

/-- The resources that a decision flags. -/
def flagged {ρ : Type} (id : ρ → String) (decisions : String → Option Decision)
    (resources : List ρ) : List String :=
  (resources.map id).filter fun i => (decisions i).any Decision.remove

def reclaimed (prune : Bool) (report : Except String Nat) : Nat :=
  if prune then report.toOption.getD 0 else 0

def sweep : SweepReport :=
  match s.docker.containerList with
  | .error err => { error := some ("list managed containers: " ++ err) }
  | .ok managedContainers =>
    match s.docker.networkList with
    | .error err => { error := some ("list managed networks: " ++ err) }
    | .ok managedNetworks =>
      let st := s.containerLoop now managedContainers.items
        { cache := Cache.empty, logOnly := s.store.isNone }
      if st.error.isSome then { error := st.error, calls := st.calls }
      else
        let st' := s.networkLoop now st.decisions managedNetworks.items st.toNetworks
        if st'.error.isSome then { error := st'.error, calls := st'.calls }
        else
          let removes := !(s.cfg.dryRun || st'.logOnly)
          let containers :=
            if removes then flagged Container.id st.decisions managedContainers.items else []
          let networks :=
            if removes then flagged Network.id st'.decisions managedNetworks.items else []
          let prune := removes && s.cfg.mode = modeOwnershipPlusDanglingPrune
          { containersRemoved := containers
            networksRemoved := networks
            stats := {
              managedContainers := managedContainers.items.length
              managedNetworks := managedNetworks.items.length
              containersRemoved := containers.countP fun i => (s.docker.containerRemove i).isNone
              networksRemoved := networks.countP fun i => (s.docker.networkRemove i).isNone
              imagesReclaimed := reclaimed prune s.docker.imagesPrune
              volumesReclaimed := reclaimed prune s.docker.volumesPrune
              cacheReclaimed := reclaimed prune s.docker.buildCachePrune }
            calls := st'.calls }

/-! ## What the janitor must not do -/

/-- The session that labels designate, by session id or failing that by backend session id. -/
def designated (labels : Labels) : Option Session :=
  s.store.bind fun store =>
    ((labelValue labels labelSessionId).bind fun id => (store.getSession id).toOption).or
      ((labelValue labels labelBackendSessionId).bind fun id =>
        (store.getSessionByBackendSessionId id).toOption)

/-- Every lookup of the sweep gives what it gives with an empty cache. -/
def LookupsFresh : Prop :=
  ∀ call ∈ (s.sweep now).calls,
    (s.lookupSession call.1 call.2).1 = (s.lookupSession call.1 Cache.empty).1

/-- The sweep removes nothing that belongs to a protected session. -/
def KeepsProtected : Prop :=
  (∀ containers, s.docker.containerList = .ok containers → ∀ c ∈ containers.items,
      c.id ∈ (s.sweep now).containersRemoved →
        ∀ session, s.designated c.labels = some session → s.sessionProtected now session = false) ∧
    ∀ networks, s.docker.networkList = .ok networks → ∀ n ∈ networks.items,
      n.id ∈ (s.sweep now).networksRemoved →
        ∀ session, s.designated n.labels = some session → s.sessionProtected now session = false

/-! ## The condition -/

/-- What an answer of the store means: none if nothing was found. -/
def stored (context : String) : Except String Session → Except String (Option Session)
  | .ok sess => .ok (some sess)
  | .error err => if !isNotFoundError err then .error (context ++ ": " ++ err) else .ok none

/-- What the store has for a key of the cache. -/
def answers (store : SessionStore) (cacheKey : String) : Except String (Option Session) :=
  let id := String.ofList (cacheKey.toList.drop 8)
  if Text.hasPrefix cacheKey "session:" then
    stored ("lookup session " ++ id) (store.getSession id)
  else stored ("lookup backend session " ++ id) (store.getSessionByBackendSessionId id)

/-- The keys that labels are looked up by. -/
def question (labels : Labels) : Question String where
  first := (labelValue labels labelSessionId).map ("session:" ++ ·)
  second := (labelValue labels labelBackendSessionId).map ("backend:" ++ ·)

/-- What a container is classified as with an empty cache. -/
def ownDecision (container : Container) : Decision :=
  match (s.classifyContainer now container Cache.empty).1 with
  | .ok (decision, _) => decision
  | .error _ => {}

/-- The labels of the resources that are looked up: those of the containers, and those of the
    networks all of whose containers are to be removed. -/
def askedLabels : List Labels :=
  match s.docker.containerList, s.docker.networkList with
  | .ok containers, .ok networks =>
    containers.items.map Container.labels ++
      (networks.items.filter fun network =>
        !networkInUse network fun id =>
          (containers.items.find? fun c => c.id = id).map (s.ownDecision now)).map Network.labels
  | _, _ => []

/-- No resource whose session id is not stored, but which its backend session id gives a session
    (or an error of the store), is looked up after another one with its session id. -/
def NoneShadowed : Prop :=
  ∀ store, s.store = some store → Clear (answers store) [] ((s.askedLabels now).map question)

variable {s} {now} {store : SessionStore}

/-! ## A lookup is a question to the store -/

theorem hasPrefix_session (id : String) : Text.hasPrefix ("session:" ++ id) "session:" = true := by
  simp [Text.hasPrefix, String.toList_append]

theorem hasPrefix_backend (id : String) :
    Text.hasPrefix ("backend:" ++ id) "session:" = false := by
  simp [Text.hasPrefix, String.toList_append, List.isPrefixOf]

theorem answers_session (id : String) :
    answers store ("session:" ++ id)
      = stored ("lookup session " ++ id) (store.getSession id) := by
  simp [answers, hasPrefix_session, String.toList_append]

theorem answers_backend (id : String) :
    answers store ("backend:" ++ id)
      = stored ("lookup backend session " ++ id) (store.getSessionByBackendSessionId id) := by
  simp [answers, hasPrefix_backend, String.toList_append]

theorem levelled_question (labels : Labels) :
    Levelled (fun key => Text.hasPrefix key "session:" = true) (question labels) := by
  constructor
  · intro k hk
    obtain ⟨id, -, rfl⟩ := Option.map_eq_some_iff.1 hk
    exact hasPrefix_session id
  · intro k hk
    obtain ⟨id, -, rfl⟩ := Option.map_eq_some_iff.1 hk
    simp [hasPrefix_backend]

/-- The part of the lookup that goes by the backend session id. -/
theorem byBackend_eq (labels : Labels) (cache : LookupCache) :
    (match labelValue labels labelBackendSessionId with
      | none => (.ok (none, true), cache)
      | some id =>
        match cache ("backend:" ++ id) with
        | some cached => (.ok (cached, true), cache)
        | none =>
          match store.getSessionByBackendSessionId id with
          | .ok sess =>
            (.ok (some sess, true), Function.update cache ("backend:" ++ id) (some (some sess)))
          | .error err =>
            if !isNotFoundError err then
              (.error ("lookup backend session " ++ id ++ ": " ++ err), cache)
            else (.ok (none, true), Function.update cache ("backend:" ++ id) (some none)) :
        Except String (Option Session × Bool) × LookupCache)
      = ((attempt (answers store) (question labels).second
            (fun cache => (.ok none, cache)) cache).1.map (·, true),
          (attempt (answers store) (question labels).second
            (fun cache => (.ok none, cache)) cache).2) := by
  unfold attempt question
  cases labelValue labels labelBackendSessionId with
  | none => rfl
  | some id =>
      simp only [Option.map_some]
      cases cache ("backend:" ++ id) with
      | some cached => rfl
      | none =>
          rw [answers_backend]
          cases store.getSessionByBackendSessionId id with
          | ok sess => rfl
          | error err =>
              cases h : isNotFoundError err <;> simp [stored, h, Except.map]

/-- **A lookup is a question to the store.** -/
theorem lookupSession_eq (hstore : s.store = some store) (labels : Labels) (cache : LookupCache) :
    s.lookupSession labels cache =
      ((ask (answers store) (question labels) cache).1.map (·, true),
        (ask (answers store) (question labels) cache).2) := by
  unfold lookupSession ask
  rw [hstore]
  dsimp only
  have hfirst : (question labels).first
      = (labelValue labels labelSessionId).map ("session:" ++ ·) := rfl
  rw [hfirst]
  cases labelValue labels labelSessionId with
  | none => exact byBackend_eq labels cache
  | some id =>
      rw [Option.map_some, attempt_some]
      dsimp only
      cases cache ("session:" ++ id) with
      | some cached => rfl
      | none =>
          rw [answers_session]
          cases store.getSession id with
          | ok sess => rfl
          | error err =>
              cases h : isNotFoundError err with
              | false => simp [stored, h, Except.map]
              | true =>
                  simp only [stored, h, Bool.not_true, Bool.false_eq_true, if_false]
                  exact byBackend_eq labels _

theorem lookup_fresh_iff (hstore : s.store = some store) (labels : Labels) (cache : LookupCache) :
    (s.lookupSession labels cache).1 = (s.lookupSession labels Cache.empty).1 ↔
      (ask (answers store) (question labels) cache).1
        = fresh (answers store) (question labels) := by
  rw [lookupSession_eq hstore, lookupSession_eq hstore]
  show Except.map _ _ = Except.map _ (fresh (answers store) (question labels)) ↔ _
  have hinj : ∀ r r' : Except String (Option Session),
      r.map (fun session => (session, true)) = r'.map (fun session => (session, true)) ↔
        r = r' := by
    intro r r'
    cases r <;> cases r' <;> simp [Except.map]
  exact hinj _ _

/-! ## The loops -/

section Loop

variable {ρ : Type} {id : ρ → String} {asks : ρ → Option Labels} {kind : String}
  {createdAt : ρ → Int}

/-- How a resource of a loop is classified. -/
def classifyAsked (s : Service) (now : Int) (asks : ρ → Option Labels) (kind : String)
    (createdAt : ρ → Int) (r : ρ) (cache : LookupCache) :
    Except String (Decision × Bool) × LookupCache :=
  match asks r with
  | none => (.ok ({}, true), cache)
  | some labels => s.classify now kind labels (createdAt r) cache

theorem containerLoop_eq :
    s.containerLoop now = loop Container.id (fun container => some container.labels)
      (s.classifyAsked now (fun container => some container.labels) "container"
        fun container => unix container.created) := rfl

theorem networkLoop_eq (containerDecisions : String → Option Decision) :
    s.networkLoop now containerDecisions = loop Network.id (networkAsks containerDecisions)
      (s.classifyAsked now (networkAsks containerDecisions) "network" Network.created) := by
  unfold networkLoop
  congr 1
  funext network cache
  unfold classifyNetwork classifyAsked networkAsks
  by_cases h : networkInUse network containerDecisions = true
  · simp [h]
  · simp [h]

/-- The questions of a loop. -/
def questions (asks : ρ → Option Labels) (rs : List ρ) : List (Question String) :=
  (rs.filterMap asks).map question

/-- A call as the store sees it. -/
def Call.ask (call : Call) : Question String × LookupCache := (question call.1, call.2)

/-- The state of a loop after a resource that is not looked up. -/
def Sweeping.kept (st : Sweeping) (i : String) : Sweeping :=
  { st with decisions := Function.update st.decisions i (some {}) }

/-- The state of a loop after a resource that was looked up. -/
def Sweeping.decided (st : Sweeping) (i : String) (labels : Labels) (cache : LookupCache)
    (decision : Decision) : Sweeping :=
  { st with
    cache := cache, decisions := Function.update st.decisions i (some decision)
    calls := st.calls ++ [(labels, st.cache)] }

variable {r : ρ} {rs : List ρ} {st : Sweeping} {labels : Labels} {cache : LookupCache}

theorem loop_cons_none (hst : st.error = none) (hasks : asks r = none) :
    loop id asks (s.classifyAsked now asks kind createdAt) (r :: rs) st
      = loop id asks (s.classifyAsked now asks kind createdAt) rs (st.kept (id r)) := by
  have hnext : st.next (id r) ((asks r).toList.map fun labels => (labels, st.cache))
      (s.classifyAsked now asks kind createdAt r st.cache) = st.kept (id r) := by
    simp [classifyAsked, hasks, Sweeping.next, Sweeping.kept]
  have hkept : (st.kept (id r)).error = none := hst
  rw [loop, hnext]
  simp [hkept]

theorem loop_cons_error (hstore : s.store = some store) (hasks : asks r = some labels)
    {err : String} (hask : ask (answers store) (question labels) st.cache = (.error err, cache)) :
    loop id asks (s.classifyAsked now asks kind createdAt) (r :: rs) st
      = { st with
          cache := cache, error := some err, calls := st.calls ++ [(labels, st.cache)] } := by
  have hnext : st.next (id r) ((asks r).toList.map fun labels => (labels, st.cache))
      (s.classifyAsked now asks kind createdAt r st.cache)
      = { st with
          cache := cache, error := some err, calls := st.calls ++ [(labels, st.cache)] } := by
    simp [classifyAsked, classify, hasks, lookupSession_eq hstore, hask, Except.map,
      Sweeping.next]
  rw [loop, hnext]
  rfl

theorem loop_cons_ok (hstore : s.store = some store) (hst : st.error = none)
    (hasks : asks r = some labels) {session : Option Session}
    (hask : ask (answers store) (question labels) st.cache = (.ok session, cache)) :
    loop id asks (s.classifyAsked now asks kind createdAt) (r :: rs) st
      = loop id asks (s.classifyAsked now asks kind createdAt) rs
          (st.decided (id r) labels cache (s.decision now kind (createdAt r) session)) := by
  have hnext : st.next (id r) ((asks r).toList.map fun labels => (labels, st.cache))
      (s.classifyAsked now asks kind createdAt r st.cache)
      = st.decided (id r) labels cache (s.decision now kind (createdAt r) session) := by
    simp [classifyAsked, classify, hasks, lookupSession_eq hstore, hask, Except.map,
      Sweeping.next, Sweeping.decided]
  have hdecided : (st.decided (id r) labels cache
      (s.decision now kind (createdAt r) session)).error = none := hst
  rw [loop, hnext]
  simp [hdecided]

theorem questions_cons_none (hasks : asks r = none) :
    questions asks (r :: rs) = questions asks rs := by
  simp [questions, hasks]

theorem questions_cons_some (hasks : asks r = some labels) :
    questions asks (r :: rs) = question labels :: questions asks rs := by
  simp [questions, hasks]

/-- **A loop asks the store** for the labels of its resources, until an error. -/
theorem loop_asking (hstore : s.store = some store) (rs : List ρ) (st : Sweeping)
    (hst : st.error = none) :
    let st' := loop id asks (s.classifyAsked now asks kind createdAt) rs st
    let run := asking (answers store) (questions asks rs) st.cache
    st'.calls.map Call.ask = st.calls.map Call.ask ++ run.1 ∧
      match run.2 with
      | none => st'.error.isSome = true
      | some cache => st'.error = none ∧ st'.cache = cache ∧ st'.logOnly = st.logOnly := by
  induction rs generalizing st with
  | nil => simp [loop, questions, asking, hst]
  | cons r rs ih =>
      cases hasks : asks r with
      | none =>
          rw [loop_cons_none hst hasks, questions_cons_none hasks]
          exact ih (st.kept (id r)) hst
      | some labels =>
          rw [questions_cons_some hasks]
          rcases hask : ask (answers store) (question labels) st.cache with ⟨e | session, cache⟩
          · rw [loop_cons_error hstore hasks hask,
              asking_cons_of_error (congrArg Prod.fst hask)]
            simp [Call.ask]
          · rw [loop_cons_ok hstore hst hasks hask,
              asking_cons_of_ok (congrArg Prod.fst hask), hask]
            have hrest := ih (st.decided (id r) labels cache
              (s.decision now kind (createdAt r) session)) hst
            simpa [Call.ask, Sweeping.decided] using hrest

/-- What a resource is decided on with an empty cache. -/
def ownAsked (s : Service) (now : Int) (asks : ρ → Option Labels) (kind : String)
    (createdAt : ρ → Int) (r : ρ) : Decision :=
  match (s.classifyAsked now asks kind createdAt r Cache.empty).1 with
  | .ok (decision, _) => decision
  | .error _ => {}

theorem ownAsked_of_fresh (hstore : s.store = some store) {r : ρ} {labels : Labels}
    (h : asks r = some labels) {session : Option Session}
    (hfresh : fresh (answers store) (question labels) = .ok session) :
    s.ownAsked now asks kind createdAt r = s.decision now kind (createdAt r) session := by
  unfold ownAsked classifyAsked classify
  rw [h]
  dsimp only
  rw [lookupSession_eq hstore]
  unfold fresh at hfresh
  rw [hfresh]
  rfl

/-- The decisions on other resources stay as they are. -/
theorem loop_frame (rs : List ρ) (st : Sweeping) {i : String} (hi : i ∉ rs.map id)
    {classify : ρ → LookupCache → Except String (Decision × Bool) × LookupCache} :
    (loop id asks classify rs st).decisions i = st.decisions i := by
  induction rs generalizing st with
  | nil => rfl
  | cons r rs ih =>
      rw [List.map_cons, List.mem_cons, not_or] at hi
      have hnext : (st.next (id r) ((asks r).toList.map fun labels => (labels, st.cache))
          (classify r st.cache)).decisions i = st.decisions i := by
        unfold Sweeping.next
        split
        · rfl
        · exact Function.update_of_ne hi.1 ..
      rw [loop]
      split
      · exact hnext
      · rw [ih _ hi.2, hnext]

/-- **The decisions of a loop** are those with an empty cache, if its lookups are. -/
theorem loop_decisions (hstore : s.store = some store) (rs : List ρ) (st : Sweeping)
    (hst : st.error = none) (hnodup : (rs.map id).Nodup)
    (hfaithful : Faithful (answers store) (questions asks rs) st.cache)
    (hdone : (loop id asks (s.classifyAsked now asks kind createdAt) rs st).error = none) :
    ∀ r ∈ rs, (loop id asks (s.classifyAsked now asks kind createdAt) rs st).decisions (id r)
      = some (s.ownAsked now asks kind createdAt r) := by
  induction rs generalizing st with
  | nil => simp
  | cons r rs ih =>
      rw [List.map_cons, List.nodup_cons] at hnodup
      rw [List.forall_mem_cons]
      cases hasks : asks r with
      | none =>
          rw [questions_cons_none hasks] at hfaithful
          rw [loop_cons_none hst hasks] at hdone ⊢
          refine ⟨?_, ih (st.kept (id r)) hst hnodup.2 hfaithful hdone⟩
          rw [loop_frame rs _ hnodup.1]
          simp [Sweeping.kept, ownAsked, classifyAsked, hasks]
      | some labels =>
          rw [questions_cons_some hasks] at hfaithful
          rcases hask : ask (answers store) (question labels) st.cache with ⟨e | session, cache⟩
          · rw [loop_cons_error hstore hasks hask] at hdone
            cases hdone
          · rw [loop_cons_ok hstore hst hasks hask] at hdone ⊢
            rw [Faithful, asking_cons_of_ok (congrArg Prod.fst hask), hask,
              List.forall_mem_cons, hask] at hfaithful
            refine ⟨?_, ih (st.decided _ _ cache _) hst hnodup.2 hfaithful.2 hdone⟩
            rw [loop_frame rs _ hnodup.1, ownAsked_of_fresh hstore hasks hfaithful.1.symm]
            simp [Sweeping.decided]

/-- A loop without a store is log-only from the start. -/
theorem loop_logOnly {classify : ρ → LookupCache → Except String (Decision × Bool) × LookupCache}
    (rs : List ρ) (st : Sweeping) (hst : st.logOnly = true) :
    (loop id asks classify rs st).logOnly = true := by
  induction rs generalizing st with
  | nil => exact hst
  | cons r rs ih =>
      have hnext : (st.next (id r) ((asks r).toList.map fun labels => (labels, st.cache))
          (classify r st.cache)).logOnly = true := by
        unfold Sweeping.next
        split <;> simp [hst]
      rw [loop]
      split
      · exact hnext
      · exact ih _ hnext

theorem designated_of_fresh (hstore : s.store = some store) {labels : Labels}
    {session : Option Session}
    (h : fresh (answers store) (question labels) = .ok session) :
    s.designated labels = session := by
  -- an answer that a session is not found is no error
  have hstored : ∀ (context : String) (r : Except String Session) (found : Option Session),
      stored context r = .ok found → r.toOption = found := by
    intro context r found hr
    cases r with
    | ok sess => exact Except.ok.inj hr
    | error err =>
        cases hnot : isNotFoundError err with
        | false => simp [stored, hnot] at hr
        | true => simpa [stored, hnot, Except.toOption] using hr
  have hsecond : ∀ found, secondAnswer (answers store) (question labels) = .ok found →
      ((labelValue labels labelBackendSessionId).bind fun id =>
        (store.getSessionByBackendSessionId id).toOption) = found := by
    intro found hfound
    unfold secondAnswer question at hfound
    cases hlabel : labelValue labels labelBackendSessionId with
    | none =>
        rw [hlabel] at hfound
        exact Except.ok.inj hfound
    | some id =>
        rw [hlabel] at hfound
        rw [Option.map_some] at hfound
        dsimp only at hfound
        rw [answers_backend] at hfound
        exact hstored _ _ _ hfound
  unfold designated
  rw [hstore, Option.bind_some]
  rw [fresh_eq] at h
  unfold question at h
  cases hlabel : labelValue labels labelSessionId with
  | none =>
      simp only [hlabel, Option.map_none] at h
      rw [Option.bind_none, Option.none_or]
      exact hsecond session h
  | some id =>
      simp only [hlabel, Option.map_some, answers_session] at h
      rw [Option.bind_some]
      cases hanswer : stored ("lookup session " ++ id) (store.getSession id) with
      | error e =>
          rw [hanswer] at h
          cases h
      | ok found =>
          rw [hanswer] at h
          rw [hstored _ _ _ hanswer]
          cases found with
          | some sess => exact Except.ok.inj h
          | none => exact hsecond session h

/-- **What is removed with an empty cache** belongs to no protected session. -/
theorem not_protected_of_remove (hstore : s.store = some store) {r : ρ}
    (hremove : (s.ownAsked now asks kind createdAt r).remove = true) :
    ∃ labels, asks r = some labels ∧
      ∀ session, s.designated labels = some session → s.sessionProtected now session = false := by
  cases hasks : asks r with
  | none => simp [ownAsked, classifyAsked, hasks] at hremove
  | some labels =>
      refine ⟨labels, rfl, fun session hdesignated => ?_⟩
      cases hfresh : fresh (answers store) (question labels) with
      | error e =>
          unfold fresh at hfresh
          simp [ownAsked, classifyAsked, classify, hasks, lookupSession_eq hstore, hfresh,
            Except.map] at hremove
      | ok found =>
          rw [designated_of_fresh hstore hfresh] at hdesignated
          subst hdesignated
          rw [ownAsked_of_fresh hstore hasks hfresh, decision] at hremove
          cases hprotected : s.sessionProtected now session with
          | false => rfl
          | true => simp [hprotected] at hremove

end Loop

/-! ## The sweep keeps protected environments -/

section Sweep

variable {containers : Listing Container Container.id} {networks : Listing Network Network.id}

/-- The loop over the containers, as it ends. -/
def afterContainers (s : Service) (now : Int) (containers : Listing Container Container.id) :
    Sweeping :=
  s.containerLoop now containers.items { cache := Cache.empty, logOnly := s.store.isNone }

/-- The loop over the networks, as it ends. -/
def afterNetworks (s : Service) (now : Int) (containers : Listing Container Container.id)
    (networks : Listing Network Network.id) : Sweeping :=
  s.networkLoop now (s.afterContainers now containers).decisions networks.items
    (s.afterContainers now containers).toNetworks

theorem sweep_calls (hcontainers : s.docker.containerList = .ok containers)
    (hnetworks : s.docker.networkList = .ok networks) :
    (s.sweep now).calls =
      if (s.afterContainers now containers).error.isSome then
        (s.afterContainers now containers).calls
      else (s.afterNetworks now containers networks).calls := by
  unfold sweep
  rw [hcontainers, hnetworks]
  dsimp only
  rw [← afterContainers, ← afterNetworks]
  split
  · rfl
  · split <;> rfl

/-- What is removed was flagged by a sweep that had no error, and that has a store. -/
theorem flagged_of_removed (hcontainers : s.docker.containerList = .ok containers)
    (hnetworks : s.docker.networkList = .ok networks) {i : String}
    (h : i ∈ (s.sweep now).containersRemoved ∨ i ∈ (s.sweep now).networksRemoved) :
    (s.afterContainers now containers).error = none ∧
      (s.afterNetworks now containers networks).error = none ∧
      (s.afterNetworks now containers networks).logOnly = false ∧
      (i ∈ (s.sweep now).containersRemoved →
        ((s.afterContainers now containers).decisions i).any Decision.remove = true) ∧
      (i ∈ (s.sweep now).networksRemoved →
        ((s.afterNetworks now containers networks).decisions i).any Decision.remove = true) := by
  revert h
  unfold sweep
  rw [hcontainers, hnetworks]
  dsimp only
  rw [← afterContainers, ← afterNetworks]
  split
  · simp
  · next hfirst =>
      split
      · simp
      · next hsecond =>
          rw [Option.not_isSome_iff_eq_none] at hfirst hsecond
          cases hlog : (s.afterNetworks now containers networks).logOnly with
          | true => simp
          | false =>
              cases s.cfg.dryRun with
              | true => simp
              | false =>
                  intro _
                  refine ⟨hfirst, hsecond, rfl, ?_, ?_⟩
                  · intro hi
                    exact (List.mem_filter.1 hi).2
                  · intro hi
                    exact (List.mem_filter.1 hi).2

theorem questions_containers (rs : List Container) :
    questions (fun c : Container => some c.labels) rs
      = (rs.map Container.labels).map question := by
  simp [questions]

theorem questions_networks (containerDecisions : String → Option Decision) (rs : List Network) :
    questions (networkAsks containerDecisions) rs
      = ((rs.filter fun n => !networkInUse n containerDecisions).map Network.labels).map
          question := by
  unfold questions
  congr 1
  induction rs with
  | nil => rfl
  | cons r rs ih =>
      cases h : networkInUse r containerDecisions <;> simp [networkAsks, h, ih]

/-- What the containers are decided on with an empty cache. -/
def ownDecisions (s : Service) (now : Int) (containers : Listing Container Container.id)
    (i : String) : Option Decision :=
  (containers.items.find? fun c => c.id = i).map (s.ownDecision now)

theorem askedLabels_eq (hcontainers : s.docker.containerList = .ok containers)
    (hnetworks : s.docker.networkList = .ok networks) :
    (s.askedLabels now).map question =
      questions (fun c : Container => some c.labels) containers.items ++
        questions (networkAsks (s.ownDecisions now containers)) networks.items := by
  unfold askedLabels
  rw [hcontainers, hnetworks, questions_containers, questions_networks, List.map_append]
  rfl

variable (hstore : s.store = some store)

include hstore

variable (now) (containers) in
theorem containers_asking :
    (s.afterContainers now containers).calls.map Call.ask
        = (asking (answers store) (questions (fun c : Container => some c.labels)
            containers.items) Cache.empty).1 ∧
      match (asking (answers store) (questions (fun c : Container => some c.labels)
          containers.items) Cache.empty).2 with
      | none => (s.afterContainers now containers).error.isSome = true
      | some cache => (s.afterContainers now containers).error = none ∧
          (s.afterContainers now containers).cache = cache ∧
          (s.afterContainers now containers).logOnly = s.store.isNone := by
  unfold afterContainers
  rw [containerLoop_eq]
  exact loop_asking hstore containers.items
    { cache := Cache.empty, logOnly := s.store.isNone } rfl

theorem networks_asking (herror : (s.afterContainers now containers).error = none) :
    (s.afterNetworks now containers networks).calls.map Call.ask
        = (s.afterContainers now containers).calls.map Call.ask ++
          (asking (answers store)
            (questions (networkAsks (s.afterContainers now containers).decisions) networks.items)
            (s.afterContainers now containers).cache).1 := by
  unfold afterNetworks
  rw [networkLoop_eq]
  exact (loop_asking hstore networks.items (s.afterContainers now containers).toNetworks herror).1

/-- The decisions on the containers are the own ones. -/
theorem afterContainers_decisions
    (hfaithful : Faithful (answers store)
      (questions (fun c : Container => some c.labels) containers.items) Cache.empty)
    (herror : (s.afterContainers now containers).error = none) :
    (s.afterContainers now containers).decisions = s.ownDecisions now containers := by
  unfold afterContainers at herror ⊢
  rw [containerLoop_eq] at herror ⊢
  funext i
  unfold ownDecisions
  by_cases hi : i ∈ containers.items.map Container.id
  · obtain ⟨c, hc, rfl⟩ := List.mem_map.1 hi
    have hdecision := loop_decisions hstore containers.items
      { cache := Cache.empty, logOnly := s.store.isNone } rfl containers.nodup hfaithful herror c hc
    have hfind : containers.items.find? (fun d => d.id = c.id) = some c := by
      have hkeyed : Table.Keyed Container.id containers.items := containers.nodup
      exact hkeyed.find_mem hc
    rw [hfind]
    exact hdecision
  · have hnone : containers.items.find? (fun d => d.id = i) = none := by
      rw [List.find?_eq_none]
      intro d hd
      have hne : d.id ≠ i := fun h => hi (h ▸ List.mem_map_of_mem hd)
      simp [hne]
    rw [hnone]
    exact loop_frame containers.items _ hi

theorem lookupsFresh_iff_calls :
    s.LookupsFresh now ↔ ∀ call ∈ (s.sweep now).calls.map Call.ask,
      (ask (answers store) call.1 call.2).1 = fresh (answers store) call.1 := by
  rw [List.forall_mem_map]
  exact forall₂_congr fun call _ => lookup_fresh_iff hstore call.1 call.2

/-- The lookups of a sweep that gets to the networks. -/
theorem lookupsFresh_iff_faithful (hcontainers : s.docker.containerList = .ok containers)
    (hnetworks : s.docker.networkList = .ok networks)
    (herror : (s.afterContainers now containers).error = none) :
    s.LookupsFresh now ↔
      Faithful (answers store)
        (questions (fun c : Container => some c.labels) containers.items) Cache.empty ∧
      Faithful (answers store)
        (questions (networkAsks (s.afterContainers now containers).decisions) networks.items)
        (s.afterContainers now containers).cache := by
  rw [lookupsFresh_iff_calls hstore, sweep_calls hcontainers hnetworks, if_neg (by simp [herror]),
    networks_asking hstore herror, List.forall_mem_append,
    (containers_asking now containers hstore).1]
  rfl

omit hstore in
theorem levelled_questions {ρ : Type} (asks : ρ → Option Labels) (rs : List ρ) :
    ∀ q ∈ questions asks rs, Levelled (fun key => Text.hasPrefix key "session:" = true) q := by
  intro q hq
  obtain ⟨labels, -, rfl⟩ := List.mem_map.1 hq
  exact levelled_question labels

/-- **The lookups of a sweep are fresh** if and only if none is shadowed. -/
theorem lookupsFresh_iff_clear (hcontainers : s.docker.containerList = .ok containers)
    (hnetworks : s.docker.networkList = .ok networks) :
    s.LookupsFresh now ↔ Clear (answers store) [] ((s.askedLabels now).map question) := by
  have hknown : Known (answers store) (fun key => Text.hasPrefix key "session:" = true) []
      (Cache.empty : LookupCache) := known_empty
  have hlevelled := levelled_questions (fun c : Container => some c.labels) containers.items
  rw [askedLabels_eq hcontainers hnetworks, clear_append, ← faithful_iff hknown hlevelled]
  obtain ⟨hfirst, hend⟩ := containers_asking now containers hstore
  cases hrun : (asking (answers store) (questions (fun c : Container => some c.labels)
      containers.items) Cache.empty).2 with
  | none =>
      rw [hrun] at hend
      rw [lookupsFresh_iff_calls hstore, sweep_calls hcontainers hnetworks, if_pos hend, hfirst]
      refine ⟨fun hfaithful => ⟨hfaithful, fun hanswered => ?_⟩, And.left⟩
      obtain ⟨q, hq, herror⟩ := exists_error_of_asking hfaithful hrun
      obtain ⟨r, hr⟩ := hanswered q hq
      exact absurd hr (herror r)
  | some cache =>
      rw [hrun] at hend
      obtain ⟨herror, hcache, -⟩ := hend
      obtain ⟨hknown', hanswered⟩ := known_of_asking hknown hlevelled hrun
      rw [lookupsFresh_iff_faithful hstore hcontainers hnetworks herror, hcache]
      refine and_congr_right fun hfaithful => ?_
      -- the same networks are in use
      rw [afterContainers_decisions hstore hfaithful herror]
      have hrest := faithful_iff hknown'
        (levelled_questions (networkAsks (s.ownDecisions now containers)) networks.items)
      exact hrest.trans ⟨fun h _ => h, fun h => h (hanswered hfaithful)⟩

/-- **A sweep whose lookups are fresh** removes nothing of a protected session. -/
theorem not_protected_of_fresh (hfresh : s.LookupsFresh now)
    (hcontainers : s.docker.containerList = .ok containers)
    (hnetworks : s.docker.networkList = .ok networks) :
    (∀ c ∈ containers.items, c.id ∈ (s.sweep now).containersRemoved →
        ∀ session, s.designated c.labels = some session →
          s.sessionProtected now session = false) ∧
      ∀ n ∈ networks.items, n.id ∈ (s.sweep now).networksRemoved →
        ∀ session, s.designated n.labels = some session →
          s.sessionProtected now session = false := by
  constructor
  · intro c hc hremoved
    obtain ⟨herror, -, -, hflagged, -⟩ :=
      flagged_of_removed hcontainers hnetworks (.inl hremoved)
    obtain ⟨hfaithful, -⟩ :=
      (lookupsFresh_iff_faithful hstore hcontainers hnetworks herror).1 hfresh
    have hremove := hflagged hremoved
    have hdecisions := loop_decisions hstore containers.items
      { cache := Cache.empty, logOnly := s.store.isNone } rfl containers.nodup hfaithful herror c hc
    unfold afterContainers at hremove
    rw [containerLoop_eq, hdecisions, Option.any_some] at hremove
    obtain ⟨labels, hlabels, h⟩ := not_protected_of_remove hstore hremove
    obtain rfl := Option.some.inj hlabels
    exact h
  · intro n hn hremoved
    obtain ⟨herror, herror', -, -, hflagged⟩ :=
      flagged_of_removed hcontainers hnetworks (.inr hremoved)
    obtain ⟨-, hfaithful⟩ :=
      (lookupsFresh_iff_faithful hstore hcontainers hnetworks herror).1 hfresh
    have hremove := hflagged hremoved
    unfold afterNetworks at hremove herror'
    rw [networkLoop_eq] at hremove herror'
    have hdecisions := loop_decisions hstore networks.items
      (s.afterContainers now containers).toNetworks herror networks.nodup hfaithful herror' n hn
    rw [hdecisions, Option.any_some] at hremove
    obtain ⟨labels, hlabels, h⟩ := not_protected_of_remove hstore hremove
    unfold networkAsks at hlabels
    split at hlabels
    · cases hlabels
    · obtain rfl := Option.some.inj hlabels
      exact h

end Sweep

variable (now) in
/-- A sweep without a store, or one that gets no list, removes nothing. -/
theorem removed_eq_nil (h : s.store = none ∨ (∃ err, s.docker.containerList = .error err) ∨
    ∃ err, s.docker.networkList = .error err) :
    (s.sweep now).containersRemoved = [] ∧ (s.sweep now).networksRemoved = [] := by
  cases hcontainers : s.docker.containerList with
  | error err => simp [sweep, hcontainers]
  | ok containers =>
      cases hnetworks : s.docker.networkList with
      | error err => simp [sweep, hcontainers, hnetworks]
      | ok networks =>
          have hstore : s.store = none := by simpa [hcontainers, hnetworks] using h
          -- both loops are log-only
          have hfirst : (s.afterContainers now containers).logOnly = true :=
            loop_logOnly containers.items _ (by simp [hstore])
          have hsecond : (s.afterNetworks now containers networks).logOnly = true :=
            loop_logOnly networks.items _ hfirst
          have hno : ∀ i, ¬(i ∈ (s.sweep now).containersRemoved ∨
              i ∈ (s.sweep now).networksRemoved) := by
            intro i hi
            obtain ⟨-, -, hlog, -⟩ := flagged_of_removed hcontainers hnetworks hi
            rw [hsecond] at hlog
            cases hlog
          exact ⟨List.eq_nil_iff_forall_not_mem.2 fun i hi => hno i (.inl hi),
            List.eq_nil_iff_forall_not_mem.2 fun i hi => hno i (.inr hi)⟩

/-- **The janitor keeps protected environments** if and only if no lookup is shadowed: every lookup
    of a sweep gives what it gives with an empty cache, and nothing is removed that belongs to a
    protected session, exactly when no resource whose session id is not stored, but whose backend
    session id gives something, is looked up after another one with its session id. -/
theorem sweep_keeps_iff (s : Service) (now : Int) :
    s.LookupsFresh now ∧ s.KeepsProtected now ↔ s.NoneShadowed now := by
  -- a sweep that stops early removes nothing
  have hnothing : (s.sweep now).containersRemoved = [] ∧ (s.sweep now).networksRemoved = [] →
      s.KeepsProtected now := by
    rintro ⟨hcontainers, hnetworks⟩
    simp [KeepsProtected, hcontainers, hnetworks]
  cases hstore : s.store with
  | none =>
      have hfresh : s.LookupsFresh now := by
        intro call _
        simp [lookupSession, hstore]
      refine ⟨fun _ store hsome => ?_, fun _ => ⟨hfresh, ?_⟩⟩
      swap
      · exact hnothing (removed_eq_nil now (.inl hstore))
      rw [hstore] at hsome
      cases hsome
  | some store =>
      have hshadowed : s.NoneShadowed now ↔
          Clear (answers store) [] ((s.askedLabels now).map question) := by
        simp [NoneShadowed, hstore]
      rw [hshadowed]
      cases hcontainers : s.docker.containerList with
      | error err =>
          have hremoved := removed_eq_nil now (.inr (.inl ⟨err, hcontainers⟩))
          have hcalls : (s.sweep now).calls = [] := by simp [sweep, hcontainers]
          simp [LookupsFresh, hcalls, hnothing hremoved, askedLabels, hcontainers, Clear]
      | ok containers =>
          cases hnetworks : s.docker.networkList with
          | error err =>
              have hremoved := removed_eq_nil now (.inr (.inr ⟨err, hnetworks⟩))
              have hcalls : (s.sweep now).calls = [] := by simp [sweep, hcontainers, hnetworks]
              simp [LookupsFresh, hcalls, hnothing hremoved, askedLabels, hcontainers, hnetworks,
                Clear]
          | ok networks =>
              rw [← lookupsFresh_iff_clear hstore hcontainers hnetworks]
              refine ⟨And.left, fun hfresh => ⟨hfresh, ?_⟩⟩
              obtain ⟨hkept, hkept'⟩ := not_protected_of_fresh hstore hfresh hcontainers hnetworks
              refine ⟨fun listed hlisted => ?_, fun listed hlisted => ?_⟩
              · rw [hcontainers] at hlisted
                obtain rfl := Except.ok.inj hlisted
                exact hkept
              · rw [hnetworks] at hlisted
                obtain rfl := Except.ok.inj hlisted
                exact hkept'

end Service

/-! ## Two containers of one environment -/

/-- The labels of a resource of the backend session `b` that was provisioned without a session. -/
def backendLabels : Labels :=
  GoMap.ofList [(labelBackendSessionId, "b"), (labelSessionId, "b")]

/-- A session that runs in the backend session `b`. -/
def runningSession : Session :=
  { (default : Session) with
    id := "s", backendSessionId := "b", status := .running, leaseExpiresAt := some 4000000
    heartbeatAt := some 3600000 }

/-- A janitor, an hour after the containers `c` and `d` of the session were started. -/
def twoContainers : Service where
  cfg := { orphanTtlSec := 900, mode := "ownership_only", dryRun := false }
  store := some (sessionStoreOf { sessions := [runningSession] } 0)
  docker := {
    containerList := .ok ⟨[⟨"c", backendLabels, 0⟩, ⟨"d", backendLabels, 0⟩], by decide⟩
    networkList := .ok ⟨[], by decide⟩
    containerRemove := fun _ => none
    networkRemove := fun _ => none
    imagesPrune := .ok 0
    volumesPrune := .ok 0
    buildCachePrune := .ok 0 }

/-- The second container of the environment is removed while its session is protected. -/
theorem sweep_removes_protected :
    (twoContainers.sweep (unix 3600)).containersRemoved = ["d"] ∧
      twoContainers.designated backendLabels = some runningSession ∧
      twoContainers.sessionProtected (unix 3600) runningSession = true ∧
      ¬twoContainers.KeepsProtected (unix 3600) ∧ ¬twoContainers.LookupsFresh (unix 3600) := by
  have hremoved : (twoContainers.sweep (unix 3600)).containersRemoved = ["d"] := by
    decide +kernel
  have hdesignated : twoContainers.designated backendLabels = some runningSession := by
    decide +kernel
  have hprotected : twoContainers.sessionProtected (unix 3600) runningSession = true := by
    decide +kernel
  refine ⟨hremoved, hdesignated, hprotected, ?_, ?_⟩
  · rintro ⟨h, -⟩
    have hnot := h _ rfl ⟨"d", backendLabels, 0⟩ (by simp) (by simp [hremoved]) _ hdesignated
    rw [hprotected] at hnot
    cases hnot
  · intro hfresh
    obtain ⟨h, -⟩ := Service.not_protected_of_fresh (s := twoContainers) rfl hfresh rfl rfl
    have hnot := h ⟨"d", backendLabels, 0⟩ (by simp) (by simp [hremoved]) _ hdesignated
    rw [hprotected] at hnot
    cases hnot

end TokyoTester.Janitor
