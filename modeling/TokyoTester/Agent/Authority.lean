import TokyoTester.Agent.Receipts
import TokyoTester.Library.Journal
import TokyoTester.Library.Parallel
import TokyoTester.Projects.Members

set_option autoImplicit false

/-! # What an agent may do (`modules/agent/server/auth.ts`, `mcpserver/server.go`)

A personal token lets an agent act for a user in one project. The MCP server asks the application
what a token is good for, or with OAuth the authorization server, and calls the application with an
assertion that it signs; or the agent calls the application with a personal token itself. Requests
run at once, and between any two statements of one the users, projects and members change, tokens
are created and revoked, and time goes by.

Every request that is accepted is within the scopes of a personal token of that user and project, or
of what the authorization server said, and within what the role of the user in the project allows;
the user is found active, and then to have that role, after the request came in. An assertion
outlives its token, but not by much: the token was neither revoked nor expired a minute and a half
before the request came in, but for the difference of the two clocks and the time that the MCP
server takes before it signs (`accepted_authorized`). -/

namespace TokyoTester

namespace Agent

inductive ProjectAction where
  | view
  | edit
  | run
  | manage
deriving DecidableEq

/-- `allowedActionsForRole`. -/
def allowedActionsForRole : ProjectRole → List ProjectAction
  | .owner => [.view, .edit, .run, .manage]
  | .editor => [.view, .edit, .run]
  | .runner => [.view, .run]

/-- `SCOPE_ACTION`. -/
def scopeAction : String → Option ProjectAction
  | "read" => some .view
  | "workflow:write" => some .edit
  | "run" => some .run
  | _ => none

/-- A role allows what a scope stands for. -/
def allows (role : ProjectRole) (scope : String) : Bool :=
  (scopeAction scope).any (allowedActionsForRole role).contains

/-- `parseScopes`. -/
def parseScopes (value : String) : Option (List String) :=
  match Json.parse value with
  | some (.arr items) => some ((items.filterMap textOf).filter agentScopes.contains)
  | _ => none

/-- A row of `agent_token`. Times are in milliseconds. -/
structure AgentToken where
  id : String
  tokenHash : List UInt8
  userId : String
  projectId : String
  scopes : String
  expiresAt : Int
  revokedAt : Option Int := none

/-- `AgentIdentity`. -/
structure AgentIdentity where
  tokenId : String
  userId : String
  projectId : String
  scopes : List String

/-- `McpAuthMode`. -/
inductive McpAuthMode where
  | personalToken
  | oauth
deriving DecidableEq

/-- How the two servers are set up. -/
structure Deployment where
  /-- `authMode` of the MCP server. -/
  authMode : McpAuthMode
  /-- `getMcpAuthMode` of the application. -/
  appAuthMode : McpAuthMode
  /-- `resourceURL`: how the MCP server writes the resource of a project. -/
  resourceURL : String → String
  /-- The clocks of the two differ by at most so many milliseconds. -/
  skew : ℕ := 0
  /-- The MCP server reads its clock within so many milliseconds of the answer that it signs for. -/
  pause : ℕ := 0

/-! ## The database and the clock -/

/-- What the tables hold at a moment. The users are known by UUIDs. -/
structure Moment where
  now : Int := 0
  tables : ProjectTables := {}
  tokens : List AgentToken := []
  named : ∀ user ∈ tables.users, user.id ≠ "" := by simp

/-- The moment that is, those that were, the texts signed with the secret of the two servers, and
    what the authorization server has said of tokens, with the times. -/
structure World where
  moment : Moment := {}
  past : List Moment := []
  signed : List String := []
  vouched : List (Int × IntrospectionResponse) := []

/-- All moments so far. -/
def World.seen (w : World) : List Moment := w.moment :: w.past

/-- Time goes by, or the tables change. -/
def World.become (w : World) (m : Moment) : World :=
  { w with moment := m, past := w.moment :: w.past }

/-- The role in `getProjectMembership`; nothing depends on the order of the memberships. -/
def roleIn (userId projectId platformRole : String) (t : ProjectTables) : Option ProjectRole :=
  if platformRole = "admin" then (t.projects.find? fun p => p.id = projectId).map fun _ => .owner
  else
    (t.projectMembers.find? fun m =>
      m.userId = userId ∧ m.projectId = projectId ∧ t.projects.any fun p => p.id = m.projectId).map
      (·.role)

/-- The row that `authenticatePersonalAgentToken` finds. -/
def findToken (hash : List UInt8) (now : Int) (tokens : List AgentToken) : Option AgentToken :=
  tokens.find? fun r => r.tokenHash = hash ∧ r.expiresAt > now ∧ r.revokedAt = none

/-! ## Calls -/

inductive AgentOp where
  /-- `Date.now()`, in milliseconds. -/
  | clock
  /-- What the clock of the MCP server shows, after an answer that came in at `received`. -/
  | serverClock (received : Int)
  /-- The authorization server is asked about a token. -/
  | introspectOAuth (token : String)
  | selectToken (hash : List UInt8) (now : Int)
  | selectUser (id : String)
  | selectUserByEmail (email : String)
  /-- The statement of `getProjectMembership`. -/
  | selectMembership (userId projectId platformRole : String)
  | sign (input : String)
  /-- `verifyAgentAssertion`, at the time of the application. -/
  | verify (assertion : String)

abbrev AgentOp.Reply : AgentOp → Type
  | .clock | .serverClock _ => Int
  | .introspectOAuth _ => Option IntrospectionResponse
  | .selectToken .. => Option AgentToken
  | .selectUser _ | .selectUserByEmail _ => Option User
  | .selectMembership .. => Option ProjectRole
  | .sign _ => List UInt8
  | .verify _ => Option AgentAssertionClaims

abbrev AgentProgram (α : Type) := Program AgentOp AgentOp.Reply α

def ask (op : AgentOp) : AgentProgram op.Reply := Program.perform op

/-- What others decide of a reply: by how much the clock of the MCP server is ahead, and what the
    authorization server says. -/
structure AgentAnswer where
  ahead : Int := 0
  claims : Option IntrospectionResponse := none

section Hashed

variable (hashes : Hashes) (secret : String) (d : Deployment)

/-- The reply to a call. -/
def answer (op : AgentOp) (a : AgentAnswer) (w : World) : op.Reply :=
  match op with
  | .clock => w.moment.now
  | .serverClock _ => w.moment.now + a.ahead
  | .introspectOAuth _ => a.claims
  | .selectToken hash now => findToken hash now w.moment.tokens
  | .selectUser id => w.moment.tables.users.find? fun u => u.id = id
  | .selectUserByEmail email => w.moment.tables.users.find? fun u => u.email = email
  | .selectMembership userId projectId platformRole =>
    roleIn userId projectId platformRole w.moment.tables
  | .sign input => signature hashes secret input
  | .verify assertion => verifyAgentAssertion hashes secret assertion (w.moment.now / 1000)

/-- What a call does: a text is signed from then on, and what is said of a token has been said. -/
def effect (op : AgentOp) (a : AgentAnswer) (w : World) : World :=
  match op with
  | .sign input => { w with signed := w.signed ++ [input] }
  | .introspectOAuth _ =>
    { w with vouched := w.vouched ++ (a.claims.map (w.moment.now, ·)).toList }
  | _ => w

def handle (op : AgentOp) (a : AgentAnswer) (w : World) : op.Reply × World :=
  (answer hashes secret op a w, effect op a w)

/-- How calls are answered: the clocks are as the deployment says, and nobody else can sign. -/
def Answered (op : AgentOp) (a : AgentAnswer) (w : World) : Prop :=
  match op with
  | .serverClock received => |a.ahead| ≤ d.skew ∧ w.moment.now ≤ received + d.pause
  | .verify assertion => Unforged hashes secret w.signed assertion
  | _ => True

/-! ## The application -/

/-- `tokenHash`. -/
def tokenHash (token : String) : List UInt8 := hashes.sha256 (utf8 token)

/-- `authenticatePersonalAgentToken`, with the role of the membership. -/
def authenticatePersonalAgentToken (token : String) :
    AgentProgram (Option (AgentIdentity × ProjectRole)) :=
  if !Text.hasPrefix token "tt_pat_" then pure none
  else do
    let now ← ask .clock
    match ← ask (.selectToken (tokenHash hashes token) now) with
    | none => pure none
    | some record =>
      match parseScopes record.scopes with
      | none => pure none
      | some scopes => do
        match ← ask (.selectUser record.userId) with
        | none => pure none
        | some user =>
          if !user.isActive then pure none
          else do
            match ← ask (.selectMembership record.userId record.projectId user.role) with
            | none => pure none
            | some role =>
              let effectiveScopes := scopes.filter (allows role)
              if effectiveScopes = [] then pure none
              else
                pure (some (⟨record.id, record.userId, record.projectId, effectiveScopes⟩, role))

/-- `POST` of the `introspect` route, for the MCP server: what it answers for a token that is
    active. -/
def introspect (token : String) : AgentProgram (Option IntrospectionResponse) :=
  if d.appAuthMode ≠ .personalToken then pure none
  else do
    match ← authenticatePersonalAgentToken hashes token with
    | none => pure none
    | some (identity, _) =>
      match ← ask (.selectUser identity.userId) with
      | none => pure none
      | some user =>
        if user.email = "" then pure none
        else
          pure <| some
            { subject := identity.userId, userId := identity.userId, email := user.email
              projectId := identity.projectId, scope := "", scopes := identity.scopes }

/-- The user of an assertion. -/
def assertedUser (claims : AgentAssertionClaims) : AgentProgram (Option User) :=
  match claims.userId.filter (· ≠ ""), claims.email.filter (· ≠ "") with
  | some id, _ => ask (.selectUser id)
  | none, some email => ask (.selectUserByEmail (Text.toLower (Text.trimSpace email)))
  | none, none => pure none

/-- `authenticateAgentRequest` for a request with an assertion. -/
def authenticateAssertion (assertion : String) (required : List String) :
    AgentProgram (Option AgentIdentity) := do
  match ← ask (.verify assertion) with
  | none => pure none
  | some claims =>
    match ← assertedUser claims with
    | none => pure none
    | some user =>
      let scopes := claims.scopes.filterMap textOf
      if !user.isActive then pure none
      else if !required.all scopes.contains then pure none
      else do
        match ← ask (.selectMembership user.id claims.projectId user.role) with
        | none => pure none
        | some role =>
          if !required.all (allows role) then pure none
          else pure (some ⟨"assertion:" ++ claims.sub, user.id, claims.projectId, scopes⟩)

/-- `authenticateAgentRequest`, with the assertion and the personal token of the headers. -/
def authenticateAgentRequest (assertion token : String) (required : List String) :
    AgentProgram (Option AgentIdentity) :=
  if assertion ≠ "" then authenticateAssertion assertion required
  else if d.appAuthMode = .oauth then pure none
  else do
    match ← authenticatePersonalAgentToken hashes token with
    | none => pure none
    | some (identity, role) =>
      if !required.all identity.scopes.contains then pure none
      else if !required.all (allows role) then pure none
      else pure (some identity)

/-! ## The MCP server -/

/-- `strings.Fields`. -/
def fields (s : String) : List String :=
  ((s.toList.splitOnP Text.isSpace).filter (· ≠ [])).map String.ofList

/-- `normalizeScopes`. -/
def normalizeScopes (claims : IntrospectionResponse) : List String :=
  (((claims.scopes ++ fields claims.scope).filter agentScopes.contains).eraseDups).insertionSort
    (· ≤ ·)

/-- `missingScopes`. -/
def missingScopes (granted required : List String) : List String :=
  required.filter fun scope => !granted.contains scope

/-- `toolScopes`. -/
def toolScopes : String → List String
  | "tokyo_create_workflow_revision" | "tokyo_restore_workflow_revision"
  | "tokyo_import_workflow" => ["workflow:write"]
  | "tokyo_run_workflow" => ["workflow:write", "run"]
  | "tokyo_run_existing_workflow" => ["run"]
  | _ => ["read"]

/-- `audienceContains`. -/
def audienceContains (value : Json) (expected : String) : Bool :=
  match value with
  | .str text => text = expected
  | .arr items => items.any fun item => textOf item = some expected
  | _ => false

/-- The timeout of `client`, in milliseconds. -/
def clientTimeout : Int := 30 * 1000

/-- Who is asked about a token. -/
def introspection (token : String) : AgentProgram (Option IntrospectionResponse) :=
  match d.authMode with
  | .personalToken => introspect hashes d token
  | .oauth => ask (.introspectOAuth token)

/-- `introspectToken`: the claims of a token that is active, and when they came in. -/
def introspectToken (token : String) : AgentProgram (Option (Int × IntrospectionResponse)) := do
  let sent ← ask .clock
  let response ← introspection hashes d token
  let received ← ask .clock
  if received > sent + clientTimeout then pure none
  else pure (response.map (received, ·))

/-- The project that the claims are good for in a call that names `projectId`, or names none. -/
def claimedProject (claims : IntrospectionResponse) (projectId : String) : Option String :=
  match d.authMode with
  | .personalToken =>
    if claims.projectId = "" then none
    else if projectId ≠ "" ∧ projectId ≠ claims.projectId then none
    else some claims.projectId
  | .oauth =>
    if !audienceContains claims.audience (d.resourceURL projectId) then none
    else if claims.email = "" ∨ claims.subject = "" then none
    else some projectId

/-- The scopes of the claims, if there are any and all that are required. -/
def grantedScopes (claims : IntrospectionResponse) (required : List String) :
    Option (List String) :=
  let scopes := normalizeScopes claims
  if scopes = [] ∨ missingScopes scopes required ≠ [] then none else some scopes

/-- `authenticateRequest`, with the bearer token and the project of the path. -/
def authenticateRequest (token projectId : String) (required : List String) :
    AgentProgram (Option String) :=
  if token = "" then pure none
  else if d.authMode = .oauth ∧ Text.trimSpace projectId = "" then pure none
  else do
    match ← introspectToken hashes d token with
    | none => pure none
    | some (received, claims) =>
      match claimedProject d claims (Text.trimSpace projectId) with
      | none => pure none
      | some projectId =>
        match grantedScopes claims required with
        | none => pure none
        | some scopes => do
          let shown ← ask (.serverClock received)
          let input := assertionInput claims projectId scopes (shown / 1000)
          let mac ← ask (.sign input)
          pure (some (input ++ "." ++ encodeToString mac))

/-! ## Both servers -/

/-- What comes in: a call of a tool of the MCP server, or a request to the application. -/
inductive AgentTask where
  | callTool (token projectId name : String)
  | request (assertion token : String) (required : List String)

inductive AgentReply where
  | assertion (signed : Option String)
  | identity (accepted : Option AgentIdentity)

def AgentTask.program : AgentTask → AgentProgram AgentReply
  | .callTool token projectId name => do
    return .assertion (← authenticateRequest hashes d token projectId (toolScopes name))
  | .request assertion token required => do
    return .identity (← authenticateAgentRequest hashes d assertion token required)

/-- The row of `createAgentToken`, with the id and the token it has drawn. -/
def createAgentToken (id token userId projectId : String) (scopes : List String)
    (expiresAt : Int) : AgentToken :=
  { id, userId, projectId, expiresAt, tokenHash := tokenHash hashes token
    scopes := (Json.arr (scopes.map .str)).marshal }

/-- What else happens. -/
inductive AgentEvent where
  | tick (milliseconds : ℕ)
  | write (tables : ProjectTables) (named : ∀ user ∈ tables.users, user.id ≠ "")
  | createAgentToken (id token userId projectId : String) (scopes : List String) (expiresAt : Int)
  | revokeAgentToken (userId tokenId : String)
  /-- The MCP server signs a validation receipt. -/
  | issueValidationReceipt (bundle : Option AnyValue) (now : Int64)

/-- `revokeAgentToken`. -/
def revoke (userId tokenId : String) (now : Int) (record : AgentToken) : AgentToken :=
  if record.id = tokenId ∧ record.userId = userId ∧ record.revokedAt = none then
    { record with revokedAt := some now }
  else record

def happen (event : AgentEvent) (w : World) : World :=
  match event with
  | .tick milliseconds => w.become { w.moment with now := w.moment.now + milliseconds }
  | .write tables named => w.become { w.moment with tables, named }
  | .createAgentToken id token userId projectId scopes expiresAt =>
    let record := createAgentToken hashes id token userId projectId scopes expiresAt
    w.become { w.moment with tokens := w.moment.tokens ++ [record] }
  | .revokeAgentToken userId tokenId =>
    w.become
      { w.moment with tokens := w.moment.tokens.map (revoke userId tokenId w.moment.now) }
  | .issueValidationReceipt bundle now =>
    { w with signed := w.signed ++ [receiptInput hashes bundle now] }

abbrev Servers := Parallel AgentOp AgentOp.Reply World AgentTask AgentReply

abbrev AgentLabel := Parallel.Label AgentTask AgentAnswer AgentEvent

/-- A run of the two servers. -/
def AgentRun (s : Servers) (labels : List AgentLabel) (s' : Servers) : Prop :=
  Trace.Guarded
    (fun s l s' => Parallel.step (handle hashes secret) (fun _ task => task.program hashes d)
      (happen hashes) s l = some s')
    (Parallel.guard (Answered hashes secret d)) s labels s'

end Hashed

/-! ## What is known of a request -/

/-- A token that grants the scopes was neither revoked at `since` nor expired. -/
def Backed (w : World) (since : Int) (userId projectId : String) (scopes : List String) : Prop :=
  ∃ m ∈ w.seen, since ≤ m.now ∧ ∃ record ∈ m.tokens, record.userId = userId ∧
    record.projectId = projectId ∧ record.revokedAt = none ∧ since < record.expiresAt ∧
      ∃ granted, parseScopes record.scopes = some granted ∧ ∀ scope ∈ scopes, scope ∈ granted

/-- The user was active at `since` or later, and then had a role that allows the scopes. -/
def Permitted (w : World) (since : Int) (userId projectId : String) (scopes : List String) : Prop :=
  ∃ m ∈ w.seen, since ≤ m.now ∧ ∃ user ∈ m.tables.users, user.id = userId ∧ user.isActive = true ∧
    ∃ m' ∈ w.seen, m.now ≤ m'.now ∧
      ∃ role, roleIn userId projectId user.role m'.tables = some role ∧
        ∀ scope ∈ scopes, allows role scope = true

/-- The authorization server said at `since` or later that the claims hold of a token for the
    project, and they grant the scopes. -/
def Vouched (d : Deployment) (w : World) (since : Int) (claims : IntrospectionResponse)
    (projectId : String) (scopes : List String) : Prop :=
  ∃ t, (t, claims) ∈ w.vouched ∧ since ≤ t ∧
    audienceContains claims.audience (d.resourceURL projectId) = true ∧
      ∀ scope ∈ scopes, scope ∈ normalizeScopes claims

/-- The claims name the user, by the id or, where they have none, by the address that the user had
    at `since` or later. -/
def NameUser (w : World) (since : Int) (claims : IntrospectionResponse) (userId : String) : Prop :=
  claims.userId = userId ∨ claims.userId = "" ∧ ∃ m ∈ w.seen, since ≤ m.now ∧
    ∃ user ∈ m.tables.users, user.id = userId ∧
      user.email = Text.toLower (Text.trimSpace (Text.toLower (Text.trimSpace claims.email)))

/-- At most so long before an assertion is accepted its claims were given. -/
def Deployment.assertionAge (d : Deployment) : Int := 90 * 1000 + d.skew + d.pause

/-- What is known of an assertion. The time is in seconds, as the MCP server shows it. -/
def Known (d : Deployment) (w : World) (claims : IntrospectionResponse)
    (projectId : String) (scopes : List String) (signedAt : Int) : Prop :=
  let since := 1000 * (signedAt + 60) - d.assertionAge
  (d.appAuthMode = .personalToken ∧ claims.userId ≠ "" ∧
    Backed w since claims.userId projectId scopes) ∨
  (d.authMode = .oauth ∧ Vouched d w since claims projectId scopes)

/-- Something is known of every assertion that was signed. -/
def Sound (d : Deployment) (w : World) : Prop :=
  ∀ input ∈ w.signed, '.' ∉ input.toList ∨ ∃ claims projectId scopes signedAt,
    input = assertionInput claims projectId scopes signedAt ∧
      Known d w claims projectId scopes signedAt

/-- A personal token, or the word of the authorization server, stands behind an identity. -/
def Stands (d : Deployment) (w : World) (before since : Int) (userId projectId : String)
    (scopes : List String) : Prop :=
  (d.appAuthMode = .personalToken ∧ Backed w before userId projectId scopes) ∨
  (d.authMode = .oauth ∧ ∃ claims, Vouched d w before claims projectId scopes ∧
    NameUser w since claims userId)

/-- A request that is accepted. -/
structure Authorized (d : Deployment) (since : Int) (w : World)
    (required : List String) (identity : AgentIdentity) : Prop where
  granted : ∀ scope ∈ required, scope ∈ identity.scopes
  stands : Stands d w (since - d.assertionAge) since identity.userId identity.projectId
    identity.scopes
  permitted : Permitted w since identity.userId identity.projectId required

/-- Nothing that was is forgotten, and time does not go back. -/
structure Later (w w' : World) : Prop where
  seen : ∀ m ∈ w.seen, m ∈ w'.seen
  vouched : ∀ v ∈ w.vouched, v ∈ w'.vouched
  now : w.moment.now ≤ w'.moment.now

/-- What can happen to the world. -/
structure Evolves (d : Deployment) (w w' : World) : Prop extends Later w w' where
  sound : Sound d w → Sound d w'

variable {d : Deployment} {w w' w'' : World} {since since' : Int}
  {userId projectId : String} {scopes scopes' : List String} {claims : IntrospectionResponse}

theorem Backed.mono (h : Backed w since userId projectId scopes)
    (hseen : ∀ m ∈ w.seen, m ∈ w'.seen) (hsince : since' ≤ since)
    (hscopes : ∀ scope ∈ scopes', scope ∈ scopes) : Backed w' since' userId projectId scopes' := by
  obtain ⟨m, hm, hnow, record, hrecord, huser, hproject, hrevoked, hexpires, granted, hparse,
    hgranted⟩ := h
  exact ⟨m, hseen m hm, by omega, record, hrecord, huser, hproject, hrevoked, by omega, granted,
    hparse, fun scope hscope => hgranted scope (hscopes scope hscope)⟩

theorem Permitted.mono (h : Permitted w since userId projectId scopes)
    (hseen : ∀ m ∈ w.seen, m ∈ w'.seen) (hscopes : ∀ scope ∈ scopes', scope ∈ scopes) :
    Permitted w' since userId projectId scopes' := by
  obtain ⟨m, hm, hnow, user, huser, hid, hactive, m', hm', hlater, role, hrole, hallows⟩ := h
  exact ⟨m, hseen m hm, hnow, user, huser, hid, hactive, m', hseen m' hm', hlater, role, hrole,
    fun scope hscope => hallows scope (hscopes scope hscope)⟩

theorem Vouched.mono (h : Vouched d w since claims projectId scopes) (hlater : Later w w')
    (hsince : since' ≤ since) : Vouched d w' since' claims projectId scopes := by
  obtain ⟨t, hvouched, ht, haudience, hscopes⟩ := h
  exact ⟨t, hlater.vouched _ hvouched, hsince.trans ht, haudience, hscopes⟩

theorem NameUser.mono (h : NameUser w since claims userId) (hlater : Later w w') :
    NameUser w' since claims userId := by
  rcases h with hid | ⟨hid, m, hm, hnow, user, huser⟩
  · exact .inl hid
  · exact .inr ⟨hid, m, hlater.seen m hm, hnow, user, huser⟩

theorem Known.mono {signedAt : Int} (h : Known d w claims projectId scopes signedAt)
    (hlater : Later w w') : Known d w' claims projectId scopes signedAt := by
  rcases h with ⟨hmode, hid, hbacked⟩ | ⟨hmode, hvouched⟩
  · exact .inl ⟨hmode, hid, hbacked.mono hlater.seen le_rfl fun _ hscope => hscope⟩
  · exact .inr ⟨hmode, hvouched.mono hlater le_rfl⟩

theorem Stands.mono {before before' : Int} (h : Stands d w before since userId projectId scopes)
    (hlater : Later w w') (hbefore : before' ≤ before) :
    Stands d w' before' since userId projectId scopes := by
  rcases h with ⟨hmode, hbacked⟩ | ⟨hmode, claims, hvouched, hname⟩
  · exact .inl ⟨hmode, hbacked.mono hlater.seen hbefore fun _ hscope => hscope⟩
  · exact .inr ⟨hmode, claims, hvouched.mono hlater hbefore, hname.mono hlater⟩

theorem Authorized.mono {required : List String} {identity : AgentIdentity}
    (h : Authorized d since w required identity) (hlater : Later w w') :
    Authorized d since w' required identity where
  granted := h.granted
  stands := h.stands.mono hlater le_rfl
  permitted := h.permitted.mono hlater.seen fun _ hscope => hscope

theorem Later.refl (w : World) : Later w w := ⟨fun _ hm => hm, fun _ hv => hv, le_rfl⟩

theorem Later.trans (h : Later w w') (h' : Later w' w'') : Later w w'' :=
  ⟨fun m hm => h'.seen m (h.seen m hm), fun v hv => h'.vouched v (h.vouched v hv),
    h.now.trans h'.now⟩

theorem Evolves.refl (w : World) : Evolves d w w := ⟨Later.refl w, fun h => h⟩

theorem Evolves.trans (h : Evolves d w w') (h' : Evolves d w' w'') :
    Evolves d w w'' :=
  ⟨h.toLater.trans h'.toLater, fun hsound => h'.sound (h.sound hsound)⟩

/-- The texts signed so far stay known. -/
theorem Sound.mono (h : Sound d w) (hlater : Later w w')
    (hsigned : w'.signed = w.signed) : Sound d w' := by
  intro input hinput
  rw [hsigned] at hinput
  rcases h input hinput with hdot | ⟨claims, projectId, scopes, signedAt, heq, hknown⟩
  · exact .inl hdot
  · exact .inr ⟨claims, projectId, scopes, signedAt, heq, hknown.mono hlater⟩

/-- One more text is signed. -/
theorem Sound.sign {input : String} (h : Sound d w)
    (hinput : '.' ∉ input.toList ∨ ∃ claims projectId scopes signedAt,
      input = assertionInput claims projectId scopes signedAt ∧
        Known d w claims projectId scopes signedAt) :
    Sound d { w with signed := w.signed ++ [input] } := by
  intro text htext
  rcases List.mem_append.1 htext with htext | htext
  · exact h text htext
  · rw [List.mem_singleton.1 htext]
    exact hinput

theorem Evolves.of_later (hlater : Later w w') (hsigned : w'.signed = w.signed) :
    Evolves d w w' :=
  ⟨hlater, fun hsound => hsound.mono hlater hsigned⟩

theorem Evolves.become {m : Moment} (h : w.moment.now ≤ m.now) :
    Evolves d w (w.become m) :=
  .of_later ⟨fun _ hm => List.mem_cons_of_mem _ hm, fun _ hv => hv, h⟩ rfl

theorem evolves_happen (hashes : Hashes) (event : AgentEvent) (w : World) :
    Evolves d w (happen hashes event w) := by
  cases event with
  | tick milliseconds => exact Evolves.become (Int.le_add_of_nonneg_right (Int.natCast_nonneg _))
  | write tables named => exact Evolves.become le_rfl
  | createAgentToken id token userId projectId scopes expiresAt => exact Evolves.become le_rfl
  | revokeAgentToken userId tokenId => exact Evolves.become le_rfl
  | issueValidationReceipt bundle now =>
      exact ⟨⟨fun _ hm => hm, fun _ hv => hv, le_rfl⟩,
        fun hsound => hsound.sign (.inl (dot_not_mem_encodeToString _))⟩

/-! ## Each request alone -/

section Requests

variable {hashes : Hashes} {secret : String}

/-- A request among others. -/
def requests (hashes : Hashes) (secret : String) (d : Deployment) :
    Setting AgentOp AgentOp.Reply World AgentAnswer where
  handle := handle hashes secret
  rely := Evolves d
  guard := Answered hashes secret d
  guar := Evolves d
  rely_refl := Evolves.refl
  rely_trans := Evolves.trans

/-- What a request knows throughout. -/
def Running (d : Deployment) (since : Int) (w : World) : Prop :=
  Sound d w ∧ since ≤ w.moment.now

theorem Running.evolves (h : Running d since w) (hevolves : Evolves d w w') :
    Running d since w' :=
  ⟨hevolves.sound h.1, h.2.trans hevolves.now⟩

/-- The rule for a call that reads. -/
theorem ask_safe {op : AgentOp} (hreads : ∀ a w, effect op a w = w)
    {post : op.Reply → World → Prop}
    (hstable : ∀ {r w w'}, Evolves d w w' → post r w → post r w')
    (h : ∀ w', Evolves d w w' → ∀ a, Answered hashes secret d op a w' →
      post (answer hashes secret op a w') w') :
    (requests hashes secret d).Safe post (ask op) w := by
  refine Setting.Safe.perform fun w' hw' a hanswered => ?_
  have heffect : ((requests hashes secret d).handle op a w').2 = w' := hreads a w'
  rw [heffect]
  exact ⟨Evolves.refl w', fun w'' hw'' => hstable hw'' (h w' hw' a hanswered)⟩

/-- What is known of a result, if there is one. -/
def Yields {α : Type} (d : Deployment) (since : Int) (known : α → World → Prop)
    (r : Option α) (w : World) : Prop := Running d since w ∧ ∀ a ∈ r, known a w

theorem Yields.evolves {α : Type} {known : α → World → Prop} {r : Option α}
    (hknown : ∀ {a w w'}, Evolves d w w' → known a w → known a w')
    (h : Yields d since known r w) (hevolves : Evolves d w w') :
    Yields d since known r w' :=
  ⟨h.1.evolves hevolves, fun a ha => hknown hevolves (h.2 a ha)⟩

/-- The rule for a refusal. -/
theorem none_safe {α : Type} {known : α → World → Prop} (h : Running d since w) :
    (requests hashes secret d).Safe (Yields d since known) (pure none) w :=
  Setting.Safe.pure fun _ hw' => ⟨h.evolves hw', fun _ ha => by cases ha⟩

/-- The rule for a result. -/
theorem some_safe {α : Type} {known : α → World → Prop} {a : α}
    (hknown : ∀ {a w w'}, Evolves d w w' → known a w → known a w') (h : Running d since w)
    (ha : known a w) :
    (requests hashes secret d).Safe (Yields d since known) (pure (some a)) w :=
  Setting.Safe.pure fun _ hw' => ⟨h.evolves hw', fun _ hb => Option.some.inj hb ▸ hknown hw' ha⟩

theorem later_handle (op : AgentOp) (a : AgentAnswer) (w : World) :
    Later w (handle hashes secret op a w).2 := by
  cases op with
  | introspectOAuth token => exact ⟨fun _ hm => hm, fun _ hv => List.mem_append_left _ hv, le_rfl⟩
  | _ => exact ⟨fun _ hm => hm, fun _ hv => hv, le_rfl⟩

/-- The rule for a row that may be missing. -/
theorem bind_safe {α β : Type} {known : α → World → Prop} {known' : β → World → Prop}
    {p : AgentProgram (Option α)} {f : Option α → AgentProgram (Option β)}
    (h : (requests hashes secret d).Safe (Yields d since known) p w)
    (hnone : f none = pure none)
    (hsome : ∀ a w', Later w w' → Running d since w' → known a w' →
      (requests hashes secret d).Safe (Yields d since known') (f (some a)) w') :
    (requests hashes secret d).Safe (Yields d since known') (p >>= f) w := by
  have hframe := Setting.Safe.frame h (fun hw' hlater => hlater.trans hw'.toLater)
    (fun hlater => hlater.trans (later_handle _ _ _)) (Later.refl w)
  refine Setting.Safe.bind hframe fun r w' ⟨hr, hlater⟩ => ?_
  cases r with
  | none =>
      rw [hnone]
      exact none_safe hr.1
  | some a => exact hsome a w' hlater hr.1 (hr.2 a rfl)

/-- The user was found. -/
def FoundUser (since : Int) (id : String) (user : User) (w : World) : Prop :=
  ∃ m ∈ w.seen, m.now ≤ w.moment.now ∧ since ≤ m.now ∧ user ∈ m.tables.users ∧ user.id = id ∧
    id ≠ ""

theorem FoundUser.later {id : String} {user : User} (h : FoundUser since id user w)
    (hlater : Later w w') : FoundUser since id user w' := by
  obtain ⟨m, hm, hbefore, hfound⟩ := h
  exact ⟨m, hlater.seen m hm, hbefore.trans hlater.now, hfound⟩

/-- The row was found. -/
def FoundToken (since : Int) (record : AgentToken) (w : World) : Prop :=
  ∃ m ∈ w.seen, since ≤ m.now ∧ record ∈ m.tokens ∧ record.revokedAt = none ∧
    since < record.expiresAt

theorem selectUser_safe (id : String) (h : Running d since w) :
    (requests hashes secret d).Safe (Yields d since (FoundUser since id))
      (ask (.selectUser id)) w := by
  refine ask_safe (fun _ _ => rfl) ?_ fun w' hw' _ _ => ⟨h.evolves hw', fun user huser => ?_⟩
  · intro r w w' hw' hr
    exact hr.evolves (fun hw' hfound => hfound.later hw'.toLater) hw'
  · have hmem := List.mem_of_find?_eq_some huser
    have hid : user.id = id := by simpa using List.find?_some huser
    exact ⟨w'.moment, List.mem_cons_self, le_rfl, (h.evolves hw').2, hmem, hid,
      hid ▸ w'.moment.named user hmem⟩

theorem selectUserByEmail_safe (email : String) (h : Running d since w) :
    (requests hashes secret d).Safe
      (Yields d since fun user w => FoundUser since user.id user w ∧ user.email = email)
      (ask (.selectUserByEmail email)) w := by
  refine ask_safe (fun _ _ => rfl) ?_ fun w' hw' _ _ => ⟨h.evolves hw', fun user huser => ?_⟩
  · intro r w w' hw' hr
    exact hr.evolves (fun hw' hfound => ⟨hfound.1.later hw'.toLater, hfound.2⟩) hw'
  · have hmem := List.mem_of_find?_eq_some huser
    have hemail : user.email = email := by simpa using List.find?_some huser
    exact ⟨⟨w'.moment, List.mem_cons_self, le_rfl, (h.evolves hw').2, hmem, rfl,
      w'.moment.named user hmem⟩, hemail⟩

theorem selectToken_safe (hash : List UInt8) {now : Int} (hnow : since ≤ now)
    (h : Running d since w) :
    (requests hashes secret d).Safe (Yields d since (FoundToken since))
      (ask (.selectToken hash now)) w := by
  refine ask_safe (fun _ _ => rfl) ?_ fun w' hw' _ _ => ⟨h.evolves hw', fun record hrecord => ?_⟩
  · intro r w w' hw' hr
    exact hr.evolves (fun hw' ⟨m, hm, hfound⟩ => ⟨m, hw'.seen m hm, hfound⟩) hw'
  · have hvalid := List.find?_some hrecord
    simp only [Bool.decide_and, Bool.and_eq_true, decide_eq_true_eq, gt_iff_lt] at hvalid
    exact ⟨w'.moment, List.mem_cons_self, (h.evolves hw').2, List.mem_of_find?_eq_some hrecord,
      hvalid.2.2, lt_of_le_of_lt hnow hvalid.2.1⟩

/-- What is known from a reading of the clock on. -/
theorem clock_safe (h : Running d since w) :
    (requests hashes secret d).Safe (fun now w' => Running d now w' ∧ since ≤ now)
      (ask .clock) w :=
  ask_safe (fun _ _ => rfl) (fun hw' hr => ⟨hr.1.evolves hw', hr.2⟩)
    fun _ hw' _ _ => ⟨⟨(h.evolves hw').1, le_rfl⟩, (h.evolves hw').2⟩

/-- A user that is found active and then has a role is permitted what the role allows. -/
theorem selectMembership_safe {user : User} {id : String} (projectId : String)
    (h : Running d since w)
    (hfound : FoundUser since id user w) (hactive : user.isActive = true) :
    (requests hashes secret d).Safe
      (Yields d since fun role w => ∀ scopes, (∀ scope ∈ scopes, allows role scope = true) →
        Permitted w since id projectId scopes)
      (ask (.selectMembership id projectId user.role)) w := by
  refine ask_safe (fun _ _ => rfl) ?_ fun w' hw' _ _ => ⟨h.evolves hw', ?_⟩
  · intro r w w' hw' hr
    refine hr.evolves (fun hw' hpermitted scopes hallows => ?_) hw'
    exact (hpermitted scopes hallows).mono hw'.seen fun _ hscope => hscope
  · intro role hrole scopes hallows
    obtain ⟨m, hm, hbefore, hsince, huser, hid, -⟩ := hfound.later hw'.toLater
    exact ⟨m, hm, hsince, user, huser, hid, hactive, w'.moment, List.mem_cons_self, hbefore, role,
      hrole, hallows⟩

/-- **What a personal token stands for.** -/
theorem authenticatePersonalAgentToken_safe (token : String) (h : Running d since w) :
    (requests hashes secret d).Safe
      (Yields d since fun r w =>
        Backed w since r.1.userId r.1.projectId r.1.scopes ∧
          Permitted w since r.1.userId r.1.projectId r.1.scopes)
      (authenticatePersonalAgentToken hashes token) w := by
  unfold authenticatePersonalAgentToken
  split_ifs
  · exact none_safe h
  refine Setting.Safe.bind (clock_safe h) fun now w₁ ⟨hrunning, hnow⟩ => ?_
  have h₁ : Running d since w₁ := ⟨hrunning.1, hnow.trans hrunning.2⟩
  refine bind_safe (selectToken_safe _ hnow h₁) rfl fun record w₂ _ h₂ htoken => ?_
  dsimp only
  cases hscopes : parseScopes record.scopes with
  | none => exact none_safe h₂
  | some scopes =>
      have hbacked : Backed w₂ since record.userId record.projectId scopes := by
        obtain ⟨m, hm, hsince, hrecord, hrevoked, hexpires⟩ := htoken
        exact ⟨m, hm, hsince, record, hrecord, rfl, rfl, hrevoked, hexpires, scopes, hscopes,
          fun _ hscope => hscope⟩
      -- the moment that backs the token is in the history already, whatever the later reads see
      refine bind_safe (selectUser_safe _ h₂) rfl fun user w₃ hw₃ h₃ hfound => ?_
      dsimp only
      split_ifs with hactive
      · exact none_safe h₃
      rw [Bool.not_eq_true', Bool.not_eq_false] at hactive
      refine bind_safe (selectMembership_safe record.projectId h₃ hfound hactive) rfl
        fun role w₄ hw₄ h₄ hpermitted => ?_
      dsimp only
      split_ifs
      · exact none_safe h₄
      refine some_safe ?_ h₄ ⟨?_, ?_⟩
      · intro r w w' hw' hr
        exact ⟨hr.1.mono hw'.seen le_rfl fun _ hscope => hscope,
          hr.2.mono hw'.seen fun _ hscope => hscope⟩
      · exact hbacked.mono (fun m hm => hw₄.seen m (hw₃.seen m hm)) le_rfl
          fun _ hscope => (List.mem_filter.1 hscope).1
      · exact hpermitted _ fun _ hscope => (List.mem_filter.1 hscope).2

/-- What the MCP server has learnt of a token. -/
def Learnt (d : Deployment) (since : Int) (claims : IntrospectionResponse) (w : World) : Prop :=
  (d.authMode = .personalToken ∧ d.appAuthMode = .personalToken ∧ claims.userId ≠ "" ∧
    claims.scope = "" ∧ Backed w since claims.userId claims.projectId claims.scopes) ∨
  (d.authMode = .oauth ∧ ∃ t, (t, claims) ∈ w.vouched ∧ since ≤ t)

theorem Learnt.later (h : Learnt d since claims w) (hlater : Later w w') :
    Learnt d since claims w' := by
  rcases h with ⟨hmode, happ, hid, hscope, hbacked⟩ | ⟨hmode, t, hvouched, ht⟩
  · exact .inl ⟨hmode, happ, hid, hscope, hbacked.mono hlater.seen le_rfl fun _ hscope => hscope⟩
  · exact .inr ⟨hmode, t, hlater.vouched _ hvouched, ht⟩

/-- What the application tells of a personal token. -/
theorem introspect_safe (token : String) (hmode : d.authMode = .personalToken)
    (h : Running d since w) :
    (requests hashes secret d).Safe (Yields d since (Learnt d since)) (introspect hashes d token)
      w := by
  unfold introspect
  split_ifs with happ
  · exact none_safe h
  rw [not_not] at happ
  refine bind_safe (authenticatePersonalAgentToken_safe token h) rfl fun r w₁ _ h₁ hr => ?_
  refine bind_safe (selectUser_safe r.1.userId h₁) rfl fun user w₂ hw₂ h₂ hfound => ?_
  dsimp only
  split_ifs
  · exact none_safe h₂
  refine some_safe (fun hw' hlearnt => hlearnt.later hw'.toLater) h₂
    (.inl ⟨hmode, happ, ?_, rfl, ?_⟩)
  · obtain ⟨m, hm, hbefore, hsince, huser, hid, hne⟩ := hfound
    exact hne
  · exact hr.1.mono hw₂.seen le_rfl fun _ hscope => hscope

/-- What the authorization server tells of a token. -/
theorem introspectOAuth_safe (token : String) (hmode : d.authMode = .oauth)
    (h : Running d since w) :
    (requests hashes secret d).Safe (Yields d since (Learnt d since))
      (ask (.introspectOAuth token)) w := by
  refine Setting.Safe.perform fun w' hw' a _ => ?_
  have hlater : Later w' (handle hashes secret (.introspectOAuth token) a w').2 :=
    later_handle (.introspectOAuth token) a w'
  have hevolves : Evolves d w' (effect (.introspectOAuth token) a w') := .of_later hlater rfl
  have h' := h.evolves hw'
  have hlearnt : ∀ claims ∈ a.claims,
      Learnt d since claims (effect (.introspectOAuth token) a w') := by
    intro claims hclaims
    refine .inr ⟨hmode, w'.moment.now, List.mem_append_right _ ?_, h'.2⟩
    rw [Option.mem_def.1 hclaims]
    exact List.mem_singleton_self _
  refine ⟨hevolves, fun w'' hw'' => ⟨(h'.evolves hevolves).evolves hw'', ?_⟩⟩
  exact fun claims hclaims => (hlearnt claims hclaims).later hw''.toLater

theorem introspection_safe (token : String) (h : Running d since w) :
    (requests hashes secret d).Safe (Yields d since (Learnt d since)) (introspection hashes d token)
      w := by
  unfold introspection
  cases hmode : d.authMode with
  | personalToken => exact introspect_safe token hmode h
  | oauth => exact introspectOAuth_safe token hmode h

/-- What is known when the claims have come in. -/
def Received (d : Deployment) (r : Int × IntrospectionResponse) (w : World) : Prop :=
  ∃ sent, Learnt d sent r.2 w ∧ r.1 ≤ sent + clientTimeout

theorem Received.later {r : Int × IntrospectionResponse} (h : Received d r w)
    (hlater : Later w w') : Received d r w' := by
  obtain ⟨sent, hlearnt, hreceived⟩ := h
  exact ⟨sent, hlearnt.later hlater, hreceived⟩

/-- **What the MCP server learns of a token**, in time. -/
theorem introspectToken_safe (token : String) (h : Running d since w) :
    (requests hashes secret d).Safe (Yields d since (Received d)) (introspectToken hashes d token)
      w := by
  refine Setting.Safe.bind (clock_safe h) fun sent w₁ hclock => ?_
  obtain ⟨h₁, hsent⟩ := hclock
  refine Setting.Safe.bind (introspection_safe token h₁) fun response w₂ h₂ => ?_
  have hkept : (requests hashes secret d).Safe
      (fun _ => Yields d sent (Learnt d sent) response) (ask .clock) w₂ := by
    have hevolves {w w' : World} (hw' : Evolves d w w')
        (h : Yields d sent (Learnt d sent) response w) :
        Yields d sent (Learnt d sent) response w' :=
      h.evolves (fun hw' hlearnt => hlearnt.later hw'.toLater) hw'
    exact ask_safe (fun _ _ => rfl) hevolves fun w' hw' _ _ => hevolves hw' h₂
  refine Setting.Safe.bind hkept fun received w₃ h₃ => ?_
  have hrunning : Running d since w₃ := ⟨h₃.1.1, hsent.trans h₃.1.2⟩
  split_ifs with htimeout
  · exact none_safe hrunning
  cases response with
  | none => exact none_safe hrunning
  | some claims =>
      exact some_safe (fun hw' hreceived => hreceived.later hw'.toLater) hrunning
        ⟨sent, h₃.2 claims rfl, not_lt.1 htimeout⟩

theorem serverClock_safe {received : Int} (h : Running d since w)
    (hreceived : Received d (received, claims) w) :
    (requests hashes secret d).Safe
      (fun shown w' => Running d since w' ∧ Received d (received, claims) w' ∧
        shown ≤ received + d.pause + d.skew)
      (ask (.serverClock received)) w := by
  refine ask_safe (fun _ _ => rfl)
    (fun hw' hr => ⟨hr.1.evolves hw', hr.2.1.later hw'.toLater, hr.2.2⟩)
    fun w' hw' a hanswered => ⟨h.evolves hw', hreceived.later hw'.toLater, ?_⟩
  have hahead : a.ahead ≤ d.skew := (le_abs_self _).trans hanswered.1
  exact Int.add_le_add hanswered.2 hahead

/-- The rule for a signature. -/
theorem sign_safe {signedAt : Int} (h : Running d since w)
    (hknown : Known d w claims projectId scopes signedAt) :
    (requests hashes secret d).Safe (fun _ => Running d since)
      (ask (.sign (assertionInput claims projectId scopes signedAt))) w := by
  refine Setting.Safe.perform fun w' hw' _ _ => ?_
  have hsigned (hsound : Sound d w') := hsound.sign
    (.inr ⟨claims, projectId, scopes, signedAt, rfl, hknown.mono hw'.toLater⟩)
  have hevolves : Evolves d w' { w' with signed := w'.signed ++ [assertionInput claims projectId
      scopes signedAt] } := ⟨⟨fun _ hm => hm, fun _ hv => hv, le_rfl⟩, hsigned⟩
  exact ⟨hevolves, fun _ hw'' => ((h.evolves hw').evolves hevolves).evolves hw''⟩

theorem mem_normalizeScopes (h : claims.scope = "") {scope : String}
    (hscope : scope ∈ normalizeScopes claims) : scope ∈ claims.scopes := by
  have hfields : fields claims.scope = [] := by rw [h]; decide
  simp only [normalizeScopes, hfields, List.append_nil, List.mem_insertionSort,
    List.mem_eraseDups, List.mem_filter] at hscope
  exact hscope.1

theorem grantedScopes_eq_some {required : List String}
    (h : grantedScopes claims required = some scopes) : scopes = normalizeScopes claims := by
  unfold grantedScopes at h
  dsimp only at h
  split_ifs at h
  exact (Option.some.inj h).symm

/-- What was learnt in time is known of the assertion that is signed for it. -/
theorem Learnt.known {sent signedAt : Int} {named : String} {required : List String}
    (h : Learnt d sent claims w) (hproject : claimedProject d claims named = some projectId)
    (hgranted : grantedScopes claims required = some scopes)
    (hsigned : 1000 * signedAt ≤ sent + clientTimeout + d.pause + d.skew) :
    Known d w claims projectId scopes signedAt := by
  have hsince : 1000 * (signedAt + 60) - d.assertionAge ≤ sent := by
    simp only [Deployment.assertionAge]
    simp only [clientTimeout] at hsigned
    omega
  obtain rfl := grantedScopes_eq_some hgranted
  rcases h with ⟨hmode, happ, hid, hscope, hbacked⟩ | ⟨hmode, t, hvouched, ht⟩
  -- the application says itself which project a personal token is for
  · rw [claimedProject, hmode] at hproject
    dsimp only at hproject
    split_ifs at hproject
    obtain rfl := Option.some.inj hproject
    exact .inl ⟨happ, hid, hbacked.mono (fun _ hm => hm) hsince
      fun scope hmem => mem_normalizeScopes hscope hmem⟩
  · rw [claimedProject, hmode] at hproject
    dsimp only at hproject
    split_ifs at hproject with haudience
    obtain rfl := Option.some.inj hproject
    rw [Bool.not_eq_true', Bool.not_eq_false] at haudience
    exact .inr ⟨hmode, t, hvouched, hsince.trans ht, haudience, fun _ hscope => hscope⟩

/-- **The server signs what it has learnt.** -/
theorem authenticateRequest_safe (token projectId : String) (required : List String)
    (h : Running d since w) :
    (requests hashes secret d).Safe (Yields d since fun _ _ => True)
      (authenticateRequest hashes d token projectId required) w := by
  unfold authenticateRequest
  split_ifs
  · exact none_safe h
  · exact none_safe h
  refine bind_safe (introspectToken_safe token h) rfl fun r w₁ _ h₁ hreceived => ?_
  obtain ⟨received, claims⟩ := r
  dsimp only
  cases hproject : claimedProject d claims (Text.trimSpace projectId) with
  | none => exact none_safe h₁
  | some project =>
      dsimp only
      cases hgranted : grantedScopes claims required with
      | none => exact none_safe h₁
      | some scopes =>
          refine Setting.Safe.bind (serverClock_safe h₁ hreceived)
            fun (shown : Int) w₂ hclock => ?_
          obtain ⟨h₂, ⟨sent, hlearnt, hsent⟩, hshown⟩ := hclock
          -- the time is rounded down to seconds, so it is at most what the clock shows
          have hseconds : 1000 * (shown / 1000) ≤ shown := Int.mul_ediv_self_le (by decide)
          have hknown : Known d w₂ claims project scopes (shown / 1000) :=
            hlearnt.known hproject hgranted (by dsimp only at hsent; omega)
          refine Setting.Safe.bind (sign_safe h₂ hknown) fun mac w₃ h₃ => ?_
          exact some_safe (fun _ _ => trivial) h₃ trivial

/-- What is known of an assertion that is accepted. -/
def Asserted (d : Deployment) (since : Int) (accepted : AgentAssertionClaims) (w : World) : Prop :=
  ∃ claims projectId scopes signedAt, Known d w claims projectId scopes signedAt ∧
    accepted = signedClaims claims projectId scopes signedAt ∧ since < 1000 * (signedAt + 60)

theorem verify_safe (assertion : String) (h : Running d since w) :
    (requests hashes secret d).Safe (Yields d since (Asserted d since))
      (ask (.verify assertion)) w := by
  refine ask_safe (fun _ _ => rfl) ?_ fun w' hw' _ hunforged =>
    ⟨h.evolves hw', fun accepted haccepted => ?_⟩
  · intro r w w' hw' hr
    refine hr.evolves (fun hw' hasserted => ?_) hw'
    obtain ⟨claims, projectId, scopes, signedAt, hknown, hasserted⟩ := hasserted
    exact ⟨claims, projectId, scopes, signedAt, hknown.mono hw'.toLater, hasserted⟩
  · have h' := h.evolves hw'
    obtain ⟨claims, projectId, scopes, signedAt, hknown, heq, -, hexpires⟩ :=
      verified_signed hunforged haccepted h'.1
    have hsince := h'.2
    exact ⟨claims, projectId, scopes, signedAt, hknown, heq, by omega⟩

theorem assertedUser_eq {accepted : AgentAssertionClaims} {id : String}
    (h : accepted.userId = some id) (hid : id ≠ "") :
    assertedUser accepted = ask (.selectUser id) := by
  unfold assertedUser
  rw [h, Option.filter_some, if_pos (by simpa using hid)]

theorem assertedUser_eq_email {accepted : AgentAssertionClaims} {email : String}
    (h : accepted.userId = none) (hemail : accepted.email = some email) :
    assertedUser accepted = if email = "" then pure none
      else ask (.selectUserByEmail (Text.toLower (Text.trimSpace email))) := by
  unfold assertedUser
  rw [h, hemail, Option.filter_none, Option.filter_some]
  by_cases hblank : email = ""
  · rw [if_pos hblank, if_neg (by simpa using hblank)]
  · rw [if_neg hblank, if_pos (by simpa using hblank)]

/-- The user of an assertion is the one that its claims name. -/
theorem assertedUser_safe {signedAt : Int} (h : Running d since w) :
    (requests hashes secret d).Safe
      (Yields d since fun user w =>
        FoundUser since user.id user w ∧ NameUser w since claims user.id)
      (assertedUser (signedClaims claims projectId scopes signedAt)) w := by
  by_cases hid : claims.userId = ""
  · have huser : (signedClaims claims projectId scopes signedAt).userId = none :=
      if_neg (not_not.2 hid)
    -- the authorization server need not know the ids of users: they are named by the address then
    obtain ⟨email, hsigned, haddress⟩ : ∃ email,
        (signedClaims claims projectId scopes signedAt).email = some email ∧
          Text.toLower (Text.trimSpace email)
            = Text.toLower (Text.trimSpace (Text.toLower (Text.trimSpace claims.email))) :=
      ⟨_, rfl, rfl⟩
    rw [assertedUser_eq_email huser hsigned]
    split_ifs
    · exact none_safe h
    refine (selectUserByEmail_safe _ h).mono fun r w' hr => ⟨hr.1, fun user huser => ?_⟩
    obtain ⟨hfound, hemail⟩ := hr.2 user huser
    obtain ⟨m, hm, hbefore, hsince, hmem, -⟩ := hfound
    exact ⟨(hr.2 user huser).1, .inr ⟨hid, m, hm, hsince, user, hmem, rfl,
      hemail.trans haddress⟩⟩
  · have huser : (signedClaims claims projectId scopes signedAt).userId = some claims.userId :=
      if_pos hid
    rw [assertedUser_eq huser hid]
    refine (selectUser_safe claims.userId h).mono fun r w' hr => ⟨hr.1, fun user huser => ?_⟩
    obtain ⟨m, hm, hbefore, hsince, hmem, hname, hne⟩ := hr.2 user huser
    exact ⟨⟨m, hm, hbefore, hsince, hmem, rfl, hname ▸ hne⟩, .inl hname.symm⟩

/-- What is known of an assertion stands behind the user that its claims name. -/
theorem Known.stands {signedAt : Int} (h : Known d w claims projectId scopes signedAt)
    (hname : NameUser w since claims userId) (hsince : since < 1000 * (signedAt + 60)) :
    Stands d w (since - d.assertionAge) since userId projectId scopes := by
  rcases h with ⟨hmode, hid, hbacked⟩ | ⟨hmode, hvouched⟩
  · obtain rfl : claims.userId = userId := hname.resolve_right fun hnone => hid hnone.1
    exact .inl ⟨hmode, hbacked.mono (fun _ hm => hm) (by omega) fun _ hscope => hscope⟩
  · exact .inr ⟨hmode, claims, hvouched.mono (Later.refl w) (by omega), hname⟩

/-- **A request with an assertion.** -/
theorem authenticateAssertion_safe (assertion : String) (required : List String)
    (h : Running d since w) :
    (requests hashes secret d).Safe
      (Yields d since fun identity w => Authorized d since w required identity)
      (authenticateAssertion assertion required) w := by
  refine bind_safe (verify_safe assertion h) rfl fun accepted w₁ _ h₁ hasserted => ?_
  obtain ⟨claims, projectId, scopes, signedAt, hknown, rfl, hsince⟩ := hasserted
  dsimp only
  refine bind_safe (assertedUser_safe h₁) rfl fun user w₂ hw₂ h₂ huser => ?_
  obtain ⟨hfound, hname⟩ := huser
  have hscopes : (signedClaims claims projectId scopes signedAt).scopes.filterMap textOf
      = scopes := by
    simp [signedClaims, List.filterMap_map, Function.comp_def, textOf]
  dsimp only
  rw [hscopes]
  split_ifs with hactive hrequired
  · exact none_safe h₂
  · exact none_safe h₂
  rw [Bool.not_eq_true', Bool.not_eq_false] at hactive hrequired
  refine bind_safe (selectMembership_safe projectId h₂ hfound hactive) rfl
    fun role w₃ hw₃ h₃ hpermitted => ?_
  dsimp only
  split_ifs with hallows
  · exact none_safe h₃
  rw [Bool.not_eq_true', Bool.not_eq_false] at hallows
  refine some_safe (fun hw' hauthorized => hauthorized.mono hw'.toLater) h₃ ⟨?_, ?_, ?_⟩
  · intro scope hscope
    simpa using List.all_eq_true.1 hrequired scope hscope
  · exact ((hknown.mono hw₂).stands hname hsince).mono hw₃ le_rfl
  · exact hpermitted _ fun scope hscope => List.all_eq_true.1 hallows scope hscope

/-- **A request to the application.** -/
theorem authenticateAgentRequest_safe (assertion token : String) (required : List String)
    (h : Running d since w) :
    (requests hashes secret d).Safe
      (Yields d since fun identity w => Authorized d since w required identity)
      (authenticateAgentRequest hashes d assertion token required) w := by
  unfold authenticateAgentRequest
  split_ifs with _ happ
  · exact authenticateAssertion_safe assertion required h
  · exact none_safe h
  have hmode : d.appAuthMode = .personalToken := by
    cases hmode : d.appAuthMode with
    | personalToken => rfl
    | oauth => exact absurd hmode happ
  refine bind_safe (authenticatePersonalAgentToken_safe token h) rfl fun r w₁ _ h₁ hr => ?_
  obtain ⟨identity, role⟩ := r
  dsimp only at hr ⊢
  split_ifs with hrequired hallows
  · exact none_safe h₁
  · exact none_safe h₁
  rw [Bool.not_eq_true', Bool.not_eq_false] at hrequired
  have hgranted : ∀ scope ∈ required, scope ∈ identity.scopes := by
    intro scope hscope
    simpa using List.all_eq_true.1 hrequired scope hscope
  have hage : 0 ≤ d.assertionAge := by
    unfold Deployment.assertionAge
    omega
  refine some_safe (fun hw' hauthorized => hauthorized.mono hw'.toLater) h₁
    ⟨hgranted, .inl ⟨hmode, ?_⟩, ?_⟩
  · exact hr.1.mono (fun _ hm => hm) (by omega) fun _ hscope => hscope
  · exact hr.2.mono (fun _ hm => hm) hgranted

end Requests

/-! ## Runs -/

section Runs

variable {hashes : Hashes} {secret : String} {s s₁ s₂ : Servers}
  {labels labels₁ labels₂ : List AgentLabel}

/-- What a thread that is done has got. -/
def Got (d : Deployment) (since : Int) (n i : ℕ) : AgentTask → AgentReply → World → Prop
  | .request _ _ required, .identity (some identity), w =>
    n ≤ i → Authorized d since w required identity
  | _, _, _ => True

theorem program_safe (n i : ℕ) (task : AgentTask) (h : Running d since w) :
    (requests hashes secret d).Safe (Got d since n i task) (task.program hashes d) w := by
  cases task with
  | callTool token projectId name =>
      refine Setting.Safe.bind (authenticateRequest_safe token projectId _ h) fun _ _ _ => ?_
      exact Setting.Safe.pure fun _ _ => trivial
  | request assertion token required =>
      refine Setting.Safe.bind (authenticateAgentRequest_safe assertion token required h)
        fun r w' hr => ?_
      refine Setting.Safe.pure fun w'' hw'' => ?_
      cases r with
      | none => trivial
      | some identity => exact fun _ => (hr.2 identity rfl).mono hw''.toLater

/-- Every run keeps what is known of the assertions and of the requests that have come in since. -/
theorem AgentRun.got (n : ℕ) (h : AgentRun hashes secret d s labels s₁)
    (hrunning : Running d since s.shared)
    (hsafe : Parallel.EachSafe (fun _ => requests hashes secret d) (Got d since n) s) :
    Running d since s₁.shared ∧
      Parallel.EachSafe (fun _ => requests hashes secret d) (Got d since n) s₁ :=
  Parallel.guarded_each (fun _ => requests hashes secret d) (Got d since n) h (fun _ => rfl)
    (fun _ => rfl) (fun _ hw => hw) (fun _ event w => evolves_happen hashes event w)
    (Running d since) (fun hw h => h.evolves hw)
    (fun h => h.evolves (evolves_happen hashes _ _)) (fun i task _ h => program_safe n i task h)
    hrunning hsafe

theorem parseScopes_marshal (h : ∀ scope ∈ scopes, scope ∈ agentScopes) :
    parseScopes (Json.arr (scopes.map .str)).marshal = some scopes := by
  have hwell : (Json.arr (scopes.map .str)).wellFormed = true := by
    rw [Json.wellFormed, Json.wellFormedItems_iff]
    intro j hj
    obtain ⟨scope, -, rfl⟩ := List.mem_map.1 hj
    simp [Json.wellFormed]
  have htexts : (scopes.map Json.str).filterMap textOf = scopes := by
    simp [List.filterMap_map, Function.comp_def, textOf]
  simp only [parseScopes, Json.parse_marshal _ hwell, htexts]
  exact congrArg some (List.filter_eq_self.2 fun scope hscope => by simpa using h scope hscope)

/-- Both servers take personal tokens. -/
def importDeployment : Deployment where
  authMode := .personalToken
  appAuthMode := .personalToken
  resourceURL projectId := "https://tokyo.example.org/mcp/projects/" ++ projectId

/-- The clocks agree. -/
def agreeing : AgentAnswer := {}

def importToken : AgentToken :=
  createAgentToken agentHashes "t" "tt_pat_a" "u" "p" ["workflow:write"] 2000000

/-- An editor with a token for imports. -/
def importStart : Moment where
  now := 1000000
  tables :=
    { projects := [{ id := "p", kind := .team, createdBy := "u" }]
      projectMembers := [{ projectId := "p", userId := "u", role := .editor }]
      users := [{ id := "u", email := "u@example.org", name := none, role := "user"
                  isActive := true }] }
  tokens := [importToken]

/-- The assertion that the MCP server signs. -/
def importInput : String := assertionInput importResponse "p" ["workflow:write"] 1000

def importAssertion : String :=
  importInput ++ "." ++ encodeToString (signature agentHashes agentSecret importInput)

/-- A program that runs alone in this deployment. -/
abbrev ImportAlone {α : Type} (answers : List AgentAnswer) (w : World) (p : AgentProgram α) (a : α)
    (w' : World) : Prop :=
  Parallel.Alone (handle agentHashes agentSecret)
    (Answered agentHashes agentSecret importDeployment) answers w p a w'

theorem import_allowed :
    ImportAlone (List.replicate 4 agreeing) { moment := importStart }
      (authenticatePersonalAgentToken agentHashes "tt_pat_a")
      (some (⟨"t", "u", "p", ["workflow:write"]⟩, .editor)) { moment := importStart } := by
  have hscopes : parseScopes importToken.scopes = some ["workflow:write"] :=
    parseScopes_marshal (by decide)
  have hpat : Text.hasPrefix "tt_pat_a" "tt_pat_" = true := by decide
  have heffective : ["workflow:write"].filter (allows .editor) = ["workflow:write"] := by decide
  unfold authenticatePersonalAgentToken
  rw [hpat]
  refine .ask trivial rfl (.ask (r := some importToken) trivial rfl ?_)
  dsimp only
  rw [hscopes]
  refine .ask trivial rfl (.ask (r := some .editor) trivial rfl ?_)
  dsimp only
  rw [heffective]
  exact .done _ _

theorem import_introspected :
    ImportAlone (List.replicate 4 agreeing ++ [agreeing]) { moment := importStart }
      (introspect agentHashes importDeployment "tt_pat_a")
      (some importResponse) { moment := importStart } := by
  unfold introspect
  rw [if_neg (by decide)]
  refine .bind import_allowed (.ask (r := importStart.tables.users.head?) trivial rfl ?_)
  exact .done _ _

theorem import_received :
    ImportAlone (agreeing :: ((List.replicate 4 agreeing ++ [agreeing]) ++ [agreeing]))
      { moment := importStart }
      (introspectToken agentHashes importDeployment "tt_pat_a")
      (some (1000000, importResponse)) { moment := importStart } := by
  refine .ask trivial rfl (.bind import_introspected (.ask (r := (1000000 : Int)) trivial rfl ?_))
  exact .done _ _

theorem import_signed :
    ImportAlone
      ((agreeing :: ((List.replicate 4 agreeing ++ [agreeing]) ++ [agreeing])) ++
        [agreeing, agreeing])
      { moment := importStart }
      (authenticateRequest agentHashes importDeployment "tt_pat_a" "" ["workflow:write"])
      (some importAssertion) { moment := importStart, signed := [importInput] } := by
  have hproject : claimedProject importDeployment importResponse (Text.trimSpace "")
      = some "p" := by decide
  have hgranted : grantedScopes importResponse ["workflow:write"] = some ["workflow:write"] := by
    decide
  have hclock : |(0 : Int)| ≤ importDeployment.skew ∧
      importStart.now ≤ 1000000 + importDeployment.pause := by decide
  unfold authenticateRequest
  rw [if_neg (by decide), if_neg (by decide)]
  refine .bind import_received ?_
  dsimp only
  rw [hproject, hgranted]
  refine .ask (r := (1000000 : Int)) hclock rfl ?_
  have hseconds : (1000000 : Int) / 1000 = 1000 := by decide
  rw [hseconds]
  exact .ask trivial rfl (.done _ _)

/-- The token is revoked, and twenty seconds go by. -/
def importLater : World :=
  happen agentHashes (.tick 20000)
    (happen agentHashes (.revokeAgentToken "u" "t")
      { moment := importStart, signed := [importInput] })

def importIdentity : AgentIdentity := ⟨"assertion:u", "u", "p", ["workflow:write"]⟩

theorem import_accepted :
    ImportAlone [agreeing, agreeing, agreeing] importLater
      (authenticateAgentRequest agentHashes importDeployment importAssertion "" ["workflow:write"])
      (some importIdentity) importLater := by
  have hunforged : Unforged agentHashes agentSecret importLater.signed importAssertion := by
    intro header payload sig hparts _
    have hparts' := (parts_signAssertion agentHashes agentSecret importResponse "p"
      ["workflow:write"] 1000).symm.trans hparts
    obtain ⟨rfl, hrest⟩ := List.cons.inj hparts'
    obtain ⟨rfl, -⟩ := List.cons.inj hrest
    exact List.mem_singleton_self _
  have hverify : verifyAgentAssertion agentHashes agentSecret importAssertion 1020 =
      some (signedClaims importResponse "p" ["workflow:write"] 1000) := by
    refine (verify_eq_of_signed agentHashes (by decide) importResponse "p" ["workflow:write"] 1000
      1020).trans (if_pos ?_)
    rw [accepted_signedClaims (by decide)]
    decide
  have hanswer : handle agentHashes agentSecret (.verify importAssertion) agreeing importLater =
      (some (signedClaims importResponse "p" ["workflow:write"] 1000), importLater) := by
    have hnow : importLater.moment.now / 1000 = 1020 := by decide
    simp only [handle, answer, effect, hnow, hverify]
  have huser : (signedClaims importResponse "p" ["workflow:write"] 1000).userId = some "u" := by
    simp [signedClaims, importResponse]
  unfold authenticateAgentRequest authenticateAssertion
  rw [if_pos (by simp [importAssertion])]
  refine .ask hunforged hanswer ?_
  dsimp only
  rw [assertedUser_eq huser (by decide)]
  refine .ask (r := importStart.tables.users.head?) trivial rfl ?_
  refine .ask (r := some .editor) trivial rfl (.done _ _)

/-- The servers before the request, and after it. -/
def importServers : Servers where
  shared := importLater
  threads := [(.callTool "tt_pat_a" "" "tokyo_import_workflow",
    .done (.assertion (some importAssertion)))]

def importedServers : Servers where
  shared := importLater
  threads := importServers.threads ++
    [(.request importAssertion "" ["workflow:write"], .done (.identity (some importIdentity)))]

theorem importServers_run : ∃ labels, AgentRun agentHashes agentSecret importDeployment
    { shared := { moment := importStart } } labels importServers := by
  have hcall : ImportAlone _ { moment := importStart }
      ((AgentTask.callTool "tt_pat_a" "" "tokyo_import_workflow").program agentHashes
        importDeployment)
      (.assertion (some importAssertion)) _ := import_signed.bind (.done _ _)
  have hrun : AgentRun agentHashes agentSecret importDeployment
      { shared := { moment := importStart } } _ _ :=
    hcall.run
  have hevents : AgentRun agentHashes agentSecret importDeployment
      ⟨{ moment := importStart, signed := [importInput] }, importServers.threads⟩
      [.environment (.revokeAgentToken "u" "t"), .environment (.tick 20000)] importServers :=
    .cons (fun _ hc => by cases hc) rfl (.cons (fun _ hc => by cases hc) rfl (.nil _))
  exact ⟨_, hrun.append hevents⟩

theorem importedServers_run : ∃ labels,
    AgentRun agentHashes agentSecret importDeployment importServers labels importedServers := by
  have hcall : ImportAlone _ importLater
      ((AgentTask.request importAssertion "" ["workflow:write"]).program agentHashes
        importDeployment)
      (.identity (some importIdentity)) importLater := import_accepted.bind (.done _ _)
  have hrun : AgentRun agentHashes agentSecret importDeployment importServers _ importedServers :=
    hcall.run
  exact ⟨_, hrun⟩

end Runs

end Agent

end TokyoTester
