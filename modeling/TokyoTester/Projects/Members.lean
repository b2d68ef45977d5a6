import TokyoTester.Database.Revisions
import TokyoTester.Library.Table

set_option autoImplicit false

/-! # Project members (`modules/projects/server/service.ts`)

Requests that create teams and change their members run in parallel on three tables. A request that
removes or demotes a member reads the project and its members first and refuses when the member is
the final owner; the write is a statement of its own, and other requests may write in between. The
names of projects and the times are read by no check and are left out.

The checks compare identifiers as texts, the database compares them as the collation of their columns
does, which for MySQL need not tell all texts apart. -/

namespace TokyoTester

open Table

inductive ProjectKind where
  | personal | team
deriving DecidableEq, Repr, Inhabited

inductive ProjectRole where
  | owner | editor | runner
deriving DecidableEq, Repr, Inhabited

/-- A row of `project`. -/
structure Project where
  id : String
  kind : ProjectKind
  createdBy : String
deriving DecidableEq, Repr, Inhabited

/-- A row of `user`. -/
structure User where
  id : String
  email : String
  name : Option String
  role : String
  isActive : Bool
deriving DecidableEq, Repr, Inhabited

/-- A row of `project_member`. -/
structure ProjectMember where
  projectId : String
  userId : String
  role : ProjectRole
deriving DecidableEq, Repr, Inhabited

/-- A row of the join of members and users. -/
structure ProjectMemberUser where
  id : String
  email : String
  name : Option String
  role : String
  projectRole : ProjectRole
  isActive : Bool
deriving DecidableEq, Repr, Inhabited

/-- `DB_TYPE`, for MySQL with the collation of the identifiers: texts with one key are equal. -/
inductive DbType where
  | postgres
  | mysql (collation : String → String)

/-- What the database compares of an identifier. -/
def DbType.key : DbType → String → String
  | .postgres, id => id
  | .mysql collation, id => collation id

/-- What a request throws. -/
inductive ProjectError where
  | sql (error : SqlError)
  | thrown (message : String)
deriving DecidableEq, Repr, Inhabited

/-! ## Requests -/

/-- The statements of the requests. -/
inductive ProjectOp where
  | selectProject (projectId : String)
  | selectMembers (projectId : String)
  /-- The transaction of `createProject`: a team and its owner, or none of them. -/
  | createTeam (projectId adminUserId : String)
  | insertMembers (members : List ProjectMember)
  | deleteMember (projectId userId : String)
  | updateRole (projectId userId : String) (projectRole : ProjectRole)
deriving DecidableEq, Repr

def ProjectOp.Reply : ProjectOp → Type
  | selectProject _ => Except SqlError (Option Project)
  | selectMembers _ => Except SqlError (List ProjectMemberUser)
  | createTeam .. => Except SqlError Unit
  | insertMembers _ => Except SqlError Unit
  | deleteMember .. => Except SqlError Unit
  | updateRole .. => Except SqlError Unit

abbrev ProjectProgram := Program ProjectOp ProjectOp.Reply

/-- The end of a request, with the reply to its last statement. -/
def finish (reply : Except SqlError Unit) : ProjectProgram (Except ProjectError Unit) :=
  pure (reply.mapError .sql)

/-- `createProject`, with the id it has drawn. -/
def createProject (projectId adminUserId : String) : ProjectProgram (Except ProjectError Unit) := do
  finish (← Program.perform (ProjectOp.createTeam projectId adminUserId))

/-- `getProject`, and what a request throws that finds no project or a personal one. -/
def getTeam (projectId personal : String)
    (next : ProjectProgram (Except ProjectError Unit)) :
    ProjectProgram (Except ProjectError Unit) := do
  match ← Program.perform (ProjectOp.selectProject projectId) with
  | .error e => pure (.error (.sql e))
  | .ok none => pure (.error (.thrown "Project not found"))
  | .ok (some project) =>
    if project.kind = .personal then pure (.error (.thrown personal)) else next

/-- The loop of `addUsersToProject` for MySQL. -/
def insertEach : List ProjectMember → ProjectProgram (Except ProjectError Unit)
  | [] => pure (.ok ())
  | member :: rest => do
    match ← Program.perform (ProjectOp.insertMembers [member]) with
    | .error e => pure (.error (.sql e))
    | .ok _ => insertEach rest

/-- `addUsersToProject`. -/
def addUsersToProject (dbType : DbType) (projectId : String) (userIds : List String)
    (projectRole : ProjectRole := .runner) : ProjectProgram (Except ProjectError Unit) :=
  if userIds = [] then pure (.ok ())
  else
    getTeam projectId "Personal workspaces cannot have additional members" <|
      let members := userIds.map fun userId => { projectId, userId, role := projectRole }
      match dbType with
      | .postgres => do finish (← Program.perform (ProjectOp.insertMembers members))
      | .mysql _ => insertEach members

/-- The member is an owner, and there is no other one. -/
def isFinalOwner (members : List ProjectMemberUser) (userId : String) : Bool :=
  (members.find? fun m => m.id = userId).any (fun target => target.projectRole = .owner) &&
    (members.filter fun m => m.projectRole = .owner).length ≤ 1

/-- `removeUserFromProject`. -/
def removeUserFromProject (projectId userId : String) :
    ProjectProgram (Except ProjectError Unit) :=
  getTeam projectId "Personal workspace ownership cannot be changed" do
    match ← Program.perform (ProjectOp.selectMembers projectId) with
    | .error e => pure (.error (.sql e))
    | .ok members =>
      if isFinalOwner members userId then
        pure (.error (.thrown "The final team owner cannot be removed"))
      else finish (← Program.perform (ProjectOp.deleteMember projectId userId))

/-- `updateProjectMemberRole`. -/
def updateProjectMemberRole (projectId userId : String) (projectRole : ProjectRole) :
    ProjectProgram (Except ProjectError Unit) :=
  getTeam projectId "Personal workspace ownership cannot be changed" do
    match ← Program.perform (ProjectOp.selectMembers projectId) with
    | .error e => pure (.error (.sql e))
    | .ok members =>
      if !(members.any fun m => m.id = userId) then
        pure (.error (.thrown "Project member not found"))
      else if projectRole ≠ .owner && isFinalOwner members userId then
        pure (.error (.thrown "The final team owner cannot be demoted"))
      else finish (← Program.perform (ProjectOp.updateRole projectId userId projectRole))

/-- What a request is for. -/
inductive ProjectTask where
  | createProject (projectId adminUserId : String)
  | addUsersToProject (projectId : String) (userIds : List String) (projectRole : ProjectRole)
  | removeUserFromProject (projectId userId : String)
  | updateProjectMemberRole (projectId userId : String) (projectRole : ProjectRole)
deriving DecidableEq, Repr

def ProjectTask.program (dbType : DbType) :
    ProjectTask → ProjectProgram (Except ProjectError Unit)
  | createProject projectId adminUserId => TokyoTester.createProject projectId adminUserId
  | addUsersToProject projectId userIds projectRole =>
    TokyoTester.addUsersToProject dbType projectId userIds projectRole
  | removeUserFromProject projectId userId => TokyoTester.removeUserFromProject projectId userId
  | updateProjectMemberRole projectId userId projectRole =>
    TokyoTester.updateProjectMemberRole projectId userId projectRole

/-! ## The tables -/

structure ProjectTables where
  projects : List Project := []
  projectMembers : List ProjectMember := []
  users : List User := []
deriving DecidableEq, Repr, Inhabited

namespace ProjectTables

variable (key : String → String)

/-- The primary key of a member. -/
def memberKey (m : ProjectMember) : String × String := (key m.projectId, key m.userId)

/-- The rows of the join; nothing depends on their order. -/
def listMembers (projectId : String) (t : ProjectTables) : List ProjectMemberUser :=
  (t.projectMembers.filter fun m => key m.projectId = key projectId).filterMap fun m =>
    (t.users.find? fun u => key u.id = key m.userId).map fun u =>
      { id := u.id, email := u.email, name := u.name, role := u.role, projectRole := m.role
        isActive := u.isActive }

/-- `ON CONFLICT DO NOTHING`, and the update of a duplicate key that changes nothing. -/
def insertMember (rows : List ProjectMember) (m : ProjectMember) : List ProjectMember :=
  if rows.any fun r => memberKey key r = memberKey key m then rows else rows ++ [m]

/-- The effect of a statement. -/
def effect (t : ProjectTables) : ProjectOp → ProjectTables
  | .selectProject _ => t
  | .selectMembers _ => t
  | .createTeam projectId adminUserId =>
    { t with
      projects := t.projects ++ [{ id := projectId, kind := .team, createdBy := adminUserId }]
      projectMembers := t.projectMembers ++ [{ projectId, userId := adminUserId, role := .owner }] }
  | .insertMembers members =>
    { t with projectMembers := members.foldl (insertMember key) t.projectMembers }
  | .deleteMember projectId userId =>
    { t with
      projectMembers :=
        t.projectMembers.filter fun m => memberKey key m ≠ (key projectId, key userId) }
  | .updateRole projectId userId projectRole =>
    { t with
      projectMembers := updateWhere (fun m => memberKey key m = (key projectId, key userId))
        (fun m => { m with role := projectRole }) t.projectMembers }

/-- The reply to a statement. -/
def reply (answer : SqlAnswer) (t : ProjectTables) : (op : ProjectOp) → op.Reply
  | .selectProject projectId => answer.reply (t.projects.find? fun p => key p.id = key projectId)
  | .selectMembers projectId => answer.reply (t.listMembers key projectId)
  | .createTeam .. => answer.reply ()
  | .insertMembers _ => answer.reply ()
  | .deleteMember .. => answer.reply ()
  | .updateRole .. => answer.reply ()

/-- The handler of the statements. -/
def handle (op : ProjectOp) (answer : SqlAnswer) (t : ProjectTables) : op.Reply × ProjectTables :=
  (t.reply key answer op, if answer.takesEffect then t.effect key op else t)

/-- The keys that a statement must find or must not find. -/
def allows (t : ProjectTables) : ProjectOp → Bool
  | .createTeam projectId adminUserId =>
    !(t.projects.any fun p => key p.id = key projectId) &&
      t.users.any fun u => key u.id = key adminUserId
  | .insertMembers members =>
    members.all fun m => (t.projects.any fun p => key p.id = key m.projectId) &&
      t.users.any fun u => key u.id = key m.userId
  | _ => true

/-- The answers the database can give. It may refuse any statement, with any error. -/
def Answers (op : ProjectOp) (answer : SqlAnswer) (t : ProjectTables) : Prop :=
  answer.takesEffect = true → t.allows key op = true

instance (op : ProjectOp) (answer : SqlAnswer) (t : ProjectTables) :
    Decidable (Answers key op answer t) :=
  inferInstanceAs (Decidable (_ → _))

end ProjectTables

/-! ## Requests in parallel -/

abbrev ProjectRequests :=
  Parallel ProjectOp ProjectOp.Reply ProjectTables ProjectTask (Except ProjectError Unit)

abbrev ProjectLabel := Parallel.Label ProjectTask SqlAnswer Empty

/-- One step: a request comes in, or the next statement of one is answered. -/
def projectStep (dbType : DbType) (s : ProjectRequests) (label : ProjectLabel) :
    Option ProjectRequests :=
  Trace.restrict
    (Parallel.step (ProjectTables.handle dbType.key) (fun _ task => task.program dbType)
      (fun e _ => e.elim))
    (Parallel.guard (ProjectTables.Answers dbType.key)) s label

end TokyoTester
