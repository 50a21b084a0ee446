import OpenOxide.Access.Directory
import OpenOxide.Effects.Pairs

/-!
# Projects, environments and applications

The tables behind the project and application controllers, and the statements
that the repositories run on them.  Of an application the columns that link it
to other rows are fields; all others are kept by name.  An environment belongs
to the organization of its project, an application to that of its environment.

Time stamps are left out: rows stand in the order of their creation, so that
`ORDER BY created_at DESC, id DESC` reverses a table.  The constraints of
`applications` that read no other column of these tables, which are the `CHECK`
constraints and the references to servers, registries, providers and keys, are
a parameter.
-/

namespace OpenOxide.Tenancy

open Access (DbError Directory)
open Effects (Attempt)
open Relational

structure Project where
  id : Int
  name : String
  description : Option String
  envVar : String
  organizationId : Int
deriving DecidableEq

structure Environment where
  id : Int
  name : String
  description : Option String
  envVar : String
  isDefault : Bool
  projectId : Int
deriving DecidableEq

/-- What a column may hold. -/
inductive Value where
  | null
  | integer (number : Int)
  | text (text : String)
deriving DecidableEq

abbrev Columns := List (String × Value)

structure Application where
  id : Int
  appName : String
  environmentId : Int
  columns : Columns
deriving DecidableEq

/-- The columns of `preview_deployments` that name applications. -/
structure PreviewDeployment where
  id : Int
  baseApplicationId : Int
  previewApplicationId : Option Int
  closed : Bool

structure Store where
  directory : Directory
  projects : List Project
  nextProject : Int
  environments : List Environment
  nextEnvironment : Int
  applications : List Application
  nextApplication : Int
  previews : List PreviewDeployment

/-- The constraints and functions that are not looked into. -/
structure Platform where
  /-- The `CHECK` constraint or outward reference that a row violates. -/
  violation : Application → Option DbError
  /-- The part of an `app_name` that comes from the display name. -/
  slug : String → String

/-- `sqlx::Error`, and the failures that a handler words itself. -/
inductive SqlxError where
  | rowNotFound
  | protocol (message : String)
  | database (error : DbError)
  | plain (status : Nat) (message : String)

abbrev Query := Attempt Store SqlxError

def Columns.get (columns : Columns) (name : String) : Value :=
  ((columns.find? fun column => column.1 == name).map Prod.snd).getD .null

/-- `SET name = value`. -/
def Columns.set (columns : Columns) (name : String) (value : Value) : Columns :=
  (columns.filter fun column => column.1 != name) ++ [(name, value)]

/-- Several assignments of one statement. -/
def Columns.assign (columns assignments : Columns) : Columns :=
  assignments.foldl (fun columns item => columns.set item.1 item.2) columns

def optionalText (text : Option String) : Value :=
  text.elim .null .text

def optionalInteger (number : Option Int) : Value :=
  number.elim .null .integer

/-- `COALESCE(?, column)`: only what is given is assigned. -/
def coalesced (columns : List (String × Option Value)) : Columns :=
  columns.filterMap fun column => column.2.map fun value => (column.1, value)

namespace Store

variable (store : Store)

def projectById (id : Int) : Option Project :=
  store.projects.find? fun project => project.id == id

def environmentById (id : Int) : Option Environment :=
  store.environments.find? fun environment => environment.id == id

def applicationById (id : Int) : Option Application :=
  store.applications.find? fun application => application.id == id

/-- The project rows that an organization owns. -/
def projectsOf (organizationId : Int) : List Project :=
  store.projects.filter fun project => project.organizationId == organizationId

/-- The join of an environment with the projects of an organization. -/
def environmentsOf (organizationId : Int) : List Environment :=
  store.environments.filter fun environment =>
    (store.projectsOf organizationId).any fun project =>
      project.id == environment.projectId

/-- The join of an application with the environments of an organization. -/
def applicationsOf (organizationId : Int) : List Application :=
  store.applications.filter fun application =>
    (store.environmentsOf organizationId).any fun environment =>
      environment.id == application.environmentId

end Store

/-- `ProjectRepository::get_by_id`, where a missing row is an error. -/
def getProject (id : Int) : Query Project :=
  Attempt.query fun store =>
    match store.projectById id with
    | some project => .ok project
    | none => .error .rowNotFound

/-- `ProjectRepository::list_by_organization`. -/
def listProjects (organizationId : Int) : Query (List Project) :=
  Attempt.query fun store => .ok (store.projectsOf organizationId).reverse

/-- `ApplicationRepository::get_by_id`. -/
def findApplication (id : Int) : Query (Option Application) :=
  Attempt.query fun store => .ok (store.applicationById id)

/-- `ApplicationRepository::list_by_environment`. -/
def listApplications (environmentId : Int) : Query (List Application) :=
  Attempt.query fun store =>
    .ok (store.applications.filter fun application =>
      application.environmentId == environmentId).reverse

/-- `ApplicationRepository::belongs_to_organization`. -/
def belongsToOrganization (id organizationId : Int) : Query Bool :=
  Attempt.query fun store =>
    .ok ((store.applicationsOf organizationId).any fun application =>
      application.id == id)

/-- `EnvironmentRepository::get_by_id`. -/
def findEnvironment (id : Int) : Query (Option Environment) :=
  Attempt.query fun store => .ok (store.environmentById id)

/-- `PreviewDeploymentRepository::find_by_preview_application`. -/
def findByPreviewApplication (id : Int) : Query (Option PreviewDeployment) :=
  Attempt.query fun store => .ok (store.previews.find? fun preview =>
    preview.previewApplicationId == some id)

/-- `PreviewDeploymentRepository::list_open_for_base_application`. -/
def listOpenForBaseApplication (id : Int) : Query (List PreviewDeployment) :=
  Attempt.query fun store => .ok (store.previews.filter fun preview =>
    preview.baseApplicationId == id && !preview.closed)

/-- `PreviewDeploymentRepository::get_by_id`. -/
def findPreview (id : Int) : Query (Option PreviewDeployment) :=
  Attempt.query fun store => .ok (store.previews.find? fun preview =>
    preview.id == id)

namespace Store

/-- `DELETE FROM applications`, with the cascades to `preview_deployments`. -/
def dropApplications (store : Store) (gone : Int → Int → Bool) : Store :=
  let dropped := fun (id : Int) => store.applications.any fun application =>
    application.id == id && gone application.id application.environmentId
  { store with
    applications := store.applications.filter fun application =>
      !gone application.id application.environmentId
    previews := (store.previews.filter fun preview =>
      !dropped preview.baseApplicationId).map fun preview =>
        { preview with previewApplicationId :=
            preview.previewApplicationId.filter fun id => !dropped id } }

/-- `DELETE FROM projects`, with its cascades. -/
def dropProject (store : Store) (id : Int) : Store :=
  let gone := fun environmentId => store.environments.any fun environment =>
    environment.id == environmentId && environment.projectId == id
  let rest := store.dropApplications fun _ environmentId => gone environmentId
  { rest with
    projects := store.projects.filter fun project => project.id != id
    environments := store.environments.filter fun environment =>
      environment.projectId != id }

end Store

/-- `ProjectRepository::create_in_transaction` and the default environment that
`EnvironmentRepository::create_in_transaction` adds to it. -/
def insertProject (name : String) (description : Option String)
    (envVar : String) (organizationId : Int) : Query Project :=
  Attempt.statement fun store =>
    if store.projects.any fun project => project.name == name then
      .error (.database (.uniqueViolation "projects.name"))
    else if !store.directory.hasOrganization organizationId then
      .error (.database .foreignKeyViolation)
    else
      let project : Project :=
        { id := store.nextProject, name, description, envVar, organizationId }
      let environment : Environment :=
        { id := store.nextEnvironment, name := "production",
          description := some "Production environment", envVar := "",
          isDefault := true, projectId := store.nextProject }
      .ok (project, { store with
        projects := store.projects ++ [project]
        nextProject := store.nextProject + 1
        environments := store.environments ++ [environment]
        nextEnvironment := store.nextEnvironment + 1 })

/-- `ProjectRepository::update_and_return`. -/
def updateProject (id : Int) (name : String) (description : Option String)
    (envVar : String) : Query Project :=
  Attempt.statement fun store =>
    match store.projectById id with
    | none => .error .rowNotFound
    | some project =>
      if store.projects.any fun other => other.id != id && other.name == name
      then .error (.database (.uniqueViolation "projects.name"))
      else .ok ({ project with name, description, envVar },
        { store with
          projects := updateWhere (fun project => project.id == id)
            (fun project => { project with name, description, envVar })
            store.projects })

/-- `ProjectRepository::delete`. -/
def deleteProject (id : Int) : Query Unit :=
  Attempt.statement fun store => .ok ((), store.dropProject id)

/-- The insertions into `applications`. -/
def insertApplication (platform : Platform) (appName : String)
    (environmentId : Int) (columns : Columns) : Query Int :=
  Attempt.statement fun store =>
    let application : Application :=
      { id := store.nextApplication, appName, environmentId, columns }
    match platform.violation application with
    | some error => .error (.database error)
    | none =>
      if store.applications.any fun other => other.appName == appName then
        .error (.database (.uniqueViolation "applications.app_name"))
      else if (store.environmentById environmentId).isNone then
        .error (.database .foreignKeyViolation)
      else .ok (store.nextApplication, { store with
        applications := store.applications ++ [application]
        nextApplication := store.nextApplication + 1 })

/-- `UPDATE applications SET … WHERE id = ?`; whether it hit a row. -/
def updateApplication (platform : Platform) (id : Int)
    (change : Columns → Columns) : Query Bool :=
  Attempt.statement fun store =>
    match store.applicationById id with
    | none => .ok (false, store)
    | some application =>
      match platform.violation
        { application with columns := change application.columns } with
      | some error => .error (.database error)
      | none => .ok (true, { store with
          applications := updateWhere (fun application => application.id == id)
            (fun application =>
              { application with columns := change application.columns })
            store.applications })

/-- Whether two environments belong to projects of one organization. -/
def Store.sameOrganization (store : Store) (source target : Int) : Bool :=
  store.environments.any fun first => first.id == source &&
    store.environments.any fun second => second.id == target &&
      store.projects.any fun project => project.id == first.projectId &&
        store.projects.any fun other => other.id == second.projectId &&
          project.organizationId == other.organizationId

/-- `ApplicationRepository::move_to_environment_in_same_organization`. -/
def moveToEnvironmentInSameOrganization (id target : Int) :
    Query (Option Application) := do
  let moved ← Attempt.statement fun store =>
    let hits := fun (application : Application) => application.id == id &&
      store.sameOrganization application.environmentId target
    .ok (store.applications.any hits, { store with
      applications := updateWhere hits
        (fun application => { application with environmentId := target })
        store.applications })
  if moved then findApplication id else pure none

/-- `ApplicationRepository::delete`. -/
def deleteApplicationRow (id : Int) : Query Unit :=
  Attempt.statement fun store =>
    .ok ((), store.dropApplications fun other _ => other == id)

/-- `PreviewDeploymentRepository::delete`. -/
def deletePreview (id : Int) : Query Unit :=
  Attempt.statement fun store => .ok ((), { store with
    previews := store.previews.filter fun preview => preview.id != id })

end OpenOxide.Tenancy
