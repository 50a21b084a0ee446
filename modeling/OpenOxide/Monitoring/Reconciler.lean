import OpenOxide.Concurrency.Calls
import OpenOxide.Deployment.Types
import OpenOxide.Relational.Table
import OpenOxide.Text.Strings

/-!
# The monitoring reconciler

A snapshot of the containers on a server gives a status to each resource of the
server.  The rows of a table are read at once and written one after the other,
and the services may write in between.
-/

namespace OpenOxide.Monitoring

open Concurrency Deployment Relational Text

structure ContainerStatePoint where
  name : String
  state : String
  applicationId : Int
  composeId : Int
  composeProject : String
  composeService : String
deriving DecidableEq

namespace ContainerStatePoint

def running (container : ContainerStatePoint) : Bool :=
  container.state == "running"

def service (container : ContainerStatePoint) : String :=
  if container.composeService.isEmpty then container.name
  else container.composeService

end ContainerStatePoint

def matchesResource (key : ResourceKey) (appName : String)
    (container : ContainerStatePoint) : Bool :=
  match key with
  | .application id =>
    container.applicationId == id ||
      Text.contains appName container.name
  | .compose id =>
    container.composeId == id || container.composeProject == appName ||
      Text.contains appName container.name
  | .database _ _ => Text.contains appName container.name

/-- Enter a container into the map of services that have a running one. -/
def enterService (services : List (String × Bool))
    (container : ContainerStatePoint) : List (String × Bool) :=
  if services.any (·.1 == container.service) then
    updateWhere (·.1 == container.service)
      (fun entry => (entry.1, entry.2 || container.running)) services
  else (container.service, container.running) :: services

/-- The status that the containers show. -/
def aggregateStatus (containers : List ContainerStatePoint) (key : ResourceKey)
    (desiredReplicas : Int) : Option ResourceStatus :=
  if containers.isEmpty then none
  else
    let healthy : Bool := match key with
      | .compose _ => (containers.foldl enterService []).all (·.2)
      | _ => (max desiredReplicas 1).toNat ≤ containers.countP (·.running)
    some (if healthy then .running else .error)

/-- The tables that the reconciler reads. -/
inductive Table where
  | applications
  | composeProjects
  | databases (kind : DatabaseKind)
deriving DecidableEq

/-- A row of one of the tables; only applications have replicas. -/
structure Resource where
  key : ResourceKey
  appName : String
  serverId : Option Int
  replicas : Int
  status : ResourceStatus
deriving DecidableEq

namespace Resource

def table (resource : Resource) : Table :=
  match resource.key with
  | .application _ => .applications
  | .compose _ => .composeProjects
  | .database kind _ => .databases kind

def desiredReplicas (resource : Resource) : Int :=
  match resource.key with
  | .application _ => max resource.replicas 1
  | _ => 1

/-- The status that a snapshot gives. -/
def derived (resource : Resource) (snapshot : List ContainerStatePoint) :
    ResourceStatus :=
  (aggregateStatus
    (snapshot.filter (matchesResource resource.key resource.appName))
    resource.key resource.desiredReplicas).getD .error

end Resource

/-- Which containers belong to a resource, whatever state they are in. -/
structure Ownership where
  belongs : ContainerStatePoint → Bool
  stateless : ∀ container state,
    belongs { container with state } = belongs container

theorem derived_replicate {resource : Resource} {container : ContainerStatePoint}
    (hit : matchesResource resource.key resource.appName container = true)
    (running : container.running = true) :
    resource.derived (List.replicate
      (max resource.desiredReplicas 1).toNat container) = .running := by
  unfold Resource.derived
  rw [List.filter_replicate_of_pos hit]
  cases named : resource.key with
  | compose id =>
    simp [Resource.desiredReplicas, named, aggregateStatus, enterService,
      running]
  | application id | database kind id =>
    have positive : ¬ max resource.desiredReplicas 1 ≤ 0 := by omega
    simp [aggregateStatus, List.countP_replicate, running, positive]

/-- The status of a resource depends on its own containers alone if and only if
no other container is taken for one of them. -/
theorem derived_local_iff (resource : Resource) (ownership : Ownership) :
    (∀ first second : List ContainerStatePoint,
        first.filter ownership.belongs = second.filter ownership.belongs →
          resource.derived first = resource.derived second) ↔
      ∀ container, matchesResource resource.key resource.appName container =
        true → ownership.belongs container = true := by
  constructor
  · intro isLocal container hit
    by_contra foreign
    let copy := { container with state := "running" }
    have hit : matchesResource resource.key resource.appName copy = true := hit
    have foreign : ¬ ownership.belongs copy = true := by
      rwa [ownership.stateless container]
    have same := isLocal [] (List.replicate
      (max resource.desiredReplicas 1).toNat copy)
      (List.filter_replicate_of_neg foreign).symm
    rw [derived_replicate hit rfl] at same
    cases same
  · intro own first second same
    have through : ∀ snapshot : List ContainerStatePoint,
        snapshot.filter (matchesResource resource.key resource.appName) =
          (snapshot.filter ownership.belongs).filter
            (matchesResource resource.key resource.appName) := by
      intro snapshot
      rw [List.filter_filter]
      apply List.filter_congr
      intro container _
      grind
    unfold Resource.derived
    rw [through first, through second, same]

/-- The application `web` has no container, and a container of the application
`web-2` counts for it. -/
theorem derived_from_other_name :
    let web : Resource := ⟨.application 1, "web", some 1, 1, .running⟩
    web.derived [] = .error ∧
      web.derived [⟨"web-2.1", "running", 2, 0, "", ""⟩] = .running := by
  decide +kernel

/-- The tables, and the rows that were read with the snapshot they are to be
compared with. -/
structure Monitor where
  resources : List Resource
  pending : List (Resource × List ContainerStatePoint)

/-- What happens next to the statuses. -/
inductive Event where
  /-- Any write of a service. -/
  | updateStatus (key : ResourceKey) (status : ResourceStatus)
  /-- The query of `reconcile_named_table`, with the address of the server. -/
  | readTable (table : Table) (serverId : Int) (ipAddress : Option String)
      (snapshot : List ContainerStatePoint)
  /-- The turn of a row in its loop. -/
  | reconcileRow (resource : Resource) (snapshot : List ContainerStatePoint)
  /-- The statement of `mark_server_resources_offline` for one table. -/
  | markOffline (table : Table) (serverId : Int)

def isLocalServer (ipAddress : Option String) : Bool :=
  ipAddress.any ["127.0.0.1", "localhost", "openoxide-monitor"].contains

def updateResourceStatus (key : ResourceKey) (status : ResourceStatus)
    (resources : List Resource) : List Resource :=
  let status := if status = .running then .running else .error
  updateWhere (fun resource => resource.key == key && resource.status != status)
    ({ · with status }) resources

/-- Statuses from which the monitoring marks a resource as lost. -/
def isUp (status : ResourceStatus) : Bool :=
  [.running, .done, .healthy, .ok, .success].contains status

namespace Monitor

def step (monitor : Monitor) : Event → Monitor
  | .updateStatus key status =>
    { monitor with
      resources := updateWhere (·.key == key) ({ · with status })
        monitor.resources }
  | .readTable table serverId ipAddress snapshot =>
    let rows := monitor.resources.filter fun resource =>
      resource.table == table && (resource.serverId == some serverId ||
        isLocalServer ipAddress && resource.serverId == none)
    { monitor with
      pending := monitor.pending ++ rows.map (·, snapshot) }
  | .reconcileRow resource snapshot =>
    if (resource, snapshot) ∈ monitor.pending then
      { resources :=
          if isUp resource.status || resource.status == .error then
            updateResourceStatus resource.key (resource.derived snapshot)
              monitor.resources
          else monitor.resources
        pending := monitor.pending.erase (resource, snapshot) }
    else monitor
  | .markOffline table serverId =>
    { monitor with
      resources := updateWhere (fun resource => resource.table == table &&
          resource.serverId == some serverId && isUp resource.status)
        ({ · with status := .error }) monitor.resources }

/-- A step of the reconciler leaves every transitional status as it is. -/
def keepsTransitions (monitor : Monitor) (event : Event) : Prop :=
  (∀ key status, event ≠ .updateStatus key status) →
    ∀ resource ∈ monitor.resources, resource.status.transitional = true →
      resource ∈ (monitor.step event).resources

/-- A row has the status it was read with when its turn comes. -/
def unchanged (monitor : Monitor) : Event → Prop
  | .reconcileRow read _ => ∀ resource ∈ monitor.resources,
      resource.key = read.key → resource.status = read.status
  | _ => True

/-- Only a settled status is written over. -/
theorem keepsTransitions_of_unchanged {monitor : Monitor} {event : Event}
    (same : unchanged monitor event) : monitor.keepsTransitions event := by
  intro reconciler resource present transitional
  have settled : ∀ status : ResourceStatus, status.transitional = true →
      (isUp status || status == .error) = false := by
    intro status
    cases status <;> decide
  cases event with
  | updateStatus key status => exact absurd rfl (reconciler key status)
  | readTable table serverId ipAddress snapshot => exact present
  | markOffline table serverId =>
    refine mem_updateWhere.mpr ⟨resource, present, if_neg ?_⟩
    have up := settled resource.status transitional
    grind
  | reconcileRow read snapshot =>
    rw [step]
    split
    · dsimp only
      split
      · refine mem_updateWhere.mpr ⟨resource, present, if_neg ?_⟩
        have up := settled resource.status transitional
        have equal := same resource present
        grind
      · exact present
    · exact present

/-- In every run in which no status changes between the query and the turn of
its row, the reconciler writes over no transitional status. -/
theorem transitions_kept {monitor : Monitor} {events : List Event}
    (meets : AllMeet step unchanged monitor events) :
    AllMeet step keepsTransitions monitor events :=
  meets.imp fun _ _ _ same => keepsTransitions_of_unchanged same

/-- An application of server 1 that runs. -/
def oneRunning : Resource :=
  ⟨.application 1, "web", some 1, 1, .running⟩

/-- The application is found stopped, then started again. -/
theorem transitions_kept_restart :
    AllMeet step keepsTransitions ⟨[oneRunning], []⟩
      [.readTable .applications 1 none [], .reconcileRow oneRunning [],
        .updateStatus (.application 1) .starting, .markOffline .applications 1] :=
  transitions_kept ⟨trivial, by simp [unchanged, step], trivial, trivial, trivial⟩

/-- The application is started between the query and the turn of its row. -/
theorem transition_overwritten :
    (serveAll step ⟨[oneRunning], []⟩
        [.readTable .applications 1 none [],
          .updateStatus (.application 1) .starting]).resources =
        [{ oneRunning with status := .starting }] ∧
      (serveAll step ⟨[oneRunning], []⟩
        [.readTable .applications 1 none [],
          .updateStatus (.application 1) .starting,
          .reconcileRow oneRunning []]).resources =
        [{ oneRunning with status := .error }] := by
  decide +kernel

end Monitor

end OpenOxide.Monitoring
