import OpenOxide.Tenancy.Store

/-!
# Statements that spare an organization

Two stores are apart in an organization when they differ at most in what the
project and application rows of the organization contain; which rows there are
and how they are linked is the same.  A statement that names no row of the
organization, and gives no row a unique name that one of its rows has, is blind
to the difference and leaves the rows of the organization alone.
-/

namespace OpenOxide.Tenancy

open Access (DbError Directory)
open Effects (Alike Attempt Blind)
open Relational

/-- What an organization owns. -/
structure Holdings where
  projects : List Project
  environments : List Environment
  applications : List Application
deriving DecidableEq

namespace Holdings

def hasProject (held : Holdings) (id : Int) : Bool :=
  held.projects.any fun project => project.id == id

def hasEnvironment (held : Holdings) (id : Int) : Bool :=
  held.environments.any fun environment => environment.id == id

/-- The application belongs to an environment that is held. -/
def covers (held : Holdings) (application : Application) : Bool :=
  held.hasEnvironment application.environmentId

def hasApplication (held : Holdings) (id : Int) : Bool :=
  held.applications.any fun application => application.id == id

def usesProjectName (held : Holdings) (name : String) : Bool :=
  held.projects.any fun project => project.name == name

def usesAppName (held : Holdings) (appName : String) : Bool :=
  held.applications.any fun application => application.appName == appName

end Holdings

def Store.holdings (store : Store) (organizationId : Int) : Holdings where
  projects := store.projectsOf organizationId
  environments := store.environmentsOf organizationId
  applications := store.applicationsOf organizationId

/-- What the primary keys guarantee. -/
structure Store.Keys (store : Store) : Prop where
  projects : Keyed Project.id store.nextProject store.projects
  environments : Keyed Environment.id store.nextEnvironment store.environments
  applications : Keyed Application.id store.nextApplication store.applications
  previews : (store.previews.map PreviewDeployment.id).Nodup

/-- A preview of an application belongs to the organization of its base. -/
def Store.PreviewsTogether (store : Store) (organizationId : Int) : Prop :=
  ∀ preview ∈ store.previews, ∀ id, preview.previewApplicationId = some id →
    (store.holdings organizationId).hasApplication id = true →
      (store.holdings organizationId).hasApplication
        preview.baseApplicationId = true

/-- Other contents for rows that keep their place. -/
structure Contents where
  project : Project → Project
  application : Application → Application

def Contents.ofProject (contents : Contents) (project : Project) : Project :=
  { contents.project project with
    id := project.id, organizationId := project.organizationId }

def Contents.ofApplication (contents : Contents) (application : Application) :
    Application :=
  { contents.application application with
    id := application.id, environmentId := application.environmentId }

/-- The store with other contents in the rows of an organization. -/
def Store.rewritten (store : Store) (organizationId : Int)
    (contents : Contents) : Store :=
  { store with
    projects := updateWhere
      (fun project => project.organizationId == organizationId)
      contents.ofProject store.projects
    applications := updateWhere (store.holdings organizationId).covers
      contents.ofApplication store.applications }

def Holdings.rewritten (held : Holdings) (contents : Contents) : Holdings :=
  { held with
    projects := held.projects.map contents.ofProject
    applications := held.applications.map contents.ofApplication }

/-- What two stores may differ in: the contents of the rows that are held. -/
structure Gap where
  organizationId : Int
  contents : Contents
  directory : Directory
  held : Holdings

/-- A store in which the organization owns what is held, and the same store
with other contents in these rows. -/
structure Apart (gap : Gap) (left right : Store) : Prop where
  directory : left.directory = gap.directory
  keys : left.Keys
  held : left.holdings gap.organizationId = gap.held
  together : left.PreviewsTogether gap.organizationId
  rewritten : right = left.rewritten gap.organizationId gap.contents

namespace Store

variable {store : Store} {organizationId : Int} {contents : Contents}

theorem any_projectsOf_rewritten (other id : Int) :
    ((store.rewritten organizationId contents).projectsOf other).any
        (fun project => project.id == id) =
      (store.projectsOf other).any fun project => project.id == id := by
  simp only [projectsOf, rewritten, List.any_filter]
  apply any_updateWhere
  intro project
  rfl

theorem environmentsOf_rewritten (other : Int) :
    (store.rewritten organizationId contents).environmentsOf other =
      store.environmentsOf other := by
  unfold environmentsOf
  simp only [any_projectsOf_rewritten]
  rfl

theorem holdings_rewritten :
    (store.rewritten organizationId contents).holdings organizationId =
      (store.holdings organizationId).rewritten contents := by
  have projects : (store.rewritten organizationId contents).projectsOf
      organizationId =
        (store.projectsOf organizationId).map contents.ofProject := by
    refine (filter_updateWhere_comm ?_ _).trans (updateWhere_eq_map ?_)
    · intro project
      rfl
    · intro project member
      exact (List.mem_filter.mp member).2
  have applications : (store.rewritten organizationId contents).applicationsOf
      organizationId =
        (store.applicationsOf organizationId).map contents.ofApplication := by
    unfold applicationsOf
    rw [environmentsOf_rewritten]
    refine (filter_updateWhere_comm ?_ _).trans (updateWhere_eq_map ?_)
    · intro application
      rfl
    · intro application member
      exact (List.mem_filter.mp member).2
  simp only [holdings, Holdings.rewritten, projects, applications,
    environmentsOf_rewritten]

end Store

variable {gap : Gap} {left right : Store}

variable {id other : Int} {name : String}

namespace Apart

section

variable (apart : Apart gap left right)

include apart

theorem project_free (free : gap.held.hasProject id = false) {project : Project}
    (member : project ∈ left.projects) (hit : (project.id == id) = true) :
    (project.organizationId == gap.organizationId) = false := by
  rw [← eq_of_beq hit, ← apart.held] at free
  apply Bool.eq_false_iff.mpr
  intro owned
  exact Bool.false_ne_true (free.symm.trans (any_filter_of_mem member owned))

theorem project_missed (free : gap.held.hasProject id = false) :
    ∀ project ∈ left.projects,
      (project.organizationId == gap.organizationId) = true →
        (project.id == id) = false := by
  intro project member owned
  apply Bool.eq_false_iff.mpr
  intro hit
  rw [apart.project_free free member hit] at owned
  cases owned

theorem application_free (free : gap.held.hasApplication id = false)
    {application : Application} (member : application ∈ left.applications)
    (hit : (application.id == id) = true) :
    gap.held.covers application = false := by
  rw [← eq_of_beq hit, ← apart.held] at free
  apply Bool.eq_false_iff.mpr
  intro owned
  rw [← apart.held] at owned
  exact Bool.false_ne_true (free.symm.trans (any_filter_of_mem member owned))

theorem projects_eq : right.projects = updateWhere
      (fun project => project.organizationId == gap.organizationId)
      gap.contents.ofProject left.projects := by
  rw [apart.rewritten]
  rfl

theorem applications_eq : right.applications =
      updateWhere gap.held.covers gap.contents.ofApplication
        left.applications := by
  rw [apart.rewritten, ← apart.held]
  rfl

theorem environments_eq : right.environments = left.environments := by
  rw [apart.rewritten]
  rfl

theorem previews_eq : right.previews = left.previews := by
  rw [apart.rewritten]
  rfl

theorem environmentById (id : Int) :
    right.environmentById id = left.environmentById id := by
  rw [apart.rewritten]
  rfl

theorem directory_eq : right.directory = left.directory := by
  rw [apart.rewritten]
  rfl

theorem counters_eq : right.nextProject = left.nextProject ∧
      right.nextEnvironment = left.nextEnvironment := by
  rw [apart.rewritten]
  exact ⟨rfl, rfl⟩

theorem nextApplication_eq : right.nextApplication = left.nextApplication := by
  rw [apart.rewritten]
  rfl

theorem projectById (free : gap.held.hasProject id = false) :
    right.projectById id = left.projectById id := by
  unfold Store.projectById
  rw [apart.projects_eq]
  apply find?_updateWhere
  · intro project
    rfl
  · intro project member found
    exact apart.project_free free member found

theorem applicationById (free : gap.held.hasApplication id = false) :
    right.applicationById id = left.applicationById id := by
  unfold Store.applicationById
  rw [apart.applications_eq]
  apply find?_updateWhere
  · intro application
    rfl
  · intro application member found
    exact apart.application_free free member found

theorem projectsOf (different : other ≠ gap.organizationId) :
    right.projectsOf other = left.projectsOf other := by
  unfold Store.projectsOf
  rw [apart.projects_eq]
  apply filter_updateWhere
  · intro project
    rfl
  · intro project _ chosen
    rw [eq_of_beq chosen]
    exact beq_eq_false_iff_ne.mpr different

theorem any_applicationsOf (other id : Int) :
    ((right.applicationsOf other).any fun application =>
        application.id == id) =
      (left.applicationsOf other).any fun application =>
        application.id == id := by
  simp only [Store.applicationsOf, List.any_filter]
  rw [apart.applications_eq, apart.rewritten, Store.environmentsOf_rewritten]
  apply any_updateWhere
  intro application
  rfl

end

end Apart

theorem blind_getProject (free : gap.held.hasProject id = false) :
    Blind (Apart gap) (getProject id) := by
  apply Blind.query
  intro left right apart
  rw [apart.projectById free]

theorem blind_findApplication (free : gap.held.hasApplication id = false) :
    Blind (Apart gap) (findApplication id) := by
  apply Blind.query
  intro left right apart
  rw [apart.applicationById free]

theorem blind_listApplications {environmentId : Int}
    (free : gap.held.hasEnvironment environmentId = false) :
    Blind (Apart gap) (listApplications environmentId) := by
  apply Blind.query
  intro left right apart
  rw [apart.applications_eq, filter_updateWhere]
  · intro application
    rfl
  · intro application _ chosen
    unfold Holdings.covers
    rw [eq_of_beq chosen]
    exact free

namespace Apart

/-- Later rows of `preview_deployments` are earlier ones, perhaps without their
application. -/
structure PreviewsFrom (later earlier : List PreviewDeployment) : Prop where
  ids : List.Sublist (later.map PreviewDeployment.id)
    (earlier.map PreviewDeployment.id)
  rows : ∀ preview ∈ later, ∃ old ∈ earlier,
    preview.baseApplicationId = old.baseApplicationId ∧
      ∀ id, preview.previewApplicationId = some id →
        old.previewApplicationId = some id

theorem previewsFrom_refl (previews : List PreviewDeployment) :
    PreviewsFrom previews previews where
  ids := .refl _
  rows preview member := ⟨preview, member, rfl, fun _ named => named⟩

/-- The table of applications may change in the rows that the organization does
not own. -/
theorem applications_changed (apart : Apart gap left right)
    {applications : List Application} {next : Int}
    {previews : List PreviewDeployment}
    (keyed : Keyed Application.id next applications)
    (kept : applications.filter gap.held.covers =
      left.applications.filter gap.held.covers)
    (from_ : PreviewsFrom previews left.previews) :
    Apart gap { left with applications, nextApplication := next, previews }
      { right with
        applications := updateWhere gap.held.covers gap.contents.ofApplication
          applications
        nextApplication := next
        previews } := by
  obtain ⟨same, keys, owned, together, rfl⟩ := apart
  have environments : left.environmentsOf gap.organizationId =
      gap.held.environments := congrArg Holdings.environments owned
  have covered : (fun application : Application =>
      (left.environmentsOf gap.organizationId).any fun environment =>
        environment.id == application.environmentId) = gap.held.covers := by
    rw [environments]
    rfl
  have held' : Store.holdings
      { left with applications, nextApplication := next, previews }
      gap.organizationId = gap.held := by
    have own : Store.applicationsOf
        { left with applications, nextApplication := next, previews }
        gap.organizationId = left.applicationsOf gap.organizationId := by
      rw [← covered] at kept
      exact kept
    rw [← owned]
    unfold Store.holdings
    rw [own]
    rfl
  refine ⟨same, ⟨keys.projects, keys.environments, keyed,
    keys.previews.sublist from_.ids⟩, held', ?_, ?_⟩
  · intro preview member id named has
    rw [held', ← owned] at has ⊢
    obtain ⟨old, present, base, application⟩ := from_.rows preview member
    rw [base]
    exact together old present id (application id named) has
  · unfold Store.rewritten
    rw [held']

/-- An update that hits no row of the organization and brings none into it. -/
theorem updated (apart : Apart gap left
    right) {hits : Application → Bool} {change : Application → Application}
    (sameId : ∀ row, (change row).id = row.id)
    (seen : ∀ row, hits (gap.contents.ofApplication row) = hits row)
    (missed : ∀ row ∈ left.applications, hits row = true →
      gap.held.covers row = false ∧ gap.held.covers (change row) = false) :
    Apart gap
      { left with applications := updateWhere hits change left.applications }
      { right with
        applications := updateWhere hits change right.applications } := by
  have spared : ∀ row ∈ left.applications, gap.held.covers row = true →
      hits row = false := by
    intro row member covered
    apply Bool.eq_false_iff.mpr
    intro hit
    rw [(missed row member hit).1] at covered
    cases covered
  have swapped : updateWhere hits change right.applications =
      updateWhere gap.held.covers gap.contents.ofApplication
        (updateWhere hits change left.applications) := by
    rw [apart.applications_eq]
    apply updateWhere_comm
    · intro row member covered
      rw [seen]
      exact spared row member covered
    · intro row member hit
      exact (missed row member hit).2
    · exact spared
  rw [swapped]
  obtain rfl := apart.rewritten
  refine apart.applications_changed (apart.keys.applications.update sameId)
    ?_ (previewsFrom_refl _)
  exact filter_updateWhere_outside missed

end Apart

theorem blind_updateApplication (platform : Platform)
    (free : gap.held.hasApplication id = false) (change : Columns → Columns) :
    Blind (Apart gap) (updateApplication platform id change) := by
  apply Blind.statement
  intro left right apart
  rw [apart.applicationById free]
  cases left.applicationById id with
  | none => exact .done false apart
  | some application =>
    dsimp only
    cases platform.violation
        { application with columns := change application.columns } with
    | some error => exact .failed _
    | none =>
      refine .done true (apart.updated ?_ ?_ ?_)
      · intro row
        rfl
      · intro row
        rfl
      · intro row member hit
        have outside := apart.application_free free member hit
        exact ⟨outside, outside⟩

/-- A row that is moved stays in its organization. -/
theorem Apart.target_free (apart : Apart gap left right) {source target : Int}
    (free : gap.held.hasEnvironment source = false)
    (same : left.sameOrganization source target = true) :
    gap.held.hasEnvironment target = false := by
  apply Bool.eq_false_iff.mpr
  intro owned
  unfold Store.sameOrganization at same
  simp only [List.any_eq_true, Bool.and_eq_true, beq_iff_eq] at same
  obtain ⟨first, firstRow, rfl, second, secondRow, rfl, project, projectRow,
    ofFirst, other, otherRow, ofSecond, equal⟩ := same
  rw [← apart.held] at owned free
  obtain ⟨environment, member, sameId⟩ := List.any_eq_true.mp owned
  obtain ⟨environmentRow, ofProject⟩ := List.mem_filter.mp member
  obtain rfl := apart.keys.environments.eq environmentRow secondRow
    (eq_of_beq sameId)
  obtain ⟨owner, ownerMember, ownerId⟩ := List.any_eq_true.mp ofProject
  obtain ⟨ownerRow, owns⟩ := List.mem_filter.mp ownerMember
  obtain rfl := apart.keys.projects.eq ownerRow otherRow
    ((eq_of_beq ownerId).trans ofSecond.symm)
  have belongs : (left.holdings gap.organizationId).hasProject project.id =
      true := any_filter_of_mem projectRow
      (beq_iff_eq.mpr (equal.trans (eq_of_beq owns)))
  rw [ofFirst] at belongs
  exact Bool.false_ne_true
    (free.symm.trans (any_filter_of_mem firstRow belongs))

theorem Apart.sameOrganization (apart : Apart gap left right)
    (source target : Int) :
    right.sameOrganization source target =
      left.sameOrganization source target := by
  have links : ∀ holds : Int → Int → Bool,
      (right.projects.any fun project =>
          holds project.id project.organizationId) =
        left.projects.any fun project =>
          holds project.id project.organizationId := by
    intro holds
    rw [apart.projects_eq]
    apply any_updateWhere
    intro project
    rfl
  have others : ∀ id organization,
      (right.projects.any fun other =>
          other.id == id && organization == other.organizationId) =
        left.projects.any fun other =>
          other.id == id && organization == other.organizationId :=
    fun id organization => links fun otherId otherOrganization =>
      otherId == id && organization == otherOrganization
  unfold Store.sameOrganization
  rw [apart.environments_eq]
  simp only [others]
  congr 1
  funext first
  congr 2
  funext second
  congr 1
  exact links fun id organization => id == first.projectId &&
    left.projects.any fun other => other.id == second.projectId &&
      organization == other.organizationId

theorem blind_moveToEnvironmentInSameOrganization {id target : Int}
    (free : gap.held.hasApplication id = false) :
    Blind (Apart gap) (moveToEnvironmentInSameOrganization id target) := by
  refine Blind.bind (Blind.statement ?_) ?_
  · intro left right apart
    have hits : ((right.applications.any fun application =>
        application.id == id &&
          right.sameOrganization application.environmentId target)) =
        left.applications.any fun application => application.id == id &&
          left.sameOrganization application.environmentId target := by
      simp only [apart.sameOrganization]
      rw [apart.applications_eq]
      apply any_updateWhere
      intro application
      rfl
    dsimp only
    rw [hits]
    simp only [apart.sameOrganization]
    refine .done _ (apart.updated ?_ ?_ ?_)
    · intro row
      rfl
    · intro row
      rfl
    · intro row member hit
      rw [Bool.and_eq_true] at hit
      have outside := apart.application_free free member hit.1
      exact ⟨outside, apart.target_free outside hit.2⟩
  · intro moved
    split
    · exact blind_findApplication free
    · exact .pure none

theorem blind_insertApplication (platform : Platform) {appName : String}
    {environmentId : Int} {columns : Columns}
    (free : gap.held.hasEnvironment environmentId = false)
    (unused : gap.held.usesAppName appName = false)
    (unusedThere :
      (gap.held.rewritten gap.contents).usesAppName appName = false) :
    Blind (Apart gap)
      (insertApplication platform appName environmentId columns) := by
  apply Blind.statement
  intro left right apart
  have taken : (right.applications.any fun other => other.appName == appName) =
      left.applications.any fun other => other.appName == appName := by
    have owned : left.applications.filter gap.held.covers =
        gap.held.applications := by
      rw [← apart.held]
      rfl
    rw [apart.applications_eq]
    apply any_updateWhere_of_missed <;> rw [owned]
    · exact unused
    · exact unusedThere
  rw [apart.nextApplication_eq, taken, apart.environmentById]
  dsimp only
  cases platform.violation
      ⟨left.nextApplication, appName, environmentId, columns⟩ with
  | some error => exact .failed _
  | none =>
    dsimp only
    split
    · exact .failed _
    split
    · exact .failed _
    have outside : gap.held.covers
        ⟨left.nextApplication, appName, environmentId, columns⟩ = false :=
      free
    have appended := @updateWhere_append _ _ gap.contents.ofApplication _
      outside left.applications
    rw [apart.applications_eq, apart.previews_eq]
    refine .done _ ?_
    rw [← appended]
    refine apart.applications_changed (apart.keys.applications.insert rfl) ?_
      (Apart.previewsFrom_refl _)
    rw [List.filter_append, List.filter_singleton, outside]
    simp

/-- A deletion that spares the rows of the organization. -/
theorem Apart.dropped (apart : Apart gap left right) {gone : Int → Int → Bool}
    (spared : ∀ row ∈ left.applications, gap.held.covers row = true →
      gone row.id row.environmentId = false) :
    Apart gap (left.dropApplications gone) (right.dropApplications gone) := by
  have dropped : ∀ id : Int,
      (right.applications.any fun application => application.id == id &&
          gone application.id application.environmentId) =
        left.applications.any fun application => application.id == id &&
          gone application.id application.environmentId := by
    intro id
    rw [apart.applications_eq]
    apply any_updateWhere
    intro application
    rfl
  unfold Store.dropApplications
  simp only [dropped, apart.previews_eq, apart.nextApplication_eq]
  rw [apart.applications_eq, filter_updateWhere_comm]
  swap
  · intro application
    rfl
  refine apart.applications_changed (apart.keys.applications.filter _) ?_ ?_
  · apply filter_filter_of_kept
    intro row member covered
    rw [spared row member covered]
    rfl
  · constructor
    · rw [List.map_map]
      exact List.filter_sublist.map PreviewDeployment.id
    · intro preview member
      obtain ⟨old, present, rfl⟩ := List.mem_map.mp member
      refine ⟨old, (List.mem_filter.mp present).1, rfl, ?_⟩
      intro id named
      exact (Option.filter_eq_some_iff.mp named).1

theorem blind_deleteApplicationRow (free : gap.held.hasApplication id = false) :
    Blind (Apart gap) (deleteApplicationRow id) := by
  apply Blind.statement
  intro left right apart
  refine .done () (apart.dropped ?_)
  intro row member covered
  apply Bool.eq_false_iff.mpr
  intro hit
  rw [apart.application_free free member hit] at covered
  cases covered

theorem blind_deletePreview (id : Int) :
    Blind (Apart gap) (deletePreview id) := by
  apply Blind.statement
  intro left right apart
  refine .done () ?_
  obtain ⟨organizationId, contents, directory, held⟩ := gap
  obtain rfl := apart.rewritten
  obtain rfl : left.holdings organizationId = held := apart.held
  refine apart.applications_changed apart.keys.applications rfl ⟨?_, ?_⟩
  · exact List.filter_sublist.map PreviewDeployment.id
  · intro preview member
    exact ⟨preview, (List.mem_filter.mp member).1, rfl, fun _ named => named⟩

section

variable (apart : Apart gap left right)

include apart

/-- The tables of projects and environments may change in the rows that the
organization does not own. -/
theorem Apart.projects_changed {projects : List Project} {nextProject : Int}
    {environments : List Environment} {nextEnvironment : Int}
    (projectKeys : Keyed Project.id nextProject projects)
    (environmentKeys : Keyed Environment.id nextEnvironment environments)
    (keptProjects : (projects.filter fun project =>
        project.organizationId == gap.organizationId) = gap.held.projects)
    (keptEnvironments : (environments.filter fun environment =>
        gap.held.hasProject environment.projectId) = gap.held.environments) :
    Apart gap { left with projects, nextProject, environments, nextEnvironment }
      { right with
        projects := updateWhere
          (fun project => project.organizationId == gap.organizationId)
          gap.contents.ofProject projects
        nextProject
        environments
        nextEnvironment } := by
  obtain ⟨same, keys, owned, together, rfl⟩ := apart
  have held' : Store.holdings
      { left with projects, nextProject, environments, nextEnvironment }
      gap.organizationId = gap.held := by
    have own : Store.projectsOf
        { left with projects, nextProject, environments, nextEnvironment }
        gap.organizationId = gap.held.projects := keptProjects
    have own' : Store.environmentsOf
        { left with projects, nextProject, environments, nextEnvironment }
        gap.organizationId = gap.held.environments := by
      unfold Store.environmentsOf
      rw [own]
      exact keptEnvironments
    have own'' : Store.applicationsOf
        { left with projects, nextProject, environments, nextEnvironment }
        gap.organizationId = gap.held.applications := by
      unfold Store.applicationsOf
      rw [own', ← owned]
      rfl
    unfold Store.holdings
    rw [own, own', own'']
  refine ⟨same, ⟨projectKeys, environmentKeys, keys.applications,
    keys.previews⟩, held', ?_, ?_⟩
  · intro preview member id named has
    rw [held', ← owned] at has ⊢
    exact together preview member id named has
  · unfold Store.rewritten
    rw [held', owned]

theorem Apart.heldProjects : (left.projects.filter fun project =>
      project.organizationId == gap.organizationId) = gap.held.projects := by
  rw [← apart.held]
  rfl

theorem Apart.heldEnvironments : (left.environments.filter fun environment =>
      gap.held.hasProject environment.projectId) = gap.held.environments := by
  rw [← apart.held]
  rfl

theorem Apart.projectName {finds : Project → Bool}
    (named : ∀ project, finds project = true → project.name = name)
    (unused : gap.held.usesProjectName name = false)
    (unusedThere :
      (gap.held.rewritten gap.contents).usesProjectName name = false) :
    right.projects.any finds = left.projects.any finds := by
  have missed : ∀ projects : List Project,
      (projects.any fun project => project.name == name) = false →
        projects.any finds = false := by
    intro projects free
    apply List.any_eq_false.mpr
    intro project member found
    apply List.any_eq_false.mp free project member
    exact beq_iff_eq.mpr (named project found)
  rw [apart.projects_eq]
  apply any_updateWhere_of_missed <;> rw [apart.heldProjects]
  · exact missed _ unused
  · exact missed _ unusedThere

end

theorem blind_insertProject {description : Option String} {envVar : String}
    (different : other ≠ gap.organizationId)
    (unused : gap.held.usesProjectName name = false)
    (unusedThere :
      (gap.held.rewritten gap.contents).usesProjectName name = false) :
    Blind (Apart gap) (insertProject name description envVar other) := by
  apply Blind.statement
  intro left right apart
  have taken : (right.projects.any fun project => project.name == name) =
      left.projects.any fun project => project.name == name :=
    apart.projectName (fun _ found => eq_of_beq found) unused unusedThere
  have foreign : (other == gap.organizationId) = false :=
    beq_eq_false_iff_ne.mpr different
  have fresh : gap.held.hasProject left.nextProject = false := by
    apply List.any_eq_false.mpr
    intro project member same
    rw [← apart.heldProjects] at member
    have := apart.keys.projects.below project (List.mem_filter.mp member).1
    rw [eq_of_beq same] at this
    exact Int.lt_irrefl _ this
  rw [taken]
  have appended := @updateWhere_append _
    (fun project => project.organizationId == gap.organizationId)
    gap.contents.ofProject
    ⟨left.nextProject, name, description, envVar, other⟩ foreign left.projects
  have known : right.directory.hasOrganization other =
      left.directory.hasOrganization other := by
    rw [apart.directory_eq]
  rw [known, apart.counters_eq.1, apart.counters_eq.2, apart.environments_eq,
    apart.projects_eq]
  split
  · exact .failed _
  split
  · exact .failed _
  refine .done _ ?_
  rw [← appended]
  apply apart.projects_changed (apart.keys.projects.insert rfl)
    (apart.keys.environments.insert rfl)
  · rw [List.filter_append, apart.heldProjects, List.filter_singleton, foreign]
    simp
  · rw [List.filter_append, apart.heldEnvironments, List.filter_singleton,
      fresh]
    simp

theorem blind_updateProject {description : Option String} {envVar : String}
    (free : gap.held.hasProject id = false)
    (unused : gap.held.usesProjectName name = false)
    (unusedThere :
      (gap.held.rewritten gap.contents).usesProjectName name = false) :
    Blind (Apart gap) (updateProject id name description envVar) := by
  apply Blind.statement
  intro left right apart
  have taken : (right.projects.any fun other =>
        other.id != id && other.name == name) =
      left.projects.any fun other => other.id != id && other.name == name := by
    apply apart.projectName _ unused unusedThere
    intro project found
    exact eq_of_beq (Bool.and_eq_true_iff.mp found).2
  rw [apart.projectById free, taken]
  cases left.projectById id with
  | none => exact .failed _
  | some project =>
    dsimp only
    split
    · exact .failed _
    refine .done _ ?_
    have missed := apart.project_missed free
    have swapped : updateWhere (fun project => project.id == id)
        (fun project => { project with name, description, envVar })
          right.projects =
        updateWhere
          (fun project => project.organizationId == gap.organizationId)
          gap.contents.ofProject
          (updateWhere (fun project => project.id == id)
            (fun project => { project with name, description, envVar })
            left.projects) := by
      rw [apart.projects_eq]
      apply updateWhere_comm
      · exact missed
      · intro row member hit
        have outside := apart.project_free free member hit
        exact outside
      · exact missed
    rw [swapped]
    obtain rfl := apart.rewritten
    apply apart.projects_changed
    · exact apart.keys.projects.update fun _ => rfl
    · exact apart.keys.environments
    · rw [← apart.heldProjects]
      exact filter_updateWhere (fun _ => rfl) missed
    · exact apart.heldEnvironments

theorem blind_deleteProject (free : gap.held.hasProject id = false) :
    Blind (Apart gap) (deleteProject id) := by
  apply Blind.statement
  intro left right apart
  refine .done () ?_
  unfold Store.dropProject
  rw [apart.environments_eq, apart.projects_eq]
  have spared : ∀ row ∈ left.applications, gap.held.covers row = true →
      (left.environments.any fun environment =>
        environment.id == row.environmentId &&
          environment.projectId == id) = false := by
    intro row _ covered
    apply List.any_eq_false.mpr
    intro environment member found
    rw [Bool.and_eq_true] at found
    obtain ⟨own, ownMember, sameId⟩ := List.any_eq_true.mp covered
    rw [← apart.heldEnvironments] at ownMember
    obtain ⟨ownRow, owned⟩ := List.mem_filter.mp ownMember
    obtain rfl := apart.keys.environments.eq ownRow member
      ((eq_of_beq sameId).trans (eq_of_beq found.1).symm)
    rw [eq_of_beq found.2, free] at owned
    cases owned
  have dropped := @Apart.dropped _ _ _ apart (fun _ environmentId =>
    left.environments.any fun environment =>
      environment.id == environmentId && environment.projectId == id) spared
  rw [filter_updateWhere_comm]
  swap
  · intro project
    rfl
  obtain rfl := apart.rewritten
  refine dropped.projects_changed (apart.keys.projects.filter _)
    (apart.keys.environments.filter _) ?_ ?_
  · rw [← apart.heldProjects]
    apply filter_filter_of_kept
    intro project member owned
    rw [bne, apart.project_missed free project member owned]
    rfl
  · rw [← apart.heldEnvironments]
    apply filter_filter_of_kept
    intro environment _ owned
    rw [bne_iff_ne]
    rintro rfl
    rw [free] at owned
    cases owned

end OpenOxide.Tenancy
