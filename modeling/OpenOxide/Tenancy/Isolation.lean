import OpenOxide.Tenancy.Controllers
import OpenOxide.Tenancy.Statements

/-!
# Tenant isolation

A stranger to an organization is neither a platform owner nor a member of it.
Such a user can pass the permission check of another organization and still name
a row of this one, because only one handler compares the two.  The requests that
name no such row, and choose no unique name that one of its rows has, leave the
rows alone, and their answers do not depend on what the rows contain.
-/

namespace OpenOxide.Tenancy

open Access (Directory PolicyAction)
open Effects (Attempt Blind BlindAt Keeps)

variable {gap : Gap} {platform : Platform} {id : Int}

variable {Invariant : Store → Prop} {ids : List Int} {left right : Store}
  {userId : Int}

namespace ApplicationService

section

variable (free : gap.held.hasApplication id = false)

include free

theorem blind_getById : Blind (Apart gap) (getById id) := by
  refine Blind.bind (blind_findApplication free) ?_
  intro found
  cases found with
  | none => exact .throw _
  | some application => exact .pure application

theorem blind_expectRow : Blind (Apart gap) (expectRow id) := by
  refine Blind.bind (blind_findApplication free) ?_
  intro found
  cases found with
  | none => exact .throw _
  | some application => exact .pure application

theorem blind_patch (input : PatchApplication) :
    Blind (Apart gap) (patch platform id input) := by
  refine Blind.bind (blind_getById free) fun _ => ?_
  refine Blind.bind (blind_updateApplication platform free _) fun _ => ?_
  exact blind_expectRow free

theorem blind_patchPreviewConfig (input : PatchPreviewConfig) :
    Blind (Apart gap) (patchPreviewConfig platform id input) := by
  refine Blind.bind (blind_getById free) fun _ => ?_
  dsimp only
  split
  · exact .throw _
  split
  · exact .throw _
  refine Blind.bind (blind_updateApplication platform free _) fun _ => ?_
  exact .pure ()

theorem blind_uploadDropSource (received : Upload) :
    Blind (Apart gap) (uploadDropSource platform id received) := by
  refine Blind.bind (blind_findApplication free) fun found => ?_
  cases found with
  | none => exact .throw _
  | some application =>
    refine Blind.bind (.ofExcept _) fun buildPath => ?_
    refine Blind.bind (blind_updateApplication platform free _).outcome
      fun updated => ?_
    cases updated with
    | error error => exact .throw _
    | ok hit =>
      refine Blind.bind (blind_getById free).outcome fun reloaded => ?_
      cases reloaded with
      | error error => exact .throw _
      | ok application => exact .pure application

theorem blind_updateStatus (status : String) :
    Blind (Apart gap) (updateStatus platform id status) := by
  refine Blind.bind (blind_updateApplication platform free _) fun _ => ?_
  exact blind_expectRow free

theorem blind_runOperation (operation : Deployment.ApplicationOperation)
    (engine : Engine) :
    Blind (Apart gap) (runOperation platform id operation engine) := by
  unfold runOperation
  split
  · exact .throw _
  refine Blind.bind (.ofExcept _) fun _ => ?_
  refine Blind.bind (blind_getById free) fun application => ?_
  refine Blind.bind (.ofExcept _) fun _ => ?_
  refine Blind.bind (.ofExcept _) fun deploymentId => ?_
  refine Blind.bind (blind_updateStatus free _) fun _ => ?_
  exact .pure _

theorem blind_stopOrCancelSmart :
    Blind (Apart gap) (stopOrCancelSmart platform id) := by
  refine Blind.bind (blind_getById free) fun application => ?_
  refine Blind.bind (blind_updateStatus free _).outcome fun _ => ?_
  refine Blind.bind (blind_updateStatus free _).outcome fun _ => ?_
  exact .pure ()

theorem blind_rotateWebhookToken (token : Except String String) :
    Blind (Apart gap) (rotateWebhookToken platform id token) := by
  refine Blind.bind (blind_getById free) fun _ => ?_
  refine Blind.bind (.ofExcept _) fun token => ?_
  refine Blind.bind (blind_updateApplication platform free _) fun hit => ?_
  split
  · exact .pure token
  · exact .throw _

theorem blind_moveToEnvironment (target : Int) (running : Bool) :
    Blind (Apart gap) (moveToEnvironment id target running) := by
  refine Blind.bind (blind_getById free) fun _ => ?_
  split
  · exact .throw _
  refine Blind.bind (blind_moveToEnvironmentInSameOrganization free)
    fun moved => ?_
  cases moved with
  | none => exact .throw _
  | some application => exact .pure application

theorem blind_consult {Answer : Type}
    (answer : Application → Except SqlxError Answer) :
    Blind (Apart gap) (consult id answer) := by
  refine Blind.bind (blind_getById free) fun application => ?_
  exact .ofExcept _

theorem blind_forceKillDeployment (kill : Kill) :
    Blind (Apart gap) (forceKillDeployment platform id kill) := by
  refine Blind.bind (blind_getById free) fun _ => ?_
  cases kill.running with
  | none => exact .throw _
  | some deploymentId =>
    refine Blind.bind (.ofExcept _) fun status => ?_
    refine Blind.bind (.ofExcept _) fun killed => ?_
    split
    · refine Blind.bind (blind_updateApplication platform free _) fun _ => ?_
      exact .pure _
    · exact .pure _

end

/-- The previews with these identifiers have bases that are not gap.held. -/
def BasesFree (held : Holdings) (ids : List Int) (store : Store) : Prop :=
  ∀ preview ∈ store.previews, preview.id ∈ ids →
    held.hasApplication preview.baseApplicationId = false

/-- The same, while two stores are apart. -/
abbrev Removing (gap : Gap) (ids : List Int) (left right : Store) : Prop :=
  Apart gap left right ∧ BasesFree gap.held ids left

theorem keeps_updateApplication
    (blank : ∀ store applications, Invariant store →
      Invariant { store with applications }) (change : Columns → Columns) :
    Keeps Invariant (updateApplication platform id change) := by
  apply Keeps.statement
  intro store result next holds ran
  split at ran
  · cases ran
    exact holds
  · split at ran
    · cases ran
    · cases ran
      exact blank store _ holds

theorem keeps_findApplication (id : Int) :
    Keeps Invariant (findApplication id) :=
  Keeps.query _

theorem keeps_updateStatus (blank : ∀ store applications, Invariant store →
      Invariant { store with applications }) (status : String) :
    Keeps Invariant (updateStatus platform id status) := by
  refine Keeps.bind (keeps_updateApplication blank _) fun _ => ?_
  refine Keeps.bind (keeps_findApplication id) fun found => ?_
  cases found with
  | none => exact .throw _
  | some application => exact .pure application

theorem keeps_stopOrCancelSmart
    (blank : ∀ store applications, Invariant store →
      Invariant { store with applications }) :
    Keeps Invariant (stopOrCancelSmart platform id) := by
  refine Keeps.bind (Keeps.bind (keeps_findApplication id) fun found => ?_)
    fun application => ?_
  · cases found with
    | none => exact .throw _
    | some application => exact .pure application
  · refine Keeps.bind (keeps_updateStatus blank _).outcome fun _ => ?_
    refine Keeps.bind (keeps_updateStatus blank _).outcome fun _ => ?_
    exact .pure ()

theorem keeps_deleteApplicationRow :
    Keeps (BasesFree gap.held ids) (deleteApplicationRow id) := by
  apply Keeps.statement
  intro store result next free ran
  cases ran
  intro preview member
  obtain ⟨old, present, rfl⟩ := List.mem_map.mp member
  exact free old (List.mem_filter.mp present).1

theorem keeps_deletePreview :
    Keeps (BasesFree gap.held ids) (deletePreview id) := by
  apply Keeps.statement
  intro store result next free ran
  cases ran
  intro preview member
  exact free preview (List.mem_filter.mp member).1

theorem blind_removePreview {previewId : Int} (listed : previewId ∈ ids) :
    Blind (Removing gap ids) (removePreview platform previewId) := by
  have ended : Blind (Removing gap ids) (deletePreview previewId) :=
    (blind_deletePreview previewId).keeping keeps_deletePreview
  intro left right related
  refine @Blind.query_bind_at _ _ _ _ (Removing gap ids) _ _ left right related
    (by rw [related.1.previews_eq]) ?_
  · intro found read
    cases found with
    | none => exact ⟨rfl, related⟩
    | some preview =>
      have located := Except.ok.inj read
      have member := List.mem_of_find?_eq_some located
      have same := List.find?_some located
      rw [← eq_of_beq same] at listed
      have baseFree := related.2 preview member listed
      dsimp only
      cases named : preview.previewApplicationId with
      | none => exact ended left right related
      | some applicationId =>
        have free : gap.held.hasApplication applicationId = false := by
          apply Bool.eq_false_iff.mpr
          intro has
          have base := related.1.together preview member _ named
          rw [related.1.held] at base
          rw [base has] at baseFree
          cases baseFree
        refine Blind.bind ((blind_findApplication free).keeping
          (keeps_findApplication applicationId)) ?_ left right related
        intro application
        cases application with
        | none => exact ended
        | some application =>
          have stops : Blind (Apart gap)
              (stopOrCancelSmart platform applicationId) :=
            blind_stopOrCancelSmart free
          refine Blind.bind (stops.outcome.keeping
            (keeps_stopOrCancelSmart fun _ _ free => free).outcome)
            fun _ => ?_
          refine Blind.bind ((blind_deleteApplicationRow free).keeping
            keeps_deleteApplicationRow) fun _ => ?_
          exact ended

theorem blind_removeForBaseApplication
    (free : gap.held.hasApplication id = false) :
    Blind (Apart gap) (removeForBaseApplication platform id) := by
  intro left right apart
  refine Blind.query_bind_at apart (by rw [apart.previews_eq]) ?_
  · intro previews read
    have bases : BasesFree gap.held (previews.map PreviewDeployment.id)
        left := by
      cases read
      intro preview member listed
      obtain ⟨other, chosen, same⟩ := List.mem_map.mp listed
      obtain ⟨present, wanted⟩ := List.mem_filter.mp chosen
      obtain rfl := List.inj_on_of_nodup_map apart.keys.previews present member
        same
      rw [eq_of_beq (Bool.and_eq_true_iff.mp wanted).1]
      exact free
    have rounds : Blind (Removing gap (previews.map PreviewDeployment.id))
        (previews.foldlM
          (fun _ preview => removePreview platform preview.id) ()) := by
      apply Blind.loop
      intro preview member _
      exact blind_removePreview (List.mem_map_of_mem member)
    obtain ⟨same, after⟩ := rounds left right ⟨apart, bases⟩
    exact ⟨same, after.1⟩

theorem blind_delete (free : gap.held.hasApplication id = false)
    (activeDeployments enabledBackups : Int) :
    Blind (Apart gap)
      (delete platform id activeDeployments enabledBackups) := by
  refine Blind.bind (blind_getById free) fun _ => ?_
  split
  · exact .throw _
  refine Blind.bind (.query fun _ _ apart => by rw [apart.previews_eq])
    fun found => ?_
  split
  · exact .throw _
  refine Blind.bind (blind_removeForBaseApplication free) fun _ => ?_
  exact blind_deleteApplicationRow free

/-- The identifier of an inserted row is new. -/
theorem inserted_free
    (apart : Apart gap left right)
    {appName : String} {environmentId : Int} {columns : Columns} {result : Int}
    (inserted : (insertApplication platform appName environmentId
      columns).answer left = .ok result) :
    gap.held.hasApplication result = false := by
  have fresh : result = left.nextApplication := by
    unfold insertApplication at inserted
    rw [Attempt.answer_statement] at inserted
    dsimp only at inserted
    split at inserted
    · cases inserted
    split at inserted
    · cases inserted
    split at inserted
    · cases inserted
    exact (Except.ok.inj inserted).symm
  apply List.any_eq_false.mpr
  intro application member same
  rw [← apart.held] at member
  have below := apart.keys.applications.below application
    (List.mem_filter.mp member).1
  rw [eq_of_beq same, fresh] at below
  exact Int.lt_irrefl _ below

end ApplicationService

namespace ApplicationTransferService

theorem blind_importApplication {input : ImportApplication} {suffix : String}
    (relations : Except SqlxError Unit)
    (free : gap.held.hasEnvironment input.targetEnvironmentId = false)
    (unused : ∀ bundle, input.bundle = .ok bundle →
      gap.held.usesAppName (ApplicationService.generateAppName platform
        (importedName input bundle) suffix) = false)
    (unusedThere : ∀ bundle, input.bundle = .ok bundle →
      (gap.held.rewritten gap.contents).usesAppName
        (ApplicationService.generateAppName platform
          (importedName input bundle) suffix) = false) :
    Blind (Apart gap) (importApplication platform input suffix relations) := by
  refine @Blind.bind_of _ _ _ _ _ _ _ (fun bundle => input.bundle = .ok bundle)
    (.ofExcept _) (fun _ _ _ _ parsed => Access.mapError_eq_ok.mp parsed) ?_
  intro bundle parsed
  dsimp only
  split
  · exact .throw _
  refine Blind.bind (.query fun _ _ apart => by rw [apart.environmentById])
    fun environment => ?_
  split
  · exact .throw _
  refine Blind.bind_of (blind_insertApplication platform free
    (unused bundle parsed) (unusedThere bundle parsed))
    (fun _ _ _ apart => ApplicationService.inserted_free apart) ?_
  intro id new
  cases relations with
  | ok _ => exact ApplicationService.blind_expectRow new
  | error error =>
    refine Blind.bind (blind_deleteApplicationRow new) fun _ => ?_
    exact .throw error

end ApplicationTransferService

namespace ProjectService

theorem update_apart {input : PatchProject}
    (apart : Apart gap left right)
    (free : gap.held.hasProject id = false)
    (unused : ∀ current, left.projectById id = some current →
      gap.held.usesProjectName (input.name.getD current.name) = false ∧
        (gap.held.rewritten gap.contents).usesProjectName
          (input.name.getD current.name) = false) :
    BlindAt (Apart gap) left right
      (update id input) := by
  refine Blind.query_bind_at apart (by rw [apart.projectById free]) ?_
  intro current read
  have found : left.projectById id = some current := by
    cases stored : left.projectById id with
    | none =>
      rw [stored] at read
      cases read
    | some project =>
      rw [stored] at read
      exact congrArg some (Except.ok.inj read)
  obtain ⟨here, there⟩ := unused current found
  exact blind_updateProject free here there left right apart

theorem blind_delete (free : gap.held.hasProject id = false) :
    Blind (Apart gap) (delete id) := by
  refine Blind.bind (blind_getProject free) fun _ => ?_
  exact blind_deleteProject free

end ProjectService

theorem foreign_free
    (apart : Apart gap left right)
    {other : Int} (different : other ≠ gap.organizationId)
    (belongs : ((left.applicationsOf other).any fun application =>
      application.id == id) = true) :
    gap.held.hasApplication id = false := by
  apply Bool.eq_false_iff.mpr
  intro has
  rw [← apart.held] at has
  obtain ⟨_, _, inOther, inOwn⟩ :=
    apart.keys.applications.any_filter belongs has
  obtain ⟨_, _, ofOther, ofOwn⟩ :=
    apart.keys.environments.any_filter inOther inOwn
  obtain ⟨_, _, other, own⟩ := apart.keys.projects.any_filter ofOther ofOwn
  exact different ((eq_of_beq other).symm.trans (eq_of_beq own))

/-- The one handler that checks the organization needs no further care. -/
theorem blind_getApplication (platform : Platform) {other : Int}
    (different : other ≠ gap.organizationId) :
    Blind (Apart gap) (ApplicationCall.perform platform other (.get id)) := by
  refine @Blind.bind_of _ _ _ _ _ _ _
    (fun _ => gap.held.hasApplication id = false) ?_ ?_ ?_
  · refine Blind.bind (.query fun _ _ apart => by
      rw [apart.any_applicationsOf]) fun belongs => ?_
    split
    · exact .pure ()
    · exact .throw _
  · intro left right result apart answered
    cases belongs : (left.applicationsOf other).any fun application =>
        application.id == id with
    | true => exact foreign_free apart different belongs
    | false =>
      have read : (belongsToOrganization id other).answer left =
          .ok false := by
        rw [belongsToOrganization, Attempt.answer_query, belongs]
      rw [ApplicationService.ensureOrganizationAccess,
        (Attempt.bind_ok read).1] at answered
      cases answered
  · intro _ free
    refine Blind.bind (ApplicationService.blind_getById free)
      fun application => ?_
    exact .pure _

section

open ApplicationService

theorem blind_act (free : gap.held.hasApplication id = false)
    (action : ApplicationAction) :
    Blind (Apart gap) (action.perform platform id) := by
  cases action with
  | exportApplication includeSecrets relations =>
    exact (Blind.bind (ApplicationService.blind_expectRow free)
      fun _ => .pure _).reply
  | patch body => exact (blind_patch free body).reply
  | patchSource | patchBuild | patchResources =>
    exact (Blind.bind (blind_updateApplication platform free _)
      fun _ => blind_getById free).reply
  | uploadDropSource received =>
    exact (blind_uploadDropSource free received).reply
  | patchPreview body => exact (blind_patchPreviewConfig free body).reply
  | operation wanted engine =>
    exact (blind_runOperation free wanted engine).reply
  | stop | cancel => exact (blind_stopOrCancelSmart free).reply
  | rotateWebhookToken token =>
    exact (blind_rotateWebhookToken free token).reply
  | moveToEnvironment target running =>
    exact (blind_moveToEnvironment free target running).reply
  | clearDeploymentHistory | cleanupDeploymentQueue | listRollbacks
  | triggerRollback | dependencies => exact (blind_consult free _).reply
  | forceKillDeployment kill =>
    exact (blind_forceKillDeployment free kill).reply
  | deleteRollback found =>
    refine Blind.bind (blind_consult free _) fun deleted => ?_
    split
    · exact .pure _
    · exact .throw _
  | delete activeDeployments enabledBackups =>
    exact (blind_delete free _ _).reply
  | getNetworks resolved =>
    exact (Blind.bind (ApplicationService.blind_expectRow free)
      fun _ => .ofExcept _).reply
  | updateNetworks networkIds detach resolved =>
    refine Blind.reply (Blind.bind (ApplicationService.blind_expectRow free)
      fun application => Blind.bind (.ofExcept _) fun rows => ?_)
    split
    · exact .throw _
    refine Blind.bind (blind_updateApplication platform free _) fun _ => ?_
    exact .pure _

end

/-- The call names no row of the organization and chooses no unique name that
one of its rows has. -/
def Call.spares (platform : Platform) (organizationId : Int) (store : Store) :
    Call → Bool
  | .project (.get id) => !(store.holdings organizationId).hasProject id
  | .project (.listByOrganization other) => other != organizationId
  | .project (.create body) => body.organizationId != organizationId &&
      !(store.holdings organizationId).usesProjectName body.name
  | .project (.patch id body) =>
    !(store.holdings organizationId).hasProject id &&
      (store.projectById id).all fun current =>
        !(store.holdings organizationId).usesProjectName
          (body.name.getD current.name)
  | .project (.delete id) => !(store.holdings organizationId).hasProject id
  | .application (.importApplication body suffix _) =>
    !(store.holdings organizationId).hasEnvironment
        body.targetEnvironmentId &&
      body.bundle.toOption.all fun bundle =>
        !(store.holdings organizationId).usesAppName
          (ApplicationService.generateAppName platform
            (ApplicationTransferService.importedName body bundle) suffix)
  | .application (.get _) => true
  | .application (.listByEnvironment environmentId) =>
    !(store.holdings organizationId).hasEnvironment environmentId
  | .application (.create body suffix) =>
    !(store.holdings organizationId).hasEnvironment body.environmentId &&
      !(store.holdings organizationId).usesAppName
        (ApplicationService.generateAppName platform body.name suffix)
  | .application (.act id _) =>
    !(store.holdings organizationId).hasApplication id

/-- The request is refused or spares the organization. -/
def Request.careful (platform : Platform) (userId organizationId : Int)
    (store : Store) (request : Request) : Bool :=
  !(requirePermission store.directory userId request.header
      request.call.required).isOk ||
    request.call.spares platform organizationId store

/-- Every request of the sequence is careful when its turn comes. -/
def careful (platform : Platform) (userId organizationId : Int)
    (store : Store) : List Request → Bool
  | [] => true
  | request :: requests =>
    request.careful platform userId organizationId store &&
      careful platform userId organizationId
        (serve platform userId store request).2 requests

/-- Neither a platform owner nor a member of the organization. -/
def Stranger (directory : Directory) (userId organizationId : Int) : Prop :=
  directory.isPlatformOwner userId = false ∧
    directory.role userId organizationId = none

theorem permitted_elsewhere {directory : Directory}
    {organizationId permitted : Int} {header : Option Int}
    {action : PolicyAction}
    (stranger : Stranger directory userId organizationId)
    (admitted : requirePermission directory userId header action =
      .ok permitted) : permitted ≠ organizationId := by
  rintro rfl
  unfold requirePermission at admitted
  split at admitted
  · cases admitted
  · split at admitted
    · rename_i allowed
      cases admitted
      simp [Directory.checkPermission, stranger.1, stranger.2] at allowed
    · cases admitted

section

variable (apart : Apart gap left right)

include apart

theorem perform_apart {permitted : Int}
    (elsewhere : permitted ≠ gap.organizationId) {call : Call}
    (here : call.spares platform gap.organizationId left = true)
    (there : call.spares platform gap.organizationId right = true) :
    BlindAt (Apart gap) left right
      (call.perform platform permitted) := by
  have heldThere : right.holdings gap.organizationId =
      gap.held.rewritten gap.contents := by
    rw [apart.rewritten, Store.holdings_rewritten, apart.held]
  rcases call with call | call
  · cases call with
      simp only [Call.spares, apart.held, heldThere, Bool.and_eq_true,
        bne_iff_ne, Bool.not_eq_true', Option.all_eq_true] at here there
    | get id => exact (blind_getProject here).reply left right apart
    | listByOrganization other =>
      exact (Blind.query fun _ _ apart => by
        rw [apart.projectsOf here]).reply left right apart
    | create body =>
      exact (blind_insertProject here.1 here.2 there.2).reply left right apart
    | patch id body =>
      rw [apart.projectById here.1] at there
      have updated := ProjectService.update_apart apart here.1
        fun current found => ⟨here.2 current found, there.2 current found⟩
      exact Blind.bind_at updated fun _ _ => ⟨rfl, updated.2⟩
    | delete id =>
      exact (ProjectService.blind_delete here).reply left right apart
  · cases call with
      simp only [Call.spares, apart.held, heldThere, Bool.and_eq_true,
        Bool.not_eq_true', Option.all_eq_true] at here there
    | importApplication body suffix relations =>
      refine (ApplicationTransferService.blind_importApplication relations
        here.1 ?_ ?_).reply left right apart
      · intro bundle parsed
        exact here.2 bundle (by rw [parsed]; rfl)
      · intro bundle parsed
        exact there.2 bundle (by rw [parsed]; rfl)
    | get id => exact blind_getApplication platform elsewhere left right apart
    | listByEnvironment environmentId =>
      exact (blind_listApplications here).reply left right apart
    | create body suffix =>
      exact (Blind.bind_of (blind_insertApplication platform here.1 here.2
        there.2) (fun _ _ _ apart =>
          ApplicationService.inserted_free apart) fun _ new =>
          ApplicationService.blind_expectRow new).reply left right apart
    | act id action => exact blind_act here action left right apart

theorem serve_apart {request : Request}
    (stranger : Stranger gap.directory userId gap.organizationId)
    (here : request.careful platform userId gap.organizationId left = true)
    (there : request.careful platform userId gap.organizationId right = true) :
    (serve platform userId left request).1 =
        (serve platform userId right request).1 ∧
      Apart gap (serve platform userId left request).2
        (serve platform userId right request).2 := by
  unfold serve
  unfold Request.careful at here there
  rw [apart.directory_eq, apart.directory] at *
  cases admitted : requirePermission gap.directory userId request.header
      request.call.required with
  | error error => exact ⟨rfl, apart⟩
  | ok permitted =>
    rw [admitted] at here there
    obtain ⟨same, after⟩ := perform_apart apart
      (permitted_elsewhere stranger admitted) here there
    refine ⟨?_, after⟩
    dsimp only
    rw [same]

theorem run_apart {requests : List Request}
    (stranger : Stranger gap.directory userId gap.organizationId)
    (here : careful platform userId gap.organizationId left requests = true)
    (there : careful platform userId gap.organizationId right requests = true) :
    responses platform userId left requests =
        responses platform userId right requests ∧
      Apart gap (storeAfter platform userId left requests)
        (storeAfter platform userId right requests) := by
  induction requests generalizing left right with
  | nil => exact ⟨rfl, apart⟩
  | cons request requests ih =>
    rw [careful, Bool.and_eq_true] at here there
    obtain ⟨same, after⟩ := serve_apart apart stranger here.1 there.1
    obtain ⟨later, final⟩ := ih after here.2 there.2
    refine ⟨?_, final⟩
    unfold responses
    dsimp only
    rw [same, later]

end

theorem careful_take {store : Store} {requests : List Request}
    (spared : careful platform userId organizationId store requests = true)
    (count : Nat) :
    careful platform userId organizationId store (requests.take count) =
      true := by
  induction requests generalizing store count with
  | nil => simpa using spared
  | cons request requests ih =>
    cases count with
    | zero => rfl
    | succ count =>
      rw [careful, Bool.and_eq_true] at spared
      rw [List.take_succ_cons, careful, Bool.and_eq_true]
      exact ⟨spared.1, ih spared.2 count⟩

/-- The contents that are there. -/
def Contents.same : Contents where
  project project := project
  application application := application

theorem Store.rewritten_same (store : Store) (organizationId : Int) :
    store.rewritten organizationId .same = store := by
  have unchanged : ∀ {Row : Type} (hits : Row → Bool) (rows : List Row),
      Relational.updateWhere hits (fun row => row) rows = rows := by
    simp [Relational.updateWhere]
  change { store with
    projects := Relational.updateWhere _ (fun project => project) _
    applications := Relational.updateWhere _ (fun application => application)
      _ } = store
  rw [unchanged, unchanged]

/-- The sequences of requests of a stranger that spare an organization leave
its rows alone at every moment, and get the same answers whatever these rows
contain. -/
theorem strangers_isolated (platform : Platform) {store : Store}
    {userId organizationId : Int} (keys : store.Keys)
    (together : store.PreviewsTogether organizationId)
    (stranger : Stranger store.directory userId organizationId)
    (requests : List Request)
    (spared : careful platform userId organizationId store requests = true) :
    (∀ count, (storeAfter platform userId store
        (requests.take count)).holdings organizationId =
      store.holdings organizationId) ∧
    ∀ contents : Contents,
      careful platform userId organizationId
          (store.rewritten organizationId contents) requests = true →
        responses platform userId (store.rewritten organizationId contents)
            requests = responses platform userId store requests := by
  have apart : ∀ contents, Apart ⟨organizationId, contents, store.directory,
      store.holdings organizationId⟩ store
      (store.rewritten organizationId contents) :=
    fun contents => ⟨rfl, keys, rfl, together, rfl⟩
  constructor
  · intro count
    have taken := careful_take spared count
    have again := taken
    rw [← store.rewritten_same organizationId] at again
    exact (run_apart (apart .same) stranger taken again).2.held
  · intro contents there
    exact (run_apart (apart contents) stranger spared there).1.symm

/-- Two organizations with an administrator, a project, an environment and an
application each. -/
def twoProjects : Store where
  directory :=
    { users := [⟨1, some "ann@example.org", some "Ann", none, "", "hash",
          some .member, 1⟩,
        ⟨2, some "ben@example.org", some "Ben", none, "", "hash",
          some .member, 1⟩]
      nextUser := 3
      organizations := [⟨1, "Ann's Organization", none, "ann-organization", 1⟩,
        ⟨2, "Ben's Organization", none, "ben-organization", 2⟩]
      nextOrganization := 3
      members := [⟨1, .admin, 1, 1, none⟩, ⟨2, .admin, 2, 2, none⟩]
      nextMember := 3
      groups := [⟨1, "owner", false, none⟩]
      nextGroup := 2
      policies := []
      groupPolicies := []
      userPolicies := []
      invites := []
      nextInvite := 1 }
  projects := [⟨1, "shop", none, "", 1⟩, ⟨2, "bank", none, "PIN=1234", 2⟩]
  nextProject := 3
  environments := [⟨1, "production", none, "", true, 1⟩,
    ⟨2, "production", none, "", true, 2⟩]
  nextEnvironment := 3
  applications := [⟨1, "web-1", 1, [("name", .text "web")]⟩,
    ⟨2, "vault-2", 2, [("name", .text "vault")]⟩]
  nextApplication := 3
  previews := []

def openPlatform : Platform where
  violation _ := none
  slug name := name

/-- The administrator of the first organization renames its project, asks for
the application of the other organization and adds one to its own. -/
def ownRequests : List Request :=
  [⟨some 1, .project (.patch 1 ⟨some "store", none, none⟩)⟩,
    ⟨some 1, .application (.get 2)⟩,
    ⟨none, .application (.create ⟨"api", none, 1, none, "GIT", "NIXPACKS"⟩
      "0a1b2c3d")⟩]

theorem keys_twoProjects : twoProjects.Keys where
  projects := ⟨by decide, by decide⟩
  environments := ⟨by decide, by decide⟩
  applications := ⟨by decide, by decide⟩
  previews := by decide

theorem stranger_ann : Stranger twoProjects.directory 1 2 :=
  ⟨by decide +kernel, by decide +kernel⟩

theorem strangers_isolated_ann :
    twoProjects.Keys ∧ twoProjects.PreviewsTogether 2 ∧
      Stranger twoProjects.directory 1 2 ∧
      careful openPlatform 1 2 twoProjects ownRequests = true ∧
      (∀ count, (storeAfter openPlatform 1 twoProjects
          (ownRequests.take count)).holdings 2 = twoProjects.holdings 2) ∧
      ∀ contents : Contents,
        careful openPlatform 1 2 (twoProjects.rewritten 2 contents)
            ownRequests = true →
          responses openPlatform 1 (twoProjects.rewritten 2 contents)
              ownRequests = responses openPlatform 1 twoProjects
                ownRequests := by
  have together : twoProjects.PreviewsTogether 2 := by
    intro preview member
    cases member
  have spared : careful openPlatform 1 2 twoProjects ownRequests = true := by
    decide +kernel
  exact ⟨keys_twoProjects, together, stranger_ann, spared,
    strangers_isolated openPlatform keys_twoProjects together stranger_ann
      ownRequests spared⟩

/-- With the header of an organization of theirs, a stranger rewrites the
project of the other organization and reads what it contains. -/
theorem stranger_rewrites_foreign_project :
    twoProjects.Keys ∧ Stranger twoProjects.directory 1 2 ∧
      (storeAfter openPlatform 1 twoProjects
          [⟨some 1, .project (.patch 2 ⟨some "mine", none, none⟩)⟩]).holdings 2
        ≠ twoProjects.holdings 2 ∧
      responses openPlatform 1 twoProjects
          [⟨some 1, .project (.get 2)⟩] =
        [.ok ⟨200, .project ⟨2, "bank", none, "PIN=1234", 2⟩⟩] ∧
      responses openPlatform 1
          (twoProjects.rewritten 2
            ⟨fun project => { project with envVar := "PIN=0000" },
              fun application => application⟩)
          [⟨some 1, .project (.get 2)⟩] =
        [.ok ⟨200, .project ⟨2, "bank", none, "PIN=0000", 2⟩⟩] := by
  refine ⟨keys_twoProjects, stranger_ann, ?_⟩
  decide +kernel

end OpenOxide.Tenancy
