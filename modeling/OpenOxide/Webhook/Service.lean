import OpenOxide.Webhook.Store
import OpenOxide.Webhook.WatchPaths

/-!
# Handling of webhook events

A push redeploys the applications and compose projects that follow its branch.  A
pull request that is closed removes its previews; otherwise it gets a preview for
every application that wants one.  An error ends the handling of an event, and
what was done before it stays done.
-/

namespace OpenOxide.Webhook

open Text Relational Effects

/-- The preview's variables after the base's. -/
def mergeEnvironment (base preview : Option String) : Option String :=
  let filled (text : Option String) := text.filter fun text =>
    !(trim text).isEmpty
  match filled base, filled preview with
  | some base, some preview => some (base ++ "\n" ++ preview)
  | some base, none => some base
  | none, some preview => some preview
  | none, none => none

def isDash (letter : Char) : Bool :=
  letter == '-'

def sanitizeLetter (letter : Char) : Char :=
  if letter.isAlphanum then letter.toLower else '-'

/-- A label of a host name. -/
def sanitizeLabel (value : String) : String :=
  String.ofList (trimLetters isDash (value.toList.map sanitizeLetter))

/-- A label that is cut, and never empty. -/
def shortLabel (value : String) (limit : Nat) : String :=
  let short := String.ofList ((sanitizeLabel value).toList.take limit)
  if short.isEmpty then "preview" else short

/-- The name of the preview's application. -/
def previewAppName (base number : String) : String :=
  let suffixed := String.ofList (base.toList.take 40) ++ "-pr-" ++
    shortLabel number 16
  String.ofList (trimLetters isDash suffixed.toList)

/-- The host of a preview, under the wildcard. -/
def previewDomain (base : Application) (number : String) :
    Except String String := do
  let wildcard ← orFail "Preview wildcard domain is required"
    ((base.previewWildcard.map trim).filter fun value => !value.isEmpty)
  let wildcard := trimStartMatches "*." wildcard
  let app := sanitizeLabel base.appName
  let pr := shortLabel number 20
  let host :=
    if contains "\x7bapp\x7d" wildcard || contains "\x7bpr\x7d" wildcard then
      replace "\x7bpr\x7d" pr (replace "\x7bapp\x7d" app wildcard)
    else app ++ "-pr-" ++ pr ++ "." ++ wildcard
  if host.utf8ByteSize > 253 || (split (· == '.') host).any fun label =>
      label.isEmpty || label.utf8ByteSize > 63 then
    throw "Generated preview domain is invalid"
  pure host

/-- The application of a preview: a copy of the base that follows the source of
the pull request. -/
def previewApplication (base : Application) (event : PullRequestEvent)
    (id : Int) (appName : String) : Application :=
  { base with
    id
    name := base.name ++ " · PR #" ++ event.number
    appName
    appStatus := "IDLE"
    autoDeploy := some 0
    envVar := mergeEnvironment base.envVar base.previewEnv
    buildArgs := base.previewBuildArgs.or base.buildArgs
    buildSecrets := base.previewBuildSecrets.or base.buildSecrets
    labelsSwarm := base.previewLabels.or base.labelsSwarm
    isPreviewDeploymentsActive := 0
    previewRequireCollaboratorPermissions := 0
    sources := base.sources.update event.provider fun source =>
      { source with
        owner := some (event.sourceOwner.getD event.owner)
        repository := some (event.sourceRepository.getD event.repository)
        branch := some event.sourceBranch } }

/-- `applications.create`, whose `app_name` is unique. -/
def createApplication (row : Int → Application) : Action Int := do
  let world ← Attempt.look
  let id := world.nextApplication
  if world.applications.any fun other => other.appName == (row id).appName then
    throw "UNIQUE constraint failed: applications.app_name"
  else
    Attempt.change fun world =>
      { world with
        applications := world.applications ++ [row id]
        nextApplication := id + 1 }
    pure id

/-- The domain of a preview application. -/
def previewDomainRow (base : Application) (host : String)
    (applicationId : Int) : Domain where
  host
  https := base.previewHttps
  port := base.previewPort.or (some 3000)
  path := base.previewPath.or (some "/")
  internalPath := some "/"
  customCertResolver := base.previewCustomCertResolver
  stripPath := 0
  middlewares := "[]"
  domainType := "APPLICATION"
  certificateType := base.previewCertificateType
  applicationId := some applicationId

/-- The application of a preview and its domain. -/
def createPreviewResources (base : Application) (event : PullRequestEvent) :
    Action (Int × String) := do
  let appName := previewAppName base.appName event.number
  let domain ← Attempt.ofExcept (previewDomain base event.number)
  let world ← Attempt.look
  if world.hostInUse domain then
    throw ("Preview domain is already in use: " ++ domain)
  else
    let id ← createApplication fun id =>
      previewApplication base event id appName
    Attempt.change fun world =>
      { world with
        domains := world.domains ++ [previewDomainRow base domain id] }
    pure (id, domain)

/-- The row of a new preview. -/
def newPreview (target : PreviewTarget) (event : PullRequestEvent)
    (applicationId : Int) (domain : String) (id : Int) : PreviewDeployment where
  id
  baseApplicationId := target.baseApplicationId
  previewApplicationId := some applicationId
  providerType := event.provider.asStr
  providerId := target.providerId
  owner := event.owner
  repository := event.repository
  pullRequestNumber := event.number
  sourceBranch := event.sourceBranch
  sourceOwner := event.sourceOwner
  sourceRepository := event.sourceRepository
  targetBranch := event.targetBranch
  commitSha := event.commit
  author := event.author
  status := .queued
  domain
  lastDeploymentId := none
  history := ⟨event, event, event⟩

/-- `previews.create`.  The base application, the provider and the number of a
preview are unique; the new application is deleted if they are taken. -/
def createPreview (target : PreviewTarget) (event : PullRequestEvent)
    (applicationId : Int) (domain : String) : Action Int := do
  let world ← Attempt.look
  let id := world.nextPreview
  if (world.findForPullRequest target.baseApplicationId event.provider.asStr
      event.number).isSome then
    Attempt.change fun world => world.deleteApplication applicationId
    throw "UNIQUE constraint failed: preview_deployments"
  else
    Attempt.change fun world =>
      { world with
        previews := world.previews ++
          [newPreview target event applicationId domain id]
        nextPreview := id + 1 }
    pure id

variable (services : Services) (event : PullRequestEvent)

/-- What an event writes into an open row. -/
def updateSource (row : PreviewDeployment) : PreviewDeployment :=
  { row with
    sourceBranch := event.sourceBranch
    sourceOwner := event.sourceOwner
    sourceRepository := event.sourceRepository
    commitSha := event.commit
    author := event.author
    status := .queued
    history := { row.history with written := event } }

/-- What an event writes into a closed row. -/
def reopen (applicationId : Int) (domain : String)
    (row : PreviewDeployment) : PreviewDeployment :=
  { row with
    previewApplicationId := some applicationId
    sourceBranch := event.sourceBranch
    sourceOwner := event.sourceOwner
    sourceRepository := event.sourceRepository
    targetBranch := event.targetBranch
    commitSha := event.commit
    author := event.author
    domain
    lastDeploymentId := none
    status := .queued
    history := { row.history with opened := event, written := event } }

def changePreview (id : Int) (change : PreviewDeployment → PreviewDeployment) :
    Action Unit :=
  Attempt.change fun world => world.changePreview id change

structure PreviewDeploymentOutcome where
  preview : PreviewDeployment
  deploymentId : Int
deriving DecidableEq

def alreadyRunningText : String :=
  "already queued or running"

def rowNotFound : String :=
  "no rows returned by a query that expected to return at least one row"

/-- The first deployment, or a redeployment. -/
def queuePreview (previewId applicationId : Int)
    (created : Bool) : Action (PreviewDeploymentOutcome × Bool) := do
  let world ← Attempt.look
  let operation :=
    if created then Deployment.ApplicationOperation.deploy else .redeploy
  match services.applicationOperation world applicationId operation with
  | .error error =>
    if contains alreadyRunningText error then throw error
    else
      changePreview previewId fun row => { row with status := .error }
      throw error
  | .ok none => throw "Preview deployment was not queued"
  | .ok (some deploymentId) =>
    changePreview previewId fun row =>
      { row with lastDeploymentId := some deploymentId, status := .queued }
    let world ← Attempt.look
    match world.preview previewId with
    | none => throw rowNotFound
    | some preview => pure (⟨preview, deploymentId⟩, created)

/-- A row is created, reopened or updated. -/
def deployTarget (target : PreviewTarget)
    (event : PullRequestEvent) : Action (PreviewDeploymentOutcome × Bool) := do
  let world ← Attempt.look
  let existing := world.findForPullRequest target.baseApplicationId
    event.provider.asStr event.number
  match world.application target.baseApplicationId with
  | none => throw "Base application not found"
  | some base =>
    match existing with
    | none =>
      let (applicationId, domain) ← createPreviewResources base event
      let id ← createPreview target event applicationId domain
      queuePreview services id applicationId true
    | some row =>
      match row.previewApplicationId with
      | none =>
        let (applicationId, domain) ← createPreviewResources base event
        changePreview row.id (reopen event applicationId domain)
        queuePreview services row.id applicationId true
      | some applicationId =>
        match world.application applicationId with
        | none => throw "Preview application not found"
        | some current =>
          Attempt.change fun world =>
            { world with
              applications := updateWhere
                (fun row => row.id == applicationId)
                (fun _ => previewApplication base event applicationId
                  current.appName)
                world.applications }
          changePreview row.id (updateSource event)
          queuePreview services row.id applicationId false

/-- Delete the application of a preview, and close or delete the preview. -/
def removeUnlocked (id : Int) (hardDelete : Bool) : Action Unit := do
  let world ← Attempt.look
  match world.preview id with
  | none => throw "Preview deployment not found"
  | some row =>
    Attempt.change fun world =>
      match row.previewApplicationId.bind world.application with
      | none => world
      | some application => world.deleteApplication application.id
    if hardDelete then
      Attempt.change fun world =>
        { world with
          previews := world.previews.filter fun row => row.id != id }
    else
      changePreview id fun row =>
        { row with previewApplicationId := none, status := .closed }

structure PreviewLifecycleOutcome where
  created : Nat := 0
  redeployed : Nat := 0
  removed : Nat := 0
  skippedPermission : Nat := 0
  skippedLimit : Nat := 0
  alreadyRunning : Nat := 0

/-- The actions that end a pull request. -/
def isCloseAction (action : String) : Bool :=
  ["close", "closed", "merge", "merged", "fulfilled", "rejected",
    "declined"].contains (asciiLower action)

/-- The author may have a preview, as far as the target asks. -/
def collaborates (target : PreviewTarget)
    (event : PullRequestEvent) : Except String Bool :=
  if target.requireCollaboratorPermissions then
    match event.author with
    | none => .ok false
    | some author =>
      services.collaboratorCanWrite target.providerId event.owner
        event.repository author
  else .ok true

variable (outcome : PreviewLifecycleOutcome)

/-- Deploy the preview of a target and count it. -/
def countDeployment (target : PreviewTarget) :
    Action PreviewLifecycleOutcome := do
  match ← (deployTarget services target event).outcome with
  | .ok (_, true) => pure { outcome with created := outcome.created + 1 }
  | .ok (_, false) => pure { outcome with redeployed := outcome.redeployed + 1 }
  | .error error =>
    if contains alreadyRunningText error then
      pure { outcome with alreadyRunning := outcome.alreadyRunning + 1 }
    else throw error

/-- The round of one target. -/
def handleTarget (target : PreviewTarget) : Action PreviewLifecycleOutcome := do
  let permitted ← Attempt.ofExcept (collaborates services target event)
  let world ← Attempt.look
  let existing := world.findForPullRequest target.baseApplicationId
    event.provider.asStr event.number
  if !permitted then
    pure { outcome with skippedPermission := outcome.skippedPermission + 1 }
  else if existing.isNone && world.activeCount target.baseApplicationId ≥
      max target.previewLimit 1 then
    pure { outcome with skippedLimit := outcome.skippedLimit + 1 }
  else
    touch (.previewDeployed target existing)
    countDeployment services event outcome target

def countRemoval (id : Int) : Action PreviewLifecycleOutcome := do
  removeUnlocked id false
  pure { outcome with removed := outcome.removed + 1 }

def handleClosed
    (row : PreviewDeployment) : Action PreviewLifecycleOutcome := do
  touch (.previewClosed row)
  countRemoval outcome row.id

/-- One round for every preview or target. -/
def handlePullRequest : Action PreviewLifecycleOutcome := do
  let world ← Attempt.look
  if isCloseAction event.action then
    (services.previewOrder.arrange (world.findOpenForEvent event)).foldlM
      handleClosed {}
  else
    (services.targetOrder.arrange (world.matchingTargets event)).foldlM
      (handleTarget services event) {}

/-- A preview by the API, for one base. -/
def deployApplication (baseApplicationId : Int) :
    Action PreviewDeploymentOutcome := do
  let world ← Attempt.look
  match (services.targetOrder.arrange (world.matchingTargets event)).find?
      fun target => target.baseApplicationId == baseApplicationId with
  | none => throw "Application is not configured for this pull request preview"
  | some target =>
    let existing := world.findForPullRequest baseApplicationId
      event.provider.asStr event.number
    if (existing.all fun row => row.status == .closed) &&
        world.activeCount baseApplicationId ≥ max target.previewLimit 1 then
      throw "Preview deployment limit reached"
    else
      let (outcome, _) ← deployTarget services target event
      pure outcome

/-- The provider that a row names. -/
def providerKind (value : String) : Except String GitProviderKind :=
  match asciiLower value with
  | "github" => .ok .github
  | "gitlab" => .ok .gitlab
  | "gitea" => .ok .gitea
  | "bitbucket" => .ok .bitbucket
  | _ => .error "Unsupported preview provider"

/-- The event that `redeploy` makes of a row. -/
def PreviewDeployment.asEvent (row : PreviewDeployment)
    (provider : GitProviderKind) : PullRequestEvent where
  provider
  owner := row.owner
  repository := row.repository
  number := row.pullRequestNumber
  action := "update"
  sourceBranch := row.sourceBranch
  sourceOwner := row.sourceOwner
  sourceRepository := row.sourceRepository
  targetBranch := row.targetBranch
  commit := row.commitSha
  author := row.author

/-- The preview again, as its row says. -/
def redeploy (id : Int) : Action PreviewDeploymentOutcome := do
  let world ← Attempt.look
  match world.preview id with
  | none => throw "Preview deployment not found"
  | some row =>
    if row.status == .closed then
      throw "Closed preview deployment cannot be redeployed"
    else
      let provider ← Attempt.ofExcept (providerKind row.providerType)
      deployApplication services (row.asEvent provider) row.baseApplicationId

structure DispatchOutcome where
  eventType : String := ""
  provider : Option String := none
  owner : Option String := none
  repository : Option String := none
  applicationsQueued : Nat := 0
  composeProjectsQueued : Nat := 0
  skippedByWatchPaths : Nat := 0
  alreadyRunning : Nat := 0
  pullRequestNumber : Option String := none
  pullRequestAction : Option String := none
  sourceBranch : Option String := none
  sourceOwner : Option String := none
  sourceRepository : Option String := none
  targetBranch : Option String := none
  commit : Option String := none
  author : Option String := none
  previewsCreated : Nat := 0
  previewsRedeployed : Nat := 0
  previewsRemoved : Nat := 0
  previewsSkippedPermission : Nat := 0
  previewsSkippedLimit : Nat := 0

/-- Whether the watch paths of a resource let the event deploy it. -/
def isDue (readJson : JsonReader) (event : PushEvent)
    (watchPaths : Option String) : Except String Bool :=
  match event.trigger with
  | .push => shouldDeploy readJson watchPaths event.changedPaths
  | .tag => .ok true

section Dispatch

variable (readJson : JsonReader) (services : Services) (event : PushEvent)

/-- Ask the service to redeploy a resource and count it. -/
def countRedeployment (run : World → Except String Unit)
    (queued : DispatchOutcome → DispatchOutcome) (outcome : DispatchOutcome) :
    Action DispatchOutcome := do
  let world ← Attempt.look
  match run world with
  | .ok _ => pure (queued outcome)
  | .error error =>
    if contains alreadyRunningText error then
      pure { outcome with alreadyRunning := outcome.alreadyRunning + 1 }
    else throw error

/-- One round of the loops of `dispatch`. -/
def dispatchResource (resource : Touch) (watchPaths : Option String)
    (run : World → Except String Unit)
    (queued : DispatchOutcome → DispatchOutcome) (outcome : DispatchOutcome) :
    Action DispatchOutcome := do
  let due ← Attempt.ofExcept (isDue readJson event watchPaths)
  if due then
    touch resource
    countRedeployment run queued outcome
  else
    pure { outcome with skippedByWatchPaths := outcome.skippedByWatchPaths + 1 }

def dispatchApplication (outcome : DispatchOutcome) (row : Application) :
    Action DispatchOutcome :=
  dispatchResource readJson event (.application row) row.watchPaths
    (fun world =>
      (services.applicationOperation world row.id .redeploy).map fun _ => ())
    (fun outcome =>
      { outcome with applicationsQueued := outcome.applicationsQueued + 1 })
    outcome

def dispatchCompose (outcome : DispatchOutcome) (row : ComposeProject) :
    Action DispatchOutcome :=
  dispatchResource readJson event (.compose row) row.watchPaths
    (fun world => services.composeOperation world row.id)
    (fun outcome =>
      { outcome with
        composeProjectsQueued := outcome.composeProjectsQueued + 1 })
    outcome

/-- The outcome before the first resource. -/
def pushOutcome : DispatchOutcome where
  eventType := asciiLower event.trigger.asStr
  provider := some event.provider.asStr
  owner := some event.owner
  repository := some event.repository

/-- Applications first, then compose projects. -/
def dispatch : Action DispatchOutcome := do
  let world ← Attempt.look
  let applications :=
    services.applicationOrder.arrange (world.matchingApplications event)
  let composeProjects :=
    services.composeOrder.arrange (world.matchingComposeProjects event)
  let outcome ← applications.foldlM (dispatchApplication readJson services event)
    (pushOutcome event)
  composeProjects.foldlM (dispatchCompose readJson services event) outcome

end Dispatch

/-- The counts of the lifecycle as an answer. -/
def dispatchPullRequest : Action DispatchOutcome := do
  let lifecycle ← handlePullRequest services event
  pure
    { eventType := "pull_request"
      provider := some event.provider.asStr
      owner := some event.owner
      repository := some event.repository
      pullRequestNumber := some event.number
      pullRequestAction := some event.action
      sourceBranch := some event.sourceBranch
      sourceOwner := event.sourceOwner
      sourceRepository := event.sourceRepository
      targetBranch := some event.targetBranch
      commit := event.commit
      author := event.author
      previewsCreated := lifecycle.created
      previewsRedeployed := lifecycle.redeployed
      previewsRemoved := lifecycle.removed
      previewsSkippedPermission := lifecycle.skippedPermission
      previewsSkippedLimit := lifecycle.skippedLimit
      alreadyRunning := lifecycle.alreadyRunning }

section Receive

variable (hmacSha256 : String → List Nat → List Nat)

/-- `WebhookCredentialStore::load`. -/
def loadCredential (world : World) (kind : GitProviderKind) (id : Int) :
    Except String WebhookCredential :=
  match (world.credentialSecret kind id).filter fun secret =>
      !secret.isEmpty with
  | none => .error "webhook provider secret is not configured"
  | some secret =>
    .ok (if kind = .gitlab then .token secret else .hmac secret)

/-- The checks of `receive`: the event of a request that is accepted with the
secret of the provider it names. -/
def accept (world : World) (request : WebhookRequest) :
    Except ApiError (GitProviderKind × WebhookEvent) := do
  let provider ← parseProvider request.provider
  let eventName ← eventHeader provider request.headers
  let credential ← (loadCredential world provider request.providerId).mapError
    fun error => (.unauthorized, error)
  verifyRequest hmacSha256 provider credential request
  let event ← (parseEvent provider eventName request.body).mapError
    fun error => (.badRequest, error)
  pure (provider, event)

/-- Handle the event of an accepted request. -/
def handleEvent (readJson : JsonReader) (services : Services)
    (provider : GitProviderKind) : WebhookEvent → Action DispatchOutcome
  | .ping => pure { eventType := "ping", provider := some provider.asStr }
  | .gitRef event => dispatch readJson services event
  | .pullRequest event => dispatchPullRequest services event

/-- A refused request changes nothing. -/
def receive (readJson : JsonReader) (services : Services)
    (request : WebhookRequest) (world : World) :
    Except ApiError DispatchOutcome × World :=
  match accept hmacSha256 world request with
  | .error error => (.error error, world)
  | .ok (provider, event) =>
    let action := handleEvent readJson services provider event
    ((action.answer world).mapError fun error => (.internalServerError, error),
      action.worldAfter world)

end Receive

end OpenOxide.Webhook
