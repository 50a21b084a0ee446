import OpenOxide.Deployment.Types
import OpenOxide.Effects.Attempt
import OpenOxide.Relational.Table
import OpenOxide.Webhook.Events

/-!
# The tables behind webhooks

Providers with their secrets, the applications and compose projects that follow
repositories, the preview deployments and their domains, with the queries of the
repositories over them.  The queries that look for resources compare the owner,
the repository and the branch as texts.

`touched` records which resources an event has acted on, and the history of a
preview which events have written it; both are read by nothing.
-/

namespace OpenOxide.Webhook

open Text Relational Effects

structure GitProvider where
  id : Int
  webhookSecret : Option String

/-- A row of `github_providers`, `gitlab_providers`, `gitea_providers` or
`bitbucket_providers`. -/
structure Provider where
  kind : GitProviderKind
  id : Int
  gitProviderId : Int

/-- The columns of a resource for one kind of provider. -/
structure GitSource where
  repository : Option String
  owner : Option String
  branch : Option String
  providerId : Option Int
deriving DecidableEq

/-- A column and a text are the same up to ASCII case. -/
def sameText (column : Option String) (text : String) : Bool :=
  column.map asciiLower == some (asciiLower text)

def GitSource.names (source : GitSource) (owner repository branch : String) :
    Bool :=
  sameText source.repository repository && sameText source.owner owner &&
    source.branch == some branch

structure GitSources where
  github : GitSource
  gitlab : GitSource
  gitea : GitSource
  bitbucket : GitSource
deriving DecidableEq

def GitSources.of (sources : GitSources) : GitProviderKind → GitSource
  | .github => sources.github
  | .gitlab => sources.gitlab
  | .gitea => sources.gitea
  | .bitbucket => sources.bitbucket

def GitSources.update (sources : GitSources) (kind : GitProviderKind)
    (change : GitSource → GitSource) : GitSources :=
  match kind with
  | .github => { sources with github := change sources.github }
  | .gitlab => { sources with gitlab := change sources.gitlab }
  | .gitea => { sources with gitea := change sources.gitea }
  | .bitbucket => { sources with bitbucket := change sources.bitbucket }

/-- `source_type`. -/
inductive SourceType where
  | hosted (kind : GitProviderKind)
  | docker
  | git
  | drop
  | raw
deriving DecidableEq

structure Application where
  id : Int
  name : String
  appName : String
  appStatus : String
  sourceType : SourceType
  triggerType : GitTrigger
  autoDeploy : Option Int
  watchPaths : Option String
  sources : GitSources
  envVar : Option String
  buildArgs : Option String
  buildSecrets : Option String
  labelsSwarm : Option String
  previewEnv : Option String
  previewBuildArgs : Option String
  previewBuildSecrets : Option String
  previewLabels : Option String
  previewWildcard : Option String
  previewPort : Option Int
  previewHttps : Int
  previewPath : Option String
  previewCertificateType : String
  previewCustomCertResolver : Option String
  previewLimit : Option Int
  isPreviewDeploymentsActive : Int
  previewRequireCollaboratorPermissions : Int
deriving DecidableEq

structure ComposeProject where
  id : Int
  sourceType : SourceType
  triggerType : GitTrigger
  autoDeploy : Int
  watchPaths : Option String
  sources : GitSources
deriving DecidableEq

/-- `preview_deployments.status`. -/
inductive PreviewStatus where
  | queued
  | active
  | error
  | closed
deriving DecidableEq

/-- The events that created a preview, gave it its application and wrote it
last. -/
structure PreviewHistory where
  created : PullRequestEvent
  opened : PullRequestEvent
  written : PullRequestEvent
deriving DecidableEq

structure PreviewDeployment where
  id : Int
  baseApplicationId : Int
  previewApplicationId : Option Int
  providerType : String
  providerId : Int
  owner : String
  repository : String
  pullRequestNumber : String
  sourceBranch : String
  sourceOwner : Option String
  sourceRepository : Option String
  targetBranch : String
  commitSha : Option String
  author : Option String
  status : PreviewStatus
  domain : String
  lastDeploymentId : Option Int
  history : PreviewHistory
deriving DecidableEq

structure Domain where
  host : String
  https : Int
  port : Option Int
  path : Option String
  internalPath : Option String
  customCertResolver : Option String
  stripPath : Int
  middlewares : String
  domainType : String
  certificateType : String
  applicationId : Option Int

structure PreviewTarget where
  baseApplicationId : Int
  providerId : Int
  previewLimit : Int
  requireCollaboratorPermissions : Bool
deriving DecidableEq

/-- A resource that an event makes the services act on. -/
inductive Touch where
  | application (row : Application)
  | compose (row : ComposeProject)
  | previewClosed (row : PreviewDeployment)
  | previewDeployed (target : PreviewTarget) (existing : Option PreviewDeployment)
deriving DecidableEq

structure World where
  gitProviders : List GitProvider
  providers : List Provider
  applications : List Application
  composeProjects : List ComposeProject
  previews : List PreviewDeployment
  domains : List Domain
  nextApplication : Int
  nextPreview : Int
  touched : List Touch

abbrev Action := Attempt World String

namespace World

variable (world : World)

def provider (kind : GitProviderKind) (id : Int) : Option Provider :=
  world.providers.find? fun row => row.kind == kind && row.id == id

def gitProvider (id : Int) : Option GitProvider :=
  world.gitProviders.find? fun row => row.id == id

/-- The query behind `credential_secret`. -/
def credentialSecret (kind : GitProviderKind) (id : Int) : Option String := do
  let provider ← world.provider kind id
  let umbrella ← world.gitProvider provider.gitProviderId
  umbrella.webhookSecret

def application (id : Int) : Option Application :=
  world.applications.find? fun row => row.id == id

def matchingApplications (event : PushEvent) : List Application :=
  world.applications.filter fun row =>
    row.sourceType == .hosted event.provider && row.autoDeploy == some 1 &&
      row.triggerType == event.trigger &&
      (row.sources.of event.provider).names event.owner event.repository
        event.branch

def matchingComposeProjects (event : PushEvent) : List ComposeProject :=
  world.composeProjects.filter fun row =>
    row.sourceType == .hosted event.provider && row.autoDeploy == 1 &&
      row.triggerType == event.trigger &&
      (row.sources.of event.provider).names event.owner event.repository
        event.branch

/-- The row of `matching_targets` that an application gives, if any. -/
def previewTarget (event : PullRequestEvent)
    (row : Application) : Option PreviewTarget :=
  if row.sourceType == .hosted event.provider &&
      row.isPreviewDeploymentsActive == 1 &&
      (row.sources.of event.provider).names event.owner event.repository
        event.targetBranch then do
    let id ← (row.sources.of event.provider).providerId
    let provider ← world.provider event.provider id
    let umbrella ← world.gitProvider provider.gitProviderId
    pure
      { baseApplicationId := row.id
        providerId := umbrella.id
        previewLimit := row.previewLimit.getD 3
        requireCollaboratorPermissions :=
          row.previewRequireCollaboratorPermissions != 0 }
  else none

def matchingTargets (event : PullRequestEvent) : List PreviewTarget :=
  world.applications.filterMap (world.previewTarget event)

def preview (id : Int) : Option PreviewDeployment :=
  world.previews.find? fun row => row.id == id

/-- The previews of a base application. -/
def previewsOf (baseApplicationId : Int) : List PreviewDeployment :=
  world.previews.filter fun row => row.baseApplicationId == baseApplicationId

def findForPullRequest (baseApplicationId : Int)
    (providerType pullRequestNumber : String) : Option PreviewDeployment :=
  (world.previewsOf baseApplicationId).find? fun row =>
    row.providerType == providerType &&
      row.pullRequestNumber == pullRequestNumber

def activeCount (baseApplicationId : Int) : Nat :=
  (world.previewsOf baseApplicationId).countP fun row => row.status != .closed

def findOpenForEvent (event : PullRequestEvent) : List PreviewDeployment :=
  world.previews.filter fun row =>
    row.providerType == event.provider.asStr &&
      asciiLower row.owner == asciiLower event.owner &&
      asciiLower row.repository == asciiLower event.repository &&
      row.pullRequestNumber == event.number && row.status != .closed

def changePreview (id : Int)
    (change : PreviewDeployment → PreviewDeployment) : World :=
  { world with
    previews := updateWhere (fun row => row.id == id) change world.previews }

def hostInUse (host : String) : Bool :=
  world.domains.any fun row => asciiLower row.host == asciiLower host

/-- Deleting an application deletes the previews of it as a base and its domains,
and takes it out of the previews that run as it. -/
def deleteApplication (id : Int) : World :=
  { world with
    applications := world.applications.filter fun row => row.id != id
    previews := updateWhere (fun row => row.previewApplicationId == some id)
      (fun row => { row with previewApplicationId := none })
      (world.previews.filter fun row => row.baseApplicationId != id)
    domains := world.domains.filter fun row => row.applicationId != some id }

end World

/-- What an event asks of the rest of the panel and of the provider, and the
orders in which the queries return their rows. -/
structure Services where
  applicationOperation : World → Int → Deployment.ApplicationOperation →
    Except String (Option Int)
  composeOperation : World → Int → Except String Unit
  collaboratorCanWrite : Int → String → String → String → Except String Bool
  applicationOrder : RowOrder Application
  composeOrder : RowOrder ComposeProject
  previewOrder : RowOrder PreviewDeployment
  targetOrder : RowOrder PreviewTarget

def touch (resource : Touch) : Action Unit :=
  Attempt.change fun world => { world with touched := world.touched ++ [resource] }

end OpenOxide.Webhook
