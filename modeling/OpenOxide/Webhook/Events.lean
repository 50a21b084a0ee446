import OpenOxide.Text.Strings

/-!
# Webhook requests

A provider sends a signed request, whose body is read as one of several payloads
and turned into an event.  The bytes of a body and what the JSON reader makes of
them are both part of the request: the signature is over the bytes, the event
comes from the payloads.
-/

namespace OpenOxide.Webhook

open Text

/-- The providers that send webhooks. -/
inductive GitProviderKind where
  | github
  | gitlab
  | gitea
  | bitbucket
deriving DecidableEq

def GitProviderKind.asStr : GitProviderKind → String
  | .github => "GITHUB"
  | .gitlab => "GITLAB"
  | .gitea => "GITEA"
  | .bitbucket => "BITBUCKET"

def GitProviderKind.fromStr (value : String) : Option GitProviderKind :=
  [.github, .gitlab, .gitea, .bitbucket].find? fun kind =>
    kind.asStr == asciiUpper (trim value)

/-- What was pushed. -/
inductive GitTrigger where
  | push
  | tag
deriving DecidableEq

def GitTrigger.asStr : GitTrigger → String
  | .push => "PUSH"
  | .tag => "TAG"

structure PushEvent where
  provider : GitProviderKind
  trigger : GitTrigger
  owner : String
  repository : String
  branch : String
  before : Option String
  after : Option String
  changedPaths : List String
deriving DecidableEq

structure PullRequestEvent where
  provider : GitProviderKind
  owner : String
  repository : String
  number : String
  action : String
  sourceBranch : String
  sourceOwner : Option String
  sourceRepository : Option String
  targetBranch : String
  commit : Option String
  author : Option String
deriving DecidableEq

/-- What a request reports. -/
inductive WebhookEvent where
  | ping
  | gitRef (event : PushEvent)
  | pullRequest (event : PullRequestEvent)
deriving DecidableEq

structure ChangedCommit where
  added : List String
  modified : List String
  removed : List String

/-- The owner of a repository in push and tag payloads. -/
structure PushOwner where
  login : Option String
  username : Option String
  name : Option String

structure GithubPush where
  gitRef : String
  before : Option String
  after : Option String
  name : String
  owner : PushOwner
  commits : List ChangedCommit

structure GitlabProject where
  path : String
  pathWithNamespace : String

structure GitlabPush where
  gitRef : String
  before : Option String
  after : Option String
  project : GitlabProject
  commits : List ChangedCommit

structure BitbucketReference where
  name : String
  kind : Option String
  target : Option String

structure BitbucketChange where
  newRef : Option BitbucketReference
  old : Option BitbucketReference

structure BitbucketOwner where
  username : Option String
  nickname : Option String
  displayName : Option String

structure BitbucketPush where
  name : String
  owner : BitbucketOwner
  changes : List BitbucketChange

structure TagCreation where
  refType : String
  reference : String
  name : String
  owner : PushOwner
  after : Option String

structure RepositoryOwner where
  login : Option String
  username : Option String
  nickname : Option String

structure GithubRef where
  branch : String
  sha : Option String
  repo : Option (String × RepositoryOwner)

structure GithubPull where
  action : Option String
  number : Int
  name : String
  owner : RepositoryOwner
  head : GithubRef
  base : GithubRef
  user : RepositoryOwner

structure GitlabPull where
  project : GitlabProject
  source : Option GitlabProject
  username : Option String
  iid : Int
  action : Option String
  state : Option String
  sourceBranch : String
  targetBranch : String
  lastCommit : Option String

structure BitbucketSide where
  branch : String
  commit : Option String
  repository : Option (String × Option String)

structure BitbucketPull where
  name : String
  owner : RepositoryOwner
  id : Int
  source : BitbucketSide
  destination : BitbucketSide
  author : RepositoryOwner

/-- The bytes of a body, and what they are when read as each of the payloads. -/
structure WebhookBody where
  bytes : List Nat
  githubPush : Except String GithubPush
  gitlabPush : Except String GitlabPush
  bitbucketPush : Except String BitbucketPush
  tagCreation : Except String TagCreation
  githubPull : Except String GithubPull
  gitlabPull : Except String GitlabPull
  bitbucketPull : Except String BitbucketPull

/-- Put the reader's error behind a text. -/
def reading {Payload : Type} (text : String) (payload : Except String Payload) :
    Except String Payload :=
  payload.mapError fun error => text ++ error

/-- `ok_or` with a text. -/
def orFail {Value : Type} (text : String) (value : Option Value) :
    Except String Value :=
  match value with
  | some value => .ok value
  | none => .error text

/-- The branch or the tag of a ref. -/
def branchFromRef (value : String) : Except String String :=
  orFail ("unsupported Git ref: " ++ value)
    (((stripStart "refs/heads/" value).orElse
      fun _ => stripStart "refs/tags/" value).filter fun branch =>
        !branch.isEmpty)

/-- Insert into an ordered list without repetitions. -/
def insertPath (path : String) : List String → List String
  | [] => [path]
  | first :: paths =>
    if path = first then first :: paths
    else if path < first then path :: first :: paths
    else first :: insertPath path paths

/-- The changed paths, each once. -/
def collectPaths (commits : List ChangedCommit) : List String :=
  (commits.flatMap fun commit =>
    commit.added ++ commit.modified ++ commit.removed).foldr insertPath []

/-- A tag, or a push to a branch. -/
def refTrigger (gitRef : String) : GitTrigger :=
  if startsWith "refs/tags/" gitRef then .tag else .push

/-- The first name that is given. -/
def PushOwner.first (owner : PushOwner) : Option String :=
  (owner.login.or owner.username).or owner.name

/-- GitHub and Gitea send the same fields. -/
def parseGithubLike (provider : GitProviderKind) (body : WebhookBody) :
    Except String PushEvent := do
  let payload ← reading "invalid GitHub/Gitea push payload: " body.githubPush
  let owner ← orFail "push payload has no repository owner"
    (payload.owner.first.filter fun value => !(trim value).isEmpty)
  let branch ← branchFromRef payload.gitRef
  pure ⟨provider, refTrigger payload.gitRef, owner, payload.name, branch,
    payload.before, payload.after, collectPaths payload.commits⟩

/-- The owner is the namespace. -/
def parseGitlab (body : WebhookBody) : Except String PushEvent := do
  let payload ← reading "invalid GitLab push payload: " body.gitlabPush
  let owner ← orFail "GitLab payload has no project namespace"
    (beforeLast '/' payload.project.pathWithNamespace)
  let branch ← branchFromRef payload.gitRef
  pure ⟨.gitlab, refTrigger payload.gitRef, owner, payload.project.path, branch,
    payload.before, payload.after, collectPaths payload.commits⟩

/-- Only the first change counts. -/
def parseBitbucket (body : WebhookBody) : Except String PushEvent := do
  let payload ← reading "invalid Bitbucket push payload: " body.bitbucketPush
  let change ← orFail "Bitbucket push contains no changes" payload.changes.head?
  let reference := change.newRef.or change.old
  let branch ← orFail "Bitbucket push contains no branch"
    (reference.map BitbucketReference.name)
  let owner ← orFail "Bitbucket payload has no repository owner"
    ((payload.owner.username.or payload.owner.nickname).or
      payload.owner.displayName)
  let trigger :=
    if reference.bind BitbucketReference.kind = some "tag" then GitTrigger.tag
    else .push
  pure ⟨.bitbucket, trigger, owner, payload.name, branch,
    change.old.bind BitbucketReference.target,
    change.newRef.bind BitbucketReference.target, []⟩

/-- A push, by the provider's format. -/
def parsePush (provider : GitProviderKind) (body : WebhookBody) :
    Except String PushEvent :=
  match provider with
  | .github | .gitea => parseGithubLike provider body
  | .gitlab => parseGitlab body
  | .bitbucket => parseBitbucket body

/-- A new tag. -/
def parseCreate (provider : GitProviderKind) (body : WebhookBody) :
    Except String PushEvent := do
  let payload ← reading "invalid tag payload: " body.tagCreation
  if payload.refType ≠ "tag" then throw "create event is not a tag"
  let owner ← orFail "tag payload has no repository owner" payload.owner.first
  pure ⟨provider, .tag, owner, payload.name, payload.reference, none,
    payload.after, []⟩

def ownerName (owner : RepositoryOwner) : Option String :=
  (owner.login.or owner.username).or owner.nickname

/-- GitHub and Gitea send the same fields. -/
def pullGithubLike (provider : GitProviderKind) (body : WebhookBody) :
    Except String PullRequestEvent := do
  let payload ← reading "invalid pull request payload: " body.githubPull
  let owner ← orFail "repository owner is missing" (ownerName payload.owner)
  pure
    { provider
      owner
      repository := payload.name
      number := toString payload.number
      action := payload.action.getD "updated"
      sourceBranch := payload.head.branch
      sourceOwner := payload.head.repo.bind fun repo => ownerName repo.2
      sourceRepository := payload.head.repo.map Prod.fst
      targetBranch := payload.base.branch
      commit := payload.head.sha
      author := ownerName payload.user }

/-- A merge request. -/
def pullGitlab (body : WebhookBody) : Except String PullRequestEvent := do
  let payload ← reading "invalid pull request payload: " body.gitlabPull
  let owner ← orFail "project namespace is missing"
    (beforeLast '/' payload.project.pathWithNamespace)
  pure
    { provider := .gitlab
      owner
      repository := payload.project.path
      number := toString payload.iid
      action := (payload.action.or payload.state).getD "update"
      sourceBranch := payload.sourceBranch
      sourceOwner := payload.source.bind fun source =>
        beforeLast '/' source.pathWithNamespace
      sourceRepository := payload.source.map GitlabProject.path
      targetBranch := payload.targetBranch
      commit := payload.lastCommit
      author := payload.username }

/-- The action is the event's name. -/
def pullBitbucket (eventName : String) (body : WebhookBody) :
    Except String PullRequestEvent := do
  let payload ← reading "invalid pull request payload: " body.bitbucketPull
  let owner ← orFail "repository owner is missing" (ownerName payload.owner)
  pure
    { provider := .bitbucket
      owner
      repository := payload.name
      number := toString payload.id
      action := (stripStart "pullrequest:" eventName).getD "updated"
      sourceBranch := payload.source.branch
      sourceOwner := (payload.source.repository.bind Prod.snd).bind
        (beforeLast '/')
      sourceRepository := payload.source.repository.map Prod.fst
      targetBranch := payload.destination.branch
      commit := payload.source.commit
      author := ownerName payload.author }

/-- A pull request, by the provider's format. -/
def parsePullRequest (provider : GitProviderKind) (eventName : String)
    (body : WebhookBody) : Except String PullRequestEvent :=
  match provider with
  | .github | .gitea => pullGithubLike provider body
  | .gitlab => pullGitlab body
  | .bitbucket => pullBitbucket eventName body

/-- The events that report a pull request. -/
def isPullRequest (provider : GitProviderKind) (eventName : String) : Bool :=
  match provider with
  | .github | .gitea => eventName == "pull_request"
  | .gitlab => eventName == "merge request hook"
  | .bitbucket => startsWith "pullrequest:" eventName

/-- What a body reports, by its header. -/
def parseEvent (provider : GitProviderKind) (eventName : String)
    (body : WebhookBody) : Except String WebhookEvent :=
  let eventName := asciiLower eventName
  if eventName = "ping" ∨ eventName = "diagnostics:repo:ping" then .ok .ping
  else if isPullRequest provider eventName then
    (parsePullRequest provider eventName body).map .pullRequest
  else if (provider = .github ∨ provider = .gitea) ∧ eventName = "create" then
    (parseCreate provider body).map .gitRef
  else (parsePush provider body).map .gitRef

/-- The status of a refusal. -/
inductive StatusCode where
  | badRequest
  | unauthorized
  | notFound
  | unprocessableEntity
  | internalServerError
deriving DecidableEq

abbrev ApiError := StatusCode × String

structure WebhookRequest where
  provider : String
  providerId : Int
  headers : List (String × String)
  body : WebhookBody

/-- The provider in the path. -/
def parseProvider (value : String) : Except ApiError GitProviderKind :=
  match GitProviderKind.fromStr value with
  | some kind => .ok kind
  | none => .error (.notFound, "Invalid GitProviderType: " ++ value)

def eventHeaderName : GitProviderKind → String
  | .github => "x-github-event"
  | .gitlab => "x-gitlab-event"
  | .gitea => "x-gitea-event"
  | .bitbucket => "x-event-key"

/-- The events that are looked at. -/
def supportedEvent (provider : GitProviderKind) (normalized : String) : Bool :=
  match provider with
  | .github | .gitea =>
    ["push", "create", "pull_request", "ping"].contains normalized
  | .gitlab =>
    ["push hook", "tag push hook", "merge request hook"].contains normalized
  | .bitbucket =>
    ["repo:push", "repo:refs_changed", "diagnostics:repo:ping"].contains
      normalized || startsWith "pullrequest:" normalized

/-- The event, if it is one to look at. -/
def eventHeader (provider : GitProviderKind) (headers : List (String × String)) :
    Except ApiError String :=
  let name := eventHeaderName provider
  match headers.lookup name with
  | none => .error (.badRequest, "missing webhook event header: " ++ name)
  | some value =>
    if supportedEvent provider (asciiLower value) then .ok value
    else .error (.unprocessableEntity, "unsupported webhook event: " ++ value)

/-- How a request is authenticated. -/
inductive WebhookCredential where
  | hmac (secret : String)
  | token (secret : String)

section Signatures

variable (hmacSha256 : String → List Nat → List Nat)

/-- The signature of the body. -/
def verifyHmacSha256 (secret : String) (bytes : List Nat)
    (signature : String) : Bool :=
  let signature := (stripStart "sha256=" signature).getD signature
  match decodeHex signature.toList with
  | none => false
  | some expected => hmacSha256 secret bytes == expected

/-- The bytes of the text `openoxide-token-verification`. -/
def tokenVerification : List Nat :=
  "openoxide-token-verification".toList.map Char.toNat

/-- The token, compared by its code. -/
def verifyToken (expected : String) (received : Option String) : Bool :=
  received.any fun received =>
    hmacSha256 received tokenVerification ==
      hmacSha256 expected tokenVerification

/-- Each provider signs in its own way. -/
def verifyRequest (provider : GitProviderKind) (credential : WebhookCredential)
    (request : WebhookRequest) : Except ApiError Unit :=
  let signed (name secret : String) :=
    (request.headers.lookup name).any
      (verifyHmacSha256 hmacSha256 secret request.body.bytes)
  let valid :=
    match provider, credential with
    | .github, .hmac secret => signed "x-hub-signature-256" secret
    | .gitea, .hmac secret => signed "x-gitea-signature" secret
    | .gitlab, .token secret =>
      verifyToken hmacSha256 secret (request.headers.lookup "x-gitlab-token")
    | .bitbucket, .hmac secret => signed "x-hub-signature" secret
    | _, _ => false
  if valid then .ok ()
  else .error (.unauthorized, "invalid webhook signature or token")

end Signatures

end OpenOxide.Webhook
