import OpenOxide.Tenancy.Store

/-!
# The bodies of project and application requests

The bodies that the controllers accept, and the assignments that the statements
of the repository make of them.
-/

namespace OpenOxide.Tenancy

structure CreateProject where
  name : String
  description : Option String
  envVar : String
  organizationId : Int

structure PatchProject where
  name : Option String
  description : Option String
  envVar : Option String

structure CreateApplication where
  name : String
  description : Option String
  environmentId : Int
  serverId : Option Int
  sourceType : String
  buildType : String

/-- The network identifiers are the serialized list. -/
structure PatchApplication where
  name : Option String
  description : Option String
  buildType : Option String
  triggerType : Option String
  envVar : Option String
  icon : Option String
  serverId : Option Int
  buildServerId : Option Int
  registryId : Option Int
  networkIds : Option String
  detachRustployNetwork : Option Int

/-- The seven bodies that choose a source. -/
inductive PatchSource where
  | github (repository owner : String) (branch buildPath : Option String)
      (githubProviderId autoDeploy : Option Int)
  | gitlab (projectId : Option Int) (repository owner : String)
      (branch buildPath pathNamespace : Option String)
      (gitlabProviderId : Option Int)
  | gitea (repository owner : String) (branch buildPath : Option String)
      (giteaProviderId : Option Int)
  | bitbucket (repository : String) (repositorySlug : Option String)
      (owner : String) (branch buildPath : Option String)
      (bitbucketProviderId : Option Int)
  | docker (image : String) (username password registryUrl : Option String)
  | git (url : String) (branch buildPath : Option String)
      (sshKeyId : Option Int)
  | drop (buildPath : Option String)

structure PatchBuildConfig where
  buildArgs : Option String
  buildSecrets : Option String
  dockerfile : Option String
  dockerContextPath : Option String
  dockerBuildStage : Option String
  publishDirectory : Option String
  isStaticSpa : Option Int
  createEnvFile : Option Int
  railpackVersion : Option String
  herokuVersion : Option String
  command : Option String
  args : Option String
  buildPath : Option String
  cleanCache : Option Int
  enableSubmodules : Option Int
  watchPaths : Option String

structure PatchResourceConfig where
  memoryReservation : Option String
  memoryLimit : Option String
  cpuReservation : Option String
  cpuLimit : Option String
  replicas : Option Int

/-- `certificate_type`. -/
inductive CertificateType where
  | none
  | letsencrypt
  | custom
deriving DecidableEq

def CertificateType.asStr : CertificateType → String
  | .none => "NONE"
  | .letsencrypt => "LETSENCRYPT"
  | .custom => "CUSTOM"

structure PatchPreviewConfig where
  previewEnv : Option String
  previewBuildArgs : Option String
  previewBuildSecrets : Option String
  previewLabels : Option String
  previewWildcard : Option String
  previewPort : Int
  previewHttps : Bool
  previewPath : String
  previewCertificateType : CertificateType
  previewCustomCertResolver : Option String
  previewLimit : Int
  active : Bool
  requireCollaboratorPermissions : Bool

/-- The parsed archive of an import. -/
structure ExportBundle where
  schemaVersion : Int
  columns : Columns

structure ImportApplication where
  bundle : Except String ExportBundle
  targetEnvironmentId : Int
  targetServerId : Option Int
  name : Option String

/-- `source_type`. -/
inductive SourceKind where
  | github
  | gitlab
  | gitea
  | bitbucket
  | docker
  | git
  | drop
deriving DecidableEq

/-- The columns of one kind of source that the statements of the others
clear. -/
def SourceKind.columns : SourceKind → List String
  | .github => ["repository", "owner", "branch"]
  | .gitlab => ["gitlab_project_id", "gitlab_repository", "gitlab_owner",
      "gitlab_branch", "gitlab_path_namespace"]
  | .gitea => ["gitea_repository", "gitea_owner", "gitea_branch"]
  | .bitbucket => ["bitbucket_repository", "bitbucket_repository_slug",
      "bitbucket_owner", "bitbucket_branch"]
  | .docker => ["docker_image", "docker_username", "docker_password",
      "registry_url"]
  | .git => ["custom_git_url", "custom_git_branch", "custom_git_ssh_key_id"]
  | .drop => ["drop_build_path"]

/-- A source statement: its own columns are set, those of the others cleared. -/
def setSource (kind : SourceKind) (sourceType : String) (own : Columns) :
    Columns :=
  (("source_type", .text sourceType) :: own) ++
    (([.github, .gitlab, .gitea, .bitbucket, .docker, .git, .drop].filter
      fun other => other != kind).flatMap SourceKind.columns).map
        fun column => (column, .null)

def rootPath (path : Option String) : Value :=
  .text (path.getD "/")

/-- The seven `ApplicationRepository::set_*_source` statements. -/
def PatchSource.assignments : PatchSource → Columns
  | .github repository owner branch buildPath providerId autoDeploy =>
    setSource .github "GITHUB"
      [("repository", .text repository), ("owner", .text owner),
        ("branch", optionalText branch), ("build_path", rootPath buildPath),
        ("github_provider_id", optionalInteger providerId),
        ("auto_deploy", .integer (autoDeploy.getD 1))]
  | .gitlab projectId repository owner branch buildPath pathNamespace
      providerId =>
      setSource .gitlab "GITLAB"
        [("gitlab_project_id", optionalInteger projectId),
          ("gitlab_repository", .text repository),
          ("gitlab_owner", .text owner), ("gitlab_branch", optionalText branch),
          ("gitlab_build_path", rootPath buildPath),
          ("gitlab_path_namespace", optionalText pathNamespace),
          ("gitlab_provider_id", optionalInteger providerId)]
  | .gitea repository owner branch buildPath providerId =>
    setSource .gitea "GITEA"
      [("gitea_repository", .text repository), ("gitea_owner", .text owner),
        ("gitea_branch", optionalText branch),
        ("gitea_build_path", rootPath buildPath),
        ("gitea_provider_id", optionalInteger providerId)]
  | .bitbucket repository slug owner branch buildPath providerId =>
    setSource .bitbucket "BITBUCKET"
      [("bitbucket_repository", .text repository),
        ("bitbucket_repository_slug", optionalText slug),
        ("bitbucket_owner", .text owner),
        ("bitbucket_branch", optionalText branch),
        ("bitbucket_build_path", rootPath buildPath),
        ("bitbucket_provider_id", optionalInteger providerId)]
  | .docker image username password registryUrl =>
    setSource .docker "DOCKER"
      [("docker_image", .text image),
        ("docker_username", optionalText username),
        ("docker_password", optionalText password),
        ("registry_url", optionalText registryUrl)]
  | .git url branch buildPath sshKeyId =>
    setSource .git "GIT"
      [("custom_git_url", .text url),
        ("custom_git_branch", optionalText branch),
        ("custom_git_build_path", rootPath buildPath),
        ("custom_git_ssh_key_id", optionalInteger sshKeyId)]
  | .drop buildPath =>
    setSource .drop "DROP" [("drop_build_path", rootPath buildPath)]

/-- `ApplicationRepository::patch_build_config`. -/
def PatchBuildConfig.assignments (body : PatchBuildConfig) : Columns :=
  coalesced
    [("build_args", body.buildArgs.map .text),
      ("build_secrets", body.buildSecrets.map .text),
      ("dockerfile", body.dockerfile.map .text),
      ("docker_context_path", body.dockerContextPath.map .text),
      ("docker_build_stage", body.dockerBuildStage.map .text),
      ("publish_directory", body.publishDirectory.map .text),
      ("is_static_spa", body.isStaticSpa.map .integer),
      ("create_env_file", body.createEnvFile.map .integer),
      ("railpack_version", body.railpackVersion.map .text),
      ("heroku_version", body.herokuVersion.map .text),
      ("command", body.command.map .text),
      ("args", body.args.map .text),
      ("build_path", body.buildPath.map .text),
      ("clean_cache", body.cleanCache.map .integer),
      ("enable_submodules", body.enableSubmodules.map .integer),
      ("watch_paths", body.watchPaths.map .text)]

/-- `ApplicationRepository::patch_resource_config`. -/
def PatchResourceConfig.assignments (body : PatchResourceConfig) : Columns :=
  [("memory_reservation", optionalText body.memoryReservation),
    ("memory_limit", optionalText body.memoryLimit),
    ("cpu_reservation", optionalText body.cpuReservation),
    ("cpu_limit", optionalText body.cpuLimit)] ++
    coalesced [("replicas", body.replicas.map .integer)]

def flag (set : Bool) : Value :=
  .integer (if set then 1 else 0)

/-- `ApplicationRepository::update_preview_config`. -/
def PatchPreviewConfig.assignments (body : PatchPreviewConfig) : Columns :=
  [("preview_env", optionalText body.previewEnv),
    ("preview_build_args", optionalText body.previewBuildArgs),
    ("preview_build_secrets", optionalText body.previewBuildSecrets),
    ("preview_labels", optionalText body.previewLabels),
    ("preview_wildcard", optionalText body.previewWildcard),
    ("preview_port", .integer body.previewPort),
    ("preview_https", flag body.previewHttps),
    ("preview_path", .text body.previewPath),
    ("preview_certificate_type", .text body.previewCertificateType.asStr),
    ("preview_custom_cert_resolver",
      optionalText body.previewCustomCertResolver),
    ("preview_limit", .integer body.previewLimit),
    ("is_preview_deployments_active", flag body.active),
    ("preview_require_collaborator_permissions",
      flag body.requireCollaboratorPermissions)]

/-- The assignments of `ApplicationService::patch`: what is not given keeps its
value. -/
def PatchApplication.assignments (body : PatchApplication) : Columns :=
  coalesced
    [("name", body.name.map .text),
      ("description", body.description.map .text),
      ("build_type", body.buildType.map .text),
      ("trigger_type", body.triggerType.map .text),
      ("env_var", body.envVar.map .text),
      ("icon", body.icon.map .text),
      ("server_id", body.serverId.map .integer),
      ("build_server_id", body.buildServerId.map .integer),
      ("registry_id", body.registryId.map .integer),
      ("network_ids", body.networkIds.map .text),
      ("detach_rustploy_network", body.detachRustployNetwork.map .integer)]

end OpenOxide.Tenancy
