import OpenOxide.Exec.Git
import OpenOxide.Exec.Pipeline
import OpenOxide.Shell.Cover

/-!
# Syncing a repository

The sync of a provider's source is one script: it fetches and resets when the
repository is there, clones it otherwise, and updates its submodules when asked
to.
-/

namespace OpenOxide.Provider

open Shell Exec

/-- The parent of a path, as the standard library gives it: the beginning of
the path before its last component. -/
structure PathParent where
  parent : String → Option String
  beginning : ∀ path {result}, parent path = some result →
    result.toList <+: path.toList

structure ProviderSyncBuilder where
  url : String
  destination : String
  auth : Option GitAuth := none
  submodules : Bool := false

namespace ProviderSyncBuilder

variable (paths : PathParent) (builder : ProviderSyncBuilder) (branch : String)

def git : GitCli :=
  GitCli.newLocal.withRepository builder.destination

def setUrl : List String :=
  (remoteSetUrl "origin" builder.url).build

def fetch : List String :=
  (withAuthOpt (fetchPrune "origin" branch) builder.auth).build

def reset : List String :=
  (resetHard "FETCH_HEAD").build

def clone : List String :=
  let clone : CloneBuilder :=
    { url := builder.url, destination := some builder.destination }
  let clone := (clone.branch branch).singleBranch
  CloneBuilder.finalize
    { clone with args := withAuthOpt clone.args builder.auth } |>.build

def submoduleArgs : List String :=
  (withAuthOpt submoduleUpdate builder.auth).build

def thenBranch : ScriptPipeline :=
  ((ScriptPipeline.new.cmd (builder.git.compileCommand builder.setUrl)).cmd
    (builder.git.compileCommand (builder.fetch branch))).cmd
    (builder.git.compileCommand reset)

def elseBranch : ScriptPipeline :=
  let pipeline := (paths.parent builder.destination).elim ScriptPipeline.new
    fun parent => ScriptPipeline.new.cmd (createDirectory parent)
  pipeline.cmd (GitCli.newLocal.compileCommandRaw (builder.clone branch))

def toScript : String :=
  let pipeline := ScriptPipeline.new.ifDirExists
    (builder.destination ++ "/.git") (builder.thenBranch branch)
    (some (builder.elseBranch paths branch))
  let pipeline :=
    if builder.submodules then
      pipeline.cmd (builder.git.compileCommand builder.submoduleArgs)
    else pipeline
  pipeline.compile

/-- The options for the credentials. -/
def authArgs : List String :=
  builder.auth.elim [] fun auth =>
    ["-c", auth.toConfig.1 ++ "=" ++ auth.toConfig.2]

theorem fetch_eq : builder.fetch branch =
    builder.authArgs ++ ["fetch", "--prune", "origin", branch] :=
  withAuthOpt_build _ _

theorem clone_eq : builder.clone branch =
    builder.authArgs ++ ["clone", "--branch", branch, "--single-branch",
      builder.url, builder.destination] := by
  have whole : builder.clone branch = (withAuthOpt
      ⟨["clone", "--branch", branch, "--single-branch"]⟩ builder.auth).build ++
        [builder.url] ++ [builder.destination] := rfl
  rw [whole, withAuthOpt_build, authArgs]
  simp [ArgBuilder.build]

theorem submoduleArgs_eq : builder.submoduleArgs =
    builder.authArgs ++ ["submodule", "update", "--init", "--recursive"] :=
  withAuthOpt_build _ _

/-- A git builder as the executor runs it. -/
def gitInvocation (args : List String) : Invocation :=
  ⟨[], "git" :: args⟩

/-- The commands of the branches, each git command with the arguments of its
builder. -/
def intended : List Invocation :=
  [⟨[], ["set", "-e"]⟩,
    ⟨[], ["[", "-d", builder.destination ++ "/.git", "]"]⟩,
    gitInvocation (builder.git.arguments builder.setUrl),
    gitInvocation (builder.git.arguments (builder.fetch branch)),
    gitInvocation (builder.git.arguments reset)] ++
  ((paths.parent builder.destination).map fun parent =>
    (⟨[], ["mkdir", "-p", parent]⟩ : Invocation)).toList ++
  [gitInvocation (builder.clone branch)] ++
  if builder.submodules then
    [gitInvocation (builder.git.arguments builder.submoduleArgs)]
  else []

/-- A git command as a line of the script. -/
def gitLine (args : List String) : List Char :=
  ['g', 'i', 't'] ++ spaced (args.map String.toList)

theorem git_intercalate {args : List String} (nonempty : args ≠ []) :
    ("git" ++ " " ++ " ".intercalate args).toList = gitLine args := by
  cases args with
  | nil => exact absurd rfl nonempty
  | cons first rest =>
    rw [String.toList_append, toList_intercalate_blank, gitLine,
      List.map_cons, spaced_cons]
    simp

theorem compileCommand_text (args : List String) :
    (builder.git.compileCommand args).toList =
      gitLine (builder.git.arguments args) :=
  git_intercalate (by simp [git, GitCli.withRepository])

def thenText : List Char :=
  gitLine (builder.git.arguments builder.setUrl) ++ '\n' ::
    (gitLine (builder.git.arguments (builder.fetch branch)) ++ '\n' ::
      gitLine (builder.git.arguments reset))

def elseText : List Char :=
  ((paths.parent builder.destination).elim [] fun parent =>
    (createDirectory parent).toList ++ ['\n']) ++
    gitLine (builder.clone branch)

def submoduleText : List Char :=
  if builder.submodules then
    '\n' :: gitLine (builder.git.arguments builder.submoduleArgs)
  else []

/-- The lines of a branch, set in. -/
def setIn (text : List Char) : List Char :=
  Text.framed [' ', ' ', ' ', ' '] ['\n'] text

theorem branchLines_setIn {letter : Char} {text : List Char}
    (visible : Text.isWhiteSpace letter = false) :
    branchLines (letter :: text) = setIn (letter :: text) := by
  rw [branchLines, if_neg, setIn]
  · rfl
  · rw [List.all_cons, visible]
    simp

theorem thenBranch_text :
    branchLines (builder.thenBranch branch).compileInner =
      setIn (builder.thenText branch) := by
  have compiled : (builder.thenBranch branch).compileInner =
      builder.thenText branch := by
    simp [thenBranch, ScriptPipeline.cmd, ScriptPipeline.new,
      ScriptPipeline.push, ScriptPipeline.compileInner, compileSteps,
      compileStep, lineBreak, stepHeader, changeDirectory,
      compileCommand_text, thenText]
  rw [compiled, thenText, gitLine, List.append_assoc, List.cons_append]
  exact branchLines_setIn (by decide)

theorem clone_text :
    (GitCli.newLocal.compileCommandRaw (builder.clone branch)).toList =
      gitLine (builder.clone branch) :=
  git_intercalate (by simp [clone_eq])

theorem createDirectory_text (path : String) :
    (createDirectory path).toList =
      ['m', 'k', 'd', 'i', 'r', ' ', '-', 'p', ' '] ++
        (escapeArg path).toList := by
  rw [createDirectory, toList_intercalate_blank]
  simp [spaced]

theorem elseBranch_text :
    branchLines (builder.elseBranch paths branch).compileInner =
      setIn (builder.elseText paths branch) := by
  have compiled : (builder.elseBranch paths branch).compileInner =
      builder.elseText paths branch := by
    rw [elseBranch, elseText]
    cases paths.parent builder.destination with
    | none | some =>
      simp [ScriptPipeline.cmd, ScriptPipeline.new,
        ScriptPipeline.push, ScriptPipeline.compileInner, compileSteps,
        compileStep, lineBreak, stepHeader, changeDirectory, clone_text]
  rw [compiled, elseText]
  cases paths.parent builder.destination with
  | none =>
    exact branchLines_setIn (by decide)
  | some parent =>
    rw [Option.elim_some, createDirectory_text, List.append_assoc,
      List.append_assoc, List.cons_append]
    exact branchLines_setIn (by decide)

/-- What the script has before its branches. -/
def opening : List Char :=
  ['s', 'e', 't', ' ', '-', 'e', '\n', 'i', 'f', ' ', '[', ' ', '-', 'd',
    ' '] ++ (singleQuote (builder.destination ++ "/.git").toList ++
      [' ', ']', ';', ' ', 't', 'h', 'e', 'n', '\n'])

/-- What the script has after the branch for a repository that is there. -/
def closing : List Char :=
  ['e', 'l', 's', 'e', '\n'] ++ (setIn (builder.elseText paths branch) ++
    (['f', 'i'] ++ (builder.submoduleText ++ ['\n'])))

theorem toScript_text :
    (builder.toScript paths branch).toList =
      builder.opening ++ (setIn (builder.thenText branch) ++
        builder.closing paths branch) := by
  have steps : ∀ commands : List PipelineStep,
      (ScriptPipeline.compile (.mk none []
        (.ifElse ("[ -d " ++ shellSingleQuote (builder.destination ++ "/.git")
          ++ " ]") (builder.thenBranch branch)
          (some (builder.elseBranch paths branch)) :: commands)
        false false)).toList =
      builder.opening ++ (setIn (builder.thenText branch) ++
        (['e', 'l', 's', 'e', '\n'] ++
          (setIn (builder.elseText paths branch) ++
            (['f', 'i'] ++ (compileSteps false 1 commands ++ ['\n']))))) := by
    intro commands
    rw [compile_steps, compileSteps, compileStep_ifElse, thenBranch_text,
      elseBranch_text]
    simp only [opening, String.toList_append, toList_shellSingleQuote,
      String.reduceToList, List.append_assoc,
      List.cons_append, List.nil_append]
  rw [toScript, closing, submoduleText]
  cases builder.submodules with
  | false =>
    exact steps []
  | true =>
    rw [if_pos rfl, if_pos rfl, ← compileCommand_text]
    refine (steps [_]).trans ?_
    simp [compileSteps, compileStep, lineBreak, stepHeader]

end ProviderSyncBuilder

end OpenOxide.Provider
