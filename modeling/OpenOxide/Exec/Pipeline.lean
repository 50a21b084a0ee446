import OpenOxide.Exec.Command
import OpenOxide.Text.Lines
import OpenOxide.Text.Strings

/-!
# Script pipelines

A pipeline is a list of steps that compiles to one script.  The branches of a
conditional step are compiled on their own, and their lines are set four blanks
further in.
-/

namespace OpenOxide.Exec

mutual

/-- A step and how it is joined to those before it. -/
inductive PipelineStep where
  | sequential (command : String)
  | and (command : String)
  | or (command : String)
  | pipe (command : String)
  | ifElse (condition : String) (thenBranch : ScriptPipeline)
      (elseBranch : Option ScriptPipeline)

/-- A script in the making. -/
inductive ScriptPipeline where
  | mk (workingDir : Option String) (envVars : List (String × String))
      (steps : List PipelineStep) (traced verboseHeaders : Bool)

end

namespace ScriptPipeline

def new : ScriptPipeline :=
  .mk none [] [] false false

def push (step : PipelineStep) : ScriptPipeline → ScriptPipeline
  | .mk workingDir envVars steps traced verboseHeaders =>
    .mk workingDir envVars (steps ++ [step]) traced verboseHeaders

def cmd (pipeline : ScriptPipeline) (command : String) : ScriptPipeline :=
  pipeline.push (.sequential command)

def ifElse (pipeline : ScriptPipeline) (condition : String)
    (thenBranch : ScriptPipeline) (elseBranch : Option ScriptPipeline) :
    ScriptPipeline :=
  pipeline.push (.ifElse condition thenBranch elseBranch)

def ifDirExists (pipeline : ScriptPipeline) (path : String)
    (thenBranch : ScriptPipeline) (elseBranch : Option ScriptPipeline) :
    ScriptPipeline :=
  pipeline.ifElse ("[ -d " ++ shellSingleQuote path ++ " ]") thenBranch
    elseBranch

end ScriptPipeline

def exportLine (entry : String × String) : List Char :=
  "export ".toList ++ entry.1.toList ++ '=' ::
    (shellSingleQuote entry.2).toList ++ ['\n']

def changeDirectory (workingDir : Option String) : List Char :=
  workingDir.elim [] fun dir =>
    "cd ".toList ++ (shellSingleQuote dir).toList ++ ['\n']

/-- The line end before every step that stands on a line of its own. -/
def lineBreak (index : Nat) : List Char :=
  if index > 0 then ['\n'] else []

def stepHeader (verboseHeaders : Bool) (index : Nat) : List Char :=
  if verboseHeaders then
    "echo '=== [Step ".toList ++ (toString (index + 1)).toList ++
      "] ==='\n".toList
  else []

/-- A branch, with a command that does nothing in place of an empty one. -/
def branchLines (compiled : List Char) : List Char :=
  if compiled.all Text.isWhiteSpace then "    :\n".toList
  else Text.framed "    ".toList ['\n'] compiled

mutual

def ScriptPipeline.compileInner : ScriptPipeline → List Char
  | .mk workingDir envVars steps _ verboseHeaders =>
    envVars.flatMap exportLine ++ changeDirectory workingDir ++
      compileSteps verboseHeaders 0 steps

def compileSteps (verboseHeaders : Bool) (index : Nat) :
    List PipelineStep → List Char
  | [] => []
  | step :: steps =>
    compileStep verboseHeaders index step ++
      compileSteps verboseHeaders (index + 1) steps

def compileStep (verboseHeaders : Bool) (index : Nat) :
    PipelineStep → List Char
  | .sequential command =>
    lineBreak index ++ stepHeader verboseHeaders index ++ command.toList
  | .and command => " && ".toList ++ command.toList
  | .or command => " || ".toList ++ command.toList
  | .pipe command => " | ".toList ++ command.toList
  | .ifElse condition thenBranch elseBranch =>
    lineBreak index ++ "if ".toList ++ condition.toList ++
      "; then\n".toList ++ branchLines thenBranch.compileInner ++
      compileElse elseBranch ++ "fi".toList

def compileElse : Option ScriptPipeline → List Char
  | none => []
  | some pipeline =>
    "else\n".toList ++ branchLines pipeline.compileInner

end

def ScriptPipeline.trace : ScriptPipeline → Bool
  | .mk _ _ _ traced _ => traced

def ScriptPipeline.compile (pipeline : ScriptPipeline) : String :=
  String.ofList ("set -e\n".toList ++
    (if pipeline.trace then "set -x\n".toList else []) ++
    pipeline.compileInner ++ ['\n'])

theorem ScriptPipeline.compile_text (pipeline : ScriptPipeline) :
    pipeline.compile.toList = "set -e\n".toList ++
      (if pipeline.trace then "set -x\n".toList else []) ++
      pipeline.compileInner ++ ['\n'] :=
  String.toList_ofList

theorem compile_steps (steps : List PipelineStep) :
    (ScriptPipeline.compile (.mk none [] steps false false)).toList =
      "set -e\n".toList ++ (compileSteps false 0 steps ++ ['\n']) := by
  have inner : ScriptPipeline.compileInner (.mk none [] steps false false) =
      compileSteps false 0 steps := by
    rw [ScriptPipeline.compileInner, changeDirectory, Option.elim_none,
      List.flatMap_nil, List.append_nil, List.nil_append]
  have silent : ScriptPipeline.trace (.mk none [] steps false false) = false :=
    rfl
  rw [ScriptPipeline.compile_text, inner, silent, if_neg Bool.false_ne_true,
    List.append_nil, List.append_assoc]

theorem ScriptPipeline.foldl_cmd (commands : List String)
    (steps : List PipelineStep) :
    commands.foldl cmd (.mk none [] steps false false) =
      .mk none [] (steps ++ commands.map .sequential) false false := by
  induction commands generalizing steps with
  | nil => rw [List.map_nil, List.append_nil]; rfl
  | cons command commands induction =>
    rw [List.map_cons, List.append_cons]
    exact induction _

theorem compileStep_ifElse (verboseHeaders : Bool) (condition : String)
    (thenBranch elseBranch : ScriptPipeline) :
    compileStep verboseHeaders 0
        (.ifElse condition thenBranch (some elseBranch)) =
      "if ".toList ++ (condition.toList ++ ("; then\n".toList ++
        (branchLines thenBranch.compileInner ++ ("else\n".toList ++
          (branchLines elseBranch.compileInner ++ "fi".toList))))) := by
  rw [compileStep, compileElse, lineBreak, if_neg (Nat.lt_irrefl 0)]
  simp only [List.nil_append, List.append_assoc]

end OpenOxide.Exec
