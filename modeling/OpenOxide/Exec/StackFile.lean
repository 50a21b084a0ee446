import OpenOxide.Exec.Git
import OpenOxide.Exec.Pipeline
import OpenOxide.Shell.Block

/-!
# The file of a stack

`deploy_stack` gives the builder of `docker compose config` to the writer of a
file.  The writer takes the text of a command for the content of the file, so the
step of the script prints the command line and never runs it.
-/

namespace OpenOxide.Exec

open Shell

/-- `compose_projects.source_type`. -/
inductive ComposeSource where
  | raw
  | git
  | drop

/-- The paths of a stack.  That of the rendered file starts with the directory
of the panel. -/
structure ComposeSpec where
  stackName : String
  source : ComposeSource
  workDirectory : String
  composePath : String
  envFile : String
  renderedStackFile : String
  fixed : renderedStackFile.toList.head? ≠ some '$'

variable (spec : ComposeSpec)

def ComposeSpec.composeFilePath : String :=
  match spec.source with
  | .raw => spec.composePath
  | _ => String.ofList
      (spec.workDirectory.toList.reverse.dropWhile (· == '/')).reverse ++ "/" ++
    Text.trimStartMatches "/" (Text.trimStartMatches "./" spec.composePath)

def buildBuilder : ArgBuilder :=
  (((ArgBuilder.cmd ["compose", "build"]).insertPair 1 "--project-name"
    spec.stackName).insertPair 1 "--env-file" spec.envFile).insertPair 1
    "--file" spec.composeFilePath

def configBuilder : ArgBuilder :=
  ((ArgBuilder.cmd ["compose", "config"]).insertPair 1 "--env-file"
    spec.envFile).insertPair 1 "--file" spec.composeFilePath

def deployBuilder : ArgBuilder :=
  ((((ArgBuilder.cmd ["stack", "deploy"]).pair "--compose-file"
    spec.renderedStackFile).flag "--with-registry-auth").pair
    "--resolve-image" "never").push spec.stackName

def printfBEscape (content : List Char) : List Char :=
  content.flatMap fun
    | '\\' => ['\\', '\\']
    | '\n' => ['\\', 'n']
    | '\r' => ['\\', 'r']
    | '\t' => ['\\', 't']
    | letter => [letter]

/-- The step that writes a file, as a line of the script. -/
def writeCommand (path content : String) : String :=
  if content.toList.head? = some '$' then
    "printf '%s' " ++ escapeArg content ++ " > " ++ escapeArg path
  else
    "printf '%b' " ++
      shellSingleQuote (String.ofList (printfBEscape content.toList)) ++ " > " ++
      escapeArg path

/-- The steps of the script of `deploy_stack`. -/
def deploySteps : List String :=
  [(buildBuilder spec).preview,
    writeCommand spec.renderedStackFile (configBuilder spec).preview,
    (deployBuilder spec).preview]

/-- The pipeline, with the commands that a cgroup adds at its end. -/
def deployPipeline (cgroup : List String) : ScriptPipeline :=
  (deploySteps spec ++ cgroup).foldl ScriptPipeline.cmd .new

/-- What `printf` makes of an operand of `%b` with these escapes. -/
def printfB : List Char → Option (List Char)
  | [] => some []
  | '\\' :: '\\' :: rest => (printfB rest).map ('\\' :: ·)
  | '\\' :: 'n' :: rest => (printfB rest).map ('\n' :: ·)
  | '\\' :: 'r' :: rest => (printfB rest).map ('\r' :: ·)
  | '\\' :: 't' :: rest => (printfB rest).map ('\t' :: ·)
  | letter :: rest =>
    if letter = '\\' then none else (printfB rest).map (letter :: ·)

/-- The file that a command writes, and its content. -/
def Simple.written (simple : Simple) : Option (String × String) :=
  match simple.redirections, simple.words.mapM literal with
  | [⟨[], .great, target⟩], some ["printf", "%b", operand] => do
      let path ← literal target
      let content ← printfB operand.toList
      pure (path, String.ofList content)
  | _, _ => none

/-- The file that a text of one command writes. -/
def writtenFile (text : String) : Option (String × String) :=
  match parse text with
  | some [.simple simple] => Simple.written simple
  | _ => none

/-- The file that the second step leaves behind for the third. -/
def stackFile : Option (String × String) :=
  (deploySteps spec)[1]?.bind writtenFile

theorem printfB_printfBEscape (content : List Char) :
    printfB (printfBEscape content) = some content := by
  induction content with
  | nil => rfl
  | cons letter content induction =>
    rw [printfBEscape, List.flatMap_cons]
    change printfB (_ ++ printfBEscape content) = _
    split
    · simp [printfB, induction]
    · simp [printfB, induction]
    · simp [printfB, induction]
    · simp [printfB, induction]
    · rename_i plain _ _ _
      rw [List.singleton_append, printfB, if_neg plain, induction]
      · rfl
      all_goals simp_all

/-- The step as it is written. -/
def writing (path content : String) : Script where
  first := ⟨bare "printf", [.word (enclosed "%b"),
    .word (enclosed (String.ofList (printfBEscape content.toList))),
    .output (enclosed path)]⟩
  rest := []

theorem written_writing (path content : String) :
    Simple.written (writing path content).first.simple =
      some (path, content) := by
  have read : (writing path content).first.simple =
      ⟨[], [plainWord ['p', 'r', 'i', 'n', 't', 'f'], quotedWord ['%', 'b'],
        quotedWord (printfBEscape content.toList)],
        [⟨[], .great, quotedWord path.toList⟩]⟩ := by
    simp only [writing, bare, enclosed, String.reduceToList,
      String.toList_ofList]
    simp only [Command.simple, List.foldl_cons, List.foldl_nil,
      Element.extend, Arg.word, List.flatMap_cons, List.flatMap_nil,
      List.append_nil, Segment.word]
    rfl
  have program :
      literal (plainWord ['p', 'r', 'i', 'n', 't', 'f']) = some "printf" := by
    decide +kernel
  rw [read, Simple.written]
  simp [program, printfB_printfBEscape]

theorem text_writing {path content : String}
    (fixed : path.toList.head? ≠ some '$')
    (plain : content.toList.head? ≠ some '$') :
    (writeCommand path content).toList = (writing path content).text := by
  rw [writeCommand, if_neg plain, escapeArg, if_neg fixed]
  simp [writing, Script.text, Command.text, Element.text, Arg.text,
    Segment.text, bare, enclosed, singleQuote, escapeQuotes]

theorem config_plain :
    (configBuilder spec).preview.toList.head? ≠ some '$' := by
  rw [preview_text, assembled_text]
  exact (by decide : some 'd' ≠ some '$')

theorem stackFile_eq : stackFile spec =
      some (spec.renderedStackFile, (configBuilder spec).preview) := by
  have step : (deploySteps spec)[1]? = some (writeCommand
      spec.renderedStackFile (configBuilder spec).preview) := rfl
  rw [stackFile, step, Option.bind_some, writtenFile,
    parse_script (text_writing spec.fixed (config_plain spec)) rfl]
  exact written_writing _ _

/-- The script runs the first step and then the second, as it was parsed. -/
theorem stackFile_compiled (cgroup : List String)
    (plain : ∀ arg ∈ (buildBuilder spec).args, isPlainArg arg = true) :
    ∃ text later before simple,
      (deployPipeline spec cgroup).compile.toList = text ++ later ∧
      Span {} text {} (before ++ [.simple simple, .newline]) ∧
      invocations before = some [⟨[], ["set", "-e"]⟩,
        ⟨[], "docker" :: (buildBuilder spec).args⟩] ∧
      Simple.written simple = stackFile spec := by
  have first : Block {} "set -e\n".toList {} [⟨[], ["set", "-e"]⟩] :=
    @block_command ⟨bare "set", [.word (bare "-e")]⟩ (by decide +kernel) _
      (by decide +kernel) .newline {}
  obtain ⟨before, started, invoked⟩ := first.append
    (block_assembled assembles_docker plain .newline {})
  have second := @span_command
    (writing spec.renderedStackFile (configBuilder spec).preview).first rfl
    .newline {}
  refine ⟨_, (deployBuilder spec).preview.toList ++
    (compileSteps false 3 (cgroup.map .sequential) ++ ['\n']), before, _, ?_,
    started.append second, invoked, ?_⟩
  · have written := text_writing spec.fixed (config_plain spec)
    rw [Script.text, writing, List.flatMap_nil, List.append_nil] at written
    rw [deployPipeline, ScriptPipeline.new, ScriptPipeline.foldl_cmd,
      List.nil_append, compile_steps, deploySteps, List.cons_append,
      List.cons_append, List.cons_append, List.nil_append]
    simp only [List.map_cons, compileSteps, compileStep, written, preview_text,
      writing]
    simp [lineBreak, stepHeader, Separator.text]
  · rw [stackFile_eq]
    exact written_writing _ _

/-- The file of a stack holds the command line of the configuration step. -/
theorem stackFile_iff (spec : ComposeSpec) (printed : String) :
    stackFile spec = some (spec.renderedStackFile, printed) ↔
      printed = (configBuilder spec).preview := by
  rw [stackFile_eq, Option.some.injEq, Prod.mk.injEq]
  exact ⟨fun same => same.2.symm, fun same => ⟨rfl, same.symm⟩⟩

def shopSpec : ComposeSpec where
  stackName := "shop"
  source := .raw
  workDirectory := "/d/source"
  composePath := "/d/compose.yml"
  envFile := "/d/.env"
  renderedStackFile := "/d/rendered-stack.yml"
  fixed := by decide

theorem stack_file_holds_command :
    stackFile shopSpec = some ("/d/rendered-stack.yml",
        "docker compose --file /d/compose.yml --env-file /d/.env config") ∧
      stackFile shopSpec ≠ some ("/d/rendered-stack.yml", "services:\n") := by
  have content := stackFile_eq shopSpec
  constructor
  · exact content
  · intro rendered
    have same := content.symm.trans rendered
    exact absurd (Prod.mk.inj (Option.some.inj same)).2 (by decide)

end OpenOxide.Exec
