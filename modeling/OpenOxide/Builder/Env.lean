import Mathlib.Logic.Function.Basic
import OpenOxide.Text.Lines
import OpenOxide.Text.Strings

/-!
# Environment variables of a build

The variables of an application, a compose project or a database are a template
over those of its project, which are a template over those of its environment.
Each level is rendered as a whole and then read line by line.
-/

namespace OpenOxide.Builder

abbrev Vars := String → Option String

/-- The template engine. -/
structure Jinja where
  Template : Type
  addTemplate : String → Option Template
  render : Template → List (String × Vars) → Option String

/-- How a function ends without a result. -/
inductive Fault where
  | panic

def unwrap {α : Type} : Option α → Except Fault α
  | some value => .ok value
  | none => .error .panic

/-- A later line replaces an earlier one with its name. -/
def convertEnvToMap (text : String) : Vars :=
  ((Text.lines text.toList).filterMap fun line =>
    Text.splitOnce '=' (String.ofList line)).foldl
      (fun vars parts =>
        Function.update vars (Text.trim parts.1) (some (Text.trim parts.2)))
      fun _ => none

def environmentMap (env : Vars) : List (String × Vars) :=
  [("enviroment", env), ("ENVIROMENT", env)]

def envProjectMap (env proj : Vars) : List (String × Vars) :=
  environmentMap env ++ [("PROJECT", proj), ("project", proj)]

variable (jinja : Jinja)

def fixEnv (map : List (String × Vars)) (text : String) :
    Except Fault String := do
  let template ← unwrap (jinja.addTemplate text)
  unwrap (jinja.render template map)

def generateEnvApp (dbEnv dbProject dbApp : String) : Except Fault Vars := do
  let map := convertEnvToMap dbEnv
  let proEnv ← fixEnv jinja (environmentMap map) dbProject
  let appEnv ← fixEnv jinja (envProjectMap map (convertEnvToMap proEnv)) dbApp
  pure (convertEnvToMap appEnv)

/-- The texts of the environment and of the project, where both are found. -/
abbrev Levels := Option (String × String)

variable (levels : Levels)

/-- A row that is missing or cannot be read leaves nothing to return. -/
def generateEnvStored (text : Option String) : Except Fault (Option Vars) :=
  match levels, text with
  | some (env, project), some text =>
    (generateEnvApp jinja env project text).map some
  | _, _ => .ok none

def generateEnvAppWithId
    (application : Option (Option String)) : Except Fault (Option Vars) :=
  generateEnvStored jinja levels (application.map (·.getD ""))

def generateEnvCompose (compose : Option (Option String)) :
    Except Fault (Option Vars) :=
  generateEnvStored jinja levels (compose.map (·.getD ""))

def generateEnvDb (dbEnvVar : String) : Except Fault (Option Vars) :=
  generateEnvStored jinja levels (some dbEnvVar)

/-- The engine accepts the text and renders it. -/
def rendered (map : List (String × Vars)) (text : String) : Option String :=
  (jinja.addTemplate text).bind (jinja.render · map)

/-- The project's text renders over the environment, and the text over both. -/
def Renders (env project text : String) : Prop :=
  ((rendered jinja (environmentMap (convertEnvToMap env)) project).bind
    fun proEnv => rendered jinja (envProjectMap (convertEnvToMap env)
      (convertEnvToMap proEnv)) text).isSome = true

/-- All texts are found, and they do not render. -/
def Unrendered (text : Option String) : Prop :=
  ∃ env project own, levels = some (env, project) ∧ text = some own ∧
    ¬ Renders jinja env project own

variable {jinja}

theorem fixEnv_eq (map : List (String × Vars)) (text : String) :
    fixEnv jinja map text = unwrap (rendered jinja map text) := by
  unfold fixEnv rendered
  cases jinja.addTemplate text <;> rfl

theorem generateEnvApp_panics_iff (env project text : String) :
    generateEnvApp jinja env project text = .error .panic ↔
      ¬ Renders jinja env project text := by
  unfold generateEnvApp Renders
  simp only [fixEnv_eq]
  cases rendered jinja (environmentMap (convertEnvToMap env)) project with
  | none => simp [unwrap, bind, Except.bind]
  | some proEnv =>
    dsimp only [unwrap, bind, Except.bind, Option.bind_some]
    generalize rendered jinja _ text = appEnv
    cases appEnv <;> simp [pure, Except.pure]

theorem generateEnvStored_panics_iff (text : Option String) :
    generateEnvStored jinja levels text = .error .panic ↔
      Unrendered jinja levels text := by
  unfold Unrendered
  rcases levels with _ | ⟨env, project⟩ <;> rcases text with _ | own
  case some.some =>
    have panics := @generateEnvApp_panics_iff jinja env project own
    rw [generateEnvStored]
    cases ran : generateEnvApp jinja env project own <;>
      simp_all [Except.map]
  all_goals simp [generateEnvStored]

/-- A call panics exactly when it finds its texts and they do not render. -/
theorem env_generation_panics_iff (jinja : Jinja) :
    (∀ env project app, generateEnvApp jinja env project app =
        .error .panic ↔ ¬ Renders jinja env project app) ∧
      (∀ levels application,
        generateEnvAppWithId jinja levels application = .error .panic ↔
          Unrendered jinja levels (application.map (·.getD ""))) ∧
      (∀ levels compose,
        generateEnvCompose jinja levels compose = .error .panic ↔
          Unrendered jinja levels (compose.map (·.getD ""))) ∧
      ∀ levels text, generateEnvDb jinja levels text = .error .panic ↔
        Unrendered jinja levels (some text) :=
  ⟨generateEnvApp_panics_iff, fun _ _ => generateEnvStored_panics_iff _ _,
    fun _ _ => generateEnvStored_panics_iff _ _,
    fun _ _ => generateEnvStored_panics_iff _ _⟩

/-- An engine that knows no expression and refuses a text that opens one. -/
def plainJinja : Jinja where
  Template := String
  addTemplate text :=
    if Text.contains "\x7b\x7b" text then none else some text
  render text _ := some text

/-- A secret of the project begins with two braces. -/
theorem open_braces_panic :
    generateEnvApp plainJinja "" "SECRET=\x7b\x7bpass" "PORT=80" =
      .error .panic := by
  rfl

end OpenOxide.Builder
