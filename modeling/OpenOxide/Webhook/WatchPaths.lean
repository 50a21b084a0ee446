import OpenOxide.Text.Json
import OpenOxide.Text.Strings

/-!
# Watch paths

Rules that say which changed paths make a push deploy a resource.  The rules are
stored as a text, either a JSON array of strings or parts between commas and line
ends.
-/

namespace OpenOxide.Webhook

open Text

structure Rule where
  pattern : String
  exclude : Bool

def normalize (value : String) : String :=
  replace "\\" "/" (trimStartMatches "/" (trimStartMatches "./" (trim value)))

def trimEndSlashes (value : String) : String :=
  String.ofList ((value.toList.reverse.dropWhile (· == '/')).reverse)

def parseRule (value : String) : Option Rule :=
  let value := trim value
  let (exclude, value) :=
    match stripStart "!" value with
    | some value => (true, value)
    | none => (false, value)
  let pattern := trimEndSlashes (normalize value)
  if pattern.isEmpty then none else some ⟨pattern, exclude⟩

/-- The strings of an array of strings. -/
def itemTexts : JsonItems → Except String (List String)
  | .nil => .ok []
  | .cons (.string text) items => (itemTexts items).map (text :: ·)
  | .cons _ _ => .error "watch_paths entries must be strings"

/-- What the JSON reader makes of a text. -/
abbrev JsonReader := String → Except String Json

def ruleTexts (readJson : JsonReader) (raw : String) :
    Except String (List String) :=
  if startsWith "[" raw then
    match readJson raw with
    | .error error =>
      .error ("watch_paths must be a JSON string array: " ++ error)
    | .ok (.array items) => itemTexts items
    | .ok _ => .error "watch_paths must be a JSON string array"
  else
    .ok (((split (fun letter => letter == ',' || letter == '\n') raw).map
      trim).filter fun value => !value.isEmpty)

def parseRules (readJson : JsonReader) (raw : Option String) :
    Except String (List Rule) :=
  match (raw.map trim).filter fun value => !value.isEmpty with
  | none => .ok []
  | some raw => (ruleTexts readJson raw).map (List.filterMap parseRule)

/-- The matcher of patterns with wildcards, on bytes in the source.  The fuel is
an upper bound of the letters of the pattern and the path together. -/
def globMatch : Nat → List Char → List Char → Bool
  | 0, _, _ => false
  | _ + 1, [], path => path.isEmpty
  | fuel + 1, '*' :: '*' :: rest, path =>
    let later :=
      match rest with
      | '/' :: later => later
      | later => later
    globMatch fuel later path ||
      match path with
      | [] => false
      | _ :: path => globMatch fuel ('*' :: '*' :: rest) path
  | fuel + 1, '*' :: rest, path =>
    globMatch fuel rest path ||
      match path with
      | [] => false
      | letter :: path =>
        letter != '/' && globMatch fuel ('*' :: rest) path
  | fuel + 1, head :: rest, path =>
    match path with
    | [] => false
    | letter :: path => letter == head && globMatch fuel rest path

def matchesPattern (pattern path : String) : Bool :=
  if !pattern.toList.contains '*' then
    path == pattern || startsWith (pattern ++ "/") path
  else
    globMatch (pattern.toList.length + path.toList.length + 1) pattern.toList
      path.toList

/-- The last rule that matches decides. -/
def included (rules : List Rule) (path : String) : Bool :=
  rules.foldl (fun included rule =>
    if matchesPattern rule.pattern path then !rule.exclude else included) false

def shouldDeploy (readJson : JsonReader) (rawRules : Option String)
    (changedPaths : List String) : Except String Bool :=
  (parseRules readJson rawRules).map fun rules =>
    rules.isEmpty || changedPaths.isEmpty ||
      changedPaths.any fun path => included rules (normalize path)

end OpenOxide.Webhook
