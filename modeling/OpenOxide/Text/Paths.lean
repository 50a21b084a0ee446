import Mathlib.Data.List.Basic

/-!
# Paths

A path is a text with slashes in it.  Its components are the names between the
slashes; empty names and single dots are skipped, except for a dot that a
relative path begins with.  A path goes on with another one unless that one is
absolute.
-/

namespace OpenOxide.Text

/-- `std::path::Component` on Unix. -/
inductive Component where
  | rootDir
  | curDir
  | parentDir
  | normal (name : List Char)
deriving DecidableEq

variable (path : List Char)

def isAbsolute : Bool :=
  path.head? == some '/'

/-- What a name between two slashes stands for. -/
def component? (name : List Char) : Option Component :=
  if name = [] ∨ name = ['.'] then none
  else if name = ['.', '.'] then some .parentDir
  else some (.normal name)

def names : List (List Char) :=
  path.splitOnP (· == '/')

def components : List Component :=
  let first : List Component :=
    if isAbsolute path then [.rootDir]
    else if (names path).head? = some ['.'] then [.curDir]
    else []
  first ++ (names path).filterMap component?

def join (base path : List Char) : List Char :=
  if isAbsolute path then path
  else if base = [] ∨ base.getLast? = some '/' then base ++ path
  else base ++ '/' :: path

/-- The components of the base come first. -/
def isInside (base path : List Char) : Bool :=
  (components base).isPrefixOf (components path)

def fileName : Option (List Char) :=
  match (components path).getLast? with
  | some (.normal name) => some name
  | _ => none

/-- What a name has after its last dot, when something is before that dot. -/
def extensionOf (name : List Char) : Option (List Char) :=
  let after := (name.reverse.takeWhile (· != '.')).reverse
  if after.length + 1 < name.length then some after else none

def extension : Option (List Char) :=
  (fileName path).bind extensionOf

variable {name : List Char}

theorem components_append (single : '/' ∉ name)
    {last : Component} (named : component? name = some last) :
    (components (path ++ '/' :: name)).getLast? = some last := by
  have split : names (path ++ '/' :: name) = names path ++ [name] := by
    have alone : name.splitOnP (· == '/') = [name] := by
      apply List.splitOnP_eq_singleton
      intro letter member
      rw [beq_eq_false_iff_ne]
      rintro rfl
      exact single member
    rw [names, List.splitOnP_append_cons _ _ (by simp), alone, names]
  rw [components, split, List.filterMap_append]
  simp [named]

theorem fileName_append (single : '/' ∉ name)
    (named : component? name = some (.normal name)) :
    fileName (path ++ '/' :: name) = some name := by
  rw [fileName, components_append path single named]

theorem join_append (base : List Char) {path name : List Char}
    (relative : isAbsolute (path ++ '/' :: name) = false) :
    ∃ before, join base (path ++ '/' :: name) = before ++ '/' :: name := by
  rw [join, if_neg (by simp [relative])]
  split
  · exact ⟨base ++ path, by rw [List.append_assoc]⟩
  · exact ⟨base ++ '/' :: path, by simp⟩

end OpenOxide.Text
