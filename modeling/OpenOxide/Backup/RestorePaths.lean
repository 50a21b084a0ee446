import OpenOxide.Text.Paths
import OpenOxide.Text.Strings

/-!
# Paths of a restore

An archive to restore has to lie in the backup directory, and a database to roll
back to in the base directory.  Both are compared by the components of the path
as it is written, and `..` is one of them.
-/

namespace OpenOxide.Backup

open Text

def isWithin (root value : String) : Bool :=
  isAbsolute value.toList && isInside root.toList value.toList

def validateLocalArchivePath (base value : String) : Except String Unit :=
  if isWithin (base ++ "/backups") value &&
      ".tar.gz".toList.isSuffixOf value.toList then .ok ()
  else .error
    "archive must be a .tar.gz file inside the OpenOxide backup directory"

/-- The check of `stage_rollback`. -/
def validateRecoveryDatabase (base value : String) : Except String Unit :=
  if isWithin base value && (fileName value.toList).any fun name =>
      contains ".pre-restore-" (String.ofList name) then .ok ()
  else .error "recovery database must be a OpenOxide pre-restore snapshot"

/-- What a local path is asked for. -/
inductive Staging where
  | restore
  | rollback

def Staging.root (base : String) : Staging → String
  | restore => base ++ "/backups"
  | rollback => base

def Staging.validate (base value : String) : Staging → Except String Unit
  | restore => validateLocalArchivePath base value
  | rollback => validateRecoveryDatabase base value

/-- One component further; the parent of the root is the root. -/
def enter (names : List (List Char)) : Component → List (List Char)
  | .normal name => names ++ [name]
  | .parentDir => names.dropLast
  | .rootDir | .curDir => names

def steps (path : String) : List Component :=
  (names path.toList).filterMap component?

/-- The names from the root to the file of an absolute path. -/
def denoted (path : String) : List (List Char) :=
  (steps path).foldl enter []

/-- The levels that are climbed in all, and the names entered from there. -/
def wander (reached : Nat × List (List Char)) :
    Component → Nat × List (List Char)
  | .normal name => (reached.1, reached.2 ++ [name])
  | .parentDir =>
    if reached.2 = [] then (reached.1 + 1, [])
    else (reached.1, reached.2.dropLast)
  | .rootDir | .curDir => reached

/-- The names of the root that are left are entered again. -/
def returns (root value : String) : Bool :=
  let own := denoted root
  let reached := ((steps value).drop (steps root).length).foldl wander (0, [])
  (own.drop (own.length - reached.1)).isPrefixOf reached.2

theorem enter_wander (names : List (List Char))
    (reached : Nat × List (List Char)) (component : Component) :
    enter (names.take (names.length - reached.1) ++ reached.2) component =
      names.take (names.length - (wander reached component).1) ++
        (wander reached component).2 := by
  cases component with
  | normal name => simp [enter, wander]
  | parentDir =>
    rw [enter, wander]
    split
    next empty =>
      rw [empty, List.append_nil, List.append_nil, List.dropLast_eq_take,
        List.take_take]
      congr 1
      simp
      omega
    next entered => exact List.dropLast_append_of_ne_nil entered
  | rootDir | curDir => rfl

theorem foldl_enter (names : List (List Char)) (rest : List Component)
    (reached : Nat × List (List Char)) :
    rest.foldl enter (names.take (names.length - reached.1) ++ reached.2) =
      names.take (names.length - (rest.foldl wander reached).1) ++
        (rest.foldl wander reached).2 := by
  induction rest generalizing reached with
  | nil => rfl
  | cons component rest induction =>
    rw [List.foldl_cons, enter_wander, induction, List.foldl_cons]

/-- A path that begins like the root goes on from there. -/
theorem steps_of_isWithin {root value : String}
    (within : isWithin root value = true) :
    ∃ rest, steps value = steps root ++ rest := by
  rw [isWithin, Bool.and_eq_true, isInside, List.isPrefixOf_iff_prefix,
    components, components] at within
  obtain ⟨absolute, start⟩ := within
  rw [if_pos absolute] at start
  split at start
  · obtain ⟨rest, whole⟩ := (List.prefix_append_right_inj _).mp start
    exact ⟨rest, whole.symm⟩
  · split at start
    · simp at start
    have named : .rootDir ∉ steps root := by
      intro member
      obtain ⟨name, _, found⟩ := List.mem_filterMap.mp member
      unfold component? at found
      split at found
      · cases found
      · split at found <;> cases found
    change [] ++ steps root <+: _ at start
    cases own : steps root with
    | nil => exact ⟨_, rfl⟩
    | cons first more =>
      rw [List.nil_append, own] at start
      rw [own, (List.cons_prefix_cons.mp start).1] at named
      simp at named

/-- An accepted path denotes a file under its root if and only if it enters the
names of the root again that it leaves. -/
theorem accepted_path_confined_iff (staging : Staging) (base value : String)
    (accepted : staging.validate base value = .ok ()) :
    denoted (staging.root base) <+: denoted value ↔
      returns (staging.root base) value = true := by
  have within : isWithin (staging.root base) value = true := by
    cases staging with
    | restore | rollback =>
      simp only [Staging.validate, validateLocalArchivePath,
        validateRecoveryDatabase] at accepted
      split at accepted
      next passed => exact (Bool.and_eq_true_iff.mp passed).1
      next => cases accepted
  obtain ⟨rest, whole⟩ := steps_of_isWithin within
  generalize staging.root base = root at *
  have moved := foldl_enter (denoted root) rest (0, [])
  rw [Nat.sub_zero, List.take_length, List.append_nil] at moved
  let reached := rest.foldl wander (0, [])
  let kept := (denoted root).length - reached.1
  calc denoted root <+: denoted value
      ↔ (denoted root).take kept ++ (denoted root).drop kept <+:
          (denoted root).take kept ++ reached.2 := by
        rw [List.take_append_drop, ← moved, denoted, denoted, whole,
          List.foldl_append]
    _ ↔ (denoted root).drop kept <+: reached.2 :=
        List.prefix_append_right_inj _
    _ ↔ returns root value = true := by
        rw [returns, whole, List.drop_left, List.isPrefixOf_iff_prefix]

theorem accepted_archive_confined :
    denoted "/srv/backups" <+: denoted "/srv/backups/../backups/a.tar.gz" :=
  (accepted_path_confined_iff .restore "/srv"
    "/srv/backups/../backups/a.tar.gz" (by decide +kernel)).mpr
      (by decide +kernel)

/-- An archive outside the base directory is accepted. -/
theorem accepted_archive_outside :
    let value := "/etc/openoxide/backups/../../keys.tar.gz"
    validateLocalArchivePath "/etc/openoxide" value = .ok () ∧
      ¬ denoted "/etc/openoxide/backups" <+: denoted value := by
  decide +kernel

end OpenOxide.Backup
