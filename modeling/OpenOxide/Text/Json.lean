import Mathlib.Data.List.Basic
import Mathlib.Data.Option.Basic

/-!
# JSON texts

The compact text of a JSON value, and a scanner that walks over such texts with
the depth of the open brackets and the place in a string.

Two facts about the scanner are all that is used.  It comes back from the text
of a value to the depth it started with, and it accepts no colon at depth zero.
Scanners that are one inside and one outside a string stay so over any text that
both accept.  Together they give unique decoding: a text that ends in a colon and
a JSON text does so in one way only (`Json.split_unique`).
-/

namespace OpenOxide.Text

/-- The letters of a number: digits, signs, the point and the exponent. -/
def isNumberLetter (letter : Char) : Bool :=
  "0123456789+-.eE".toList.contains letter

/-- A number is known by its text. -/
structure JsonNumber where
  letters : List Char
  plain : ∀ letter ∈ letters, isNumberLetter letter = true

mutual

/-- A JSON value. -/
inductive Json where
  | null
  | bool (value : Bool)
  | number (value : JsonNumber)
  | string (value : String)
  | array (items : JsonItems)
  | object (fields : JsonFields)

/-- The items of an array. -/
inductive JsonItems where
  | nil
  | cons (item : Json) (items : JsonItems)

/-- The fields of an object. -/
inductive JsonFields where
  | nil
  | cons (key : String) (value : Json) (fields : JsonFields)

end

/-- The escape sequence of a letter in a string. -/
def escapeLetter (letter : Char) : List Char :=
  if letter = '"' then ['\\', '"']
  else if letter = '\\' then ['\\', '\\']
  else if letter = '\n' then ['\\', 'n']
  else if letter = '\r' then ['\\', 'r']
  else if letter = '\t' then ['\\', 't']
  else if letter.toNat = 8 then ['\\', 'b']
  else if letter.toNat = 12 then ['\\', 'f']
  else if letter.toNat < 32 then
    ['\\', 'u', '0', '0', (letter.toNat / 16).digitChar,
      (letter.toNat % 16).digitChar]
  else [letter]

def quoted (text : String) : List Char :=
  '"' :: text.toList.flatMap escapeLetter ++ ['"']

mutual

/-- The compact text of a value. -/
def Json.letters : Json → List Char
  | .null => "null".toList
  | .bool true => "true".toList
  | .bool false => "false".toList
  | .number value => value.letters
  | .string value => quoted value
  | .array items => '[' :: items.letters ++ [']']
  | .object fields => '{' :: fields.letters ++ ['}']

def JsonItems.letters : JsonItems → List Char
  | .nil => []
  | .cons item .nil => item.letters
  | .cons item items => item.letters ++ ',' :: items.letters

def JsonFields.letters : JsonFields → List Char
  | .nil => []
  | .cons key value .nil => quoted key ++ ':' :: value.letters
  | .cons key value fields =>
    quoted key ++ ':' :: value.letters ++ ',' :: fields.letters

end

def Json.render (value : Json) : String :=
  String.ofList value.letters

/-- The place in a text: outside of strings, in a string, or after a backslash,
with the number of open brackets. -/
inductive Place where
  | outside (depth : Nat)
  | inside (depth : Nat)
  | escaped (depth : Nat)

/-- One letter.  Outside of strings there are no backslashes, and colons only
between brackets. -/
def Place.step : Place → Char → Option Place
  | .outside depth, letter =>
    if letter = '"' then some (.inside depth)
    else if letter = '[' ∨ letter = '{' then some (.outside (depth + 1))
    else if letter = ']' ∨ letter = '}' then
      if depth = 0 then none else some (.outside (depth - 1))
    else if letter = '\\' then none
    else if letter = ':' then
      if depth = 0 then none else some (.outside depth)
    else some (.outside depth)
  | .inside depth, letter =>
    if letter = '"' then some (.outside depth)
    else if letter = '\\' then some (.escaped depth)
    else some (.inside depth)
  | .escaped depth, _ => some (.inside depth)

def Place.scan (place : Place) : List Char → Option Place
  | [] => some place
  | letter :: letters => (place.step letter).bind fun next => next.scan letters

theorem Place.scan_append (place : Place) (first second : List Char) :
    place.scan (first ++ second) =
      (place.scan first).bind fun next => next.scan second := by
  induction first generalizing place with
  | nil => rfl
  | cons letter letters induction =>
    simp only [List.cons_append, scan, Option.bind_assoc, induction]

theorem Place.scan_through {first second : List Char}
    {start middle last : Place} (before : start.scan first = some middle)
    (after : middle.scan second = some last) :
    start.scan (first ++ second) = some last := by
  rw [scan_append, before]
  exact after

theorem scan_escapeLetter (letter : Char) (depth : Nat) :
    (Place.inside depth).scan (escapeLetter letter) =
      some (.inside depth) := by
  unfold escapeLetter
  split
  · rfl
  split
  · rfl
  split
  · rfl
  split
  · rfl
  split
  · rfl
  split
  · rfl
  split
  · rfl
  split
  · have plain : ∀ digit < 16, (Nat.digitChar digit) ≠ '"' ∧
        (Nat.digitChar digit) ≠ '\\' := by decide
    have high := plain (letter.toNat / 16) (by omega)
    have low := plain (letter.toNat % 16) (Nat.mod_lt _ (by omega))
    simp [Place.scan, Place.step, high, low]
  · rename_i notQuote notBackslash _ _ _ _ _ _
    simp [Place.scan, Place.step, notQuote, notBackslash]

theorem scan_quoted (text : String) (depth : Nat) :
    (Place.outside depth).scan (quoted text) = some (.outside depth) := by
  have content : ∀ letters : List Char, (Place.inside depth).scan
      (letters.flatMap escapeLetter) = some (.inside depth) := by
    intro letters
    induction letters with
    | nil => rfl
    | cons letter letters induction =>
      exact Place.scan_through (scan_escapeLetter letter depth) induction
  have opened : (Place.outside depth).scan
      ('"' :: text.toList.flatMap escapeLetter) = some (.inside depth) :=
    content _
  exact Place.scan_through opened rfl

/-- The letters that mean something to the scanner. -/
def specials : List Char :=
  ['"', '[', ']', '{', '}', '\\', ':']

theorem scan_plain {letters : List Char} (depth : Nat)
    (plain : ∀ letter ∈ letters, letter ∉ specials) :
    (Place.outside depth).scan letters = some (.outside depth) := by
  induction letters with
  | nil => rfl
  | cons letter letters induction =>
    have own := plain letter List.mem_cons_self
    have later := induction fun other member =>
      plain other (List.mem_cons_of_mem _ member)
    have still : (Place.outside depth).step letter =
        some (.outside depth) := by
      simp only [specials, List.mem_cons, not_or] at own
      simp [Place.step, own]
    rw [Place.scan, still]
    exact later

theorem scan_word {word : String} (depth : Nat)
    (plain : word.toList.all (fun letter => !specials.contains letter) = true) :
    (Place.outside depth).scan word.toList = some (.outside depth) := by
  apply scan_plain depth
  intro letter member
  simpa using List.all_eq_true.mp plain letter member

theorem number_plain (number : JsonNumber) :
    ∀ letter ∈ number.letters, letter ∉ specials := by
  have none : specials.all (fun other => !isNumberLetter other) = true := by
    decide +kernel
  intro letter member special
  have foreign := List.all_eq_true.mp none letter special
  rw [number.plain letter member] at foreign
  cases foreign

mutual

theorem Json.scan_letters (value : Json) (depth : Nat) :
    (Place.outside depth).scan value.letters = some (.outside depth) := by
  cases value with
  | null => exact @scan_word "null" depth (by decide +kernel)
  | bool value =>
    cases value with
    | true => exact @scan_word "true" depth (by decide +kernel)
    | false => exact @scan_word "false" depth (by decide +kernel)
  | number value => exact scan_plain depth (number_plain value)
  | string value => exact scan_quoted value depth
  | array items =>
    have opened : (Place.outside depth).scan ('[' :: items.letters) =
        some (.outside (depth + 1)) := JsonItems.scan_letters items depth
    exact Place.scan_through opened rfl
  | object fields =>
    have opened : (Place.outside depth).scan ('\x7b' :: fields.letters) =
        some (.outside (depth + 1)) := JsonFields.scan_letters fields depth
    exact Place.scan_through opened rfl

theorem JsonItems.scan_letters (items : JsonItems) (depth : Nat) :
    (Place.outside (depth + 1)).scan items.letters =
      some (.outside (depth + 1)) := by
  cases items with
  | nil => rfl
  | cons item items =>
    have first := Json.scan_letters item (depth + 1)
    cases items with
    | nil => exact first
    | cons other others =>
      have later := JsonItems.scan_letters (.cons other others) depth
      have rest : (Place.outside (depth + 1)).scan
          (',' :: JsonItems.letters (.cons other others)) =
            some (.outside (depth + 1)) := later
      exact Place.scan_through first rest

theorem JsonFields.scan_letters (fields : JsonFields) (depth : Nat) :
    (Place.outside (depth + 1)).scan fields.letters =
      some (.outside (depth + 1)) := by
  cases fields with
  | nil => rfl
  | cons key value fields =>
    have name := scan_quoted key (depth + 1)
    have first : (Place.outside (depth + 1)).scan (':' :: value.letters) =
        some (.outside (depth + 1)) := Json.scan_letters value (depth + 1)
    have field := Place.scan_through name first
    cases fields with
    | nil => exact field
    | cons other next others =>
      have later := JsonFields.scan_letters (.cons other next others) depth
      have rest : (Place.outside (depth + 1)).scan
          (',' :: JsonFields.letters (.cons other next others)) =
            some (.outside (depth + 1)) := later
      exact Place.scan_through field rest

end

/-- One scanner is inside a string and the other outside. -/
inductive Opposite : Place → Place → Prop where
  | inside (first second : Nat) : Opposite (.inside first) (.outside second)
  | outside (first second : Nat) : Opposite (.outside first) (.inside second)

theorem step_outside {depth : Nat} {letter : Char} {next : Place}
    (stepped : (Place.outside depth).step letter = some next) :
    letter = '"' ∧ next = .inside depth ∨
      letter ≠ '"' ∧ letter ≠ '\\' ∧ ∃ other, next = .outside other := by
  unfold Place.step at stepped
  grind

theorem step_inside {depth : Nat} {letter : Char} (other : letter ≠ '"')
    (plain : letter ≠ '\\') :
    (Place.inside depth).step letter = some (.inside depth) := by
  simp [Place.step, other, plain]

theorem Opposite.step {first second next last : Place} {letter : Char}
    (opposite : Opposite first second)
    (firstStep : first.step letter = some next)
    (secondStep : second.step letter = some last) : Opposite next last := by
  cases opposite with
  | inside one two =>
    rcases step_outside secondStep with ⟨rfl, rfl⟩ | ⟨other, plain, depth,
      rfl⟩
    · cases firstStep
      exact .outside one two
    · rw [step_inside other plain] at firstStep
      cases firstStep
      exact .inside one depth
  | outside one two =>
    rcases step_outside firstStep with ⟨rfl, rfl⟩ | ⟨other, plain, depth,
      rfl⟩
    · cases secondStep
      exact .inside one two
    · rw [step_inside other plain] at secondStep
      cases secondStep
      exact .outside depth two

theorem Opposite.scan {letters : List Char} {first second next last : Place}
    (opposite : Opposite first second)
    (firstScan : first.scan letters = some next)
    (secondScan : second.scan letters = some last) : Opposite next last := by
  induction letters generalizing first second with
  | nil =>
    cases firstScan
    cases secondScan
    exact opposite
  | cons letter letters induction =>
    obtain ⟨one, firstStep, firstRest⟩ := Option.bind_eq_some_iff.mp firstScan
    obtain ⟨two, secondStep, secondRest⟩ :=
      Option.bind_eq_some_iff.mp secondScan
    exact induction (opposite.step firstStep secondStep) firstRest secondRest

/-- No JSON text ends in a colon and a JSON text. -/
theorem Json.letters_ne_colon (whole tail : Json) (before : List Char) :
    whole.letters ≠ before ++ ':' :: tail.letters := by
  intro same
  have scanned := whole.scan_letters 0
  rw [same, Place.scan_append] at scanned
  obtain ⟨place, _, rest⟩ := Option.bind_eq_some_iff.mp scanned
  obtain ⟨next, colon, later⟩ := Option.bind_eq_some_iff.mp rest
  have inString : ∀ depth, (Place.inside depth).scan tail.letters ≠
      some (.outside 0) := by
    intro depth closes
    have opposite := (Opposite.inside depth 0).scan closes
      (tail.scan_letters 0)
    cases opposite
  cases place with
  | outside depth =>
    cases depth with
    | zero => cases colon
    | succ depth =>
      cases colon
      rw [tail.scan_letters (depth + 1)] at later
      cases later
  | inside depth | escaped depth =>
    cases colon
    exact inString depth later

theorem Json.no_middle {middle : List Char} {one two : Json}
    (same : ':' :: one.letters = middle ++ ':' :: two.letters) :
    middle = [] := by
  cases middle with
  | nil => rfl
  | cons letter middle =>
    rw [List.cons_append, List.cons.injEq] at same
    exact absurd same.2 (one.letters_ne_colon two middle)

theorem Json.split_unique {first second : List Char} {one two : Json}
    (same : first ++ ':' :: one.letters = second ++ ':' :: two.letters) :
    first = second ∧ one.letters = two.letters := by
  rcases List.append_eq_append_iff.mp same with ⟨middle, right, left⟩ |
    ⟨middle, right, left⟩
  · obtain rfl := Json.no_middle left
    simp_all
  · obtain rfl := Json.no_middle left
    simp_all

end OpenOxide.Text
