import Mathlib.Data.List.Basic

/-!
# Operations on texts

The string functions of the modelled programs, on the letters of a text: ASCII
case, trimming, stripping, replacing and splitting.
-/

namespace OpenOxide.Text

/-- Unicode white space, which trimming takes away. -/
def isWhiteSpace (letter : Char) : Bool :=
  let code := letter.toNat
  (9 ≤ code && code ≤ 13) || code == 0x20 || code == 0x85 || code == 0xA0 ||
    code == 0x1680 || (0x2000 ≤ code && code ≤ 0x200A) || code == 0x2028 ||
    code == 0x2029 || code == 0x202F || code == 0x205F || code == 0x3000

def asciiLower (text : String) : String :=
  String.ofList (text.toList.map Char.toLower)

def asciiUpper (text : String) : String :=
  String.ofList (text.toList.map Char.toUpper)

def trimLetters (drops : Char → Bool) (letters : List Char) : List Char :=
  ((letters.dropWhile drops).reverse.dropWhile drops).reverse

theorem dropWhile_self {drops : Char → Bool} {letters : List Char}
    (first : ∀ letter ∈ letters.head?, drops letter = false) :
    letters.dropWhile drops = letters := by
  cases letters with
  | nil => rfl
  | cons letter rest =>
    rw [List.dropWhile_cons_of_neg]
    rw [first letter rfl]
    simp

theorem trimLetters_self {drops : Char → Bool} {letters : List Char}
    (first : ∀ letter ∈ letters.head?, drops letter = false)
    (last : ∀ letter ∈ letters.getLast?, drops letter = false) :
    trimLetters drops letters = letters := by
  rw [trimLetters, dropWhile_self first, dropWhile_self, List.reverse_reverse]
  rwa [List.head?_reverse]

def trim (text : String) : String :=
  String.ofList (trimLetters isWhiteSpace text.toList)

/-- The text after a beginning that it has. -/
def stripStart (start text : String) : Option String :=
  if start.toList.isPrefixOf text.toList then
    some (String.ofList (text.toList.drop start.toList.length))
  else none

def startsWith (start text : String) : Bool :=
  start.toList.isPrefixOf text.toList

/-- Strip a beginning as often as the text has it. -/
def stripStarts (start : List Char) : Nat → List Char → List Char
  | 0, letters => letters
  | fuel + 1, letters =>
    if start.isPrefixOf letters then
      stripStarts start fuel (letters.drop start.length)
    else letters

def trimStartMatches (start text : String) : String :=
  String.ofList (stripStarts start.toList text.toList.length text.toList)

def contains (part text : String) : Bool :=
  text.toList.tails.any fun rest => part.toList.isPrefixOf rest

/-- Replace a part that is not empty, from left to right.  The number counts the
letters of a replaced part that are still to be skipped. -/
def replaceLetters (part replacement : List Char) : Nat → List Char → List Char
  | _, [] => []
  | skip + 1, _ :: letters => replaceLetters part replacement skip letters
  | 0, letter :: letters =>
    if part.isPrefixOf (letter :: letters) then
      replacement ++ replaceLetters part replacement (part.length - 1) letters
    else letter :: replaceLetters part replacement 0 letters

def replace (part replacement text : String) : String :=
  String.ofList (replaceLetters part.toList replacement.toList 0 text.toList)

def split (separates : Char → Bool) (text : String) : List String :=
  (text.toList.splitOnP separates).map String.ofList

/-- The letters around the first separator. -/
def cut (separator : Char) : List Char → Option (List Char × List Char)
  | [] => none
  | letter :: letters =>
    if letter = separator then some ([], letters)
    else (cut separator letters).map fun parts =>
      (letter :: parts.1, parts.2)

/-- `split_once`. -/
def splitOnce (separator : Char) (text : String) : Option (String × String) :=
  (cut separator text.toList).map fun parts =>
    (String.ofList parts.1, String.ofList parts.2)

theorem cut_append {separator : Char} {before after : List Char}
    (plain : separator ∉ before) :
    cut separator (before ++ separator :: after) = some (before, after) := by
  induction before with
  | nil => simp [cut]
  | cons letter before induction =>
    rw [List.mem_cons, not_or] at plain
    rw [List.cons_append, cut, if_neg (Ne.symm plain.1), induction plain.2]
    rfl

theorem cut_eq_some_iff {separator : Char} {letters before after : List Char} :
    cut separator letters = some (before, after) ↔
      letters = before ++ separator :: after ∧ separator ∉ before := by
  constructor
  · intro found
    induction letters generalizing before with
    | nil => cases found
    | cons letter letters induction =>
      rw [cut] at found
      split at found
      · rename_i same
        cases found
        simp [same]
      · rename_i different
        obtain ⟨parts, inner, rest⟩ := Option.map_eq_some_iff.mp found
        cases rest
        obtain ⟨rfl, plain⟩ := induction inner
        simp [plain, Ne.symm different]
  · rintro ⟨rfl, plain⟩
    exact cut_append plain

/-- The text before the last separator. -/
def beforeLast (separator : Char) (text : String) : Option String :=
  if text.toList.contains separator then
    some (String.ofList
      ((text.toList.reverse.dropWhile (· != separator)).drop 1).reverse)
  else none

/-- `parse` of an unsigned number below a bound: digits after an optional
sign. -/
def parseUnsigned (bound : Nat) (text : List Char) : Option Nat :=
  let digits := if text.head? = some '+' then text.drop 1 else text
  if digits ≠ [] ∧ digits.all Char.isDigit then
    let number := Nat.ofDigitChars 10 digits 0
    if number < bound then some number else none
  else none

def hexDigit (letter : Char) : Option Nat :=
  if '0' ≤ letter ∧ letter ≤ '9' then some (letter.toNat - '0'.toNat)
  else if 'a' ≤ letter ∧ letter ≤ 'f' then
    some (letter.toNat - 'a'.toNat + 10)
  else if 'A' ≤ letter ∧ letter ≤ 'F' then
    some (letter.toNat - 'A'.toNat + 10)
  else none

/-- The bytes that pairs of hexadecimal digits stand for. -/
def decodeHex : List Char → Option (List Nat)
  | [] => some []
  | [_] => none
  | high :: low :: letters => do
      let first ← hexDigit high
      let second ← hexDigit low
      let rest ← decodeHex letters
      pure ((first * 16 + second) :: rest)

end OpenOxide.Text
