import Mathlib.Data.List.Basic

/-!
# Escaping

Literals of a template are escaped by the macro, values when the template is
rendered.  Both escapers go through the bytes of their text.
-/

namespace OpenOxide.Html

def bytes (text : List Char) : List UInt8 :=
  text.flatMap String.utf8EncodeChar

/-- What stands for the four bytes that are escaped. -/
def entity (byte : UInt8) : Option String :=
  if byte = 38 then some "&amp;"
  else if byte = 60 then some "&lt;"
  else if byte = 62 then some "&gt;"
  else if byte = 34 then some "&quot;"
  else none

def pushByte (byte : UInt8) : List Char :=
  (entity byte).elim [Char.ofNat byte.toNat] String.toList

/-- The text that the macro emits for a literal: `b as char` is the character
with the number of the byte. -/
def pushEscaped (text : List Char) : List Char :=
  (bytes text).flatMap pushByte

def escapeByte (byte : UInt8) : List UInt8 :=
  (entity byte).elim [byte] fun text => bytes text.toList

/-- The bytes that the runtime emits for a value. -/
def escapeToString (text : List Char) : List UInt8 :=
  (bytes text).flatMap escapeByte

theorem bytes_pushByte (byte : UInt8) :
    byte.toNat < 128 ∧ bytes (pushByte byte) = escapeByte byte ∨
      128 ≤ byte.toNat ∧
        (bytes (pushByte byte)).length = (escapeByte byte).length + 1 := by
  have every : ∀ number < 256, number < 128 ∧
        bytes (pushByte (.ofNat number)) = escapeByte (.ofNat number) ∨
      128 ≤ number ∧ (bytes (pushByte (.ofNat number))).length =
        (escapeByte (.ofNat number)).length + 1 := by
    decide +kernel
  simpa using every byte.toNat byte.toNat_lt

theorem length_pushEscaped (codes : List UInt8) :
    (bytes (codes.flatMap pushByte)).length =
      (codes.flatMap escapeByte).length +
        codes.countP (fun byte => 128 ≤ byte.toNat) := by
  induction codes with
  | nil => rfl
  | cons byte codes induction =>
    unfold bytes at induction
    rw [List.flatMap_cons, List.flatMap_cons, bytes, List.flatMap_append,
      List.length_append, List.length_append, List.countP_cons, induction]
    have first := bytes_pushByte byte
    unfold bytes at first
    rcases first with ⟨ascii, same⟩ | ⟨beyond, longer⟩
    · rw [same, if_neg (by simpa using ascii)]
      omega
    · rw [longer, if_pos (by simpa using beyond)]
      omega

theorem encode_ascii_iff (letter : Char) :
    (∀ byte ∈ String.utf8EncodeChar letter, byte.toNat < 128) ↔
      letter.toNat < 128 := by
  have value : letter.val.toNat = letter.toNat := rfl
  simp only [String.utf8EncodeChar, value]
  repeat' split
  all_goals
    simp
    omega

/-- The two escapers agree on a text if and only if it is ASCII. -/
theorem escapers_agree_iff (text : List Char) :
    bytes (pushEscaped text) = escapeToString text ↔
      ∀ letter ∈ text, letter.toNat < 128 := by
  have ascii : (∀ byte ∈ bytes text, byte.toNat < 128) ↔
      ∀ letter ∈ text, letter.toNat < 128 := by
    rw [bytes, List.forall_mem_flatMap]
    exact forall₂_congr fun letter _ => encode_ascii_iff letter
  rw [← ascii]
  constructor
  · intro same byte member
    have lengths := length_pushEscaped (bytes text)
    have equal := congrArg List.length same
    rw [pushEscaped, escapeToString] at equal
    have none : (bytes text).countP (fun byte => 128 ≤ byte.toNat) = 0 := by
      omega
    simpa using List.countP_eq_zero.mp none byte member
  · intro small
    rw [pushEscaped, escapeToString, bytes, List.flatMap_assoc]
    apply List.flatMap_congr
    intro byte member
    rcases bytes_pushByte byte with ⟨_, same⟩ | ⟨beyond, _⟩
    · exact same
    · exact absurd (small byte member) (Nat.not_lt.mpr beyond)

/-- The literal becomes four bytes, the value stays as it is. -/
theorem escapers_differ :
    pushEscaped ['é'] = ['Ã', '©'] ∧
      bytes (pushEscaped ['é']) = [195, 131, 194, 169] ∧
      escapeToString ['é'] = [195, 169] := by
  decide +kernel

end OpenOxide.Html
