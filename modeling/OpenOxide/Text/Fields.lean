import Mathlib

/-!
# Texts made of fields

Texts that are put together from fields with a separator between them.  A field
that does not contain the separator is found again, and numbers contain only
digits and a sign.
-/

namespace OpenOxide.Text

theorem digit_of_mem_natural {number : Nat} {letter : Char}
    (member : letter ∈ (toString number).toList) : letter.isDigit = true := by
  apply @Nat.isDigit_of_mem_toDigits 10 number letter (by decide) (by decide)
  simpa [toString, Nat.repr] using member

theorem digit_of_mem_integer {number : Int} {letter : Char}
    (member : letter ∈ (toString number).toList) :
    letter.isDigit = true ∨ letter = '-' := by
  cases number with
  | ofNat number =>
    exact .inl (@digit_of_mem_natural number letter member)
  | negSucc number =>
    have signed : toString (Int.negSucc number) =
        "-" ++ toString (number + 1) := rfl
    rw [signed, String.toList_append, List.mem_append] at member
    rcases member with sign | digit
    · exact .inr (by simpa using sign)
    · exact .inl (digit_of_mem_natural digit)

theorem toString_int_injective {first second : Int}
    (same : (toString first).toList = (toString second).toList) :
    first = second := by
  have written : ∀ number : Int, toString number = number.repr := by
    intro number
    cases number <;> rfl
  rw [← Int.repr_inj, ← written, ← written]
  exact String.toList_inj.mp same

/-- The field before the first separator is found again. -/
theorem split_at_separator {separator : Char}
    {first second later other : List Char} (firstPlain : separator ∉ first)
    (secondPlain : separator ∉ second)
    (same : first ++ separator :: later = second ++ separator :: other) :
    first = second ∧ later = other := by
  induction first generalizing second with
  | nil =>
    cases second with
    | nil => simpa using same
    | cons letter second =>
      simp only [List.nil_append, List.cons_append, List.cons.injEq] at same
      exact absurd (List.mem_cons.mpr (.inl same.1)) secondPlain
  | cons letter first induction =>
    cases second with
    | nil =>
      simp only [List.nil_append, List.cons_append, List.cons.injEq] at same
      exact absurd (List.mem_cons.mpr (.inl same.1.symm)) firstPlain
    | cons head second =>
      simp only [List.cons_append, List.cons.injEq] at same
      obtain ⟨rest, last⟩ := induction
        (fun member => firstPlain (List.mem_cons_of_mem _ member))
        (fun member => secondPlain (List.mem_cons_of_mem _ member)) same.2
      exact ⟨by rw [same.1, rest], last⟩

end OpenOxide.Text
