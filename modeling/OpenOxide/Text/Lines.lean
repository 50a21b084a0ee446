import Mathlib.Data.List.Basic

/-!
# Lines of a text

A text falls into lines at its line feeds.  A carriage return right before a
line feed belongs to the line end, and a line feed at the very end begins no
further line.
-/

namespace OpenOxide.Text

/-- A line without the carriage return of its line end. -/
def stripReturn (line : List Char) : List Char :=
  if line.getLast? = some '\r' then line.dropLast else line

/-- The lines of a text that goes on after the letters of a line. -/
def linesFrom (line : List Char) : List Char → List (List Char)
  | [] => if line = [] then [] else [line]
  | letter :: rest =>
    if letter = '\n' then stripReturn line :: linesFrom [] rest
    else linesFrom (line ++ [letter]) rest

def lines (text : List Char) : List (List Char) :=
  linesFrom [] text

variable {line : List Char}

theorem linesFrom_line (start : List Char) (single : '\n' ∉ line)
    (rest : List Char) :
    linesFrom start (line ++ '\n' :: rest) =
      stripReturn (start ++ line) :: lines rest := by
  induction line generalizing start with
  | nil => simp [linesFrom, lines]
  | cons letter line induction =>
    rw [List.mem_cons, not_or] at single
    rw [List.cons_append, linesFrom, if_neg (Ne.symm single.1),
      induction _ single.2]
    simp

theorem linesFrom_last (start : List Char) (single : '\n' ∉ line) :
    linesFrom start line = if start ++ line = [] then [] else [start ++ line] := by
  induction line generalizing start with
  | nil => simp [linesFrom]
  | cons letter line induction =>
    rw [List.mem_cons, not_or] at single
    rw [linesFrom, if_neg (Ne.symm single.1), induction _ single.2]
    simp

theorem mem_of_mem_takeWhile {goesOn : Char → Bool} {letter stop : Char}
    {line rest : List Char} (stops : goesOn stop = false)
    (member : letter ∈ (line ++ stop :: rest).takeWhile goesOn) :
    letter ∈ line := by
  induction line with
  | nil =>
    rw [List.nil_append, List.takeWhile_cons_of_neg (by simp [stops])]
      at member
    cases member
  | cons first line induction =>
    rw [List.cons_append, List.takeWhile_cons] at member
    split at member
    · rcases List.mem_cons.mp member with rfl | later
      · exact List.mem_cons_self
      · exact List.mem_cons_of_mem _ (induction later)
    · cases member

theorem exists_first_line (text rest : List Char) :
    ∃ line later, text ++ '\n' :: rest = line ++ '\n' :: later ∧
      '\n' ∉ line ∧ line <+: text := by
  induction text with
  | nil => exact ⟨[], rest, rfl, by simp, List.nil_prefix⟩
  | cons letter text induction =>
    by_cases feed : letter = '\n'
    · subst feed
      exact ⟨[], text ++ '\n' :: rest, rfl, by simp, List.nil_prefix⟩
    · obtain ⟨line, later, equal, single, start⟩ := induction
      refine ⟨letter :: line, later, ?_, ?_, ?_⟩
      · rw [List.cons_append, equal, List.cons_append]
      · rw [List.mem_cons, not_or]
        exact ⟨Ne.symm feed, single⟩
      · exact List.cons_prefix_cons.mpr ⟨rfl, start⟩

theorem stripReturn_append {start : List Char}
    (other : start.getLast? ≠ some '\r') (line : List Char) :
    stripReturn (start ++ line) = start ++ stripReturn line := by
  cases line with
  | nil => simp [stripReturn, other]
  | cons letter line =>
    rw [stripReturn, stripReturn, List.getLast?_append_of_ne_nil _
      (by simp)]
    split
    · rw [List.dropLast_append_of_ne_nil (by simp)]
    · rfl

theorem stripReturn_of_ne
    (other : line.getLast? ≠ some '\r') : stripReturn line = line := by
  rw [stripReturn, if_neg other]

theorem count_stripReturn_le (letter : Char) (line : List Char) :
    (stripReturn line).count letter ≤ line.count letter := by
  rw [stripReturn]
  split
  · exact (List.dropLast_sublist line).count_le letter
  · exact Nat.le_refl _

theorem count_return_lt (ends : line.getLast? = some '\r') :
    (stripReturn line).count '\r' + 1 = line.count '\r' := by
  obtain ⟨start, rfl⟩ := List.getLast?_eq_some_iff.mp ends
  rw [stripReturn, if_pos ends, List.dropLast_concat, List.count_append]
  rfl

theorem mem_of_mem_stripReturn {letter : Char}
    (member : letter ∈ stripReturn line) : letter ∈ line := by
  rw [stripReturn] at member
  split at member
  · exact (List.dropLast_sublist line).subset member
  · exact member

/-- Each line with letters before and after it. -/
def framed (before after : List Char) (text : List Char) : List Char :=
  (lines text).flatMap fun line => before ++ line ++ after

theorem count_framed_le {letter : Char} {before after : List Char}
    (absentBefore : letter ∉ before) (absentAfter : letter ∉ after)
    (text : List Char) :
    (framed before after text).count letter ≤ text.count letter := by
  have zeroBefore := List.count_eq_zero.mpr absentBefore
  have zeroAfter := List.count_eq_zero.mpr absentAfter
  have run : ∀ rest line,
      ((linesFrom line rest).flatMap fun line =>
        before ++ line ++ after).count letter ≤
      line.count letter + rest.count letter := by
    intro rest
    induction rest with
    | nil =>
      intro line
      rw [linesFrom]
      split
      · exact Nat.zero_le _
      · simp [zeroBefore, zeroAfter]
    | cons other rest induction =>
      intro line
      rw [linesFrom]
      split
      · have strip := count_stripReturn_le letter line
        have later := induction []
        rw [List.flatMap_cons, List.count_append, List.count_append,
          List.count_append, List.count_cons]
        rw [List.count_nil] at later
        omega
      · have later := induction (line ++ [other])
        rw [List.count_append, List.count_singleton] at later
        rw [List.count_cons]
        omega
  have whole := run text []
  rwa [List.count_nil, Nat.zero_add] at whole

theorem framed_cons (before after : List Char) (single : '\n' ∉ line)
    (rest : List Char) :
    framed before after (line ++ '\n' :: rest) =
      before ++ stripReturn line ++ after ++ framed before after rest := by
  rw [framed, lines, linesFrom_line [] single, List.flatMap_cons]
  rfl

theorem framed_single (before after : List Char) (single : '\n' ∉ line)
    (nonempty : line ≠ []) :
    framed before after line = before ++ line ++ after := by
  rw [framed, lines, linesFrom_last [] single, List.nil_append,
    if_neg nonempty, List.flatMap_cons, List.flatMap_nil, List.append_nil]

end OpenOxide.Text
