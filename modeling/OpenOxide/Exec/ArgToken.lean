import OpenOxide.Exec.Git

/-!
# Arguments of rendered commands

The script language and the file commands put values into a command as one
word.  Both let a value that begins with a dollar sign stand for a variable.
The script language first looks whether a name follows the sign; the file
commands put any such value between double quotes, where the shell expands it.
-/

namespace OpenOxide.Exec

open Shell

/-- An argument before it is rendered. -/
inductive ArgToken where
  | literal (text : String)
  | nullDevice
  | variable (name : String)
  | envVar (name : String)
  | glob (pattern : String)
  | rendered (text : String)

namespace ArgToken

def dynamic (value : String) : ArgToken :=
  if value.toList.head? = some '$' ∧ isName value.toList.tail then
    .variable (String.ofList value.toList.tail)
  else .literal value

def toBash : ArgToken → String
  | .literal text => shellSingleQuote text
  | .nullDevice => "/dev/null"
  | .variable name | .envVar name => "\"$" ++ name ++ "\""
  | .glob text | .rendered text => text

end ArgToken

/-- The text is one word that runs no command.  It yields the value, or, in
double quotes, the variable that the value names after its dollar sign. -/
def IsData (value text : String) : Prop :=
  ∃ word, Reads text.toList word ∧
    (literal word = some value ∨
      ∃ name, isName name = true ∧ value.toList = '$' :: name ∧
        word = name.map (Piece.expand · true))

variable {value : String}

theorem isData_shellSingleQuote (value : String) :
    IsData value (shellSingleQuote value) := by
  refine ⟨quotedWord value.toList, ?_, Or.inl ?_⟩
  · rw [toList_shellSingleQuote]
    exact reads_singleQuote _
  · rw [literal_quotedWord, String.ofList_toList]

theorem isData_variable {name : List Char} (named : isName name = true)
    (written : value.toList = '$' :: name) :
    IsData value ("\"" ++ value ++ "\"") := by
  have text : ("\"" ++ value ++ "\"").toList =
      (Segment.parameter name).text := by
    simp only [String.toList_append, written]
    rfl
  refine ⟨(Segment.parameter name).word, ?_, Or.inr ⟨name, named, written,
    rfl⟩⟩
  rw [text]
  apply Segment.reads
  simp [Segment.sound, isParameter, named]

theorem isData_dynamic (value : String) :
    IsData value (ArgToken.dynamic value).toBash := by
  rw [ArgToken.dynamic]
  split
  next named =>
    have written : value.toList = '$' :: value.toList.tail :=
      (List.cons_head?_tail named.1).symm
    have same : "\"$" ++ String.ofList value.toList.tail ++ "\"" =
        "\"" ++ value ++ "\"" := by
      apply String.toList_injective
      simp only [String.toList_append, String.toList_ofList]
      nth_rewrite 2 [written]
      rfl
    rw [ArgToken.toBash, same]
    exact isData_variable named.2 written
  next _ => exact isData_shellSingleQuote value

/-- Between double quotes the first dollar sign is no letter of the word, so
that the word has fewer of them than the value. -/
theorem dollar_lost {rest : List Char} {word : Word}
    (written : value.toList = '$' :: rest)
    (reads : Reads ("\"" ++ value ++ "\"").toList word) :
    literal word ≠ some value := by
  intro same
  have letters : ("\"" ++ value ++ "\"").toList =
      '"' :: '$' :: (rest ++ ['"']) := by
    simp only [String.toList_append, written]
    rfl
  have reading := reads [] .start false rfl
  rw [letters, Shell.read, Option.map_eq_some_iff] at reading
  obtain ⟨next, ran, equal⟩ := reading
  obtain rfl := (Prod.mk.inj equal).2
  have bound := (@run_account (letterOf '$') _ _ _ ran).2
  change 0 + Word.total _ word ≤
    0 + (0 + kept '$' (events ⟨.dollar .double, []⟩ (rest ++ ['"']))) at bound
  have fewer := kept_events_le '$' ⟨.dollar .double, []⟩ (rest ++ ['"'])
  have total := total_of_literal same '$'
  rw [written, List.count_cons_self] at total
  have count : (rest ++ ['"']).count '$' = rest.count '$' := by
    simp [List.count_append]
  change _ ≤ _ + 0 at fewer
  omega

/-- A token of the script language is data for every value.  An escaped argument
is so unless the value begins with a dollar sign and no name follows it. -/
theorem arguments_are_data_iff (value : String) :
    IsData value (ArgToken.dynamic value).toBash ∧
      (IsData value (escapeArg value) ↔
        (value.toList.head? = some '$' →
          isName value.toList.tail = true)) := by
  refine ⟨isData_dynamic value, ?_⟩
  rw [escapeArg]
  split
  next begins =>
    have written : value.toList = '$' :: value.toList.tail :=
      (List.cons_head?_tail begins).symm
    constructor
    · rintro ⟨word, reads, same | ⟨name, named, equal, -⟩⟩ -
      · exact absurd same (dollar_lost written reads)
      · rw [equal]
        exact named
    · intro named
      exact isData_variable (named begins) written
  next other =>
    exact iff_of_true (isData_shellSingleQuote value)
      fun begins => absurd begins other

/-- The value is a command, and the shell runs it. -/
theorem escaped_argument_runs_command :
    ¬ IsData "$(id)" (escapeArg "$(id)") ∧
      (parse ("rm " ++ escapeArg "$(id)")).map
        (fun items => items.any fun item => decide (item =
          .simple (({} : Simple).addAll [plainWord ['i', 'd']]))) =
        some true := by
  refine ⟨?_, by decide +kernel⟩
  rintro ⟨word, reads, same | ⟨name, named, equal, -⟩⟩
  · exact dollar_lost rfl reads same
  · obtain rfl : ['(', 'i', 'd', ')'] = name := (List.cons.inj equal).2
    cases named

end OpenOxide.Exec
