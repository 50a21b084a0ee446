import OpenOxide.Shell.Words

/-!
# Writing scripts

A script written from words that are known to read back is a program with
exactly the commands it was written from.  A word is written from segments:
plain letters, a value in single quotes, or a parameter in double quotes.
Commands are written from words and redirections, scripts from commands and the
operators between them.
-/

namespace OpenOxide.Shell

/-- A part of an argument. -/
inductive Segment where
  | plain (letters : List Char)
  | quoted (letters : List Char)
  | parameter (letters : List Char)

def Segment.text : Segment → List Char
  | .plain letters => letters
  | .quoted letters => singleQuote letters
  | .parameter letters => '"' :: '$' :: letters ++ ['"']

def Segment.word : Segment → Word
  | .plain letters => plainWord letters
  | .quoted letters => quotedWord letters
  | .parameter letters => letters.map (Piece.expand · true)

def isParameter (letters : List Char) : Bool :=
  isName letters ||
    (letters.length == 1 && letters.all isParameterLetter)

/-- The segment reads back. -/
def Segment.sound : Segment → Bool
  | .plain letters => isWordText letters
  | .quoted _ => true
  | .parameter letters => isParameter letters

theorem scan_nameLetters (opened : List (Option Base)) {letters : List Char}
    (named : letters.all isNameLetter = true) :
    after ⟨.name .double, opened⟩ letters = ⟨.name .double, opened⟩ ∧
      events ⟨.name .double, opened⟩ letters =
        letters.map (Event.expand · true) := by
  induction letters with
  | nil => exact ⟨rfl, rfl⟩
  | cons letter letters induction =>
    rw [List.all_cons, Bool.and_eq_true] at named
    have first : step ⟨.name .double, opened⟩ letter =
        (⟨.name .double, opened⟩, [.expand letter true]) := by
      simp [step, named.1]
    obtain ⟨state, output⟩ := induction named.2
    rw [after_cons, events_cons, first, state, output]
    exact ⟨rfl, rfl⟩

theorem step_dollar (opened : List (Option Base)) {letter : Char}
    (begins : (isNameStart letter || isParameterLetter letter) = true) :
    step ⟨.dollar .double, opened⟩ letter =
      (⟨if isNameStart letter then .name .double else .double, opened⟩,
        [.expand letter true]) := by
  have notParen : letter ≠ '(' := by
    rintro rfl
    cases begins
  have notBrace : letter ≠ '\x7b' := by
    rintro rfl
    cases begins
  cases start : isNameStart letter with
  | true => simp [step, stepDollar, notParen, notBrace, start]
  | false =>
    rw [start, Bool.false_or] at begins
    simp [step, stepDollar, notParen, notBrace, start, begins, Base.mode]

/-- What the scanner makes of a parameter and the quote after it. -/
theorem scan_parameter (opened : List (Option Base)) {letters : List Char}
    (valid : isParameter letters = true) :
    after ⟨.dollar .double, opened⟩ (letters ++ ['"']) =
        ⟨.plain true, opened⟩ ∧
      events ⟨.dollar .double, opened⟩ (letters ++ ['"']) =
        letters.map (Event.expand · true) := by
  have named : ∀ letter rest, isNameStart letter = true →
      rest.all isNameLetter = true →
      after ⟨.dollar .double, opened⟩ (letter :: rest ++ ['"']) =
          ⟨.plain true, opened⟩ ∧
        events ⟨.dollar .double, opened⟩ (letter :: rest ++ ['"']) =
          (letter :: rest).map (Event.expand · true) := by
    intro letter rest start all
    obtain ⟨state, output⟩ := scan_nameLetters opened all
    rw [List.cons_append, after_cons, events_cons,
      step_dollar opened (by rw [start, Bool.true_or]), start, if_pos rfl,
      after_append, events_append, state, output]
    exact ⟨rfl, by simp [events, step, isNameLetter, stepBase, stepDouble,
      classify]⟩
  rw [isParameter, Bool.or_eq_true, Bool.and_eq_true, beq_iff_eq] at valid
  rcases valid with name | ⟨single, special⟩
  · cases letters with
    | nil => cases name
    | cons letter rest =>
      rw [isName, Bool.and_eq_true] at name
      exact named letter rest name.1 name.2
  · obtain ⟨letter, rfl⟩ := List.length_eq_one_iff.mp single
    rw [List.all_cons, List.all_nil, Bool.and_true] at special
    cases start : isNameStart letter with
    | true => exact named letter [] start rfl
    | false =>
      rw [List.singleton_append, after_cons, events_cons,
        step_dollar opened (by rw [special, Bool.or_true]), start]
      exact ⟨rfl, rfl⟩

theorem Segment.reads {segment : Segment} (sound : segment.sound = true) :
    Reads segment.text segment.word := by
  cases segment with
  | plain letters => exact reads_plain sound
  | quoted letters => exact reads_singleQuote letters
  | parameter letters =>
    intro opened machine inWord agrees
    have opening : read ⟨.plain inWord, opened⟩ machine ['"', '$'] =
        some (⟨.dollar .double, opened⟩,
          { machine with word := some (machine.word.getD []) }) := by
      obtain ⟨place, word, frames, items⟩ := machine
      subst agrees
      cases word with
      | none => rfl
      | some pending => rfl
    obtain ⟨state, output⟩ := scan_parameter opened sound
    change read _ _ (['"', '$'] ++ (letters ++ ['"'])) = _
    rw [read_append_of_eq opening, read, output, state,
      run_pieces (fun _ _ => rfl) (machine.word.getD []) letters rfl]
    rfl

/-- One word as it is written. -/
abbrev Arg := List Segment

def Arg.text (arg : Arg) : List Char :=
  arg.flatMap Segment.text

def Arg.word (arg : Arg) : Word :=
  arg.flatMap Segment.word

def Arg.sound (arg : Arg) : Bool :=
  !arg.isEmpty && arg.all Segment.sound

theorem Arg.reads {arg : Arg} (sound : arg.sound = true) :
    Reads arg.text arg.word := by
  induction arg with
  | nil => cases sound
  | cons segment rest induction =>
    rw [Arg.sound, Bool.and_eq_true, List.all_cons, Bool.and_eq_true]
      at sound
    have head := Segment.reads sound.2.1
    cases rest with
    | nil => simpa [Arg.text, Arg.word] using head
    | cons next rest =>
      have tail := induction (by simp [Arg.sound, sound.2.2])
      exact head.append tail

/-- A word without quotes. -/
def bare (text : String) : Arg :=
  [.plain text.toList]

/-- A value in single quotes. -/
def enclosed (value : String) : Arg :=
  [.quoted value.toList]

/-- A word of a command, or where it writes. -/
inductive Element where
  | word (arg : Arg)
  | output (arg : Arg)

def Element.text : Element → List Char
  | .word arg => arg.text
  | .output arg => '>' :: ' ' :: arg.text

def Element.sound : Element → Bool
  | .word arg => arg.sound
  | .output arg => arg.sound

def Element.extend (simple : Simple) : Element → Simple
  | .word arg => simple.add arg.word
  | .output arg =>
    { simple with
      redirections := simple.redirections ++ [⟨[], .great, arg.word⟩] }

structure Command where
  first : Arg
  rest : List Element

def Command.text (command : Command) : List Char :=
  command.first.text ++ command.rest.flatMap fun element => ' ' :: element.text

def Command.simple (command : Command) : Simple :=
  command.rest.foldl Element.extend (({} : Simple).add command.first.word)

def Command.sound (command : Command) : Bool :=
  command.first.sound && (keyword? command.first.word).isNone &&
    command.rest.all Element.sound

/-- What stands between two commands. -/
inductive Separator where
  | newline
  | semi
  | bar
  | andIf
  | amp

def Separator.text : Separator → List Char
  | .newline => ['\n']
  | .semi => [';', ' ']
  | .bar => [' ', '|', ' ']
  | .andIf => [' ', '&', '&', ' ']
  | .amp => [' ', '&', '\n']

def Separator.item : Separator → Item
  | .newline => .newline
  | .semi => .op .semi
  | .bar => .op .bar
  | .andIf => .op .andIf
  | .amp => .op .amp

def Separator.need : Separator → Need
  | .newline => .optional
  | .semi => .optional
  | .bar => .piped
  | .andIf => .required
  | .amp => .optional

/-- Commands with separators between them. -/
structure Script where
  first : Command
  rest : List (Separator × Command)

def Script.text (script : Script) : List Char :=
  script.first.text ++ script.rest.flatMap fun (separator, command) =>
    separator.text ++ command.text

def Script.items (script : Script) : List Item :=
  .simple script.first.simple :: script.rest.flatMap fun (separator, command) =>
    [separator.item, .simple command.simple]

def Script.sound (script : Script) : Bool :=
  script.first.sound && script.rest.all fun (_, command) => command.sound

section

variable {opened : List (Option Base)} {machine : Machine}
  {simple : Simple} {frames : List Frame} {items : List Item}
  (delivered : deliver machine = some ⟨.command simple, none, frames, items⟩)

include delivered in
/-- What reading an element leaves behind once its last word is taken. -/
theorem read_element {element : Element} (sound : element.sound = true) :
    ∃ next, read ⟨.plain true, opened⟩ machine (' ' :: element.text) =
        some (⟨.plain true, opened⟩, next) ∧
      deliver next =
        some ⟨.command (element.extend simple), none, frames, items⟩ := by
  cases element with
  | word arg =>
    refine ⟨⟨.command simple, some arg.word, frames, items⟩, ?_, rfl⟩
    rw [← List.singleton_append, read_append_of_eq (read_blank delivered)]
    exact Arg.reads sound opened _ false rfl
  | output arg =>
    refine ⟨⟨.target [] .great (some simple), some arg.word, frames, items⟩,
      ?_, rfl⟩
    have sign : read ⟨.plain false, opened⟩
        ⟨.command simple, none, frames, items⟩ ['>', ' '] =
        some (⟨.plain false, opened⟩,
          ⟨.target [] .great (some simple), none, frames, items⟩) := rfl
    rw [← List.singleton_append, read_append_of_eq (read_blank delivered)]
    change read _ _ (['>', ' '] ++ arg.text) = _
    rw [read_append_of_eq sign]
    exact Arg.reads sound opened _ false rfl

include delivered in
theorem read_elements {elements : List Element}
    (sound : ∀ element ∈ elements, element.sound = true) :
    ∃ next, read ⟨.plain true, opened⟩ machine
          (elements.flatMap fun element => ' ' :: element.text) =
        some (⟨.plain true, opened⟩, next) ∧
      deliver next =
        some ⟨.command (elements.foldl Element.extend simple), none, frames,
          items⟩ := by
  induction elements generalizing machine simple with
  | nil => exact ⟨machine, rfl, delivered⟩
  | cons element elements induction =>
    obtain ⟨middle, first, taken⟩ := @read_element opened _ _ _ _ delivered
      element (sound element (by simp))
    obtain ⟨next, rest, ended⟩ := induction taken fun other member =>
      sound other (by simp [member])
    refine ⟨next, ?_, ended⟩
    rw [List.flatMap_cons, read_append_of_eq first]
    exact rest

theorem Command.reads {command : Command} (sound : command.sound = true)
    (opened : List (Option Base)) (need : Need) (frames : List Frame)
    (items : List Item) :
    ∃ next, read ⟨.plain false, opened⟩ ⟨.start need, none, frames, items⟩
          command.text =
        some (⟨.plain true, opened⟩, next) ∧
      deliver next =
        some ⟨.command command.simple, none, frames, items⟩ := by
  rw [Command.sound, Bool.and_eq_true, Bool.and_eq_true, List.all_eq_true,
    Option.isNone_iff_eq_none] at sound
  obtain ⟨⟨first, free⟩, rest⟩ := sound
  obtain ⟨next, reading, ended⟩ := @read_elements opened
    ⟨.start need, some command.first.word, frames, items⟩ _ frames items
    (deliver_start_word free) command.rest rest
  refine ⟨next, ?_, ended⟩
  rw [Command.text, read_append_of_eq (Arg.reads first opened _ false rfl)]
  exact reading

include delivered in
theorem read_separator (separator : Separator) :
    read ⟨.plain true, opened⟩ machine separator.text =
      some (⟨.plain false, opened⟩, ⟨.start separator.need, none, frames,
        items ++ [.simple simple, separator.item]⟩) := by
  cases separator with
  | newline | semi | bar | andIf | amp =>
    exact read_delivered delivered rfl rfl rfl

include delivered in
theorem read_commands {rest : List (Separator × Command)}
    (sound : ∀ entry ∈ rest, entry.2.sound = true) :
    ∃ next last finished,
      read ⟨.plain true, opened⟩ machine
          (rest.flatMap fun (separator, command) =>
            separator.text ++ command.text) =
        some (⟨.plain true, opened⟩, next) ∧
      deliver next = some ⟨.command last, none, frames, finished⟩ ∧
      finished ++ [.simple last] = items ++ .simple simple ::
        rest.flatMap fun (separator, command) =>
          [separator.item, .simple command.simple] := by
  induction rest generalizing machine simple items with
  | nil => exact ⟨machine, simple, items, rfl, delivered, rfl⟩
  | cons entry rest induction =>
    obtain ⟨separator, command⟩ := entry
    obtain ⟨middle, reading, taken⟩ := Command.reads
      (sound (separator, command) (by simp)) opened separator.need frames
      (items ++ [.simple simple, separator.item])
    obtain ⟨next, last, finished, more, ended, collected⟩ :=
      induction taken fun other member => sound other (by simp [member])
    refine ⟨next, last, finished, ?_, ended, ?_⟩
    · rw [List.flatMap_cons, List.append_assoc,
        read_append_of_eq (read_separator delivered separator),
        read_append_of_eq reading]
      exact more
    · rw [collected]
      simp

end

theorem parse_script {text : String} {script : Script}
    (written : text.toList = script.text) (sound : script.sound = true) :
    parse text = some script.items := by
  rw [Script.sound, Bool.and_eq_true, List.all_eq_true] at sound
  obtain ⟨middle, first, taken⟩ := Command.reads sound.1 [] .optional [] []
  obtain ⟨next, last, finished, rest, ended, collected⟩ :=
    @read_commands [] middle _ [] [] taken script.rest sound.2
  have reading : read .start .start text.toList =
      some (⟨.plain true, []⟩, next) := by
    rw [written, Script.text]
    exact (read_append_of_eq first _).trans rest
  rw [parse_of_read reading]
  change next.accept = _
  rw [Machine.accept, ended]
  exact congrArg some collected

end OpenOxide.Shell
