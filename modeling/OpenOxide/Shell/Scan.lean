import Mathlib.Data.List.Basic

/-!
# Scanning shell text

A shell reads a text letter by letter.  What a letter means depends on the
quotes it stands in and on the substitutions that are open around it.  The
scanner keeps both in its state and turns every letter into events: a letter of
a word, the beginning of a quoted word, a piece of an expansion, a separator or
an operator.

The fragment has the three kinds of quoting, line continuation, comments,
parameter expansion and command substitution with `$(`.  Backquotes, here
documents and nested expansions in braces are outside of it; they become the
event `foreign`, which no reader of the events accepts.
-/

namespace OpenOxide.Shell

/-- The operators. -/
inductive Op where
  | semi
  | doubleSemi
  | amp
  | andIf
  | bar
  | orIf
  | less
  | great
  | doubleGreat
  | ampGreat
  | ampDoubleGreat
  | lessAmp
  | greatAmp
  | leftParen
  | rightParen
deriving DecidableEq

/-- What the scanner reports of a character. -/
inductive Event where
  | char (letter : Char) (quoted : Bool)
  /-- A quote at the beginning of a word, which is a word even when nothing
  stands between its quotes. -/
  | mark
  | expand (letter : Char) (quoted : Bool)
  | enter
  | leave
  | blank
  | newline
  | op (op : Op)
  | foreign

/-- The characters that the scanner tells apart. -/
inductive Class where
  | blank
  | newline
  | single
  | double
  | backslash
  | dollar
  | backquote
  | hash
  | semi
  | amp
  | bar
  | less
  | great
  | leftParen
  | rightParen
  | ordinary
deriving DecidableEq

/-- The class of a letter, by its code in ASCII. -/
def classify (letter : Char) : Class :=
  match letter.toNat with
  | 9 => .blank
  | 10 => .newline
  | 32 => .blank
  | 34 => .double
  | 35 => .hash
  | 36 => .dollar
  | 38 => .amp
  | 39 => .single
  | 40 => .leftParen
  | 41 => .rightParen
  | 59 => .semi
  | 60 => .less
  | 62 => .great
  | 92 => .backslash
  | 96 => .backquote
  | 124 => .bar
  | _ => .ordinary

theorem letter_of_classify {letter : Char} :
    (classify letter = .single → letter = '\'') ∧
      (classify letter = .double → letter = '"') ∧
      (classify letter = .backslash → letter = '\\') := by
  refine ⟨?_, ?_, ?_⟩
  all_goals
    intro equal
    apply Char.toNat_inj.mp
    unfold classify at equal
    split at equal <;> first | assumption | cases equal

def isNameStart (letter : Char) : Bool :=
  letter.isAlpha || letter == '_'

def isNameLetter (letter : Char) : Bool :=
  letter.isAlphanum || letter == '_'

/-- The parameters of one letter: the positional and the special ones. -/
def isParameterLetter (letter : Char) : Bool :=
  letter.isDigit || ['@', '*', '#', '?', '-', '$', '!'].contains letter

/-- Where an expansion stands. -/
inductive Base where
  | plain
  | double
deriving DecidableEq

/-- The quoting around the next character. -/
inductive Mode where
  | plain (inWord : Bool)
  | single
  | double
  | escape (inWord : Bool)
  | escapeDouble
  | comment
  | dollar (base : Base)
  | name (base : Base)
  | brace (base : Base)
  | pending (op : Op)

/-- The parentheses that are open: a group, or a substitution with the place it
stands in. -/
structure Scan where
  mode : Mode
  opened : List (Option Base)

def Base.mode : Base → Mode
  | .plain => .plain true
  | .double => .double

/-- A letter of an expansion, which stands in double quotes or not. -/
@[simp]
def Base.expand (base : Base) (letter : Char) : Event :=
  .expand letter (base == .double)

/-- The state at the beginning of a text. -/
def Scan.start : Scan := ⟨.plain false, []⟩

variable (opened : List (Option Base))

def stepPlain (inWord : Bool) (letter : Char) : Scan × List Event :=
  match classify letter with
  | .blank => (⟨.plain false, opened⟩, [.blank])
  | .newline => (⟨.plain false, opened⟩, [.newline])
  | .single => (⟨.single, opened⟩, if inWord then [] else [.mark])
  | .double => (⟨.double, opened⟩, if inWord then [] else [.mark])
  | .backslash => (⟨.escape inWord, opened⟩, [])
  | .dollar => (⟨.dollar .plain, opened⟩, [])
  | .backquote => (⟨.plain true, opened⟩, [.foreign])
  | .hash =>
    if inWord then (⟨.plain true, opened⟩, [.char letter false])
    else (⟨.comment, opened⟩, [])
  | .semi => (⟨.pending .semi, opened⟩, [])
  | .amp => (⟨.pending .amp, opened⟩, [])
  | .bar => (⟨.pending .bar, opened⟩, [])
  | .less => (⟨.pending .less, opened⟩, [])
  | .great => (⟨.pending .great, opened⟩, [])
  | .leftParen => (⟨.plain false, none :: opened⟩, [.op .leftParen])
  | .rightParen =>
    match opened with
    | some base :: outer => (⟨base.mode, outer⟩, [.leave])
    | none :: outer => (⟨.plain false, outer⟩, [.op .rightParen])
    | [] => (⟨.plain false, []⟩, [.op .rightParen])
  | .ordinary => (⟨.plain true, opened⟩, [.char letter false])

def stepDouble (letter : Char) : Scan × List Event :=
  match classify letter with
  | .double => (⟨.plain true, opened⟩, [])
  | .backslash => (⟨.escapeDouble, opened⟩, [])
  | .dollar => (⟨.dollar .double, opened⟩, [])
  | .backquote => (⟨.double, opened⟩, [.foreign])
  | _ => (⟨.double, opened⟩, [.char letter true])

def stepBase (base : Base) (letter : Char) : Scan × List Event :=
  match base with
  | .plain => stepPlain opened true letter
  | .double => stepDouble opened letter

/-- Put an event before those of a step. -/
def emitBefore (event : Event) (result : Scan × List Event) :
    Scan × List Event :=
  (result.1, event :: result.2)

/-- A dollar sign that begins no expansion is unspecified. -/
def stepDollar (base : Base) (letter : Char) : Scan × List Event :=
  if letter = '(' then (⟨.plain false, some base :: opened⟩, [.enter])
  else if letter = '\x7b' then (⟨.brace base, opened⟩, [base.expand letter])
  else if isNameStart letter then (⟨.name base, opened⟩, [base.expand letter])
  else if isParameterLetter letter then
    (⟨base.mode, opened⟩, [base.expand letter])
  else emitBefore .foreign (stepBase opened base letter)

/-- A letter right after an operator can make it longer. -/
def lengthen (op : Op) (letter : Char) : Option (Mode × List Event) :=
  match op, classify letter with
  | .semi, .semi => some (.plain false, [.op .doubleSemi])
  | .amp, .amp => some (.plain false, [.op .andIf])
  | .amp, .great => some (.pending .ampGreat, [])
  | .bar, .bar => some (.plain false, [.op .orIf])
  | .less, .less => some (.plain false, [.foreign])
  | .less, .amp => some (.plain false, [.op .lessAmp])
  | .great, .great => some (.plain false, [.op .doubleGreat])
  | .great, .amp => some (.plain false, [.op .greatAmp])
  | .ampGreat, .great => some (.plain false, [.op .ampDoubleGreat])
  | _, _ => none

def step (scan : Scan) (letter : Char) : Scan × List Event :=
  match scan.mode with
  | .plain inWord => stepPlain scan.opened inWord letter
  | .single =>
    if letter = '\'' then (⟨.plain true, scan.opened⟩, [])
    else (⟨.single, scan.opened⟩, [.char letter true])
  | .double => stepDouble scan.opened letter
  | .escape inWord =>
    if letter = '\n' then (⟨.plain inWord, scan.opened⟩, [])
    else (⟨.plain true, scan.opened⟩, [.char letter true])
  | .escapeDouble =>
    if letter = '\n' then (⟨.double, scan.opened⟩, [])
    else if letter = '$' ∨ letter = '\x60' ∨ letter = '"' ∨ letter = '\\' then
      (⟨.double, scan.opened⟩, [.char letter true])
    else
      (⟨.double, scan.opened⟩, [.char '\\' true, .char letter true])
  | .comment =>
    if letter = '\n' then (⟨.plain false, scan.opened⟩, [.newline])
    else (⟨.comment, scan.opened⟩, [])
  | .dollar base => stepDollar scan.opened base letter
  | .name base =>
    if isNameLetter letter then
      (⟨.name base, scan.opened⟩, [base.expand letter])
    else stepBase scan.opened base letter
  | .brace base =>
    if letter = '}' then (⟨base.mode, scan.opened⟩, [base.expand letter])
    else if ['\'', '"', '\\', '$', '\x60', '\x7b'].contains letter then
      (⟨.brace base, scan.opened⟩, [.foreign])
    else (⟨.brace base, scan.opened⟩, [base.expand letter])
  | .pending op =>
    match lengthen op letter with
    | some (mode, events) => (⟨mode, scan.opened⟩, events)
    | none => emitBefore (.op op) (stepPlain scan.opened false letter)

def after (scan : Scan) (text : List Char) : Scan :=
  text.foldl (fun scan letter => (step scan letter).1) scan

def events (scan : Scan) : List Char → List Event
  | [] => []
  | letter :: text =>
    (step scan letter).2 ++ events (step scan letter).1 text

/-- What the end of the text adds.  A quote or a parenthesis that is still open
is an error. -/
def finish (scan : Scan) : List Event :=
  if scan.opened ≠ [] then [.foreign]
  else
    match scan.mode with
    | .plain _ => []
    | .comment => []
    | .name .plain => []
    | .pending op => [.op op]
    | _ => [.foreign]

def tokens (text : List Char) : List Event :=
  events .start text ++ finish (after .start text)

section

variable (scan : Scan)

include scan

@[simp]
theorem after_nil : after scan [] = scan := rfl

@[simp]
theorem events_nil : events scan [] = [] := rfl

theorem after_cons (letter : Char) (text : List Char) :
    after scan (letter :: text) = after (step scan letter).1 text := rfl

theorem events_cons (letter : Char) (text : List Char) :
    events scan (letter :: text) =
      (step scan letter).2 ++ events (step scan letter).1 text := rfl

theorem after_append (left right : List Char) :
    after scan (left ++ right) = after (after scan left) right := by
  simp [after, List.foldl_append]

theorem events_append (left right : List Char) :
    events scan (left ++ right) =
      events scan left ++ events (after scan left) right := by
  induction left generalizing scan with
  | nil => rfl
  | cons letter left induction =>
    rw [List.cons_append, events_cons, events_cons, induction, after_cons,
      List.append_assoc]

end

end OpenOxide.Shell
