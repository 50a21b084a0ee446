import OpenOxide.Shell.Scan

/-!
# Parsing shell text

The parser is a stack machine over the events of the scanner.  Its place says
what may come next, its frames are the compound commands and substitutions that
are open, and its items are what it has read so far: the simple commands with
their words, between the keywords and operators that hold them together.  A
text is a program when the machine gets through it and every compound command
is closed at its end.

The grammar is that of the POSIX shell without `case` and here documents, with
array assignments as in bash.
-/

namespace OpenOxide.Shell

/-- A part of a word. -/
inductive Piece where
  | char (letter : Char) (quoted : Bool)
  | expand (letter : Char) (quoted : Bool)
  | substitution
deriving DecidableEq

abbrev Word := List Piece

/-- The letters of a word without quotes and expansions. -/
def plainText : Word → Option (List Char)
  | [] => some []
  | .char letter false :: word => (plainText word).map (letter :: ·)
  | _ :: _ => none

def Piece.letter? : Piece → Option Char
  | .char letter _ => some letter
  | _ => none

/-- A letter outside quotes that pathname expansion reads.  A bracket is one
when it can be closed in the rest of the word. -/
def isPattern (letter : Char) (rest : List (Option Char)) : Bool :=
  letter == '*' || letter == '?' || letter == '[' && rest.contains (some ']')

/-- The letters of a word that every expansion leaves as it is. -/
def inertLetters : Word → Option (List Char)
  | [] => some []
  | .char letter quoted :: word =>
    if !quoted && isPattern letter (word.map Piece.letter?) then none
    else (inertLetters word).map (letter :: ·)
  | _ :: _ => none

/-- The argument that a word is for the command it stands in, when no expansion
has a say in it. -/
def literal (word : Word) : Option String :=
  if word.head? = some (.char '~' false) then none
  else (inertLetters word).map String.ofList

/-- The reserved words. -/
inductive Keyword where
  | ifWord
  | thenWord
  | elifWord
  | elseWord
  | fiWord
  | whileWord
  | untilWord
  | forWord
  | doWord
  | doneWord
  | leftBrace
  | rightBrace
  | bang
  /-- A reserved word of a construct outside the fragment. -/
  | other
deriving DecidableEq

def keywords : List (List Char × Keyword) :=
  [(['i', 'f'], .ifWord),
    (['t', 'h', 'e', 'n'], .thenWord),
    (['e', 'l', 'i', 'f'], .elifWord),
    (['e', 'l', 's', 'e'], .elseWord),
    (['f', 'i'], .fiWord),
    (['w', 'h', 'i', 'l', 'e'], .whileWord),
    (['u', 'n', 't', 'i', 'l'], .untilWord),
    (['f', 'o', 'r'], .forWord),
    (['d', 'o'], .doWord),
    (['d', 'o', 'n', 'e'], .doneWord),
    (['\x7b'], .leftBrace),
    (['\x7d'], .rightBrace),
    (['!'], .bang),
    (['c', 'a', 's', 'e'], .other),
    (['e', 's', 'a', 'c'], .other),
    (['i', 'n'], .other),
    (['f', 'u', 'n', 'c', 't', 'i', 'o', 'n'], .other),
    (['s', 'e', 'l', 'e', 'c', 't'], .other),
    (['c', 'o', 'p', 'r', 'o', 'c'], .other),
    (['t', 'i', 'm', 'e'], .other),
    (['[', '['], .other)]

/-- A word is reserved when it is written without quotes. -/
def keyword? (word : Word) : Option Keyword :=
  (plainText word).bind fun letters =>
    (keywords.find? fun entry => entry.1 == letters).map Prod.snd

def isName : List Char → Bool
  | [] => false
  | letter :: letters => isNameStart letter && letters.all isNameLetter

/-- The name and the value of an assignment word.  The name and its sign stand
outside quotes. -/
def assignment? (word : Word) : Option (List Char × Word) :=
  let name := word.takeWhile (· != .char '=' false)
  match word.drop name.length, plainText name with
  | _ :: value, some letters =>
    if isName letters then some (letters, value) else none
  | _, _ => none

/-- The right side of an assignment. -/
inductive Value where
  | word (word : Word)
  | array (words : List Word)
deriving DecidableEq

structure Redirection where
  number : List Char
  op : Op
  target : Word
deriving DecidableEq

structure Simple where
  assigns : List (List Char × Value) := []
  words : List Word := []
  redirections : List Redirection := []
deriving DecidableEq

/-- The next word of a simple command.  Assignments stand before the first
word that is none. -/
def Simple.add (simple : Simple) (word : Word) : Simple :=
  match simple.words, assignment? word with
  | [], some (name, value) =>
    { simple with assigns := simple.assigns ++ [(name, .word value)] }
  | _, _ => { simple with words := simple.words ++ [word] }

/-- The units of a script, in order. -/
inductive Item where
  | simple (command : Simple)
  | keyword (keyword : Keyword)
  | loop (name : List Char) (words : List Word)
  | function (name : List Char)
  | redirection (redirection : Redirection)
  | op (op : Op)
  | newline
  | enter
  | leave
deriving DecidableEq

/-- Whether a command has to come.  In a pipeline it has to come without a
`!` of its own. -/
inductive Need where
  | optional
  | required
  | piped
deriving DecidableEq

/-- What the parser has read of the current item. -/
inductive Place where
  | start (need : Need)
  | command (simple : Simple)
  /-- After the sign of a redirection, of the simple command if there is one
  and else of a compound command. -/
  | target (number : List Char) (op : Op) (back : Option Simple)
  | closed
  | forName
  | forIn (name : List Char)
  | forWords (name : List Char) (words : List Word)
  | forDo
  | header (name : List Char)
  | body
  | array (simple : Simple) (name : List Char) (words : List Word)

/-- An open compound command. -/
inductive Frame where
  | ifCond
  | ifThen
  | ifElse
  | loopCond
  | loopBody
  | brace
  | paren
  | substitution (place : Place) (word : Word)

structure Machine where
  place : Place
  word : Option Word
  frames : List Frame
  items : List Item

def Machine.start : Machine := ⟨.start .optional, none, [], []⟩

/-- What a reserved word opens. -/
def Keyword.opens : Keyword → Option (List Frame × Place)
  | .ifWord => some ([.ifCond], .start .required)
  | .whileWord => some ([.loopCond], .start .required)
  | .untilWord => some ([.loopCond], .start .required)
  | .leftBrace => some ([.brace], .start .required)
  | .forWord => some ([], .forName)
  | .bang => some ([], .start .required)
  | _ => none

/-- What a reserved word makes of the frame that it continues or closes. -/
def Keyword.turns : Keyword → Frame → Option (List Frame × Place)
  | .thenWord, .ifCond => some ([.ifThen], .start .required)
  | .elifWord, .ifThen => some ([.ifCond], .start .required)
  | .elseWord, .ifThen => some ([.ifElse], .start .required)
  | .fiWord, .ifThen => some ([], .closed)
  | .fiWord, .ifElse => some ([], .closed)
  | .doWord, .loopCond => some ([.loopBody], .start .required)
  | .doneWord, .loopBody => some ([], .closed)
  | .rightBrace, .brace => some ([], .closed)
  | _, _ => none

/-- What a keyword opens or closes. -/
def Keyword.turn (keyword : Keyword) (frames : List Frame)
    (items : List Item) : Option Machine :=
  match frames with
  | [] => none
  | frame :: outer =>
    (keyword.turns frame).map fun (inner, place) =>
      ⟨place, none, inner ++ outer, items ++ [.keyword keyword]⟩

/-- A word where a command may begin. -/
def startWord (need : Need) (frames : List Frame) (items : List Item)
    (word : Word) : Option Machine :=
  match keyword? word with
  | none => some ⟨.command (({} : Simple).add word), none, frames, items⟩
  | some keyword =>
    if need = .piped ∧ keyword = .bang then none
    else
      match keyword.opens with
      | some (inner, place) =>
        some ⟨place, none, inner ++ frames, items ++ [.keyword keyword]⟩
      | none =>
        if need = .optional then keyword.turn frames items else none

variable (machine : Machine)

/-- The end of a word. -/
def deliver : Option Machine :=
  match machine.word with
  | none => some machine
  | some word =>
    let { place, frames, items, .. } := machine
    match place with
    | .start need => startWord need frames items word
    | .command simple =>
      some ⟨.command (simple.add word), none, frames, items⟩
    | .target number op (some simple) =>
      some ⟨.command { simple with
        redirections := simple.redirections ++ [⟨number, op, word⟩] },
        none, frames, items⟩
    | .target number op none =>
      some ⟨.closed, none, frames,
        items ++ [.redirection ⟨number, op, word⟩]⟩
    | .closed => (keyword? word).bind fun keyword =>
      keyword.turn frames items
    | .forName => (plainText word).bind fun name =>
      if isName name then some ⟨.forIn name, none, frames, items⟩ else none
    | .forIn name =>
      if plainText word = some ['i', 'n'] then
        some ⟨.forWords name [], none, frames, items⟩
      else none
    | .forWords name words =>
      some ⟨.forWords name (words ++ [word]), none, frames, items⟩
    | .forDo =>
      if keyword? word = some .doWord then
        some ⟨.start .required, none, .loopBody :: frames,
          items ++ [.keyword .doWord]⟩
      else none
    | .header _ => none
    | .body =>
      if keyword? word = some .leftBrace then
        some ⟨.start .required, none, .brace :: frames,
          items ++ [.keyword .leftBrace]⟩
      else none
    | .array simple name words =>
      some ⟨.array simple name (words ++ [word]), none, frames, items⟩

/-- A line end, with no word pending. -/
def breakLine : Option Machine :=
  let { place, frames, items, .. } := machine
  match place with
  | .start _ => some machine
  | .command simple =>
    some ⟨.start .optional, none, frames, items ++ [.simple simple, .newline]⟩
  | .closed => some ⟨.start .optional, none, frames, items ++ [.newline]⟩
  | .forWords name words =>
    some ⟨.forDo, none, frames, items ++ [.loop name words]⟩
  | .forIn _ => some machine
  | .forDo => some machine
  | .body => some machine
  | .array .. => some machine
  | _ => none

/-- The commands read so far, when a list may end here. -/
def ended (place : Place) (items : List Item) : Option (List Item) :=
  match place with
  | .start .optional => some items
  | .command simple => some (items ++ [.simple simple])
  | .closed => some items
  | _ => none

/-- An operator between commands. -/
def separate (op : Op) (need : Need) (machine : Machine) : Option Machine :=
  let { place, frames, items, .. } := machine
  match place with
  | .command simple =>
    some ⟨.start need, none, frames, items ++ [.simple simple, .op op]⟩
  | .closed => some ⟨.start need, none, frames, items ++ [.op op]⟩
  | .forWords name words =>
    if op = .semi then
      some ⟨.forDo, none, frames, items ++ [.loop name words]⟩
    else none
  | _ => none

def redirect (op : Op) (number : List Char) (machine : Machine) :
    Option Machine :=
  match machine.place with
  | .start _ =>
    some { machine with place := .target number op (some {}), word := none }
  | .command simple =>
    some { machine with
      place := .target number op (some simple), word := none }
  | .closed =>
    some { machine with place := .target number op none, word := none }
  | _ => none

def openParen : Option Machine :=
  let { place, frames, items, .. } := machine
  match place with
  | .start _ =>
    some ⟨.start .required, none, .paren :: frames, items ++ [.op .leftParen]⟩
  | .command { assigns := [], words := [word], redirections := [] } =>
    (plainText word).bind fun name =>
      if isName name then some ⟨.header name, none, frames, items⟩ else none
  | _ => none

def closeParen : Option Machine :=
  let { place, frames, items, .. } := machine
  match place with
  | .header name =>
    some ⟨.body, none, frames, items ++ [.function name]⟩
  | .array simple name words =>
    some ⟨.command { simple with
      assigns := simple.assigns ++ [(name, .array words)] },
      none, frames, items⟩
  | place =>
    match frames, ended place items with
    | .paren :: outer, some items =>
      some ⟨.closed, none, outer, items ++ [.op .rightParen]⟩
    | _, _ => none

/-- An operator, with no word pending. -/
def operate (op : Op) (machine : Machine) : Option Machine :=
  match op with
  | .semi => separate .semi .optional machine
  | .amp => separate .amp .optional machine
  | .andIf => separate .andIf .required machine
  | .orIf => separate .orIf .required machine
  | .bar => separate .bar .piped machine
  | .doubleSemi => none
  | .leftParen => openParen machine
  | .rightParen => closeParen machine
  | op => redirect op [] machine

def Op.redirects : Op → Bool
  | .less | .great | .doubleGreat | .ampGreat | .ampDoubleGreat
  | .lessAmp | .greatAmp => true
  | _ => false

/-- The digits right before a sign of redirection. -/
def ioNumber? : Option (List Char) :=
  (machine.word.bind plainText).bind fun letters =>
    if letters ≠ [] ∧ letters.all Char.isDigit then some letters else none

/-- The name of an array whose elements begin here. -/
def arrayStart? : Option (Simple × List Char) :=
  match machine.word.bind assignment?, machine.place with
  | some (name, []), .start _ => some ({}, name)
  | some (name, []), .command simple =>
    if simple.words = [] then some (simple, name) else none
  | _, _ => none

def operator (op : Op) (machine : Machine) : Option Machine :=
  if op.redirects then
    match ioNumber? machine with
    | some number => redirect op number { machine with word := none }
    | none => (deliver machine).bind (operate op)
  else
    match op, arrayStart? machine with
    | .leftParen, some (simple, name) =>
      some ⟨.array simple name [], none, machine.frames, machine.items⟩
    | _, _ => (deliver machine).bind (operate op)

def Machine.piece (piece : Piece) : Machine :=
  { machine with word := some (machine.word.getD [] ++ [piece]) }

def leaveSubstitution : Option Machine :=
  match machine.frames, ended machine.place machine.items with
  | .substitution place word :: outer, some items =>
    some ⟨place, some (word ++ [.substitution]), outer, items ++ [.leave]⟩
  | _, _ => none

/-- One event of the scanner. -/
def Machine.feed : Event → Option Machine
  | .char letter quoted => some (machine.piece (.char letter quoted))
  | .expand letter quoted => some (machine.piece (.expand letter quoted))
  | .mark => some { machine with word := some (machine.word.getD []) }
  | .enter =>
    some ⟨.start .optional, none,
      .substitution machine.place (machine.word.getD []) :: machine.frames,
      machine.items ++ [.enter]⟩
  | .leave => (deliver machine).bind leaveSubstitution
  | .blank => deliver machine
  | .newline => (deliver machine).bind breakLine
  | .op op => operator op machine
  | .foreign => none

def Machine.run (input : List Event) : Option Machine :=
  input.foldlM Machine.feed machine

/-- The items, when all is closed. -/
def Machine.accept : Option (List Item) :=
  (deliver machine).bind fun machine =>
    if machine.frames = [] then ended machine.place machine.items else none

/-- The program that a text is. -/
def parse (text : String) : Option (List Item) :=
  (Machine.start.run (tokens text.toList)).bind Machine.accept

@[simp]
theorem Machine.run_nil : machine.run [] = some machine := rfl

theorem Machine.run_cons (event : Event) (input : List Event) :
    machine.run (event :: input) =
      (machine.feed event).bind fun next => next.run input := rfl

theorem Machine.run_append (left right : List Event) :
    machine.run (left ++ right) =
      (machine.run left).bind fun next => next.run right := by
  induction left generalizing machine with
  | nil => rfl
  | cons event left induction =>
    rw [List.cons_append, Machine.run_cons, Machine.run_cons, Option.bind_assoc]
    congr 1
    funext next
    exact induction next

end OpenOxide.Shell
