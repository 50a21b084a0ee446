import Mathlib.Data.List.TakeWhile
import OpenOxide.Shell.Parse

/-!
# Words and quoting

A text reads as a word when scanner and parser together, wherever they stand
outside quotes, take exactly that word from it.  Quoted text reads as its own
letters; plain text reads as it is written.  Words with blanks between them are
the words of one simple command.
-/

namespace OpenOxide.Shell

/-- Scanner and parser on one text. -/
def read (scan : Scan) (machine : Machine) (text : List Char) :
    Option (Scan × Machine) :=
  (machine.run (events scan text)).map fun next => (after scan text, next)

@[simp]
theorem read_nil (scan : Scan) (machine : Machine) :
    read scan machine [] = some (scan, machine) := rfl

theorem read_append_of_eq {scan next : Scan} {machine middle : Machine}
    {left : List Char} (first : read scan machine left = some (next, middle))
    (right : List Char) :
    read scan machine (left ++ right) = read next middle right := by
  obtain ⟨_, ran, same⟩ := Option.map_eq_some_iff.mp first
  cases same
  rw [read, events_append, after_append, Machine.run_append, ran]
  rfl

theorem parse_of_read {text : String} {scan : Scan} {machine : Machine}
    (reading : read .start .start text.toList = some (scan, machine)) :
    parse text = (machine.run (finish scan)).bind Machine.accept := by
  rw [read, Option.map_eq_some_iff] at reading
  obtain ⟨next, ran, equal⟩ := reading
  obtain ⟨rfl, rfl⟩ := Prod.mk.injEq .. ▸ equal
  rw [parse, tokens, Machine.run_append, ran]
  rfl

/-- The text reads as the word: what is being read goes on with the word's
pieces. -/
def Reads (text : List Char) (word : Word) : Prop :=
  ∀ opened machine inWord, inWord = machine.word.isSome →
    read ⟨.plain inWord, opened⟩ machine text =
      some (⟨.plain true, opened⟩,
        { machine with word := some (machine.word.getD [] ++ word) })

theorem Reads.append {left right : List Char} {first second : Word}
    (leftReads : Reads left first) (rightReads : Reads right second) :
    Reads (left ++ right) (first ++ second) := by
  intro opened machine inWord agrees
  rw [read_append_of_eq (leftReads opened machine inWord agrees),
    rightReads opened _ true rfl]
  simp

/-- A letter that stands for itself inside a word. -/
def isOrdinary (letter : Char) : Bool :=
  classify letter == .ordinary

def quotedWord (letters : List Char) : Word :=
  letters.map (Piece.char · true)

def plainWord (letters : List Char) : Word :=
  letters.map (Piece.char · false)

theorem run_pieces {event : Char → Event} {piece : Char → Piece}
    (feeds : ∀ (machine : Machine) letter, machine.feed (event letter) =
      some (machine.piece (piece letter))) {machine : Machine} (word : Word)
    (letters : List Char) (pending : machine.word = some word) :
    machine.run (letters.map event) =
      some { machine with word := some (word ++ letters.map piece) } := by
  induction letters generalizing machine word with
  | nil => simp [← pending]
  | cons letter letters induction =>
    have next : (machine.piece (piece letter)).word =
        some (word ++ [piece letter]) := by
      rw [Machine.piece, pending]
      rfl
    rw [List.map_cons, Machine.run_cons, feeds, Option.bind_some,
      induction _ next]
    simp [Machine.piece]

theorem step_ordinary (opened : List (Option Base)) (inWord : Bool)
    {letter : Char} (ordinary : isOrdinary letter = true) :
    step ⟨.plain inWord, opened⟩ letter =
      (⟨.plain true, opened⟩, [.char letter false]) := by
  have class_eq : classify letter = .ordinary := by
    simpa [isOrdinary] using ordinary
  simp [step, stepPlain, class_eq]

/-- Inside a word a hash stands for itself too. -/
def isInner (letter : Char) : Bool :=
  classify letter == .ordinary || classify letter == .hash

theorem step_inner (opened : List (Option Base)) {letter : Char}
    (inner : isInner letter = true) :
    step ⟨.plain true, opened⟩ letter =
      (⟨.plain true, opened⟩, [.char letter false]) := by
  rw [isInner, Bool.or_eq_true, beq_iff_eq, beq_iff_eq] at inner
  rcases inner with ordinary | hash
  · simp [step, stepPlain, ordinary]
  · simp [step, stepPlain, hash]

theorem scan_inner (opened : List (Option Base)) {letters : List Char}
    (inner : letters.all isInner = true) :
    after ⟨.plain true, opened⟩ letters = ⟨.plain true, opened⟩ ∧
      events ⟨.plain true, opened⟩ letters =
        letters.map (Event.char · false) := by
  induction letters with
  | nil => exact ⟨rfl, rfl⟩
  | cons letter letters induction =>
    rw [List.all_cons, Bool.and_eq_true] at inner
    obtain ⟨state, output⟩ := induction inner.2
    rw [after_cons, events_cons, step_inner opened inner.1, state, output]
    exact ⟨rfl, rfl⟩

/-- Letters that are a word as they stand. -/
def isWordText : List Char → Bool
  | [] => false
  | letter :: letters => isOrdinary letter && letters.all isInner

theorem reads_plain {letters : List Char}
    (worded : isWordText letters = true) :
    Reads letters (plainWord letters) := by
  intro opened machine inWord agrees
  cases letters with
  | nil => cases worded
  | cons letter letters =>
    rw [isWordText, Bool.and_eq_true] at worded
    obtain ⟨state, output⟩ := scan_inner opened worded.2
    rw [read, after_cons, events_cons,
      step_ordinary opened inWord worded.1, state, output,
      List.singleton_append, Machine.run_cons]
    change ((machine.piece (.char letter false)).run _).map _ = _
    rw [run_pieces (fun _ _ => rfl)
      (machine.word.getD [] ++ [.char letter false]) letters rfl]
    simp [Machine.piece, plainWord]

/-- Each quote of the text closes the quotes, stands escaped, and opens them
again. -/
def escapeQuotes (letters : List Char) : List Char :=
  letters.flatMap fun letter =>
    if letter = '\'' then ['\'', '\\', '\'', '\''] else [letter]

def singleQuote (letters : List Char) : List Char :=
  '\'' :: escapeQuotes letters ++ ['\'']

theorem escapeQuotes_cons (letter : Char) (letters : List Char) :
    escapeQuotes (letter :: letters) =
      (if letter = '\'' then ['\'', '\\', '\'', '\''] else [letter]) ++
        escapeQuotes letters := rfl

/-- Inside quotes the escaped text is its own letters. -/
theorem scan_escapeQuotes (opened : List (Option Base))
    (letters : List Char) :
    after ⟨.single, opened⟩ (escapeQuotes letters) = ⟨.single, opened⟩ ∧
      events ⟨.single, opened⟩ (escapeQuotes letters) =
        letters.map (Event.char · true) := by
  induction letters with
  | nil => exact ⟨rfl, rfl⟩
  | cons letter letters induction =>
    have one : after ⟨.single, opened⟩ (if letter = '\'' then
          ['\'', '\\', '\'', '\''] else [letter]) = ⟨.single, opened⟩ ∧
        events ⟨.single, opened⟩ (if letter = '\'' then
          ['\'', '\\', '\'', '\''] else [letter]) = [.char letter true] := by
      by_cases quote : letter = '\''
      · rw [if_pos quote, quote]
        exact ⟨rfl, rfl⟩
      · simp [after, events, step, quote]
    rw [escapeQuotes_cons, after_append, events_append, one.1, one.2,
      induction.1, induction.2]
    exact ⟨rfl, rfl⟩

section

variable (letters : List Char)

include letters

theorem reads_singleQuote :
    Reads (singleQuote letters) (quotedWord letters) := by
  intro opened machine inWord agrees
  have opening : read ⟨.plain inWord, opened⟩ machine ['\''] =
      some (⟨.single, opened⟩,
        { machine with word := some (machine.word.getD []) }) := by
    obtain ⟨place, word, frames, items⟩ := machine
    subst agrees
    cases word with
    | none | some =>
      rfl
  have middle : ∀ next : Machine, ∀ word, next.word = some word →
      read ⟨.single, opened⟩ next (escapeQuotes letters) =
        some (⟨.single, opened⟩,
          { next with word := some (word ++ quotedWord letters) }) := by
    intro next word pending
    rw [read, (scan_escapeQuotes opened letters).2,
      run_pieces (fun _ _ => rfl) word letters pending,
      (scan_escapeQuotes opened letters).1]
    rfl
  rw [singleQuote, ← List.singleton_append, List.append_assoc,
    read_append_of_eq opening, read_append_of_eq (middle _ _ rfl)]
  rfl

@[simp]
theorem literal_quotedWord :
    literal (quotedWord letters) = some (String.ofList letters) := by
  have inert : inertLetters (quotedWord letters) = some letters := by
    induction letters with
    | nil => rfl
    | cons letter letters induction =>
      change (if _ then none else (inertLetters (quotedWord letters)).map _)
        = _
      rw [induction]
      rfl
  rw [literal, inert, if_neg]
  · rfl
  · cases letters with
    | nil => simp [quotedWord]
    | cons letter letters => simp [quotedWord]

theorem keyword?_quotedWord :
    keyword? (quotedWord letters) = none := by
  cases letters with
  | nil => decide
  | cons letter letters => rfl

theorem assignment?_quotedWord :
    assignment? (quotedWord letters) = none := by
  have all : (quotedWord letters).takeWhile (· != .char '=' false) =
      quotedWord letters := by
    rw [List.takeWhile_eq_self_iff]
    intro piece member
    obtain ⟨letter, -, rfl⟩ := List.mem_map.mp member
    simp
  simp [assignment?, all]

end

def Simple.addAll (simple : Simple) (words : List Word) : Simple :=
  words.foldl Simple.add simple

theorem Simple.addAll_of_words {simple : Simple}
    (started : simple.words ≠ []) (words : List Word) :
    simple.addAll words =
      { simple with words := simple.words ++ words } := by
  induction words generalizing simple with
  | nil => simp [Simple.addAll]
  | cons word words induction =>
    have added : simple.add word =
        { simple with words := simple.words ++ [word] } := by
      rw [Simple.add]
      split
      · contradiction
      · rfl
    change (simple.add word).addAll words = _
    rw [added, induction (by simp)]
    simp

/-- Each argument with a blank before it. -/
def spaced (texts : List (List Char)) : List Char :=
  texts.flatMap fun text => ' ' :: text

theorem spaced_cons (text : List Char) (texts : List (List Char)) :
    spaced (text :: texts) = ' ' :: (text ++ spaced texts) := rfl

theorem deliver_command_word (simple : Simple) (word : Word)
    (frames : List Frame) (items : List Item) :
    deliver ⟨.command simple, some word, frames, items⟩ =
      some ⟨.command (simple.add word), none, frames, items⟩ := rfl

/-- The events that end a word, whatever the word is. -/
def Event.delimits : Event → Bool
  | .blank | .newline | .leave => true
  | .op sign => !sign.redirects && sign != .leftParen
  | _ => false

variable {machine next : Machine}

section

variable (delivered : deliver machine = some next)

include delivered

theorem feed_delivered {event : Event} (taken : next.word = none)
    (delimits : event.delimits = true) :
    machine.feed event = next.feed event := by
  have again : deliver next = some next := by
    rw [deliver, taken]
  cases event with
  | blank => exact delivered.trans again.symm
  | newline | leave =>
    change (deliver machine).bind _ = (deliver next).bind _
    rw [delivered, again]
  | op op =>
    have whole : ∀ any : Machine,
        operator op any = (deliver any).bind (operate op) := by
      intro any
      cases op <;> first | rfl | cases delimits
    change operator op machine = operator op next
    rw [whole, whole, delivered, again]
  | _ => cases delimits

theorem read_delivered {scan : Scan} {text : List Char}
    {result : Option (Scan × Machine)}
    (ends : (events scan text).head?.any Event.delimits = true)
    (reading : read scan next text = result) (taken : next.word = none) :
    read scan machine text = result := by
  rw [← reading, read, read]
  cases input : events scan text with
  | nil =>
    rw [input] at ends
    cases ends
  | cons event input' =>
    rw [input] at ends
    rw [Machine.run_cons, Machine.run_cons, feed_delivered delivered taken ends]

theorem read_blank {opened : List (Option Base)} {inWord : Bool} :
    read ⟨.plain inWord, opened⟩ machine [' '] =
      some (⟨.plain false, opened⟩, next) := by
  have run : machine.run [.blank] = some next := by
    change (deliver machine).bind _ = _
    rw [delivered]
    rfl
  change (machine.run [.blank]).map _ = _
  rw [run]
  rfl

end

/-- The arguments of a simple command. -/
theorem read_spaced {opened : List (Option Base)}
    {simple : Simple} {frames : List Frame} {items : List Item}
    (delivered : deliver machine =
      some ⟨.command simple, none, frames, items⟩)
    {texts : List (List Char)} {words : List Word}
    (reads : List.Forall₂ Reads texts words) :
    ∃ next, read ⟨.plain true, opened⟩ machine (spaced texts) =
        some (⟨.plain true, opened⟩, next) ∧
      deliver next =
        some ⟨.command (simple.addAll words), none, frames, items⟩ := by
  induction reads generalizing machine simple with
  | nil => exact ⟨machine, rfl, delivered⟩
  | @cons text word texts words first rest induction =>
    obtain ⟨next, reading, ended⟩ := induction
      (deliver_command_word simple word frames items)
    refine ⟨next, ?_, ended⟩
    rw [spaced_cons, ← List.singleton_append,
      read_append_of_eq (read_blank delivered),
      read_append_of_eq (first opened _ false rfl)]
    exact reading

theorem deliver_start_word {need : Need} {word : Word}
    {frames : List Frame} {items : List Item}
    (free : keyword? word = none) :
    deliver ⟨.start need, some word, frames, items⟩ =
      some ⟨.command (({} : Simple).add word), none, frames, items⟩ := by
  change startWord need frames items word = _
  rw [startWord, free]

theorem parse_simple {text : String} {first : List Char} {word : Word}
    {texts : List (List Char)} {words : List Word}
    (written : text.toList = first ++ spaced texts)
    (firstReads : Reads first word) (free : keyword? word = none)
    (reads : List.Forall₂ Reads texts words) :
    parse text = some [.simple (({} : Simple).addAll (word :: words))] := by
  obtain ⟨next, reading, ended⟩ := @read_spaced
    ⟨.start .optional, some word, [], []⟩ [] _ [] []
    (deliver_start_word free) texts words reads
  have whole : read ⟨.plain false, []⟩ ⟨.start .optional, none, [], []⟩
      text.toList = some (⟨.plain true, []⟩, next) := by
    rw [written, read_append_of_eq (firstReads [] _ false rfl)]
    exact reading
  rw [parse_of_read whole]
  change next.accept = _
  rw [Machine.accept, ended]
  rfl

end OpenOxide.Shell
