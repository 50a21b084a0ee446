import OpenOxide.Shell.Invoke

/-!
# A line of words without quotes

The words of a command that stand without quotes are read one by one up to the
end of the line or the next operator.  Each of them is a run of letters without
a meaning to the shell.  So a command whose values stand like that has its
values as arguments only when each of them is such a run.
-/

namespace OpenOxide.Shell

def Simple.more (simple : Simple) (words : List Word) : Simple :=
  { simple with words := simple.words ++ words }

@[simp]
theorem Simple.more_nil (simple : Simple) : simple.more [] = simple := by
  simp [Simple.more]

theorem Simple.more_more (simple : Simple) (first second : List Word) :
    (simple.more first).more second = simple.more (first ++ second) := by
  simp [Simple.more]

theorem Simple.add_of_words {simple : Simple} (started : simple.words ≠ [])
    (word : Word) : simple.add word = simple.more [word] :=
  Simple.addAll_of_words started [word]

def isLine (letter : Char) : Bool :=
  isInner letter || letter == ' '

/-- A word that is its own letters. -/
def IsPlain (word : Word) : Prop :=
  ∃ letters, isWordText letters = true ∧ word = plainWord letters

/-- Between the words of a command, in one of them, or in a comment after
them. -/
inductive AtLine (frames : List Frame) (items : List Item)
    (simple : Simple) : Scan → Machine → Prop where
  | idle : AtLine frames items simple ⟨.plain false, []⟩
      ⟨.command simple, none, frames, items⟩
  | inside {letters : List Char} (worded : isWordText letters = true) :
      AtLine frames items simple ⟨.plain true, []⟩
        ⟨.command simple, some (plainWord letters), frames, items⟩
  | comment : AtLine frames items simple ⟨.comment, []⟩
      ⟨.command simple, none, frames, items⟩

variable {letter : Char} {rest : List Char} {value : String}
  {program : List Item}

variable {text : List Char}

section Line

variable {frames : List Frame} {items : List Item} {simple : Simple}
  {scan : Scan} {machine : Machine}

theorem isLine_cases (line : isLine letter = true) :
    letter = ' ' ∨ classify letter = .ordinary ∨ classify letter = .hash := by
  rw [isLine, isInner, Bool.or_eq_true, Bool.or_eq_true, beq_iff_eq,
    beq_iff_eq, beq_iff_eq] at line
  rcases line with (ordinary | hash) | blank
  · exact .inr (.inl ordinary)
  · exact .inr (.inr hash)
  · exact .inl blank

theorem AtLine.step (started : simple.words ≠ [])
    (here : AtLine frames items simple scan machine)
    (line : isLine letter = true) :
    ∃ next middle words, read scan machine [letter] = some (next, middle) ∧
      AtLine frames items (simple.more words) next middle ∧
      ∀ word ∈ words, IsPlain word := by
  have none : ∀ next middle, AtLine frames items simple next middle →
      AtLine frames items (simple.more []) next middle ∧
        ∀ word ∈ ([] : List Word), IsPlain word := by
    intro next middle place
    rw [Simple.more_nil]
    exact ⟨place, by simp⟩
  have single : ∀ letters : List Char,
      read ⟨.plain true, []⟩
          ⟨.command simple, some (plainWord letters), frames, items⟩ [' '] =
        some (⟨.plain false, []⟩,
          ⟨.command (simple.add (plainWord letters)), .none, frames,
            items⟩) := fun letters => read_blank rfl
  cases here with
  | idle =>
    rcases isLine_cases line with rfl | ordinary | hash
    · exact ⟨_, _, [], rfl, none _ _ .idle⟩
    · have worded : isWordText [letter] = true := by
        simp [isWordText, isOrdinary, ordinary]
      exact ⟨_, _, [], reads_plain worded [] _ false rfl,
        none _ _ (.inside worded)⟩
    · refine ⟨_, _, [], ?_, none _ _ .comment⟩
      simp [read, events, after, Shell.step, stepPlain, hash]
  | @inside letters worded =>
    rcases isLine_cases line with rfl | inner
    · refine ⟨_, _, [plainWord letters], single letters, ?_, ?_⟩
      · rw [Simple.add_of_words started]
        exact .idle
      · intro word member
        exact ⟨letters, worded, List.mem_singleton.mp member⟩
    · have letterInner : isInner letter = true := by
        simpa [isInner] using inner
      have longer : isWordText (letters ++ [letter]) = true := by
        cases letters with
        | nil => exact absurd worded (by decide)
        | cons first rest =>
          rw [isWordText, Bool.and_eq_true] at worded
          simp [isWordText, worded.1, worded.2, letterInner]
      refine ⟨⟨.plain true, []⟩, ⟨.command simple,
        some (plainWord (letters ++ [letter])), frames, items⟩, [], ?_,
        none _ _ (.inside longer)⟩
      simp [read, events, after, step_inner [] letterInner, plainWord,
        Machine.run_cons, Machine.feed, Machine.piece]
  | comment =>
    refine ⟨_, _, [], ?_, none _ _ .comment⟩
    have same : letter ≠ '\n' := by
      rintro rfl
      exact absurd line (by decide)
    simp [read, events, after, Shell.step, same]

theorem AtLine.run (started : simple.words ≠ [])
    (here : AtLine frames items simple scan machine)
    (line : ∀ letter ∈ text, isLine letter = true) :
    ∃ next middle words, read scan machine text = some (next, middle) ∧
      AtLine frames items (simple.more words) next middle ∧
      ∀ word ∈ words, IsPlain word := by
  induction text generalizing scan machine simple with
  | nil =>
    refine ⟨scan, machine, [], rfl, ?_, by simp⟩
    rw [Simple.more_nil]
    exact here
  | cons letter text induction =>
    obtain ⟨next, middle, words, first, there, plain⟩ :=
      here.step started (line letter (by simp))
    obtain ⟨last, final, more, rest, ends, others⟩ :=
      induction (by simp [Simple.more, started]) there
        fun other member => line other (by simp [member])
    refine ⟨last, final, words ++ more, ?_, ?_, ?_⟩
    · rw [← List.singleton_append, read_append_of_eq first]
      exact rest
    · rw [← Simple.more_more]
      exact ends
    · intro word member
      rcases List.mem_append.mp member with old | new
      · exact plain word old
      · exact others word new

theorem AtLine.deliver (started : simple.words ≠ [])
    (here : AtLine frames items simple scan machine) :
    ∃ words, Shell.deliver machine =
        some ⟨.command (simple.more words), none, frames, items⟩ ∧
      ∀ word ∈ words, IsPlain word := by
  cases here with
  | idle | comment => exact ⟨[], by rw [Simple.more_nil]; rfl, by simp⟩
  | @inside letters worded =>
    refine ⟨[plainWord letters], ?_, ?_⟩
    · rw [← Simple.add_of_words started]
      rfl
    · intro word member
      exact ⟨letters, worded, List.mem_singleton.mp member⟩

/-- A comment goes on to the end of its line, and so does its command. -/
theorem completes_comment (complete : Completes ⟨.comment, []⟩
      ⟨.command simple, none, frames, items⟩ text program) :
    items ++ [.simple simple] <+: program := by
  induction text with
  | nil =>
    obtain ⟨last, ran, accepted⟩ := Option.bind_eq_some_iff.mp complete
    cases ran
    obtain ⟨final, delivered, ends⟩ := Option.bind_eq_some_iff.mp accepted
    cases delivered
    split at ends
    next _ =>
      cases ends
      exact List.prefix_refl _
    next _ => cases ends
  | cons letter text induction =>
    by_cases newline : letter = '\n'
    · subst newline
      have reading : read ⟨.comment, []⟩
          ⟨.command simple, none, frames, items⟩ ['\n'] =
          some (⟨.plain false, []⟩, ⟨.start .optional, none, frames,
            items ++ [.simple simple, .newline]⟩) := rfl
      have stays := (complete.after_read reading).items
      rw [← List.singleton_append, ← List.append_assoc] at stays
      exact (List.prefix_append _ _).trans stays
    · have reading : read ⟨.comment, []⟩
          ⟨.command simple, none, frames, items⟩ [letter] =
          some (⟨.comment, []⟩,
            ⟨.command simple, none, frames, items⟩) := by
        simp [read, events, after, Shell.step, newline]
      exact induction (complete.after_read reading)

/-- Where a command ends: at a line end, a semicolon or a bar. -/
def isStop (letter : Char) : Bool :=
  letter == '\n' || letter == ';' || letter == '|'

theorem closes_command (delivered : Shell.deliver machine =
      some ⟨.command simple, none, frames, items⟩)
    {op : Op} (known : op = .semi ∨ op = .bar ∨ op = .orIf)
    {tail : List Event}
    (ran : (machine.run (.op op :: tail)).bind Machine.accept =
      some program) :
    items ++ [.simple simple] <+: program := by
  obtain ⟨last, run, accepted⟩ := Option.bind_eq_some_iff.mp ran
  obtain ⟨next, fed, more⟩ := Option.bind_eq_some_iff.mp run
  have whole : machine.feed (.op op) =
      (Shell.deliver machine).bind (operate op) := by
    rcases known with rfl | rfl | rfl <;> rfl
  rw [whole, delivered, Option.bind_some] at fed
  have grown : items ++ [.simple simple] ++ [.op op] = next.items := by
    rcases known with rfl | rfl | rfl <;>
      (cases fed
       simp)
  have stays : items ++ [.simple simple] <+: next.items := ⟨_, grown⟩
  exact stays.trans ((run_items more).trans (accept_items accepted))

/-- A semicolon or a bar ends the command before it. -/
theorem completes_operator {inWord : Bool} {sign : Op}
    (begins : Shell.step ⟨.plain inWord, []⟩ letter =
      (⟨.pending sign, []⟩, [])) (ends : sign = .semi ∨ sign = .bar)
    (delivered : Shell.deliver machine =
      some ⟨.command simple, none, frames, items⟩)
    (complete : Completes ⟨.plain inWord, []⟩ machine (letter :: rest)
      program) :
    items ++ [.simple simple] <+: program := by
  have known : sign = .semi ∨ sign = .bar ∨ sign = .orIf := by
    rcases ends with rfl | rfl <;> simp
  rw [Completes, events_cons, after_cons, begins, List.nil_append] at complete
  cases rest with
  | nil =>
    rcases ends with rfl | rfl <;>
      exact closes_command delivered known complete
  | cons next rest =>
    rw [events_cons] at complete
    simp only [Shell.step] at complete
    split at complete
    next mode output longer =>
      unfold lengthen at longer
      split at longer <;>
        obtain ⟨rfl, rfl⟩ := longer
      · have fails : machine.feed (.op .doubleSemi) = none := by
          change (Shell.deliver machine).bind (operate .doubleSemi) = none
          rw [delivered]
          rfl
        exact absurd complete (by simp [Machine.run_cons, fails])
      all_goals first
        | exact closes_command delivered (.inr (.inr rfl)) complete
        | exact absurd ends (by decide)
    next _ => exact closes_command delivered known complete

/-- A line of words ends with the command that has them. -/
theorem AtLine.completes (started : simple.words ≠ [])
    (here : AtLine frames items simple scan machine) {text : List Char}
    {program : List Item} (complete : Completes scan machine text program)
    (stops : ∀ letter ∈ text.head?, isStop letter = true) :
    ∃ words, items ++ [.simple (simple.more words)] <+: program ∧
      ∀ word ∈ words, IsPlain word := by
  obtain ⟨words, delivered, plain⟩ := here.deliver started
  have stopped : ∀ inWord, scan = ⟨.plain inWord, []⟩ →
      items ++ [.simple (simple.more words)] <+: program := by
    rintro inWord rfl
    cases text with
    | nil =>
      obtain ⟨last, ran, accepted⟩ := Option.bind_eq_some_iff.mp complete
      cases ran
      rw [Machine.accept, delivered, Option.bind_some] at accepted
      split at accepted
      next _ =>
        cases accepted
        exact List.prefix_refl _
      next _ => cases accepted
    | cons letter rest =>
      have stop := stops letter rfl
      simp only [isStop, Bool.or_eq_true, beq_iff_eq] at stop
      rcases stop with (rfl | rfl) | rfl
      · have reading : read ⟨.plain inWord, []⟩ machine ['\n'] =
            some (⟨.plain false, []⟩, ⟨.start .optional, none, frames,
              items ++ [.simple (simple.more words), .newline]⟩) :=
          read_delivered delivered rfl rfl rfl
        have stays := (complete.after_read reading).items
        refine List.IsPrefix.trans ?_ stays
        exact ⟨[.newline], by simp⟩
      · exact completes_operator rfl (.inl rfl) delivered complete
      · exact completes_operator rfl (.inr rfl) delivered complete
  cases here with
  | idle => exact ⟨words, stopped false rfl, plain⟩
  | inside worded => exact ⟨words, stopped true rfl, plain⟩
  | comment =>
    refine ⟨[], ?_, by simp⟩
    rw [Simple.more_nil]
    exact completes_comment complete

end Line

/-- The words without quotes after the first words of a command, up to where
the command ends. -/
theorem completes_line {frames : List Frame} {items : List Item}
    {simple : Simple} (started : simple.words ≠ [])
    (complete : Completes ⟨.plain false, []⟩
      ⟨.command simple, none, frames, items⟩ text program)
    (stops : ∀ letter ∈ (text.dropWhile isLine).head?,
      isStop letter = true) :
    ∃ words, items ++ [.simple (simple.more words)] <+: program ∧
      ∀ word ∈ words, IsPlain word := by
  have first : AtLine frames items simple _ _ := .idle
  have line : ∀ letter ∈ text.takeWhile isLine, isLine letter = true :=
    fun letter member => List.mem_takeWhile_imp member
  obtain ⟨next, middle, words, reading, here, plain⟩ :=
    first.run started line
  rw [← List.takeWhile_append_dropWhile (p := isLine) (l := text)] at complete
  obtain ⟨more, stays, others⟩ := here.completes (by simp [Simple.more, started])
    (complete.after_read reading) stops
  rw [Simple.more_more] at stays
  refine ⟨words ++ more, stays, ?_⟩
  intro word member
  rcases List.mem_append.mp member with old | new
  · exact plain word old
  · exact others word new

def hasPattern : List Char → Bool
  | [] => false
  | letter :: rest => isPattern letter (rest.map some) || hasPattern rest

/-- A value that is an argument of its own without quotes. -/
def isPlainArg (value : String) : Bool :=
  isWordText value.toList && !hasPattern value.toList &&
    value.toList.head? != some '~'

theorem inertLetters_plainWord (letters : List Char) :
    inertLetters (plainWord letters) =
      if hasPattern letters then none else some letters := by
  induction letters with
  | nil => rfl
  | cons letter letters induction =>
    have rest : (plainWord letters).map Piece.letter? =
        letters.map some := by
      simp [plainWord, Piece.letter?, Function.comp_def]
    change (if !false && isPattern letter
      ((plainWord letters).map Piece.letter?) then none
      else (inertLetters (plainWord letters)).map _) = _
    rw [rest, induction, hasPattern]
    cases isPattern letter (letters.map some) <;>
      cases hasPattern letters <;> rfl

theorem literal_plainWord {letters : List Char} :
    literal (plainWord letters) = some value ↔
      value = String.ofList letters ∧ hasPattern letters = false ∧
        letters.head? ≠ some '~' := by
  have head : (plainWord letters).head? = some (.char '~' false) ↔
      letters.head? = some '~' := by
    cases letters <;> simp [plainWord]
  rw [literal, inertLetters_plainWord]
  by_cases tilde : letters.head? = some '~'
  · rw [if_pos (head.mpr tilde)]
    simp [tilde]
  · rw [if_neg (mt head.mp tilde)]
    cases pattern : hasPattern letters with
    | true => simp
    | false =>
      simp only [Bool.false_eq_true, if_false, Option.map_some,
        Option.some.injEq, true_and]
      exact ⟨fun equal => ⟨equal.symm, tilde⟩, fun both => both.1.symm⟩

theorem mem_of_literals {words : List Word} {values : List String}
    (same : words.mapM literal = some values)
    (member : value ∈ values) : ∃ word ∈ words, literal word = some value := by
  have pairs := Text.mapM_eq_some_iff.mp same
  clear same
  induction pairs with
  | nil => cases member
  | @cons word _ _ _ here _ induction =>
    rcases List.mem_cons.mp member with rfl | old
    · exact ⟨word, by simp, here⟩
    · obtain ⟨other, inside, equal⟩ := induction old
      exact ⟨other, by simp [inside], equal⟩

theorem literals_append {left right : List Word} {head tail : List String}
    (length : left.length = head.length)
    (same : (left ++ right).mapM literal = some (head ++ tail)) :
    right.mapM literal = some tail := by
  rw [Text.mapM_eq_some_iff] at same ⊢
  have rest := List.forall₂_drop left.length same
  rwa [List.drop_left, length, List.drop_left] at rest

section Values

variable {frames : List Frame} {items : List Item} {simple : Simple}

/-- The arguments that are read up to the end of the command are plain. -/
theorem plain_arguments (started : simple.words ≠ [])
    (complete : Completes ⟨.plain false, []⟩
      ⟨.command simple, none, frames, items⟩ text program)
    (stops : ∀ letter ∈ (text.dropWhile isLine).head?, isStop letter = true)
    {first last : List Invocation} {env : List (String × String)}
    {head args : List String} (length : simple.words.length = head.length)
    (read : invocations items = some first)
    (all : invocations program =
      some (first ++ ⟨env, head ++ args⟩ :: last)) :
    ∀ arg ∈ args, isPlainArg arg = true := by
  obtain ⟨words, stays, plain⟩ := completes_line started complete stops
  have here := invocation_of_items stays read all
  rw [Simple.invocation] at here
  split at here
  next _ =>
    obtain ⟨assigns, -, here⟩ := Option.bind_eq_some_iff.mp here
    obtain ⟨argv, literals, equal⟩ := Option.map_eq_some_iff.mp here
    obtain ⟨-, rfl⟩ := Invocation.mk.inj equal
    intro arg member
    obtain ⟨word, inside, same⟩ :=
      mem_of_literals (literals_append length literals) member
    obtain ⟨letters, worded, rfl⟩ := plain word inside
    obtain ⟨rfl, pattern, tilde⟩ := literal_plainWord.mp same
    simp [isPlainArg, worded, pattern, tilde]
  next _ => cases here

variable {scan : Scan} {machine : Machine} {found : List Invocation}

theorem quiet_of_isLine (line : isLine letter = true) :
    isQuoting letter = false := by
  rcases isLine_cases line with rfl | ordinary | hash
  · rfl
  all_goals
    simp only [isQuoting, Bool.or_eq_false_iff, beq_eq_false_iff_ne]
    refine ⟨⟨?_, ?_⟩, ?_⟩ <;> rintro rfl <;> contradiction

theorem isLine_of_stop (stop : text.dropWhile isLine = letter :: rest) :
    isLine letter = false := by
  have head := List.head?_dropWhile_not isLine text
  rw [stop] at head
  simpa using head

theorem count_lt_of_stop (bare : scan.Bare)
    (complete : Completes scan machine text program)
    (all : invocations program = some found)
    (stop : text.dropWhile isLine = letter :: rest) :
    sumOf (Invocation.count letter) found <
      machine.total (letterOf letter) + text.count letter := by
  have line : ∀ other ∈ text.takeWhile isLine, isQuoting other = false :=
    fun other member => quiet_of_isLine (List.mem_takeWhile_imp member)
  have outside := isLine_of_stop stop
  have whole : text = text.takeWhile isLine ++ letter :: rest := by
    rw [← stop, List.takeWhile_append_dropWhile]
  have fewer := kept_lt_of_special bare line
    (Bool.or_eq_false_iff.mp outside).1 rest
  have bound := complete.total letter
  have counted := total_of_invocations all letter
  rw [← whole] at fewer
  omega

/-- The invocations have every double quote of the text. -/
def KeepsDoubles (machine : Machine) (text : List Char)
    (found : List Invocation) : Prop :=
  machine.total (letterOf '"') + text.count '"' ≤
    sumOf (Invocation.count '"') found

theorem kept_of_keepsDoubles (complete : Completes scan machine text program)
    (all : invocations program = some found)
    (doubles : KeepsDoubles machine text found) :
    text.count '"' ≤ kept '"' (events scan text) := by
  have bound := complete.total '"'
  have counted := total_of_invocations all '"'
  rw [KeepsDoubles] at doubles
  omega

theorem quotes_le (bare : scan.Bare)
    (complete : Completes scan machine text program)
    (all : invocations program = some found)
    (doubles : KeepsDoubles machine text found) :
    sumOf (Invocation.count '\'') found +
        sumOf (Invocation.count '\\') found ≤
      machine.total (letterOf '\'') + machine.total (letterOf '\\') +
        text.count '\\' := by
  have bound := escaped_events_le bare.single
    (kept_of_keepsDoubles complete all doubles)
  have idle : waiting scan.mode = 0 := by
    obtain ⟨mode, opened⟩ := scan
    obtain ⟨outside, -⟩ := bare
    cases mode <;> first | rfl | cases outside
  have quotes := complete.total '\''
  have slashes := complete.total '\\'
  have quotesCounted := total_of_invocations all '\''
  have slashesCounted := total_of_invocations all '\\'
  rw [escaped] at bound
  omega

/-- A backslash that ends a line of words keeps nothing. -/
theorem quotes_lt (bare : scan.Bare)
    (complete : Completes scan machine text program)
    (all : invocations program = some found)
    (doubles : KeepsDoubles machine text found) {next : Char}
    (other : next ≠ '\'')
    (stop : text.dropWhile isLine = '\\' :: next :: rest) :
    sumOf (Invocation.count '\'') found +
        sumOf (Invocation.count '\\') found <
      machine.total (letterOf '\'') + machine.total (letterOf '\\') +
        text.count '\\' := by
  have line : ∀ other ∈ text.takeWhile isLine, isQuoting other = false :=
    fun other member => quiet_of_isLine (List.mem_takeWhile_imp member)
  have whole : text = text.takeWhile isLine ++ '\\' :: next :: rest := by
    rw [← stop, List.takeWhile_append_dropWhile]
  have every := kept_of_keepsDoubles complete all doubles
  rw [whole] at every
  have bound := escaped_events_lt bare line other every
  rw [← whole, escaped] at bound
  have quotes := complete.total '\''
  have slashes := complete.total '\\'
  have quotesCounted := total_of_invocations all '\''
  have slashesCounted := total_of_invocations all '\\'
  omega

end Values

end OpenOxide.Shell
