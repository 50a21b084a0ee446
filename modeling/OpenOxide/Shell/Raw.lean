import OpenOxide.Shell.Account

/-!
# Values that stand in a script without quotes

A value that is put into a command as it is becomes that argument only when
nothing in it means anything to the shell.  The argument goes over the letters:
those with a meaning are never letters of a word outside quotes, and a quote, a
double quote or a backslash outside quotes is lost for good, so that a command
whose words have all the letters of the values has no such letter in them.
-/

namespace OpenOxide.Shell

def letterOf (letter : Char) : Piece → Bool
  | .char other _ => other == letter
  | _ => false

/-- How often a letter is a letter of some word. -/
def kept (letter : Char) (input : List Event) : Nat :=
  sumOf (Event.total (letterOf letter)) input

@[simp]
theorem kept_nil (letter : Char) : kept letter [] = 0 := rfl

theorem kept_append (letter : Char) (left right : List Event) :
    kept letter (left ++ right) = kept letter left + kept letter right :=
  sumOf_append _ left right

theorem kept_cons (letter : Char) (event : Event) (input : List Event) :
    kept letter (event :: input) =
      event.total (letterOf letter) + kept letter input := rfl

/-- A word that is a literal has exactly the letters of its value. -/
theorem total_of_literal {word : Word} {value : String}
    (same : literal word = some value) (letter : Char) :
    Word.total (letterOf letter) word = value.toList.count letter := by
  have inert : ∀ word letters, inertLetters word = some letters →
      Word.total (letterOf letter) word = letters.count letter := by
    intro word
    induction word with
    | nil =>
      intro letters equal
      cases equal
      rfl
    | cons piece word induction =>
      intro letters equal
      cases piece with
      | char other quoted =>
        rw [inertLetters] at equal
        split at equal
        next _ => cases equal
        next _ =>
          obtain ⟨rest, tail, rfl⟩ := Option.map_eq_some_iff.mp equal
          rw [List.count_cons, ← induction rest tail, Word.total,
            List.countP_cons]
          rfl
      | expand | substitution =>
        cases equal
  rw [literal] at same
  split at same
  next _ => cases same
  next _ =>
    obtain ⟨letters, equal, rfl⟩ := Option.map_eq_some_iff.mp same
    rw [inert word letters equal, String.toList_ofList]

/-- A backslash inside double quotes waits for the next letter. -/
def credit (letter : Char) : Mode → Nat
  | .escapeDouble => if letter = '\\' then 1 else 0
  | _ => 0

def worth (letter other : Char) : Nat :=
  if other = letter then 1 else 0

theorem kept_char (letter other : Char) (quoted : Bool) :
    kept letter [.char other quoted] = worth letter other := by
  simp [kept, letterOf, worth]

theorem count_cons_worth (letter other : Char) (text : List Char) :
    (other :: text).count letter = text.count letter + worth letter other := by
  simp [List.count_cons, worth]

variable {letter : Char} {event : Event} {scan : Scan}
  {opened : List (Option Base)}

variable {input : List Event}

theorem kept_of_absent (absent : ∀ quoted, .char letter quoted ∉ input) :
    kept letter input = 0 := by
  induction input with
  | nil => rfl
  | cons event input induction =>
    have rest := induction fun quoted member =>
      absent quoted (List.mem_cons_of_mem _ member)
    rw [kept_cons, rest]
    cases event with
    | char other quoted =>
      have different : other ≠ letter := by
        rintro rfl
        exact absent quoted (List.mem_cons_self ..)
      simp [letterOf, different]
    | _ => rfl

def Mode.bare : Mode → Bool
  | .plain _ | .comment | .pending _ => true
  | .dollar base | .name base | .brace base => base = .plain
  | _ => false

/-- No quote is open, around the place or around a substitution it is in. -/
def Scan.Bare (scan : Scan) : Prop :=
  scan.mode.bare = true ∧ some .double ∉ scan.opened

variable {mode : Mode}

theorem credit_of_bare (bare : mode.bare = true)
    (letter : Char) : credit letter mode = 0 := by
  cases mode <;> first | rfl | cases bare

/-- The events have no letters of words. -/
def Silent (input : List Event) : Prop :=
  ∀ letter quoted, .char letter quoted ∉ input

theorem Silent.kept (silent : Silent input)
    (letter : Char) : kept letter input = 0 :=
  kept_of_absent (silent letter)

/-- What a letter does outside quotes: it is a letter of a word, it quotes what
comes after it, or it is no letter at all. -/
inductive Outside (opened : List (Option Base)) (letter : Char) :
    Scan × List Event → Prop where
  | inner {events : List Event} (inner : isInner letter = true)
      (silent : Silent events) :
      Outside opened letter
        (⟨.plain true, opened⟩, events ++ [.char letter false])
  | quotes {mode : Mode} {events : List Event} (silent : Silent events)
      (quotes : letter = '\'' ∧ mode = .single ∨
        letter = '"' ∧ mode = .double ∨
        letter = '\\' ∧ ∃ inWord, mode = .escape inWord) :
      Outside opened letter (⟨mode, opened⟩, events)
  | passes {next : Scan} {events : List Event} (silent : Silent events)
      (idle : ∀ other, credit other next.mode = 0)
      (bare : some .double ∉ opened → next.Bare) :
      Outside opened letter (next, events)

theorem Outside.here {events : List Event}
    (bare : mode.bare = true) (silent : Silent events) :
    Outside opened letter (⟨mode, opened⟩, events) :=
  .passes silent (credit_of_bare bare) fun clear => ⟨bare, clear⟩

theorem stepPlain_outside (opened : List (Option Base)) (inWord : Bool)
    (letter : Char) :
    Outside opened letter (stepPlain opened inWord letter) := by
  have plain : isInner letter = true →
      Outside opened letter (⟨.plain true, opened⟩, [.char letter false]) :=
    fun inner => @Outside.inner opened letter [] inner (by simp [Silent])
  unfold stepPlain
  cases class_eq : classify letter with
  | single =>
    refine .quotes ?_ (.inl ⟨letter_of_classify.1 class_eq, rfl⟩)
    cases inWord <;> simp [Silent]
  | double =>
    refine .quotes ?_ (.inr (.inl ⟨letter_of_classify.2.1 class_eq, rfl⟩))
    cases inWord <;> simp [Silent]
  | backslash =>
    exact .quotes (by simp [Silent])
      (.inr (.inr ⟨letter_of_classify.2.2 class_eq, inWord, rfl⟩))
  | ordinary => exact plain (by simp [isInner, class_eq])
  | hash =>
    cases inWord with
    | true => exact plain (by simp [isInner, class_eq])
    | false => exact .here rfl (by simp [Silent])
  | leftParen =>
    exact .passes (by simp [Silent]) (fun _ => rfl)
      fun clear => ⟨rfl, by simpa using clear⟩
  | rightParen =>
    dsimp only
    split
    next base outer =>
      refine .passes (by simp [Silent]) (fun _ => by cases base <;> rfl) ?_
      intro clear
      rw [List.mem_cons, not_or] at clear
      cases base with
      | plain => exact ⟨rfl, clear.2⟩
      | double => exact absurd rfl clear.1
    next outer =>
      refine .passes (by simp [Silent]) (fun _ => rfl) fun clear => ?_
      exact ⟨rfl, (not_or.mp (mt List.mem_cons.mpr clear)).2⟩
    next _ => exact .here rfl (by simp [Silent])
  | _ => exact .here rfl (by simp [Silent])

theorem Outside.emitBefore {result : Scan × List Event}
    (outside : Outside opened letter result)
    (silent : ∀ other quoted, event ≠ .char other quoted) :
    Outside opened letter (emitBefore event result) := by
  have more : ∀ {events : List Event}, Silent events →
      Silent (event :: events) := by
    intro events rest other quoted member
    rcases List.mem_cons.mp member with equal | later
    · exact silent other quoted equal.symm
    · exact rest other quoted later
  cases outside with
  | inner inner rest => exact @Outside.inner _ _ (event :: _) inner (more rest)
  | quotes rest quotes => exact .quotes (more rest) quotes
  | passes rest idle bare => exact .passes (more rest) idle bare

theorem stepDollar_cases (opened : List (Option Base)) (base : Base)
    (letter : Char) :
    (Silent (stepDollar opened base letter).2 ∧
      (∀ other, credit other (stepDollar opened base letter).1.mode = 0) ∧
      (base = .plain → some .double ∉ opened →
        (stepDollar opened base letter).1.Bare)) ∨
    stepDollar opened base letter =
      OpenOxide.Shell.emitBefore .foreign (stepBase opened base letter) := by
  unfold stepDollar
  repeat' split
  all_goals first
    | exact .inr rfl
    | refine .inl ⟨by simp [Silent], fun _ => by cases base <;> rfl, ?_⟩
      rintro rfl clear
      exact ⟨rfl, by simpa using clear⟩

theorem step_outside (bare : scan.mode.bare = true) (letter : Char) :
    Outside scan.opened letter (step scan letter) := by
  obtain ⟨mode, opened⟩ := scan
  cases mode with
  | plain inWord => exact stepPlain_outside opened inWord letter
  | comment =>
    simp only [step]
    split <;> exact .here rfl (by simp [Silent])
  | dollar base =>
    cases base with
    | double => cases bare
    | plain =>
      rcases stepDollar_cases opened .plain letter with
        ⟨silent, idle, bare⟩ | equal
      · exact .passes silent idle (bare rfl)
      · change Outside opened letter (stepDollar opened .plain letter)
        rw [equal]
        exact (stepPlain_outside opened true letter).emitBefore (by simp)
  | name base =>
    cases base with
    | double => cases bare
    | plain =>
      simp only [step]
      split
      next _ => exact .here rfl (by simp [Silent])
      next _ => exact stepPlain_outside opened true letter
  | brace base =>
    cases base with
    | double => cases bare
    | plain =>
      simp only [step]
      split
      next _ => exact .here rfl (by simp [Silent])
      next _ => split <;> exact .here rfl (by simp [Silent])
  | pending op =>
    simp only [step]
    split
    next mode events longer =>
      unfold lengthen at longer
      split at longer <;>
        obtain ⟨rfl, rfl⟩ := longer <;>
        exact .here rfl (by simp [Silent])
    next _ => exact (stepPlain_outside opened false letter).emitBefore (by simp)
  | _ => cases bare

theorem Outside.kept_le {result : Scan × List Event}
    (outside : Outside opened letter result) (other : Char) :
    kept other result.2 + credit other result.1.mode ≤ worth other letter := by
  cases outside with
  | inner inner silent =>
    rw [kept_append, silent.kept, Nat.zero_add, kept_char]
    exact Nat.le_refl _
  | quotes silent quotes =>
    rw [silent.kept]
    rcases quotes with ⟨-, rfl⟩ | ⟨-, rfl⟩ | ⟨-, inWord, rfl⟩ <;>
      exact Nat.zero_le _
  | passes silent idle bare =>
    rw [silent.kept, idle]
    exact Nat.zero_le _

theorem stepDouble_kept (letter other : Char) (opened : List (Option Base)) :
    kept letter (stepDouble opened other).2 +
        credit letter (stepDouble opened other).1.mode ≤
      worth letter other := by
  unfold stepDouble
  cases class_eq : classify other with
  | backslash =>
    obtain rfl := letter_of_classify.2.2 class_eq
    simp [credit, worth, eq_comm]
  | double | dollar | backquote =>
    exact Nat.zero_le _
  | _ => exact Nat.le_of_eq (kept_char ..)

/-- A step keeps at most the letter that it reads and the one that waits. -/
theorem step_kept (letter other : Char) (scan : Scan) :
    kept letter (step scan other).2 + credit letter (step scan other).1.mode ≤
      worth letter other + credit letter scan.mode := by
  have one : ∀ quoted, kept letter [.char other quoted] ≤
      worth letter other := fun quoted => Nat.le_of_eq (kept_char ..)
  by_cases bare : scan.mode.bare = true
  · exact ((step_outside bare other).kept_le letter).trans
      (Nat.le_add_right _ _)
  obtain ⟨mode, opened⟩ := scan
  have inside : ∀ {base}, base ≠ .plain → base = Base.double := by
    rintro ⟨⟩ <;> simp
  cases mode with
  | single | escape =>
    simp only [step]
    split
    next _ => exact Nat.zero_le _
    next _ => exact Nat.le_trans (one true) (Nat.le_add_right _ _)
  | double => exact stepDouble_kept letter other opened
  | escapeDouble =>
    simp only [step]
    split
    next _ => exact Nat.zero_le _
    next _ =>
      split
      next _ => exact Nat.le_trans (one true) (Nat.le_add_right _ _)
      next _ =>
        have first : kept letter [.char '\\' true, .char other true] =
            worth letter '\\' + worth letter other := by
          rw [← kept_char letter '\\' true, ← kept_char letter other true,
            ← kept_append]
          rfl
        have waits : worth letter '\\' = credit letter .escapeDouble := by
          simp [worth, credit, eq_comm]
        have done : credit letter .double = 0 := rfl
        dsimp only
        omega
  | dollar base =>
    obtain rfl := inside (by simpa [Mode.bare] using bare)
    change kept letter (stepDollar opened .double other).2 +
      credit letter (stepDollar opened .double other).1.mode ≤ _
    rcases stepDollar_cases opened .double other with
      ⟨silent, idle, -⟩ | equal
    · rw [silent.kept, idle]
      exact Nat.zero_le _
    · rw [equal]
      refine le_trans ?_ (stepDouble_kept letter other opened)
      exact Nat.le_of_eq (congrArg (· + _) (Nat.zero_add _))
  | name base =>
    obtain rfl := inside (by simpa [Mode.bare] using bare)
    simp only [step]
    split
    next _ => exact Nat.zero_le _
    next _ => exact stepDouble_kept letter other opened
  | brace base =>
    obtain rfl := inside (by simpa [Mode.bare] using bare)
    simp only [step]
    split
    next _ => exact Nat.zero_le _
    next _ => split <;> exact Nat.zero_le _
  | _ => exact absurd rfl bare

theorem kept_events_le (letter : Char) (scan : Scan) (text : List Char) :
    kept letter (events scan text) ≤
      text.count letter + credit letter scan.mode := by
  induction text generalizing scan with
  | nil => exact Nat.zero_le _
  | cons other text induction =>
    have here := step_kept letter other scan
    have later := induction (step scan other).1
    rw [events_cons, kept_append, count_cons_worth]
    omega

def isQuoting (letter : Char) : Bool :=
  letter == '\'' || letter == '"' || letter == '\\'

/-- The letters that the events take from outside quotes. -/
def Bland (input : List Event) : Prop :=
  ∀ letter quoted, .char letter quoted ∈ input → isInner letter = true

theorem Silent.bland (silent : Silent input) : Bland input :=
  fun letter quoted member => absurd member (silent letter quoted)

theorem step_bare (bare : scan.Bare) (quiet : isQuoting letter = false) :
    (step scan letter).1.Bare ∧ Bland (step scan letter).2 := by
  have outside := step_outside bare.1 letter
  generalize step scan letter = result at outside ⊢
  cases outside with
  | inner inner silent =>
    refine ⟨⟨rfl, bare.2⟩, ?_⟩
    intro other quoted member
    rcases List.mem_append.mp member with before | here
    · exact absurd before (silent other quoted)
    · obtain ⟨rfl, -⟩ := Event.char.inj (List.mem_singleton.mp here)
      exact inner
  | quotes silent quotes =>
    rcases quotes with ⟨rfl, -⟩ | ⟨rfl, -⟩ | ⟨rfl, -⟩ <;>
      cases quiet
  | passes silent idle next => exact ⟨next bare.2, silent.bland⟩

theorem events_bland (bare : scan.Bare) {text : List Char}
    (quiet : ∀ letter ∈ text, isQuoting letter = false) :
    (after scan text).Bare ∧ Bland (events scan text) := by
  induction text generalizing scan with
  | nil =>
    refine ⟨bare, ?_⟩
    intro letter quoted member
    cases member
  | cons letter text induction =>
    obtain ⟨next, here⟩ := step_bare bare (quiet letter (by simp))
    obtain ⟨last, later⟩ := induction next fun other member =>
      quiet other (by simp [member])
    refine ⟨last, ?_⟩
    intro other quoted member
    rw [events_cons, List.mem_append] at member
    rcases member with first | rest
    · exact here other quoted first
    · exact later other quoted rest

theorem Bland.kept (bland : Bland input)
    (special : isInner letter = false) : kept letter input = 0 := by
  apply kept_of_absent
  intro quoted member
  exact absurd (bland letter quoted member) (by simp [special])

theorem Scan.Bare.credit (bare : scan.Bare) (letter : Char) :
    credit letter scan.mode = 0 :=
  credit_of_bare bare.1 letter

theorem step_lost (bare : scan.Bare)
    (special : isInner letter = false) :
    kept letter (step scan letter).2 = 0 ∧
      credit letter (step scan letter).1.mode = 0 := by
  have outside := step_outside bare.1 letter
  generalize step scan letter = result at outside ⊢
  cases outside with
  | inner inner silent => exact absurd inner (by simp [special])
  | quotes silent quotes =>
    refine ⟨silent.kept letter, ?_⟩
    rcases quotes with ⟨-, rfl⟩ | ⟨-, rfl⟩ | ⟨-, inWord, rfl⟩ <;> rfl
  | passes silent idle next => exact ⟨silent.kept letter, idle letter⟩

theorem kept_lt_of_special (bare : scan.Bare) {before : List Char}
    (quiet : ∀ other ∈ before, isQuoting other = false)
    (special : isInner letter = false) (rest : List Char) :
    kept letter (events scan (before ++ letter :: rest)) <
      (before ++ letter :: rest).count letter := by
  obtain ⟨outside, -⟩ := events_bland bare quiet
  obtain ⟨lost, idle⟩ := step_lost outside special
  have fewer := kept_events_le letter scan before
  have later := kept_events_le letter (step (after scan before) letter).1 rest
  have none := bare.credit letter
  rw [events_append, kept_append, events_cons, kept_append, lost,
    List.count_append, List.count_cons_self]
  omega

/-- A backslash outside quotes waits for its letter. -/
def waiting : Mode → Nat
  | .escape _ => 1
  | _ => 0

/-- Whether the place is inside double quotes. -/
def Mode.inDouble : Mode → Bool
  | .double | .escapeDouble => true
  | .dollar base | .name base | .brace base => base = .double
  | _ => false

def Scan.Single (scan : Scan) : Prop :=
  scan.mode.inDouble = false ∧ some .double ∉ scan.opened

/-- How many quotes and backslashes are letters of some word. -/
def escaped (input : List Event) : Nat :=
  kept '\'' input + kept '\\' input

theorem escaped_append (left right : List Event) :
    escaped (left ++ right) = escaped left + escaped right := by
  simp only [escaped, kept_append]
  omega

theorem Silent.escaped (silent : Silent input) : escaped input = 0 := by
  rw [Shell.escaped, silent.kept, silent.kept]

theorem waiting_of_bare (bare : mode.bare = true) : waiting mode = 0 := by
  cases mode <;> first | rfl | cases bare

theorem Mode.inDouble_false_iff : mode.inDouble = false ↔
      mode = .single ∨ (∃ inWord, mode = .escape inWord) ∨
        mode.bare = true := by
  cases mode with
  | dollar base | name base | brace base =>
    cases base <;> simp [Mode.inDouble, Mode.bare]
  | _ => simp [Mode.inDouble, Mode.bare]

theorem Scan.Bare.single (bare : scan.Bare) : scan.Single :=
  ⟨Mode.inDouble_false_iff.mpr (.inr (.inr bare.1)), bare.2⟩

/-- Outside double quotes a quote or a backslash is a letter of a word only
behind a backslash or, the backslash, inside quotes. -/
theorem step_unquoted (single : scan.Single) (other : letter ≠ '"') :
    (step scan letter).1.Single ∧
      escaped (step scan letter).2 + waiting (step scan letter).1.mode ≤
        worth '\\' letter + waiting scan.mode := by
  have clear := single.2
  rcases Mode.inDouble_false_iff.mp single.1 with
    inQuotes | ⟨inWord, behind⟩ | bare
  · obtain ⟨mode, opened⟩ := scan
    obtain rfl : mode = .single := inQuotes
    simp only [step]
    split
    next _ => exact ⟨⟨rfl, clear⟩, Nat.zero_le _⟩
    next different =>
      refine ⟨⟨rfl, clear⟩, ?_⟩
      simp [escaped, kept_char, worth, different, waiting]
  · obtain ⟨mode, opened⟩ := scan
    obtain rfl : mode = .escape inWord := behind
    simp only [step]
    split
    next _ => exact ⟨⟨rfl, clear⟩, Nat.zero_le _⟩
    next _ =>
      refine ⟨⟨rfl, clear⟩, ?_⟩
      simp only [escaped, kept_char, worth, waiting]
      split
      next equal =>
        subst equal
        exact Nat.le_refl _
      next _ => split <;> omega
  · have outside := step_outside bare letter
    generalize step scan letter = result at outside ⊢
    cases outside with
    | inner inner silent =>
      have quote : letter ≠ '\'' := by
        rintro rfl
        cases inner
      have slash : letter ≠ '\\' := by
        rintro rfl
        cases inner
      refine ⟨⟨rfl, clear⟩, ?_⟩
      rw [escaped_append, silent.escaped]
      simp [escaped, kept_char, worth, quote, slash, waiting]
    | quotes silent quotes =>
      rw [silent.escaped]
      rcases quotes with ⟨-, rfl⟩ | ⟨equal, -⟩ | ⟨rfl, inWord, rfl⟩
      · exact ⟨⟨rfl, clear⟩, Nat.zero_le _⟩
      · exact absurd equal other
      · exact ⟨⟨rfl, clear⟩, Nat.le_add_right 1 _⟩
    | passes silent idle next =>
      refine ⟨(next clear).single, ?_⟩
      rw [silent.escaped, waiting_of_bare (next clear).1]
      exact Nat.zero_le _

theorem step_single (single : scan.Single) (letter : Char) :
    ((step scan letter).1.Single ∧
      escaped (step scan letter).2 + waiting (step scan letter).1.mode ≤
        worth '\\' letter + waiting scan.mode) ∨
    (letter = '"' ∧ kept letter (step scan letter).2 = 0) := by
  by_cases other : letter = '"'
  · subst other
    rcases Mode.inDouble_false_iff.mp single.1 with
      inQuotes | ⟨inWord, behind⟩ | bare
    · obtain ⟨mode, opened⟩ := scan
      obtain rfl : mode = .single := inQuotes
      exact .inl ⟨⟨rfl, single.2⟩, Nat.zero_le _⟩
    · obtain ⟨mode, opened⟩ := scan
      obtain rfl : mode = .escape inWord := behind
      exact .inl ⟨⟨rfl, single.2⟩, Nat.zero_le _⟩
    · exact .inr ⟨rfl, (step_lost ⟨bare, single.2⟩ (by decide)).1⟩
  · exact .inl (step_unquoted single other)

theorem credit_double (mode : Mode) : credit '"' mode = 0 := by
  cases mode <;> rfl

theorem escaped_events_le (single : scan.Single)
    {text : List Char}
    (all : text.count '"' ≤ kept '"' (events scan text)) :
    escaped (events scan text) ≤ text.count '\\' + waiting scan.mode := by
  induction text generalizing scan with
  | nil => exact Nat.zero_le _
  | cons letter text induction =>
    have here := step_kept '"' letter scan
    have later := kept_events_le '"' (step scan letter).1 text
    simp only [credit_double, Nat.add_zero] at here later
    rw [events_cons, kept_append, count_cons_worth] at all
    rcases step_single single letter with ⟨next, bound⟩ | ⟨rfl, lost⟩
    · have rest := induction next (by omega)
      rw [events_cons, escaped_append, count_cons_worth]
      omega
    · have one : worth '"' '"' = 1 := rfl
      omega

theorem step_escaped (single : scan.Single) (other : letter ≠ '\'') :
    ((step scan letter).1.Single ∧
      escaped (step scan letter).2 + waiting (step scan letter).1.mode ≤
        worth '\\' letter) ∨
    (letter = '"' ∧ kept letter (step scan letter).2 = 0) := by
  obtain ⟨mode, opened⟩ := scan
  cases mode with
  | escape inWord =>
    refine .inl ?_
    simp only [step]
    split
    next _ => exact ⟨⟨rfl, single.2⟩, Nat.zero_le _⟩
    next _ =>
      refine ⟨⟨rfl, single.2⟩, ?_⟩
      simp [escaped, kept_char, worth, other, waiting]
  | _ => exact step_single single letter

/-- A backslash outside quotes that no quote follows keeps nothing. -/
theorem escaped_events_lt (bare : scan.Bare) {before : List Char}
    (quiet : ∀ other ∈ before, isQuoting other = false) {next : Char}
    (other : next ≠ '\'') {rest : List Char}
    (all : (before ++ '\\' :: next :: rest).count '"' ≤
      kept '"' (events scan (before ++ '\\' :: next :: rest))) :
    escaped (events scan (before ++ '\\' :: next :: rest)) <
      (before ++ '\\' :: next :: rest).count '\\' := by
  obtain ⟨outside, bland⟩ := events_bland bare quiet
  have none : escaped (events scan before) = 0 := by
    rw [escaped, bland.kept (by decide), bland.kept (by decide)]
  obtain ⟨lost, -⟩ := @step_lost '\\' _ outside (by decide)
  have quotes := step_kept '\'' '\\' (after scan before)
  have free := outside.credit '\''
  have zero : worth '\'' '\\' = 0 := rfl
  have start : escaped (step (after scan before) '\\').2 = 0 := by
    rw [escaped, lost]
    omega
  have one : worth '\\' '\\' = 1 := rfl
  have below : ∀ scan text, kept '"' (events scan text) ≤ text.count '"' := by
    intro scan text
    have bound := kept_events_le '"' scan text
    rwa [credit_double, Nat.add_zero] at bound
  have least := step_kept '"' '\\' (after scan before)
  have more := step_kept '"' next (step (after scan before) '\\').1
  have first := below scan before
  have last := below (step (step (after scan before) '\\').1 next).1 rest
  simp only [credit_double, Nat.add_zero] at least more
  simp only [events_append, kept_append, events_cons, List.count_append,
    count_cons_worth] at all
  simp only [events_append, escaped_append, events_cons, List.count_append,
    count_cons_worth, none, start, one]
  rcases step_single outside.single '\\' with ⟨middle, -⟩ | ⟨equal, -⟩
  · rcases step_escaped middle other with ⟨single, bound⟩ | ⟨rfl, gone⟩
    · have tail := @escaped_events_le _ single rest (by omega)
      omega
    · have full : worth '"' '"' = 1 := rfl
      omega
  · cases equal

end OpenOxide.Shell
