import OpenOxide.Text.Fields
import OpenOxide.Text.Readings
import OpenOxide.Text.Strings

/-!
# Files of sections

A file of sections has lines `[name]` that begin a section and lines
`key = value` in it, split at the first sign.  A hash begins a comment up to the
end of the line, and blanks around keys and values do not count.

A file that is written from sections reads back as these sections, each value
without what a hash in it cuts off.
-/

namespace OpenOxide.Text

abbrev Setting := List Char × List Char

structure Section where
  name : List Char
  settings : List Setting

def isSpace (letter : Char) : Bool :=
  letter.toNat == 32 || (9 ≤ letter.toNat && letter.toNat ≤ 13)

def stripped (letters : List Char) : List Char :=
  trimLetters isSpace letters

def uncommented (line : List Char) : List Char :=
  line.takeWhile (· != '#')

/-- What a line is. -/
inductive Line where
  | empty
  | header (name : List Char)
  | setting (setting : Setting)
  | other

def readLine (line : List Char) : Line :=
  let text := uncommented line
  let shown := stripped text
  if shown = [] then .empty
  else if shown.head? = some '[' ∧ shown.getLast? = some ']' then
    .header (shown.drop 1).dropLast
  else if '=' ∈ text then
    .setting (stripped (text.takeWhile (· != '=')),
      stripped ((text.dropWhile (· != '=')).drop 1))
  else .other

/-- The settings before the first header, and the sections. -/
def readLines : List (List Char) → Option (List Setting × List Section)
  | [] => some ([], [])
  | line :: lines =>
    (readLines lines).bind fun result =>
      match readLine line with
      | .empty => some result
      | .setting setting => some (setting :: result.1, result.2)
      | .header name => some ([], ⟨name, result.1⟩ :: result.2)
      | .other => none

/-- Every setting of a file belongs to a section. -/
def readSections (text : List Char) : Option (List Section) :=
  (readLines (text.splitOnP (· == '\n'))).bind fun result =>
    if result.1 = [] then some result.2 else none

def settingText (setting : Setting) : List Char :=
  setting.1 ++ ' ' :: '=' :: ' ' :: setting.2

def headerText (name : List Char) : List Char :=
  '[' :: name ++ [']']

/-- The lines of a section, each with its end. -/
def sectionText (part : Section) : List Char :=
  headerText part.name ++ '\n' ::
    part.settings.flatMap fun setting => settingText setting ++ ['\n']

/-- Sections with an empty line between them. -/
def sectionsText : List Section → List Char
  | [] => []
  | part :: parts =>
    sectionText part ++ parts.flatMap fun part => '\n' :: sectionText part

/-- A name that is found again. -/
def isKey (key : List Char) : Bool :=
  key != [] && key.all fun letter =>
    !isSpace letter && letter != '#' && letter != '=' && letter != '[' &&
      letter != ']'

/-- What a reader finds in place of a value. -/
def shownValue (value : List Char) : List Char :=
  stripped (uncommented value)

theorem head_stripped {letter : Char} (visible : isSpace letter = false)
    (rest : List Char) : (stripped (letter :: rest)).head? = some letter := by
  have kept : ∀ letters : List Char, letters.getLast? = some letter →
      (letters.dropWhile isSpace).getLast? = some letter := by
    intro letters
    induction letters with
    | nil => simp
    | cons first letters induction =>
      intro last
      rw [List.dropWhile_cons]
      split
      · cases letters with
        | nil =>
          simp_all
        | cons next letters =>
          exact induction (by simpa using last)
      · exact last
  rw [stripped, trimLetters, List.dropWhile_cons_of_neg (by simp [visible]),
    List.head?_reverse]
  exact kept _ (by simp)

theorem stripped_blank (letters : List Char) :
    stripped (' ' :: letters) = stripped letters := by
  rw [stripped, stripped, trimLetters, trimLetters,
    List.dropWhile_cons_of_pos (by decide)]

variable {key : List Char}

theorem stripped_key (named : isKey key = true) :
    stripped (key ++ [' ']) = key := by
  rw [isKey, Bool.and_eq_true, List.all_eq_true, bne_iff_ne] at named
  have visible : ∀ letter ∈ key, isSpace letter = false := by
    intro letter member
    have known := named.2 letter member
    simp only [Bool.and_eq_true, Bool.not_eq_true'] at known
    exact known.1.1.1.1
  have keep : ∀ letters : List Char, letters ≠ [] → letters ⊆ key →
      ∀ rest, (letters ++ rest).dropWhile isSpace = letters ++ rest := by
    intro letters nonempty inside rest
    obtain ⟨first, others, rfl⟩ := List.exists_cons_of_ne_nil nonempty
    rw [List.cons_append, List.dropWhile_cons_of_neg]
    rw [visible first (inside List.mem_cons_self)]
    simp
  have back := keep key.reverse (by simpa using named.1)
    (fun letter member => List.mem_reverse.mp member) []
  rw [List.append_nil] at back
  rw [stripped, trimLetters, keep key named.1 (fun _ member => member) [' '],
    List.reverse_append, List.reverse_singleton, List.singleton_append,
    List.dropWhile_cons_of_pos (by decide), back, List.reverse_reverse]

theorem uncommented_append {text : List Char} (plain : '#' ∉ text)
    (rest : List Char) :
    uncommented (text ++ rest) = text ++ uncommented rest := by
  apply List.takeWhile_append_of_pos
  intro letter member
  rw [bne_iff_ne]
  rintro rfl
  exact plain member

theorem uncommented_self {text : List Char} (plain : '#' ∉ text) :
    uncommented text = text := by
  have whole : uncommented (text ++ []) = text ++ [] :=
    uncommented_append plain []
  rwa [List.append_nil] at whole

theorem not_mem_key (named : isKey key = true)
    {letter : Char} (special : letter = '#' ∨ letter = '=' ∨ letter = '[') :
    letter ∉ key := by
  intro member
  rw [isKey, Bool.and_eq_true, List.all_eq_true] at named
  have known := named.2 letter member
  rcases special with rfl | rfl | rfl <;> cases known

theorem readLine_setting (named : isKey key = true) (value : List Char) :
    readLine (settingText (key, value)) =
      .setting (key, shownValue value) := by
  have text : uncommented (settingText (key, value)) =
      key ++ ' ' :: '=' :: ' ' :: uncommented value := by
    have plain : '#' ∉ key ++ [' ', '=', ' '] := by
      simp [not_mem_key named (.inl rfl)]
    have whole := uncommented_append plain value
    simpa [settingText] using whole
  obtain ⟨first, others, rfl⟩ := List.exists_cons_of_ne_nil (by
    rintro rfl
    exact absurd named (by decide) : key ≠ [])
  have visible : isSpace first = false := by
    rw [isKey, Bool.and_eq_true, List.all_eq_true] at named
    have known := named.2 first List.mem_cons_self
    simp only [Bool.and_eq_true, Bool.not_eq_true'] at known
    exact known.1.1.1.1
  have shown := head_stripped visible
    (others ++ ' ' :: '=' :: ' ' :: uncommented value)
  have noHeader : first ≠ '[' := by
    rintro rfl
    exact not_mem_key named (.inr (.inr rfl)) List.mem_cons_self
  have before : (first :: others ++ ' ' :: '=' :: ' ' ::
      uncommented value).takeWhile (· != '=') = first :: others ++ [' '] := by
    rw [List.takeWhile_append_of_pos]
    · simp
    · intro letter member
      rw [bne_iff_ne]
      rintro rfl
      exact not_mem_key named (.inr (.inl rfl)) member
  have after : (first :: others ++ ' ' :: '=' :: ' ' ::
      uncommented value).dropWhile (· != '=') =
      '=' :: ' ' :: uncommented value := by
    rw [List.dropWhile_append_of_pos]
    · simp
    · intro letter member
      rw [bne_iff_ne]
      rintro rfl
      exact not_mem_key named (.inr (.inl rfl)) member
  rw [readLine, text, before, after]
  rw [List.cons_append, if_neg, if_neg, if_pos (by simp), List.drop_one,
    List.tail_cons, stripped_blank, stripped_key named, shownValue]
  · rw [shown]
    intro header
    exact noHeader (Option.some.inj header.1)
  · intro empty
    rw [empty] at shown
    cases shown

theorem readLine_header {name : List Char} (named : isKey name = true) :
    readLine (headerText name) = .header name := by
  have plain : '#' ∉ headerText name := by
    simp [headerText, not_mem_key named (.inl rfl)]
  have whole : stripped (headerText name) = headerText name := by
    apply trimLetters_self
    · intro letter member
      cases member
      rfl
    · intro letter member
      rw [headerText, List.getLast?_concat] at member
      cases member
      rfl
  rw [readLine, uncommented_self plain]
  rw [whole, if_neg (by simp [headerText]), if_pos]
  · simp [headerText]
  · exact ⟨rfl, List.getLast?_concat⟩

def readText (text : List Char) : Option (List Setting × List Section) :=
  readLines (text.splitOnP (· == '\n'))

theorem readText_line {line : List Char} (single : '\n' ∉ line)
    (rest : List Char) :
    readText (line ++ '\n' :: rest) =
      (readText rest).bind fun result =>
        match readLine line with
        | .empty => some result
        | .setting setting => some (setting :: result.1, result.2)
        | .header name => some ([], ⟨name, result.1⟩ :: result.2)
        | .other => none := by
  rw [readText, List.splitOnP_append_cons_of_forall_mem _ _ (by simp)]
  · rfl
  · intro letter member
    rw [beq_eq_false_iff_ne]
    rintro rfl
    exact single member

def shownSetting (setting : Setting) : Setting :=
  (setting.1, shownValue setting.2)

/-- The section as a reader finds it. -/
def shownSection (part : Section) : Section :=
  ⟨part.name, part.settings.map shownSetting⟩

/-- A section that is written line by line. -/
structure Section.WellFormed (part : Section) : Prop where
  named : isKey part.name = true
  keys : ∀ setting ∈ part.settings, isKey setting.1 = true
  single : ∀ setting ∈ part.settings, '\n' ∉ setting.2

theorem feed_not_mem_key (named : isKey key = true) :
    '\n' ∉ key := by
  intro member
  rw [isKey, Bool.and_eq_true, List.all_eq_true] at named
  exact absurd (named.2 _ member) (by decide)

theorem readText_settings {settings : List Setting}
    (keys : ∀ setting ∈ settings, isKey setting.1 = true)
    (single : ∀ setting ∈ settings, '\n' ∉ setting.2) (rest : List Char) :
    readText ((settings.flatMap fun setting =>
        settingText setting ++ ['\n']) ++ rest) =
      (readText rest).map fun result =>
        (settings.map shownSetting ++ result.1, result.2) := by
  induction settings with
  | nil => simp
  | cons setting settings induction =>
    obtain ⟨key, value⟩ := setting
    have named := keys (key, value) List.mem_cons_self
    have line : '\n' ∉ settingText (key, value) := by
      have absent := feed_not_mem_key named
      have valueAbsent := single (key, value) List.mem_cons_self
      simp [settingText, absent, valueAbsent]
    rw [List.flatMap_cons, List.append_assoc, List.append_assoc,
      List.singleton_append, readText_line line, readLine_setting named,
      induction (fun other member => keys other (by simp [member]))
        (fun other member => single other (by simp [member]))]
    cases readText rest with
    | none => rfl
    | some result => rfl

theorem readText_section {part : Section} (formed : part.WellFormed)
    (rest : List Char) :
    readText (sectionText part ++ rest) =
      (readText rest).map fun result =>
        ([], ⟨part.name, part.settings.map shownSetting ++ result.1⟩ ::
          result.2) := by
  have line : '\n' ∉ headerText part.name := by
    simp [headerText, feed_not_mem_key formed.named]
  rw [sectionText, List.append_assoc, List.cons_append, readText_line line,
    readLine_header formed.named,
    readText_settings formed.keys formed.single]
  cases readText rest with
  | none => rfl
  | some result => rfl

theorem readSections_sectionsText {parts : List Section}
    (formed : ∀ part ∈ parts, part.WellFormed) :
    readSections (sectionsText parts) = some (parts.map shownSection) := by
  have more : ∀ parts : List Section, (∀ part ∈ parts, part.WellFormed) →
      readText (parts.flatMap fun part => '\n' :: sectionText part) =
        some ([], parts.map shownSection) := by
    intro parts formed
    induction parts with
    | nil => rfl
    | cons part parts induction =>
      rw [List.flatMap_cons, List.cons_append, ← List.nil_append ('\n' :: _),
        readText_line (by simp),
        readText_section (formed part List.mem_cons_self),
        induction fun other member => formed other (by simp [member])]
      simp [readLine, uncommented, stripped, trimLetters, shownSection]
  cases parts with
  | nil => rfl
  | cons part parts =>
    have whole := readText_section (formed part List.mem_cons_self)
      (parts.flatMap fun part => '\n' :: sectionText part)
    rw [more parts fun other member => formed other (by simp [member])]
      at whole
    rw [sectionsText, readSections]
    change (readText _).bind _ = _
    rw [whole]
    simp [shownSection]

section Keys

variable {Key : Type} [DecidableEq Key] (order : List Key)
  (keyText : Key → List Char)

/-- The settings of a section under the keys that it may have. -/
def typed (settings : List Setting) : Option (List (Key × List Char)) :=
  settings.mapM fun setting =>
    (order.find? fun key => keyText key == setting.1).map fun key =>
      (key, setting.2)

def valuesOf (settings : List (Key × List Char)) (key : Key) :
    List (List Char) :=
  settings.filterMap fun setting =>
    if setting.1 = key then some setting.2 else none

/-- Key by key, a setting for each value. -/
def grouped (values : Key → List (List Char)) : List (Key × List Char) :=
  order.flatMap fun key => (values key).map fun value => (key, value)

variable {order keyText}

omit [DecidableEq Key] in
theorem typed_grouped
    (found : ∀ key ∈ order,
      (order.find? fun other => keyText other == keyText key) = some key)
    (values : Key → List (List Char)) :
    typed order keyText ((grouped order values).map fun setting =>
        (keyText setting.1, setting.2)) =
      some (grouped order values) := by
  refine mapM_map fun setting member => ?_
  obtain ⟨key, inside, more⟩ := List.mem_flatMap.mp member
  obtain ⟨value, -, rfl⟩ := List.mem_map.mp more
  rw [found key inside]
  rfl

omit [DecidableEq Key] in
theorem shown_grouped (values : Key → List (List Char)) :
    ((grouped order values).map fun setting =>
        (keyText setting.1, setting.2)).map shownSetting =
      (grouped order fun key => (values key).map shownValue).map
        fun setting => (keyText setting.1, setting.2) := by
  simp only [grouped, List.map_flatMap, List.map_map]
  rfl

omit [DecidableEq Key] in
theorem formed_grouped {name : List Char} (named : isKey name = true)
    (keys : ∀ key ∈ order, isKey (keyText key) = true)
    {values : Key → List (List Char)}
    (single : ∀ key, ∀ value ∈ values key, '\n' ∉ value) :
    Section.WellFormed ⟨name, (grouped order values).map fun setting =>
      (keyText setting.1, setting.2)⟩ := by
  have parts : ∀ setting ∈ grouped order values,
      setting.1 ∈ order ∧ setting.2 ∈ values setting.1 := by
    intro setting member
    obtain ⟨key, inside, more⟩ := List.mem_flatMap.mp member
    obtain ⟨value, known, rfl⟩ := List.mem_map.mp more
    exact ⟨inside, known⟩
  constructor
  · exact named
  · intro setting member
    obtain ⟨origin, inside, rfl⟩ := List.mem_map.mp member
    exact keys _ (parts origin inside).1
  · intro setting member
    obtain ⟨origin, inside, rfl⟩ := List.mem_map.mp member
    exact single _ _ (parts origin inside).2

theorem valuesOf_grouped (distinct : order.Nodup)
    (values : Key → List (List Char)) {key : Key} (member : key ∈ order) :
    valuesOf (grouped order values) key = values key := by
  have one : ∀ other, valuesOf ((values other).map fun value =>
      (other, value)) key = if other = key then values other else [] := by
    intro other
    rw [valuesOf, List.filterMap_map]
    split
    next same => simp [same]
    next different => simp [different]
  have many : ∀ keys : List Key, valuesOf (grouped keys values) key =
      keys.flatMap fun other => if other = key then values other else [] := by
    intro keys
    induction keys with
    | nil => rfl
    | cons other keys induction =>
      rw [List.flatMap_cons, ← induction, ← one other]
      exact List.filterMap_append
  have absent : ∀ keys : List Key, key ∉ keys →
      (keys.flatMap fun other => if other = key then values other else []) =
        [] := by
    intro keys missing
    rw [List.flatMap_eq_nil_iff]
    intro other inside
    rw [if_neg]
    rintro rfl
    exact missing inside
  rw [many]
  obtain ⟨before, after, rfl⟩ := List.append_of_mem member
  have parts := List.nodup_append.mp distinct
  have notBefore : key ∉ before := fun inside =>
    parts.2.2 key inside key List.mem_cons_self rfl
  have notAfter : key ∉ after := (List.nodup_cons.mp parts.2.1).1
  rw [List.flatMap_append, List.flatMap_cons, absent before notBefore,
    absent after notAfter, if_pos rfl, List.nil_append, List.append_nil]

end Keys

end OpenOxide.Text
