import OpenOxide.Shell.Line
import OpenOxide.Shell.Launch
import OpenOxide.Shell.Script

/-!
# One command put together from its parts

A command line is often put together from assignments with quoted values, a
program, and arguments as they are.  It is the command that was meant exactly
when every argument is plain.
-/

namespace OpenOxide.Shell

variable {letter : Char} {entry : String × String} {args : List String}

theorem isOrdinary_of_isNameLetter
    (named : isNameLetter letter = true) : isOrdinary letter = true := by
  rw [isOrdinary, beq_iff_eq]
  unfold classify
  split
  case h_17 => rfl
  all_goals
    rename_i code
    have equal := congrArg Char.ofNat code
    rw [Char.ofNat_toNat] at equal
    subst equal
    cases named

theorem isInner_of_isOrdinary
    (ordinary : isOrdinary letter = true) : isInner letter = true := by
  rw [isOrdinary] at ordinary
  rw [isInner, ordinary, Bool.true_or]

theorem isNameLetter_of_isName {letters : List Char}
    (name : isName letters = true)
    (member : letter ∈ letters) : isNameLetter letter = true := by
  cases letters with
  | nil => cases name
  | cons first rest =>
    rw [isName, Bool.and_eq_true, List.all_eq_true] at name
    rcases List.mem_cons.mp member with rfl | later
    · rw [isNameLetter, Bool.or_eq_true, Char.isAlphanum, Bool.or_eq_true]
      rcases Bool.or_eq_true_iff.mp name.1 with alpha | underscore
      · exact .inl (.inl alpha)
      · exact .inr underscore
    · exact name.2 letter later

/-- An assignment as it is written, with its value in quotes. -/
def assignment (entry : String × String) : Arg :=
  [.plain (entry.1.toList ++ ['=']), .quoted entry.2.toList]

theorem assignment_sound (name : isName entry.1.toList = true) :
    (assignment entry).sound = true := by
  have worded : isWordText (entry.1.toList ++ ['=']) = true := by
    cases letters : entry.1.toList with
    | nil =>
      rw [letters] at name
      cases name
    | cons first rest =>
      rw [letters] at name
      have ordinary : ∀ letter ∈ first :: rest, isOrdinary letter = true :=
        fun letter member => isOrdinary_of_isNameLetter
          (isNameLetter_of_isName name member)
      rw [List.cons_append, isWordText, Bool.and_eq_true,
        List.all_append, Bool.and_eq_true, List.all_eq_true]
      refine ⟨ordinary first (by simp), ?_, by decide⟩
      intro letter member
      exact isInner_of_isOrdinary (ordinary letter (by simp [member]))
  simp [assignment, Arg.sound, Segment.sound, worded]

theorem takeWhile_name {name : List Char}
    (valid : isName name = true) (value : Word) :
    (plainWord name ++ .char '=' false :: value).takeWhile
      (· != .char '=' false) = plainWord name := by
  rw [List.takeWhile_append_of_pos, List.takeWhile_cons_of_neg (by simp),
    List.append_nil]
  intro piece member
  obtain ⟨letter, inside, rfl⟩ := List.mem_map.mp member
  have named := isNameLetter_of_isName valid inside
  have different : letter ≠ '=' := by
    rintro rfl
    cases named
  simpa using different

theorem plainText_plainWord (letters : List Char) :
    plainText (plainWord letters) = some letters := by
  induction letters with
  | nil => rfl
  | cons letter letters induction =>
    change (plainText (plainWord letters)).map (letter :: ·) = _
    rw [induction]
    rfl

theorem assignment?_assignment (name : isName entry.1.toList = true) :
    assignment? (assignment entry).word =
      some (entry.1.toList, quotedWord entry.2.toList) := by
  have word : (assignment entry).word = plainWord entry.1.toList ++
      .char '=' false :: quotedWord entry.2.toList := by
    simp [assignment, Arg.word, Segment.word, plainWord]
  rw [word, assignment?, takeWhile_name name, List.drop_left,
    plainText_plainWord]
  exact if_pos name

/-- No reserved word has an equals sign. -/
theorem keyword?_assignment (entry : String × String) :
    keyword? (assignment entry).word = none := by
  have word : (assignment entry).word = plainWord entry.1.toList ++
      .char '=' false :: quotedWord entry.2.toList := by
    simp [assignment, Arg.word, Segment.word, plainWord]
  have signed : ∀ (pieces : Word) letters,
      plainText pieces = some letters →
      .char '=' false ∈ pieces → '=' ∈ letters := by
    intro pieces
    induction pieces with
    | nil =>
      intro letters _ member
      cases member
    | cons piece pieces induction =>
      intro letters plain member
      cases piece with
      | char letter quoted =>
        cases quoted with
        | true => cases plain
        | false =>
          obtain ⟨rest, tail, rfl⟩ := Option.map_eq_some_iff.mp plain
          rcases List.mem_cons.mp member with equal | later
          · obtain ⟨rfl, -⟩ := Piece.char.inj equal
            simp
          · exact List.mem_cons_of_mem _ (induction rest tail later)
      | expand | substitution => cases plain
  have free : (keywords.all fun known => !known.1.contains '=') = true := by
    decide +kernel
  rw [keyword?]
  cases plain : plainText (assignment entry).word with
  | none => rfl
  | some letters =>
    have sign : '=' ∈ letters := by
      apply signed _ _ plain
      rw [word]
      simp
    rw [Option.bind_some, Option.map_eq_none_iff, List.find?_eq_none]
    intro known member equal
    rw [List.all_eq_true] at free
    have absent := free known member
    rw [beq_iff_eq] at equal
    rw [equal] at absent
    simp [sign] at absent

/-- The assignments and the program of a command. -/
def assembled (env : List (String × String)) (program : String) : Command :=
  match env with
  | [] => ⟨bare program, []⟩
  | entry :: env =>
    ⟨assignment entry,
      (env.map assignment ++ [bare program]).map Element.word⟩

/-- The environment as the parser has it. -/
def assigns (env : List (String × String)) : List (List Char × Value) :=
  env.map fun entry => (entry.1.toList, .word (quotedWord entry.2.toList))

theorem assembled_text (env : List (String × String)) (program : String) :
    (assembled env program).text =
      List.intercalate [' ']
        ((env.map fun entry => (assignment entry).text) ++
          [program.toList]) := by
  have elements : ∀ args : List Arg,
      ((args.map Element.word).flatMap fun element =>
        ' ' :: element.text) = spaced (args.map Arg.text) := by
    simp [spaced, List.flatMap_map, Element.text]
  cases env with
  | nil => simp [assembled, Command.text, bare, Arg.text, Segment.text]
  | cons entry env =>
    rw [assembled, Command.text, elements, List.map_cons,
      List.cons_append, intercalate_blank]
    simp [bare, Arg.text, Segment.text, Function.comp_def]

section Assembled

variable {env : List (String × String)} {program : String}

/-- The names of an environment can be assigned to, and the program is a
plain word that is neither reserved nor an assignment. -/
structure Assembles (env : List (String × String)) (program : String) :
    Prop where
  names : ∀ entry ∈ env, isName entry.1.toList = true
  plain : isPlainArg program = true
  free : keyword? (plainWord program.toList) = none
  word : assignment? (plainWord program.toList) = none

theorem Assembles.worded (assembles : Assembles env program) :
    isWordText program.toList = true := by
  have plain := assembles.plain
  simp only [isPlainArg, Bool.and_eq_true] at plain
  exact plain.1.1

theorem bare_word (text : String) : (bare text).word = plainWord text.toList := by
  simp [bare, Arg.word, Segment.word]

theorem assembled_sound (assembles : Assembles env program) :
    (assembled env program).sound = true := by
  have last : (bare program).sound = true := by
    simp [bare, Arg.sound, Segment.sound, assembles.worded]
  cases env with
  | nil =>
    simp [assembled, Command.sound, last, bare_word, assembles.free]
  | cons entry env =>
    rw [assembled, Command.sound, Bool.and_eq_true, Bool.and_eq_true,
      assignment_sound (assembles.names entry (by simp)),
      keyword?_assignment, List.all_eq_true]
    refine ⟨⟨rfl, rfl⟩, ?_⟩
    intro element member
    obtain ⟨arg, inside, rfl⟩ := List.mem_map.mp member
    rcases List.mem_append.mp inside with assigned | equal
    · obtain ⟨other, known, rfl⟩ := List.mem_map.mp assigned
      exact assignment_sound (assembles.names other (by simp [known]))
    · rw [List.mem_singleton.mp equal]
      exact last

theorem Simple.add_assignment (name : isName entry.1.toList = true)
    (before : List (List Char × Value)) :
    Simple.add { assigns := before } (assignment entry).word =
      { assigns := before ++
        [(entry.1.toList, .word (quotedWord entry.2.toList))] } := by
  rw [Simple.add, assignment?_assignment name]

theorem assembled_simple (assembles : Assembles env program) :
    (assembled env program).simple =
      { assigns := assigns env, words := [plainWord program.toList] } := by
  have last : ∀ before : List (List Char × Value),
      Simple.add { assigns := before } (bare program).word =
        { assigns := before, words := [plainWord program.toList] } := by
    intro before
    rw [bare_word, Simple.add, assembles.word]
    rfl
  have run : ∀ (entries : List (String × String)) before,
      (∀ entry ∈ entries, isName entry.1.toList = true) →
      ((entries.map assignment ++ [bare program]).map Element.word).foldl
          Element.extend { assigns := before } =
        { assigns := before ++ assigns entries,
          words := [plainWord program.toList] } := by
    intro entries
    induction entries with
    | nil =>
      simp [assigns, Element.extend, last]
    | cons entry entries induction =>
      intro before names
      rw [List.map_cons, List.cons_append, List.map_cons, List.foldl_cons,
        Element.extend, Simple.add_assignment (names entry (by simp)),
        induction _ fun other member => names other (by simp [member])]
      simp [assigns]
  cases env with
  | nil => exact last []
  | cons entry env =>
    rw [assembled, Command.simple,
      Simple.add_assignment (assembles.names entry (by simp)),
      run env _ fun other member => assembles.names other (by simp [member])]
    simp [assigns]

theorem assigned_assigns (env : List (String × String)) :
    (assigns env).mapM assigned = some env :=
  Text.mapM_map fun entry _ => by simp [assigned, Value.literal]

theorem literals_of_plain (plain : ∀ arg ∈ args, isPlainArg arg = true) :
    (args.map fun arg => plainWord arg.toList).mapM literal = some args := by
  refine Text.mapM_map fun arg member => ?_
  have here := plain arg member
  simp only [isPlainArg, Bool.and_eq_true, bne_iff_ne, ne_eq,
    Bool.not_eq_true'] at here
  exact literal_plainWord.mpr ⟨by simp, here.1.2, here.2⟩

theorem invocation_plain (env : List (String × String)) {argv : List String}
    (plain : ∀ arg ∈ argv, isPlainArg arg = true) :
    Simple.invocation
        ⟨assigns env, argv.map fun arg => plainWord arg.toList, []⟩ =
      some ⟨env, argv⟩ := by
  rw [Simple.invocation, if_pos rfl]
  rw [assigned_assigns, literals_of_plain plain]
  rfl

theorem count_spaced (other : letter ≠ ' ') (args : List String) :
    (spaced (args.map String.toList)).count letter =
      sumOf (fun arg => arg.toList.count letter) args := by
  induction args with
  | nil => rfl
  | cons arg args induction =>
    rw [List.map_cons, spaced_cons,
      List.count_cons_of_ne (by simpa using other.symm),
      List.count_append, induction]
    rfl

section

variable (assembles : Assembles env program)

include assembles

/-- Arguments as they are, after the program, where nothing else follows. -/
theorem plain_of_soleInvocation {text : String} (written : text.toList =
      (assembled env program).text ++ spaced (args.map String.toList))
    (sole : soleInvocation text = some ⟨env, program :: args⟩) :
    ∀ arg ∈ args, isPlainArg arg = true := by
  rw [soleInvocation] at sole
  split at sole
  next simple parsed =>
    obtain ⟨next, reading, delivered⟩ :=
      Command.reads (assembled_sound assembles) [] .optional [] []
    rw [assembled_simple assembles] at delivered
    have complete := completes_of_parse parsed
    rw [written] at complete
    have all : invocations [.simple simple] =
        some ([] ++ ⟨env, [program] ++ args⟩ :: []) := by
      simp [invocations, sole]
    cases args with
    | nil => simp
    | cons arg rest =>
      rw [List.map_cons, spaced_cons, ← List.singleton_append] at complete
      have line := (complete.after_read reading).after_read
        (read_blank delivered)
      refine plain_arguments (by simp) line ?_ rfl rfl all
      intro letter member
      obtain ⟨later, stop⟩ := List.head?_eq_some_iff.mp member
      have fewer := count_lt_of_stop ⟨rfl, by simp⟩ line all stop
      have other : letter ≠ ' ' := by
        rintro rfl
        exact absurd (isLine_of_stop stop) (by decide)
      have here : ∀ arg ∈ [program], isPlainArg arg = true := by
        simpa using assembles.plain
      have before := Simple.total_of_invocation
        (invocation_plain env here) letter
      have values := count_spaced other (arg :: rest)
      rw [List.map_cons, spaced_cons,
        List.count_cons_of_ne (by simpa using other.symm)] at values
      rw [List.map_cons, List.map_nil] at before
      simp only [Machine.total, Place.total, before, Invocation.count,
        Option.elim_none, sumOf_nil, sumOf_cons, List.nil_append,
        List.singleton_append, values] at fewer
      omega
  next _ => cases sole

/-- A command with plain arguments, where a command may begin. -/
theorem read_assembled (plain : ∀ arg ∈ args, isPlainArg arg = true)
    (opened : List (Option Base)) (need : Need) (frames : List Frame)
    (items : List Item) :
    ∃ next, read ⟨.plain false, opened⟩ ⟨.start need, none, frames, items⟩
          ((assembled env program).text ++
            spaced (args.map String.toList)) =
        some (⟨.plain true, opened⟩, next) ∧
      deliver next = some ⟨.command ⟨assigns env,
        (program :: args).map fun arg => plainWord arg.toList, []⟩, none,
        frames, items⟩ := by
  obtain ⟨next, reading, delivered⟩ :=
    Command.reads (assembled_sound assembles) opened need frames items
  rw [assembled_simple assembles] at delivered
  have sound : ∀ element ∈ args.map fun arg => Element.word (bare arg),
      element.sound = true := by
    intro element member
    obtain ⟨arg, inside, rfl⟩ := List.mem_map.mp member
    have here := plain arg inside
    simp only [isPlainArg, Bool.and_eq_true] at here
    simp [Element.sound, bare, Arg.sound, Segment.sound, here.1.1]
  obtain ⟨last, more, ended⟩ :=
    @read_elements opened _ _ _ _ delivered _ sound
  have rest : ((args.map fun arg => Element.word (bare arg)).flatMap
      fun element => ' ' :: element.text) =
      spaced (args.map String.toList) := by
    simp [spaced, List.flatMap_map, Element.text, bare, Arg.text, Segment.text]
  have folded : ∀ simple : Simple,
      (args.map fun arg => Element.word (bare arg)).foldl Element.extend
          simple =
        simple.addAll (args.map fun arg => plainWord arg.toList) := by
    intro simple
    rw [Simple.addAll, List.foldl_map, List.foldl_map]
    simp [Element.extend, bare_word]
  refine ⟨last, ?_, ?_⟩
  · rw [← rest]
    exact (read_append_of_eq reading _).trans more
  · rw [ended, folded, Simple.addAll_of_words (by simp)]
    rfl

theorem soleInvocation_assembled {text : String} (written : text.toList =
      (assembled env program).text ++ spaced (args.map String.toList)) :
    soleInvocation text = some ⟨env, program :: args⟩ ↔
      ∀ arg ∈ args, isPlainArg arg = true := by
  refine ⟨plain_of_soleInvocation assembles written, ?_⟩
  intro plain
  obtain ⟨last, reading, ended⟩ :=
    read_assembled assembles plain [] .optional [] []
  rw [← written] at reading
  have parsed : parse text = some [.simple ⟨assigns env,
      (program :: args).map fun arg => plainWord arg.toList, []⟩] := by
    rw [parse_of_read reading]
    change last.accept = _
    rw [Machine.accept, ended]
    rfl
  have every : ∀ arg ∈ program :: args, isPlainArg arg = true :=
    List.forall_mem_cons.mpr ⟨assembles.plain, plain⟩
  rw [soleInvocation, parsed]
  exact invocation_plain env every

end

end Assembled

end OpenOxide.Shell
