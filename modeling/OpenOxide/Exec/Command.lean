import OpenOxide.Shell.Assembled
import OpenOxide.Text.Fields

/-!
# Command builders

The argument builder of the command line clients keeps a list of arguments.  It
is run either as that list, through an executor, or as a line of a script, with
blanks between the arguments.
-/

namespace OpenOxide.Exec

open Shell

/-- Quote a value for a script. -/
def shellSingleQuote (value : String) : String :=
  String.ofList (singleQuote value.toList)

@[simp]
theorem toList_shellSingleQuote (value : String) :
    (shellSingleQuote value).toList = singleQuote value.toList := by
  rw [shellSingleQuote, String.toList_ofList]

structure ArgBuilder where
  args : List String

namespace ArgBuilder

def cmd (subcommand : List String) : ArgBuilder :=
  ⟨subcommand⟩

variable (builder : ArgBuilder)

def flag (name : String) : ArgBuilder :=
  ⟨builder.args ++ [name]⟩

def pair (key value : String) : ArgBuilder :=
  ⟨builder.args ++ [key, value]⟩

/-- Put a pair before the argument at the index. -/
def insertPair (index : Nat) (key value : String) : ArgBuilder :=
  ⟨(builder.args.insertIdx index value).insertIdx index key⟩

def push (value : String) : ArgBuilder :=
  ⟨builder.args ++ [value]⟩

def build : List String :=
  builder.args

/-- The line of a script that runs the builder. -/
def preview : String :=
  " ".intercalate ("docker" :: builder.args)

end ArgBuilder

/-- Letters that stand for themselves inside an argument. -/
def isInertValue (value : String) : Bool :=
  value.toList.all isInner && !hasPattern value.toList

/-- The fixed beginning of an argument. -/
def isHead (letters : List Char) : Bool :=
  isWordText letters &&
    letters.all (fun letter => letter != '*' && letter != '?' && letter != '[')
    && letters.head? != some '~'

theorem hasPattern_append {left : List Char}
    (free : left.all (fun letter =>
      letter != '*' && letter != '?' && letter != '[') = true)
    (right : List Char) :
    hasPattern (left ++ right) = hasPattern right := by
  induction left with
  | nil => rfl
  | cons letter left induction =>
    rw [List.all_cons, Bool.and_eq_true] at free
    simp only [Bool.and_eq_true, bne_iff_ne] at free
    rw [List.cons_append, hasPattern, induction free.2]
    simp [isPattern, free.1.1.1, free.1.1.2, free.1.2]

theorem isPlainArg_append {head : String}
    (headed : isHead head.toList = true) (value : String) :
    isPlainArg (head ++ value) = isInertValue value := by
  rw [isHead, Bool.and_eq_true, Bool.and_eq_true] at headed
  obtain ⟨⟨worded, free⟩, start⟩ := headed
  rw [isPlainArg, String.toList_append, hasPattern_append free, isInertValue]
  cases letters : head.toList with
  | nil =>
    rw [letters] at worded
    cases worded
  | cons first rest =>
    rw [letters] at worded start
    rw [isWordText, Bool.and_eq_true] at worded
    rw [List.head?_cons] at start
    rw [List.cons_append, isWordText, List.all_append, worded.1, worded.2,
      List.head?_cons, start]
    simp

theorem isInertValue_natural (number : Nat) :
    isInertValue (toString number) = true := by
  have digits : ∀ letter ∈ (toString number).toList,
      letter.isDigit = true := fun letter member =>
    Text.digit_of_mem_natural member
  have inner : (toString number).toList.all isInner = true := by
    rw [List.all_eq_true]
    intro letter member
    apply isInner_of_isOrdinary
    apply isOrdinary_of_isNameLetter
    simp [isNameLetter, Char.isAlphanum, digits letter member]
  have free : (toString number).toList.all (fun letter =>
      letter != '*' && letter != '?' && letter != '[') = true := by
    rw [List.all_eq_true]
    intro letter member
    have digit := digits letter member
    simp only [Bool.and_eq_true, bne_iff_ne]
    refine ⟨⟨?_, ?_⟩, ?_⟩ <;> rintro rfl <;> cases digit
  have none := hasPattern_append free []
  rw [List.append_nil] at none
  rw [isInertValue, inner, none]
  rfl

theorem preview_text (builder : ArgBuilder) :
    builder.preview.toList = (assembled [] "docker").text ++
      spaced (builder.args.map String.toList) := by
  rw [ArgBuilder.preview, toList_intercalate_blank, assembled_text]
  rfl

theorem assembles_docker : Assembles [] "docker" where
  names := by simp
  plain := by decide +kernel
  free := by decide +kernel
  word := by decide +kernel

end OpenOxide.Exec
