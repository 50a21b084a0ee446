import Mathlib.Data.List.Forall2
import OpenOxide.Shell.Words

/-!
# Programs that start programs

A shell given `-c` starts the commands of its text, one after the other;
`setsid` and `sudo` start the command in their arguments.  An argument that an
expansion has a say in has no value here.  A name stands for what the shell
finds under it.
-/

namespace OpenOxide.Shell

abbrev Argv := List (Option String)

def Simple.argv (simple : Simple) : Argv :=
  simple.words.map literal

/-- A command after which the shell starts nothing more. -/
def isLast : Argv → Bool
  | some "exit" :: _ => true
  | some "exec" :: _ => true
  | _ => false

/-- The commands that a list of simple commands starts, one after the other.  A
program with anything else in it, such as a branch, a function or a command that
waits for the status of another, has no such list.  An assignment on its own
starts nothing. -/
def started : List Item → Option (List Argv)
  | [] => some []
  | .simple { assigns := _, words := [], redirections := _ } :: items =>
    started items
  | .simple { assigns := [], words, redirections } :: items =>
    let argv := Simple.argv ⟨[], words, redirections⟩
    if isLast argv then some [argv] else (started items).map (argv :: ·)
  | .op .semi :: items => started items
  | .op .amp :: items => started items
  | .newline :: items => started items
  | _ => none

/-- The commands that a text starts, when it is a list of simple commands. -/
def startedBy (text : String) : Option (List Argv) :=
  (parse text).bind started

/-- The command among the arguments of `sudo`, after its options. -/
def sudoCommand : Argv → Option Argv
  | some "-n" :: rest => sudoCommand rest
  | some "-S" :: rest => sudoCommand rest
  | some "-p" :: _ :: rest => sudoCommand rest
  | some "--" :: rest => some rest
  | _ => none

/-- What a command starts, when it is one of those that start others. -/
def launched : Argv → Option (List Argv)
  | [some "sh", some "-c", some text] => startedBy text
  | some "setsid" :: rest => some [rest]
  | some "sudo" :: rest => (sudoCommand rest).map ([·])
  | _ => none

variable {text : String}

theorem intercalate_blank (word : List Char) (words : List (List Char)) :
    List.intercalate [' '] (word :: words) = word ++ spaced words := by
  induction words generalizing word with
  | nil => simp [spaced]
  | cons next words induction =>
    rw [List.intercalate_cons_cons, induction, spaced_cons]
    simp

theorem toList_intercalate_blank (word : String) (words : List String) :
    (" ".intercalate (word :: words)).toList =
      word.toList ++ spaced (words.map String.toList) := by
  rw [String.toList_intercalate, List.map_cons]
  exact intercalate_blank word.toList (words.map String.toList)

/-- Quoted words with blanks between them are one command. -/
theorem parse_quoted {word : List Char} {words : List (List Char)}
    (written : text.toList =
      singleQuote word ++ spaced (words.map singleQuote)) :
    parse text =
      some [.simple { words := (word :: words).map quotedWord }] := by
  have reads : List.Forall₂ Reads (words.map singleQuote)
      (words.map quotedWord) := by
    rw [List.forall₂_map_left_iff, List.forall₂_map_right_iff]
    exact List.forall₂_same.mpr fun letters _ => reads_singleQuote letters
  have parsed := parse_simple written (reads_singleQuote word)
    (keyword?_quotedWord word) reads
  have collected : ({} : Simple).addAll (quotedWord word ::
      words.map quotedWord) =
      { words := quotedWord word :: words.map quotedWord } := by
    have first : ({} : Simple).add (quotedWord word) =
        { words := [quotedWord word] } := by
      rw [Simple.add, assignment?_quotedWord]
      rfl
    change (({} : Simple).add (quotedWord word)).addAll _ = _
    rw [first, Simple.addAll_of_words (by simp)]
    rfl
  rw [parsed, collected]
  rfl

end OpenOxide.Shell
