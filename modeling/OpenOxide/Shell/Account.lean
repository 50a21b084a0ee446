import OpenOxide.Shell.Words

/-!
# Where the pieces of words come from

The parser moves pieces around and drops some; it never makes one.  So what the
words of a program hold is bounded by what the events brought in, for every
kind of piece.  Nor does it look at the commands it has read, so they stay as
they are.
-/

namespace OpenOxide.Shell

variable {α : Type} {op : Op}

section Counting

variable (counts : Piece → Bool)

def sumOf {α : Type} (count : α → Nat) (items : List α) : Nat :=
  items.foldr (fun item total => count item + total) 0

@[simp]
theorem sumOf_nil (count : α → Nat) : sumOf count [] = 0 := rfl

@[simp]
theorem sumOf_cons (count : α → Nat) (item : α) (items : List α) :
    sumOf count (item :: items) = count item + sumOf count items := rfl

@[simp]
theorem sumOf_append (count : α → Nat) (left right : List α) :
    sumOf count (left ++ right) = sumOf count left + sumOf count right := by
  induction left with
  | nil => exact (Nat.zero_add _).symm
  | cons item left induction =>
    rw [List.cons_append, sumOf_cons, sumOf_cons, induction, Nat.add_assoc]

def Word.total (word : Word) : Nat :=
  word.countP counts

def Value.total : Value → Nat
  | .word text => Word.total counts text
  | .array words => sumOf (Word.total counts) words

def Simple.total (simple : Simple) : Nat :=
  sumOf (fun entry => entry.2.total counts) simple.assigns +
    sumOf (Word.total counts) simple.words +
    sumOf (fun entry => Word.total counts entry.target) simple.redirections

def Item.total : Item → Nat
  | .simple command => command.total counts
  | .loop _ words => sumOf (Word.total counts) words
  | .redirection entry => Word.total counts entry.target
  | _ => 0

def Place.total : Place → Nat
  | .command simple => simple.total counts
  | .target _ _ (some simple) => simple.total counts
  | .forWords _ words => sumOf (Word.total counts) words
  | .array simple _ words =>
    simple.total counts + sumOf (Word.total counts) words
  | _ => 0

def Frame.total : Frame → Nat
  | .substitution place word => place.total counts + Word.total counts word
  | _ => 0

def Machine.total (machine : Machine) : Nat :=
  machine.place.total counts + (machine.word.elim 0 (Word.total counts)) +
    sumOf (Frame.total counts) machine.frames +
    sumOf (Item.total counts) machine.items

def Event.total : Event → Nat
  | .char letter quoted => if counts (.char letter quoted) then 1 else 0
  | .expand letter quoted => if counts (.expand letter quoted) then 1 else 0
  | .leave => if counts .substitution then 1 else 0
  | _ => 0

end Counting

variable {counts : Piece → Bool}

@[simp]
theorem Machine.total_mk (place : Place) (word : Option Word)
    (frames : List Frame) (items : List Item) :
    Machine.total counts ⟨place, word, frames, items⟩ =
      place.total counts + word.elim 0 (Word.total counts) +
        sumOf (Frame.total counts) frames +
        sumOf (Item.total counts) items := rfl

@[simp]
theorem Event.total_char (letter : Char) (quoted : Bool) :
    (Event.char letter quoted).total counts =
      if counts (.char letter quoted) then 1 else 0 := rfl

theorem Event.total_leave :
    Event.leave.total counts = if counts .substitution then 1 else 0 := rfl

@[simp]
theorem Simple.total_empty : ({} : Simple).total counts = 0 := rfl

attribute [simp] Place.total Item.total Frame.total

theorem total_assignment {word value : Word} {name : List Char}
    (assigns : assignment? word = some (name, value)) :
    Word.total counts value ≤ Word.total counts word := by
  have suffix : value <:+ word := by
    rw [assignment?] at assigns
    split at assigns
    next _ _ rest _ dropped _ =>
      split at assigns
      next _ =>
        obtain ⟨rfl, rfl⟩ := Prod.mk.injEq .. ▸ Option.some.inj assigns
        have whole := List.drop_suffix
          (word.takeWhile (· != .char '=' false)).length word
        rw [dropped] at whole
        exact (List.suffix_cons _ _).trans whole
      next _ => cases assigns
    next _ _ _ => cases assigns
  exact suffix.sublist.countP_le

theorem Simple.total_add (simple : Simple) (word : Word) :
    (simple.add word).total counts ≤
      simple.total counts + Word.total counts word := by
  rw [Simple.add]
  split
  next name value _ assigns =>
    have bound := @total_assignment counts _ _ _ assigns
    simp [Simple.total, Value.total]
    omega
  next _ =>
    simp [Simple.total]
    omega

/-- The parser goes on without a new piece. -/
structure Passes (counts : Piece → Bool) (machine next : Machine) : Prop where
  items : machine.items <+: next.items
  total : next.total counts ≤ machine.total counts

variable {machine next : Machine} {frames : List Frame} {items : List Item}

theorem Passes.refl (machine : Machine) : Passes counts machine machine :=
  ⟨List.prefix_refl _, Nat.le_refl _⟩

theorem Passes.trans {middle : Machine}
    (first : Passes counts machine middle)
    (second : Passes counts middle next) : Passes counts machine next :=
  ⟨first.items.trans second.items, second.total.trans first.total⟩

theorem Keyword.turn_passes {keyword : Keyword} {place : Place}
    {word : Option Word} (turned : keyword.turn frames items = some next) :
    Passes counts ⟨place, word, frames, items⟩ next := by
  cases frames with
  | nil => cases turned
  | cons frame outer =>
    rw [Keyword.turn, Option.map_eq_some_iff] at turned
    obtain ⟨⟨inner, place⟩, turns, rfl⟩ := turned
    have light : sumOf (Frame.total counts) inner = 0 ∧
        place.total counts = 0 := by
      cases keyword <;> cases frame <;>
        obtain ⟨rfl, rfl⟩ := turns <;> exact ⟨rfl, rfl⟩
    refine ⟨List.prefix_append _ _, ?_⟩
    simp [light, -Place.total, -Frame.total]
    omega

theorem startWord_passes {need : Need} {word : Word}
    (started : startWord need frames items word = some next) :
    Passes counts ⟨.start need, some word, frames, items⟩ next := by
  rw [startWord] at started
  split at started
  next _ =>
    cases started
    have bound := @Simple.total_add counts {} word
    rw [Simple.total_empty] at bound
    refine ⟨List.prefix_refl _, ?_⟩
    simp
    omega
  next keyword _ =>
    split at started
    next _ => cases started
    next _ =>
      split at started
      next inner place opens =>
        cases started
        have light : sumOf (Frame.total counts) inner = 0 ∧
            place.total counts = 0 := by
          cases keyword <;>
            obtain ⟨rfl, rfl⟩ := opens <;> exact ⟨rfl, rfl⟩
        refine ⟨List.prefix_append _ _, ?_⟩
        simp [light, -Place.total]
      next _ =>
        split at started
        next _ => exact Keyword.turn_passes started
        next _ => cases started

theorem deliver_passes (delivered : deliver machine = some next) :
    Passes counts machine next := by
  obtain ⟨place, word, frames, items⟩ := machine
  cases word with
  | none =>
    cases delivered
    exact .refl _
  | some word =>
    cases place with
    | start need => exact startWord_passes delivered
    | command simple =>
      cases delivered
      have bound := @Simple.total_add counts simple word
      refine ⟨List.prefix_refl _, ?_⟩
      simp
      omega
    | target number op back =>
      cases back with
      | none =>
        cases delivered
        refine ⟨List.prefix_append _ _, ?_⟩
        simp
        omega
      | some simple =>
        cases delivered
        refine ⟨List.prefix_refl _, ?_⟩
        simp [Simple.total]
        omega
    | closed =>
      obtain ⟨keyword, -, turned⟩ := Option.bind_eq_some_iff.mp delivered
      exact Keyword.turn_passes turned
    | forName =>
      obtain ⟨name, -, named⟩ := Option.bind_eq_some_iff.mp delivered
      split at named
      next _ =>
        cases named
        refine ⟨List.prefix_refl _, ?_⟩
        simp
      next _ => cases named
    | forIn name =>
      simp only [deliver] at delivered
      split at delivered
      next _ =>
        cases delivered
        refine ⟨List.prefix_refl _, ?_⟩
        simp
      next _ => cases delivered
    | forWords name words =>
      cases delivered
      refine ⟨List.prefix_refl _, ?_⟩
      simp
    | array simple name words =>
      cases delivered
      refine ⟨List.prefix_refl _, ?_⟩
      simp
      omega
    | forDo | body =>
      simp only [deliver] at delivered
      split at delivered
      next _ =>
        cases delivered
        refine ⟨List.prefix_append _ _, ?_⟩
        simp
      next _ => cases delivered
    | header name => cases delivered

theorem ended_account {place : Place} {finished : List Item}
    (ends : ended place items = some finished) :
    items <+: finished ∧ sumOf (Item.total counts) finished =
      place.total counts + sumOf (Item.total counts) items := by
  cases place with
  | start need =>
    cases need <;> simp only [ended, Option.some.injEq, reduceCtorEq] at ends
    subst ends
    simp
  | command simple =>
    cases ends
    simp [Nat.add_comm]
  | closed =>
    cases ends
    simp
  | _ => cases ends

theorem breakLine_passes (broken : breakLine machine = some next) :
    Passes counts machine next := by
  obtain ⟨place, word, frames, items⟩ := machine
  cases place with
  | start | forIn | forDo | body | array =>
    cases broken
    exact .refl _
  | closed =>
    cases broken
    refine ⟨List.prefix_append _ _, ?_⟩
    simp
  | command | forWords =>
    cases broken
    refine ⟨List.prefix_append _ _, ?_⟩
    simp
    omega
  | _ => cases broken

theorem separate_passes {need : Need}
    (separated : separate op need machine = some next) :
    Passes counts machine next := by
  obtain ⟨place, word, frames, items⟩ := machine
  cases place with
  | closed =>
    cases separated
    refine ⟨List.prefix_append _ _, ?_⟩
    simp
  | command simple =>
    cases separated
    refine ⟨List.prefix_append _ _, ?_⟩
    simp
    omega
  | forWords name words =>
    simp only [separate] at separated
    split at separated
    next _ =>
      cases separated
      refine ⟨List.prefix_append _ _, ?_⟩
      simp
      omega
    next _ => cases separated
  | _ => cases separated

theorem redirect_passes {number : List Char}
    (redirected : redirect op number machine = some next) :
    Passes counts machine next := by
  obtain ⟨place, word, frames, items⟩ := machine
  cases place with
  | start | command | closed =>
    cases redirected
    refine ⟨List.prefix_refl _, ?_⟩
    simp
  | _ => cases redirected

theorem openParen_passes (opens : openParen machine = some next) :
    Passes counts machine next := by
  obtain ⟨place, word, frames, items⟩ := machine
  simp only [openParen] at opens
  split at opens
  next _ =>
    cases opens
    refine ⟨List.prefix_append _ _, ?_⟩
    simp
  next _ =>
    obtain ⟨name, -, named⟩ := Option.bind_eq_some_iff.mp opens
    split at named
    next _ =>
      cases named
      refine ⟨List.prefix_refl _, ?_⟩
      simp
    next _ => cases named
  next _ _ _ => cases opens

theorem closeParen_passes (closes : closeParen machine = some next) :
    Passes counts machine next := by
  obtain ⟨place, word, frames, items⟩ := machine
  simp only [closeParen] at closes
  split at closes
  next name =>
    cases closes
    refine ⟨List.prefix_append _ _, ?_⟩
    simp
  next simple name words =>
    cases closes
    refine ⟨List.prefix_refl _, ?_⟩
    simp [Simple.total, Value.total]
    omega
  next _ _ _ =>
    split at closes
    next outer finished ends =>
      cases closes
      obtain ⟨stays, same⟩ := @ended_account counts _ _ _ ends
      refine ⟨stays.trans (List.prefix_append _ _), ?_⟩
      simp [same]
      omega
    next _ _ _ => cases closes

theorem operate_passes (operated : operate op machine = some next) :
    Passes counts machine next := by
  cases op with
  | doubleSemi => cases operated
  | leftParen => exact openParen_passes operated
  | rightParen => exact closeParen_passes operated
  | semi | amp | andIf | orIf | bar =>
    exact separate_passes operated
  | _ => exact redirect_passes operated

theorem operator_passes (operated : operator op machine = some next) :
    Passes counts machine next := by
  have whole : (deliver machine).bind (operate op) = some next →
      Passes counts machine next := by
    intro both
    obtain ⟨middle, delivered, rest⟩ := Option.bind_eq_some_iff.mp both
    exact (deliver_passes delivered).trans (operate_passes rest)
  unfold operator at operated
  split at operated
  next _ =>
    split at operated
    next number _ =>
      refine .trans ⟨List.prefix_refl _, ?_⟩ (redirect_passes operated)
      simp [Machine.total]
    next _ => exact whole operated
  next _ =>
    split at operated
    next simple name begins _ =>
      cases operated
      have light : simple.total counts ≤ machine.place.total counts := by
        unfold arrayStart? at begins
        split at begins
        next _ =>
          obtain ⟨rfl, -⟩ := Prod.mk.injEq .. ▸ Option.some.inj begins
          simp
        next _ place =>
          split at begins
          next _ =>
            obtain ⟨rfl, -⟩ := Prod.mk.injEq .. ▸ Option.some.inj begins
            rw [place]
            exact Nat.le_refl _
          next _ => cases begins
        next _ _ => cases begins
      have empty : Place.total counts (.array simple name []) =
          simple.total counts := rfl
      refine ⟨List.prefix_refl _, ?_⟩
      simp only [Machine.total, empty, Option.elim_none]
      omega
    next _ _ _ => exact whole operated

theorem leaveSubstitution_account
    (left : leaveSubstitution machine = some next) :
    machine.items <+: next.items ∧
      next.total counts ≤ machine.total counts +
        (if counts .substitution then 1 else 0) := by
  rw [leaveSubstitution] at left
  split at left
  next place word outer finished frames ends =>
    cases left
    obtain ⟨stays, same⟩ := @ended_account counts _ _ _ ends
    refine ⟨stays.trans (List.prefix_append _ _), ?_⟩
    simp only [Machine.total, frames, sumOf_cons, sumOf_append, sumOf_nil,
      same, Frame.total, Item.total, Option.elim_some, Word.total,
      List.countP_append, List.countP_cons, List.countP_nil]
    omega
  next _ _ _ => cases left

theorem feed_account {event : Event} (fed : machine.feed event = some next) :
    machine.items <+: next.items ∧
      next.total counts ≤ machine.total counts + event.total counts := by
  have grown : ∀ piece, (machine.piece piece).total counts =
      machine.total counts + (if counts piece then 1 else 0) := by
    cases word : machine.word <;>
      simp [Machine.piece, Machine.total, word, Word.total,
        List.countP_append, List.countP_cons] <;> omega
  have whole : Passes counts machine next → machine.items <+: next.items ∧
      next.total counts ≤ machine.total counts + event.total counts :=
    fun passes => ⟨passes.items, passes.total.trans (Nat.le_add_right _ _)⟩
  cases event with
  | char | expand =>
    cases fed
    exact ⟨List.prefix_refl _, Nat.le_of_eq (grown _)⟩
  | mark =>
    cases fed
    cases word : machine.word <;>
      simp [Machine.total, word, Word.total]
  | enter =>
    cases fed
    cases word : machine.word <;>
      simp [Machine.total, word, Word.total]
  | leave =>
    obtain ⟨middle, delivered, left⟩ := Option.bind_eq_some_iff.mp fed
    have passes := @deliver_passes counts _ _ delivered
    obtain ⟨stays, more⟩ := @leaveSubstitution_account counts _ _ left
    refine ⟨passes.items.trans stays, ?_⟩
    have bound := passes.total
    rw [Event.total_leave]
    omega
  | blank => exact whole (deliver_passes fed)
  | newline =>
    obtain ⟨middle, delivered, broken⟩ := Option.bind_eq_some_iff.mp fed
    exact whole ((deliver_passes delivered).trans (breakLine_passes broken))
  | op op => exact whole (operator_passes fed)
  | foreign => cases fed

theorem run_account {input : List Event} (ran : machine.run input = some next) :
    machine.items <+: next.items ∧
      next.total counts ≤
        machine.total counts + sumOf (Event.total counts) input := by
  induction input generalizing machine with
  | nil =>
    cases ran
    exact ⟨List.prefix_refl _, Nat.le_refl _⟩
  | cons event input induction =>
    obtain ⟨middle, fed, rest⟩ := Option.bind_eq_some_iff.mp ran
    obtain ⟨stays, first⟩ := @feed_account counts _ _ _ fed
    obtain ⟨last, later⟩ := induction rest
    refine ⟨stays.trans last, ?_⟩
    rw [sumOf_cons]
    omega

theorem run_items {input : List Event} (ran : machine.run input = some next) :
    machine.items <+: next.items :=
  (@run_account (fun _ => false) _ _ _ ran).1

theorem accept_account (accepted : machine.accept = some items) :
    machine.items <+: items ∧
      sumOf (Item.total counts) items ≤ machine.total counts := by
  obtain ⟨last, delivered, ends⟩ := Option.bind_eq_some_iff.mp accepted
  split at ends
  next closed =>
    obtain ⟨stays, bound⟩ := @deliver_passes counts _ _ delivered
    obtain ⟨more, same⟩ := @ended_account counts _ _ _ ends
    refine ⟨stays.trans more, ?_⟩
    simp only [Machine.total] at bound ⊢
    omega
  next _ => cases ends

theorem accept_items (accepted : machine.accept = some items) :
    machine.items <+: items :=
  (@accept_account (fun _ => false) _ _ accepted).1

end OpenOxide.Shell
