import Mathlib.Data.List.Sort

/-!
# Pages of an ordered result

`SELECT … ORDER BY … LIMIT n` on a table: the rows are sorted and the first `n` of
them are returned.  A row is on the page exactly when fewer than `n` rows of the
table come before it.
-/

namespace OpenOxide.Relational

variable {Row : Type}

/-- In a strictly ordered list a row stands behind as many rows as precede it. -/
theorem mem_take_iff {before : Row → Row → Bool} {rows : List Row}
    (ordered : rows.Pairwise fun first second =>
      before first second = true ∧ before second first = false)
    (irreflexive : ∀ row ∈ rows, before row row = false)
    {row : Row} (member : row ∈ rows) (limit : Nat) :
    row ∈ rows.take limit ↔
      rows.countP (fun other => before other row) < limit := by
  induction rows generalizing limit with
  | nil => cases member
  | cons head tail induction =>
    obtain ⟨heads, tails⟩ := List.pairwise_cons.mp ordered
    have none : tail.countP (fun other => before other head) = 0 := by
      rw [List.countP_eq_zero]
      intro other later
      simp [(heads other later).2]
    have first : before head head = false :=
      irreflexive head List.mem_cons_self
    cases limit with
    | zero => simp
    | succ limit =>
      rw [List.take_succ_cons, List.mem_cons, List.countP_cons]
      rcases List.mem_cons.mp member with rfl | later
      · simp [none, first]
      · have smaller := induction tails
          (fun other inTail => irreflexive other
            (List.mem_cons_of_mem _ inTail)) later limit
        have behind := heads row later
        have different : row ≠ head := by
          rintro rfl
          rw [behind.1] at first
          cases first
        rw [smaller]
        simp [different, behind.1]

/-- The first rows of a table in an order. -/
def page (notAfter : Row → Row → Prop) [DecidableRel notAfter] (limit : Nat)
    (rows : List Row) : List Row :=
  (rows.insertionSort notAfter).take limit

/-- The number of rows that come before a row. -/
def rank (notAfter : Row → Row → Prop) [DecidableRel notAfter]
    (rows : List Row) (row : Row) : Nat :=
  rows.countP fun other => !decide (notAfter row other)

theorem mem_page_iff (notAfter : Row → Row → Prop) [DecidableRel notAfter]
    [Std.Total notAfter] [IsTrans Row notAfter] {rows : List Row}
    (strict : rows.Pairwise fun first second =>
      ¬ (notAfter first second ∧ notAfter second first))
    (limit : Nat) (row : Row) :
    row ∈ page notAfter limit rows ↔
      row ∈ rows ∧ rank notAfter rows row < limit := by
  have sorted := List.pairwise_insertionSort notAfter rows
  have permuted := List.perm_insertionSort notAfter rows
  have distinct : (rows.insertionSort notAfter).Pairwise fun first second =>
      ¬ (notAfter first second ∧ notAfter second first) :=
    permuted.symm.pairwise strict fun apart both => apart ⟨both.2, both.1⟩
  have ordered : (rows.insertionSort notAfter).Pairwise fun first second =>
      (!decide (notAfter second first)) = true ∧
        (!decide (notAfter first second)) = false := by
    refine sorted.imp₂ ?_ distinct
    intro first second before apart
    have behind : ¬ notAfter second first := fun after => apart ⟨before, after⟩
    simp [before, behind]
  have reflexive : ∀ row, notAfter row row := by
    intro row
    rcases Std.Total.total (r := notAfter) row row with same | same <;> exact same
  have counted : (rows.insertionSort notAfter).countP
      (fun other => !decide (notAfter row other)) = rank notAfter rows row :=
    permuted.countP_eq _
  constructor
  · intro member
    have inside := List.mem_of_mem_take member
    refine ⟨permuted.mem_iff.mp inside, ?_⟩
    rw [← counted]
    exact (mem_take_iff ordered (fun row _ => by simp [reflexive row]) inside
      limit).mp member
  · rintro ⟨member, low⟩
    rw [← counted] at low
    exact (mem_take_iff ordered (fun row _ => by simp [reflexive row])
      (permuted.mem_iff.mpr member) limit).mpr low

end OpenOxide.Relational
