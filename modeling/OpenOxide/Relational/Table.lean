import Mathlib.Data.List.Pairwise
import Mathlib.Data.List.Nodup

/-!
# Tables of rows

A table is a list of rows in insertion order.  `updateWhere` is an SQL
`UPDATE … SET … WHERE …`: it rewrites the rows that the condition hits and
leaves the others alone.  `AtMostOne` is what a partial unique index
guarantees about the rows it covers; rewriting keeps it when it brings no
row into the index, and an insertion keeps it when no row of the table has
the new row's place.  `Keyed` is what an `AUTOINCREMENT` key guarantees.
-/

namespace OpenOxide.Relational

variable {Row Column : Type}

/-- Rewrite the rows that the condition hits. -/
def updateWhere (hits : Row → Bool) (change : Row → Row)
    (rows : List Row) : List Row :=
  rows.map fun row => if hits row then change row else row

/-- At most one row of the table satisfies the condition. -/
def AtMostOne (covers : Row → Bool) (rows : List Row) : Prop :=
  rows.Pairwise fun first second => ¬ (covers first = true ∧ covers second = true)

variable {hits keep : Row → Bool} {change : Row → Row} {row : Row}
  {rows : List Row}

theorem mem_updateWhere : row ∈ updateWhere hits change rows ↔
      ∃ old ∈ rows, (if hits old then change old else old) = row :=
  List.mem_map

theorem forall_mem_insert {holds : Row → Prop} (old : ∀ row ∈ rows, holds row)
    (new : holds row) : ∀ other ∈ rows ++ [row], holds other :=
  List.forall_mem_append.mpr ⟨old, List.forall_mem_singleton.mpr new⟩

theorem cases_of_mem_updateWhere
    (member : row ∈ updateWhere hits change rows) :
    ∃ old ∈ rows, hits old = true ∧ row = change old ∨
      hits old = false ∧ row = old := by
  obtain ⟨old, present, rfl⟩ := mem_updateWhere.mp member
  refine ⟨old, present, ?_⟩
  cases hits old <;> simp

theorem map_updateWhere {column : Row → Column}
    (kept : ∀ row, column (change row) = column row) (rows : List Row) :
    (updateWhere hits change rows).map column = rows.map column := by
  unfold updateWhere
  rw [List.map_map]
  apply List.map_congr_left
  intro row _
  by_cases hit : hits row
  · simp [hit, kept]
  · simp [hit]

theorem filter_updateWhere_outside (outside : ∀ row ∈ rows, hits row = true →
      keep row = false ∧ keep (change row) = false) :
    (updateWhere hits change rows).filter keep = rows.filter keep := by
  unfold updateWhere
  induction rows with
  | nil => rfl
  | cons row rows ih =>
    have later := ih fun other member =>
      outside other (List.mem_cons_of_mem _ member)
    rw [List.map_cons, List.filter_cons, List.filter_cons, later]
    cases hit : hits row with
    | true => simp [outside row List.mem_cons_self hit]
    | false => simp

theorem filter_updateWhere (kept : ∀ row, keep (change row) = keep row)
    (missed : ∀ row ∈ rows, keep row = true → hits row = false) :
    (updateWhere hits change rows).filter keep = rows.filter keep := by
  apply filter_updateWhere_outside
  intro row member hit
  have unlisted : keep row = false := by
    by_contra listed
    rw [missed row member (by simpa using listed)] at hit
    cases hit
  exact ⟨unlisted, (kept row).trans unlisted⟩

theorem filter_filter_of_kept {stays : Row → Bool}
    (kept : ∀ row ∈ rows, keep row = true → stays row = true) :
    (rows.filter stays).filter keep = rows.filter keep := by
  rw [List.filter_filter]
  apply List.filter_congr
  intro row member
  cases listed : keep row with
  | true => exact kept row member listed
  | false => rfl

theorem updateWhere_of_missed (missed : ∀ row ∈ rows, hits row = false) :
    updateWhere hits change rows = rows := by
  conv_rhs => rw [← List.map_id rows]
  apply List.map_congr_left
  intro row member
  simp [missed row member]

theorem updateWhere_eq_map (all : ∀ row ∈ rows, hits row = true) :
    updateWhere hits change rows = rows.map change := by
  apply List.map_congr_left
  intro row member
  rw [if_pos (all row member)]

theorem updateWhere_updateWhere
    (leaves : ∀ row, hits row = true → hits (change row) = false)
    (rows : List Row) :
    updateWhere hits change (updateWhere hits change rows) =
      updateWhere hits change rows := by
  unfold updateWhere
  rw [List.map_map]
  apply List.map_congr_left
  intro row _
  by_cases hit : hits row = true
  · simp [hit, leaves row hit]
  · simp [hit]

theorem countP_updateWhere {covers : Row → Bool}
    (inside : ∀ row, hits row = true → covers row = true)
    (outside : ∀ row, hits row = true → covers (change row) = false)
    (rows : List Row) :
    (updateWhere hits change rows).countP covers + rows.countP hits =
      rows.countP covers := by
  unfold updateWhere
  induction rows with
  | nil => rfl
  | cons row rows ih =>
    rw [List.map_cons, List.countP_cons, List.countP_cons,
      List.countP_cons, ← ih]
    by_cases hit : hits row = true
    · simp only [hit, if_true, outside row hit, inside row hit,
        Bool.false_eq_true, if_false]
      omega
    · simp only [hit, if_false, Bool.false_eq_true]
      omega

namespace AtMostOne

variable {covers : Row → Bool}

theorem eq (unique : AtMostOne covers rows)
    {first second : Row} (firstRow : first ∈ rows) (secondRow : second ∈ rows)
    (firstCovered : covers first = true)
    (secondCovered : covers second = true) :
    first = second := by
  have symmetric : Std.Symm fun first second : Row =>
      ¬ (covers first = true ∧ covers second = true) :=
    ⟨fun _ _ separate both => separate ⟨both.2, both.1⟩⟩
  by_contra different
  exact List.Pairwise.forall unique firstRow secondRow different
    ⟨firstCovered, secondCovered⟩

theorem map (unique : AtMostOne covers rows)
    (noneEnters : ∀ row ∈ rows, covers (change row) = true →
      covers row = true) :
    AtMostOne covers (rows.map change) := by
  apply List.pairwise_map.mpr
  refine List.Pairwise.imp_of_mem ?_ unique
  intro first second firstRow secondRow separate both
  exact separate ⟨noneEnters first firstRow both.1,
    noneEnters second secondRow both.2⟩

theorem insert (unique : AtMostOne covers rows)
    (fresh : covers row = true → ∀ old ∈ rows, covers old = false) :
    AtMostOne covers (rows ++ [row]) := by
  refine List.pairwise_append.mpr ⟨unique, List.pairwise_singleton _ _, ?_⟩
  intro old member new inserted both
  obtain rfl := List.mem_singleton.mp inserted
  simp [fresh both.2 old member] at both

end AtMostOne

theorem find?_updateWhere {hits finds : Row → Bool}
    (kept : ∀ row, finds (change row) = finds row)
    (missed : ∀ row ∈ rows, finds row = true → hits row = false) :
    (updateWhere hits change rows).find? finds = rows.find? finds := by
  rw [← List.head?_filter, ← List.head?_filter, filter_updateWhere kept missed]

theorem any_updateWhere {hits holds : Row → Bool}
    (kept : ∀ row, holds (change row) = holds row) (rows : List Row) :
    (updateWhere hits change rows).any holds = rows.any holds := by
  unfold updateWhere
  rw [List.any_map]
  congr 1
  funext row
  by_cases hit : hits row
  · simp [hit, kept]
  · simp [hit]

theorem any_updateWhere_of_missed {hits holds : Row → Bool}
    (before : (rows.filter hits).any holds = false)
    (after : ((rows.filter hits).map change).any holds = false) :
    (updateWhere hits change rows).any holds = rows.any holds := by
  unfold updateWhere
  induction rows with
  | nil => rfl
  | cons row rows ih =>
    rw [List.map_cons, List.any_cons, List.any_cons]
    cases hit : hits row with
    | true =>
      rw [List.filter_cons_of_pos hit] at before after
      simp only [List.map_cons, List.any_cons, Bool.or_eq_false_iff]
        at before after
      rw [ih before.2 after.2, if_pos rfl, before.1, after.1]
    | false =>
      rw [List.filter_cons_of_neg (by simp [hit])] at before after
      rw [ih before after]
      rfl

theorem filter_updateWhere_comm (kept : ∀ row, keep (change row) = keep row)
    (rows : List Row) :
    (updateWhere hits change rows).filter keep =
      updateWhere hits change (rows.filter keep) := by
  unfold updateWhere
  rw [List.filter_map]
  congr 1
  apply List.filter_congr
  intro row _
  by_cases hit : hits row
  · simp [hit, kept]
  · simp [hit]

theorem updateWhere_comm
    {hits others : Row → Bool} {change alter : Row → Row}
    (kept : ∀ row ∈ rows, others row = true → hits (alter row) = false)
    (unmoved : ∀ row ∈ rows, hits row = true → others (change row) = false)
    (apart : ∀ row ∈ rows, others row = true → hits row = false) :
    updateWhere hits change (updateWhere others alter rows) =
      updateWhere others alter (updateWhere hits change rows) := by
  unfold updateWhere
  rw [List.map_map, List.map_map]
  apply List.map_congr_left
  intro row member
  cases other : others row with
  | true => simp [other, kept row member other, apart row member other]
  | false =>
    cases hit : hits row with
    | true => simp [other, hit, unmoved row member hit]
    | false => simp [other, hit]

theorem updateWhere_append
    (missed : hits row = false) (rows : List Row) :
    updateWhere hits change (rows ++ [row]) =
      updateWhere hits change rows ++ [row] := by
  simp [updateWhere, missed]

theorem any_filter_of_mem {keep : Row → Bool} {key : Row → Int}
    (member : row ∈ rows) (kept : keep row = true) :
    ((rows.filter keep).any fun other => key other == key row) = true :=
  List.any_eq_true.mpr ⟨row, List.mem_filter.mpr ⟨member, kept⟩,
    beq_self_eq_true _⟩

/-- The keys of the rows are distinct and below the counter that hands them
out. -/
structure Keyed (key : Row → Int) (next : Int) (rows : List Row) : Prop where
  distinct : (rows.map key).Nodup
  below : ∀ row ∈ rows, key row < next

namespace Keyed

variable {key : Row → Int} {next : Int}

section

variable (keyed : Keyed key next rows)

include keyed

theorem eq {first second : Row} (firstRow : first ∈ rows)
    (secondRow : second ∈ rows)
    (same : key first = key second) : first = second :=
  List.inj_on_of_nodup_map keyed.distinct firstRow secondRow same

theorem any_filter {left right : Row → Bool} {id : Int}
    (first : ((rows.filter left).any fun row => key row == id) = true)
    (second : ((rows.filter right).any fun row => key row == id) = true) :
    ∃ row ∈ rows, left row = true ∧ right row = true := by
  obtain ⟨row, chosen, rowId⟩ := List.any_eq_true.mp first
  obtain ⟨other, otherChosen, otherId⟩ := List.any_eq_true.mp second
  obtain ⟨member, passes⟩ := List.mem_filter.mp chosen
  obtain ⟨otherMember, otherPasses⟩ := List.mem_filter.mp otherChosen
  obtain rfl := keyed.eq member otherMember
    ((eq_of_beq rowId).trans (eq_of_beq otherId).symm)
  exact ⟨row, member, passes, otherPasses⟩

theorem filter (keep : Row → Bool) :
    Keyed key next (rows.filter keep) where
  distinct := keyed.distinct.sublist (List.filter_sublist.map key)
  below := fun row member => keyed.below row (List.mem_filter.mp member).1

theorem update (kept : ∀ row, key (change row) = key row) :
    Keyed key next (updateWhere hits change rows) where
  distinct := by
    rw [map_updateWhere kept]
    exact keyed.distinct
  below := by
    intro row member
    obtain ⟨old, present, rfl⟩ := mem_updateWhere.mp member
    split
    · rw [kept]
      exact keyed.below old present
    · exact keyed.below old present

theorem insert
    (fresh : key row = next) : Keyed key (next + 1) (rows ++ [row]) where
  distinct := by
    rw [List.map_append]
    apply List.nodup_append.mpr
    refine ⟨keyed.distinct, by simp, ?_⟩
    intro number member other new
    obtain ⟨old, present, rfl⟩ := List.mem_map.mp member
    obtain rfl := List.mem_singleton.mp new
    have := keyed.below old present
    omega
  below := by
    refine forall_mem_insert ?_ (by omega)
    intro other old
    have := keyed.below other old
    omega

end

end Keyed

/-- An order in which a query without `ORDER BY` may return its rows. -/
structure RowOrder (Row : Type) where
  arrange : List Row → List Row
  perm : ∀ rows, (arrange rows).Perm rows

namespace RowOrder

/-- The order of insertion. -/
def stored : RowOrder Row where
  arrange rows := rows
  perm _ := .rfl

/-- The rows that satisfy a condition come first. -/
def preferring (prefers : Row → Bool) : RowOrder Row where
  arrange rows := rows.filter prefers ++ rows.filter fun row => !prefers row
  perm rows := List.filter_append_perm prefers rows

theorem mem_arrange (order : RowOrder Row) :
    row ∈ order.arrange rows ↔ row ∈ rows :=
  (order.perm rows).mem_iff

/-- Any row of a result may come first. -/
theorem exists_head [DecidableEq Row] (member : row ∈ rows) :
    ∃ (order : RowOrder Row) (others : List Row),
      order.arrange rows = row :: others := by
  let order : RowOrder Row := preferring fun other => decide (other = row)
  have found : row ∈ rows.filter fun other => decide (other = row) := by
    simpa using member
  cases chosen : rows.filter fun other => decide (other = row) with
  | nil =>
    rw [chosen] at found
    cases found
  | cons first rest =>
    have same : first = row := by
      have head : first ∈ rows.filter fun other => decide (other = row) := by
        rw [chosen]
        exact List.mem_cons_self
      simpa using (List.mem_filter.mp head).2
    refine ⟨order, rest ++ rows.filter fun other => !decide (other = row), ?_⟩
    change (rows.filter fun other => decide (other = row)) ++ _ = _
    rw [chosen, same]
    rfl

end RowOrder

end OpenOxide.Relational
