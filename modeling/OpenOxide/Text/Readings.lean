import Mathlib.Data.List.Forall2

/-!
# Reading a list

A list is read item by item, and the reading fails with the first item that
does.
-/

namespace OpenOxide.Text

variable {α β γ : Type} {read : α → Option β} {items : List α} {values : List β}

theorem mapM_eq_some_iff : items.mapM read = some values ↔
    List.Forall₂ (fun item value => read item = some value) items values := by
  induction items generalizing values with
  | nil => simp [eq_comm]
  | cons item items induction =>
    rw [List.mapM_cons, List.forall₂_cons_left_iff]
    simp [Option.bind_eq_some_iff, ← induction, @eq_comm _ values]

theorem mapM_map_iff {text : γ → α} {value : γ → β} {list : List γ} :
    (list.map text).mapM read = some (list.map value) ↔
      ∀ item ∈ list, read (text item) = some (value item) := by
  rw [mapM_eq_some_iff, List.forall₂_map_left_iff, List.forall₂_map_right_iff,
    List.forall₂_same]

theorem mapM_map {text : β → α}
    (same : ∀ value ∈ values, read (text value) = some value) :
    (values.map text).mapM read = some values := by
  rwa [mapM_eq_some_iff, List.forall₂_map_left_iff, List.forall₂_same]

end OpenOxide.Text
