import Mathlib.Data.Nat.Digits.Lemmas

/-!
# Interface names

A server has a WireGuard interface on the panel, named after its identifier.
A kernel interface name has at most 15 characters, so that only the last six
hexadecimal digits of a large identifier fit.
-/

namespace OpenOxide.PrivateNetwork

/-- The part of the name that tells the servers apart. -/
def suffix (id : Nat) : List Char :=
  if id < 1000000 then Nat.toDigits 10 id
  else
    let hex := Nat.toDigits 16 id
    if 6 < hex.length then hex.drop (hex.length - 6) else hex

def interfaceName (serverId : Int) : String :=
  "openoxide" ++ String.ofList (suffix serverId.natAbs)

/-- A decimal number that reads like the last six hexadecimal digits of
another. -/
def readsAs (decimal hex : Nat) : Prop :=
  100000 ≤ decimal ∧ decimal < 1000000 ∧ 1048576 ≤ hex ∧
    Nat.ofDigits 16 (Nat.digits 10 decimal) = hex % 16777216

/-- Two numbers with the same suffix. -/
def clash (first second : Nat) : Prop :=
  1048576 ≤ first ∧ 1048576 ≤ second ∧
      first % 16777216 = second % 16777216 ∨
    readsAs first second ∨ readsAs second first

/-- The digits of the suffix, from the last to the first. -/
def numerals (id : Nat) : List Nat :=
  if id < 1000000 then Nat.digits 10 id else (Nat.digits 16 id).take 6

variable {first second id base : Nat}

theorem toDigits_eq_digits (large : 1 < base) (positive : 0 < id) :
    Nat.toDigits base id =
      ((Nat.digits base id).map Nat.digitChar).reverse := by
  induction id using Nat.strongRecOn with
  | ind id induction =>
    rw [Nat.toDigits_eq_if large, Nat.digits_def' large positive]
    split
    · rename_i single
      rw [Nat.div_eq_of_lt single, Nat.mod_eq_of_lt single, Nat.digits_zero]
      rfl
    · rename_i longer
      rw [induction (id / base) (Nat.div_lt_self positive large)
        (Nat.div_pos (Nat.le_of_not_lt longer) (by omega)), List.map_cons,
        List.reverse_cons]

theorem suffix_eq (positive : 0 < id) :
    suffix id = ((numerals id).map Nat.digitChar).reverse := by
  unfold suffix numerals
  split
  · exact toDigits_eq_digits (by omega) positive
  · rw [toDigits_eq_digits (by omega) positive, List.map_take,
      List.reverse_take, ← List.length_reverse]
    dsimp only
    split
    · rfl
    · rename_i short
      rw [Nat.sub_eq_zero_of_le (Nat.le_of_not_lt short), List.drop_zero]

theorem lt_of_mem_numerals {digit : Nat} (member : digit ∈ numerals id) :
    digit < 16 := by
  unfold numerals at member
  split at member
  · exact Nat.lt_trans (Nat.digits_lt_base (by omega) member) (by omega)
  · exact Nat.digits_lt_base (by omega) (List.mem_of_mem_take member)

theorem suffix_inj (positive : 0 < first) (positive' : 0 < second) :
    suffix first = suffix second ↔ numerals first = numerals second := by
  have known : ∀ digit < 16, (List.range 16).findIdx
      (fun other => Nat.digitChar other == Nat.digitChar digit) = digit := by
    decide +kernel
  have read : ∀ id, ((numerals id).map Nat.digitChar).map
      (fun letter => (List.range 16).findIdx fun other =>
        Nat.digitChar other == letter) = numerals id := by
    intro id
    rw [List.map_map]
    exact (List.map_congr_left fun digit member =>
      known digit (lt_of_mem_numerals member)).trans (List.map_id _)
  rw [suffix_eq positive, suffix_eq positive', List.reverse_inj]
  constructor
  · intro same
    rw [← read first, same, read]
  · exact congrArg _

theorem numerals_inj : numerals first = numerals second ↔
    (numerals first).length = (numerals second).length ∧
      Nat.ofDigits 16 (numerals first) = Nat.ofDigits 16 (numerals second) := by
  constructor
  · intro same
    rw [same]
    exact ⟨rfl, rfl⟩
  · rintro ⟨lengths, values⟩
    exact Nat.ofDigits_inj_of_len_eq (by omega) lengths
      (fun _ => lt_of_mem_numerals) (fun _ => lt_of_mem_numerals) values

theorem length_numerals_small (small : id < 1000000) :
    (numerals id).length ≤ 6 ∧ (5 < (numerals id).length ↔ 100000 ≤ id) := by
  rw [numerals, if_pos small]
  exact ⟨(Nat.digits_length_le_iff (by omega) id).mpr small,
    Nat.lt_digits_length_iff (by omega) id⟩

theorem length_numerals_large (large : ¬ id < 1000000) :
    4 < (numerals id).length ∧ (numerals id).length ≤ 6 ∧
      (5 < (numerals id).length ↔ 1048576 ≤ id) := by
  rw [numerals, if_neg large, List.length_take]
  have four := (@Nat.lt_digits_length_iff 16 4 (by omega) id).mpr (by omega)
  have five := @Nat.lt_digits_length_iff 16 5 (by omega) id
  omega

theorem value_numerals_large (large : ¬ id < 1000000) :
    Nat.ofDigits 16 (numerals id) = id % 16777216 := by
  rw [numerals, if_neg large]
  exact (Nat.self_mod_pow_eq_ofDigits_take 6 id (by omega)).symm

theorem ofDigits_decimal_le {digits : List Nat}
    (decimal : ∀ digit ∈ digits, digit < 10) :
    Nat.ofDigits 16 digits * 15 + 9 ≤ 9 * 16 ^ digits.length := by
  induction digits with
  | nil => simp
  | cons digit digits induction =>
    rw [List.forall_mem_cons] at decimal
    have rest := induction decimal.2
    rw [Nat.ofDigits_cons, List.length_cons, Nat.pow_succ]
    omega

/-- Five decimal digits are too small for a number from 1000000 on. -/
theorem numerals_mixed_iff (small : first < 1000000)
    (large : ¬ second < 1000000) :
    numerals first = numerals second ↔ readsAs first second := by
  obtain ⟨short, full⟩ := length_numerals_small small
  obtain ⟨least, most, whole⟩ := length_numerals_large large
  have decimal : numerals first = Nat.digits 10 first := if_pos small
  have bound : Nat.ofDigits 16 (numerals first) * 15 + 9 ≤
      9 * 16 ^ (numerals first).length := by
    apply ofDigits_decimal_le
    rw [decimal]
    exact fun _ => Nat.digits_lt_base (by omega)
  rw [numerals_inj, value_numerals_large large, readsAs, ← decimal]
  constructor
  · rintro ⟨lengths, values⟩
    rw [values] at bound
    by_cases five : (numerals first).length = 5
    · rw [five] at bound
      omega
    · exact ⟨by omega, small, by omega, values⟩
  · rintro ⟨above, _, beyond, values⟩
    exact ⟨by omega, values⟩

theorem numerals_eq_iff :
    numerals first = numerals second ↔ first = second ∨ clash first second := by
  rw [clash]
  by_cases small : first < 1000000
  · by_cases small' : second < 1000000
    · rw [numerals, numerals, if_pos small, if_pos small', Nat.digits_inj_iff]
      simp only [readsAs]
      omega
    · rw [numerals_mixed_iff small small']
      simp only [readsAs]
      omega
  · by_cases small' : second < 1000000
    · rw [eq_comm, numerals_mixed_iff small' small]
      simp only [readsAs]
      omega
    · have left := length_numerals_large small
      have right := length_numerals_large small'
      rw [numerals_inj, value_numerals_large small, value_numerals_large small']
      simp only [readsAs]
      omega

theorem interfaceName_length {serverId : Int} (positive : 0 < serverId) :
    (interfaceName serverId).length ≤ 15 := by
  have six : (numerals serverId.natAbs).length ≤ 6 := by
    by_cases small : serverId.natAbs < 1000000
    · exact (length_numerals_small small).1
    · exact (length_numerals_large small).2.1
  rw [interfaceName, suffix_eq (by omega)]
  simp only [String.length_append, String.length_ofList, List.length_reverse,
    List.length_map]
  exact Nat.add_le_add_left six 9

/-- Two servers have different interfaces, with names that fit, if and only if
their identifiers do not clash. -/
theorem interface_names_differ_iff (first second : Int) (positive : 0 < first)
    (positive' : 0 < second) (different : first ≠ second) :
    (interfaceName first ≠ interfaceName second ∧
        (interfaceName first).length ≤ 15 ∧
        (interfaceName second).length ≤ 15) ↔
      ¬ clash first.natAbs second.natAbs := by
  rw [and_iff_left ⟨interfaceName_length positive,
    interfaceName_length positive'⟩, ne_eq, interfaceName, interfaceName,
    String.append_right_inj, String.ofList_inj,
    suffix_inj (by omega) (by omega), numerals_eq_iff, or_iff_right (by omega)]

theorem interface_names_differ_neighbours :
    interfaceName 1000001 ≠ interfaceName 1000002 ∧
      (interfaceName 1000001).length ≤ 15 ∧
      (interfaceName 1000002).length ≤ 15 :=
  (interface_names_differ_iff 1000001 1000002 (by omega) (by omega)
    (by omega)).mpr (by
      simp only [clash, readsAs]
      omega)

/-- The identifiers 100000 and 1048576 share an interface. -/
theorem interface_name_shared :
    interfaceName 100000 = interfaceName 1048576 := by
  decide +kernel

end OpenOxide.PrivateNetwork
