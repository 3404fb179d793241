import Adventure.Random.Draw

namespace Adventure.Random

variable {α : Type}

theorem bind_eq {β : Type} (draw : Random α) (next : α → Random β) (rng : Rng) :
    (draw >>= next) rng = next (draw rng).1 (draw rng).2 := rfl

theorem wide_lt {bits : Nat} (wideness : bits = 32 ∨ bits = 64) (rng : Rng) : (wide bits rng).1 < Nat.pow 2 bits := by
  rcases wideness with rfl | rfl
  · exact UInt32.toNat_lt _
  · exact UInt64.toNat_lt _

theorem belowWide_lt {bits bound : Nat} (wideness : bits = 32 ∨ bits = 64) (positive : 0 < bound) (rng : Rng) :
    (belowWide bits bound rng).1 < bound := by
  have drawn := wide_lt wideness rng
  have split := Nat.div_add_mod ((wide bits rng).1 * bound) (Nat.pow 2 bits)
  have product : (wide bits rng).1 * bound + bound ≤ Nat.pow 2 bits * bound := by
    rw [← Nat.succ_mul]
    exact Nat.mul_le_mul_right bound drawn
  have high : (wide bits rng).1 * bound / Nat.pow 2 bits < bound := Nat.div_lt_of_lt_mul (by omega)
  rw [belowWide, bind_eq]
  split
  next late =>
    -- There is no carry to the last number, as the low half is small there.
    have carried : (wide bits rng).1 * bound / Nat.pow 2 bits + 1 < bound := by
      refine Classical.byContradiction fun last => ?_
      have whole : Nat.pow 2 bits * bound ≤
          Nat.pow 2 bits * ((wide bits rng).1 * bound / Nat.pow 2 bits) + Nat.pow 2 bits := by
        rw [← Nat.mul_succ]
        exact Nat.mul_le_mul_left _ (by omega)
      have far : (wide bits rng).1 * bound % Nat.pow 2 bits > Nat.pow 2 bits - bound := late
      omega
    rw [bind_eq]
    split
    · exact carried
    · exact high
  next => exact high

theorem below_lt {bound : Nat} (positive : 0 < bound) (rng : Rng) : (below bound rng).1 < bound := by
  refine belowWide_lt ?_ positive rng
  split
  · exact .inl rfl
  · exact .inr rfl

/-- From a list with elements one of them is chosen. -/
theorem exists_choose {xs : List α} (some : xs ≠ []) (rng : Rng) : ∃ x ∈ xs, (choose xs rng).1 = .some x := by
  have inside : (below xs.length rng).1 < xs.length := below_lt (List.length_pos_iff.mpr some) rng
  refine ⟨xs[(below xs.length rng).1], List.getElem_mem inside, ?_⟩
  rw [choose, if_neg (by simpa using some)]
  exact List.getElem?_eq_getElem inside

theorem mem_of_choose {xs : List α} {rng : Rng} {x : α} (chosen : (choose xs rng).1 = some x) : x ∈ xs := by
  rw [choose] at chosen
  split at chosen
  next => cases chosen
  next => exact List.mem_of_getElem? chosen

theorem length_partialSums (total : Float) (weights : List Float) :
    (partialSums total weights).length = weights.length := by
  induction weights generalizing total with
  | nil => rfl
  | cons weight rest ih => simp [partialSums, ih]

/-- The weights of items have a finite sum, added up in their order. -/
def Summable (items : List (α × Float)) : Prop :=
  (partialSums 0.0 (items.map Prod.snd)).getLast?.all Float.isFinite = true

theorem reverse_partialSums {items : List (α × Float)} (some : items ≠ []) : ∃ total before,
    (partialSums 0.0 (items.map Prod.snd)).reverse = total :: before ∧ before.length < items.length ∧
    (Summable items ↔ total.isFinite = true) := by
  have length := length_partialSums 0.0 (items.map Prod.snd)
  rw [List.length_map, ← List.length_reverse] at length
  rw [Summable, List.getLast?_eq_head?_reverse]
  cases sums : (partialSums 0.0 (items.map Prod.snd)).reverse with
  | nil =>
    rw [sums] at length
    exact absurd (List.length_eq_zero_iff.mp length.symm) some
  | cons total before =>
    rw [sums, List.length_cons] at length
    exact ⟨total, before, rfl, by omega, Iff.rfl⟩

theorem chooseWeighted_eq_error {items : List (α × Float)} (endless : ¬ Summable items) (rng : Rng) :
    (chooseWeighted items rng).1 = .error .endlessWeights := by
  have some : items ≠ [] := by
    rintro rfl
    exact endless rfl
  obtain ⟨total, before, sums, -, summable⟩ := reverse_partialSums some
  simp only [chooseWeighted, sums, mt summable.mpr endless]
  rfl

/-- If the weights have a finite sum, one of the items is drawn. -/
theorem exists_chooseWeighted {items : List (α × Float)} (summable : Summable items) (some : items ≠ []) (rng : Rng) :
    ∃ item ∈ items, (chooseWeighted items rng).1 = .ok (.some item.1) := by
  obtain ⟨total, before, sums, short, finite⟩ := reverse_partialSums some
  have inside : (before.filter (· <= (fraction rng).1 * total)).length < items.length :=
    Nat.lt_of_le_of_lt (List.length_filter_le ..) short
  have drawn : (chooseWeighted items rng).1 =
      .ok ((items[(before.filter (· <= (fraction rng).1 * total)).length]?).map Prod.fst) := by
    simp only [chooseWeighted, sums, finite.mp summable]
    rfl
  refine ⟨items[(before.filter (· <= (fraction rng).1 * total)).length], List.getElem_mem inside, ?_⟩
  rw [drawn, List.getElem?_eq_getElem inside, Option.map_some]

end Adventure.Random
