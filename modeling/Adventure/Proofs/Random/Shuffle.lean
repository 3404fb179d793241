import Adventure.Chain.Search

namespace Adventure

namespace Random

variable {α : Type}

theorem swapIfInBounds_perm (xs : Array α) (i j : Nat) : (xs.swapIfInBounds i j).Perm xs := by
  rw [Array.swapIfInBounds_def]
  split
  next =>
    split
    next => exact Array.swap_perm ..
    next => exact .refl xs
  next => exact .refl xs

theorem shuffleFrom_perm (count i : Nat) (turn : Deal) (xs : Array α) (rng : Rng) :
    (shuffleFrom count i turn xs rng).1.Perm xs := by
  induction count generalizing i turn xs rng with
  | zero => exact .refl xs
  | succ count ih => exact (ih (i + 1) _ _ _).trans (swapIfInBounds_perm xs i _)

/-- A shuffle keeps the items of a list, whatever is drawn. -/
theorem shuffle_perm (xs : List α) (rng : Rng) : (shuffle xs rng).1.Perm xs := by
  rw [shuffle]
  split
  next => exact .refl xs
  next => exact (shuffleFrom_perm xs.length 0 ⟨0, 0, 1⟩ xs.toArray rng).toList

end Random

theorem reorder_perm {α : Type} (rng : Option Rng) (xs : List α) : (reorder rng xs).1.Perm xs := by
  cases rng with
  | none => exact .refl xs
  | some rng => exact Random.shuffle_perm xs rng

end Adventure
