import Std.Data.ExtTreeMap
import Std.Data.ExtTreeSet

namespace Adventure

/-- A finite set, listed in the order of its elements. Two sets with the same elements are equal. -/
abbrev SortedSet (α : Type) [Ord α] := Std.ExtTreeSet α compare

/-- A finite map, listed in the order of its keys. -/
abbrev SortedMap (α β : Type) [Ord α] := Std.ExtTreeMap α β compare

/-- The set of the elements of a list. -/
def SortedSet.of {α : Type} [Ord α] (xs : List α) : SortedSet α :=
  Std.ExtTreeSet.ofList xs compare

/-- The map of a list of entries; of two entries with one key the later counts. -/
def SortedMap.of {α β : Type} [Ord α] (entries : List (α × β)) : SortedMap α β :=
  Std.ExtTreeMap.ofList entries compare

section

variable {α : Type} [Ord α] [Std.TransOrd α]

/-- Every element of `small` is one of `large`. -/
def SortedSet.subset (small large : SortedSet α) : Bool :=
  small.all (large.contains ·)

/-- The elements of a list not met in `seen`, each at its first occurrence. -/
def distinctFrom (seen : SortedSet α) : List α → List α
  | [] => []
  | x :: xs => if seen.contains x then distinctFrom seen xs else x :: distinctFrom (seen.insert x) xs

/-- The elements of a list, each at its first occurrence. -/
def distinct (xs : List α) : List α := distinctFrom ∅ xs

end

/-- Two comparisons in turn, the second deciding where the first finds no difference. -/
def comparePair {α β γ : Type} [Ord β] [Ord γ] (first : α → β) (second : α → γ) : α → α → Ordering :=
  compareLex (compareOn first) (compareOn second)

instance {α β γ : Type} [Ord β] [Ord γ] [Std.TransOrd β] [Std.TransOrd γ] (first : α → β) (second : α → γ) :
    Std.TransCmp (comparePair first second) :=
  inferInstanceAs (Std.TransCmp (compareLex (compareOn first) (compareOn second)))

theorem comparePair_eq {α β γ : Type} [Ord β] [Ord γ] [Std.LawfulEqOrd β] [Std.LawfulEqOrd γ]
    {first : α → β} {second : α → γ} {a b : α} (equal : comparePair first second a b = .eq) :
    first a = first b ∧ second a = second b := by
  have both := Ordering.then_eq_eq.mp equal
  exact ⟨Std.LawfulEqOrd.eq_of_compare both.1, Std.LawfulEqOrd.eq_of_compare both.2⟩

end Adventure
