import Mathlib.Data.List.Nodup
import Mathlib.Data.List.Perm.Subperm

namespace Adventure

/-- Numbers are counted up one by one, without a bound, to the first that is not taken. -/
inductive CountsTo (taken : Nat → Prop) : Nat → Nat → Prop
  | stop {number : Nat} (free : ¬ taken number) : CountsTo taken number number
  | next {number last : Nat} (used : taken number) (rest : CountsTo taken (number + 1) last) :
      CountsTo taken number last

namespace CountsTo

variable {taken : Nat → Prop} {first last bound k : Nat}

theorem first_le (counts : CountsTo taken first last) : first ≤ last := by
  induction counts with
  | stop => exact Nat.le_refl _
  | next _ _ ih => omega

theorem not_taken (counts : CountsTo taken first last) : ¬ taken last := by
  induction counts with
  | stop free => exact free
  | next _ _ ih => exact ih

/-- A search that gives up after a number of tries ends where counting does, if one of the tries is free. -/
theorem of_bounded {test : Nat → Bool} (means : ∀ number, test number = true ↔ taken number) {search : Nat → Nat → Nat}
    (spent : ∀ number, search 0 number = number)
    (again : ∀ bound number, search (bound + 1) number = if test number then search bound (number + 1) else number)
    (near : k ≤ bound) (free : ¬ taken (first + k)) : CountsTo taken first (search bound first) := by
  induction bound generalizing first k with
  | zero =>
    have here : k = 0 := by omega
    subst here
    rw [spent]
    exact .stop free
  | succ bound ih =>
    rw [again]
    split
    next used =>
      have used := (means first).mp used
      have later : k ≠ 0 := by
        rintro rfl
        exact free used
      have shifted : first + 1 + (k - 1) = first + k := by omega
      exact .next used (ih (by omega : k - 1 ≤ bound) (shifted ▸ free))
    next unused => exact .stop fun used => unused ((means first).mpr used)

/-- Of one number more than there are taken names, one gives a name that is not taken. -/
theorem exists_unused {name : Nat → String} (injective : ∀ a b, name a = name b → a = b) (taken : List String)
    (number : Nat) : ∃ k ≤ taken.length, name (number + k) ∉ taken := by
  refine Classical.byContradiction fun none => ?_
  have all : (List.range (taken.length + 1)).map (fun k => name (number + k)) ⊆ taken := by
    intro text listed
    obtain ⟨k, inside, rfl⟩ := List.mem_map.mp listed
    have inside := Nat.le_of_lt_succ (List.mem_range.mp inside)
    exact Classical.byContradiction fun free => none ⟨k, inside, free⟩
  have different : ((List.range (taken.length + 1)).map fun k => name (number + k)).Nodup := by
    refine List.Nodup.map (fun a b same => ?_) List.nodup_range
    have sum := injective _ _ same
    omega
  have fits := (List.subperm_of_subset different all).length_le
  rw [List.length_map, List.length_range] at fits
  omega

end CountsTo

end Adventure
