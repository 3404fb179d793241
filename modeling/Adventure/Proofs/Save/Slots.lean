import Adventure.Proofs.Text.Slugs
import Adventure.Save.Slots

namespace Adventure

namespace Path

variable {c : Char} {front back chars : List Char} {folder name stem extension : String}

theorem ne_of_mem_reverse (absent : c ∉ chars) : ∀ d ∈ chars.reverse, (d != c) = true := by
  intro d member
  rw [bne_iff_ne]
  rintro rfl
  exact absent (List.mem_reverse.mp member)

theorem splitLast?_append (absent : c ∉ back) : splitLast? c (front ++ c :: back) = some (front, back) := by
  have turned : (front ++ c :: back).reverse = back.reverse ++ c :: front.reverse := by simp
  rw [splitLast?, turned, List.dropWhile_append_of_pos (ne_of_mem_reverse absent),
    List.takeWhile_append_of_pos (ne_of_mem_reverse absent), List.dropWhile_cons_of_neg (by simp),
    List.takeWhile_cons_of_neg (by simp)]
  simp

theorem splitLast?_eq_none (absent : c ∉ chars) : splitLast? c chars = none := by
  have dropped : (chars.reverse ++ []).dropWhile (· != c) = [] :=
    List.dropWhile_append_of_pos (ne_of_mem_reverse absent)
  rw [List.append_nil] at dropped
  rw [splitLast?, dropped]

/-- A name is found again behind the folder that it is put into. -/
theorem fileName_join (folder : String) (single : '/' ∉ name.toList) : fileName (join folder name) = name := by
  rw [join]
  split
  next ready =>
    rcases Bool.or_eq_true_iff.mp ready with empty | slash
    · rw [String.isEmpty_iff.mp empty, String.empty_append, fileName, splitLast?_eq_none single]
      rfl
    · obtain ⟨front, ends⟩ : ['/'] <:+ folder.toList := by simpa using String.Slice.endsWith_string_iff.mp slash
      have split : (folder ++ name).toList = front ++ '/' :: name.toList := by simp [← ends]
      rw [fileName, split, splitLast?_append single]
      exact String.ofList_toList
  next =>
    have split : (folder ++ "/" ++ name).toList = folder.toList ++ '/' :: name.toList := by simp
    rw [fileName, split, splitLast?_append single]
    exact String.ofList_toList

theorem splitName_append (filled : stem ≠ "") (single : '.' ∉ extension.toList) :
    splitName (stem ++ "." ++ extension) = (stem, some extension) := by
  have split : (stem ++ "." ++ extension).toList = stem.toList ++ '.' :: extension.toList := by simp
  obtain ⟨first, rest, spelled⟩ := List.exists_cons_of_ne_nil (mt String.toList_eq_nil_iff.mp filled)
  rw [splitName, split, splitLast?_append single, spelled]
  dsimp only
  rw [← spelled, String.ofList_toList, String.ofList_toList]

end Path

namespace Slot

open Text

variable {mark chars front back before after : List Char}

/-- The characters before and after the last place where a mark stands. -/
def LastSplit (mark chars front back : List Char) : Prop :=
  chars = front ++ mark ++ back ∧ ∀ before after, chars = before ++ mark ++ after → before.length ≤ front.length

theorem LastSplit.unique (one : LastSplit mark chars front back) (other : LastSplit mark chars before after) :
    front = before ∧ back = after := by
  obtain ⟨split, last⟩ := one
  obtain ⟨split', last'⟩ := other
  have same := split.symm.trans split'
  rw [List.append_assoc, List.append_assoc] at same
  obtain ⟨fronts, rest⟩ := List.append_inj same (Nat.le_antisymm (last' _ _ split) (last _ _ split'))
  exact ⟨fronts, List.append_cancel_left rest⟩

/-- Whatever stands before a mark, the mark is the last one if none begins after its first character. -/
theorem lastSplit_append (front : List Char) (alone : ¬ mark <:+: (mark ++ back).tail) :
    LastSplit mark (front ++ mark ++ back) front back := by
  refine ⟨rfl, fun before after split => Nat.le_of_not_lt fun later => alone ?_⟩
  rw [List.append_assoc, List.append_assoc] at split
  rcases List.append_eq_append_iff.mp split with ⟨between, rfl, rest⟩ | ⟨between, rfl, -⟩
  · cases between with
    | nil => simp at later
    | cons c between => exact ⟨between, after, by simp [rest]⟩
  · rw [List.length_append] at later
    omega

theorem splitAtLast?_eq_none_iff (filled : mark ≠ []) : splitAtLast? mark chars = none ↔ ¬ mark <:+: chars := by
  induction chars with
  | nil => simpa [splitAtLast?] using filled
  | cons c rest ih =>
    rw [List.infix_cons_iff, not_or, ← ih, splitAtLast?]
    cases splitAtLast? mark rest with
    | some found => simp
    | none => simp

theorem lastSplit_of_splitAtLast? (filled : mark ≠ []) (found : splitAtLast? mark chars = some (front, back)) :
    LastSplit mark chars front back := by
  induction chars generalizing front with
  | nil => cases found
  | cons c rest ih =>
    rw [splitAtLast?] at found
    cases later : splitAtLast? mark rest with
    | some parts =>
      simp only [later, Option.some.injEq, Prod.mk.injEq] at found
      obtain ⟨rfl, rfl⟩ := found
      obtain ⟨split, last⟩ := ih later
      refine ⟨by simp [split], fun before after other => ?_⟩
      cases before with
      | nil => exact Nat.zero_le _
      | cons d before => exact Nat.succ_le_succ (last before after (List.cons.inj other).2)
    | none =>
      simp only [later, Option.ite_none_right_eq_some, Option.some.injEq, Prod.mk.injEq] at found
      obtain ⟨here, rfl, rfl⟩ := found
      obtain ⟨back, start⟩ := List.isPrefixOf_iff_prefix.mp here
      refine ⟨by simp [← start], fun before after other => ?_⟩
      cases before with
      | nil => exact Nat.le_refl _
      | cons d before =>
        -- a mark further on would have been found in the rest
        exact absurd ⟨before, after, (List.cons.inj other).2.symm⟩ ((splitAtLast?_eq_none_iff filled).mp later)

theorem splitAtLast?_eq_some_iff (filled : mark ≠ []) :
    splitAtLast? mark chars = some (front, back) ↔ LastSplit mark chars front back := by
  refine ⟨lastSplit_of_splitAtLast? filled, fun split => ?_⟩
  cases found : splitAtLast? mark chars with
  | none => exact absurd ⟨front, back, split.1.symm⟩ ((splitAtLast?_eq_none_iff filled).mp found)
  | some parts =>
    obtain ⟨rfl, rfl⟩ := (lastSplit_of_splitAtLast? filled found).unique split
    rfl

theorem slotMark_filled : slotMark ≠ [] := by decide

/-- A slot may have the mark in its own name, but the version does not have it, nor does it end a mark that the other
begins. -/
theorem lastSplit_stem (slot : String) :
    LastSplit slotMark (stem slot).toList (slug slot).toList engineVersion.toList := by
  have alone : ¬ slotMark <:+: (slotMark ++ engineVersion.toList).tail :=
    (splitAtLast?_eq_none_iff slotMark_filled).mp (by decide)
  have spelled : (stem slot).toList = (slug slot).toList ++ slotMark ++ engineVersion.toList := by simp [stem]
  rw [spelled]
  exact lastSplit_append _ alone

theorem stem_filled (slot : String) : stem slot ≠ "" := by
  intro empty
  have split := (lastSplit_stem slot).1
  rw [empty, String.toList_empty, eq_comm, List.append_eq_nil_iff, List.append_eq_nil_iff] at split
  exact slotMark_filled split.1.2

theorem ofStem?_stem (slot : String) : ofStem? (stem slot) = some (slug slot, engineVersion) := by
  obtain ⟨first, rest, spelled⟩ := List.exists_cons_of_ne_nil (isSlug_slug slot).filled
  rw [ofStem?, (splitAtLast?_eq_some_iff slotMark_filled).mpr (lastSplit_stem slot), spelled]
  dsimp only
  rw [← spelled, String.ofList_toList, String.ofList_toList]

theorem fileName_path (folder slot : String) : Path.fileName (path folder slot) = stem slot ++ "." ++ "ron" := by
  have name : stem slot ++ "." ++ "ron" = stem slot ++ ".ron" := by rw [String.append_assoc]; rfl
  rw [name]
  refine Path.fileName_join folder ?_
  rw [String.toList_append, (lastSplit_stem slot).1, List.mem_append, List.mem_append, List.mem_append]
  rintro (((inside | mark) | version) | ending)
  · exact absurd ((isSlug_slug slot).plain _ inside) (by decide)
  · exact absurd mark (by decide)
  · exact absurd version (by decide)
  · exact absurd ending (by decide)

/-- A slot has a safe name, which is found again in the name of its file. The name of any slot is turned into small
letters, digits, dashes and underscores with a letter or a digit at either end, and only such a name is left as it is.
The file in any folder has the stem that ends with the version after the last mark, so that the list of saved games
shows the safe name and the version. -/
theorem path_recovers_slug (slot : String) :
    IsSlug (slug slot).toList ∧ (slug slot = slot ↔ IsSlug slot.toList) ∧ slug (slug slot) = slug slot ∧
    (∀ front back, LastSplit slotMark (stem slot).toList front back ↔
      front = (slug slot).toList ∧ back = engineVersion.toList) ∧
    ∀ folder, Path.splitName (Path.fileName (path folder slot)) = (stem slot, some "ron") ∧
      ∀ modified, SaveSlot.ofFile? ⟨Path.fileName (path folder slot), modified⟩ =
        some ⟨slug slot, engineVersion, Path.fileName (path folder slot), modified⟩ := by
  refine ⟨isSlug_slug slot, slug_eq_self_iff, slug_eq_self_iff.mpr (isSlug_slug slot), fun front back => ?_,
    fun folder => ?_⟩
  · constructor
    · exact fun split => split.unique (lastSplit_stem slot)
    · rintro ⟨rfl, rfl⟩
      exact lastSplit_stem slot
  · have parts : Path.splitName (Path.fileName (path folder slot)) = (stem slot, some "ron") := by
      rw [fileName_path]
      exact Path.splitName_append (stem_filled slot) (by decide)
    refine ⟨parts, fun modified => ?_⟩
    simp [SaveSlot.ofFile?, parts, ofStem?_stem]

example : ofStem? (stem "The Fox-Fable-Fable!") = some ("the-fox-fable-fable", "0.1.0") := by decide

end Slot

end Adventure
