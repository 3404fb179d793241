import Adventure.Sorted

namespace Adventure
open Std.DTreeMap.Internal

section Maps

variable {α β : Type} [Ord α] [Std.TransOrd α]

theorem SortedMap.any_eq (map : SortedMap α β) (test : α → β → Bool) :
    map.any test = map.toList.any fun entry => test entry.1 entry.2 := by
  obtain ⟨⟨quotient⟩⟩ := map
  induction quotient using Quotient.inductionOn with
  | _ tree =>
    change Impl.any tree.inner test = (Impl.Const.toList tree.inner).any _
    rw [Impl.Const.toList_eq_toListModel_map, List.any_map]
    simp only [Impl.any, ForIn.forIn, Id.run_bind, Impl.forIn_eq_forIn_toListModel]
    induction tree.inner.toListModel with
    | nil => simp
    | cons entry rest ih => by_cases holds : test entry.fst entry.snd <;> simp [holds, ih]

theorem SortedMap.any_iff [Std.LawfulEqOrd α] {map : SortedMap α β} {test : α → β → Bool} :
    map.any test = true ↔ ∃ key value, map[key]? = some value ∧ test key value = true := by
  simp only [SortedMap.any_eq, List.any_eq_true, Prod.exists,
    Std.ExtTreeMap.mem_toList_iff_getElem?_eq_some]

theorem SortedMap.mem_iff {map : SortedMap α β} {key : α} : key ∈ map ↔ ∃ value, map[key]? = some value := by
  rw [Std.ExtTreeMap.mem_iff_isSome_getElem?, Option.isSome_iff_exists]

theorem SortedMap.minEntry?_eq (map : SortedMap α β) : map.minEntry? = map.toList.head? := by
  obtain ⟨⟨quotient⟩⟩ := map
  induction quotient using Quotient.inductionOn with
  | _ tree =>
    change Impl.Const.minEntry? tree.inner = (Impl.Const.toList tree.inner).head?
    rw [Impl.Const.toList_eq_toListModel_map]
    generalize tree.inner = node
    induction node using Impl.Const.minEntry?.induct with
    | case1 => simp [Impl.Const.minEntry?]
    | case2 => simp [Impl.Const.minEntry?]
    | case3 _ _ _ _ _ _ _ _ _ ih => simp [Impl.Const.minEntry?, ih]

theorem SortedMap.minEntry?_eq_none {map : SortedMap α β} (none : map.minEntry? = none) (key : α) :
    map[key]? = .none := by
  rw [SortedMap.minEntry?_eq, List.head?_eq_none_iff, Std.ExtTreeMap.toList_eq_nil_iff] at none
  simp [none]

/-- The first entry of a map is one of its entries, and no entry comes before it. -/
theorem SortedMap.minEntry?_eq_some [Std.LawfulEqOrd α] {map : SortedMap α β} {key : α} {value : β}
    (first : map.minEntry? = some (key, value)) :
    map[key]? = some value ∧ ∀ other found, map[other]? = some found → compare other key ≠ .lt := by
  rw [SortedMap.minEntry?_eq, List.head?_eq_some_iff] at first
  obtain ⟨rest, entries⟩ := first
  have ordered := Std.ExtTreeMap.ordered_keys_toList (t := map)
  have entry (other : α) (found : β) : map[other]? = some found ↔ (other, found) ∈ map.toList :=
    Std.ExtTreeMap.mem_toList_iff_getElem?_eq_some.symm
  rw [entries] at ordered entry
  refine ⟨(entry key value).mpr (List.mem_cons_self ..), ?_⟩
  intro other found present before
  rcases List.mem_cons.mp ((entry other found).mp present) with same | later
  · cases same
    simp at before
  · have after := (List.pairwise_cons.mp ordered).1 _ later
    have swapped := Std.OrientedCmp.gt_of_lt after
    rw [before] at swapped
    cases swapped

theorem SortedMap.eq_or_of_insert [Std.LawfulEqOrd α] {map : SortedMap α β} {key other : α} {value found : β}
    (here : (map.insert key value)[other]? = some found) :
    (key = other ∧ value = found) ∨ map[other]? = some found := by
  rw [Std.ExtTreeMap.getElem?_insert] at here
  split at here
  next same => exact .inl ⟨Std.LawfulEqOrd.eq_of_compare same, Option.some.inj here⟩
  next => exact .inr here

/-- An entry with the value that missing ones have changes none of the values. -/
theorem SortedMap.getD_insertIfNew_self [Std.LawfulEqOrd α] {map : SortedMap α β} {key other : α} {value : β} :
    (map.insertIfNew key value).getD other value = map.getD other value := by
  rw [Std.ExtTreeMap.getD_insertIfNew]
  split
  next new =>
    obtain ⟨same, absent⟩ := new
    cases Std.LawfulEqOrd.eq_of_compare same
    rw [Std.ExtTreeMap.getD_eq_fallback absent]
  next => rfl

theorem SortedMap.minEntry?_insert_empty [Std.LawfulEqOrd α] (key : α) (value : β) :
    Std.ExtTreeMap.minEntry? ((∅ : SortedMap α β).insert key value) = some (key, value) := by
  cases first : Std.ExtTreeMap.minEntry? ((∅ : SortedMap α β).insert key value) with
  | none =>
    have absent := SortedMap.minEntry?_eq_none first key
    rw [Std.ExtTreeMap.getElem?_insert_self] at absent
    cases absent
  | some entry =>
    rcases SortedMap.eq_or_of_insert (SortedMap.minEntry?_eq_some first).1 with ⟨key, value⟩ | absent
    · rw [key, value]
    · rw [Std.ExtTreeMap.getElem?_empty] at absent
      cases absent

theorem SortedMap.erase_insert_empty [Std.LawfulEqOrd α] (key : α) (value : β) :
    ((∅ : SortedMap α β).insert key value).erase key = ∅ := by
  ext other found
  simp

theorem SortedMap.minEntry?_empty : Std.ExtTreeMap.minEntry? (∅ : SortedMap α β) = none := by
  rw [SortedMap.minEntry?_eq]
  simp

theorem SortedMap.getElem?_of_erase {map : SortedMap α β} {key other : α} {value : β}
    (found : (map.erase key)[other]? = some value) : map[other]? = some value := by
  rw [Std.ExtTreeMap.getElem?_erase] at found
  split at found
  next => cases found
  next => exact found

theorem SortedMap.size_erase_of_found {map : SortedMap α β} {key : α} {value : β} (found : map[key]? = some value) :
    (map.erase key).size + 1 = map.size := by
  have member : key ∈ map := SortedMap.mem_iff.mpr ⟨value, found⟩
  have filled : map.size ≠ 0 := by
    rw [ne_eq, ← Std.ExtTreeMap.eq_empty_iff_size_eq_zero, Std.ExtTreeMap.eq_empty_iff_forall_not_mem]
    exact fun none => none key member
  rw [Std.ExtTreeMap.size_erase, if_pos (Std.ExtTreeMap.contains_iff_mem.mpr member)]
  omega

theorem SortedMap.values_eq (map : SortedMap α β) : map.values = map.toList.map Prod.snd := by
  obtain ⟨⟨quotient⟩⟩ := map
  induction quotient using Quotient.inductionOn with
  | _ tree =>
    change Impl.values tree.inner = (Impl.Const.toList tree.inner).map Prod.snd
    rw [Impl.Const.toList_eq_toListModel_map, Impl.values, Impl.foldr_eq_foldr, List.map_map]
    induction tree.inner.toListModel with
    | nil => rfl
    | cons entry rest ih => rw [List.foldr_cons, ih, List.map_cons]; rfl

theorem SortedMap.mem_values [Std.LawfulEqOrd α] {map : SortedMap α β} {value : β} :
    value ∈ map.values ↔ ∃ key : α, map[key]? = some value := by
  simp only [SortedMap.values_eq, List.mem_map, Prod.exists, Std.ExtTreeMap.mem_toList_iff_getElem?_eq_some,
    exists_eq_right]

/-- Of two entries with one key the later counts. -/
theorem SortedMap.getElem?_of [Std.LawfulEqOrd α] [BEq α] [LawfulBEq α] (entries : List (α × β)) (key : α) :
    (SortedMap.of entries)[key]? = entries.reverse.lookup key := by
  rw [SortedMap.of, Std.ExtTreeMap.ofList_eq_insertMany_empty, Std.ExtTreeMap.getElem?_insertMany_list]
  simp only [List.findSomeRev?_eq_findSome?_reverse, Std.LawfulEqOrd.compare_eq_iff_eq,
    Std.ExtTreeMap.getElem?_empty, Option.or_none]
  induction entries.reverse with
  | nil => rfl
  | cons entry rest ih => grind

/-- Where only new keys are entered, under a key stands the first element with it. -/
theorem SortedMap.getElem?_foldl_insertIfNew [Std.LawfulEqOrd α] [BEq α] [LawfulBEq α] (key : β → α) (xs : List β)
    (map : SortedMap α β) (k : α) :
    (xs.foldl (fun found x => found.insertIfNew (key x) x) map)[k]? =
      (map[k]?).or (xs.find? fun x => key x == k) := by
  induction xs generalizing map with
  | nil => simp
  | cons x xs ih =>
    rw [List.foldl_cons, ih, Std.ExtTreeMap.getElem?_insertIfNew, List.find?_cons]
    by_cases same : key x = k
    · subst same
      rw [beq_self_eq_true]
      cases here : map[key x]? with
      | none =>
        have new : key x ∉ map := fun known => by simp [SortedMap.mem_iff, here] at known
        rw [if_pos ⟨Std.ReflCmp.compare_self, new⟩]
        rfl
      | some value =>
        rw [if_neg fun new => new.2 (SortedMap.mem_iff.mpr ⟨value, here⟩)]
        rfl
    · rw [if_neg fun new => same (Std.LawfulEqOrd.eq_of_compare new.1), beq_eq_false_iff_ne.mpr same]

theorem SortedMap.mem_of_eq_some [Std.LawfulEqOrd α] {entries : List (α × β)} {key : α} {value : β}
    (here : (SortedMap.of entries)[key]? = some value) : (key, value) ∈ entries := by
  classical
  rw [SortedMap.getElem?_of, List.lookup_eq_some_iff] at here
  obtain ⟨earlier, later, listed, _⟩ := here
  exact List.mem_reverse.mp (listed ▸ List.mem_append_right earlier List.mem_cons_self)

/-- A map is that of the entries it lists. -/
theorem SortedMap.of_toList [Std.LawfulEqOrd α] (map : SortedMap α β) : SortedMap.of map.toList = map := by
  apply Std.ExtTreeMap.ext_getElem?
  intro key
  apply Option.ext
  intro value
  constructor
  · exact fun here => Std.ExtTreeMap.mem_toList_iff_getElem?_eq_some.mp (SortedMap.mem_of_eq_some here)
  · intro here
    have listed := Std.ExtTreeMap.mem_toList_iff_getElem?_eq_some.mpr here
    exact Std.ExtTreeMap.getElem?_ofList_of_mem Std.ReflCmp.compare_self Std.ExtTreeMap.distinct_keys_toList listed

theorem SortedMap.mem_of [Std.LawfulEqOrd α] {entries : List (α × β)} {key : α} :
    key ∈ SortedMap.of entries ↔ key ∈ entries.map Prod.fst := by
  classical
  rw [SortedMap.of, Std.ExtTreeMap.mem_ofList, List.contains_iff_mem]

theorem SortedMap.nodup_keys [Std.LawfulEqOrd α] (map : SortedMap α β) : map.keys.Nodup := by
  refine (Std.ExtTreeMap.distinct_keys : map.keys.Pairwise _).imp ?_
  rintro a b different rfl
  simp at different

end Maps

section Sets

variable {α : Type} [Ord α] [Std.TransOrd α]

theorem SortedSet.all_eq (set : SortedSet α) (test : α → Bool) : set.all test = set.toList.all test := by
  obtain ⟨⟨⟨quotient⟩⟩⟩ := set
  induction quotient using Quotient.inductionOn with
  | _ tree =>
    change Impl.all tree.inner (fun element _ => test element) = (Impl.keys tree.inner).all test
    rw [Impl.all_eq_all_toListModel, Impl.keys_eq_keys, Std.Internal.List.keys_eq_map, List.all_map]
    rfl

theorem SortedSet.any_eq (set : SortedSet α) (test : α → Bool) : set.any test = set.toList.any test := by
  change Std.ExtTreeMap.any set.inner (fun element _ => test element) = (Std.ExtTreeMap.keys set.inner).any test
  rw [SortedMap.any_eq, ← Std.ExtTreeMap.map_fst_toList_eq_keys, List.any_map]
  rfl

variable [Std.LawfulEqOrd α]

theorem SortedSet.any_iff {set : SortedSet α} {test : α → Bool} :
    set.any test = true ↔ ∃ element ∈ set, test element = true := by
  simp only [SortedSet.any_eq, List.any_eq_true, Std.ExtTreeSet.mem_toList]

theorem SortedSet.subset_iff {small large : SortedSet α} :
    small.subset large = true ↔ ∀ element ∈ small, element ∈ large := by
  simp only [SortedSet.subset, SortedSet.all_eq, List.all_eq_true, Std.ExtTreeSet.mem_toList,
    Std.ExtTreeSet.contains_iff_mem]

@[simp]
theorem SortedSet.mem_of {elements : List α} {element : α} :
    element ∈ SortedSet.of elements ↔ element ∈ elements := by
  classical
  simp [SortedSet.of]

/-- A set is that of the elements it lists. -/
theorem SortedSet.of_toList (set : SortedSet α) : SortedSet.of set.toList = set :=
  Std.ExtTreeSet.ext_mem fun element => by simp

theorem SortedSet.nodup_toList (set : SortedSet α) : set.toList.Nodup := by
  refine (Std.ExtTreeSet.distinct_toList : set.toList.Pairwise _).imp ?_
  rintro a b different rfl
  simp at different

/-- Sets with the same elements among those that pass a test list them in the same order. -/
theorem SortedSet.filter_toList_congr {a b : SortedSet α} {test : α → Bool}
    (agree : ∀ element, test element = true → (element ∈ a ↔ element ∈ b)) :
    a.toList.filter test = b.toList.filter test := by
  rw [← Std.ExtTreeSet.toList_filter, ← Std.ExtTreeSet.toList_filter]
  congr 1
  apply Std.ExtTreeSet.ext_mem
  intro element
  by_cases holds : test element = true <;> simp [holds, agree]

theorem mem_distinctFrom {seen : SortedSet α} {xs : List α} {x : α} :
    x ∈ distinctFrom seen xs ↔ x ∈ xs ∧ x ∉ seen := by
  induction xs generalizing seen with
  | nil => simp [distinctFrom]
  | cons y ys ih =>
    unfold distinctFrom
    split
    next met =>
      rw [Std.ExtTreeSet.contains_iff_mem] at met
      grind
    next fresh =>
      rw [Std.ExtTreeSet.contains_iff_mem] at fresh
      grind

theorem nodup_distinctFrom (seen : SortedSet α) (xs : List α) : (distinctFrom seen xs).Nodup := by
  induction xs generalizing seen with
  | nil => exact List.nodup_nil
  | cons y ys ih =>
    unfold distinctFrom
    split
    · exact ih seen
    · refine List.nodup_cons.mpr ⟨?_, ih _⟩
      simp [mem_distinctFrom]

@[simp]
theorem mem_distinct {xs : List α} {x : α} : x ∈ distinct xs ↔ x ∈ xs := by
  simp [distinct, mem_distinctFrom]

theorem nodup_distinct (xs : List α) : (distinct xs).Nodup :=
  nodup_distinctFrom ∅ xs

end Sets

end Adventure
