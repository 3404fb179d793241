import Adventure.Logic.TypeHierarchy
import Adventure.Proofs.Sorted

namespace Adventure

namespace Parents

variable {parents : Parents} {child parent type above : String}

theorem mem_of_link :
    above ∈ (if (parents.of child).contains parent then parents
        else parents.insert child (parents.of child ++ [parent])).of type ↔
      above ∈ parents.of type ∨ type = child ∧ above = parent := by
  split
  next before =>
    rw [List.contains_iff_mem] at before
    refine ⟨.inl, ?_⟩
    rintro (old | ⟨rfl, rfl⟩)
    · exact old
    · exact before
  next =>
    rw [of, Std.ExtTreeMap.getD_insert]
    split
    next same =>
      cases Std.LawfulEqOrd.eq_of_compare same
      simp
    next other =>
      rw [Std.LawfulEqOrd.compare_eq_iff_eq, eq_comm] at other
      simp [other, of]

end Parents

theorem Children.mem_of_link {children : Children} {child parent type below : String} :
    below ∈ Children.of (children.insert parent ((children.of parent).insert child)) type ↔
      below ∈ children.of type ∨ below = child ∧ type = parent := by
  rw [of, Std.ExtTreeMap.getD_insert]
  split
  next same =>
    cases Std.LawfulEqOrd.eq_of_compare same
    rw [Std.ExtTreeSet.mem_insert, Std.LawfulEqOrd.compare_eq_iff_eq, or_comm]
    simp [eq_comm]
  next other =>
    rw [Std.LawfulEqOrd.compare_eq_iff_eq, eq_comm] at other
    simp [other, of]

namespace TypeHierarchy

variable {types linked : TypeHierarchy} {declarations : List (String × List String)} {listed : List String}
variable {child parent type name above below : String}

theorem contains_declare :
    (types.declare type).contains name = true ↔ type = name ∨ types.contains name = true := by
  rw [contains, contains, declare, Std.ExtTreeMap.contains_iff_mem, Std.ExtTreeMap.mem_insertIfNew,
    Std.LawfulEqOrd.compare_eq_iff_eq, Std.ExtTreeMap.contains_iff_mem]

/-- A type has no parents when it is declared, and keeps those that it has when it is declared again. -/
@[simp]
theorem parentsOf_declare : (types.declare name).parentsOf type = types.parentsOf type :=
  SortedMap.getD_insertIfNew_self

@[simp]
theorem childrenOf_declare : (types.declare name).childrenOf type = types.childrenOf type :=
  congrArg Std.ExtTreeSet.toList SortedMap.getD_insertIfNew_self

/-- What one link does: the parent, which is declared, gets the child, and the child gets the parent. -/
structure Linked (types : TypeHierarchy) (child parent : String) (linked : TypeHierarchy) : Prop where
  known : types.contains parent = true
  kept : ∀ name, types.contains name = true → linked.contains name = true
  above : ∀ type above, above ∈ linked.parentsOf type ↔ above ∈ types.parentsOf type ∨ type = child ∧ above = parent
  below : ∀ type below, below ∈ linked.childrenOf type ↔ below ∈ types.childrenOf type ∨ below = child ∧ type = parent

theorem linked_of_link (run : types.link child parent = some linked) : Linked types child parent linked := by
  unfold link at run
  split at run
  next known =>
    cases run
    refine ⟨known, fun name old => ?_, fun type above => Parents.mem_of_link, fun type below => ?_⟩
    · rw [contains, Std.ExtTreeMap.contains_iff_mem] at old ⊢
      dsimp only
      split
      · exact old
      · exact Std.ExtTreeMap.mem_insert.mpr (.inr old)
    · rw [childrenOf, childrenOf, Std.ExtTreeSet.mem_toList, Std.ExtTreeSet.mem_toList]
      exact Children.mem_of_link
  next => cases run

section Keeping

variable {P : TypeHierarchy → Prop}

/-- What links keep, linking parents in turn keeps, also where an undeclared one ends the work. -/
theorem linkAll_keeps
    (link : ∀ types linked parent, Linked types child parent linked → P types → P linked) (start : P types) :
    P (types.linkAll child listed).1 := by
  induction listed generalizing types with
  | nil => exact start
  | cons parent rest ih =>
    rw [linkAll]
    split
    next => exact start
    next linked run => exact ih (link _ _ _ (linked_of_link run) start)

theorem linkDeclarations_keeps
    (link : ∀ types linked child parent, Linked types child parent linked → P types → P linked) (start : P types)
    (run : linkDeclarations types declarations = .ok linked) : P linked := by
  induction declarations generalizing types with
  | nil =>
    cases run
    exact start
  | cons entry rest ih =>
    obtain ⟨type, listed⟩ := entry
    have once : P (types.linkAll type listed).1 := linkAll_keeps (fun types linked => link types linked type) start
    rw [linkDeclarations] at run
    split at run
    next next all =>
      rw [all] at once
      exact ih once run
    next => cases run

theorem declareAll_keeps (declare : ∀ types name, P types → P (types.declare name)) (start : P types) :
    P (declarations.foldl (fun types entry => types.declare entry.1) types) := by
  induction declarations generalizing types with
  | nil => exact start
  | cons entry rest ih => exact ih (declare types entry.1 start)

end Keeping

theorem contains_linkAll (known : types.contains name = true) : (types.linkAll child listed).1.contains name = true :=
  linkAll_keeps (fun _ _ _ step => step.kept name) known

theorem linkAll_of_known (known : ∀ parent ∈ listed, types.contains parent = true) :
    ∃ linked, types.linkAll child listed = (linked, none) := by
  induction listed generalizing types with
  | nil => exact ⟨types, rfl⟩
  | cons parent rest ih =>
    obtain ⟨here, others⟩ := List.forall_mem_cons.mp known
    rw [linkAll]
    split
    next unknown => simp [link, here] at unknown
    next linked run => exact ih fun parent listed => (linked_of_link run).kept parent (others parent listed)

theorem mem_parentsOf_linkAll (run : types.linkAll child listed = (linked, none)) :
    above ∈ linked.parentsOf type ↔ above ∈ types.parentsOf type ∨ type = child ∧ above ∈ listed := by
  induction listed generalizing types with
  | nil =>
    cases run
    simp
  | cons parent rest ih =>
    rw [linkAll] at run
    split at run
    next => cases run
    next next once =>
      rw [ih run, (linked_of_link once).above, List.mem_cons, or_assoc, and_or_left]

theorem contains_declareAll (known : types.contains name = true ∨ name ∈ declarations.map Prod.fst) :
    (declarations.foldl (fun types entry => types.declare entry.1) types).contains name = true := by
  induction declarations generalizing types with
  | nil => simpa using known
  | cons entry rest ih =>
    refine ih ?_
    rw [contains_declare]
    rw [List.map_cons, List.mem_cons] at known
    rcases known with old | rfl | later
    · exact .inl (.inr old)
    · exact .inl (.inl rfl)
    · exact .inr later

/-- A hierarchy made of declarations knows each of the declared types. -/
theorem contains_of_declared (made : ofDeclarations declarations = .ok types)
    (declared : name ∈ declarations.map Prod.fst) : types.contains name = true :=
  linkDeclarations_keeps (fun _ _ _ _ step => step.kept name) (contains_declareAll (.inr declared)) made

theorem exists_linkDeclarations
    (known : ∀ entry ∈ declarations, ∀ parent ∈ entry.2, types.contains parent = true) :
    ∃ linked, linkDeclarations types declarations = .ok linked := by
  induction declarations generalizing types with
  | nil => exact ⟨types, rfl⟩
  | cons entry rest ih =>
    obtain ⟨type, listed⟩ := entry
    obtain ⟨here, others⟩ := List.forall_mem_cons.mp known
    obtain ⟨linked, run⟩ : ∃ linked, types.linkAll type listed = (linked, none) := linkAll_of_known here
    have kept : ∀ name, types.contains name = true → linked.contains name = true := by
      intro name old
      have stays : (types.linkAll type listed).1.contains name = true := contains_linkAll old
      rwa [run] at stays
    rw [linkDeclarations, run]
    exact ih fun entry later parent member => kept parent (others entry later parent member)

/-- Declarations make a hierarchy if they declare each parent they name. -/
theorem exists_ofDeclarations
    (known : ∀ entry ∈ declarations, ∀ parent ∈ entry.2, parent ∈ declarations.map Prod.fst) :
    ∃ types, ofDeclarations declarations = .ok types :=
  exists_linkDeclarations fun entry listed parent member =>
    contains_declareAll (.inr (known entry listed parent member))

theorem mem_parentsOf_linkDeclarations (run : linkDeclarations types declarations = .ok linked) :
    above ∈ linked.parentsOf type ↔
      above ∈ types.parentsOf type ∨ ∃ entry ∈ declarations, type = entry.1 ∧ above ∈ entry.2 := by
  induction declarations generalizing types with
  | nil =>
    cases run
    simp
  | cons entry rest ih =>
    obtain ⟨child, listed⟩ := entry
    rw [linkDeclarations] at run
    split at run
    next next all =>
      rw [ih run, mem_parentsOf_linkAll all]
      simp only [List.mem_cons, exists_eq_or_imp, or_assoc]
    next => cases run

/-- The parents of a type are those that its declarations name. -/
theorem mem_parentsOf_iff (made : ofDeclarations declarations = .ok types) :
    above ∈ types.parentsOf type ↔ ∃ entry ∈ declarations, entry.1 = type ∧ above ∈ entry.2 := by
  have none : (declarations.foldl (fun types entry => types.declare entry.1) empty).parentsOf type = [] := by
    refine declareAll_keeps (P := fun types => types.parentsOf type = []) (fun types name none => ?_) rfl
    rw [parentsOf_declare, none]
  rw [mem_parentsOf_linkDeclarations made, none]
  simp [eq_comm]

end TypeHierarchy

end Adventure
