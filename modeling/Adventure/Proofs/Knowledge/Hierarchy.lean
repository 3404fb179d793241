import Adventure.Proofs.Knowledge.Accepted

namespace Adventure

namespace KnowledgeRecord

variable {types : List TypeDeclaration} {type parent name : String}

/-- Some declaration of the type names the parent. -/
def Declares (types : List TypeDeclaration) (type parent : String) : Prop :=
  ∃ declaration ∈ types, declaration.name = type ∧ parent ∈ declaration.parents

theorem declares_of_parentTable (listed : parent ∈ (parentTable types).of type) : Declares types type parent := by
  have known : type ∈ parentTable types :=
    Std.ExtTreeMap.mem_keys.mp (Parents.mem_keys_of_of (List.ne_nil_of_mem listed))
  obtain ⟨parents, found⟩ := SortedMap.mem_iff.mp known
  rw [Parents.of, Std.ExtTreeMap.getD_eq_getD_getElem?, found] at listed
  obtain ⟨declaration, member, same⟩ := List.mem_map.mp (SortedMap.mem_of_eq_some found)
  cases same
  exact ⟨declaration, member, rfl, listed⟩

theorem parentTable_of_declares (different : (types.map TypeDeclaration.name).Nodup)
    (declares : Declares types type parent) : parent ∈ (parentTable types).of type := by
  obtain ⟨declaration, member, rfl, listed⟩ := declares
  have apart : (types.map fun type => (type.name, type.parents)).Pairwise
      fun a b => ¬ compare a.1 b.1 = .eq := by
    rw [List.pairwise_map]
    refine (List.pairwise_map.mp different).imp fun unlike same => unlike ?_
    exact Std.LawfulEqOrd.eq_of_compare same
  have found : (parentTable types)[declaration.name]? = some declaration.parents :=
    Std.ExtTreeMap.getElem?_ofList_of_mem Std.ReflCmp.compare_self apart (List.mem_map_of_mem member)
  rw [Parents.of, Std.ExtTreeMap.getD_eq_getD_getElem?, found]
  exact listed

/-- The type found to be above itself lies on a cycle of the declarations. -/
theorem cyclic_of_cyclicType (found : cyclicType types = some name) :
    Relation.TransGen (Declares types) name name := by
  obtain ⟨declaration, first, rfl⟩ := Option.map_eq_some_iff.mp found
  have back := List.find?_some first
  rw [Parents.leadsTo_iff] at back
  obtain ⟨parent, listed, climb⟩ := back
  have step : Declares types declaration.name parent :=
    ⟨declaration, List.mem_of_find?_eq_some first, rfl, listed⟩
  exact .head' step (Relation.ReflTransGen.mono (fun _ _ => declares_of_parentTable) _ _ climb)

/-- Each cycle is met by the climb from the first type on it to be declared. -/
theorem exists_cyclicType (different : (types.map TypeDeclaration.name).Nodup)
    (cycle : Relation.TransGen (Declares types) name name) : ∃ found, cyclicType types = some found := by
  obtain ⟨parent, step, climb⟩ := Relation.TransGen.head'_iff.mp cycle
  obtain ⟨declaration, member, rfl, listed⟩ := step
  have back : (parentTable types).leadsTo .stack declaration.parents declaration.name = true := by
    rw [Parents.leadsTo_iff]
    exact ⟨parent, listed, Relation.ReflTransGen.mono (fun _ _ => parentTable_of_declares different) _ _ climb⟩
  cases first : types.find? fun type => (parentTable types).leadsTo .stack type.parents type.name with
  | none => exact absurd back (List.find?_eq_none.mp first declaration member)
  | some found => exact ⟨found.name, by rw [cyclicType, first]; rfl⟩

theorem nodup_of_duplicatesFrom {kind : Referent} {seen : SortedSet String} {ids : List String}
    (none : duplicatesFrom kind seen ids = []) : ids.Nodup ∧ ∀ id ∈ ids, id ∉ seen := by
  induction ids generalizing seen with
  | nil => exact ⟨List.nodup_nil, by simp⟩
  | cons id rest ih =>
    rw [duplicatesFrom] at none
    split at none
    next => cases none
    next fresh =>
      rw [Std.ExtTreeSet.contains_iff_mem] at fresh
      obtain ⟨different, unseen⟩ := ih none
      have apart : ∀ other ∈ rest, other ≠ id ∧ other ∉ seen := by
        intro other listed
        have outside := unseen other listed
        rw [Std.ExtTreeSet.mem_insert, Std.LawfulEqOrd.compare_eq_iff_eq, not_or] at outside
        exact ⟨fun same => outside.1 same.symm, outside.2⟩
      refine ⟨List.nodup_cons.mpr ⟨fun listed => (apart id listed).1 rfl, different⟩, ?_⟩
      intro other listed
      rcases List.mem_cons.mp listed with rfl | later
      · exact fresh
      · exact (apart other later).2

section Invalid

variable {record : KnowledgeRecord} {known : SortedSet String} {value : BadValue}

theorem invalid_not_mem_duplicatesFrom {kind : Referent} {seen : SortedSet String} {ids : List String} :
    .invalid value ∉ duplicatesFrom kind seen ids := by
  induction ids generalizing seen with
  | nil => exact List.not_mem_nil
  | cons id rest ih =>
    rw [duplicatesFrom]
    split
    next => simp [ih]
    next => exact ih

theorem invalid_not_mem_checkReference {kind : Referent} {site : Site} {id : String} :
    .invalid value ∉ checkReference kind known site id := by
  unfold checkReference
  split <;> simp

theorem invalid_not_mem_patternProblems {owner : PatternOwner} {pattern : Pattern} :
    .invalid value ∉ record.patternProblems known owner pattern := by
  unfold patternProblems
  split <;> simp [invalid_not_mem_checkReference]

theorem invalid_not_mem_ruleProblems {rule : Rule} : .invalid value ∉ record.ruleProblems known rule := by
  simp only [ruleProblems, List.mem_append, List.mem_flatMap, not_or, not_exists, not_and]
  refine ⟨fun _ _ => invalid_not_mem_patternProblems, fun slot _ => ?_⟩
  split <;> simp

theorem cyclic_not_mem_constraintProblems {constraint : Constraint} :
    .invalid (.cyclicType name) ∉ record.constraintProblems known constraint := by
  simp only [constraintProblems, List.mem_append, List.mem_flatMap, not_or, not_exists, not_and]
  refine ⟨?_, fun _ _ => invalid_not_mem_patternProblems⟩
  split <;> simp

/-- A type is reported to be above itself by the search for such a type and by no other check. -/
theorem cyclic_mem_problems_iff :
    .invalid (.cyclicType name) ∈ record.problems ↔ cyclicType record.types = some name := by
  simp only [problems, duplicates, List.mem_append, List.mem_flatMap, invalid_not_mem_duplicatesFrom,
    invalid_not_mem_checkReference, invalid_not_mem_ruleProblems, cyclic_not_mem_constraintProblems, and_false,
    exists_false, or_false, false_or]
  cases cyclicType record.types with
  | none => simp
  | some found => simp [eq_comm]

end Invalid

theorem nodup_of_problems {record : KnowledgeRecord} (flawless : record.problems = []) :
    (record.types.map TypeDeclaration.name).Nodup := by
  simp only [problems, List.append_eq_nil_iff] at flawless
  obtain ⟨⟨⟨⟨⟨⟨⟨⟨⟨types, -⟩, -⟩, -⟩, -⟩, -⟩, -⟩, -⟩, -⟩, -⟩ := flawless
  exact (nodup_of_duplicatesFrom types).1

/-- Declarations without problems put no type above itself. -/
theorem acyclic_of_problems {record : KnowledgeRecord} (flawless : record.problems = []) :
    ¬ Relation.TransGen (Declares record.types) name name := by
  intro cycle
  obtain ⟨found, search⟩ := exists_cyclicType (nodup_of_problems flawless) cycle
  have reported := cyclic_mem_problems_iff.mpr search
  rw [flawless] at reported
  cases reported

end KnowledgeRecord

namespace KnowledgeBase

variable {record : KnowledgeRecord} {kb : KnowledgeBase} {a b : String}

theorem ofRecord_ne_unknownType (name : String) : ofRecord record ≠ .error (.unknownType name) := by
  intro failed
  cases flaws : record.problems with
  | nil =>
    obtain ⟨kb, made⟩ := exists_ofRecord flaws
    rw [made] at failed
    cases failed
  | cons problem rest =>
    rw [ofRecord, flaws] at failed
    cases failed

/-- Types descend as the declarations say: from themselves, their parents, the parents of these and so on. -/
theorem descends_iff_declared (accepted : ofRecord record = .ok kb) :
    kb.types.descends a b = true ↔ Relation.ReflTransGen (KnowledgeRecord.Declares record.types) a b := by
  obtain ⟨-, types, made, rfl⟩ := ofRecord_eq_ok_iff.mp accepted
  have steps : (fun a b => b ∈ types.parentsOf a) = KnowledgeRecord.Declares record.types := by
    ext type parent
    simp [TypeHierarchy.mem_parentsOf_iff made, KnowledgeRecord.Declares]
  rw [build, TypeHierarchy.descends_iff, steps]

theorem descends_antisymm (accepted : ofRecord record = .ok kb) (up : kb.types.descends a b = true)
    (down : kb.types.descends b a = true) : a = b := by
  have flawless : record.problems = [] := (ofRecord_eq_ok_iff.mp accepted).1
  rw [descends_iff_declared accepted] at up down
  rcases Relation.reflTransGen_iff_eq_or_transGen.mp up with same | climb
  · exact same.symm
  · exact absurd (climb.trans_left down) (KnowledgeRecord.acyclic_of_problems flawless)

/-- Declarations make a knowledge base exactly when no problem is found with them, and an undeclared type is found
as a problem before it can stop the making. The types made are ordered by descent, which is what the declared parents
lead to. A type is reported to be above itself only if the declarations lead from it back to it, and if each type is
declared once then one on a cycle is reported whenever there is a cycle. -/
theorem validation_exact (record : KnowledgeRecord) :
    ((∃ kb, ofRecord record = .ok kb) ↔ record.problems = []) ∧
      (∀ name, ofRecord record ≠ .error (.unknownType name)) ∧
      (∀ kb, ofRecord record = .ok kb →
        (∀ a b, kb.types.descends a b = true ↔
          Relation.ReflTransGen (KnowledgeRecord.Declares record.types) a b) ∧
        (∀ a, kb.types.descends a a = true) ∧
        (∀ a b c, kb.types.descends a b = true → kb.types.descends b c = true → kb.types.descends a c = true) ∧
        ∀ a b, kb.types.descends a b = true → kb.types.descends b a = true → a = b) ∧
      (∀ name, .invalid (.cyclicType name) ∈ record.problems →
        Relation.TransGen (KnowledgeRecord.Declares record.types) name name) ∧
      ((record.types.map TypeDeclaration.name).Nodup →
        (∃ name, Relation.TransGen (KnowledgeRecord.Declares record.types) name name) →
        ∃ name, .invalid (.cyclicType name) ∈ record.problems) := by
  refine ⟨⟨?_, exists_ofRecord⟩, ofRecord_ne_unknownType, ?_, ?_, ?_⟩
  · rintro ⟨kb, made⟩
    exact (ofRecord_eq_ok_iff.mp made).1
  · intro kb made
    exact ⟨fun a b => descends_iff_declared made, kb.types.descends_refl, kb.types.transitive,
      fun a b => descends_antisymm made⟩
  · intro name reported
    exact KnowledgeRecord.cyclic_of_cyclicType (KnowledgeRecord.cyclic_mem_problems_iff.mp reported)
  · rintro different ⟨name, cycle⟩
    obtain ⟨found, search⟩ := KnowledgeRecord.exists_cyclicType different cycle
    exact ⟨found, KnowledgeRecord.cyclic_mem_problems_iff.mpr search⟩

end KnowledgeBase

end Adventure
