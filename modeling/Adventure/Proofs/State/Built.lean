import Adventure.Proofs.State.Indices

namespace Adventure

theorem bind_eq_ok_iff {ε α β : Type} {x : Except ε α} {f : α → Except ε β} {result : β} :
    x >>= f = .ok result ↔ ∃ value, x = .ok value ∧ f value = .ok result := by
  cases x <;> simp [bind, Except.bind]

theorem bind_eq_error_iff {ε α β : Type} {x : Except ε α} {f : α → Except ε β} {error : ε} :
    x >>= f = .error error ↔ x = .error error ∨ ∃ value, x = .ok value ∧ f value = .error error := by
  cases x <;> simp [bind, Except.bind]

theorem map_eq_ok_iff {ε α β : Type} {x : Except ε α} {f : α → β} {result : β} :
    x.map f = .ok result ↔ ∃ value, x = .ok value ∧ f value = result := by
  cases x <;> simp [Except.map]

theorem map_eq_error_iff {ε α β : Type} {x : Except ε α} {f : α → β} {error : ε} :
    x.map f = .error error ↔ x = .error error := by
  cases x <;> simp [Except.map]

/-- Checks made in turn all pass exactly if each of them does. -/
theorem forM_eq_ok_iff {ε α : Type} {check : α → Except ε Unit} {xs : List α} :
    xs.forM check = .ok () ↔ ∀ x ∈ xs, check x = .ok () := by
  induction xs with
  | nil => simp [pure, Except.pure]
  | cons x xs ih =>
    rw [List.forM_eq_forM, List.forM_cons, ← List.forM_eq_forM]
    cases result : check x with
    | error => simp [bind, Except.bind, result]
    | ok => simpa [bind, Except.bind, result] using ih

/-- Checks made in turn fail with the first of them that does. -/
theorem forM_eq_error_iff {ε α : Type} {check : α → Except ε Unit} {xs : List α} {error : ε} :
    xs.forM check = .error error ↔ ∃ earlier x later, xs = earlier ++ x :: later ∧
      (∀ y ∈ earlier, check y = .ok ()) ∧ check x = .error error := by
  constructor
  · intro failed
    induction xs with
    | nil => cases failed
    | cons x xs ih =>
      rw [List.forM_eq_forM, List.forM_cons, ← List.forM_eq_forM, bind_eq_error_iff] at failed
      rcases failed with here | ⟨⟨⟩, passed, failed⟩
      · exact ⟨[], x, xs, rfl, by simp, here⟩
      · obtain ⟨earlier, y, later, rfl, before, there⟩ := ih failed
        exact ⟨x :: earlier, y, later, rfl, List.forall_mem_cons.mpr ⟨passed, before⟩, there⟩
  · rintro ⟨earlier, x, later, rfl, before, here⟩
    have passed : earlier.forM check = .ok () := forM_eq_ok_iff.mpr before
    rw [List.forM_eq_forM] at passed ⊢
    rw [List.forM_append, passed, List.forM_cons, here]
    rfl

theorem KnowledgeBase.checkFact_eq_ok_iff_faultless {kb : KnowledgeBase} {fact : Fact} :
    kb.checkFact fact = .ok () ↔ kb.factFault fact = none := by
  unfold checkFact
  cases kb.factFault fact <;> simp

theorem KnowledgeBase.checkFacts_eq_error {kb : KnowledgeBase} {facts : List Fact} {error : Error}
    (failed : facts.forM kb.checkFact = .error error) : ∃ fact fault, error = .invalidFact fact fault := by
  obtain ⟨-, fact, -, -, -, wrong⟩ := forM_eq_error_iff.mp failed
  rw [checkFact] at wrong
  split at wrong
  next => cases wrong
  next fault _ =>
    cases wrong
    exact ⟨fact, fault, rfl⟩

/-- A fact can be stated exactly if its types are known and descend from those of a signature of its predicate. -/
theorem KnowledgeBase.checkFact_eq_ok_iff {kb : KnowledgeBase} {fact : Fact} : kb.checkFact fact = .ok () ↔
    (∀ e ∈ fact.arguments, kb.types.contains e.type = true) ∧
    ∃ signature ∈ kb.signatures, signature.predicate = fact.predicate ∧
      signature.types.length = fact.arguments.length ∧
      ∀ pair ∈ signature.types.zip fact.arguments, kb.types.descends pair.2.type pair.1 = true := by
  have declared (signature : Signature) :
      (signature ∈ kb.signaturesOf fact.predicate fact.arguments.length ∧ kb.fits signature fact = true) ↔
        signature ∈ kb.signatures ∧ signature.predicate = fact.predicate ∧
          signature.types.length = fact.arguments.length ∧
          ∀ pair ∈ signature.types.zip fact.arguments, kb.types.descends pair.2.type pair.1 = true := by
    simp only [signaturesOf, fits, List.mem_filter, Bool.and_eq_true, beq_iff_eq, List.all_eq_true, and_assoc]
  simp only [checkFact_eq_ok_iff_faultless, factFault, ← declared]
  cases unknown : fact.arguments.find? (!kb.types.contains ·.type) with
  | some e =>
    have strange := List.find?_some unknown
    simp only [reduceCtorEq, false_iff]
    rintro ⟨known, -⟩
    simp [known e (List.mem_of_find?_eq_some unknown)] at strange
  | none =>
    have known : ∀ e ∈ fact.arguments, kb.types.contains e.type = true := by
      simpa using List.find?_eq_none.mp unknown
    rw [and_iff_right known]
    cases kb.signaturesOf fact.predicate fact.arguments.length with
    | nil => simp
    | cons first rest =>
      by_cases fits : (first :: rest).any (kb.fits · fact) = true
      · exact ⟨fun _ => List.any_eq_true.mp fits, fun _ => if_pos fits⟩
      · refine ⟨fun faultless => ?_, fun fitting => absurd (List.any_eq_true.mpr fitting) fits⟩
        simp only [fits, if_false, reduceCtorEq] at faultless

theorem Action.mem_added {action : Action} {fact : Fact} :
    fact ∈ action.added ↔ fact ∈ action.after ∧ fact ∉ action.before := by
  simp [Action.added, ← Bool.not_eq_true]

theorem Action.mem_removed {action : Action} {fact : Fact} :
    fact ∈ action.removed ↔ fact ∈ action.before ∧ fact ∉ action.after := by
  simp [Action.removed, ← Bool.not_eq_true]

namespace State

/-- The states made by the operations on states from the one without facts. -/
inductive Built : State → Prop
  | empty (kb : KnowledgeBase) : Built (State.empty kb)
  | addFacts {s t : State} {facts : List Fact} : Built s → s.addFacts facts = .ok t → Built t
  | erase {s : State} (fact : Fact) : Built s → Built (s.erase fact)
  | eraseAll {s : State} (facts : List Fact) : Built s → Built (s.eraseAll facts)
  | apply {s t : State} {action : Action} : Built s → s.apply action = .ok (some t) → Built t

theorem insert_kb (s : State) (fact : Fact) : (s.insert fact).kb = s.kb := by
  unfold State.insert
  split <;> rfl

theorem erase_kb (s : State) (fact : Fact) : (s.erase fact).kb = s.kb := by
  unfold State.erase
  split <;> rfl

theorem insertAll_kb (s : State) (facts : List Fact) : (s.insertAll facts).kb = s.kb := by
  induction facts generalizing s with
  | nil => rfl
  | cons fact facts ih => exact (ih (s.insert fact)).trans (s.insert_kb fact)

theorem eraseAll_kb (s : State) (facts : List Fact) : (s.eraseAll facts).kb = s.kb := by
  induction facts generalizing s with
  | nil => rfl
  | cons fact facts ih => exact (ih (s.erase fact)).trans (s.erase_kb fact)

theorem mem_insert {s : State} {fact other : Fact} :
    other ∈ (s.insert fact).facts ↔ other = fact ∨ other ∈ s.facts := by
  unfold State.insert
  split
  next present =>
    rw [Std.ExtTreeSet.contains_iff_mem] at present
    grind
  next => grind

theorem mem_erase {s : State} {fact other : Fact} :
    other ∈ (s.erase fact).facts ↔ other ∈ s.facts ∧ other ≠ fact := by
  unfold State.erase
  split
  next => grind
  next absent =>
    rw [Std.ExtTreeSet.contains_iff_mem] at absent
    grind

theorem mem_insertAll {s : State} {facts : List Fact} {fact : Fact} :
    fact ∈ (s.insertAll facts).facts ↔ fact ∈ facts ∨ fact ∈ s.facts := by
  induction facts generalizing s with
  | nil => simp [State.insertAll]
  | cons first facts ih =>
    rw [State.insertAll, List.foldl_cons, ← State.insertAll, ih, mem_insert, List.mem_cons]
    grind

theorem mem_eraseAll {s : State} {facts : List Fact} {fact : Fact} :
    fact ∈ (s.eraseAll facts).facts ↔ fact ∈ s.facts ∧ fact ∉ facts := by
  induction facts generalizing s with
  | nil => simp [State.eraseAll]
  | cons first facts ih =>
    rw [State.eraseAll, List.foldl_cons, ← State.eraseAll, ih, mem_erase, List.mem_cons]
    grind

theorem addFacts_eq_ok_iff {s t : State} {facts : List Fact} :
    s.addFacts facts = .ok t ↔ (∀ fact ∈ facts, s.kb.checkFact fact = .ok ()) ∧ s.insertAll facts = t := by
  rw [← forM_eq_ok_iff, State.addFacts]
  cases facts.forM s.kb.checkFact with
  | error => simp [bind, Except.bind]
  | ok => simp [bind, Except.bind, pure, Except.pure]

theorem applicable_iff {s : State} {action : Action} :
    s.applicable action = true ↔ ∀ fact ∈ action.before, fact ∈ s.facts :=
  SortedSet.subset_iff

theorem apply_eq_some_iff {s t : State} {action : Action} :
    s.apply action = .ok (some t) ↔ s.applicable action = true ∧
      (∀ fact ∈ action.added, s.kb.checkFact fact = .ok ()) ∧
      (s.eraseAll action.removed.toList).insertAll action.added.toList = t := by
  have checks : action.added.toList.forM s.kb.checkFact = .ok () ↔
      ∀ fact ∈ action.added, s.kb.checkFact fact = .ok () := by
    rw [forM_eq_ok_iff]
    simp only [Std.ExtTreeSet.mem_toList]
  rw [← checks, State.apply]
  by_cases applicable : s.applicable action
  · cases action.added.toList.forM s.kb.checkFact with
    | error => simp [applicable, bind, Except.bind]
    | ok => simp [applicable, bind, Except.bind, pure, Except.pure]
  · simp [applicable]

theorem apply_of_faultless {s : State} {action : Action} (applicable : s.applicable action = true)
    (faultless : ∀ fact ∈ action.added.toList, (s.kb.factFault fact).isNone = true) :
    s.apply action = .ok (some ((s.eraseAll action.removed.toList).insertAll action.added.toList)) := by
  refine apply_eq_some_iff.mpr ⟨applicable, fun fact member => ?_, rfl⟩
  rw [KnowledgeBase.checkFact_eq_ok_iff_faultless, ← Option.isNone_iff_eq_none]
  exact faultless fact (Std.ExtTreeSet.mem_toList.mpr member)

/-- The facts after an action: those it results in, and those from before that it does not need. -/
theorem mem_apply {s t : State} {action : Action} (run : s.apply action = .ok (some t)) {fact : Fact} :
    fact ∈ t.facts ↔ fact ∈ action.after ∨ fact ∈ s.facts ∧ fact ∉ action.before := by
  obtain ⟨applicable, _, rfl⟩ := apply_eq_some_iff.mp run
  have needed := applicable_iff.mp applicable fact
  rw [mem_insertAll, mem_eraseAll, Std.ExtTreeSet.mem_toList, Std.ExtTreeSet.mem_toList, Action.mem_added,
    Action.mem_removed]
  grind

theorem apply_kb {s t : State} {action : Action} (run : s.apply action = .ok (some t)) : t.kb = s.kb := by
  obtain ⟨_, _, rfl⟩ := apply_eq_some_iff.mp run
  rw [insertAll_kb, eraseAll_kb]

theorem Indexed.apply {s t : State} (indexed : s.Indexed) {action : Action}
    (run : s.apply action = .ok (some t)) : t.Indexed := by
  obtain ⟨_, _, rfl⟩ := apply_eq_some_iff.mp run
  exact (indexed.eraseAll _).insertAll _

theorem Built.indexed {s : State} (built : s.Built) : s.Indexed := by
  induction built with
  | empty kb => exact .empty kb
  | addFacts _ added ih =>
    obtain ⟨_, rfl⟩ := addFacts_eq_ok_iff.mp added
    exact ih.insertAll _
  | erase fact _ ih => exact ih.erase fact
  | eraseAll facts _ ih => exact ih.eraseAll facts
  | apply _ run ih => exact ih.apply run

/-- Every fact of a state can be stated. -/
theorem Built.checked {s : State} (built : s.Built) {fact : Fact} (member : fact ∈ s.facts) :
    s.kb.checkFact fact = .ok () := by
  induction built with
  | empty => simp [State.empty] at member
  | addFacts _ added ih =>
    obtain ⟨checks, rfl⟩ := addFacts_eq_ok_iff.mp added
    rw [insertAll_kb]
    rcases mem_insertAll.mp member with new | old
    · exact checks fact new
    · exact ih old
  | erase other _ ih =>
    rw [erase_kb]
    exact ih (mem_erase.mp member).1
  | eraseAll facts _ ih =>
    rw [eraseAll_kb]
    exact ih (mem_eraseAll.mp member).1
  | apply _ run ih =>
    rw [apply_kb run]
    obtain ⟨_, checks, rfl⟩ := apply_eq_some_iff.mp run
    rcases mem_insertAll.mp member with new | old
    · exact checks fact (Std.ExtTreeSet.mem_toList.mp new)
    · exact ih (mem_eraseAll.mp old).1

/-- The facts of a state make the same state again. -/
theorem Built.ofFacts_toList {s : State} (built : s.Built) : State.ofFacts s.kb s.facts.toList = .ok s := by
  have stated : ∀ fact ∈ s.facts.toList, (State.empty s.kb).kb.checkFact fact = .ok () :=
    fun fact member => built.checked (Std.ExtTreeSet.mem_toList.mp member)
  refine addFacts_eq_ok_iff.mpr ⟨stated, ?_⟩
  refine ((Indexed.empty s.kb).insertAll _).ext built.indexed (insertAll_kb _ _) ?_
  ext fact
  simp [mem_insertAll, State.empty]

/-- Facts that hold already change nothing. -/
theorem Built.addFacts_of_subset {s : State} (built : s.Built) {facts : List Fact}
    (known : ∀ fact ∈ facts, fact ∈ s.facts) : s.addFacts facts = .ok s := by
  refine addFacts_eq_ok_iff.mpr ⟨fun fact member => built.checked (known fact member), ?_⟩
  refine (built.indexed.insertAll _).ext built.indexed (insertAll_kb _ _) ?_
  ext fact
  rw [mem_insertAll]
  exact or_iff_right_of_imp (known fact)

end State

end Adventure
