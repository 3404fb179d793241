import Adventure.Proofs.Core.Typing
import Adventure.Proofs.Logic.Linking

namespace Adventure

namespace KnowledgeRecord

variable {record : KnowledgeRecord}

theorem mem_of_checkReference {kind : Referent} {known : List String} {site : Site} {id : String}
    (found : checkReference kind (SortedSet.of known) site id = []) : id ∈ known := by
  unfold checkReference at found
  split at found
  next here => simpa [Std.ExtTreeSet.contains_iff_mem] using here
  next => cases found

/-- Rules without problems are over declared types. -/
theorem declared_of_problems (flawless : record.problems = []) {declared : RuleDeclaration}
    (member : declared ∈ record.rules) {p : Placeholder} (listed : p ∈ declared.rule.placeholders) :
    p.type ∈ record.types.map TypeDeclaration.name := by
  obtain ⟨pattern, among, parameter⟩ := Rule.mem_placeholders.mp listed
  simp only [problems, List.append_eq_nil_iff, List.flatMap_eq_nil_iff] at flawless
  obtain ⟨⟨⟨⟨-, rules⟩, -⟩, -⟩, -⟩ := flawless
  have sound := rules declared member
  simp only [ruleProblems, List.append_eq_nil_iff, List.flatMap_eq_nil_iff] at sound
  have patterns := sound.1 pattern among
  simp only [patternProblems, List.append_eq_nil_iff, List.flatMap_eq_nil_iff] at patterns
  exact mem_of_checkReference (patterns.1 p parameter)

theorem parents_declared_of_problems (flawless : record.problems = []) {type : TypeDeclaration}
    (member : type ∈ record.types) {parent : String} (above : parent ∈ type.parents) :
    parent ∈ record.types.map TypeDeclaration.name := by
  simp only [problems, List.append_eq_nil_iff, List.flatMap_eq_nil_iff] at flawless
  obtain ⟨⟨⟨⟨⟨⟨⟨-, parents⟩, -⟩, -⟩, -⟩, -⟩, -⟩, -⟩ := flawless
  exact mem_of_checkReference (parents type member parent above)

end KnowledgeRecord

namespace KnowledgeBase

variable {record : KnowledgeRecord} {kb : KnowledgeBase}

theorem ofRecord_eq_ok_iff : ofRecord record = .ok kb ↔ record.problems = [] ∧
    ∃ types, TypeHierarchy.ofDeclarations (record.types.map fun type => (type.name, type.parents)) = .ok types ∧
      build record types = kb := by
  rw [ofRecord]
  cases record.problems with
  | cons => simp
  | nil =>
    cases TypeHierarchy.ofDeclarations (record.types.map fun type => (type.name, type.parents)) with
    | error => simp
    | ok types => simp

/-- Declarations without problems make a knowledge base. -/
theorem exists_ofRecord (flawless : record.problems = []) : ∃ kb, ofRecord record = .ok kb := by
  have known : ∀ entry ∈ record.types.map fun type => (type.name, type.parents), ∀ parent ∈ entry.2,
      parent ∈ (record.types.map fun type => (type.name, type.parents)).map Prod.fst := by
    intro entry listed parent above
    obtain ⟨type, member, rfl⟩ := List.mem_map.mp listed
    rw [List.map_map]
    exact KnowledgeRecord.parents_declared_of_problems flawless member above
  obtain ⟨types, made⟩ := TypeHierarchy.exists_ofDeclarations known
  exact ⟨build record types, ofRecord_eq_ok_iff.mpr ⟨flawless, types, made, rfl⟩⟩

/-- The rules of an accepted knowledge base are over known types. -/
theorem contains_of_ofRecord (accepted : ofRecord record = .ok kb) {rule : Rule} (member : rule ∈ kb.rules)
    {p : Placeholder} (listed : p ∈ rule.placeholders) : kb.types.contains p.type = true := by
  obtain ⟨flawless, types, made, rfl⟩ := ofRecord_eq_ok_iff.mp accepted
  obtain ⟨declared, among, rfl⟩ := List.mem_map.mp member
  refine TypeHierarchy.contains_of_declared made ?_
  simpa using KnowledgeRecord.declared_of_problems flawless among listed

/-- Play never states what cannot be stated. In every state that the rules of an accepted knowledge base lead to,
each action that can be taken is taken without an error, and each fact can be stated, if the results of all rules
fit the signatures. -/
theorem play_sound {s t : State} (accepted : ofRecord record = .ok kb)
    (fits : ∀ rule ∈ kb.rules, ∀ pattern ∈ rule.after, pattern.Fits kb) (built : s.Built) (based : s.kb = kb)
    (reach : s.Reaches kb.rules t) :
    (∀ action ∈ t.actions kb.rules Binding.fixed, ∃ u, t.apply action = .ok (some u)) ∧
      ∀ fact ∈ t.facts, kb.checkFact fact = .ok () := by
  have kept : t.Built := reach.built built
  have same : t.kb = kb := reach.kb.trans based
  refine ⟨fun action listed => ?_, fun fact member => same ▸ kept.checked member⟩
  obtain ⟨rule, member, binding, admits, instantiated⟩ := (State.mem_actions_iff kept.indexed).mp listed
  have typed : rule.Typed kb := ⟨fun p => contains_of_ofRecord accepted member, fits rule member⟩
  exact admits.exists_apply kept t.kb.types.transitive (same ▸ typed) instantiated

theorem ofRecord_core : ofRecord Core.declarations = .ok Core.knowledge := by
  have flawless : Core.declarations.problems = [] := by decide +kernel
  exact ofRecord_eq_ok_iff.mpr ⟨flawless, Core.types, rfl, rfl⟩

theorem play_sound_kitchen : ofRecord Core.declarations = .ok Core.knowledge ∧
    (∀ rule ∈ Core.knowledge.rules, ∀ pattern ∈ rule.after, pattern.Fits Core.knowledge) ∧
    State.kitchen.Built ∧ State.kitchen.kb = Core.knowledge ∧
    ∃ t, State.kitchen.Reaches Core.knowledge.rules t ∧ ⟨"in", [⟨"carrot", "f"⟩, ⟨"I", "I"⟩]⟩ ∈ t.facts ∧
      (∀ action ∈ t.actions Core.knowledge.rules Binding.fixed, ∃ u, t.apply action = .ok (some u)) ∧
      ∀ fact ∈ t.facts, Core.knowledge.checkFact fact = .ok () := by
  have fits : ∀ rule ∈ Core.knowledge.rules, ∀ pattern ∈ rule.after, pattern.Fits Core.knowledge :=
    fun rule member => (Core.rules_typed rule member).fits
  have taken : ∃ action ∈ State.kitchen.actions Core.knowledge.rules Binding.fixed,
      State.kitchen.applicable action = true ∧
      (∀ fact ∈ action.added.toList, (State.kitchen.kb.factFault fact).isNone = true) ∧
      ⟨"in", [⟨"carrot", "f"⟩, ⟨"I", "I"⟩]⟩ ∈ action.after.toList := by
    decide +kernel
  obtain ⟨action, listed, applicable, faultless, held⟩ := taken
  have applied := State.apply_of_faultless applicable faultless
  have reach := State.Reaches.next .start listed applied
  refine ⟨ofRecord_core, fits, State.kitchen_built, rfl, _, reach, ?_,
    play_sound ofRecord_core fits State.kitchen_built rfl reach⟩
  exact (State.mem_apply applied).mpr (.inl (Std.ExtTreeSet.mem_toList.mp held))

end KnowledgeBase

end Adventure
