import Adventure.Proofs.State.Built

namespace Adventure.State

/-- What can be asked of a state. -/
inductive Call where
  | addFact (fact : Fact)
  | addFacts (facts : List Fact)
  | removeFact (fact : Fact)
  | removeFacts (facts : List Fact)
  | apply (action : Action)

/-- The state after a call. One that is refused leaves it as it was. -/
def perform (s : State) : Call → State
  | .addFact fact => (s.addFact fact).toOption.getD s
  | .addFacts facts => (s.addFacts facts).toOption.getD s
  | .removeFact fact => s.erase fact
  | .removeFacts facts => s.eraseAll facts
  | .apply action => ((s.apply action).toOption.bind id).getD s

/-- What must hold for a call. -/
def Call.needed : Call → List Fact
  | .apply action => action.before.toList
  | _ => []

/-- What a call takes away, unless it states it. -/
def Call.dropped : Call → List Fact
  | .addFact _ | .addFacts _ => []
  | .removeFact fact => [fact]
  | .removeFacts facts => facts
  | .apply action => action.before.toList

def Call.stated : Call → List Fact
  | .addFact fact => [fact]
  | .addFacts facts => facts
  | .removeFact _ | .removeFacts _ => []
  | .apply action => action.after.toList

/-- A state follows a call if all it needs holds and all it states can be stated. -/
def Follows (s : State) (call : Call) : Prop :=
  (∀ fact ∈ call.needed, fact ∈ s.facts) ∧ ∀ fact ∈ call.stated, s.kb.checkFact fact = .ok ()

/-- The state that calls lead to from the one without facts. -/
def performed (kb : KnowledgeBase) (calls : List Call) : State := calls.foldl perform (empty kb)

/-- A call that changes a state adds facts that can be stated, removes facts, or takes an action. -/
theorem perform_cases (s : State) (call : Call) : s.perform call = s ∨
    (∃ facts, s.addFacts facts = .ok (s.perform call)) ∨ (∃ facts, s.eraseAll facts = s.perform call) ∨
    ∃ action, s.apply action = .ok (some (s.perform call)) := by
  have added (facts : List Fact) : (s.addFacts facts).toOption.getD s = s ∨
      s.addFacts facts = .ok ((s.addFacts facts).toOption.getD s) := by
    cases s.addFacts facts with
    | error => exact .inl rfl
    | ok => exact .inr rfl
  cases call with
  | addFact fact => exact (added [fact]).imp_right fun run => .inl ⟨[fact], run⟩
  | addFacts facts => exact (added facts).imp_right fun run => .inl ⟨facts, run⟩
  | removeFact fact => exact .inr (.inr (.inl ⟨[fact], rfl⟩))
  | removeFacts facts => exact .inr (.inr (.inl ⟨facts, rfl⟩))
  | apply action =>
    rw [perform]
    cases run : s.apply action with
    | error => exact .inl rfl
    | ok result =>
      cases result with
      | none => exact .inl rfl
      | some t => exact .inr (.inr (.inr ⟨action, run⟩))

theorem Built.perform {s : State} (built : s.Built) (call : Call) :
    (s.perform call).Built ∧ (s.perform call).kb = s.kb := by
  rcases s.perform_cases call with same | ⟨facts, run⟩ | ⟨facts, rest⟩ | ⟨action, run⟩
  · rw [same]
    exact ⟨built, rfl⟩
  · refine ⟨.addFacts built run, ?_⟩
    rw [← (addFacts_eq_ok_iff.mp run).2, insertAll_kb]
  · rw [← rest]
    exact ⟨.eraseAll facts built, eraseAll_kb s facts⟩
  · exact ⟨.apply built run, apply_kb run⟩

theorem performed_append (kb : KnowledgeBase) (calls : List Call) (call : Call) :
    performed kb (calls ++ [call]) = (performed kb calls).perform call := by
  rw [performed, List.foldl_append]
  rfl

theorem built_performed (kb : KnowledgeBase) (calls : List Call) :
    (performed kb calls).Built ∧ (performed kb calls).kb = kb := by
  have kept (s : State) (built : s.Built) : (calls.foldl perform s).Built ∧ (calls.foldl perform s).kb = s.kb := by
    induction calls generalizing s with
    | nil => exact ⟨built, rfl⟩
    | cons call calls ih =>
      obtain ⟨step, same⟩ := built.perform call
      obtain ⟨run, last⟩ := ih _ step
      exact ⟨run, last.trans same⟩
  exact kept _ (.empty kb)

theorem perform_apply {s t : State} {action : Action} (run : s.apply action = .ok (some t)) :
    s.perform (.apply action) = t := by
  rw [perform, run]
  rfl

/-- A call that is followed leaves what it states, and what held and is not dropped; no other changes anything. -/
theorem Built.perform_effect {s : State} (built : s.Built) (call : Call) :
    (s.Follows call → ∀ fact, fact ∈ (s.perform call).facts ↔
      fact ∈ call.stated ∨ fact ∈ s.facts ∧ fact ∉ call.dropped) ∧ (¬ s.Follows call → s.perform call = s) := by
  have added (facts : List Fact) : ((∀ fact ∈ facts, s.kb.checkFact fact = .ok ()) →
      ∀ fact, fact ∈ ((s.addFacts facts).toOption.getD s).facts ↔ fact ∈ facts ∨ fact ∈ s.facts) ∧
      ((¬ ∀ fact ∈ facts, s.kb.checkFact fact = .ok ()) → (s.addFacts facts).toOption.getD s = s) := by
    refine ⟨fun stated fact => ?_, fun unstated => ?_⟩
    · rw [addFacts_eq_ok_iff.mpr ⟨stated, rfl⟩]
      exact mem_insertAll
    · cases run : s.addFacts facts with
      | error => rfl
      | ok t => exact absurd (addFacts_eq_ok_iff.mp run).1 unstated
  cases call with
  | addFact fact => simpa [Follows, Call.needed, Call.stated, Call.dropped, State.perform, addFact] using added [fact]
  | addFacts facts => simpa [Follows, Call.needed, Call.stated, Call.dropped, State.perform] using added facts
  | removeFact fact => simp [Follows, Call.needed, Call.stated, Call.dropped, State.perform, mem_erase]
  | removeFacts facts => simp [Follows, Call.needed, Call.stated, Call.dropped, State.perform, mem_eraseAll]
  | apply action =>
    refine ⟨fun follows fact => ?_, fun refused => ?_⟩
    · have stated : ∀ fact ∈ action.added, s.kb.checkFact fact = .ok () := fun fact added =>
        follows.2 fact (Std.ExtTreeSet.mem_toList.mpr (Action.mem_added.mp added).1)
      have needed : s.applicable action = true :=
        applicable_iff.mpr fun fact needed => follows.1 fact (Std.ExtTreeSet.mem_toList.mpr needed)
      have run := apply_eq_some_iff.mpr ⟨needed, stated, rfl⟩
      rw [perform_apply run]
      simpa [Call.stated, Call.dropped] using mem_apply run
    · rw [State.perform]
      cases run : s.apply action with
      | error => rfl
      | ok result =>
        cases result with
        | none => rfl
        | some t =>
          refine absurd ⟨fun fact needed => ?_, fun fact stated => ?_⟩ refused
          · exact applicable_iff.mp (apply_eq_some_iff.mp run).1 fact (Std.ExtTreeSet.mem_toList.mp needed)
          · have after := (mem_apply run).mpr (.inl (Std.ExtTreeSet.mem_toList.mp stated))
            exact apply_kb run ▸ (built.apply run).checked after

/-- An index has exactly the keys that belong to some fact, each with exactly the facts it belongs to, and no key is
left without facts. -/
structure Tells {κ : Type} [Ord κ] [Std.TransOrd κ] (index : SortedMap κ FactSet) (facts : FactSet)
    (belongs : Fact → κ → Prop) : Prop where
  keys : ∀ key, key ∈ index ↔ ∃ fact ∈ facts, belongs fact key
  entries : ∀ key found, index[key]? = some found → ∀ fact, fact ∈ found ↔ fact ∈ facts ∧ belongs fact key
  occupied : ∀ (key : κ) found, index[key]? = some found → ¬ found.isEmpty = true

theorem Shows.tells {κ : Type} [Ord κ] [Std.TransOrd κ] {index : SortedMap κ FactSet} {facts : FactSet}
    {belongs : Fact → κ → Prop} {test : κ → Fact → Bool} (shows : Shows index fun key => facts.filter (test key))
    (agrees : ∀ key fact, test key fact = true ↔ belongs fact key) : Tells index facts belongs := by
  have member (key : κ) (fact : Fact) : fact ∈ facts.filter (test key) ↔ fact ∈ facts ∧ belongs fact key := by
    simp [agrees]
  have found {key : κ} {found : FactSet} (here : index[key]? = some found) :
      found = facts.filter (test key) ∧ ∃ fact, fact ∈ facts.filter (test key) :=
    shown_eq_some_iff.mp ((shows key).symm.trans here)
  refine ⟨fun key => ?_, fun key set here fact => ?_, fun key set here empty => ?_⟩
  · simp only [Std.ExtTreeMap.mem_iff_isSome_getElem?, Option.isSome_iff_exists, shows key, shown_eq_some_iff,
      exists_eq_left, member]
  · rw [(found here).1, member]
  · obtain ⟨rfl, fact, present⟩ := found here
    rw [Std.ExtTreeSet.isEmpty_iff.mp empty] at present
    exact Std.ExtTreeSet.not_mem_empty present

/-- The indices of a state never part from its facts, whatever calls led to it. So a predicate gives exactly its facts,
and the entities are exactly those that facts mention. Which facts hold is settled by the calls alone: each is
followed to the letter or refused. -/
theorem indices_follow_calls (kb : KnowledgeBase) (calls : List Call) :
    Tells (performed kb calls).bySignature (performed kb calls).facts (fun fact signature => fact.signature = signature) ∧
    Tells (performed kb calls).byEntity (performed kb calls).facts (fun fact entity => entity ∈ fact.arguments) ∧
    (∀ fact ∈ (performed kb calls).facts, kb.checkFact fact = .ok ()) ∧
    (∀ predicate, ((performed kb calls).factsNamed predicate).Nodup ∧ ∀ fact,
      fact ∈ (performed kb calls).factsNamed predicate ↔
        fact ∈ (performed kb calls).facts ∧ fact.predicate = predicate) ∧
    ((performed kb calls).entities.Nodup ∧ ∀ entity,
      entity ∈ (performed kb calls).entities ↔ ∃ fact ∈ (performed kb calls).facts, entity ∈ fact.arguments) ∧
    ∀ call, ((performed kb calls).Follows call → ∀ fact, fact ∈ (performed kb (calls ++ [call])).facts ↔
        fact ∈ call.stated ∨ fact ∈ (performed kb calls).facts ∧ fact ∉ call.dropped) ∧
      (¬ (performed kb calls).Follows call → performed kb (calls ++ [call]) = performed kb calls) := by
  obtain ⟨built, same⟩ := built_performed kb calls
  have indexed := built.indexed
  refine ⟨indexed.signatures.tells ?_, indexed.entities.tells ?_, fun fact member => ?_, fun predicate => ?_, ?_,
    fun call => ?_⟩
  · exact fun signature fact => beq_iff_eq
  · exact fun entity fact => List.contains_iff_mem
  · have checked := built.checked member
    rwa [same] at checked
  · exact ⟨indexed.nodup_factsNamed predicate, fun fact => indexed.mem_factsNamed⟩
  · exact ⟨State.nodup_entities _, fun entity => indexed.mem_entities⟩
  · rw [performed_append]
    exact built.perform_effect call

end Adventure.State
