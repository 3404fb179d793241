import Adventure.Proofs.Matching.Enumeration

namespace Adventure

/-- Facts cannot all be stated, and the first that cannot gives the error. -/
def KnowledgeBase.Refuses (kb : KnowledgeBase) (facts : List Fact) (error : Error) : Prop :=
  ∃ earlier fact later, facts = earlier ++ fact :: later ∧ (∀ other ∈ earlier, kb.checkFact other = .ok ()) ∧
    kb.checkFact fact = .error error

theorem KnowledgeBase.exists_refuses {kb : KnowledgeBase} {facts : List Fact}
    (unstated : ∃ fact ∈ facts, kb.checkFact fact ≠ .ok ()) : ∃ error, kb.Refuses facts error := by
  cases checks : facts.forM kb.checkFact with
  | error error => exact ⟨error, forM_eq_error_iff.mp checks⟩
  | ok =>
    obtain ⟨fact, member, wrong⟩ := unstated
    exact absurd (forM_eq_ok_iff.mp checks fact member) wrong

theorem Action.added_eq (action : Action) : action.added = action.after \ action.before := by
  ext fact
  rw [mem_added, Std.ExtTreeSet.mem_diff_iff]

namespace State

variable {s t : State} {action : Action} {facts : List Fact} {error : Error}

/-- One thing that is done to a state in place. -/
inductive Edit where
  | check (fact : Fact)
  | erase (fact : Fact)
  | insert (fact : Fact)

/-- What edits made in place come to, and the state that they leave. A check that fails stops them; what was changed
by then stays changed. -/
def edit (s : State) : List Edit → Except Error Unit × State
  | [] => (.ok (), s)
  | .check fact :: rest =>
    match s.kb.checkFact fact with
    | .ok () => s.edit rest
    | .error error => (.error error, s)
  | .erase fact :: rest => (s.erase fact).edit rest
  | .insert fact :: rest => (s.insert fact).edit rest

/-- The edits by which some facts go and others come: all that come are checked before anything is changed. -/
def exchange (gone new : List Fact) : List Edit := new.map .check ++ (gone.map .erase ++ new.map .insert)

/-- An action taken in place: whether it was taken, and the state that is left. -/
def applyInPlace (s : State) (action : Action) : Except Error Bool × State :=
  if s.applicable action then
    let (outcome, left) := s.edit (exchange action.removed.toList action.added.toList)
    (outcome.map fun _ => true, left)
  else (.ok false, s)

def addInPlace (s : State) (facts : List Fact) : Except Error Unit × State := s.edit (exchange [] facts)

theorem edit_check_of_stated (stated : ∀ fact ∈ facts, s.kb.checkFact fact = .ok ()) (rest : List Edit) :
    s.edit (facts.map .check ++ rest) = s.edit rest := by
  induction facts with
  | nil => rfl
  | cons fact facts ih =>
    obtain ⟨here, others⟩ := List.forall_mem_cons.mp stated
    rw [List.map_cons, List.cons_append, edit, here]
    exact ih others

theorem edit_check_of_refused (refused : s.kb.Refuses facts error) (rest : List Edit) :
    s.edit (facts.map .check ++ rest) = (.error error, s) := by
  obtain ⟨earlier, fact, later, rfl, before, here⟩ := refused
  rw [List.map_append, List.append_assoc, edit_check_of_stated before, List.map_cons, List.cons_append, edit, here]

theorem edit_erase (s : State) (facts : List Fact) (rest : List Edit) :
    s.edit (facts.map .erase ++ rest) = (s.eraseAll facts).edit rest := by
  induction facts generalizing s with
  | nil => rfl
  | cons fact facts ih => exact ih (s.erase fact)

theorem edit_insert (s : State) (facts : List Fact) : s.edit (facts.map .insert) = (.ok (), s.insertAll facts) := by
  induction facts generalizing s with
  | nil => rfl
  | cons fact facts ih => exact ih (s.insert fact)

theorem edit_exchange (stated : ∀ fact ∈ facts, s.kb.checkFact fact = .ok ()) (gone : List Fact) :
    s.edit (exchange gone facts) = (.ok (), (s.eraseAll gone).insertAll facts) := by
  rw [exchange, edit_check_of_stated stated, edit_erase, edit_insert]

/-- The state is over a knowledge base and holds exactly some facts, and its indices tell them. -/
structure Holds (s : State) (kb : KnowledgeBase) (facts : FactSet) : Prop where
  based : s.kb = kb
  exactly : s.facts = facts
  indexed : s.Indexed

/-- Where all that an action needs holds, it makes no difference whether facts that it keeps are taken away and put back
or left alone. -/
theorem exchanged_eq (needed : ∀ fact ∈ action.before, fact ∈ s.facts) :
    (s.facts \ action.before) ∪ action.after = (s.facts \ action.removed) ∪ action.added := by
  ext fact
  have needed := needed fact
  simp only [Std.ExtTreeSet.mem_union_iff, Std.ExtTreeSet.mem_diff_iff, Action.mem_added, Action.mem_removed]
  grind

theorem Holds.of_apply (built : s.Built) (run : s.apply action = .ok (some t)) :
    t.Holds s.kb ((s.facts \ action.before) ∪ action.after) where
  based := apply_kb run
  exactly := by
    ext fact
    rw [mem_apply run, Std.ExtTreeSet.mem_union_iff, Std.ExtTreeSet.mem_diff_iff, or_comm]
  indexed := built.indexed.apply run

theorem Holds.of_insertAll (built : s.Built) (facts : List Fact) :
    (s.insertAll facts).Holds s.kb (s.facts ∪ SortedSet.of facts) where
  based := insertAll_kb s facts
  exactly := by
    ext fact
    rw [mem_insertAll, Std.ExtTreeSet.mem_union_iff, SortedSet.mem_of, or_comm]
  indexed := built.indexed.insertAll facts

theorem apply_eq_none_iff : s.apply action = .ok none ↔ ¬ s.applicable action = true := by
  refine ⟨fun untaken applicable => ?_, fun inapplicable => if_neg inapplicable⟩
  rw [apply, if_pos applicable, bind_eq_ok_iff] at untaken
  obtain ⟨-, -, untaken⟩ := untaken
  cases untaken

theorem apply_of_refused (needed : ∀ fact ∈ action.before, fact ∈ s.facts)
    (refused : s.kb.Refuses action.added.toList error) :
    s.apply action = .error error ∧ s.applyInPlace action = (.error error, s) := by
  have applicable : s.applicable action = true := applicable_iff.mpr needed
  constructor
  · rw [apply, if_pos applicable, bind_eq_error_iff]
    exact .inl (forM_eq_error_iff.mpr refused)
  · rw [applyInPlace, if_pos applicable, exchange, edit_check_of_refused refused]
    rfl

theorem apply_of_stated (needed : ∀ fact ∈ action.before, fact ∈ s.facts)
    (stated : ∀ fact ∈ action.added, s.kb.checkFact fact = .ok ()) :
    ∃ t, s.apply action = .ok (some t) ∧ s.applyInPlace action = (.ok true, t) := by
  have applicable : s.applicable action = true := applicable_iff.mpr needed
  refine ⟨_, apply_eq_some_iff.mpr ⟨applicable, stated, rfl⟩, ?_⟩
  have listed : ∀ fact ∈ action.added.toList, s.kb.checkFact fact = .ok () := fun fact member =>
    stated fact (Std.ExtTreeSet.mem_toList.mp member)
  rw [applyInPlace, if_pos applicable, edit_exchange listed]
  rfl

/-- An action whose needs are not met is not taken. One that would add what cannot be stated is refused with an error,
and so are facts of which one cannot be stated. None of these leaves a trace in a state, even where it is changed in
place. Any other action is taken and leaves exactly what held without what it needs, and what it results in. -/
theorem all_or_nothing (built : s.Built) (action : Action) (facts : List Fact) :
    ((∃ fact ∈ action.before, fact ∉ s.facts) →
      s.apply action = .ok none ∧ s.applyInPlace action = (.ok false, s)) ∧
    ((∀ fact ∈ action.before, fact ∈ s.facts) →
      ((∃ fact ∈ action.after \ action.before, s.kb.checkFact fact ≠ .ok ()) →
        ∃ error, s.kb.Refuses (action.after \ action.before).toList error ∧
          s.apply action = .error error ∧ s.applyInPlace action = (.error error, s)) ∧
      ((∀ fact ∈ action.after \ action.before, s.kb.checkFact fact = .ok ()) →
        ∃ t, s.apply action = .ok (some t) ∧ s.applyInPlace action = (.ok true, t) ∧
          t.Holds s.kb ((s.facts \ action.before) ∪ action.after) ∧
          t.Holds s.kb ((s.facts \ action.removed) ∪ action.added))) ∧
    ((∃ fact ∈ facts, s.kb.checkFact fact ≠ .ok ()) →
      ∃ error, s.kb.Refuses facts error ∧ s.addFacts facts = .error error ∧ s.addInPlace facts = (.error error, s)) ∧
    ((∀ fact ∈ facts, s.kb.checkFact fact = .ok ()) →
      ∃ t, s.addFacts facts = .ok t ∧ s.addInPlace facts = (.ok (), t) ∧
        t.Holds s.kb (s.facts ∪ SortedSet.of facts)) := by
  refine ⟨?_, fun needed => ?_, fun unstated => ?_, fun stated => ?_⟩
  · rintro ⟨fact, needed, absent⟩
    have inapplicable : ¬ s.applicable action = true := fun applicable =>
      absent (applicable_iff.mp applicable fact needed)
    exact ⟨apply_eq_none_iff.mpr inapplicable, if_neg inapplicable⟩
  · rw [← action.added_eq]
    refine ⟨fun unstated => ?_, fun stated => ?_⟩
    · simp only [← Std.ExtTreeSet.mem_toList (t := action.added)] at unstated
      obtain ⟨error, refused⟩ := KnowledgeBase.exists_refuses unstated
      exact ⟨error, refused, apply_of_refused needed refused⟩
    · obtain ⟨t, run, inPlace⟩ := apply_of_stated needed stated
      have holds := Holds.of_apply built run
      exact ⟨t, run, inPlace, holds, exchanged_eq needed ▸ holds⟩
  · obtain ⟨error, refused⟩ := KnowledgeBase.exists_refuses unstated
    refine ⟨error, refused, bind_eq_error_iff.mpr (.inl (forM_eq_error_iff.mpr refused)), ?_⟩
    rw [addInPlace, exchange, edit_check_of_refused refused]
  · exact ⟨_, addFacts_eq_ok_iff.mpr ⟨stated, rfl⟩, edit_exchange stated [], .of_insertAll built facts⟩

/-- To burn the carrot over the closed chest. That something is burnt cannot be stated. -/
def burning : Action :=
  .of "burn" [⟨"at", [⟨"carrot", "f"⟩, ⟨"kitchen", "r"⟩]⟩]
    [⟨"burnt", [⟨"carrot", "f"⟩]⟩, ⟨"closed", [⟨"chest", "c"⟩]⟩] none

def taking : Action :=
  .of "take" [⟨"at", [⟨"P", "P"⟩, ⟨"kitchen", "r"⟩]⟩, ⟨"at", [⟨"carrot", "f"⟩, ⟨"kitchen", "r"⟩]⟩]
    [⟨"at", [⟨"P", "P"⟩, ⟨"kitchen", "r"⟩]⟩, ⟨"in", [⟨"carrot", "f"⟩, ⟨"I", "I"⟩]⟩] none

theorem taking_stated : ∀ fact ∈ taking.added, Core.knowledge.checkFact fact = .ok () := by
  intro fact added
  obtain ⟨result, new⟩ := Action.mem_added.mp added
  rcases List.mem_pair.mp (SortedSet.mem_of.mp result) with rfl | rfl
  · exact absurd (by decide) new
  · rfl

theorem all_or_nothing_kitchen : kitchen.Built ∧
    (∃ error, kitchen.apply burning = .error error ∧ kitchen.applyInPlace burning = (.error error, kitchen)) ∧
    (∃ error, kitchen.addFacts [⟨"closed", [⟨"chest", "c"⟩]⟩, ⟨"burnt", [⟨"carrot", "f"⟩]⟩] = .error error ∧
      kitchen.addInPlace [⟨"closed", [⟨"chest", "c"⟩]⟩, ⟨"burnt", [⟨"carrot", "f"⟩]⟩] = (.error error, kitchen)) ∧
    ∃ t, kitchen.apply taking = .ok (some t) ∧ kitchen.applyInPlace taking = (.ok true, t) ∧
      t.facts = (kitchen.facts \ taking.before) ∪ taking.after ∧ t.apply taking = .ok none ∧
      t.applyInPlace taking = (.ok false, t) := by
  have unstated : Core.knowledge.checkFact ⟨"burnt", [⟨"carrot", "f"⟩]⟩ ≠ .ok () := by
    rw [ne_eq, KnowledgeBase.checkFact_eq_ok_iff_faultless]
    decide
  have burnt : ⟨"burnt", [⟨"carrot", "f"⟩]⟩ ∈ burning.after \ burning.before := by decide
  obtain ⟨error, -, refused⟩ := ((all_or_nothing kitchen_built burning []).2.1
    (applicable_iff.mp (by decide))).1 ⟨_, burnt, unstated⟩
  obtain ⟨wrong, -, unchanged⟩ := (all_or_nothing kitchen_built burning
    [⟨"closed", [⟨"chest", "c"⟩]⟩, ⟨"burnt", [⟨"carrot", "f"⟩]⟩]).2.2.1 ⟨_, by simp, unstated⟩
  obtain ⟨t, run, inPlace, holds, -⟩ := ((all_or_nothing kitchen_built taking []).2.1
    (applicable_iff.mp (by decide))).2 (taking.added_eq ▸ taking_stated)
  have gone : ⟨"at", [⟨"carrot", "f"⟩, ⟨"kitchen", "r"⟩]⟩ ∉ t.facts := by
    rw [holds.exactly]
    decide
  have again := (all_or_nothing (.apply kitchen_built run) taking []).1 ⟨_, by decide, gone⟩
  exact ⟨kitchen_built, ⟨error, refused⟩, ⟨wrong, unchanged⟩, t, run, inPlace, holds.exactly, again⟩

end State

end Adventure
