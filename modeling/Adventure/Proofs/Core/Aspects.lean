import Adventure.Proofs.Matching.Enumeration

namespace Adventure

/-- What a fact can settle about its first argument: where it is, or whether it can be opened. -/
inductive Aspect where
  | place
  | condition
deriving DecidableEq

namespace Aspect

/-- The aspect that a predicate of the core world settles. What has been eaten is in no other place. -/
def ofPredicate (predicate : String) : Option Aspect :=
  if ["at", "in", "on", "eaten"].contains predicate then some .place
  else if ["open", "closed", "locked"].contains predicate then some .condition
  else none

/-- The aspect that a predicate settles, with the one it settles it for. -/
def settled {α : Type} (predicate : String) : List α → Option (Aspect × α)
  | [] => none
  | first :: _ => (ofPredicate predicate).map (·, first)

end Aspect

def Fact.aspect (fact : Fact) : Option (Aspect × Entity) := Aspect.settled fact.predicate fact.arguments

def Pattern.aspect (pattern : Pattern) : Option (Aspect × Placeholder) :=
  Aspect.settled pattern.predicate pattern.parameters

theorem Fact.aspect_eq_some_iff {fact : Fact} {aspect : Aspect} {e : Entity} :
    fact.aspect = some (aspect, e) ↔
      Aspect.ofPredicate fact.predicate = some aspect ∧ ∃ rest, fact.arguments = e :: rest := by
  obtain ⟨predicate, arguments⟩ := fact
  cases arguments with
  | nil => simp [Fact.aspect, Aspect.settled]
  | cons => cases known : Aspect.ofPredicate predicate <;> simp [Fact.aspect, Aspect.settled, known]

theorem Pattern.aspect_ground {pattern : Pattern} {binding : Binding} {fact : Fact}
    (ground : pattern.ground binding = some fact) :
    pattern.aspect.map (fun (aspect, p) => (aspect, binding[p]?)) =
      fact.aspect.map fun (aspect, e) => (aspect, some e) := by
  obtain ⟨predicate, parameters⟩ := pattern
  obtain ⟨named, arguments⟩ := fact
  obtain ⟨rfl, values⟩ := Pattern.ground_eq_some_iff.mp ground
  cases parameters with
  | nil =>
    cases List.map_eq_nil_iff.mp values.symm
    rfl
  | cons p ps =>
    obtain ⟨e, es, rfl, here, _⟩ := List.map_eq_cons_iff.mp values.symm
    simp only [Pattern.aspect, Fact.aspect, Aspect.settled, Option.map_map, Function.comp_def, here]

theorem Pattern.aspect_of_fact {pattern : Pattern} {binding : Binding} {fact : Fact} {aspect : Aspect} {e : Entity}
    (ground : pattern.ground binding = some fact) (settled : fact.aspect = some (aspect, e)) :
    ∃ p, pattern.aspect = some (aspect, p) ∧ binding[p]? = some e := by
  have same := Pattern.aspect_ground ground
  rw [settled, Option.map_some, Option.map_eq_some_iff] at same
  obtain ⟨⟨_, p⟩, aspectP, values⟩ := same
  obtain ⟨rfl, here⟩ := Prod.mk.inj values
  exact ⟨p, aspectP, here⟩

theorem Pattern.aspect_of_pattern {pattern : Pattern} {binding : Binding} {fact : Fact} {aspect : Aspect}
    {p : Placeholder} (ground : pattern.ground binding = some fact) (settled : pattern.aspect = some (aspect, p)) :
    ∃ e, fact.aspect = some (aspect, e) ∧ binding[p]? = some e := by
  have same := (Pattern.aspect_ground ground).symm
  rw [settled, Option.map_some, Option.map_eq_some_iff] at same
  obtain ⟨⟨_, e⟩, aspectF, values⟩ := same
  obtain ⟨rfl, here⟩ := Prod.mk.inj values
  exact ⟨e, aspectF, here.symm⟩

/-- No two placeholders stand for one entity. -/
def Binding.Injective (binding : Binding) : Prop :=
  ∀ (p q : Placeholder) (e : Entity), binding[p]? = some e → binding[q]? = some e → p = q

theorem Binding.fixed_eq_some {p : Placeholder} {e : Entity} (here : Binding.fixed[p]? = some e) :
    p.name = e.name ∧ p.type = e.type := by
  have entry : (p, e) ∈ Binding.fixed.toList := Std.ExtTreeMap.mem_toList_iff_getElem?_eq_some.mpr here
  have entries : ∀ entry ∈ Binding.fixed.toList, entry.1.name = entry.2.name ∧ entry.1.type = entry.2.type := by
    decide
  exact entries (p, e) entry

theorem State.Solves.injective {s : State} {patterns : List Pattern} {binding : Binding}
    (solves : s.Solves patterns ∅ binding) : binding.Injective :=
  fun p q e atP atQ => (solves.extension.apart p Std.ExtTreeMap.not_mem_empty q e atP atQ).symm

/-- The player and the inventory stand for different entities, and all else stands for entities of its own. -/
theorem State.Admits.injective {s : State} {rule : Rule} {binding : Binding}
    (admits : s.Admits Binding.fixed rule binding) : binding.Injective := by
  have listed {p : Placeholder} {e : Entity} (here : binding[p]? = some e) : p ∈ rule.placeholders :=
    (admits.domain p).mp (SortedMap.mem_iff.mpr ⟨e, here⟩)
  have fixed {p : Placeholder} {e : Entity} (here : binding[p]? = some e) (known : p ∈ Binding.fixed) :
      p.name = e.name ∧ p.type = e.type := by
    obtain ⟨f, value⟩ := SortedMap.mem_iff.mp known
    have agreed := admits.agrees p (listed here) f value
    rw [here] at agreed
    cases agreed
    exact Binding.fixed_eq_some value
  intro p q e atP atQ
  by_cases knownP : p ∈ Binding.fixed
  · by_cases knownQ : q ∈ Binding.fixed
    · obtain ⟨nameP, typeP⟩ := fixed atP knownP
      obtain ⟨nameQ, typeQ⟩ := fixed atQ knownQ
      obtain ⟨_, _⟩ := p
      obtain ⟨_, _⟩ := q
      exact Placeholder.mk.injEq .. ▸ ⟨nameP.trans nameQ.symm, typeP.trans typeQ.symm⟩
    · exact admits.apart q (listed atQ) knownQ p e atQ atP
  · exact (admits.apart p (listed atP) knownP q e atP atQ).symm

theorem Binding.Injective.eq_of_values {binding : Binding} (injective : binding.Injective) {ps qs : List Placeholder}
    {es : List Entity} (valuesP : ps.map (binding[·]?) = es.map some) (valuesQ : qs.map (binding[·]?) = es.map some) :
    ps = qs := by
  induction es generalizing ps qs with
  | nil => rw [List.map_eq_nil_iff.mp valuesP, List.map_eq_nil_iff.mp valuesQ]
  | cons e es ih =>
    obtain ⟨p, ps, rfl, atP, restP⟩ := List.map_eq_cons_iff.mp valuesP
    obtain ⟨q, qs, rfl, atQ, restQ⟩ := List.map_eq_cons_iff.mp valuesQ
    rw [injective p q e atP atQ, ih restP restQ]

theorem Binding.Injective.eq_of_ground {binding : Binding} (injective : binding.Injective) {p q : Pattern}
    {fact : Fact} (first : p.ground binding = some fact) (second : q.ground binding = some fact) : p = q := by
  obtain ⟨sameP, valuesP⟩ := Pattern.ground_eq_some_iff.mp first
  obtain ⟨sameQ, valuesQ⟩ := Pattern.ground_eq_some_iff.mp second
  obtain ⟨_, _⟩ := p
  obtain ⟨_, _⟩ := q
  exact Pattern.mk.injEq .. ▸ ⟨sameP.trans sameQ.symm, injective.eq_of_values valuesP valuesQ⟩

/-- Two patterns settle the same aspect for the same placeholder if their facts do so for the same entity. -/
theorem Binding.Injective.aspect_eq {binding : Binding} (injective : binding.Injective) {p q : Pattern} {f g : Fact}
    {subject : Aspect × Entity} (first : p.ground binding = some f) (second : q.ground binding = some g)
    (aspectF : f.aspect = some subject) (aspectG : g.aspect = some subject) :
    p.aspect.isSome = true ∧ p.aspect = q.aspect := by
  obtain ⟨aspect, e⟩ := subject
  obtain ⟨x, aspectP, atX⟩ := Pattern.aspect_of_fact first aspectF
  obtain ⟨y, aspectQ, atY⟩ := Pattern.aspect_of_fact second aspectG
  cases injective x y e atX atY
  exact ⟨aspectP ▸ rfl, aspectP.trans aspectQ.symm⟩

/-- A rule whose results settle only what its conditions settled before, and each aspect once. -/
structure Rule.Replaces (rule : Rule) : Prop where
  before : ∀ p ∈ rule.after, p.aspect.isSome → ∃ q ∈ rule.before, q.aspect = p.aspect
  once : ∀ p ∈ rule.after, ∀ q ∈ rule.after, p.aspect.isSome → p.aspect = q.aspect → p = q

/-- A rule that makes no fact of a predicate true. -/
def Rule.NeverAdds (rule : Rule) (predicate : String) : Prop :=
  ∀ p ∈ rule.after, p.predicate = predicate → p ∈ rule.before

/-- A rule that makes no fact of a predicate false. -/
def Rule.NeverRemoves (rule : Rule) (predicate : String) : Prop :=
  ∀ p ∈ rule.before, p.predicate = predicate → p ∈ rule.after

/-- A constraint that keeps apart two facts about the same aspect. -/
def Constraint.Separates (constraint : Constraint) : Prop :=
  ∃ p ∈ constraint.patterns, ∃ q ∈ constraint.patterns, p ≠ q ∧ p.aspect.isSome ∧ p.aspect = q.aspect

/-- Facts of one predicate are all that a constraint speaks of. -/
def Constraint.About (constraint : Constraint) (predicate : String) : Prop :=
  ∀ p ∈ constraint.patterns, p.predicate = predicate

namespace State

/-- No aspect of an entity is settled by two facts. -/
def Consistent (s : State) : Prop :=
  ∀ f ∈ s.facts, ∀ g ∈ s.facts, ∀ subject, f.aspect = some subject → g.aspect = some subject → f = g

variable {s t : State} {rules : List Rule} {action : Action}

/-- An action replaces what settles an aspect: the old fact is one of its conditions and goes. -/
theorem Consistent.apply (consistent : s.Consistent) (indexed : s.Indexed) (replaces : ∀ rule ∈ rules, rule.Replaces)
    (listed : action ∈ s.actions rules Binding.fixed) (run : s.apply action = .ok (some t)) : t.Consistent := by
  obtain ⟨rule, member, binding, admits, instantiated⟩ := (mem_actions_iff indexed).mp listed
  have injective := admits.injective
  -- A fact of the result and an old fact about the same cannot both hold, as the old one is a condition.
  have clash {f g : Fact} {subject : Aspect × Entity} (new : f ∈ action.after) (old : g ∈ s.facts)
      (aspectF : f.aspect = some subject) (aspectG : g.aspect = some subject) : g ∈ action.before := by
    obtain ⟨p, result, groundF⟩ := (Rule.mem_after instantiated).mp new
    obtain ⟨x, aspectP, atX⟩ := Pattern.aspect_of_fact groundF aspectF
    obtain ⟨q, condition, aspectQ⟩ := (replaces rule member).before p result (aspectP ▸ rfl)
    obtain ⟨h, holds, groundH⟩ := admits.holds q condition
    obtain ⟨e, aspectH, here⟩ := Pattern.aspect_of_pattern groundH (aspectQ.trans aspectP)
    cases here.symm.trans atX
    -- The condition and the old fact settle the same, so they are one fact.
    cases consistent h holds g old subject aspectH aspectG
    exact (Rule.mem_before instantiated).mpr ⟨q, condition, groundH⟩
  intro f inF g inG subject aspectF aspectG
  rcases (mem_apply run).mp inF with newF | ⟨oldF, keptF⟩ <;> rcases (mem_apply run).mp inG with newG | ⟨oldG, keptG⟩
  · obtain ⟨p, resultP, groundF⟩ := (Rule.mem_after instantiated).mp newF
    obtain ⟨q, resultQ, groundG⟩ := (Rule.mem_after instantiated).mp newG
    obtain ⟨settled, same⟩ := injective.aspect_eq groundF groundG aspectF aspectG
    cases (replaces rule member).once p resultP q resultQ settled same
    exact Option.some.inj (groundF.symm.trans groundG)
  · exact absurd (clash newF oldG aspectF aspectG) keptG
  · exact absurd (clash newG oldF aspectG aspectF) keptF
  · exact consistent f oldF g oldG subject aspectF aspectG

theorem mem_of_apply_neverAdds (indexed : s.Indexed) {predicate : String}
    (never : ∀ rule ∈ rules, rule.NeverAdds predicate) (listed : action ∈ s.actions rules Binding.fixed)
    (run : s.apply action = .ok (some t)) {fact : Fact} (named : fact.predicate = predicate)
    (member : fact ∈ t.facts) : fact ∈ s.facts := by
  obtain ⟨rule, here, binding, admits, instantiated⟩ := (mem_actions_iff indexed).mp listed
  rcases (mem_apply run).mp member with new | old
  · obtain ⟨p, result, ground⟩ := (Rule.mem_after instantiated).mp new
    have condition := never rule here p result ((Pattern.ground_eq_some_iff.mp ground).1.trans named)
    obtain ⟨other, holds, same⟩ := admits.holds p condition
    cases ground.symm.trans same
    exact holds
  · exact old.1

theorem mem_apply_of_neverRemoves {rule : Rule} {binding : Binding} {predicate : String}
    (never : rule.NeverRemoves predicate) (instantiated : rule.instantiate binding = .ok action)
    (run : s.apply action = .ok (some t)) {fact : Fact} (named : fact.predicate = predicate)
    (member : fact ∈ s.facts) : fact ∈ t.facts := by
  rw [mem_apply run]
  by_cases needed : fact ∈ action.before
  · obtain ⟨pattern, condition, ground⟩ := (Rule.mem_before instantiated).mp needed
    have result := never pattern condition ((Pattern.ground_eq_some_iff.mp ground).1.trans named)
    exact .inl ((Rule.mem_after instantiated).mpr ⟨pattern, result, ground⟩)
  · exact .inr ⟨member, needed⟩

theorem Consistent.not_violates (consistent : s.Consistent) (indexed : s.Indexed) {constraint : Constraint}
    (separates : constraint.Separates) : ¬ s.violates constraint = true := by
  intro violated
  obtain ⟨binding, solves⟩ := (violates_iff indexed).mp violated
  obtain ⟨p, inP, q, inQ, different, settled, same⟩ := separates
  obtain ⟨f, holdsF, groundF⟩ := solves.holds p inP
  obtain ⟨g, holdsG, groundG⟩ := solves.holds q inQ
  obtain ⟨⟨aspect, x⟩, aspectP⟩ := Option.isSome_iff_exists.mp settled
  obtain ⟨e, aspectF, atX⟩ := Pattern.aspect_of_pattern groundF aspectP
  obtain ⟨_, aspectG, here⟩ := Pattern.aspect_of_pattern groundG (same ▸ aspectP)
  cases here.symm.trans atX
  cases consistent f holdsF g holdsG _ aspectF aspectG
  exact different (solves.injective.eq_of_ground groundF groundG)

theorem violated_eq_none_iff : s.violated = none ↔ ∀ constraint ∈ s.kb.constraints, ¬ s.violates constraint = true := by
  rw [violated, Option.map_eq_none_iff, List.find?_eq_none]

/-- The states that actions of rules lead to. -/
inductive Reaches (rules : List Rule) (s : State) : State → Prop
  | start : Reaches rules s s
  | next {t u : State} {action : Action} : Reaches rules s t → action ∈ t.actions rules Binding.fixed →
      t.apply action = .ok (some u) → Reaches rules s u

theorem Reaches.kb (reach : Reaches rules s t) : t.kb = s.kb := by
  induction reach with
  | start => rfl
  | next _ _ run ih => rw [apply_kb run, ih]

theorem Reaches.built (reach : Reaches rules s t) (built : s.Built) : t.Built := by
  induction reach with
  | start => exact built
  | next _ _ run ih => exact .apply ih run

theorem Reaches.indexed (reach : Reaches rules s t) (indexed : s.Indexed) : t.Indexed := by
  induction reach with
  | start => exact indexed
  | next _ _ run ih => exact ih.apply run

theorem Reaches.consistent (reach : Reaches rules s t) (indexed : s.Indexed)
    (replaces : ∀ rule ∈ rules, rule.Replaces) (consistent : s.Consistent) : t.Consistent := by
  induction reach with
  | start => exact consistent
  | next reach listed run ih => exact ih.apply (reach.indexed indexed) replaces listed run

theorem Reaches.mem_of_neverAdds (reach : Reaches rules s t) (indexed : s.Indexed) {predicate : String}
    (never : ∀ rule ∈ rules, rule.NeverAdds predicate) {fact : Fact} (named : fact.predicate = predicate)
    (member : fact ∈ t.facts) : fact ∈ s.facts := by
  induction reach with
  | start => exact member
  | next reach listed run ih =>
    exact ih (mem_of_apply_neverAdds (reach.indexed indexed) never listed run named member)

/-- What a constraint about facts that no rule adds finds after a run it would have found before. -/
theorem Reaches.violates_of_about (reach : Reaches rules s t) (indexed : s.Indexed) {predicate : String}
    (never : ∀ rule ∈ rules, rule.NeverAdds predicate) {constraint : Constraint}
    (about : constraint.About predicate) (violated : t.violates constraint = true) : s.violates constraint = true := by
  obtain ⟨binding, solves⟩ := (violates_iff (reach.indexed indexed)).mp violated
  refine (violates_iff indexed).mpr ⟨binding, reach.kb ▸ solves.extension, ?_⟩
  intro pattern listed
  obtain ⟨fact, member, ground⟩ := solves.holds pattern listed
  have named : fact.predicate = predicate := (Pattern.ground_eq_some_iff.mp ground).1.symm.trans (about pattern listed)
  exact ⟨fact, reach.mem_of_neverAdds indexed never named member, ground⟩

end State

end Adventure
