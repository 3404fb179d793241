import Adventure.Proofs.Core.Constraints
import Adventure.Proofs.Core.Typing

namespace Adventure

theorem Pattern.aspect_of_value {pattern : Pattern} {binding : Binding} {fact : Fact} {aspect : Aspect}
    {p : Placeholder} {e : Entity} (ground : pattern.ground binding = some fact)
    (settled : pattern.aspect = some (aspect, p)) (here : binding[p]? = some e) : fact.aspect = some (aspect, e) := by
  obtain ⟨f, same, there⟩ := Pattern.aspect_of_pattern ground settled
  cases there.symm.trans here
  exact same

/-- A rule that settles anew what its conditions settled. -/
def Rule.Resettles (rule : Rule) : Prop :=
  ∀ q ∈ rule.before, q.aspect.isSome → ∃ p ∈ rule.after, p.aspect = q.aspect

namespace State

variable {s t : State} {rule : Rule} {binding : Binding} {action : Action}

/-- Some fact settles an aspect of an entity. -/
def Settles (s : State) (subject : Aspect × Entity) : Prop := ∃ fact ∈ s.facts, fact.aspect = some subject

/-- An action settles an aspect of an entity if and only if it was settled before. -/
theorem settles_apply_iff (admits : s.Admits Binding.fixed rule binding)
    (instantiated : rule.instantiate binding = .ok action) (replaces : rule.Replaces) (resettles : rule.Resettles)
    (run : s.apply action = .ok (some t)) {subject : Aspect × Entity} : t.Settles subject ↔ s.Settles subject := by
  obtain ⟨aspect, e⟩ := subject
  constructor
  · rintro ⟨fact, member, settled⟩
    rcases (mem_apply run).mp member with new | ⟨old, -⟩
    · obtain ⟨p, result, ground⟩ := (Rule.mem_after instantiated).mp new
      obtain ⟨x, aspectP, atX⟩ := Pattern.aspect_of_fact ground settled
      obtain ⟨q, condition, aspectQ⟩ := replaces.before p result (aspectP ▸ rfl)
      obtain ⟨before, holds, groundQ⟩ := admits.holds q condition
      exact ⟨before, holds, Pattern.aspect_of_value groundQ (aspectQ.trans aspectP) atX⟩
    · exact ⟨fact, old, settled⟩
  · rintro ⟨fact, holds, settled⟩
    by_cases needed : fact ∈ action.before
    · obtain ⟨q, condition, ground⟩ := (Rule.mem_before instantiated).mp needed
      obtain ⟨x, aspectQ, atX⟩ := Pattern.aspect_of_fact ground settled
      obtain ⟨p, result, aspectP⟩ := resettles q condition (aspectQ ▸ rfl)
      obtain ⟨after, groundP⟩ := Pattern.exists_ground fun y listed => (admits.domain y).mpr
        (Rule.mem_placeholders.mpr ⟨p, List.mem_append_right _ result, listed⟩)
      have left := (Rule.mem_after instantiated).mpr ⟨p, result, groundP⟩
      exact ⟨after, (mem_apply run).mpr (.inl left), Pattern.aspect_of_value groundP (aspectP.trans aspectQ) atX⟩
    · exact ⟨fact, (mem_apply run).mpr (.inr ⟨holds, needed⟩), settled⟩

end State

namespace Core

variable {s t : State} {action : Action} {e : Entity}

theorem rules_resettle : ∀ rule ∈ rules, rule.Resettles := by
  unfold Rule.Resettles
  decide

theorem resultOnly_inventory : ∀ rule ∈ rules, ∀ p ∈ rule.resultOnly, p = inventory := by
  decide

theorem IsA.type_ne_inventory {kind : String} (isA : IsA e kind) (among : kind ∈ ["r", "d", "c"]) : e.type ≠ "I" := by
  have apart : ∀ kind ∈ ["r", "d", "c"], types.descends "I" kind = false := by decide
  intro inventory
  have descends := isA.descends
  rw [inventory, apart kind among] at descends
  cases descends

/-- No entity comes into the world but the inventory. -/
theorem mem_entities_of_apply (indexed : s.Indexed) (listed : action ∈ s.actions rules Binding.fixed)
    (run : s.apply action = .ok (some t)) (known : e ∈ t.entities) : e ∈ s.entities ∨ e = ⟨"I", "I"⟩ := by
  obtain ⟨rule, member, binding, admits, instantiated⟩ := (State.mem_actions_iff indexed).mp listed
  obtain ⟨fact, holds, argument⟩ := (indexed.apply run).mem_entities.mp known
  rcases (State.mem_apply run).mp holds with new | ⟨old, -⟩
  · obtain ⟨pattern, -, ground⟩ := (Rule.mem_after instantiated).mp new
    obtain ⟨p, -, here⟩ := pattern.exists_of_mem_arguments ground argument
    rcases admits.known_or_fixed here with before | ⟨only, fixed⟩
    · exact .inl (indexed.mem_entities.mpr before)
    · obtain ⟨name, type⟩ := Binding.fixed_eq_some fixed
      rw [resultOnly_inventory rule member p only] at name type
      obtain ⟨_, _⟩ := e
      cases name
      cases type
      exact .inr rfl
  · exact .inl (indexed.mem_entities.mpr ⟨fact, old, argument⟩)

theorem mem_map_iff_of_apply (indexed : s.Indexed) (listed : action ∈ s.actions rules Binding.fixed)
    (run : s.apply action = .ok (some t)) {fact : Fact} (charted : fact.predicate ∈ mapPredicates) :
    fact ∈ t.facts ↔ fact ∈ s.facts := by
  have kept (rule : Rule) (member : rule ∈ rules) := rules_keep_map rule member _ charted
  obtain ⟨rule, member, binding, -, instantiated⟩ := (State.mem_actions_iff indexed).mp listed
  constructor
  · exact State.mem_of_apply_neverAdds indexed (fun rule member => (kept rule member).1) listed run rfl
  · exact State.mem_apply_of_neverRemoves (kept rule member).2 instantiated run rfl

/-- A lawful state in which every aspect is settled at most once, one player is somewhere and no door is, and
whatever can be opened is open, closed or locked. Only the inventory may share its name. -/
structure Tidy (s : State) : Prop where
  lawful : Lawful s
  consistent : s.Consistent
  player : ∃ e, e.type = "P" ∧ s.Settles (.place, e) ∧
    ∀ other, other.type = "P" → s.Settles (.place, other) → other = e
  doors : ∀ e, IsA e "d" → ¬ s.Settles (.place, e)
  openable : ∀ e ∈ s.entities, IsA e "d" ∨ IsA e "c" → s.Settles (.condition, e)
  named : ∀ x ∈ s.entities, ∀ y ∈ s.entities, x.type ≠ "I" → y.type ≠ "I" → x.name = y.name → x = y

theorem Tidy.apply (tidy : Tidy s) (listed : action ∈ s.actions rules Binding.fixed)
    (run : s.apply action = .ok (some t)) : Tidy t := by
  have indexed := tidy.lawful.built.indexed
  obtain ⟨rule, member, binding, admits, instantiated⟩ := (State.mem_actions_iff indexed).mp listed
  have settles {subject : Aspect × Entity} : t.Settles subject ↔ s.Settles subject :=
    State.settles_apply_iff admits instantiated (rules_replace rule member) (rules_resettle rule member) run
  have known {e : Entity} (here : e ∈ t.entities) (kind : e.type ≠ "I") : e ∈ s.entities := by
    rcases mem_entities_of_apply indexed listed run here with old | rfl
    · exact old
    · exact absurd rfl kind
  have consistent := tidy.consistent.apply indexed rules_replace listed run
  have unviolated : t.violated = none := by
    refine State.violated_eq_none_iff.mpr fun constraint declared violated => ?_
    rw [State.apply_kb run] at declared
    have core : constraint ∈ knowledge.constraints := tidy.lawful.core ▸ declared
    rcases constraints_separate constraint core with separates | about
    · exact consistent.not_violates (indexed.apply run) separates violated
    · have before := (State.Reaches.next .start listed run).violates_of_about indexed rules_neverAdd about violated
      exact State.violated_eq_none_iff.mp tidy.lawful.unviolated constraint declared before
  refine ⟨⟨.apply tidy.lawful.built run, (State.apply_kb run).trans tidy.lawful.core, unviolated⟩, consistent, ?_, ?_,
    ?_, ?_⟩
  · simpa only [settles] using tidy.player
  · simpa only [settles] using tidy.doors
  · intro e here kind
    refine settles.mpr (tidy.openable e (known here ?_) kind)
    rcases kind with door | container
    · exact door.type_ne_inventory (by simp)
    · exact container.type_ne_inventory (by simp)
  · intro x inX y inY kindX kindY
    exact tidy.named x (known inX kindX) y (known inY kindY) kindX kindY

/-- What a run of the core rules keeps: a tidy state stays tidy, the map does not change, and no entity comes in but the
inventory. -/
theorem Tidy.of_reaches (tidy : Tidy s) (reach : s.Reaches rules t) : Tidy t ∧
    (∀ fact : Fact, fact.predicate ∈ mapPredicates → (fact ∈ t.facts ↔ fact ∈ s.facts)) ∧
    ∀ e ∈ t.entities, e.type ≠ "I" → e ∈ s.entities := by
  induction reach with
  | start => exact ⟨tidy, fun _ _ => Iff.rfl, fun _ known _ => known⟩
  | @next t u action _ listed run ih =>
    obtain ⟨tidy, map, known⟩ := ih
    have indexed := tidy.lawful.built.indexed
    refine ⟨tidy.apply listed run, fun fact charted => ?_, fun e here kind => ?_⟩
    · exact (mem_map_iff_of_apply indexed listed run charted).trans (map fact charted)
    · rcases mem_entities_of_apply indexed listed run here with old | rfl
      · exact known e old kind
      · exact absurd rfl kind

end Core

end Adventure
