import Adventure.Proofs.World.Preservation

namespace Adventure

/-- Two patterns with a parameter in common give facts with an argument in common. -/
theorem Pattern.argument_eq {p q : Pattern} {binding : Binding} {f g : Fact} (groundP : p.ground binding = some f)
    (groundQ : q.ground binding = some g) {i : Nat} (same : p.parameters[i]? = q.parameters[i]?) :
    f.arguments[i]? = g.arguments[i]? := by
  have value {p : Pattern} {f : Fact} (ground : p.ground binding = some f) :
      (p.parameters[i]?).map (binding[·]?) = (f.arguments[i]?).map some := by
    rw [← List.getElem?_map, ← List.getElem?_map, (Pattern.ground_eq_some_iff.mp ground).2]
  have values := (value groundP).symm.trans ((congrArg _ same).trans (value groundQ))
  exact Option.map_injective (fun a b => Option.some.inj) values

theorem Pattern.aspect_eq {p q : Pattern} {binding : Binding} {f g : Fact} (groundP : p.ground binding = some f)
    (groundQ : q.ground binding = some g) (same : p.aspect = q.aspect) : f.aspect = g.aspect := by
  have values := (Pattern.aspect_ground groundP).symm.trans ((congrArg _ same).trans (Pattern.aspect_ground groundQ))
  refine Option.map_injective (fun a b equal => ?_) values
  obtain ⟨aspect, e⟩ := Prod.mk.inj equal
  exact Prod.ext aspect (Option.some.inj e)

namespace Core

variable {s : State} {w : World} {e : Entity} {facts : List Fact} {fact : Fact}

/-- A constraint is between two facts, which settle the same about one entity or give two keys to one lock. -/
theorem constraints_meet : ∀ constraint ∈ constraints, ∃ p ∈ constraint.patterns, ∃ q ∈ constraint.patterns, p ≠ q ∧
    (∀ r ∈ constraint.patterns, r = p ∨ r = q) ∧
    (p.parameters[0]? = q.parameters[0]? ∧ p.aspect = q.aspect ∨
      p.predicate = "match" ∧ q.predicate = "match" ∧ p.parameters[1]? = q.parameters[1]?) := by
  decide

theorem map_signatures : ∀ signature ∈ signatures, signature.predicate ∈ mapPredicates →
    signature.types.head? = some "r" := by
  decide

/-- Facts about a thing of a name that was not in use. Each says something else of it, and none gives a key to what has
one. -/
structure Introduces (s : State) (e : Entity) (facts : List Fact) : Prop where
  fresh : ∀ x ∈ s.entities, x.name ≠ e.name
  thing : IsA e "t"
  ordinary : ¬ IsA e "d"
  stated : ∀ fact ∈ facts, knowledge.checkFact fact = .ok ()
  first : ∀ fact ∈ facts, ∃ rest, fact.arguments = e :: rest ∧ ∀ x ∈ rest, x ∈ s.entities
  nonempty : facts ≠ []
  nodup : facts.Nodup
  once : ∀ f ∈ facts, ∀ g ∈ facts, f.aspect = g.aspect → f = g
  openable : IsA e "c" → ∃ fact ∈ facts, fact.aspect = some (.condition, e)
  unlocked : ∀ f ∈ facts, f.predicate = "match" → ∀ g ∈ s.facts, g.predicate = "match" →
    f.arguments[1]? ≠ g.arguments[1]?

namespace Introduces

theorem not_mentioned (new : Introduces s e facts) (indexed : s.Indexed) (holds : fact ∈ s.facts) :
    e ∉ fact.arguments :=
  fun mentioned => new.fresh e (indexed.mem_entities.mpr ⟨fact, holds, mentioned⟩) rfl

theorem mem_of_mentioned (new : Introduces s e facts) (indexed : s.Indexed) (holds : fact ∈ (s.insertAll facts).facts)
    (mentioned : e ∈ fact.arguments) : fact ∈ facts :=
  (State.mem_insertAll.mp holds).resolve_right fun old => new.not_mentioned indexed old mentioned

theorem getElem?_zero (new : Introduces s e facts) (member : fact ∈ facts) : fact.arguments[0]? = some e := by
  obtain ⟨rest, arguments, -⟩ := new.first fact member
  rw [arguments, List.getElem?_cons_zero]

theorem eq_of_aspect (new : Introduces s e facts) {aspect : Aspect} {x : Entity} (member : fact ∈ facts)
    (settled : fact.aspect = some (aspect, x)) : x = e := by
  obtain ⟨-, rest, arguments⟩ := Fact.aspect_eq_some_iff.mp settled
  have first := new.getElem?_zero member
  rw [arguments, List.getElem?_cons_zero] at first
  exact Option.some.inj first

/-- A new fact shares with no other what a constraint would forbid. -/
theorem eq_of_meeting (new : Introduces s e facts) (indexed : s.Indexed) {f g : Fact} (member : f ∈ facts)
    (holds : g ∈ (s.insertAll facts).facts)
    (meet : f.arguments[0]? = g.arguments[0]? ∧ f.aspect = g.aspect ∨
      f.predicate = "match" ∧ g.predicate = "match" ∧ f.arguments[1]? = g.arguments[1]?) : f = g := by
  rcases meet with ⟨first, same⟩ | ⟨keyF, keyG, lock⟩
  · rw [new.getElem?_zero member] at first
    exact new.once f member g (new.mem_of_mentioned indexed holds (List.mem_of_getElem? first.symm)) same
  · rcases State.mem_insertAll.mp holds with also | old
    · have unsettled {fact : Fact} (key : fact.predicate = "match") : fact.aspect = none := by
        cases arguments : fact.arguments <;> simp [Fact.aspect, Aspect.settled, arguments, key, Aspect.ofPredicate]
      exact new.once f member g also ((unsettled keyF).trans (unsettled keyG).symm)
    · exact absurd lock (new.unlocked f member keyF g old keyG)

theorem unviolated (new : Introduces s e facts) (lawful : Lawful s) : (s.insertAll facts).violated = none := by
  have indexed := lawful.built.indexed
  refine State.violated_eq_none_iff.mpr fun constraint declared violated => ?_
  rw [State.insertAll_kb] at declared
  obtain ⟨binding, solves⟩ := (State.violates_iff (indexed.insertAll facts)).mp violated
  have core : constraint ∈ knowledge.constraints := lawful.core ▸ declared
  obtain ⟨p, inP, q, inQ, different, both, meet⟩ := constraints_meet constraint core
  obtain ⟨f, holdsF, groundF⟩ := solves.holds p inP
  obtain ⟨g, holdsG, groundG⟩ := solves.holds q inQ
  have apart : f ≠ g := by
    rintro rfl
    exact different (solves.injective.eq_of_ground groundF groundG)
  have meets : f.arguments[0]? = g.arguments[0]? ∧ f.aspect = g.aspect ∨
      f.predicate = "match" ∧ g.predicate = "match" ∧ f.arguments[1]? = g.arguments[1]? := by
    rw [← (Pattern.ground_eq_some_iff.mp groundF).1, ← (Pattern.ground_eq_some_iff.mp groundG).1]
    exact meet.imp (And.imp (Pattern.argument_eq groundF groundG) (Pattern.aspect_eq groundF groundG))
      (And.imp_right (And.imp_right (Pattern.argument_eq groundF groundG)))
  rcases State.mem_insertAll.mp holdsF with newF | oldF
  · exact apart (new.eq_of_meeting indexed newF holdsG meets)
  rcases State.mem_insertAll.mp holdsG with newG | oldG
  · refine apart (new.eq_of_meeting indexed newG holdsF ?_).symm
    exact meets.imp (And.imp Eq.symm Eq.symm) fun ⟨keyF, keyG, lock⟩ => ⟨keyG, keyF, lock.symm⟩
  -- Two facts of the old state would have broken the constraint before.
  have before : s.Solves constraint.patterns ∅ binding := by
    refine ⟨s.insertAll_kb facts ▸ solves.extension, fun r listed => ?_⟩
    rcases both r listed with rfl | rfl
    · exact ⟨f, oldF, groundF⟩
    · exact ⟨g, oldG, groundG⟩
  exact State.violated_eq_none_iff.mp lawful.unviolated constraint declared
    ((State.violates_iff indexed).mpr ⟨binding, before⟩)

theorem mem_entities (new : Introduces s e facts) (indexed : s.Indexed) {x : Entity}
    (known : x ∈ (s.insertAll facts).entities) : x = e ∨ x ∈ s.entities := by
  obtain ⟨fact, holds, mentioned⟩ := (indexed.insertAll facts).mem_entities.mp known
  rcases State.mem_insertAll.mp holds with member | old
  · obtain ⟨rest, arguments, others⟩ := new.first fact member
    rw [arguments, List.mem_cons] at mentioned
    exact mentioned.imp_right (others x)
  · exact .inr (indexed.mem_entities.mpr ⟨fact, old, mentioned⟩)

theorem entities_perm (new : Introduces s e facts) (indexed : s.Indexed) :
    (s.insertAll facts).entities.Perm (e :: s.entities) := by
  have fresh : e ∉ s.entities := fun known => new.fresh e known rfl
  refine (List.perm_ext_iff_of_nodup (State.nodup_entities _) ?_).mpr fun x => ?_
  · exact List.nodup_cons.mpr ⟨fresh, s.nodup_entities⟩
  · rw [List.mem_cons]
    refine ⟨new.mem_entities indexed, ?_⟩
    rw [(indexed.insertAll facts).mem_entities]
    rintro (rfl | old)
    · obtain ⟨fact, member⟩ := List.exists_mem_of_ne_nil facts new.nonempty
      exact ⟨fact, State.mem_insertAll.mpr (.inl member), List.mem_of_getElem? (new.getElem?_zero member)⟩
    · obtain ⟨fact, holds, mentioned⟩ := indexed.mem_entities.mp old
      exact ⟨fact, State.mem_insertAll.mpr (.inr holds), mentioned⟩

theorem lawful (new : Introduces s e facts) (before : Lawful s) : Lawful (s.insertAll facts) := by
  have stated : s.addFacts facts = .ok (s.insertAll facts) :=
    State.addFacts_eq_ok_iff.mpr ⟨before.core ▸ new.stated, rfl⟩
  exact ⟨.addFacts before.built stated, (s.insertAll_kb facts).trans before.core, new.unviolated before⟩

/-- Where entities had different names, they still have: the new one has a name of its own. -/
theorem named (new : Introduces s e facts) (indexed : s.Indexed) {P : Entity → Prop}
    (before : ∀ x ∈ s.entities, ∀ y ∈ s.entities, P x → P y → x.name = y.name → x = y) :
    ∀ x ∈ (s.insertAll facts).entities, ∀ y ∈ (s.insertAll facts).entities, P x → P y → x.name = y.name → x = y := by
  intro x inX y inY kindX kindY same
  rcases new.mem_entities indexed inX with rfl | oldX <;> rcases new.mem_entities indexed inY with rfl | oldY
  · rfl
  · exact absurd same.symm (new.fresh y oldY)
  · exact absurd same (new.fresh x oldX)
  · exact before x oldX y oldY kindX kindY same

/-- An orderly state stays orderly with a thing more. -/
theorem orderly (new : Introduces s e facts) (before : Orderly s) : Orderly (s.insertAll facts) := by
  have indexed := before.lawful.built.indexed
  have old {fact : Fact} {aspect : Aspect} {x : Entity} (holds : fact ∈ (s.insertAll facts).facts)
      (settled : fact.aspect = some (aspect, x)) (other : x ≠ e) : fact ∈ s.facts :=
    (State.mem_insertAll.mp holds).resolve_left fun member => other (new.eq_of_aspect member settled)
  refine ⟨new.lawful before.lawful, ?player, ?places, ?doors, ?openable, new.named indexed before.named⟩
  case player =>
    obtain ⟨f, holds, player, alone⟩ := before.player
    refine ⟨f, State.mem_insertAll.mpr (.inr holds), player, ?_⟩
    rintro g present ⟨named, x, kind, settled⟩
    refine alone g (old present settled ?_) ⟨named, x, kind, settled⟩
    rintro rfl
    have apart : types.descends "P" "t" = false := by decide
    have descends := new.thing.descends
    rw [kind, apart] at descends
    cases descends
  case places =>
    intro x f holdsF g holdsG placesF placesG
    have settledF := aspect_of_places placesF
    have settledG := aspect_of_places placesG
    by_cases here : x = e
    · have mentioned {fact : Fact} (places : World.Places fact x) : e ∈ fact.arguments :=
        here ▸ List.mem_of_head? places.2
      exact new.once f (new.mem_of_mentioned indexed holdsF (mentioned placesF)) g
        (new.mem_of_mentioned indexed holdsG (mentioned placesG)) (settledF.trans settledG.symm)
    · exact before.places x f (old holdsF settledF here) g (old holdsG settledG here) placesF placesG
  case doors =>
    rintro x door ⟨fact, holds, settled⟩
    have other : x ≠ e := by
      rintro rfl
      exact new.ordinary door
    exact before.doors x door ⟨fact, old holds settled other, settled⟩
  case openable =>
    intro x known kind
    rcases new.mem_entities indexed known with rfl | there
    · obtain ⟨fact, member, settled⟩ := new.openable (kind.resolve_left new.ordinary)
      exact ⟨fact, State.mem_insertAll.mpr (.inl member), settled⟩
    · obtain ⟨fact, holds, settled⟩ := before.openable x there kind
      exact ⟨fact, State.mem_insertAll.mpr (.inr holds), settled⟩

/-- What is said of a thing is not said of the map. -/
theorem mem_map_iff (new : Introduces s e facts) (charted : fact.predicate ∈ mapPredicates) :
    fact ∈ (s.insertAll facts).facts ↔ fact ∈ s.facts := by
  rw [State.mem_insertAll]
  refine ⟨fun either => either.resolve_left fun member => ?_, .inr⟩
  obtain ⟨signature, listed, named, length, typed⟩ := exists_signature (new.stated fact member)
  have first := map_signatures signature listed (named ▸ charted)
  obtain ⟨rest, arguments, -⟩ := new.first fact member
  obtain ⟨others, kinds⟩ := List.head?_eq_some_iff.mp first
  rw [kinds, arguments] at typed
  have room : IsA e "r" := typed ("r", e) List.mem_cons_self
  exact new.thing.not_disjoint room (by decide)

end Introduces

/-- An accepted world of the core knowledge in which no two entities share a name. -/
structure Accepted (w : World) : Prop where
  built : w.state.Built
  core : w.state.kb = knowledge
  named : ∀ x ∈ w.state.entities, ∀ y ∈ w.state.entities, x.name = y.name → x = y
  valid : w.check = .ok ()

theorem Accepted.orderly (accepted : Accepted w) : Orderly w.state :=
  orderly_of_check accepted.built accepted.core accepted.named accepted.valid

theorem Accepted.introduce (accepted : Accepted w) (new : Introduces w.state e facts) {v : World}
    (after : v.state = w.state.insertAll facts) : Accepted v := by
  have before := accepted.orderly
  have indexed := accepted.built.indexed
  have orderly : Orderly v.state := after ▸ new.orderly before
  obtain ⟨-, -, links, exits, -⟩ := World.check_eq_ok_iff.mp accepted.valid
  have map : ∀ fact : Fact, fact.predicate ∈ mapPredicates → (fact ∈ v.state.facts ↔ fact ∈ w.state.facts) :=
    after ▸ fun fact => new.mem_map_iff
  have rooms : ∀ x ∈ v.state.entities, IsA x "r" → x ∈ w.state.entities := by
    rw [after]
    intro x known room
    refine (new.mem_entities indexed known).resolve_left ?_
    rintro rfl
    exact new.thing.not_disjoint room (by decide)
  refine ⟨orderly.lawful.built, orderly.lawful.core, ?_, World.check_eq_ok_iff.mpr ⟨?_, fun _ => orderly.thingFlaws,
    linkFlaws_of_map before.lawful orderly.lawful map links,
    exitFlaws_of_map before.lawful orderly.lawful map rooms exits, orderly.lawful.unviolated⟩⟩
  · rw [after]
    exact fun x inX y inY => new.named indexed (P := fun _ => True) (fun x inX y inY _ _ => accepted.named x inX y inY)
      x inX y inY trivial trivial
  · exact orderly.lawful.playerPlacements_iff.mpr orderly.player

end Core

end Adventure
