import Adventure.Proofs.Core.Tidy
import Adventure.Proofs.World.View

namespace Adventure.Core

variable {s t : State} {w : World} {e : Entity} {fact : Fact}

theorem at_signatures : ∀ signature ∈ signatures, signature.predicate = "at" →
    ∃ kind ∈ ["P", "t"], signature.types = [kind, "r"] := by
  decide

theorem link_signatures : ∀ signature ∈ signatures, signature.predicate = "link" →
    signature.types = ["r", "d", "r"] := by
  decide

theorem direction_signatures : ∀ direction ∈ Direction.all, ∀ signature ∈ signatures,
    signature.predicate = direction.predicate → signature.types = ["r", "r"] := by
  decide

/-- Neither the player nor a door is anywhere but in a room. -/
theorem room_signatures : ∀ kind ∈ ["P", "d"], ∀ signature ∈ signatures,
    Aspect.ofPredicate signature.predicate = some .place →
      signature.predicate = "at" ∨ ∀ first ∈ signature.types.head?, Disjoint kind first := by
  decide

theorem stated_of_signature {predicate : String} {kinds : List String} {es : List Entity}
    (declared : ⟨predicate, kinds⟩ ∈ signatures) (typed : List.Forall₂ (fun kind e => IsA e kind) kinds es) :
    knowledge.checkFact ⟨predicate, es⟩ = .ok () := by
  obtain ⟨length, pairs⟩ := List.forall₂_iff_zip.mp typed
  have known : ∀ e ∈ es, types.contains e.type = true := by
    clear declared length pairs
    induction typed with
    | nil => simp
    | cons isA _ ih => exact List.forall_mem_cons.mpr ⟨isA.known, ih⟩
  exact KnowledgeBase.checkFact_eq_ok_iff.mpr ⟨known, _, declared, rfl, length, fun pair listed =>
    (pairs listed).descends⟩

/-- The arguments of a fact are of the types of a signature. -/
theorem exists_typed (built : s.Built) (core : s.kb = knowledge) (holds : fact ∈ s.facts) : ∃ signature ∈ signatures,
    signature.predicate = fact.predicate ∧ List.Forall₂ (fun type e => IsA e type) signature.types fact.arguments := by
  obtain ⟨signature, member, named, length, typed⟩ := exists_signature (core ▸ built.checked holds)
  exact ⟨signature, member, named, List.forall₂_iff_zip.mpr ⟨length, fun paired => typed _ paired⟩⟩

theorem exists_at (built : s.Built) (core : s.kb = knowledge) (holds : fact ∈ s.facts) (named : fact.predicate = "at") :
    ∃ x u, fact.arguments = [x, u] ∧ (IsA x "P" ∨ IsA x "t") ∧ IsA u "r" := by
  obtain ⟨signature, member, same, typed⟩ := exists_typed built core holds
  obtain ⟨kind, among, types⟩ := at_signatures signature member (same.trans named)
  rw [types] at typed
  generalize fact.arguments = arguments at typed ⊢
  obtain _ | ⟨first, _ | ⟨second, _ | _⟩⟩ := typed
  refine ⟨_, _, rfl, ?_, second⟩
  rcases List.mem_pair.mp among with rfl | rfl
  · exact .inl first
  · exact .inr first

theorem length_of_at (built : s.Built) (core : s.kb = knowledge) :
    ∀ fact ∈ s.factsNamed "at", fact.arguments.length = 2 := by
  intro fact member
  obtain ⟨holds, named⟩ := built.indexed.mem_factsNamed.mp member
  obtain ⟨x, u, arguments, -⟩ := exists_at built core holds named
  rw [arguments]
  rfl

theorem exists_link (built : s.Built) (core : s.kb = knowledge) (holds : fact ∈ s.facts)
    (named : fact.predicate = "link") :
    ∃ room door target, fact = ⟨"link", [room, door, target]⟩ ∧ IsA room "r" ∧ IsA target "r" := by
  obtain ⟨signature, member, same, typed⟩ := exists_typed built core holds
  rw [link_signatures signature member (same.trans named)] at typed
  obtain ⟨predicate, arguments⟩ := fact
  obtain _ | ⟨first, _ | ⟨_, _ | ⟨third, _ | _⟩⟩⟩ := typed
  cases named
  exact ⟨_, _, _, rfl, first, third⟩

theorem exists_direction (built : s.Built) (core : s.kb = knowledge) {direction : Direction} (holds : fact ∈ s.facts)
    (named : fact.predicate = direction.predicate) :
    ∃ a b, fact = ⟨direction.predicate, [a, b]⟩ ∧ IsA a "r" ∧ IsA b "r" := by
  obtain ⟨signature, member, same, typed⟩ := exists_typed built core holds
  rw [direction_signatures direction direction.mem_all signature member (same.trans named)] at typed
  obtain ⟨predicate, arguments⟩ := fact
  obtain _ | ⟨first, _ | ⟨second, _ | _⟩⟩ := typed
  exact ⟨_, _, congrArg (Fact.mk · _) named, first, second⟩

theorem isA_of_direction (built : s.Built) (core : s.kb = knowledge) {direction : Direction} {a b : Entity}
    (holds : ⟨direction.predicate, [a, b]⟩ ∈ s.facts) : IsA a "r" ∧ IsA b "r" := by
  obtain ⟨_, _, same, rooms⟩ := exists_direction built core holds rfl
  cases same
  exact rooms

/-- Where the player or a door is said to be, it is said to be in a room. -/
theorem Lawful.predicate_eq_at (lawful : Lawful s) (holds : fact ∈ s.facts) (settled : fact.aspect = some (.place, e))
    {kind : String} (among : kind ∈ ["P", "d"]) (isA : IsA e kind) : fact.predicate = "at" := by
  obtain ⟨place, rest, arguments⟩ := Fact.aspect_eq_some_iff.mp settled
  obtain ⟨signature, member, same, typed⟩ := exists_typed lawful.built lawful.core holds
  rw [← same] at place ⊢
  rcases room_signatures kind among signature member place with named | disjoint
  · exact named
  · rw [arguments] at typed
    generalize signature.types = types at typed disjoint
    obtain _ | ⟨first, _⟩ := typed
    exact absurd (disjoint _ rfl) (isA.not_disjoint first)

theorem Lawful.known (lawful : Lawful s) (here : e ∈ s.entities) : types.contains e.type = true := by
  obtain ⟨fact, holds, argument⟩ := lawful.built.indexed.mem_entities.mp here
  have checked := (KnowledgeBase.checkFact_eq_ok_iff.mp (lawful.built.checked holds)).1 e argument
  rwa [lawful.core] at checked

theorem descends_eq (core : w.state.kb = knowledge) (e : Entity) (type : String) :
    w.descends e type = types.descends e.type type := by
  rw [World.descends, World.kb, core]
  rfl

theorem IsA.isThing (isA : IsA e "t") (core : w.state.kb = knowledge) : w.isThing e = true := by
  have disjoint : ∀ kind ∈ ["r", "P", "I"], Disjoint "t" kind := by decide
  have apart (kind : String) (among : kind ∈ ["r", "P", "I"]) : w.descends e kind = false := by
    rw [descends_eq core, ← Bool.not_eq_true]
    exact fun descends => isA.not_disjoint ⟨isA.known, descends⟩ (disjoint kind among)
  simp [World.isThing, apart]

theorem type_ne_of_isThing (kind : w.isThing e = true) : e.type ≠ "I" := by
  intro inventory
  simp [World.isThing, World.descends, TypeHierarchy.descends, inventory] at kind

theorem IsA.thing (isA : IsA e "d" ∨ IsA e "c") : IsA e "t" := by
  have above : types.descends "d" "t" = true ∧ types.descends "c" "t" = true := by decide
  rcases isA with ⟨known, descends⟩ | ⟨known, descends⟩
  · exact ⟨known, types_transitive _ _ _ descends above.1⟩
  · exact ⟨known, types_transitive _ _ _ descends above.2⟩

/-- A fact that says in which room a player is. -/
def PlayerAt (fact : Fact) : Prop := fact.predicate = "at" ∧ ∃ e, e.type = "P" ∧ fact.aspect = some (.place, e)

/-- The player is placed once exactly if just one fact says in which room. -/
theorem Lawful.playerPlacements_iff (lawful : Lawful s) : World.playerPlacements (s.factsNamed "at") = .ok 1 ↔
    ∃ f ∈ s.facts, PlayerAt f ∧ ∀ g ∈ s.facts, PlayerAt g → g = f := by
  have indexed := lawful.built.indexed
  have places {fact : Fact} :
      fact ∈ (s.factsNamed "at").filter World.placesPlayer ↔ fact ∈ s.facts ∧ PlayerAt fact := by
    rw [List.mem_filter, indexed.mem_factsNamed, and_assoc]
    refine and_congr_right fun holds => and_congr_right fun named => ?_
    obtain ⟨x, u, arguments, -⟩ := exists_at lawful.built lawful.core holds named
    simp [World.placesPlayer, arguments, Fact.aspect, Aspect.settled, named, Aspect.ofPredicate]
  have stated : ∀ fact ∈ s.factsNamed "at", fact.arguments ≠ [] := by
    intro fact member empty
    simpa [empty] using length_of_at lawful.built lawful.core fact member
  rw [World.playerPlacements_eq stated, Except.ok.injEq,
    length_eq_one_iff ((indexed.nodup_factsNamed "at").filter World.placesPlayer)]
  simp only [places, and_imp, and_assoc]

theorem aspect_of_places (places : World.Places fact e) : fact.aspect = some (.place, e) := by
  have settles : ∀ predicate ∈ World.placePredicates, Aspect.ofPredicate predicate = some .place := by decide
  obtain ⟨among, first⟩ := places
  obtain ⟨rest, arguments⟩ := List.head?_eq_some_iff.mp first
  exact Fact.aspect_eq_some_iff.mpr ⟨settles _ (List.contains_iff_mem.mp among), rest, arguments⟩

theorem aspect_of_openStates {condition : String} (among : condition ∈ World.openStates) (e : Entity) :
    (⟨condition, [e]⟩ : Fact).aspect = some (.condition, e) := by
  have settles : ∀ predicate ∈ World.openStates, Aspect.ofPredicate predicate = some .condition := by decide
  exact Fact.aspect_eq_some_iff.mpr ⟨settles condition among, [], rfl⟩

theorem Lawful.mem_of_aspect (lawful : Lawful s) {aspect : Aspect} (holds : fact ∈ s.facts)
    (settled : fact.aspect = some (aspect, e)) : e ∈ fact.arguments ∧ e ∈ s.entities := by
  obtain ⟨-, rest, arguments⟩ := Fact.aspect_eq_some_iff.mp settled
  have first : e ∈ fact.arguments := arguments ▸ List.mem_cons_self
  exact ⟨first, lawful.built.indexed.mem_entities.mpr ⟨fact, holds, first⟩⟩

/-- A fact about where the player is says in which room. -/
theorem Lawful.playerAt (lawful : Lawful s) (holds : fact ∈ s.facts) (settled : fact.aspect = some (.place, e))
    (player : e.type = "P") : PlayerAt fact := by
  have isA : IsA e "P" := ⟨lawful.known (lawful.mem_of_aspect holds settled).2, player ▸ types.descends_refl _⟩
  exact ⟨lawful.predicate_eq_at holds settled (by simp) isA, e, player, settled⟩

section Accepted

variable (lawful : Lawful w.state)
  (named : ∀ x ∈ w.state.entities, ∀ y ∈ w.state.entities, x.name = y.name → x = y)
  (things : ∀ thing ∈ w.thingList, w.thingFlaws thing = [])

include lawful named things

/-- Where no two entities share a name, each thing is looked at and found without flaw. -/
theorem exists_flawless (here : e ∈ w.state.entities) (isA : IsA e "t") : ∃ thing, thing.entity = e ∧
    thing.properties = w.propertyTable.getD e.name ∅ ∧ w.thingFlaws thing = [] := by
  obtain ⟨thing, member, same⟩ := World.exists_mem_thingList here (isA.isThing lawful.core)
    fun other present _ shared => named other present e here shared
  obtain ⟨name, found⟩ := SortedMap.mem_values.mp member
  obtain ⟨rfl, -, -, properties⟩ := World.things_eq_some found
  exact ⟨thing, same, same ▸ properties, things thing member⟩

theorem not_settles_of_door (isA : IsA e "d") : ¬ w.state.Settles (.place, e) := by
  rintro ⟨fact, holds, settled⟩
  obtain ⟨first, here⟩ := lawful.mem_of_aspect holds settled
  obtain ⟨thing, rfl, -, flawless⟩ := exists_flawless lawful named things here (IsA.thing (.inl isA))
  have isDoor : w.descends thing.entity "d" = true := (descends_eq lawful.core _ _).trans isA.descends
  have about := lawful.built.indexed.mem_factsAbout.mpr ⟨holds, first⟩
  exact (World.thingFlaws_eq_nil_iff.mp flawless).1 isDoor fact about
    (lawful.predicate_eq_at holds settled (by simp) isA)

/-- Nothing but the player is in two places. -/
theorem eq_of_places (isA : IsA e "t") {f g : Fact} (holdsF : f ∈ w.state.facts) (holdsG : g ∈ w.state.facts)
    (placesF : World.Places f e) (placesG : World.Places g e) : f = g := by
  have settled := aspect_of_places placesF
  obtain ⟨firstF, here⟩ := lawful.mem_of_aspect holdsF settled
  obtain ⟨firstG, -⟩ := lawful.mem_of_aspect holdsG (aspect_of_places placesG)
  obtain ⟨thing, rfl, -, flawless⟩ := exists_flawless lawful named things here isA
  have ordinary : w.descends thing.entity "d" = false := by
    rw [descends_eq lawful.core, ← Bool.not_eq_true]
    exact fun descends => not_settles_of_door lawful named things ⟨isA.known, descends⟩ ⟨f, holdsF, settled⟩
  have indexed := lawful.built.indexed
  exact (World.thingFlaws_eq_nil_iff.mp flawless).2.1 ordinary f (indexed.mem_factsAbout.mpr ⟨holdsF, firstF⟩) g
    (indexed.mem_factsAbout.mpr ⟨holdsG, firstG⟩) placesF placesG

theorem settles_of_openable (here : e ∈ w.state.entities) (isA : IsA e "d" ∨ IsA e "c") :
    w.state.Settles (.condition, e) := by
  obtain ⟨thing, rfl, properties, flawless⟩ := exists_flawless lawful named things here (IsA.thing isA)
  have opens : w.descends thing.entity "d" = true ∨ w.descends thing.entity "c" = true := by
    simpa only [descends_eq lawful.core] using isA.imp IsA.descends IsA.descends
  obtain ⟨condition, among, has, -⟩ := (World.thingFlaws_eq_nil_iff.mp flawless).2.2 opens
  rw [Thing.has, Std.ExtTreeSet.contains_iff_mem, properties, World.mem_properties] at has
  obtain ⟨x, holds, shared⟩ := has
  cases named x (lawful.built.indexed.mem_entities.mpr ⟨_, holds, by simp⟩) thing.entity here shared
  exact ⟨_, holds, aspect_of_openStates among _⟩

end Accepted

/-- A lawful state in which the player is in one room, nothing is in two places and no door in any, and whatever can be
opened is open, closed or locked. Only the inventory may share its name. -/
structure Orderly (s : State) : Prop where
  lawful : Lawful s
  player : ∃ f ∈ s.facts, PlayerAt f ∧ ∀ g ∈ s.facts, PlayerAt g → g = f
  places : ∀ e, ∀ f ∈ s.facts, ∀ g ∈ s.facts, World.Places f e → World.Places g e → f = g
  doors : ∀ e, IsA e "d" → ¬ s.Settles (.place, e)
  openable : ∀ e ∈ s.entities, IsA e "d" ∨ IsA e "c" → s.Settles (.condition, e)
  named : ∀ x ∈ s.entities, ∀ y ∈ s.entities, x.type ≠ "I" → y.type ≠ "I" → x.name = y.name → x = y

/-- An accepted world in which no two entities share a name is orderly. -/
theorem orderly_of_check (built : w.state.Built) (core : w.state.kb = knowledge)
    (named : ∀ x ∈ w.state.entities, ∀ y ∈ w.state.entities, x.name = y.name → x = y)
    (valid : w.check = .ok ()) : Orderly w.state := by
  obtain ⟨players, things, -, -, unviolated⟩ := World.check_eq_ok_iff.mp valid
  have lawful : Lawful w.state := ⟨built, core, unviolated⟩
  have player := lawful.playerPlacements_iff.mp players
  refine ⟨lawful, player, fun e f holdsF g holdsG placesF placesG => ?_,
    fun e => not_settles_of_door lawful named things, fun e => settles_of_openable lawful named things,
    fun x inX y inY _ _ => named x inX y inY⟩
  obtain ⟨position, -, -, alone⟩ := player
  have settled := aspect_of_places placesF
  -- The player is not among the things that are looked at, but has just one placement.
  rcases lawful.exists_placement holdsF settled with rfl | ⟨placement, listed, u, rfl, item, -⟩
  · cases placesF.1
  · have ways : ∀ placement ∈ placements,
        placement.item.type = "P" ∨ types.descends placement.item.type "t" = true := by decide
    rcases ways placement listed with isPlayer | isThing
    · have only : ∀ type ∈ types.names, types.descends type "P" = true → type = "P" := by decide
      have type := only e.type item.mem_names (isPlayer ▸ item.descends)
      rw [alone _ holdsF (lawful.playerAt holdsF settled type),
        alone _ holdsG (lawful.playerAt holdsG (aspect_of_places placesG) type)]
    · have isA : IsA e "t" := ⟨item.known, types_transitive _ _ _ item.descends isThing⟩
      exact eq_of_places lawful named things isA holdsF holdsG placesF placesG

/-- An orderly state in which what was eaten is nowhere is tidy. -/
theorem Orderly.tidy (orderly : Orderly s)
    (gone : ∀ e, ⟨"eaten", [e]⟩ ∈ s.facts → ∀ fact ∈ s.facts,
      ["at", "in", "on"].contains fact.predicate = true → fact.arguments.head? ≠ some e) : Tidy s := by
  have lawful := orderly.lawful
  obtain ⟨position, placed, ⟨-, player, kind, settled⟩, alone⟩ := orderly.player
  have consistent : s.Consistent := by
    have ways : ∀ placement ∈ placements, World.placePredicates.contains placement.predicate = true := by decide
    refine lawful.consistent_of_placements gone ?_
    intro first listedF second listedG x u v _ _ _ _ holdsF holdsG
    exact orderly.places x _ holdsF _ holdsG ⟨ways first listedF, rfl⟩ ⟨ways second listedG, rfl⟩
  refine ⟨lawful, consistent, ⟨player, kind, ⟨position, placed, settled⟩, ?_⟩, orderly.doors, orderly.openable,
    orderly.named⟩
  rintro other type ⟨fact, holds, about⟩
  rw [alone fact holds (lawful.playerAt holds about type), settled] at about
  cases about
  rfl

/-- An accepted world in which no two entities share a name and what was eaten is nowhere is tidy. -/
theorem tidy_of_check (built : w.state.Built) (core : w.state.kb = knowledge)
    (named : ∀ x ∈ w.state.entities, ∀ y ∈ w.state.entities, x.name = y.name → x = y)
    (gone : ∀ e, ⟨"eaten", [e]⟩ ∈ w.state.facts → ∀ fact ∈ w.state.facts,
      ["at", "in", "on"].contains fact.predicate = true → fact.arguments.head? ≠ some e)
    (valid : w.check = .ok ()) : Tidy w.state :=
  (orderly_of_check built core named valid).tidy gone

theorem Tidy.orderly (tidy : Tidy s) : Orderly s := by
  have lawful := tidy.lawful
  refine ⟨lawful, ?_, fun e f holdsF g holdsG placesF placesG => ?_, tidy.doors, tidy.openable, tidy.named⟩
  · obtain ⟨e, kind, ⟨fact, holds, settled⟩, alone⟩ := tidy.player
    refine ⟨fact, holds, lawful.playerAt holds settled kind, ?_⟩
    rintro other present ⟨-, x, type, about⟩
    cases alone x type ⟨other, present, about⟩
    exact tidy.consistent other present fact holds _ about settled
  · exact tidy.consistent f holdsF g holdsG _ (aspect_of_places placesF) (aspect_of_places placesG)

/-- In an orderly world a thing has the states of openness that are stated of it. -/
theorem Orderly.has_iff (orderly : Orderly w.state) {thing : Thing} (here : thing.entity ∈ w.state.entities)
    (kind : w.isThing thing.entity = true) (properties : thing.properties = w.propertyTable.getD thing.id ∅)
    {condition : String} (among : condition ∈ World.openStates) :
    thing.has condition = true ↔ ⟨condition, [thing.entity]⟩ ∈ w.state.facts := by
  rw [Thing.has, Std.ExtTreeSet.contains_iff_mem, properties, World.mem_properties]
  constructor
  · -- Properties are collected by name, and what can be opened shares its name with no other thing.
    rintro ⟨x, holds, shared⟩
    obtain ⟨_, -, item, either, -, isItem⟩ := orderly.lawful.exists_condition holds (aspect_of_openStates among x)
    have opens : item.type ∈ ["r", "d", "c"] := by
      rcases List.mem_pair.mp either with rfl | rfl <;> decide
    have known := orderly.lawful.built.indexed.mem_entities.mpr ⟨_, holds, List.mem_singleton_self x⟩
    cases orderly.named x known _ here (isItem.type_ne_inventory opens) (type_ne_of_isThing kind) shared
    exact holds
  · exact fun holds => ⟨thing.entity, holds, rfl⟩

theorem Orderly.thingFlaws (orderly : Orderly w.state) {thing : Thing} (member : thing ∈ w.thingList) :
    w.thingFlaws thing = [] := by
  have lawful := orderly.lawful
  have indexed := lawful.built.indexed
  obtain ⟨name, found⟩ := SortedMap.mem_values.mp member
  obtain ⟨rfl, here, kind, properties⟩ := World.things_eq_some found
  have isA {type : String} (descends : w.descends thing.entity type = true) : IsA thing.entity type :=
    ⟨lawful.known here, (descends_eq lawful.core _ _).symm.trans descends⟩
  refine World.thingFlaws_eq_nil_iff.mpr ⟨?_, ?_, ?_⟩
  · intro door fact about named
    obtain ⟨holds, mentioned⟩ := indexed.mem_factsAbout.mp about
    obtain ⟨x, u, arguments, -, room⟩ := exists_at lawful.built lawful.core holds named
    rw [arguments, List.mem_pair] at mentioned
    rcases mentioned with first | second
    · refine orderly.doors _ (isA door) ⟨fact, holds, aspect_of_places ⟨?_, ?_⟩⟩
      · rw [named]
        decide
      · rw [arguments, first]
        rfl
    · have disjoint : Disjoint "d" "r" := by decide
      exact (isA door).not_disjoint (second ▸ room) disjoint
  · intro _ f aboutF g aboutG
    exact orderly.places _ f (indexed.mem_factsAbout.mp aboutF).1 g (indexed.mem_factsAbout.mp aboutG).1
  · intro opens
    obtain ⟨fact, holds, settled⟩ := orderly.openable _ here (opens.imp isA isA)
    obtain ⟨condition, among, item, either, rfl, isItem⟩ := lawful.exists_condition holds settled
    have has {other : String} (listed : other ∈ World.openStates) := orderly.has_iff here kind properties listed
    refine ⟨condition, among, (has among).mpr holds, fun other listed holding => ?_⟩
    exact lawful.eq_of_conditions listed among either isItem ((has listed).mp holding) holds

theorem Tidy.playerPlacements (tidy : Tidy s) : World.playerPlacements (s.factsNamed "at") = .ok 1 :=
  tidy.lawful.playerPlacements_iff.mpr tidy.orderly.player

theorem Tidy.thingFlaws (tidy : Tidy w.state) {thing : Thing} (member : thing ∈ w.thingList) :
    w.thingFlaws thing = [] := tidy.orderly.thingFlaws member

theorem Lawful.mem_roomNames (lawful : Lawful s) {name : String} :
    name ∈ s.roomNames ↔ ∃ e ∈ s.entities, IsA e "r" ∧ e.name = name := by
  have room {e : Entity} (here : e ∈ s.entities) : s.kb.types.descends e.type "r" = true ↔ IsA e "r" := by
    rw [lawful.core]
    exact ⟨fun descends => ⟨lawful.known here, descends⟩, IsA.descends⟩
  simp only [State.roomNames, State.entitiesOf, List.mem_map, List.mem_filter]
  constructor
  · rintro ⟨e, ⟨here, descends⟩, called⟩
    exact ⟨e, here, (room here).mp descends, called⟩
  · rintro ⟨e, here, isA, called⟩
    exact ⟨e, ⟨here, (room here).mpr isA⟩, called⟩

theorem Lawful.name_mem_roomNames (lawful : Lawful s) (holds : fact ∈ s.facts) (mentioned : e ∈ fact.arguments)
    (isA : IsA e "r") : e.name ∈ s.roomNames :=
  lawful.mem_roomNames.mpr ⟨e, lawful.built.indexed.mem_entities.mpr ⟨fact, holds, mentioned⟩, isA, rfl⟩

section Map

variable {v : World} (old : Lawful v.state) (lawful : Lawful w.state)
  (map : ∀ fact : Fact, fact.predicate ∈ mapPredicates → (fact ∈ w.state.facts ↔ fact ∈ v.state.facts))

include map

/-- The exits are read off the map. -/
theorem exits_eq_of_map : Exits.ofFacts w.facts = Exits.ofFacts v.facts := by
  have charted (facts : List Fact) : facts.filterMap Exits.direction? =
      (facts.filter fun fact => mapPredicates.contains fact.predicate).filterMap Exits.direction? := by
    rw [List.filterMap_filter]
    refine List.filterMap_congr fun fact _ => ?_
    split
    next => rfl
    next missing =>
      refine Option.eq_none_iff_forall_ne_some.mpr fun ⟨direction, a, b⟩ read => missing ?_
      rw [List.contains_iff_mem, (Exits.direction?_eq_some read).1]
      exact predicate_mem_mapPredicates direction
  have same := SortedSet.filter_toList_congr fun fact charted => map fact (List.contains_iff_mem.mp charted)
  rw [Exits.ofFacts, World.facts, charted, same, ← charted, ← World.facts, ← Exits.ofFacts]

include old lawful

/-- On an unchanged map every link still has its reverse. -/
theorem linkFlaws_of_map (links : ∀ fact ∈ v.state.factsNamed "link", v.linkFlaws v.rooms fact = []) :
    ∀ fact ∈ w.state.factsNamed "link", w.linkFlaws w.rooms fact = [] := by
  intro fact member
  obtain ⟨holds, named⟩ := lawful.built.indexed.mem_factsNamed.mp member
  obtain ⟨room, door, target, rfl, isRoom, isTarget⟩ := exists_link lawful.built lawful.core holds named
  have linked : "link" ∈ mapPredicates := List.mem_cons_self
  have before := (map _ linked).mp holds
  have first : room ∈ [room, door, target] := by simp
  have last : target ∈ [room, door, target] := by simp
  have flawless := (World.linkFlaws_eq_nil_iff (old.name_mem_roomNames before first isRoom)
    (old.name_mem_roomNames before last isTarget)).mp (links _ (old.built.indexed.mem_factsNamed.mpr ⟨before, rfl⟩))
  rw [← exits_eq_of_map map, ← map _ linked] at flawless
  exact (World.linkFlaws_eq_nil_iff (lawful.name_mem_roomNames holds first isRoom)
    (lawful.name_mem_roomNames holds last isTarget)).mpr flawless

/-- On an unchanged map every exit of a room that there was still leads to a room and back. -/
theorem exitFlaws_of_map (known : ∀ e ∈ w.state.entities, IsA e "r" → e ∈ v.state.entities)
    (exits : ∀ room ∈ v.rooms.values, World.exitFlaws v.rooms room = []) :
    ∀ room ∈ w.rooms.values, World.exitFlaws w.rooms room = [] := by
  rw [World.exitFlaws_eq_nil_iff] at exits ⊢
  intro name called direction target leads
  obtain ⟨e, here, isA, rfl⟩ := lawful.mem_roomNames.mp called
  obtain ⟨⟨predicate, arguments⟩, listed, a, b, read, rfl, -⟩ := Exits.exists_of_ofFacts leads
  obtain ⟨rfl, rfl⟩ := Exits.direction?_eq_some read
  have holds : ⟨direction.predicate, [a, b]⟩ ∈ w.state.facts := Std.ExtTreeSet.mem_toList.mp listed
  have before : e.name ∈ v.state.roomNames := old.mem_roomNames.mpr ⟨e, known e here isA, isA, rfl⟩
  rw [exits_eq_of_map map] at leads ⊢
  exact ⟨lawful.name_mem_roomNames holds List.mem_cons_self (isA_of_direction lawful.built lawful.core holds).1,
    (exits _ before direction _ leads).2⟩

end Map

/-- Play with the core rules keeps a world accepted: if no two of its entities share a name and what was eaten is
nowhere, each state that its actions reach is the state of an accepted world. -/
theorem check_of_reaches (built : s.Built) (core : s.kb = knowledge)
    (named : ∀ x ∈ s.entities, ∀ y ∈ s.entities, x.name = y.name → x = y)
    (gone : ∀ e, ⟨"eaten", [e]⟩ ∈ s.facts → ∀ fact ∈ s.facts,
      ["at", "in", "on"].contains fact.predicate = true → fact.arguments.head? ≠ some e)
    (valid : World.ofState s >>= World.check = .ok ()) (reach : s.Reaches s.kb.rules t) :
    World.ofState t >>= World.check = .ok () := by
  obtain ⟨v, made, accepted⟩ := bind_eq_ok_iff.mp valid
  obtain rfl := World.ofState_state made
  have tidy := tidy_of_check built core named gone accepted
  obtain ⟨-, -, links, exits, -⟩ := World.check_eq_ok_iff.mp accepted
  rw [core] at reach
  obtain ⟨kept, map, known⟩ := tidy.of_reaches reach
  obtain ⟨w, made⟩ := World.exists_ofState fun fact member =>
    Nat.le_of_eq (length_of_at kept.lawful.built kept.lawful.core fact member).symm
  obtain rfl := World.ofState_state made
  have rooms : ∀ e ∈ w.state.entities, IsA e "r" → e ∈ v.state.entities := fun e here isA =>
    known e here (isA.type_ne_inventory (by simp))
  exact bind_eq_ok_iff.mpr ⟨w, made, World.check_eq_ok_iff.mpr ⟨kept.playerPlacements, fun _ => kept.thingFlaws,
    linkFlaws_of_map tidy.lawful kept.lawful map links, exitFlaws_of_map tidy.lawful kept.lawful map rooms exits,
    kept.lawful.unviolated⟩⟩

def doorwayFacts : List Fact :=
  [⟨"at", [⟨"P", "P"⟩, ⟨"kitchen", "r"⟩]⟩, ⟨"at", [⟨"chest", "c"⟩, ⟨"kitchen", "r"⟩]⟩, ⟨"locked", [⟨"chest", "c"⟩]⟩,
    ⟨"north_of", [⟨"pantry", "r"⟩, ⟨"kitchen", "r"⟩]⟩, ⟨"south_of", [⟨"kitchen", "r"⟩, ⟨"pantry", "r"⟩]⟩,
    ⟨"link", [⟨"kitchen", "r"⟩, ⟨"hatch", "d"⟩, ⟨"pantry", "r"⟩]⟩,
    ⟨"link", [⟨"pantry", "r"⟩, ⟨"hatch", "d"⟩, ⟨"kitchen", "r"⟩]⟩, ⟨"closed", [⟨"hatch", "d"⟩]⟩,
    ⟨"eaten", [⟨"apple", "f"⟩]⟩]

/-- A closed hatch is between the player and the pantry, and an apple has been eaten. -/
def doorway : State := (State.empty knowledge).insertAll doorwayFacts

theorem check_of_reaches_doorway : doorway.Built ∧ doorway.kb = knowledge ∧
    (∀ x ∈ doorway.entities, ∀ y ∈ doorway.entities, x.name = y.name → x = y) ∧
    (∀ e, ⟨"eaten", [e]⟩ ∈ doorway.facts → ∀ fact ∈ doorway.facts,
      ["at", "in", "on"].contains fact.predicate = true → fact.arguments.head? ≠ some e) ∧
    World.ofState doorway >>= World.check = .ok () ∧ ∃ t, doorway.Reaches doorway.kb.rules t ∧
      ⟨"free", [⟨"kitchen", "r"⟩, ⟨"pantry", "r"⟩]⟩ ∈ t.facts ∧ World.ofState t >>= World.check = .ok () := by
  have built : doorway.Built :=
    .addFacts (.empty knowledge) (rfl : (State.empty knowledge).addFacts doorwayFacts = .ok doorway)
  have named : ∀ x ∈ doorway.entities, ∀ y ∈ doorway.entities, x.name = y.name → x = y := by decide
  have gone : ∀ e, ⟨"eaten", [e]⟩ ∈ doorway.facts → ∀ fact ∈ doorway.facts,
      ["at", "in", "on"].contains fact.predicate = true → fact.arguments.head? ≠ some e := by
    have separate : ∀ eaten ∈ doorway.facts.toList, eaten.predicate = "eaten" → ∀ fact ∈ doorway.facts.toList,
        ["at", "in", "on"].contains fact.predicate = true → fact.arguments.head? ≠ eaten.arguments.head? := by
      decide
    intro e eaten fact member
    rw [← Std.ExtTreeSet.mem_toList] at eaten member
    exact separate _ eaten rfl fact member
  have valid : World.ofState doorway >>= World.check = .ok () := by decide
  have opened : ∃ action ∈ doorway.actions doorway.kb.rules Binding.fixed, doorway.applicable action = true ∧
      (∀ fact ∈ action.added.toList, (doorway.kb.factFault fact).isNone = true) ∧
      ⟨"free", [⟨"kitchen", "r"⟩, ⟨"pantry", "r"⟩]⟩ ∈ action.after.toList := by decide +kernel
  obtain ⟨action, listed, applicable, faultless, frees⟩ := opened
  have applied := State.apply_of_faultless applicable faultless
  have reach := State.Reaches.next .start listed applied
  refine ⟨built, rfl, named, gone, valid, _, reach, ?_, check_of_reaches built rfl named gone valid reach⟩
  exact (State.mem_apply applied).mpr (.inl (Std.ExtTreeSet.mem_toList.mp frees))

end Adventure.Core
