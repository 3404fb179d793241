import Adventure.Proofs.Logic.Minting
import Adventure.Proofs.Random.Choice
import Adventure.Proofs.World.Introduction
import Adventure.World.Population

namespace Adventure

namespace World

variable {w : World}

theorem newEntity_fresh (w : World) (type : String) :
    (w.newEntity type).1.type = type ∧ ∀ x ∈ w.state.entities, x.name ≠ (w.newEntity type).1.name := by
  obtain ⟨number, -, minted, free, -⟩ := w.names.mint_spec type w.state.entityNames
  have made : (w.newEntity type).1 = ⟨FreshNames.numbered type number, type⟩ := minted
  rw [made]
  exact ⟨rfl, fun x known same => free (List.mem_map.mpr ⟨x, known, same⟩)⟩

theorem entity_of_mem_roomList {room : Room} (member : room ∈ w.roomList) : room.entity ∈ w.state.entitiesOf "r" := by
  obtain ⟨name, here⟩ := SortedMap.mem_values.mp member
  obtain ⟨entity, listed, same⟩ := List.mem_map.mp (SortedMap.mem_of_eq_some here)
  cases same
  exact listed

theorem entity_of_mem_thingList {thing : Thing} (member : thing ∈ w.thingList) : thing.entity ∈ w.state.entities := by
  obtain ⟨name, here⟩ := SortedMap.mem_values.mp member
  exact (things_eq_some here).2.1

theorem keyless_eq_some {lock : Entity} (found : w.keyless = some lock) : lock ∈ w.state.entities ∧
    (w.descends lock "c" = true ∨ w.descends lock "d" = true) ∧
    ∀ fact ∈ w.state.factsNamed "match", fact.arguments[1]? ≠ some lock := by
  obtain ⟨thing, first, rfl⟩ := Option.map_eq_some_iff.mp found
  have chosen := List.find?_some first
  simp only [Bool.and_eq_true, Bool.or_eq_true, Bool.not_eq_true', List.any_eq_false, beq_iff_eq] at chosen
  obtain ⟨⟨kind, -⟩, unmatched⟩ := chosen
  exact ⟨entity_of_mem_thingList (List.mem_of_find?_eq_some first), kind, unmatched⟩

/-- The types of things that can be drawn, with their weights. -/
def thingWeights (kb : KnowledgeBase) (weights : Weights) : List (String × Float) :=
  (((kb.types.subtypes "t").filter fun type => !(["d"].any (kb.types.descends type))).map fun type =>
    (type, weights.getD type 0.0)).filter (·.2 > 0.0)

end World

namespace Core

variable {s : State} {w : World} {e : Entity}

/-- A fact that says where an entity is, by naming what is there already. -/
structure Located (s : State) (e : Entity) (fact : Fact) : Prop where
  stated : knowledge.checkFact fact = .ok ()
  settled : fact.aspect = some (.place, e)
  first : ∃ rest, fact.arguments = e :: rest ∧ ∀ x ∈ rest, x ∈ s.entities

theorem Located.predicate_ne {fact : Fact} (located : Located s e fact) : fact.predicate ≠ "match" := by
  intro key
  have place := (Fact.aspect_eq_some_iff.mp located.settled).1
  rw [key] at place
  cases place

/-- What can take a thing, and how. -/
def holderKinds : List (String × String) := [("at", "r"), ("on", "s"), ("in", "c")]

theorem holder_signatures : ∀ way ∈ holderKinds, Aspect.ofPredicate way.1 = some .place ∧
    ∃ item ∈ ["t", "o"], ⟨way.1, [item, way.2]⟩ ∈ signatures ∧ types.descends "o" item = true := by
  decide

/-- An object can be wherever there is a holder. -/
theorem located_of_holder {predicate kind : String} {holder : Entity} (object : IsA e "o")
    (way : (predicate, kind) ∈ holderKinds) (known : holder ∈ s.entities) (isA : IsA holder kind) :
    Located s e ⟨predicate, [e, holder]⟩ := by
  obtain ⟨place, item, -, declared, above⟩ := holder_signatures _ way
  have isItem : IsA e item := ⟨object.known, types_transitive _ _ _ object.descends above⟩
  refine ⟨stated_of_signature declared (.cons isItem (.cons isA .nil)), ?_, [holder], rfl, ?_⟩
  · exact Fact.aspect_eq_some_iff.mpr ⟨place, [holder], rfl⟩
  · simpa using known

theorem located_of_room {room : Entity} (thing : IsA e "t") (known : room ∈ s.entities) (isA : IsA room "r") :
    Located s e ⟨"at", [e, room]⟩ := by
  have declared : ⟨"at", ["t", "r"]⟩ ∈ signatures := by decide
  refine ⟨stated_of_signature declared (.cons thing (.cons isA .nil)), ?_, [room], rfl, ?_⟩
  · exact Fact.aspect_eq_some_iff.mpr ⟨rfl, [room], rfl⟩
  · simpa using known

section Kinds

variable {place : Fact} (fresh : ∀ x ∈ s.entities, x.name ≠ e.name) (located : Located s e place)

include fresh located

theorem introduces_alone (thing : IsA e "t") (ordinary : ¬ IsA e "d") (solid : ¬ IsA e "c") :
    Introduces s e [place] where
  fresh := fresh
  thing := thing
  ordinary := ordinary
  stated := by simpa using located.stated
  first := by simpa using located.first
  nonempty := by simp
  nodup := by simp
  once := by simp
  openable container := absurd container solid
  unlocked := by simp [located.predicate_ne]

theorem introduces_container (container : IsA e "c") {condition : String} (among : condition ∈ World.openStates) :
    Introduces s e [place, ⟨condition, [e]⟩] where
  fresh := fresh
  thing := IsA.thing (.inr container)
  ordinary door := door.not_disjoint container (by decide)
  stated := by
    have declared : ∀ condition ∈ World.openStates, ⟨condition, ["c"]⟩ ∈ signatures := by decide
    have stated := stated_of_signature (declared condition among) (.cons container .nil)
    simpa using ⟨located.stated, stated⟩
  first := by simpa using located.first
  nonempty := by simp
  nodup := by
    have settled := aspect_of_openStates among e
    have apart : place ≠ ⟨condition, [e]⟩ := by
      rintro rfl
      cases located.settled.symm.trans settled
    simpa using apart
  once := by
    have settled := aspect_of_openStates among e
    simp [located.settled, settled]
  openable _ := ⟨_, by simp, aspect_of_openStates among e⟩
  unlocked := by
    have other : ∀ condition ∈ World.openStates, condition ≠ "match" := by decide
    simp [located.predicate_ne, other condition among]

theorem introduces_key (key : IsA e "k") {lock : Entity} (known : lock ∈ s.entities)
    (kind : IsA lock "c" ∨ IsA lock "d")
    (keyless : ∀ fact ∈ s.facts, fact.predicate = "match" → fact.arguments[1]? ≠ some lock) :
    Introduces s e [⟨"match", [e, lock]⟩, place] where
  fresh := fresh
  thing := ⟨key.known, types_transitive _ _ _ key.descends (by decide)⟩
  ordinary door := door.not_disjoint key (by decide)
  stated := by
    have declared : ∀ kind ∈ ["c", "d"], ⟨"match", ["k", kind]⟩ ∈ signatures := by decide
    have stated : knowledge.checkFact ⟨"match", [e, lock]⟩ = .ok () := by
      rcases kind with container | door
      · exact stated_of_signature (declared "c" (by simp)) (.cons key (.cons container .nil))
      · exact stated_of_signature (declared "d" (by simp)) (.cons key (.cons door .nil))
    simpa using ⟨stated, located.stated⟩
  first := by simpa using ⟨known, located.first⟩
  nonempty := by simp
  nodup := by
    have apart : (⟨"match", [e, lock]⟩ : Fact) ≠ place := by
      rintro rfl
      exact located.predicate_ne rfl
    simpa using apart
  once := by
    have unsettled : (⟨"match", [e, lock]⟩ : Fact).aspect = none := rfl
    simp [located.settled, unsettled]
  openable container := absurd (by decide) (container.not_disjoint key)
  unlocked := by
    have others : ∀ g ∈ s.facts, g.predicate = "match" → some lock ≠ g.arguments[1]? := fun g holds named same =>
      keyless g holds named same.symm
    simpa [located.predicate_ne] using others

end Kinds

/-- The types of things that can be drawn. -/
theorem drawable_types : ∀ type ∈ (types.subtypes "t").filter (fun type => !(["d"].any (types.descends type))),
    types.contains type = true ∧ types.descends type "t" = true ∧ types.descends type "d" = false ∧
    (types.descends type "c" = true ∨ types.descends type "s" = true ∨ types.descends type "o" = true) := by
  decide

/-- Once nothing lacks a key, the next thing is of a type that is drawn. -/
theorem nextThing_of_locked (core : w.state.kb = knowledge) (found : w.keyless = none) (weights : Weights) (rng : Rng) :
    (w.nextThing weights rng).1 =
      match (Random.chooseWeighted (World.thingWeights knowledge weights) rng).1 with
      | .error error => .error error
      | .ok none => .ok none
      | .ok (some type) => .ok (some (((w.newEntity type).2.thingFacts (w.newEntity type).1
          (Random.chooseWeighted (World.thingWeights knowledge weights) rng).2).1, (w.newEntity type).2)) := by
  have draw : w.kb.types.sample "t" ["d"] (some weights) false =
      Random.chooseWeighted (World.thingWeights knowledge weights) := by
    rw [World.kb, core]
    rfl
  rw [World.nextThing, found]
  simp only [Random.bind_eq, draw]
  generalize (Random.chooseWeighted (World.thingWeights knowledge weights) rng).1 = drawn
  rcases drawn with error | _ | type <;> rfl

namespace Accepted

theorem isA (accepted : Accepted w) (known : e ∈ w.state.entities) {type : String}
    (descends : w.descends e type = true) : IsA e type :=
  ⟨accepted.orderly.lawful.known known, (descends_eq accepted.core e type).symm.trans descends⟩

theorem room (accepted : Accepted w) {room : Room} (member : room ∈ w.roomList) :
    room.entity ∈ w.state.entities ∧ IsA room.entity "r" := by
  obtain ⟨known, descends⟩ := List.mem_filter.mp (World.entity_of_mem_roomList member)
  exact ⟨known, accepted.isA known descends⟩

/-- The player is somewhere, so there is a room. -/
theorem roomList_ne_nil (accepted : Accepted w) : w.roomList ≠ [] := by
  have lawful := accepted.orderly.lawful
  obtain ⟨fact, holds, ⟨named, -⟩, -⟩ := accepted.orderly.player
  obtain ⟨x, u, arguments, -, isRoom⟩ := exists_at lawful.built lawful.core holds named
  have mentioned : u ∈ fact.arguments := by simp [arguments]
  have known : u.name ∈ w.rooms := World.mem_rooms.mpr (lawful.name_mem_roomNames holds mentioned isRoom)
  obtain ⟨room, here⟩ := SortedMap.mem_iff.mp known
  exact List.ne_nil_of_mem (SortedMap.mem_values.mpr ⟨u.name, here⟩)

theorem holder (accepted : Accepted w) {avoid : Option String} {way : String × Entity}
    (listed : way ∈ w.holders avoid) :
    way.2 ∈ w.state.entities ∧ ∃ kind, (way.1, kind) ∈ holderKinds ∧ IsA way.2 kind := by
  rcases List.mem_append.mp listed with inRoom | byThing
  · obtain ⟨room, member, rfl⟩ := List.mem_map.mp inRoom
    obtain ⟨known, isRoom⟩ := accepted.room member
    exact ⟨known, "r", by simp [holderKinds], isRoom⟩
  · obtain ⟨thing, member, taken⟩ := List.mem_filterMap.mp byThing
    have known := World.entity_of_mem_thingList member
    split at taken
    next => cases taken
    next =>
      split at taken
      next supporter =>
        cases taken
        exact ⟨known, "s", by simp [holderKinds], accepted.isA known supporter⟩
      next =>
        split at taken
        next container =>
          cases taken
          exact ⟨known, "c", by simp [holderKinds], accepted.isA known container⟩
        next => cases taken

theorem located_placeOf (accepted : Accepted w) (object : IsA e "o") (avoid : Option String) (rng : Rng) :
    Located w.state e (w.placeOf e avoid rng).1 := by
  have some : w.holders avoid ≠ [] := by
    refine List.append_ne_nil_of_left_ne_nil ?_ _
    simpa using accepted.roomList_ne_nil
  obtain ⟨⟨predicate, holder⟩, listed, chosen⟩ := Random.exists_choose some rng
  obtain ⟨known, kind, way, isA⟩ := accepted.holder listed
  rw [World.placeOf, Random.bind_eq, chosen]
  exact located_of_holder object way known isA

/-- The facts that are drawn about a new thing introduce it. -/
theorem introduces_thingFacts (accepted : Accepted w) (fresh : ∀ x ∈ w.state.entities, x.name ≠ e.name)
    (thing : IsA e "t") (ordinary : ¬ IsA e "d") (kinds : IsA e "c" ∨ IsA e "s" ∨ IsA e "o") (rng : Rng) :
    Introduces w.state e (w.thingFacts e rng).1 := by
  have descends {type : String} : w.descends e type = true ↔ IsA e type := by
    rw [descends_eq accepted.core]
    exact ⟨fun descends => ⟨thing.known, descends⟩, IsA.descends⟩
  obtain ⟨room, member, chosen⟩ := Random.exists_choose accepted.roomList_ne_nil rng
  obtain ⟨known, isRoom⟩ := accepted.room member
  have located := located_of_room thing known isRoom
  by_cases container : IsA e "c"
  · obtain ⟨condition, among, drawn⟩ :=
      Random.exists_choose (by decide : ["open", "closed", "locked"] ≠ []) (Random.choose w.roomList rng).2
    have run : (w.thingFacts e rng).1 = [⟨"at", [e, room.entity]⟩, ⟨condition, [e]⟩] := by
      rw [World.thingFacts]
      simp only [descends.mpr container, Bool.true_or, if_true]
      rw [Random.bind_eq, chosen, Random.bind_eq, drawn]
      rfl
    rw [run]
    exact introduces_container fresh located container among
  · by_cases supporter : IsA e "s"
    · have run : (w.thingFacts e rng).1 = [⟨"at", [e, room.entity]⟩] := by
        rw [World.thingFacts]
        simp only [Bool.eq_false_iff.mpr (mt descends.mp container), descends.mpr supporter, Bool.false_or, if_true]
        rw [Random.bind_eq, chosen]
        rfl
      rw [run]
      exact introduces_alone fresh located thing ordinary container
    · have run : (w.thingFacts e rng).1 = [(w.placeOf e none rng).1] := by
        rw [World.thingFacts]
        simp only [Bool.eq_false_iff.mpr (mt descends.mp container), Bool.eq_false_iff.mpr (mt descends.mp supporter)]
        rfl
      rw [run]
      have object := (kinds.resolve_left container).resolve_left supporter
      exact introduces_alone fresh (accepted.located_placeOf object none rng) thing ordinary container

/-- The next thing is introduced, unless there is none to draw or the weights have no finite sum. -/
theorem nextThing_cases (accepted : Accepted w) (weights : Weights) (rng : Rng) :
    ((w.nextThing weights rng).1 = .ok none ∧ World.thingWeights knowledge weights = []) ∨
    ((w.nextThing weights rng).1 = .error .endlessWeights ∧
      ¬ Random.Summable (World.thingWeights knowledge weights)) ∨
    ∃ e facts names, (w.nextThing weights rng).1 = .ok (some (facts, { w with names })) ∧
      Introduces w.state e facts := by
  have lawful := accepted.orderly.lawful
  have made (type : String) : Accepted (w.newEntity type).2 :=
    ⟨accepted.built, accepted.core, accepted.named, accepted.valid⟩
  cases found : w.keyless with
  | some lock =>
    right
    right
    obtain ⟨known, kind, unmatched⟩ := World.keyless_eq_some found
    obtain ⟨type, fresh⟩ := w.newEntity_fresh "k"
    have key : IsA (w.newEntity "k").1 "k" := by
      refine ⟨?_, ?_⟩ <;> rw [type] <;> decide
    have object : IsA (w.newEntity "k").1 "o" := ⟨key.known, types_transitive _ _ _ key.descends (by decide)⟩
    have located := (made "k").located_placeOf object (some lock.name) rng
    have run : (w.nextThing weights rng).1 = .ok (some ([⟨"match", [(w.newEntity "k").1, lock]⟩,
        ((w.newEntity "k").2.placeOf (w.newEntity "k").1 (some lock.name) rng).1], (w.newEntity "k").2)) := by
      rw [World.nextThing, found]
      rfl
    refine ⟨_, _, _, run, introduces_key fresh located key known ?_ fun fact holds named => ?_⟩
    · exact kind.imp (accepted.isA known) (accepted.isA known)
    · exact unmatched fact (lawful.built.indexed.mem_factsNamed.mpr ⟨holds, named⟩)
  | none =>
    by_cases nothing : World.thingWeights knowledge weights = []
    · left
      refine ⟨?_, nothing⟩
      rw [nextThing_of_locked accepted.core found, nothing]
      rfl
    right
    by_cases summable : Random.Summable (World.thingWeights knowledge weights)
    · right
      obtain ⟨item, member, drawn⟩ := Random.exists_chooseWeighted summable nothing rng
      obtain ⟨listed, -⟩ := List.mem_filter.mp member
      obtain ⟨type, candidate, rfl⟩ := List.mem_map.mp listed
      obtain ⟨known, thing, door, kinds⟩ := drawable_types type candidate
      obtain ⟨same, fresh⟩ := w.newEntity_fresh type
      have isA {kind : String} (descends : types.descends type kind = true) : IsA (w.newEntity type).1 kind :=
        ⟨same ▸ known, same ▸ descends⟩
      have ordinary : ¬ IsA (w.newEntity type).1 "d" := by
        rintro ⟨-, descends⟩
        rw [same, door] at descends
        cases descends
      rw [nextThing_of_locked accepted.core found, drawn]
      exact ⟨_, _, _, rfl, (made type).introduces_thingFacts fresh (isA thing) ordinary
        (kinds.imp isA (Or.imp isA isA)) _⟩
    · left
      refine ⟨?_, summable⟩
      rw [nextThing_of_locked accepted.core found, Random.chooseWeighted_eq_error summable]

end Accepted

/-- How a world comes to be another by new facts about things drawn from weighted types. -/
structure Populates (items : List (String × Float)) (w : World) (count : Nat) (new : List Fact) (v : World)
    (fault : Option Error) : Prop where
  accepted : Accepted v
  facts : ∀ fact, fact ∈ v.state.facts ↔ fact ∈ w.state.facts ∨ fact ∈ new
  absent : ∀ fact ∈ new, fact ∉ w.state.facts
  nodup : new.Nodup
  finished : fault = none ∨ fault = some .endlessWeights ∧ ¬ Random.Summable items
  counted : items ≠ [] → fault = none → v.state.entities.length = w.state.entities.length + count

namespace Populates

variable {items : List (String × Float)} {v : World} {fault : Option Error} {count : Nat} {facts new : List Fact}

theorem nothing (accepted : Accepted w)
    (finished : fault = none ∨ fault = some .endlessWeights ∧ ¬ Random.Summable items)
    (short : items ≠ [] → fault = none → count = 0) : Populates items w count [] w fault where
  accepted := accepted
  facts := by simp
  absent := by simp
  nodup := .nil
  finished := finished
  counted some done := by rw [short some done, Nat.add_zero]

/-- One thing comes first, and the others after it. -/
theorem next {between : World} (indexed : w.state.Indexed) (first : Introduces w.state e facts)
    (state : between.state = w.state.insertAll facts) (rest : Populates items between count new v fault) :
    Populates items w (count + 1) (facts ++ new) v fault := by
  have known : ∀ fact, fact ∈ between.state.facts ↔ fact ∈ facts ∨ fact ∈ w.state.facts := fun fact => by
    rw [state, State.mem_insertAll]
  have absent : ∀ fact ∈ facts, fact ∉ w.state.facts := fun fact member holds =>
    first.not_mentioned indexed holds (List.mem_of_getElem? (first.getElem?_zero member))
  refine ⟨rest.accepted, fun fact => ?_, fun fact member holds => ?_, ?_, rest.finished, fun some done => ?_⟩
  · rw [rest.facts, known, List.mem_append]
    grind
  · rcases List.mem_append.mp member with early | late
    · exact absent fact early holds
    · exact rest.absent fact late ((known fact).mpr (.inr holds))
  · refine List.nodup_append.mpr ⟨first.nodup, rest.nodup, fun f early g late same => ?_⟩
    exact rest.absent g late ((known g).mpr (.inl (same ▸ early)))
  · have one := (first.entities_perm indexed).length_eq
    rw [← state, List.length_cons] at one
    rw [rest.counted some done, one]
    omega

end Populates

/-- Adding things keeps a world accepted, however many are added and whatever is drawn. -/
theorem Accepted.populates (accepted : Accepted w) (weights : Weights) (count : Nat) (added : List Fact) (rng : Rng) :
    ∃ new, (World.addThings weights count w added rng).1.added = added ++ new ∧
      Populates (World.thingWeights knowledge weights) w count new (World.addThings weights count w added rng).1.world
        (World.addThings weights count w added rng).1.fault := by
  induction count generalizing w added rng with
  | zero => exact ⟨[], (List.append_nil added).symm, .nothing accepted (.inl rfl) fun _ _ => rfl⟩
  | succ count ih =>
    rw [World.addThings, Random.bind_eq]
    rcases accepted.nextThing_cases weights rng with ⟨run, none⟩ | ⟨run, endless⟩ | ⟨e, facts, names, run, new⟩
    · rw [run]
      exact ⟨[], (List.append_nil added).symm, .nothing accepted (.inl rfl) fun some => absurd none some⟩
    · rw [run]
      refine ⟨[], (List.append_nil added).symm, .nothing accepted (.inr ⟨rfl, endless⟩) fun _ done => ?_⟩
      cases done
    · have stated : w.state.addFacts facts = .ok (w.state.insertAll facts) :=
        State.addFacts_eq_ok_iff.mpr ⟨accepted.core ▸ new.stated, rfl⟩
      have after : Accepted ⟨w.state.insertAll facts, w.positions, names⟩ := accepted.introduce new rfl
      obtain ⟨positions, placed⟩ := World.exists_laidOut (w := ⟨w.state.insertAll facts, w.positions, names⟩)
        fun fact member => Nat.le_of_eq (length_of_at after.orderly.lawful.built after.orderly.lawful.core fact member).symm
      rw [run]
      simp only [stated, placed]
      have later : Accepted ⟨w.state.insertAll facts, positions, names⟩ := accepted.introduce new rfl
      obtain ⟨others, listed, rest⟩ := ih later (added ++ facts) (w.nextThing weights rng).2
      refine ⟨facts ++ others, ?_, .next accepted.built.indexed new rfl rest⟩
      rw [listed, List.append_assoc]

/-- Populating keeps a world accepted, whatever is drawn: if no two entities share a name, none do afterwards, the facts
that were added are new, and they are all that changes. The work is cut short only by weights without a finite sum; if
there is anything to draw, there is a new entity each time. -/
theorem populate_accepted (built : w.state.Built) (core : w.state.kb = knowledge)
    (named : ∀ x ∈ w.state.entities, ∀ y ∈ w.state.entities, x.name = y.name → x = y) (valid : w.check = .ok ())
    (count : Nat) (weights : Option Weights) (rng : Rng) :
    let items := World.thingWeights knowledge (weights.getD World.usualWeights)
    let after := (w.populate count weights rng).1
    (Random.Summable items → after.fault = none) ∧ (after.fault = none ∨ after.fault = some .endlessWeights) ∧
    (∀ fact, fact ∈ after.world.state.facts ↔ fact ∈ w.state.facts ∨ fact ∈ after.added) ∧
    (∀ fact ∈ after.added, fact ∉ w.state.facts) ∧ after.added.Nodup ∧
    (items ≠ [] → after.fault = none → after.world.state.entities.length = w.state.entities.length + count) ∧
    (∀ x ∈ after.world.state.entities, ∀ y ∈ after.world.state.entities, x.name = y.name → x = y) ∧
    after.world.check = .ok () := by
  intro items after
  have accepted : Accepted w := ⟨built, core, named, valid⟩
  have filled : ¬ w.rooms.isEmpty = true := by
    intro none
    refine accepted.roomList_ne_nil ?_
    rw [World.roomList, Std.ExtTreeMap.isEmpty_iff.mp none, SortedMap.values_eq]
    rfl
  obtain ⟨new, listed, populates⟩ := accepted.populates (weights.getD World.usualWeights) count [] rng
  have run : after = (World.addThings (weights.getD World.usualWeights) count w [] rng).1 := by
    simp only [after, World.populate, filled]
    rfl
  rw [← run] at listed populates
  rw [List.nil_append] at listed
  rw [listed]
  refine ⟨fun summable => ?_, ?_, populates.facts, populates.absent, populates.nodup, populates.counted,
    populates.accepted.named, populates.accepted.valid⟩
  · exact populates.finished.resolve_right fun endless => endless.2 summable
  · exact populates.finished.imp_right And.left

theorem usualWeights_summable : Random.Summable (World.thingWeights knowledge World.usualWeights) := by
  unfold Random.Summable
  decide +kernel

/-- Neither the chest nor the hatch of the doorway has a key, so two of the four things are keys. -/
theorem populate_accepted_doorway : ∃ w, World.ofState doorway = .ok w ∧ w.state.Built ∧ w.state.kb = knowledge ∧
    (∀ x ∈ w.state.entities, ∀ y ∈ w.state.entities, x.name = y.name → x = y) ∧ w.check = .ok () ∧
    (w.populate 4 none (.ofSeed 7)).1.fault = none ∧
    (∀ fact, fact ∈ (w.populate 4 none (.ofSeed 7)).1.world.state.facts ↔
      fact ∈ w.state.facts ∨ fact ∈ (w.populate 4 none (.ofSeed 7)).1.added) ∧
    (w.populate 4 none (.ofSeed 7)).1.world.state.entities.length = 10 ∧
    (w.populate 4 none (.ofSeed 7)).1.world.check = .ok () := by
  have named : ∀ x ∈ doorway.entities, ∀ y ∈ doorway.entities, x.name = y.name → x = y := by decide
  obtain ⟨w, made, valid⟩ := bind_eq_ok_iff.mp (by decide : World.ofState doorway >>= World.check = .ok ())
  have state : w.state = doorway := World.ofState_state made
  have built : w.state.Built := by
    rw [state]
    exact .addFacts (.empty knowledge) (rfl : (State.empty knowledge).addFacts doorwayFacts = .ok doorway)
  have core : w.state.kb = knowledge := by rw [state]; rfl
  have entities : w.state.entities.length = 6 := by rw [state]; decide
  obtain ⟨finished, -, facts, -, -, counted, -, check⟩ :=
    populate_accepted built core (state ▸ named) valid 4 none (.ofSeed 7)
  have done := finished usualWeights_summable
  refine ⟨w, made, built, core, state ▸ named, valid, done, facts, ?_, check⟩
  rw [counted (by decide +kernel) done, entities]

def larderFacts : List Fact := [⟨"at", [⟨"P", "P"⟩, ⟨"larder", "r"⟩]⟩]

/-- The player alone in a larder. -/
def larder : World :=
  ⟨(State.empty knowledge).insertAll larderFacts, SortedMap.of [("larder", ⟨0, 0⟩)], FreshNames.empty⟩

/-- Two weights that are finite, but not together. -/
def overweight : Weights := SortedMap.of [("f", 1e308), ("o", 1e308)]

/-- An accepted world cannot be populated with weights whose sum is not finite. -/
theorem populate_overweight : World.ofState larder.state = .ok larder ∧ larder.state.Built ∧
    larder.state.kb = knowledge ∧
    (∀ x ∈ larder.state.entities, ∀ y ∈ larder.state.entities, x.name = y.name → x = y) ∧
    larder.check = .ok () ∧ larder.roomList.length = 1 ∧
    (larder.populate 1 (some overweight) (.ofSeed 1)).1.fault = some .endlessWeights := by
  have built : larder.state.Built :=
    .addFacts (.empty knowledge) (rfl : (State.empty knowledge).addFacts larderFacts = .ok larder.state)
  have endless : ¬ Random.Summable (World.thingWeights knowledge overweight) := by
    unfold Random.Summable
    decide +kernel
  have next : (larder.nextThing overweight (.ofSeed 1)).1 = .error .endlessWeights := by
    rw [nextThing_of_locked rfl (by decide), Random.chooseWeighted_eq_error endless]
  refine ⟨rfl, built, rfl, by decide, by decide, by decide, ?_⟩
  rw [World.populate, if_neg (by decide), Option.getD_some, World.addThings, Random.bind_eq, next]
  rfl

end Core

end Adventure
