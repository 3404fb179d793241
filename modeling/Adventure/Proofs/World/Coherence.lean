import Adventure.Proofs.World.Completion
import Adventure.Proofs.World.Population

namespace Adventure

open Adventure.Core

namespace World

variable {w v : World} {s : State} {facts : List Fact} {fact : Fact} {a b : Entity}

/-- A fact that is no part of the map. -/
def OffMap (fact : Fact) : Prop := Exits.direction? fact = none ∧ reversed? fact = none

/-- The predicates of facts about things that are added. -/
def thingPredicates : List String := ["match", "at", "on", "in", "open", "closed", "locked"]

theorem offMap_of_predicate (among : fact.predicate ∈ thingPredicates) : OffMap fact := by
  obtain ⟨predicate, arguments⟩ := fact
  have undirected : ∀ name ∈ thingPredicates, Direction.ofPredicate? name = none := by decide
  have unlinked : ∀ name ∈ thingPredicates, name ≠ "link" ∧ name ≠ "free" := by decide
  constructor
  · rw [Exits.direction?]
    split
    · rw [undirected predicate among]
      rfl
    · rfl
  · rw [reversed?]
    split
    next named _ => exact absurd named (unlinked predicate among).1
    next named _ => exact absurd named (unlinked predicate among).2
    next => rfl

theorem not_offMap_direction (direction : Direction) (a b : Entity) : ¬ OffMap ⟨direction.predicate, [a, b]⟩ := by
  rintro ⟨none, -⟩
  rw [Exits.direction?_mk] at none
  cases none

/-- Facts that are no part of it leave a map as it is. -/
theorem Coherent.offMap (coherent : Coherent w) (off : ∀ fact ∈ facts, OffMap fact)
    (added : w.state.addFacts facts = .ok v.state) (apart : v.positions.Apart) : Coherent v where
  built := .addFacts coherent.built added
  core := (State.addFacts_kb added).trans coherent.core
  mirrored direction a b holds := by
    rw [State.mem_addFacts added] at holds ⊢
    rcases holds with new | old
    · exact absurd (off _ new) (not_offMap_direction direction a b)
    · exact .inr (coherent.mirrored direction a b old)
  returns fact holds back made := by
    rw [State.mem_addFacts added] at holds ⊢
    rcases holds with new | old
    · cases (off _ new).2.symm.trans made
    · exact .inr (coherent.returns fact old back made)
  connected fact holds a b joins := by
    rcases (State.mem_addFacts added).mp holds with new | old
    · have none := (off _ new).2
      rcases (connection?_eq_some.mp joins).1 with ⟨door, rfl⟩ | rfl
      · cases none
      · cases none
    · obtain ⟨direction, stated⟩ := coherent.connected fact old a b joins
      exact ⟨direction, (State.mem_addFacts added).mpr (.inr stated)⟩
  apart := apart

/-- A fact about a thing, whose name may be one just coined, and about what there is already. -/
structure Brings (s : State) (fact : Fact) : Prop where
  predicate : fact.predicate ∈ thingPredicates
  arguments : ∀ x ∈ fact.arguments, x ∈ s.entities ∨ x = ⟨"I", "I"⟩ ∨ FreshNames.Coined x

theorem Brings.offMap (brings : Brings s fact) : OffMap fact := offMap_of_predicate brings.predicate

theorem coined_newEntity (w : World) (type : String) : FreshNames.Coined (w.newEntity type).1 :=
  (w.names.minted_mint type w.state.entityNames).coined

theorem known_of_holders {avoid : Option String} {way : String × Entity} (listed : way ∈ w.holders avoid) :
    way.1 ∈ ["at", "on", "in"] ∧ way.2 ∈ w.state.entities := by
  rcases List.mem_append.mp listed with inRoom | byThing
  · obtain ⟨room, member, rfl⟩ := List.mem_map.mp inRoom
    exact ⟨by simp, (List.mem_filter.mp (entity_of_mem_roomList member)).1⟩
  · obtain ⟨thing, member, taken⟩ := List.mem_filterMap.mp byThing
    have known := entity_of_mem_thingList member
    split at taken
    next => cases taken
    next =>
      split at taken
      next =>
        cases taken
        exact ⟨by simp, known⟩
      next =>
        split at taken
        next =>
          cases taken
          exact ⟨by simp, known⟩
        next => cases taken

section Things

variable {e : Entity} (coined : FreshNames.Coined e)

include coined

theorem brings_pair {predicate : String} {holder : Entity} (among : predicate ∈ thingPredicates)
    (there : holder ∈ s.entities ∨ holder = ⟨"I", "I"⟩) : Brings s ⟨predicate, [e, holder]⟩ := by
  refine ⟨among, fun x mentioned => ?_⟩
  rcases List.mem_pair.mp mentioned with rfl | rfl
  · exact .inr (.inr coined)
  · exact there.imp_right .inl

theorem brings_placeOf (w : World) (avoid : Option String) (rng : Rng) : Brings w.state (w.placeOf e avoid rng).1 := by
  rw [placeOf, Random.bind_eq]
  cases chosen : (Random.choose (w.holders avoid) rng).1 with
  | none => exact brings_pair coined (by decide) (.inr rfl)
  | some way =>
    obtain ⟨place, known⟩ := known_of_holders (Random.mem_of_choose chosen)
    have places : ∀ name ∈ ["at", "on", "in"], name ∈ thingPredicates := by decide
    exact brings_pair coined (places way.1 place) (.inl known)

theorem brings_thingFacts (w : World) (rng : Rng) : ∀ fact ∈ (w.thingFacts e rng).1, Brings w.state fact := by
  have place (rng : Rng) : ∀ fact ∈ (Random.choose w.roomList rng).1.elim [] fun room =>
      [(⟨"at", [e, room.entity]⟩ : Fact)], Brings w.state fact := by
    cases chosen : (Random.choose w.roomList rng).1 with
    | none => simp
    | some room =>
      have known := (List.mem_filter.mp (entity_of_mem_roomList (Random.mem_of_choose chosen))).1
      simpa using brings_pair coined (by decide) (.inl known)
  have condition (rng : Rng) : (Random.choose ["open", "closed", "locked"] rng).1.getD "open" ∈ thingPredicates := by
    cases chosen : (Random.choose ["open", "closed", "locked"] rng).1 with
    | none => exact (by decide : "open" ∈ thingPredicates)
    | some name =>
      have states : ∀ name ∈ ["open", "closed", "locked"], name ∈ thingPredicates := by decide
      exact states name (Random.mem_of_choose chosen)
  by_cases container : w.descends e "c" = true
  · intro fact member
    simp only [thingFacts, container, Bool.true_or, if_true, Random.bind_eq] at member
    rcases List.mem_append.mp member with placed | stated
    · exact place _ fact placed
    · cases List.mem_singleton.mp stated
      exact ⟨condition _, by simp [coined]⟩
  · by_cases supporter : w.descends e "s" = true
    · intro fact member
      simp only [thingFacts, container, supporter, Bool.or_true, if_true, Random.bind_eq] at member
      exact place _ fact member
    · intro fact member
      simp only [thingFacts, container, supporter] at member
      cases List.mem_singleton.mp member
      exact brings_placeOf coined w none rng

end Things

theorem nextThing_brings {weights : Weights} {rng : Rng} (next : (w.nextThing weights rng).1 = .ok (some (facts, v))) :
    v.state = w.state ∧ v.positions = w.positions ∧ ∀ fact ∈ facts, Brings w.state fact := by
  rw [nextThing] at next
  cases found : w.keyless with
  | some lock =>
    rw [found] at next
    cases next
    have key := w.coined_newEntity "k"
    refine ⟨rfl, rfl, fun fact member => ?_⟩
    rcases List.mem_pair.mp member with rfl | rfl
    · exact brings_pair key (by decide) (.inl (keyless_eq_some found).1)
    · exact brings_placeOf key (w.newEntity "k").2 _ _
  | none =>
    rw [found] at next
    dsimp only at next
    rw [Random.bind_eq] at next
    generalize (w.kb.types.sample "t" ["d"] (some weights) false rng).1 = drawn at next
    obtain _ | _ | type := drawn
    · cases next
    · cases next
    · cases next
      exact ⟨rfl, rfl, brings_thingFacts (w.coined_newEntity type) (w.newEntity type).2 _⟩

/-- What facts about things and a new layout keep, populating keeps. -/
theorem populate_keeps {P : State → Positions → Prop}
    (keeps : ∀ (s t : State) positions placed facts, P s positions → (∀ fact ∈ facts, Brings s fact) →
      s.addFacts facts = .ok t → t.layout (Exits.ofFacts t.facts.toList) positions = .ok placed → P t placed)
    (holds : P w.state w.positions) (count : Nat) (weights : Option Weights) (rng : Rng) :
    P (w.populate count weights rng).1.world.state (w.populate count weights rng).1.world.positions := by
  have things (weights : Weights) (added : List Fact) {w : World} {rng : Rng} (holds : P w.state w.positions) :
      P (addThings weights count w added rng).1.world.state
        (addThings weights count w added rng).1.world.positions := by
    induction count generalizing w added rng with
    | zero => exact holds
    | succ count ih =>
      rw [addThings, Random.bind_eq]
      cases next : (w.nextThing weights rng).1 with
      | error => exact holds
      | ok drawn =>
        obtain _ | ⟨facts, between⟩ := drawn
        · exact holds
        obtain ⟨state, positions, brings⟩ := nextThing_brings next
        have before : P between.state between.positions := by rwa [state, positions]
        dsimp only
        cases stated : between.state.addFacts facts with
        | error => exact before
        | ok s =>
          dsimp only
          cases laid : laidOut { between with state := s } with
          | error => exact before
          | ok after =>
            obtain ⟨placed, layout, same⟩ := bind_eq_ok_iff.mp laid
            cases same
            exact ih _ (keeps _ _ _ _ _ before (state ▸ brings) stated layout)
  rw [World.populate]
  split
  next => exact holds
  next => exact things _ _ holds

theorem Coherent.congr (coherent : Coherent w) (state : v.state = w.state) (positions : v.positions = w.positions) :
    Coherent v := by
  obtain ⟨built, core, mirrored, returns, connected, apart⟩ := coherent
  rw [← state] at built core mirrored returns connected
  rw [← positions] at apart
  exact ⟨built, core, mirrored, returns, connected, apart⟩

theorem Coherent.populate (coherent : Coherent w) (count : Nat) (weights : Option Weights) (rng : Rng) :
    Coherent (w.populate count weights rng).1.world := by
  have kept := populate_keeps (P := fun s positions => Coherent ⟨s, positions, FreshNames.empty⟩)
    (fun s t positions placed facts before brings added laid =>
      before.offMap (fun fact member => (brings fact member).offMap) added (before.apart.layout laid))
    (coherent.congr rfl rfl) count weights rng
  exact kept.congr rfl rfl

/-- A state in which no direction and no door leads from a room to two others, nothing has been eaten, and all but the
player and the inventory have coined names. -/
structure Furnished (s : State) : Prop where
  unambiguous : s.Unambiguous
  hinged : ∀ a door b c, ⟨"link", [a, door, b]⟩ ∈ s.facts → ⟨"link", [a, door, c]⟩ ∈ s.facts → b = c
  uneaten : ∀ fact ∈ s.facts, fact.predicate ≠ "eaten"
  coined : ∀ e ∈ s.entities, e = ⟨"P", "P"⟩ ∨ e = ⟨"I", "I"⟩ ∨ FreshNames.Coined e

/-- Populating adds no exits, no doors and no meals. -/
theorem Furnished.populate (furnished : Furnished w.state) (built : w.state.Built) (count : Nat)
    (weights : Option Weights) (rng : Rng) : Furnished (w.populate count weights rng).1.world.state := by
  refine (populate_keeps (P := fun s _ => s.Built ∧ Furnished s) ?_ ⟨built, furnished⟩ count weights rng).2
  rintro s t positions placed facts ⟨built, before⟩ brings added -
  have later : t.Built := .addFacts built added
  have old {fact : Fact} (holds : fact ∈ t.facts) (other : fact.predicate ∉ thingPredicates) : fact ∈ s.facts :=
    ((State.mem_addFacts added).mp holds).resolve_left fun new => other (brings fact new).predicate
  have exits (direction : Direction) : direction.predicate ∉ thingPredicates := by cases direction <;> decide
  refine ⟨later, ?unambiguous, ?hinged, ?uneaten, ?coined⟩
  case unambiguous =>
    intro direction room a b holdsA holdsB
    exact before.unambiguous direction room a b (old holdsA (exits direction)) (old holdsB (exits direction))
  case hinged =>
    intro a door b c linkB linkC
    have unlisted : "link" ∉ thingPredicates := by decide
    exact before.hinged a door b c (old linkB unlisted) (old linkC unlisted)
  case uneaten =>
    intro fact holds eaten
    have unlisted : "eaten" ∉ thingPredicates := by decide
    exact before.uneaten fact (old holds (eaten ▸ unlisted)) eaten
  case coined =>
    intro e known
    obtain ⟨fact, holds, mentioned⟩ := later.indexed.mem_entities.mp known
    rcases (State.mem_addFacts added).mp holds with new | stated
    · rcases (brings fact new).arguments e mentioned with there | carried
      · exact before.coined e there
      · exact .inr carried
    · exact before.coined e (built.indexed.mem_entities.mpr ⟨fact, stated, mentioned⟩)

/-- A world that is made from nothing by adding facts and things, any number of times. -/
inductive Grown : World → Prop
  | empty : Grown (World.empty knowledge)
  | addFacts {w v : World} {facts : List Fact} : Grown w → w.addFacts facts = .ok v → Grown v
  | populate {w : World} (count : Nat) (weights : Option Weights) (rng : Rng) :
      Grown w → Grown (w.populate count weights rng).1.world

theorem Grown.coherent (grown : Grown w) : Coherent w := by
  induction grown with
  | empty => exact coherent_empty
  | addFacts _ added ih => exact ih.addFacts added
  | populate count weights rng _ ih => exact ih.populate count weights rng

theorem Coherent.eq_of_position (coherent : Coherent w) {x y : Room} {cell : Cell} (first : x ∈ w.roomList)
    (second : y ∈ w.roomList) (inX : x.position = some cell) (inY : y.position = some cell) : x = y := by
  obtain ⟨nameX, hereX⟩ := SortedMap.mem_values.mp first
  obtain ⟨nameY, hereY⟩ := SortedMap.mem_values.mp second
  rw [position_of_rooms hereX] at inX
  rw [position_of_rooms hereY] at inY
  cases coherent.apart nameX nameY cell inX inY
  exact Option.some.inj (hereX.symm.trans hereY)

/-- A direction that is neither old nor given was found for a connection that is given, and nothing else is said of
either exit. -/
theorem Completes.invented {stated mapped joined : State} {direction : Direction}
    (steps : Completes w facts stated mapped joined v) (mirrored : w.state.Mirrored)
    (holds : ⟨direction.predicate, [b, a]⟩ ∈ v.state.facts) (new : ⟨direction.predicate, [b, a]⟩ ∉ w.state.facts)
    (free : ¬ Given facts direction a b) :
    (∃ fact ∈ facts, connection? fact = some (a, b) ∨ connection? fact = some (b, a)) ∧
    (∀ c, ⟨direction.predicate, [c, a]⟩ ∈ v.state.facts → c = b) ∧
    ∀ c, ⟨direction.opposite.predicate, [c, b]⟩ ∈ v.state.facts → c = a := by
  have absent : ⟨direction.predicate, [b, a]⟩ ∉ mapped.facts := by
    rw [steps.direction_mapped_iff mirrored]
    exact not_or.mpr ⟨new, free⟩
  have absentBack : ⟨direction.opposite.predicate, [a, b]⟩ ∉ mapped.facts := by
    intro holds
    have turned := State.mirrored_of_opposites steps.opposites direction.opposite a b holds
    rw [Direction.opposite_opposite] at turned
    exact absent turned
  rw [steps.mem_direction] at holds
  have back := steps.mirrored_joined direction b a holds
  refine ⟨?_, fun c also => ?_, fun c also => ?_⟩
  · obtain ⟨⟨x, y⟩, queued, other, member⟩ := (steps.joins.old_or_joint holds).resolve_left absent
    obtain ⟨-, fact, given, joins⟩ := (exists_connection queued).resolve_left List.not_mem_nil
    refine ⟨fact, given, ?_⟩
    simp only [State.mem_joint, Fact.mk.injEq, List.cons.injEq, and_true] at member
    rcases member with ⟨-, rfl, rfl⟩ | ⟨-, rfl, rfl⟩
    · exact .inl joins
    · exact .inr joins
  · exact ((steps.joins.old_or_sole holds).resolve_left absent).2 c (steps.mem_direction.mp also)
  · exact ((steps.joins.old_or_sole back).resolve_left absentBack).2 c (steps.mem_direction.mp also)

/-- Two rooms that a given connection joins are still to be joined on the map when those before them are, and each
direction is occupied at one end or the other. -/
def Stuck (w : World) (facts : List Fact) (a b : Entity) : Prop :=
  (∃ fact ∈ facts, connection? fact = some (a, b)) ∧ ∃ stated mapped joined earlier later,
    w.state.addFacts facts = .ok stated ∧ stated.addFacts (stated.facts.toList.filterMap opposite?) = .ok mapped ∧
    unplaced (Exits.ofFacts mapped.facts.toList) [] facts = earlier ++ (a, b) :: later ∧
    mapped.Joins earlier joined ∧
    ∀ direction : Direction, joined.Occupied direction a ∨ joined.Occupied direction.opposite b

/-- On exits that are read off facts about the core world, an exit that is not free is occupied. -/
theorem occupied_of_reads {exits : Exits} {direction : Direction} (built : s.Built) (core : s.kb = knowledge)
    (reads : exits.Reads s) (isA : IsA a "r") (taken : direction ∈ exits.of a.name) : s.Occupied direction a := by
  obtain ⟨target, leads⟩ := SortedMap.mem_iff.mp taken
  obtain ⟨x, y, holds, -, named⟩ := reads.stated _ _ _ leads
  cases (isA_of_direction built core holds).2.eq_of_name isA named
  exact ⟨x, holds⟩

theorem Coherent.exists_stuck (coherent : Coherent w) {room target : String}
    (failed : w.addFacts facts = .error (.noFreeExit room target)) :
    ∃ a b : Entity, a.name = room ∧ b.name = target ∧ Stuck w facts a b := by
  have stateable {s : State} {facts : List Fact} : s.addFacts facts ≠ .error (.noFreeExit room target) := by
    intro wrong
    obtain ⟨_, _, same⟩ := State.addFacts_eq_error wrong
    cases same
  have long {s : State} (built : s.Built) (core : s.kb = knowledge) :
      ∀ fact ∈ s.factsNamed "at", 2 ≤ fact.arguments.length := fun fact member =>
    Nat.le_of_eq (length_of_at built core fact member).symm
  obtain ⟨stated, given, failed⟩ := (bind_eq_error_iff.mp failed).resolve_left stateable
  obtain ⟨mapped, opposites, failed⟩ := (bind_eq_error_iff.mp failed).resolve_left stateable
  have built : mapped.Built := .addFacts (.addFacts coherent.built given) opposites
  have core : mapped.kb = knowledge :=
    (State.addFacts_kb opposites).trans ((State.addFacts_kb given).trans coherent.core)
  obtain ⟨positions, laid⟩ :=
    State.exists_layout (long built core) (Exits.ofFacts mapped.facts.toList) w.positions
  rcases bind_eq_error_iff.mp failed with wrong | ⟨_, _, failed⟩
  · cases laid.symm.trans wrong
  have reads := Exits.reads_ofFacts mapped
  rcases bind_eq_error_iff.mp failed with wrong | ⟨⟨joined, moved⟩, connected, failed⟩
  · obtain ⟨earlier, a, b, later, joined, queued, rfl, rfl, joins, left, leftReads, full⟩ :=
      connect_eq_error reads wrong
    have member : (a, b) ∈ unplaced (Exits.ofFacts mapped.facts.toList) [] facts := by simp [queued]
    obtain ⟨-, fact, among, connection⟩ := (exists_connection member).resolve_left List.not_mem_nil
    have holds : fact ∈ mapped.facts :=
      (State.mem_addFacts opposites).mpr (.inr ((State.mem_addFacts given).mpr (.inl among)))
    obtain ⟨isA, isB⟩ := isA_of_connection built core holds connection
    refine ⟨a, b, rfl, rfl, ⟨fact, among, connection⟩, stated, mapped, joined, earlier, later, given, opposites,
      queued, joins, fun direction => ?_⟩
    have builtJoined := joins.built built
    have coreJoined := joins.kb.trans core
    by_cases taken : direction ∈ left.of a.name
    · exact .inl (occupied_of_reads builtJoined coreJoined leftReads isA taken)
    · refine .inr (occupied_of_reads builtJoined coreJoined leftReads isB ?_)
      have busy := mt Exits.pairFree_iff.mpr (Bool.eq_false_iff.mp (full direction))
      exact Classical.not_not.mp fun free => busy ⟨taken, free⟩
  · obtain ⟨joins, -⟩ := joins_of_connect reads connected
    obtain ⟨final, reversals, failed⟩ := (bind_eq_error_iff.mp failed).resolve_left stateable
    have builtFinal : final.Built := .addFacts (joins.built built) reversals
    have coreFinal : final.kb = knowledge := (State.addFacts_kb reversals).trans (joins.kb.trans core)
    obtain ⟨placed, relaid⟩ := exists_laidOut (w := { w with state := final, positions := moved })
      (long builtFinal coreFinal)
    cases relaid.symm.trans failed

/-- However a world has grown, its map is coherent: each direction is there from both rooms, so is each door and each
passage, two rooms that one of them joins lie in some direction from each other, and no two rooms are in one cell.
When facts are added, a direction that is found for a connection is the only thing said of the exit on either side, and
there is none to be found only if each is occupied on one side or the other. -/
theorem grown_map_coherent (grown : Grown w) :
    (∀ (direction : Direction) (a b : Entity), ⟨direction.predicate, [a, b]⟩ ∈ w.facts →
      ⟨direction.opposite.predicate, [b, a]⟩ ∈ w.facts) ∧
    (∀ a door b : Entity, ⟨"link", [a, door, b]⟩ ∈ w.facts → ⟨"link", [b, door, a]⟩ ∈ w.facts ∧
      (a ≠ b → ∃ direction : Direction, ⟨direction.predicate, [b, a]⟩ ∈ w.facts)) ∧
    (∀ a b : Entity, ⟨"free", [a, b]⟩ ∈ w.facts → ⟨"free", [b, a]⟩ ∈ w.facts ∧
      (a ≠ b → ∃ direction : Direction, ⟨direction.predicate, [b, a]⟩ ∈ w.facts)) ∧
    (∀ x ∈ w.roomList, ∀ y ∈ w.roomList, ∀ cell, x.position = some cell → y.position = some cell → x = y) ∧
    (∀ facts v, w.addFacts facts = .ok v → ∀ (direction : Direction) (a b : Entity),
      ⟨direction.predicate, [b, a]⟩ ∈ v.facts → ⟨direction.predicate, [b, a]⟩ ∉ w.facts → ¬ Given facts direction a b →
        (∃ fact ∈ facts, connection? fact = some (a, b) ∨ connection? fact = some (b, a)) ∧
        (∀ c, ⟨direction.predicate, [c, a]⟩ ∈ v.facts → c = b) ∧
        ∀ c, ⟨direction.opposite.predicate, [c, b]⟩ ∈ v.facts → c = a) ∧
    ∀ facts room target, w.addFacts facts = .error (.noFreeExit room target) →
      ∃ a b : Entity, a.name = room ∧ b.name = target ∧ Stuck w facts a b := by
  have coherent := grown.coherent
  simp only [World.facts, Std.ExtTreeSet.mem_toList]
  refine ⟨coherent.mirrored, fun a door b holds => ⟨?_, fun different => ?_⟩,
    fun a b holds => ⟨?_, fun different => ?_⟩,
    fun x first y second cell => coherent.eq_of_position first second,
    fun facts v added direction a b holds new free => ?_,
    fun facts room target => coherent.exists_stuck⟩
  · exact coherent.returns _ holds _ rfl
  · exact coherent.connected _ holds a b (connection?_eq_some.mpr ⟨.inl ⟨door, rfl⟩, different⟩)
  · exact coherent.returns _ holds _ rfl
  · exact coherent.connected _ holds a b (connection?_eq_some.mpr ⟨.inr rfl, different⟩)
  · obtain ⟨stated, mapped, joined, steps⟩ := exists_completes added
    exact steps.invented coherent.mirrored holds new free

/-- A den behind the cellar, by a passage only. -/
def denFacts : List Fact := [⟨"free", [⟨"cellar", "r"⟩, ⟨"den", "r"⟩]⟩]

theorem grown_map_coherent_den : ∃ w v, World.ofFacts knowledge rowFacts = .ok w ∧ Grown w ∧
    w.addFacts denFacts = .ok v ∧ Grown v ∧ ⟨"free", [⟨"den", "r"⟩, ⟨"cellar", "r"⟩]⟩ ∈ v.facts ∧
    ∃ direction : Direction, ⟨direction.predicate, [⟨"den", "r"⟩, ⟨"cellar", "r"⟩]⟩ ∈ v.facts ∧
      ∀ c, ⟨direction.predicate, [c, ⟨"cellar", "r"⟩]⟩ ∈ v.facts → c = ⟨"den", "r"⟩ := by
  have built : (do
      let w ← World.ofFacts knowledge rowFacts
      let v ← w.addFacts denFacts
      return v.facts.contains ⟨"free", [⟨"cellar", "r"⟩, ⟨"den", "r"⟩]⟩ &&
        w.facts.all fun fact => !fact.arguments.contains ⟨"den", "r"⟩) = .ok true := by decide
  obtain ⟨w, made, built⟩ := bind_eq_ok_iff.mp built
  obtain ⟨v, added, known⟩ := bind_eq_ok_iff.mp built
  have known := Except.ok.inj known
  simp only [Bool.and_eq_true, List.contains_iff_mem, List.all_eq_true, Bool.not_eq_true'] at known
  obtain ⟨passage, absent⟩ := known
  have before : Grown w := .addFacts .empty made
  have after : Grown v := before.addFacts added
  obtain ⟨-, -, free, -⟩ := grown_map_coherent after
  obtain ⟨-, -, -, -, invented, -⟩ := grown_map_coherent before
  obtain ⟨back, directed⟩ := free _ _ passage
  obtain ⟨direction, holds⟩ := directed (by decide)
  have new : ⟨direction.predicate, [⟨"den", "r"⟩, ⟨"cellar", "r"⟩]⟩ ∉ w.facts := fun old => by
    simpa using absent _ old
  have unsaid : ¬ Given denFacts direction ⟨"cellar", "r"⟩ ⟨"den", "r"⟩ := by
    cases direction <;> unfold Given <;> decide
  have placed := invented _ v added direction _ _ holds new unsaid
  exact ⟨w, v, made, before, added, after, back, direction, holds, placed.2.1⟩

end World

end Adventure
