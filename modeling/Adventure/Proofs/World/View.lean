import Adventure.Proofs.State.Built
import Adventure.World.Building
import Adventure.World.Invariant
import Mathlib.Data.List.Nodup

namespace Adventure

theorem length_le_one_iff {α : Type} {xs : List α} (different : xs.Nodup) :
    xs.length ≤ 1 ↔ ∀ x ∈ xs, ∀ y ∈ xs, x = y := by
  match xs with
  | [] => simp
  | [_] => simp
  | x :: y :: rest =>
    have apart : x ≠ y := fun same => by simp [same] at different
    refine ⟨fun short => absurd short (by simp), fun same => absurd ?_ apart⟩
    exact same x List.mem_cons_self y (List.mem_cons_of_mem x List.mem_cons_self)

theorem length_eq_one_iff {α : Type} {xs : List α} (different : xs.Nodup) :
    xs.length = 1 ↔ ∃ x ∈ xs, ∀ y ∈ xs, y = x := by
  constructor
  · intro one
    obtain ⟨x, rfl⟩ := List.length_eq_one_iff.mp one
    exact ⟨x, List.mem_singleton_self x, fun y => List.mem_singleton.mp⟩
  · rintro ⟨x, member, same⟩
    have few := (length_le_one_iff different).mpr fun y inY z inZ => (same y inY).trans (same z inZ).symm
    have some := List.length_pos_of_mem member
    omega

namespace State

variable {s : State}

theorem Indexed.mem_factsAbout (indexed : s.Indexed) {e : Entity} {fact : Fact} :
    fact ∈ s.factsAbout e ↔ fact ∈ s.facts ∧ e ∈ fact.arguments := by
  rw [factsAbout, indexed.entities.getD]
  simp [Fact.mentions]

end State

theorem Direction.opposite_opposite (direction : Direction) : direction.opposite.opposite = direction := by
  cases direction <;> rfl

theorem Direction.predicate_injective {a b : Direction} (same : a.predicate = b.predicate) : a = b := by
  cases a <;> cases b <;> first | rfl | exact absurd same (by decide)

theorem Direction.opposite_ne (direction : Direction) : direction.opposite ≠ direction := by
  cases direction <;> decide

theorem Direction.mem_all (direction : Direction) : direction ∈ Direction.all := by
  cases direction <;> decide

namespace Exits

theorem of_add (exits : Exits) (origin room target : String) (direction : Direction) :
    (exits.add origin direction target).of room =
      if origin = room then (exits.of room).insert direction target else exits.of room := by
  rw [of, add, Std.ExtTreeMap.getD_insert]
  simp only [Std.LawfulEqOrd.compare_eq_iff_eq]
  split
  next same => rw [same]
  next => rfl

theorem direction?_eq_some {fact : Fact} {direction : Direction} {a b : Entity}
    (read : direction? fact = some (direction, a, b)) :
    fact.predicate = direction.predicate ∧ fact.arguments = [a, b] := by
  rw [direction?] at read
  split at read
  next target room arguments =>
    obtain ⟨found, named, pair⟩ := Option.map_eq_some_iff.mp read
    cases pair
    have same : direction.predicate = fact.predicate := by simpa using List.find?_some named
    exact ⟨same.symm, arguments⟩
  next => cases read

theorem direction?_mk (direction : Direction) (a b : Entity) :
    direction? ⟨direction.predicate, [a, b]⟩ = some (direction, a, b) := by
  cases direction <;> rfl

/-- Every exit is stated by a fact. -/
theorem exists_of_ofFacts {facts : List Fact} {room target : String} {direction : Direction}
    (leads : ((ofFacts facts).of room)[direction]? = some target) :
    ∃ fact ∈ facts, ∃ a b, direction? fact = some (direction, a, b) ∧ a.name = target ∧ b.name = room := by
  have stated (entries : List (Direction × Entity × Entity)) (exits : Exits)
      (leads : ((entries.foldl (fun exits entry => exits.add entry.2.2.name entry.1 entry.2.1.name)
        exits).of room)[direction]? = some target) :
      (∃ a b, (direction, a, b) ∈ entries ∧ a.name = target ∧ b.name = room) ∨
        (exits.of room)[direction]? = some target := by
    induction entries generalizing exits with
    | nil => exact .inr leads
    | cons entry entries ih =>
      obtain ⟨other, a, b⟩ := entry
      rcases ih (exits.add b.name other a.name) leads with ⟨c, d, later, names⟩ | before
      · exact .inl ⟨c, d, List.mem_cons_of_mem _ later, names⟩
      · rw [of_add] at before
        split at before
        next same =>
          rcases SortedMap.eq_or_of_insert before with ⟨rfl, here⟩ | older
          · exact .inl ⟨a, b, List.mem_cons_self, here, same⟩
          · exact .inr older
        next => exact .inr before
  rcases stated (facts.filterMap direction?) ∅ leads with ⟨a, b, listed, names⟩ | none
  · obtain ⟨fact, member, read⟩ := List.mem_filterMap.mp listed
    exact ⟨fact, member, a, b, read, names⟩
  · simp [of] at none

/-- Every fact about a direction gives an exit, if not always to the room it names. -/
theorem exists_leads {facts : List Fact} {direction : Direction} {a b : Entity}
    (stated : ⟨direction.predicate, [a, b]⟩ ∈ facts) :
    ∃ target, ((ofFacts facts).of b.name)[direction]? = some target := by
  have kept (entries : List (Direction × Entity × Entity)) (exits : Exits)
      (leads : (direction, a, b) ∈ entries ∨ direction ∈ exits.of b.name) :
      direction ∈ (entries.foldl (fun exits entry => exits.add entry.2.2.name entry.1 entry.2.1.name)
        exits).of b.name := by
    induction entries generalizing exits with
    | nil => exact leads.resolve_left List.not_mem_nil
    | cons entry entries ih =>
      refine ih _ ?_
      rw [of_add]
      rcases leads with listed | before
      · rcases List.mem_cons.mp listed with rfl | later
        · right
          rw [if_pos rfl]
          exact Std.ExtTreeMap.mem_insert.mpr (.inl (by simp))
        · exact .inl later
      · right
        split
        next => exact Std.ExtTreeMap.mem_insert.mpr (.inr before)
        next => exact before
  have listed : (direction, a, b) ∈ facts.filterMap direction? :=
    List.mem_filterMap.mpr ⟨_, stated, direction?_mk direction a b⟩
  exact SortedMap.mem_iff.mp (kept _ ∅ (.inl listed))

end Exits

/-- A computation gives a result, unless one of some facts is too short for a placement. -/
def FailsShort {α : Type} (facts : List Fact) (x : Except Error α) : Prop :=
  (∃ value, x = .ok value) ∨ ∃ fact ∈ facts, fact.arguments.length < 2 ∧ x = .error (.shortPlacement fact)

section FailsShort

variable {α β : Type} {facts : List Fact} {x : Except Error α}

theorem FailsShort.ok (value : α) : FailsShort facts (.ok value) := .inl ⟨value, rfl⟩

theorem FailsShort.bind {f : α → Except Error β} (first : FailsShort facts x)
    (next : ∀ value, FailsShort facts (f value)) : FailsShort facts (x >>= f) := by
  rcases first with ⟨value, rfl⟩ | ⟨fact, member, short, rfl⟩
  · exact next value
  · exact .inr ⟨fact, member, short, rfl⟩

theorem FailsShort.cons {fact : Fact} (fails : FailsShort facts x) : FailsShort (fact :: facts) x :=
  fails.imp_right fun ⟨other, member, short⟩ => ⟨other, List.mem_cons_of_mem fact member, short⟩

theorem FailsShort.exists_ok (fails : FailsShort facts x) (stated : ∀ fact ∈ facts, 2 ≤ fact.arguments.length) :
    ∃ value, x = .ok value :=
  fails.resolve_right fun ⟨fact, member, short, _⟩ => Nat.not_le_of_lt short (stated fact member)

end FailsShort

theorem playerRoomIn_failsShort (facts : List Fact) : FailsShort facts (playerRoomIn facts) := by
  induction facts with
  | nil => exact .ok none
  | cons fact facts ih =>
    rw [playerRoomIn]
    split
    next short => exact .inr ⟨fact, List.mem_cons_self, by simp [short], rfl⟩
    next short =>
      split
      · exact .inr ⟨fact, List.mem_cons_self, by simp [short], rfl⟩
      · exact ih.cons
    next =>
      split
      · exact .ok _
      · exact ih.cons

theorem State.layout_failsShort (s : State) (exits : Exits) (positions : Positions) :
    FailsShort (s.factsNamed "at") (s.layout exits positions) := by
  rw [State.layout]
  split
  · exact .ok _
  · split
    · exact (playerRoomIn_failsShort _).bind fun room => .ok _
    · exact .ok _

theorem State.exists_layout {s : State} (stated : ∀ fact ∈ s.factsNamed "at", 2 ≤ fact.arguments.length)
    (exits : Exits) (positions : Positions) : ∃ placed, s.layout exits positions = .ok placed :=
  (s.layout_failsShort exits positions).exists_ok stated

namespace World

variable {w : World} {s : State}

theorem ofState_state (made : ofState s = .ok w) : w.state = s := by
  obtain ⟨positions, -, same⟩ := bind_eq_ok_iff.mp made
  cases same
  rfl

theorem mem_opposites {facts : List Fact} {fact : Fact} : fact ∈ facts.filterMap opposite? ↔
    ∃ (direction : Direction) (a b : Entity), ⟨direction.predicate, [a, b]⟩ ∈ facts ∧
      fact = ⟨direction.opposite.predicate, [b, a]⟩ := by
  rw [List.mem_filterMap]
  constructor
  · rintro ⟨other, member, made⟩
    obtain ⟨⟨direction, a, b⟩, read, rfl⟩ := Option.map_eq_some_iff.mp made
    obtain ⟨named, arguments⟩ := Exits.direction?_eq_some read
    refine ⟨direction, a, b, ?_, rfl⟩
    rwa [← named, ← arguments]
  · rintro ⟨direction, a, b, member, rfl⟩
    exact ⟨_, member, by rw [opposite?, Exits.direction?_mk]; rfl⟩

theorem exists_laidOut (stated : ∀ fact ∈ w.state.factsNamed "at", 2 ≤ fact.arguments.length) :
    ∃ positions, w.laidOut = .ok { w with positions } := by
  obtain ⟨positions, placed⟩ := State.exists_layout stated (Exits.ofFacts w.facts) w.positions
  exact ⟨positions, bind_eq_ok_iff.mpr ⟨positions, placed, rfl⟩⟩

theorem ofState_failsShort (s : State) : FailsShort (s.factsNamed "at") (ofState s) :=
  (s.layout_failsShort _ _).bind fun _ => .ok _

theorem exists_ofState (stated : ∀ fact ∈ s.factsNamed "at", 2 ≤ fact.arguments.length) :
    ∃ w, ofState s = .ok w :=
  (ofState_failsShort s).exists_ok stated

theorem check_eq_ok_iff : w.check = .ok () ↔ playerPlacements (w.state.factsNamed "at") = .ok 1 ∧
    (∀ thing ∈ w.thingList, w.thingFlaws thing = []) ∧
    (∀ fact ∈ w.state.factsNamed "link", w.linkFlaws w.rooms fact = []) ∧
    (∀ room ∈ w.rooms.values, exitFlaws w.rooms room = []) ∧ w.state.violated = none := by
  have accepted : w.check = .ok () ↔ w.flaws = .ok [] := by
    rw [check]
    cases flaws : w.flaws with
    | error => simp [bind, Except.bind]
    | ok found => cases found <;> simp [bind, Except.bind, pure, Except.pure]
  rw [accepted, flaws]
  cases playerPlacements (w.state.factsNamed "at") with
  | error => simp [bind, Except.bind]
  | ok players =>
    cases w.state.violated <;> by_cases one : players = 1 <;>
      simp [bind, Except.bind, pure, Except.pure, one, List.flatMap_eq_nil_iff]

/-- The player's placements can be counted, unless one is too short. -/
theorem playerPlacements_failsShort (facts : List Fact) : FailsShort facts (playerPlacements facts) := by
  induction facts with
  | nil => exact .ok 0
  | cons fact facts ih =>
    rw [playerPlacements]
    split
    next short => exact .inr ⟨fact, List.mem_cons_self, by simp [short], rfl⟩
    next => exact ih.cons.bind fun _ => .ok _

/-- A world can be looked over, whether it has flaws or not, unless a placement is too short. -/
theorem check_cases (w : World) : w.check = .ok () ∨ (∃ flaw, w.check = .error (.invalidWorld flaw)) ∨
    ∃ fact ∈ w.state.factsNamed "at", fact.arguments.length < 2 ∧ w.check = .error (.shortPlacement fact) := by
  rw [check]
  have counted : FailsShort (w.state.factsNamed "at") w.flaws :=
    (playerPlacements_failsShort _).bind fun _ => .ok _
  rcases counted with ⟨found, flaws⟩ | ⟨fact, member, short, failed⟩
  · rw [flaws]
    cases found with
    | nil => exact .inl rfl
    | cons => exact .inr (.inl ⟨_, rfl⟩)
  · rw [failed]
    exact .inr (.inr ⟨fact, member, short, rfl⟩)

/-- A fact that places the player. -/
def placesPlayer (fact : Fact) : Bool := (fact.arguments.head?.map Entity.type) == some "P"

theorem playerPlacements_eq {facts : List Fact} (stated : ∀ fact ∈ facts, fact.arguments ≠ []) :
    playerPlacements facts = .ok (facts.filter placesPlayer).length := by
  induction facts with
  | nil => rfl
  | cons fact facts ih =>
    obtain ⟨here, others⟩ := List.forall_mem_cons.mp stated
    obtain ⟨thing, rest, arguments⟩ := List.exists_cons_of_ne_nil here
    have first : placesPlayer fact = decide (thing.type = "P") := by simp [placesPlayer, arguments, beq_eq_decide]
    rw [playerPlacements, arguments, ih others, List.filter_cons, first]
    by_cases player : thing.type = "P" <;> simp [player, bind, Except.bind, pure, Except.pure]

theorem rooms_eq_some {name : String} {room : Room} (here : w.rooms[name]? = some room) :
    room.id = name ∧ room.exits = (Exits.ofFacts w.facts).of name ∧ name ∈ w.state.roomNames := by
  obtain ⟨entity, listed, same⟩ := List.mem_map.mp (SortedMap.mem_of_eq_some here)
  cases same
  exact ⟨rfl, rfl, List.mem_map_of_mem listed⟩

theorem position_of_rooms {name : String} {room : Room} (here : w.rooms[name]? = some room) :
    room.position = w.positions[name]? := by
  obtain ⟨entity, -, same⟩ := List.mem_map.mp (SortedMap.mem_of_eq_some here)
  cases same
  rfl

theorem mem_rooms {name : String} : name ∈ w.rooms ↔ name ∈ w.state.roomNames := by
  rw [rooms, SortedMap.mem_of, List.map_map]
  rfl

theorem playerPlace_eq_some {player place : Entity} (kind : player.type = "P")
    (stated : ⟨"at", [player, place]⟩ ∈ w.state.facts) (only : ∀ thing other : Entity, thing.type = "P" →
      ⟨"at", [thing, other]⟩ ∈ w.state.facts → other = place) : w.playerPlace = some place.name := by
  rw [playerPlace]
  generalize listed : w.facts.filterMap _ = places
  have member : place.name ∈ places := by
    rw [← listed]
    exact List.mem_filterMap.mpr ⟨_, Std.ExtTreeSet.mem_toList.mpr stated, if_pos kind⟩
  have same (name : String) (found : name ∈ places) : name = place.name := by
    rw [← listed] at found
    obtain ⟨⟨predicate, arguments⟩, holds, read⟩ := List.mem_filterMap.mp found
    split at read
    next thing other named pair =>
      dsimp only at named pair
      subst named pair
      obtain ⟨type, same⟩ := Option.ite_none_right_eq_some.mp read
      cases same
      rw [only thing other type (Std.ExtTreeSet.mem_toList.mp holds)]
    next => cases read
  have filled := List.ne_nil_of_mem member
  rw [List.getLast?_eq_some_getLast filled, same _ (List.getLast_mem filled)]

/-- The table of properties with that of a fact entered. -/
def note (table : SortedMap String (SortedSet String)) (fact : Fact) : SortedMap String (SortedSet String) :=
  match fact.arguments with
  | [thing] => table.insert thing.name ((table.getD thing.name ∅).insert fact.predicate)
  | _ => table

theorem mem_note {table : SortedMap String (SortedSet String)} {fact : Fact} {name property : String} :
    property ∈ (note table fact).getD name ∅ ↔
      (∃ e, fact = ⟨property, [e]⟩ ∧ e.name = name) ∨ property ∈ table.getD name ∅ := by
  obtain ⟨predicate, arguments⟩ := fact
  rw [note]
  split
  next thing single =>
    dsimp only at single
    subst single
    rw [Std.ExtTreeMap.getD_insert]
    split
    next same =>
      cases Std.LawfulEqOrd.eq_of_compare same
      simp
    next different =>
      have apart : thing.name ≠ name := fun same => different (by simp [same])
      simp [apart]
  next many =>
    refine ⟨.inr, fun either => either.resolve_left ?_⟩
    rintro ⟨e, same, -⟩
    exact many e (congrArg Fact.arguments same)

theorem mem_properties {name property : String} : property ∈ w.propertyTable.getD name ∅ ↔
    ∃ e, ⟨property, [e]⟩ ∈ w.state.facts ∧ e.name = name := by
  have entered (facts : List Fact) (table : SortedMap String (SortedSet String)) :
      property ∈ (facts.foldl note table).getD name ∅ ↔
        (∃ e, ⟨property, [e]⟩ ∈ facts ∧ e.name = name) ∨ property ∈ table.getD name ∅ := by
    induction facts generalizing table with
    | nil => simp
    | cons fact facts ih =>
      rw [List.foldl_cons, ih, mem_note]
      grind
  show property ∈ (w.facts.foldl note ∅).getD name ∅ ↔ _
  simp only [entered, facts, Std.ExtTreeSet.mem_toList, Std.ExtTreeMap.getD_empty, Std.ExtTreeSet.not_mem_empty,
    or_false]

/-- Anything but a room, a player and an inventory. -/
def isThing (w : World) (e : Entity) : Bool := !w.descends e "r" && !w.descends e "P" && !w.descends e "I"

theorem things_eq_some {name : String} {thing : Thing} (here : w.things[name]? = some thing) : thing.id = name ∧
    thing.entity ∈ w.state.entities ∧ w.isThing thing.entity = true ∧
    thing.properties = w.propertyTable.getD name ∅ := by
  obtain ⟨entity, listed, same⟩ := List.mem_map.mp (SortedMap.mem_of_eq_some here)
  obtain ⟨known, kind⟩ := List.mem_filter.mp listed
  cases same
  exact ⟨rfl, known, kind, rfl⟩

theorem exists_mem_thingList {e : Entity} (known : e ∈ w.state.entities) (kind : w.isThing e = true)
    (alone : ∀ other ∈ w.state.entities, w.isThing other = true → other.name = e.name → other = e) :
    ∃ thing ∈ w.thingList, thing.entity = e := by
  have listed : e.name ∈ w.things := by
    rw [things, SortedMap.mem_of, List.map_map]
    exact List.mem_map.mpr ⟨e, List.mem_filter.mpr ⟨known, kind⟩, rfl⟩
  obtain ⟨thing, here⟩ := SortedMap.mem_iff.mp listed
  obtain ⟨named, present, also, -⟩ := things_eq_some here
  exact ⟨thing, SortedMap.mem_values.mpr ⟨e.name, here⟩, alone thing.entity present also named⟩

/-- A fact that says of an entity where it is. -/
def Places (fact : Fact) (e : Entity) : Prop :=
  placePredicates.contains fact.predicate = true ∧ fact.arguments.head? = some e

theorem thingFlaws_eq_nil_iff {thing : Thing} : w.thingFlaws thing = [] ↔
    (w.descends thing.entity "d" = true → ∀ fact ∈ w.state.factsAbout thing.entity, fact.predicate ≠ "at") ∧
    (w.descends thing.entity "d" = false → ∀ f ∈ w.state.factsAbout thing.entity, ∀ g ∈ w.state.factsAbout thing.entity,
      Places f thing.entity → Places g thing.entity → f = g) ∧
    (w.descends thing.entity "d" = true ∨ w.descends thing.entity "c" = true → ∃ condition ∈ openStates,
      thing.has condition = true ∧ ∀ other ∈ openStates, thing.has other = true → other = condition) := by
  have few : ((w.state.factsAbout thing.entity).toList.filter fun fact =>
      placePredicates.contains fact.predicate && fact.arguments.head? == some thing.entity).length ≤ 1 ↔
      ∀ f ∈ w.state.factsAbout thing.entity, ∀ g ∈ w.state.factsAbout thing.entity,
        Places f thing.entity → Places g thing.entity → f = g := by
    rw [length_le_one_iff ((SortedSet.nodup_toList _).filter _)]
    simp only [List.mem_filter, Std.ExtTreeSet.mem_toList, Bool.and_eq_true, beq_iff_eq, Places]
    grind
  have one : (openStates.filter thing.has).length = 1 ↔ ∃ condition ∈ openStates,
      thing.has condition = true ∧ ∀ other ∈ openStates, thing.has other = true → other = condition := by
    rw [length_eq_one_iff ((by decide : openStates.Nodup).filter thing.has)]
    simp only [List.mem_filter, and_imp, and_assoc]
  rw [← few, ← one, thingFlaws, List.append_eq_nil_iff, ← and_assoc]
  refine and_congr ?_ ?_
  · cases w.descends thing.entity "d" <;> simp
  · cases w.descends thing.entity "d" <;> cases w.descends thing.entity "c" <;> simp

/-- The direction in which exits first lead to a room. -/
def towards (exits : SortedMap Direction String) (target : String) : Option Direction :=
  (exits.toList.find? fun (_, other) => other == target).map Prod.fst

theorem towards_eq_some {exits : SortedMap Direction String} {direction : Direction} {target : String}
    (leads : exits[direction]? = some target)
    (only : ∀ other : Direction, exits[other]? = some target → other = direction) :
    towards exits target = some direction := by
  rw [towards]
  cases found : exits.toList.find? fun (_, other) => other == target with
  | none =>
    have listed : (direction, target) ∈ exits.toList := Std.ExtTreeMap.mem_toList_iff_getElem?_eq_some.mpr leads
    exact absurd (beq_self_eq_true target) (List.find?_eq_none.mp found _ listed)
  | some way =>
    have same : way.2 = target := by simpa using List.find?_some found
    have listed := Std.ExtTreeMap.mem_toList_iff_getElem?_eq_some.mp (List.mem_of_find?_eq_some found)
    rw [Option.map_some, only way.1 (same ▸ listed)]

/-- What is read off the exits of a known room is read off the facts. -/
theorem bind_rooms {β : Type} (read : SortedMap Direction String → Option β) {name : String}
    (known : name ∈ w.state.roomNames) :
    (w.rooms[name]?).bind (fun room => read room.exits) = read ((Exits.ofFacts w.facts).of name) := by
  obtain ⟨room, here⟩ := SortedMap.mem_iff.mp (mem_rooms.mpr known)
  rw [here, Option.bind_some, (rooms_eq_some here).2.1]

theorem linkFlaws_eq_nil_iff {predicate : String} {room door target : Entity} (known : room.name ∈ w.state.roomNames)
    (also : target.name ∈ w.state.roomNames) : w.linkFlaws w.rooms ⟨predicate, [room, door, target]⟩ = [] ↔
      ⟨"link", [target, door, room]⟩ ∈ w.state.facts ∧
      ∃ direction, towards ((Exits.ofFacts w.facts).of room.name) target.name = some direction ∧
        towards ((Exits.ofFacts w.facts).of target.name) room.name = some direction.opposite := by
  have forward : (w.rooms[room.name]?).bind (·.exitTowards target.name) =
      towards ((Exits.ofFacts w.facts).of room.name) target.name := bind_rooms (towards · target.name) known
  have back : (w.rooms[target.name]?).bind (·.exitTowards room.name) =
      towards ((Exits.ofFacts w.facts).of target.name) room.name := bind_rooms (towards · room.name) also
  simp only [linkFlaws, forward, back, List.append_eq_nil_iff, State.contains]
  refine and_congr ?_ ?_
  · simp
  · cases towards ((Exits.ofFacts w.facts).of room.name) target.name <;>
      cases towards ((Exits.ofFacts w.facts).of target.name) room.name <;> simp [eq_comm]

theorem exitFlaws_eq_nil_iff : (∀ room ∈ w.rooms.values, exitFlaws w.rooms room = []) ↔
    ∀ name ∈ w.state.roomNames, ∀ (direction : Direction) target,
      ((Exits.ofFacts w.facts).of name)[direction]? = some target →
        target ∈ w.state.roomNames ∧ ((Exits.ofFacts w.facts).of target)[direction.opposite]? = some name := by
  have sound (room : Room) : exitFlaws w.rooms room = [] ↔ ∀ (direction : Direction) target,
      room.exits[direction]? = some target →
        (w.rooms[target]?).bind (·.exits[direction.opposite]?) = some room.id := by
    simp [exitFlaws, List.flatMap_eq_nil_iff, Std.ExtTreeMap.mem_toList_iff_getElem?_eq_some]
  have back {target name : String} {direction : Direction} :
      (w.rooms[target]?).bind (·.exits[direction]?) = some name ↔
        target ∈ w.state.roomNames ∧ ((Exits.ofFacts w.facts).of target)[direction]? = some name := by
    rw [Option.bind_eq_some_iff]
    constructor
    · rintro ⟨room, here, leads⟩
      obtain ⟨-, exits, known⟩ := rooms_eq_some here
      exact ⟨known, exits ▸ leads⟩
    · rintro ⟨known, leads⟩
      obtain ⟨room, here⟩ := SortedMap.mem_iff.mp (mem_rooms.mpr known)
      exact ⟨room, here, (rooms_eq_some here).2.1 ▸ leads⟩
  simp only [sound, back]
  constructor
  · intro all name known direction target leads
    obtain ⟨room, here⟩ := SortedMap.mem_iff.mp (mem_rooms.mpr known)
    obtain ⟨named, exits, -⟩ := rooms_eq_some here
    rw [← exits] at leads
    exact named ▸ all room (SortedMap.mem_values.mpr ⟨name, here⟩) direction target leads
  · intro all room member direction target leads
    obtain ⟨name, here⟩ := SortedMap.mem_values.mp member
    obtain ⟨named, exits, known⟩ := rooms_eq_some here
    rw [exits] at leads
    exact named ▸ all name known direction target leads

end World

end Adventure
