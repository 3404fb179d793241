import Adventure.Proofs.World.Joining
import Adventure.Proofs.World.Preservation

namespace Adventure

open Adventure.Core

namespace State

variable {s t : State} {facts : List Fact} {fact : Fact} {direction : Direction} {a b : Entity}

/-- An exit of one room leads to another. -/
def Directed (s : State) (a b : Entity) : Prop := ∃ direction : Direction, ⟨direction.predicate, [b, a]⟩ ∈ s.facts

/-- Doors and passages are there from both sides. -/
def Returns (s : State) : Prop := ∀ fact ∈ s.facts, ∀ back, World.reversed? fact = some back → back ∈ s.facts

/-- All rooms that a door or a passage joins lie in some direction from each other. -/
def Connected (s : State) : Prop := ∀ fact ∈ s.facts, ∀ a b, World.connection? fact = some (a, b) → s.Directed a b

theorem mem_addFacts (added : s.addFacts facts = .ok t) : fact ∈ t.facts ↔ fact ∈ facts ∨ fact ∈ s.facts := by
  obtain ⟨-, rfl⟩ := addFacts_eq_ok_iff.mp added
  exact mem_insertAll

theorem addFacts_kb (added : s.addFacts facts = .ok t) : t.kb = s.kb := by
  obtain ⟨-, rfl⟩ := addFacts_eq_ok_iff.mp added
  exact insertAll_kb s facts

theorem Mirrored.directed (mirrored : s.Mirrored) (directed : s.Directed a b) : s.Directed b a := by
  obtain ⟨direction, holds⟩ := directed
  exact ⟨direction.opposite, mirrored direction b a holds⟩

/-- With the opposite of each direction added, each has its opposite. -/
theorem mirrored_of_opposites (mapped : s.addFacts (s.facts.toList.filterMap World.opposite?) = .ok t) :
    t.Mirrored := by
  intro direction a b holds
  rw [mem_addFacts mapped, World.mem_opposites] at holds ⊢
  simp only [Std.ExtTreeSet.mem_toList] at holds ⊢
  rcases holds with ⟨other, x, y, stated, same⟩ | stated
  · simp only [Fact.mk.injEq, List.cons.injEq, and_true] at same
    obtain ⟨named, rfl, rfl⟩ := same
    cases Direction.predicate_injective named
    rw [Direction.opposite_opposite]
    exact .inr stated
  · exact .inl ⟨direction, a, b, stated, rfl⟩

end State

namespace Core

variable {s : State} {fact : Fact} {a b : Entity}

theorem free_signatures : ∀ signature ∈ signatures, signature.predicate = "free" → signature.types = ["r", "r"] := by
  decide

/-- No other type descends from that of rooms. -/
theorem room_types : ∀ type ∈ types.names, types.descends type "r" = true → type = "r" := by
  decide

theorem IsA.eq_of_name (first : IsA a "r") (second : IsA b "r") (named : a.name = b.name) : a = b := by
  have kindA := room_types a.type first.mem_names first.descends
  have kindB := room_types b.type second.mem_names second.descends
  obtain ⟨nameA, typeA⟩ := a
  obtain ⟨nameB, typeB⟩ := b
  cases named
  cases kindA
  cases kindB
  rfl

theorem isA_of_connection (built : s.Built) (core : s.kb = knowledge) (holds : fact ∈ s.facts)
    (joins : World.connection? fact = some (a, b)) : IsA a "r" ∧ IsA b "r" := by
  obtain ⟨signature, member, same, typed⟩ := exists_typed built core holds
  rcases (World.connection?_eq_some.mp joins).1 with ⟨door, rfl⟩ | rfl
  · rw [link_signatures signature member same] at typed
    obtain _ | ⟨first, _ | ⟨_, _ | ⟨third, _ | _⟩⟩⟩ := typed
    exact ⟨first, third⟩
  · rw [free_signatures signature member same] at typed
    obtain _ | ⟨first, _ | ⟨second, _ | _⟩⟩ := typed
    exact ⟨first, second⟩

end Core

namespace World

variable {w v : World} {s stated mapped joined : State} {facts : List Fact} {fact back : Fact} {direction : Direction}
  {a b : Entity}

theorem reversed?_direction (direction : Direction) (es : List Entity) :
    reversed? ⟨direction.predicate, es⟩ = none := by
  cases direction <;> rfl

theorem connection?_direction (direction : Direction) (es : List Entity) :
    connection? ⟨direction.predicate, es⟩ = none := by
  cases direction <;> rfl

theorem reversed?_symm (made : reversed? fact = some back) : reversed? back = some fact := by
  rcases reversed?_eq_some.mp made with ⟨a, door, b, rfl, rfl⟩ | ⟨a, b, rfl, rfl⟩
  · rfl
  · rfl

theorem connection?_reversed (made : reversed? fact = some back) (joins : connection? fact = some (a, b)) :
    connection? back = some (b, a) := by
  obtain ⟨stated, different⟩ := connection?_eq_some.mp joins
  refine connection?_eq_some.mpr ⟨?_, different.symm⟩
  rcases reversed?_eq_some.mp made with ⟨x, door, y, rfl, rfl⟩ | ⟨x, y, rfl, rfl⟩
  · simpa [and_comm] using stated
  · simpa [and_comm] using stated

/-- The steps by which facts are added to a world with all that they imply. -/
structure Completes (w : World) (facts : List Fact) (stated mapped joined : State) (v : World) : Prop where
  given : w.state.addFacts facts = .ok stated
  opposites : stated.addFacts (stated.facts.toList.filterMap opposite?) = .ok mapped
  joins : mapped.Joins (unplaced (Exits.ofFacts mapped.facts.toList) [] facts) joined
  reversals : joined.addFacts (joined.facts.toList.filterMap reversed?) = .ok v.state
  apart : w.positions.Apart → v.positions.Apart

theorem exists_completes (added : w.addFacts facts = .ok v) :
    ∃ stated mapped joined, Completes w facts stated mapped joined v := by
  obtain ⟨stated, hasStated, added⟩ := bind_eq_ok_iff.mp added
  obtain ⟨mapped, hasMapped, added⟩ := bind_eq_ok_iff.mp added
  obtain ⟨positions, laid, added⟩ := bind_eq_ok_iff.mp added
  obtain ⟨⟨joined, moved⟩, connected, added⟩ := bind_eq_ok_iff.mp added
  obtain ⟨full, hasFull, added⟩ := bind_eq_ok_iff.mp added
  obtain ⟨final, relaid, same⟩ := bind_eq_ok_iff.mp added
  cases same
  obtain ⟨joins, apart⟩ := joins_of_connect (Exits.reads_ofFacts mapped) connected
  exact ⟨stated, mapped, joined, hasStated, hasMapped, joins, hasFull, fun before =>
    Positions.Apart.layout (apart (Positions.Apart.layout before laid)) relaid⟩

namespace Completes

variable (steps : Completes w facts stated mapped joined v)

include steps

theorem mem_stated : fact ∈ stated.facts ↔ fact ∈ facts ∨ fact ∈ w.state.facts := State.mem_addFacts steps.given

theorem mem_mapped : fact ∈ mapped.facts ↔ fact ∈ stated.facts ∨ ∃ (direction : Direction) (a b : Entity),
    ⟨direction.predicate, [a, b]⟩ ∈ stated.facts ∧ fact = ⟨direction.opposite.predicate, [b, a]⟩ := by
  rw [State.mem_addFacts steps.opposites, mem_opposites, or_comm]
  simp only [Std.ExtTreeSet.mem_toList]

theorem mem_full :
    fact ∈ v.state.facts ↔ fact ∈ joined.facts ∨ ∃ other ∈ joined.facts, reversed? other = some fact := by
  rw [State.mem_addFacts steps.reversals, List.mem_filterMap, or_comm]
  simp only [Std.ExtTreeSet.mem_toList]

theorem mem_direction :
    ⟨direction.predicate, [a, b]⟩ ∈ v.state.facts ↔ ⟨direction.predicate, [a, b]⟩ ∈ joined.facts := by
  rw [steps.mem_full]
  refine or_iff_left ?_
  rintro ⟨other, -, made⟩
  have none := reversed?_symm made
  rw [reversed?_direction] at none
  cases none

theorem keeps (holds : fact ∈ w.state.facts) : fact ∈ v.state.facts :=
  steps.mem_full.mpr (.inl (steps.joins.keeps (steps.mem_mapped.mpr (.inl (steps.mem_stated.mpr (.inr holds))))))

theorem built_mapped (built : w.state.Built) : mapped.Built := .addFacts (.addFacts built steps.given) steps.opposites

theorem built (built : w.state.Built) : v.state.Built :=
  .addFacts (steps.joins.built (steps.built_mapped built)) steps.reversals

theorem kb_mapped : mapped.kb = w.state.kb := (State.addFacts_kb steps.opposites).trans (State.addFacts_kb steps.given)

theorem kb : v.state.kb = w.state.kb := (State.addFacts_kb steps.reversals).trans (steps.joins.kb.trans steps.kb_mapped)

theorem mirrored_joined : joined.Mirrored := steps.joins.mirrored (State.mirrored_of_opposites steps.opposites)

theorem mirrored : v.state.Mirrored := by
  intro direction a b holds
  exact steps.mem_direction.mpr (steps.mirrored_joined direction a b (steps.mem_direction.mp holds))

theorem returns : v.state.Returns := by
  intro fact holds back made
  rw [steps.mem_full] at holds ⊢
  rcases holds with holds | ⟨other, holds, turned⟩
  · exact .inr ⟨fact, holds, made⟩
  · cases (reversed?_symm turned).symm.trans made
    exact .inl holds

/-- A connection of the joined rooms was stated. -/
theorem stated_of_connection (holds : fact ∈ joined.facts) (joins : connection? fact = some (a, b)) :
    fact ∈ stated.facts := by
  have none (direction : Direction) (x y : Entity) : fact ≠ ⟨direction.predicate, [x, y]⟩ := by
    rintro rfl
    rw [connection?_direction] at joins
    cases joins
  rcases steps.joins.old_or_joint holds with holds | ⟨pair, -, direction, member⟩
  · rcases steps.mem_mapped.mp holds with holds | ⟨direction, x, y, -, same⟩
    · exact holds
    · exact absurd same (none _ _ _)
  · rcases State.mem_joint.mp member with same | same
    · exact absurd same (none _ _ _)
    · exact absurd same (none _ _ _)

/-- Each connection that is given gets a direction, unless it has one. -/
theorem directed_of_given (built : w.state.Built) (core : w.state.kb = knowledge) (member : fact ∈ facts)
    (joins : connection? fact = some (a, b)) : joined.Directed a b := by
  rcases unplaced_covers member joins with leads | placed | placed
  · obtain ⟨direction, leads⟩ := Exits.leadsTo_iff.mp leads
    obtain ⟨x, y, holds, namedX, namedY⟩ := (Exits.reads_ofFacts mapped).stated _ _ _ leads
    have core := steps.kb_mapped.trans core
    have built := steps.built_mapped built
    have given : fact ∈ mapped.facts := steps.mem_mapped.mpr (.inl (steps.mem_stated.mpr (.inl member)))
    obtain ⟨isX, isY⟩ := isA_of_direction built core holds
    obtain ⟨isA, isB⟩ := isA_of_connection built core given joins
    cases isX.eq_of_name isB namedX
    cases isY.eq_of_name isA namedY
    exact ⟨direction, steps.joins.keeps holds⟩
  · obtain ⟨direction, holds, -⟩ := steps.joins.exists_direction placed
    exact ⟨direction, holds⟩
  · obtain ⟨direction, -, holds⟩ := steps.joins.exists_direction placed
    exact ⟨direction.opposite, holds⟩

theorem connected_joined (built : w.state.Built) (core : w.state.kb = knowledge) (connected : w.state.Connected) :
    joined.Connected := by
  intro fact holds a b joins
  rcases steps.mem_stated.mp (steps.stated_of_connection holds joins) with given | old
  · exact steps.directed_of_given built core given joins
  · obtain ⟨direction, stated⟩ := connected fact old a b joins
    exact ⟨direction, steps.joins.keeps (steps.mem_mapped.mpr (.inl (steps.mem_stated.mpr (.inr stated))))⟩

theorem connected (built : w.state.Built) (core : w.state.kb = knowledge) (connected : w.state.Connected) :
    v.state.Connected := by
  have before := steps.connected_joined built core connected
  have directed {a b : Entity} : joined.Directed a b → v.state.Directed a b := fun ⟨direction, holds⟩ =>
    ⟨direction, steps.mem_direction.mpr holds⟩
  intro fact holds a b joins
  rcases steps.mem_full.mp holds with holds | ⟨other, holds, turned⟩
  · exact directed (before fact holds a b joins)
  · have back := connection?_reversed (reversed?_symm turned) joins
    exact directed (steps.mirrored_joined.directed (before other holds b a back))

end Completes

/-- A map of the core world on which every way leads back, all that is joined lies in some direction, and no two rooms
are in one cell. -/
structure Coherent (w : World) : Prop where
  built : w.state.Built
  core : w.state.kb = knowledge
  mirrored : w.state.Mirrored
  returns : w.state.Returns
  connected : w.state.Connected
  apart : w.positions.Apart

theorem Coherent.addFacts (coherent : Coherent w) (added : w.addFacts facts = .ok v) : Coherent v := by
  obtain ⟨stated, mapped, joined, steps⟩ := exists_completes added
  exact ⟨steps.built coherent.built, steps.kb.trans coherent.core, steps.mirrored, steps.returns,
    steps.connected coherent.built coherent.core coherent.connected, steps.apart coherent.apart⟩

theorem coherent_empty : Coherent (World.empty knowledge) where
  built := .empty knowledge
  core := rfl
  mirrored direction a b holds := by simp [World.empty, State.empty] at holds
  returns fact holds := by simp [World.empty, State.empty] at holds
  connected fact holds := by simp [World.empty, State.empty] at holds
  apart := .empty

/-- Every door and passage is on an exit that the map shows. -/
def Charted (w : World) : Prop :=
  ∀ fact ∈ w.facts, ∀ a b, connection? fact = some (a, b) →
    (Exits.ofFacts w.facts).leadsTo a.name b.name = true

/-- Facts give a room as what lies in a direction of another, from either side. -/
def Given (facts : List Fact) (direction : Direction) (room target : Entity) : Prop :=
  ⟨direction.predicate, [target, room]⟩ ∈ facts ∨ ⟨direction.opposite.predicate, [room, target]⟩ ∈ facts

theorem Completes.direction_mapped_iff (steps : Completes w facts stated mapped joined v)
    (mirrored : w.state.Mirrored) : ⟨direction.predicate, [b, a]⟩ ∈ mapped.facts ↔
      ⟨direction.predicate, [b, a]⟩ ∈ w.state.facts ∨ Given facts direction a b := by
  have turned :
      ⟨direction.opposite.predicate, [a, b]⟩ ∈ w.state.facts → ⟨direction.predicate, [b, a]⟩ ∈ w.state.facts := by
    intro holds
    simpa only [Direction.opposite_opposite] using mirrored direction.opposite a b holds
  rw [steps.mem_mapped, steps.mem_stated, Given]
  constructor
  · rintro ((given | old) | ⟨other, x, y, stated, same⟩)
    · exact .inr (.inl given)
    · exact .inl old
    · simp only [Fact.mk.injEq, List.cons.injEq, and_true] at same
      obtain ⟨named, rfl, rfl⟩ := same
      cases Direction.predicate_injective named
      rw [Direction.opposite_opposite] at turned ⊢
      exact (steps.mem_stated.mp stated).elim (fun given => .inr (.inr given)) fun old => .inl (turned old)
  · rintro (old | given | given)
    · exact .inl (.inr old)
    · exact .inl (.inl given)
    · refine .inr ⟨direction.opposite, a, b, steps.mem_stated.mpr (.inl given), ?_⟩
      rw [Direction.opposite_opposite]

/-- Where no exit of a room leads to two rooms, the map shows all exits. -/
theorem Coherent.charted (coherent : Coherent w) (unambiguous : w.state.Unambiguous) : Charted w := by
  intro fact listed a b joins
  have holds : fact ∈ w.state.facts := Std.ExtTreeSet.mem_toList.mp listed
  obtain ⟨direction, stated⟩ := coherent.connected fact holds a b joins
  have reads : (Exits.ofFacts w.facts).Reads w.state := Exits.reads_ofFacts w.state
  obtain ⟨target, leads⟩ := SortedMap.mem_iff.mp (reads.taken direction b a stated)
  obtain ⟨x, y, also, rfl, named⟩ := reads.stated _ _ _ leads
  have isA := (isA_of_direction coherent.built coherent.core stated).2
  have isY := (isA_of_direction coherent.built coherent.core also).2
  cases isY.eq_of_name isA named
  cases unambiguous direction a x b also stated
  exact Exits.leadsTo_iff.mpr ⟨direction, leads⟩

theorem Coherent.opposites_known (coherent : Coherent w) :
    ∀ fact ∈ w.facts.filterMap opposite?, fact ∈ w.state.facts := by
  intro fact member
  obtain ⟨direction, a, b, listed, rfl⟩ := mem_opposites.mp member
  exact coherent.mirrored direction a b (Std.ExtTreeSet.mem_toList.mp listed)

theorem Coherent.reversals_known (coherent : Coherent w) :
    ∀ fact ∈ w.facts.filterMap reversed?, fact ∈ w.state.facts := by
  intro fact member
  obtain ⟨other, listed, made⟩ := List.mem_filterMap.mp member
  exact coherent.returns other (Std.ExtTreeSet.mem_toList.mp listed) fact made

theorem Coherent.ofFacts_stated (coherent : Coherent w) :
    (World.empty knowledge).state.addFacts w.facts = .ok w.state := by
  rw [← coherent.core]
  exact coherent.built.ofFacts_toList

/-- A world that is built from the facts of a charted one has the same facts. -/
theorem Coherent.exists_again (coherent : Coherent w) (charted : Charted w) :
    ∃ v, World.ofFacts knowledge w.facts = .ok v ∧ v.state = w.state := by
  have long : ∀ fact ∈ w.state.factsNamed "at", 2 ≤ fact.arguments.length := fun fact member =>
    Nat.le_of_eq (length_of_at coherent.built coherent.core fact member).symm
  obtain ⟨positions, laid⟩ := State.exists_layout long (Exits.ofFacts w.facts) ∅
  obtain ⟨final, relaid⟩ := exists_laidOut (w := ⟨w.state, positions, FreshNames.empty⟩) long
  have mapped := coherent.built.addFacts_of_subset coherent.opposites_known
  have joined : connect w.state (Exits.ofFacts w.facts) positions (unplaced (Exits.ofFacts w.facts) [] w.facts) =
      .ok (w.state, positions) := by
    rw [unplaced_eq_nil charted]
    rfl
  have full := coherent.built.addFacts_of_subset coherent.reversals_known
  refine ⟨⟨w.state, final, FreshNames.empty⟩, ?_, rfl⟩
  exact bind_eq_ok_iff.mpr ⟨_, coherent.ofFacts_stated, bind_eq_ok_iff.mpr ⟨_, mapped, bind_eq_ok_iff.mpr ⟨_, laid,
    bind_eq_ok_iff.mpr ⟨_, joined, bind_eq_ok_iff.mpr ⟨_, full, relaid⟩⟩⟩⟩⟩

/-- Building again from the facts of a world changes nothing only if the map shows all its exits. -/
theorem Coherent.charted_of_again (coherent : Coherent w) (again : World.ofFacts knowledge w.facts = .ok v)
    (same : v.facts = w.facts) : Charted w := by
  obtain ⟨stated, mapped, joined, steps⟩ := exists_completes again
  cases coherent.ofFacts_stated.symm.trans steps.given
  cases (coherent.built.addFacts_of_subset coherent.opposites_known).symm.trans steps.opposites
  have kept {fact : Fact} (holds : fact ∈ joined.facts) : fact ∈ w.state.facts := by
    have listed : fact ∈ v.facts := Std.ExtTreeSet.mem_toList.mpr (steps.mem_full.mpr (.inl holds))
    rw [same] at listed
    exact Std.ExtTreeSet.mem_toList.mp listed
  have none : unplaced (Exits.ofFacts w.facts) [] w.facts = [] := by
    have joins : w.state.Joins (unplaced (Exits.ofFacts w.facts) [] w.facts) joined := steps.joins
    generalize unplaced (Exits.ofFacts w.facts) [] w.facts = pairs at joins
    cases joins with
    | done => rfl
    | @next _ _ _ direction a b _ free _ added rest =>
      exact absurd ⟨b, kept (rest.keeps ((State.mem_joined added).mpr (.inl rfl)))⟩ free
  intro fact listed a b joins
  rcases none ▸ unplaced_covers listed joins with shown | queued | queued
  · exact shown
  · cases queued
  · cases queued

theorem Completes.unambiguous (steps : Completes (World.empty knowledge) facts stated mapped joined v)
    (clear : ∀ direction room a b, Given facts direction room a → Given facts direction room b → a = b) :
    v.state.Unambiguous := by
  have given {direction : Direction} {room target : Entity}
      (holds : ⟨direction.predicate, [target, room]⟩ ∈ mapped.facts) :
      Given facts direction room target := by
    refine ((steps.direction_mapped_iff coherent_empty.mirrored).mp holds).resolve_left ?_
    simp [World.empty, State.empty]
  have before : mapped.Unambiguous := fun direction room a b holdsA holdsB =>
    clear direction room a b (given holdsA) (given holdsB)
  intro direction room a b holdsA holdsB
  rw [steps.mem_direction] at holdsA holdsB
  exact steps.joins.unambiguous before direction room a b holdsA holdsB

/-- A world that is built again from all its facts has no more than these exactly if its map shows each door and each
passage on an exit. So it is if no two rooms are given for one exit of a room. -/
theorem ofFacts_facts_iff (made : World.ofFacts knowledge facts = .ok w) :
    ((∃ v, World.ofFacts knowledge w.facts = .ok v ∧ v.facts = w.facts) ↔ Charted w) ∧
    ((∀ direction room a b, Given facts direction room a → Given facts direction room b → a = b) → Charted w) := by
  have coherent : Coherent w := coherent_empty.addFacts made
  refine ⟨⟨fun ⟨v, again, same⟩ => coherent.charted_of_again again same, fun charted => ?_⟩, fun clear => ?_⟩
  · obtain ⟨v, again, same⟩ := coherent.exists_again charted
    exact ⟨v, again, by rw [World.facts, same, World.facts]⟩
  · obtain ⟨stated, mapped, joined, steps⟩ := exists_completes made
    exact coherent.charted (steps.unambiguous clear)

/-- Three rooms in a row, one of them put in its place by a passage only. -/
def rowFacts : List Fact :=
  [⟨"at", [⟨"P", "P"⟩, ⟨"attic", "r"⟩]⟩, ⟨"south_of", [⟨"attic", "r"⟩, ⟨"bedroom", "r"⟩]⟩,
    ⟨"free", [⟨"attic", "r"⟩, ⟨"bedroom", "r"⟩]⟩, ⟨"free", [⟨"attic", "r"⟩, ⟨"cellar", "r"⟩]⟩]

theorem ofFacts_facts_iff_row : ∃ w, World.ofFacts knowledge rowFacts = .ok w ∧ w.facts.length = 9 ∧
    (∀ direction room a b, Given rowFacts direction room a → Given rowFacts direction room b → a = b) ∧
    ∃ v, World.ofFacts knowledge w.facts = .ok v ∧ v.facts = w.facts := by
  have built : (do return (← World.ofFacts knowledge rowFacts).facts.length) = .ok 9 := by decide
  obtain ⟨w, made, counted⟩ := bind_eq_ok_iff.mp built
  have ways : ∀ fact ∈ rowFacts, ∀ direction ∈ Direction.all, fact.predicate = direction.predicate →
      direction = .south ∧ fact.arguments = [⟨"attic", "r"⟩, ⟨"bedroom", "r"⟩] := by decide
  have only {direction : Direction} {room target : Entity} (given : ⟨direction.predicate, [target, room]⟩ ∈ rowFacts) :
      direction = .south ∧ target = ⟨"attic", "r"⟩ ∧ room = ⟨"bedroom", "r"⟩ := by
    simpa using ways _ given direction direction.mem_all rfl
  have clear : ∀ direction room a b, Given rowFacts direction room a → Given rowFacts direction room b → a = b := by
    intro direction room a b first second
    rcases first with first | first <;> rcases second with second | second <;>
      obtain ⟨southA, targetA, roomA⟩ := only first <;> obtain ⟨southB, targetB, roomB⟩ := only second
    · rw [targetA, targetB]
    · cases southA
      cases southB
    · cases southB
      cases southA
    · rw [roomA, roomB]
  obtain ⟨complete, charted⟩ := ofFacts_facts_iff made
  exact ⟨w, made, Except.ok.inj counted, clear, complete.mpr (charted clear)⟩

/-- Two rooms that are both said to lie south of a third, with a passage to the one that the map does not show there. -/
def rivalFacts : List Fact :=
  [⟨"at", [⟨"P", "P"⟩, ⟨"attic", "r"⟩]⟩, ⟨"south_of", [⟨"attic", "r"⟩, ⟨"bedroom", "r"⟩]⟩,
    ⟨"south_of", [⟨"cellar", "r"⟩, ⟨"bedroom", "r"⟩]⟩, ⟨"free", [⟨"attic", "r"⟩, ⟨"bedroom", "r"⟩]⟩]

/-- Built again from its facts, the world has a second exit to the room that the map hides. -/
theorem ofFacts_rivalFacts : ∃ w v, World.ofFacts knowledge rivalFacts = .ok w ∧
    World.ofFacts knowledge w.facts = .ok v ∧ v.facts ≠ w.facts ∧
    ⟨"south_of", [⟨"bedroom", "r"⟩, ⟨"attic", "r"⟩]⟩ ∈ v.facts := by
  have built : (do
      let w ← World.ofFacts knowledge rivalFacts
      let v ← World.ofFacts knowledge w.facts
      return (v.facts ≠ w.facts : Bool) && v.facts.contains ⟨"south_of", [⟨"bedroom", "r"⟩, ⟨"attic", "r"⟩]⟩) =
        .ok true := by decide
  obtain ⟨w, made, built⟩ := bind_eq_ok_iff.mp built
  obtain ⟨v, again, more⟩ := bind_eq_ok_iff.mp built
  have differ := Except.ok.inj more
  simp only [Bool.and_eq_true, decide_eq_true_iff, List.contains_iff_mem] at differ
  exact ⟨w, v, made, again, differ⟩

end World

end Adventure
