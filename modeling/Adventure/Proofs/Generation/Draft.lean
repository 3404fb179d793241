import Adventure.Generation.Map
import Adventure.Knowledge.Core
import Adventure.Proofs.Logic.Minting
import Adventure.Proofs.Random.Choice
import Adventure.Proofs.World.View
import Mathlib.Data.Finset.Max
import Mathlib.Logic.Relation

namespace Adventure

theorem Cell.step_opposite (cell : Cell) (direction : Direction) :
    (cell.step direction).step direction.opposite = cell := by
  cases direction <;> simp [Cell.step, Direction.opposite]

theorem Cell.step_injective {cell : Cell} {a b : Direction} (same : cell.step a = cell.step b) : a = b := by
  cases a <;> cases b <;> simp only [Cell.step, Cell.mk.injEq] at same <;> first | rfl | omega

namespace Draft

/-- A fact says in which direction one of two rooms lies from the other. -/
def Joined (facts : List Fact) (a b : Entity) : Prop :=
  ∃ direction : Direction, ⟨direction.predicate, [b, a]⟩ ∈ facts ∨ ⟨direction.predicate, [a, b]⟩ ∈ facts

theorem Joined.symm {facts : List Fact} {a b : Entity} (joined : Joined facts a b) : Joined facts b a :=
  joined.imp fun _ => Or.symm

/-- What the facts of a draft say: where the player is, how rooms lie to each other, and how the way between two such
rooms is closed off, from both sides. -/
inductive Drawn (draft : Draft) : Fact → Prop
  | player {room : Entity} : draft.cells[(⟨0, 0⟩ : Cell)]? = some room → Drawn draft ⟨"at", [⟨"P", "P"⟩, room]⟩
  | way {cell : Cell} {direction : Direction} {room target : Entity} : draft.cells[cell]? = some room →
      draft.cells[cell.step direction]? = some target → Drawn draft ⟨direction.predicate, [target, room]⟩
  | link {room door target : Entity} : Joined draft.facts room target → draft.world.names.Minted "d" door →
      ⟨"link", [target, door, room]⟩ ∈ draft.facts → (∃ state ∈ World.openStates, ⟨state, [door]⟩ ∈ draft.facts) →
      Drawn draft ⟨"link", [room, door, target]⟩
  | free {room target : Entity} : Joined draft.facts room target → ⟨"free", [target, room]⟩ ∈ draft.facts →
      Drawn draft ⟨"free", [room, target]⟩
  | door {state : String} {door : Entity} : state ∈ World.openStates → draft.world.names.Minted "d" door →
      Drawn draft ⟨state, [door]⟩

/-- A draft of a map: no two cells have the same room, no door is in two states or leads from a room to two others, and
all rooms hang together. -/
structure Sound (draft : Draft) : Prop where
  blank : draft.world.state = State.empty Core.knowledge
  unplaced : draft.world.positions = ∅
  minted : ∀ (cell : Cell) room, draft.cells[cell]? = some room → draft.world.names.Minted "r" room
  apart : ∀ (a b : Cell) room, draft.cells[a]? = some room → draft.cells[b]? = some room → a = b
  drawn : ∀ fact ∈ draft.facts, Drawn draft fact
  doors : ∀ a ∈ World.openStates, ∀ b ∈ World.openStates, ∀ door, ⟨a, [door]⟩ ∈ draft.facts →
    ⟨b, [door]⟩ ∈ draft.facts → a = b
  hinged : ∀ a door b c, ⟨"link", [a, door, b]⟩ ∈ draft.facts → ⟨"link", [a, door, c]⟩ ∈ draft.facts → b = c
  connected : ∃ start, draft.cells[(⟨0, 0⟩ : Cell)]? = some start ∧ ⟨"at", [⟨"P", "P"⟩, start]⟩ ∈ draft.facts ∧
    ∀ (cell : Cell) room, draft.cells[cell]? = some room → Relation.ReflTransGen (Joined draft.facts) start room

/-- A draft with more in it than another. -/
structure Grows (before after : Draft) : Prop where
  cells : ∀ (cell : Cell) room, before.cells[cell]? = some room → after.cells[cell]? = some room
  facts : ∀ fact ∈ before.facts, fact ∈ after.facts
  names : ∀ type e, before.world.names.Minted type e → after.world.names.Minted type e

variable {draft before after : Draft} {fact : Fact} {a b : Entity}

theorem Grows.joined (grows : Grows before after) (joined : Joined before.facts a b) : Joined after.facts a b :=
  joined.imp fun _ => Or.imp (grows.facts _) (grows.facts _)

theorem Grows.path (grows : Grows before after) (path : Relation.ReflTransGen (Joined before.facts) a b) :
    Relation.ReflTransGen (Joined after.facts) a b :=
  Relation.ReflTransGen.mono (fun _ _ => grows.joined) a b path

theorem Drawn.mono (drawn : Drawn before fact) (grows : Grows before after) : Drawn after fact := by
  cases drawn with
  | player here => exact .player (grows.cells _ _ here)
  | way here there => exact .way (grows.cells _ _ here) (grows.cells _ _ there)
  | link joined minted back condition =>
    obtain ⟨state, among, stated⟩ := condition
    exact .link (grows.joined joined) (grows.names _ _ minted) (grows.facts _ back) ⟨state, among, grows.facts _ stated⟩
  | free joined back => exact .free (grows.joined joined) (grows.facts _ back)
  | door among minted => exact .door among (grows.names _ _ minted)

theorem Drawn.minted {state : String} {door : Entity} (drawn : Drawn draft ⟨state, [door]⟩) :
    draft.world.names.Minted "d" door := by
  cases drawn with
  | door _ minted => exact minted

theorem Drawn.of_link {room door target : Entity} (drawn : Drawn draft ⟨"link", [room, door, target]⟩) :
    draft.world.names.Minted "d" door ∧ Joined draft.facts room target ∧
      ⟨"link", [target, door, room]⟩ ∈ draft.facts := by
  generalize read : (⟨"link", [room, door, target]⟩ : Fact) = fact at drawn
  cases drawn with
  | link joined minted back =>
    cases read
    exact ⟨minted, joined, back⟩
  | player => cases congrArg (List.length ∘ Fact.arguments) read
  | way => cases congrArg (List.length ∘ Fact.arguments) read
  | free => cases congrArg (List.length ∘ Fact.arguments) read
  | door => cases congrArg (List.length ∘ Fact.arguments) read

/-- What is said of a door is not said by facts about two entities. -/
theorem mem_of_append {facts others : List Fact} (pairs : ∀ fact ∈ others, fact.arguments.length = 2)
    (stated : fact ∈ facts ++ others) (single : fact.arguments.length ≠ 2) : fact ∈ facts :=
  (List.mem_append.mp stated).resolve_right fun other => single (pairs fact other)

/-- A draft with a room more, in a direction from an old one. -/
def withRoom (draft : Draft) (cell : Cell) (direction : Direction) (old : Entity) : Draft :=
  ⟨(draft.world.newEntity "r").2, draft.cells.insert (cell.step direction) (draft.world.newEntity "r").1,
    draft.facts ++ [⟨direction.predicate, [(draft.world.newEntity "r").1, old]⟩]⟩

section Room

variable {cell : Cell} {direction : Direction} {old : Entity} (free : cell.step direction ∉ draft.cells)

include free

theorem grows_withRoom : Grows draft (draft.withRoom cell direction old) where
  cells other room here := by
    have different : cell.step direction ≠ other := by
      rintro rfl
      exact free (SortedMap.mem_iff.mpr ⟨room, here⟩)
    rw [withRoom, Std.ExtTreeMap.getElem?_insert, if_neg (by simpa using different)]
    exact here
  facts fact member := List.mem_append_left _ member
  names type e minted := minted.mint "r" _

theorem Sound.withRoom (sound : draft.Sound) (here : draft.cells[cell]? = some old) :
    (draft.withRoom cell direction old).Sound := by
  have grows : Grows draft (draft.withRoom cell direction old) := grows_withRoom free
  have placed : (draft.withRoom cell direction old).cells[cell.step direction]? = some (draft.world.newEntity "r").1 :=
    Std.ExtTreeMap.getElem?_insert_self
  have stated : ⟨direction.predicate, [(draft.world.newEntity "r").1, old]⟩ ∈
      (draft.withRoom cell direction old).facts := List.mem_append_right _ (List.mem_singleton_self _)
  have either {other : Cell} {room : Entity} (found : (draft.withRoom cell direction old).cells[other]? = some room) :
      (cell.step direction = other ∧ (draft.world.newEntity "r").1 = room) ∨ draft.cells[other]? = some room :=
    SortedMap.eq_or_of_insert found
  have new {other : Cell} (found : draft.cells[other]? = some (draft.world.newEntity "r").1) : False :=
    (sound.minted other _ found).ne_mint _ rfl
  have pairs : ∀ fact ∈ [(⟨direction.predicate, [(draft.world.newEntity "r").1, old]⟩ : Fact)],
      fact.arguments.length = 2 := by simp
  refine ⟨sound.blank, sound.unplaced, ?minted, ?apart, ?drawn, ?doors, ?hinged, ?connected⟩
  case minted =>
    intro other room found
    rcases either found with ⟨-, rfl⟩ | before
    · exact draft.world.names.minted_mint "r" _
    · exact grows.names _ _ (sound.minted other room before)
  case apart =>
    -- The name of the new room is new, so that no old cell has it.
    intro a b room foundA foundB
    rcases either foundA with ⟨rfl, rfl⟩ | oldA <;> rcases either foundB with ⟨rfl, same⟩ | oldB
    · rfl
    · exact (new oldB).elim
    · exact (new (same ▸ oldA)).elim
    · exact sound.apart a b room oldA oldB
  case drawn =>
    intro fact member
    rcases List.mem_append.mp member with before | last
    · exact (sound.drawn fact before).mono grows
    · rw [List.mem_singleton.mp last]
      exact .way (grows.cells _ _ here) placed
  case doors =>
    intro a stateA b stateB door statedA statedB
    exact sound.doors a stateA b stateB door (mem_of_append pairs statedA (by simp)) (mem_of_append pairs statedB (by simp))
  case hinged =>
    intro a door b c linkB linkC
    exact sound.hinged a door b c (mem_of_append pairs linkB (by simp)) (mem_of_append pairs linkC (by simp))
  case connected =>
    obtain ⟨start, origin, player, connected⟩ := sound.connected
    refine ⟨start, grows.cells _ _ origin, grows.facts _ player, fun other room found => ?_⟩
    rcases either found with ⟨-, rfl⟩ | before
    · exact (grows.path (connected cell old here)).tail ⟨direction, .inl stated⟩
    · exact grows.path (connected other room before)

end Room

/-- A draft stays sound with more facts about its rooms that are drawn, if what they say of doors is said of new ones and
keeps their states and ways apart. -/
theorem Sound.more (sound : draft.Sound) (world : World) (blank : world.state = draft.world.state)
    (unplaced : world.positions = draft.world.positions) (facts : List Fact)
    (grows : Grows draft ⟨world, draft.cells, draft.facts ++ facts⟩)
    (drawn : ∀ fact ∈ facts, Drawn ⟨world, draft.cells, draft.facts ++ facts⟩ fact)
    (doors : ∀ a ∈ World.openStates, ∀ door, ⟨a, [door]⟩ ∈ facts → ¬ draft.world.names.Minted "d" door ∧
      ∀ b ∈ World.openStates, ⟨b, [door]⟩ ∈ facts → a = b)
    (hinged : ∀ a door b, ⟨"link", [a, door, b]⟩ ∈ facts → ¬ draft.world.names.Minted "d" door ∧
      ∀ c, ⟨"link", [a, door, c]⟩ ∈ facts → b = c) :
    Sound ⟨world, draft.cells, draft.facts ++ facts⟩ := by
  have minted {state : String} {door : Entity} (stated : ⟨state, [door]⟩ ∈ draft.facts) :
      draft.world.names.Minted "d" door := (sound.drawn _ stated).minted
  have linked {a door b : Entity} (stated : ⟨"link", [a, door, b]⟩ ∈ draft.facts) :
      draft.world.names.Minted "d" door := (sound.drawn _ stated).of_link.1
  refine ⟨blank.trans sound.blank, unplaced.trans sound.unplaced, ?minted, sound.apart, ?drawn, ?doors, ?hinged,
    ?connected⟩
  case minted => exact fun cell room here => grows.names _ _ (sound.minted cell room here)
  case drawn =>
    intro fact member
    rcases List.mem_append.mp member with old | new
    · exact (sound.drawn fact old).mono grows
    · exact drawn fact new
  case doors =>
    intro a stateA b stateB door statedA statedB
    rcases List.mem_append.mp statedA with oldA | newA <;> rcases List.mem_append.mp statedB with oldB | newB
    · exact sound.doors a stateA b stateB door oldA oldB
    · exact absurd (minted oldA) (doors b stateB door newB).1
    · exact absurd (minted oldB) (doors a stateA door newA).1
    · exact (doors a stateA door newA).2 b stateB newB
  case hinged =>
    intro a door b c linkB linkC
    rcases List.mem_append.mp linkB with oldB | newB <;> rcases List.mem_append.mp linkC with oldC | newC
    · exact sound.hinged a door b c oldB oldC
    · exact absurd (linked oldB) (hinged a door c newC).1
    · exact absurd (linked oldC) (hinged a door b newB).1
    · exact (hinged a door b newB).2 c newC
  case connected =>
    obtain ⟨start, origin, player, connected⟩ := sound.connected
    exact ⟨start, origin, grows.facts _ player, fun cell room here => grows.path (connected cell room here)⟩

/-- The facts about a new door between two rooms. -/
def doorFacts (room door target : Entity) (state : String) : List Fact :=
  [⟨"link", [room, door, target]⟩, ⟨"link", [target, door, room]⟩, ⟨state, [door]⟩]

theorem grows_withDoor (room target : Entity) (state : String) : Grows draft
    ⟨(draft.world.newEntity "d").2, draft.cells,
      draft.facts ++ doorFacts room (draft.world.newEntity "d").1 target state⟩ :=
  ⟨fun _ _ => id, fun _ => List.mem_append_left _, fun _ _ minted => minted.mint "d" _⟩

section Passages

variable {room target : Entity} (joined : Joined draft.facts room target)

include joined

theorem Sound.withFree (sound : draft.Sound) :
    Sound ⟨draft.world, draft.cells, draft.facts ++ freeBetween room target⟩ := by
  have grows : Grows draft ⟨draft.world, draft.cells, draft.facts ++ freeBetween room target⟩ :=
    ⟨fun _ _ => id, fun _ => List.mem_append_left _, fun _ _ => id⟩
  have both := grows.joined joined
  refine sound.more draft.world rfl rfl _ grows (fun fact member => ?_) (fun a _ door stated => ?_)
    fun a door b stated => ?_
  · rcases List.mem_pair.mp member with rfl | rfl
    · exact .free both (List.mem_append_right _ (by simp [freeBetween]))
    · exact .free both.symm (List.mem_append_right _ (by simp [freeBetween]))
  · simp [freeBetween] at stated
  · simp [freeBetween] at stated

theorem Sound.withDoor (sound : draft.Sound) (apart : room ≠ target) {state : String} (among : state ∈ World.openStates) :
    Sound ⟨(draft.world.newEntity "d").2, draft.cells,
      draft.facts ++ doorFacts room (draft.world.newEntity "d").1 target state⟩ := by
  have grows : Grows draft _ := grows_withDoor room target state
  have both := grows.joined joined
  have minted : (draft.world.newEntity "d").2.names.Minted "d" (draft.world.newEntity "d").1 :=
    draft.world.names.minted_mint "d" _
  have fresh : ¬ draft.world.names.Minted "d" (draft.world.newEntity "d").1 := fun old => old.ne_mint _ rfl
  refine sound.more (draft.world.newEntity "d").2 rfl rfl _ grows (fun fact member => ?_) (fun a stateA door stated => ?_)
    fun a door b stated => ?_
  · simp only [doorFacts, List.mem_cons, List.not_mem_nil, or_false] at member
    rcases member with rfl | rfl | rfl
    · exact .link both minted (List.mem_append_right _ (by simp [doorFacts])) ⟨state, among, by simp [doorFacts]⟩
    · exact .link both.symm minted (List.mem_append_right _ (by simp [doorFacts])) ⟨state, among, by simp [doorFacts]⟩
    · exact .door among minted
  · have only {other : String} (listed : ⟨other, [door]⟩ ∈ doorFacts room (draft.world.newEntity "d").1 target state) :
        other = state ∧ door = (draft.world.newEntity "d").1 := by
      simpa [doorFacts] using listed
    obtain ⟨rfl, rfl⟩ := only stated
    exact ⟨fresh, fun b _ also => (only also).1.symm⟩
  · have only {b : Entity} (listed : ⟨"link", [a, door, b]⟩ ∈
        doorFacts room (draft.world.newEntity "d").1 target state) : door = (draft.world.newEntity "d").1 ∧
          (a = room ∧ b = target ∨ a = target ∧ b = room) := by
      simp only [doorFacts, List.mem_cons, List.not_mem_nil, or_false] at listed
      rcases listed with same | same | same
      · cases same
        exact ⟨rfl, .inl ⟨rfl, rfl⟩⟩
      · cases same
        exact ⟨rfl, .inr ⟨rfl, rfl⟩⟩
      · cases congrArg (List.length ∘ Fact.arguments) same
    obtain ⟨rfl, ends⟩ := only stated
    refine ⟨fresh, fun c also => ?_⟩
    rcases ends with ⟨rfl, rfl⟩ | ⟨rfl, rfl⟩ <;> rcases (only also).2 with ⟨same, rfl⟩ | ⟨same, rfl⟩
    · rfl
    · exact absurd same apart
    · exact absurd same.symm apart
    · rfl

theorem Sound.join (sound : draft.Sound) (apart : room ≠ target) (passage : Passage) :
    (draft.join room target passage).Sound := by
  have opened := sound.withDoor joined apart (by decide : "open" ∈ World.openStates)
  have closed := sound.withDoor joined apart (by decide : "closed" ∈ World.openStates)
  have locked := sound.withDoor joined apart (by decide : "locked" ∈ World.openStates)
  match passage with
  | .doorless => exact sound.withFree joined
  | .open => exact opened.withFree ((grows_withDoor room target "open").joined joined)
  | .closed => simpa [Draft.join, Passage.doorState, doorFacts] using closed
  | .locked => simpa [Draft.join, Passage.doorState, doorFacts] using locked

end Passages

theorem join_cells (draft : Draft) (room target : Entity) (passage : Passage) :
    (draft.join room target passage).cells = draft.cells := by
  match passage with
  | .doorless => rfl
  | .open => rfl
  | .closed => rfl
  | .locked => rfl

theorem mem_frontier {cell : Cell} {direction : Direction} : (cell, direction) ∈ draft.frontier ↔
    cell ∈ draft.cells ∧ cell.step direction ∉ draft.cells := by
  have all : direction ∈ Direction.all := by cases direction <;> decide
  have out : (!draft.cells.contains (cell.step direction)) = true ↔ cell.step direction ∉ draft.cells := by
    rw [Bool.not_eq_true', ← Bool.not_eq_true, Std.ExtTreeMap.contains_iff_mem]
  simp only [frontier, List.mem_filter, out]
  simp [all]

/-- East of the easternmost room is no other. -/
theorem frontier_ne_nil {cell : Cell} (some : cell ∈ draft.cells) : draft.frontier ≠ [] := by
  have filled : draft.cells.keys.toFinset.Nonempty := ⟨cell, by simpa using some⟩
  obtain ⟨last, member, east⟩ := Finset.exists_max_image draft.cells.keys.toFinset Cell.x filled
  have free : last.step .east ∉ draft.cells := by
    intro taken
    have beyond := east (last.step .east) (by simpa using taken)
    simp only [Cell.step] at beyond
    omega
  exact List.ne_nil_of_mem (mem_frontier.mpr ⟨by simpa using member, free⟩)

/-- A new room is placed next to an old one, whatever is drawn. -/
theorem Sound.extend (sound : draft.Sound) (rng : Rng) :
    (draft.extend rng).1.Sound ∧ (draft.extend rng).1.cells.size = draft.cells.size + 1 := by
  obtain ⟨start, origin, -⟩ := sound.connected
  have some : (⟨0, 0⟩ : Cell) ∈ draft.cells := SortedMap.mem_iff.mpr ⟨start, origin⟩
  obtain ⟨⟨cell, direction⟩, listed, chosen⟩ := Random.exists_choose (frontier_ne_nil some) rng
  obtain ⟨known, free⟩ := mem_frontier.mp listed
  obtain ⟨old, here⟩ := SortedMap.mem_iff.mp known
  obtain ⟨passage, run⟩ : ∃ passage, (draft.extend rng).1 =
      (draft.withRoom cell direction old).join old (draft.world.newEntity "r").1 passage := by
    rw [Draft.extend, Random.bind_eq, chosen]
    simp only [here]
    exact ⟨_, rfl⟩
  have joined : Joined (draft.withRoom cell direction old).facts old (draft.world.newEntity "r").1 :=
    ⟨direction, .inl (List.mem_append_right _ (List.mem_singleton_self _))⟩
  rw [run, join_cells]
  have apart : old ≠ (draft.world.newEntity "r").1 := (sound.minted cell old here).ne_mint _
  refine ⟨(sound.withRoom free here).join joined apart passage, ?_⟩
  rw [Draft.withRoom, Std.ExtTreeMap.size_insert, if_neg (mt Std.ExtTreeMap.contains_iff_mem.mp free)]

theorem Sound.extendTimes (sound : draft.Sound) (count : Nat) (rng : Rng) :
    (draft.extendTimes count rng).1.Sound ∧ (draft.extendTimes count rng).1.cells.size = draft.cells.size + count := by
  induction count generalizing draft rng with
  | zero => exact ⟨sound, rfl⟩
  | succ count ih =>
    obtain ⟨next, size⟩ := sound.extend rng
    obtain ⟨last, total⟩ := ih next (draft.extend rng).2
    rw [Draft.extendTimes, Random.bind_eq]
    exact ⟨last, by omega⟩

theorem sound_start : (start Core.knowledge).Sound ∧ (start Core.knowledge).cells.size = 1 := by
  have minted : (start Core.knowledge).world.names.Minted "r" ((World.empty Core.knowledge).newEntity "r").1 :=
    (World.empty Core.knowledge).names.minted_mint "r" _
  have only {cell : Cell} {room : Entity} (found : (start Core.knowledge).cells[cell]? = some room) :
      cell = ⟨0, 0⟩ ∧ room = ((World.empty Core.knowledge).newEntity "r").1 := by
    exact Prod.mk.inj (List.mem_singleton.mp (SortedMap.mem_of_eq_some found))
  have origin : (start Core.knowledge).cells[(⟨0, 0⟩ : Cell)]? =
      some ((World.empty Core.knowledge).newEntity "r").1 := rfl
  have player : (start Core.knowledge).facts =
      [⟨"at", [⟨"P", "P"⟩, ((World.empty Core.knowledge).newEntity "r").1]⟩] := rfl
  refine ⟨⟨rfl, rfl, fun cell room found => (only found).2 ▸ minted, fun a b room foundA foundB => ?_, ?_, ?_, ?_, ?_⟩,
    rfl⟩
  · rw [(only foundA).1, (only foundB).1]
  · intro fact member
    rw [player] at member
    cases List.mem_singleton.mp member
    exact .player origin
  · intro a _ b _ door stated
    rw [player] at stated
    simp at stated
  · intro a door b c stated
    rw [player] at stated
    simp at stated
  · refine ⟨_, origin, player ▸ List.mem_singleton_self _, fun cell room found => ?_⟩
    rw [(only found).2]

/-- A draft in which each direction is also said from the other room. -/
def completed (draft : Draft) : Draft :=
  { draft with facts := draft.facts ++ draft.facts.filterMap World.opposite? }

/-- Where rooms lie is drawn as they lie. -/
theorem Drawn.exists_cell {direction : Direction} {room target : Entity}
    (drawn : Drawn draft ⟨direction.predicate, [target, room]⟩) : ∃ cell : Cell,
      draft.cells[cell]? = some room ∧ draft.cells[cell.step direction]? = some target := by
  have apart {predicate : String} (other : predicate ∈ ["at", "free"]) : direction.predicate ≠ predicate := by
    rcases List.mem_pair.mp other with rfl | rfl <;> cases direction <;> decide
  generalize read : (⟨direction.predicate, [target, room]⟩ : Fact) = fact at drawn
  cases drawn with
  | player => exact absurd (congrArg Fact.predicate read) (apart (by simp))
  | @way cell other a b here there =>
    obtain ⟨named, arguments⟩ := Fact.mk.inj read
    cases Direction.predicate_injective named
    cases arguments
    exact ⟨cell, here, there⟩
  | link => cases congrArg (List.length ∘ Fact.arguments) read
  | free => exact absurd (congrArg Fact.predicate read) (apart (by simp))
  | door => cases congrArg (List.length ∘ Fact.arguments) read

theorem Sound.completed (sound : draft.Sound) : draft.completed.Sound := by
  have grows : Grows draft draft.completed := ⟨fun _ _ => id, fun _ => List.mem_append_left _, fun _ _ => id⟩
  have pairs : ∀ fact ∈ draft.facts.filterMap World.opposite?, fact.arguments.length = 2 := by
    intro fact made
    obtain ⟨direction, a, b, -, rfl⟩ := World.mem_opposites.mp made
    rfl
  refine sound.more draft.world rfl rfl _ grows (fun fact made => ?_) (fun a _ door stated => ?_) fun a door b stated => ?_
  · obtain ⟨direction, a, b, member, rfl⟩ := World.mem_opposites.mp made
    obtain ⟨cell, here, there⟩ := (sound.drawn _ member).exists_cell
    exact .way there ((cell.step_opposite direction).symm ▸ here)
  · cases pairs _ stated
  · cases pairs _ stated

theorem opposite_mem_completed {direction : Direction}
    (stated : ⟨direction.predicate, [a, b]⟩ ∈ draft.completed.facts) :
    ⟨direction.opposite.predicate, [b, a]⟩ ∈ draft.completed.facts := by
  rcases List.mem_append.mp stated with first | second
  · exact List.mem_append_right _ (World.mem_opposites.mpr ⟨direction, a, b, first, rfl⟩)
  · obtain ⟨other, c, d, member, same⟩ := World.mem_opposites.mp second
    obtain ⟨named, arguments⟩ := Fact.mk.inj same
    cases arguments
    rw [Direction.predicate_injective named, other.opposite_opposite]
    exact List.mem_append_left _ member

end Draft

end Adventure
