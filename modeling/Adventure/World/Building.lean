import Adventure.World.Basic

namespace Adventure.World

/-- The map of a world, with the rooms placed that its facts let be placed. -/
def laidOut (world : World) : Except Error World := do
  return { world with positions := ← world.state.layout (Exits.ofFacts world.facts) world.positions }

/-- A state seen as a world. -/
def ofState (s : State) : Except Error World := laidOut ⟨s, ∅, FreshNames.empty⟩

/-- The fact that says of a direction what it means from the other room. -/
def opposite? (fact : Fact) : Option Fact :=
  (Exits.direction? fact).map fun (direction, target, room) => ⟨direction.opposite.predicate, [room, target]⟩

/-- The two rooms that a door or a passage joins. -/
def connection? (fact : Fact) : Option (Entity × Entity) :=
  let ends := match fact.predicate, fact.arguments with
    | "link", [room, _, target] => some (room, target)
    | "free", [room, target] => some (room, target)
    | _, _ => none
  ends.filter fun (room, target) => room != target

/-- The same door or passage from the other room. -/
def reversed? (fact : Fact) : Option Fact :=
  match fact.predicate, fact.arguments with
  | "link", [room, door, target] => some ⟨"link", [target, door, room]⟩
  | "free", [room, target] => some ⟨"free", [target, room]⟩
  | _, _ => none

/-- The connections, each once whatever its order, between rooms that no exit joins yet. -/
def unplaced (exits : Exits) : (queued : List (Entity × Entity)) → List Fact → List (Entity × Entity)
  | queued, [] => queued.reverse
  | queued, fact :: rest =>
    match connection? fact with
    | none => unplaced exits queued rest
    | some (room, target) =>
      if exits.leadsTo room.name target.name || queued.contains (room, target) || queued.contains (target, room) then
        unplaced exits queued rest
      else unplaced exits ((room, target) :: queued) rest

/-- Give each connection a direction, in turn. -/
def connect (s : State) (exits : Exits) (positions : Positions) :
    List (Entity × Entity) → Except Error (State × Positions)
  | [] => .ok (s, positions)
  | (room, target) :: rest => do
    let (direction, positions) ← chooseExit exits positions room.name target.name
    let s ← s.addFacts [⟨direction.predicate, [target, room]⟩, ⟨direction.opposite.predicate, [room, target]⟩]
    let exits := (exits.add room.name direction target.name).add target.name direction.opposite room.name
    connect s exits positions rest

/-- Add facts with all that they imply: the opposite of each direction, a direction for each connection that has
none, the way back of each door and passage. -/
def addFacts (world : World) (facts : List Fact) : Except Error World := do
  let stated ← world.state.addFacts facts
  let mapped ← stated.addFacts (stated.facts.toList.filterMap opposite?)
  let exits := Exits.ofFacts mapped.facts.toList
  let positions ← mapped.layout exits world.positions
  let (joined, positions) ← connect mapped exits positions (unplaced exits [] facts)
  let full ← joined.addFacts (joined.facts.toList.filterMap reversed?)
  laidOut { world with state := full, positions }

def ofFacts (kb : KnowledgeBase) (facts : List Fact) : Except Error World := (empty kb).addFacts facts

end Adventure.World
