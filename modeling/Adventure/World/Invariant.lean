import Adventure.State.Matching
import Adventure.World.Basic

namespace Adventure.World

/-- The number of placements of the player. A placement without a thing is refused. -/
def playerPlacements : List Fact → Except Error Nat
  | [] => .ok 0
  | fact :: rest =>
    match fact.arguments with
    | [] => .error (.shortPlacement fact)
    | thing :: _ => do
      let others ← playerPlacements rest
      return if thing.type = "P" then others + 1 else others

def placePredicates : List String := ["at", "in", "on"]

def openStates : List String := ["open", "closed", "locked"]

/-- A door is in no room, any other thing is in at most one place, and what can be opened is in one state. -/
def thingFlaws (world : World) (thing : Thing) : List WorldFlaw :=
  let about := (world.state.factsAbout thing.entity).toList
  let isDoor := world.descends thing.entity "d"
  let placing :=
    if isDoor then if about.any (·.predicate == "at") then [.doorInRoom thing.id] else []
    else
      let places := about.filter fun fact =>
        placePredicates.contains fact.predicate && fact.arguments.head? == some thing.entity
      if places.length > 1 then [.manyPlaces thing.id places.length] else []
  let states := openStates.filter thing.has
  let opening :=
    if (isDoor || world.descends thing.entity "c") && states.length != 1 then [.openness thing.id states.length]
    else []
  placing ++ opening

/-- A door is a way in both directions, which are opposite. -/
def linkFlaws (world : World) (rooms : SortedMap String Room) (fact : Fact) : List WorldFlaw :=
  match fact.arguments with
  | [room, door, target] =>
    let forward := (rooms[room.name]?).bind (·.exitTowards target.name)
    let back := (rooms[target.name]?).bind (·.exitTowards room.name)
    (if world.state.contains ⟨"link", [target, door, room]⟩ then [] else [.oneWayLink fact]) ++
    match forward, back with
    | some direction, some other => if direction.opposite = other then [] else [.undirectedLink fact]
    | _, _ => [.undirectedLink fact]
  | _ => []

/-- Every exit has its opposite. -/
def exitFlaws (rooms : SortedMap String Room) (room : Room) : List WorldFlaw :=
  room.exits.toList.flatMap fun (direction, target) =>
    if (rooms[target]?).bind (·.exits[direction.opposite]?) = some room.id then []
    else [.noWayBack direction room.id]

/-- All that keeps a world from being played in. -/
def flaws (world : World) : Except Error (List WorldFlaw) := do
  let players ← playerPlacements (world.state.factsNamed "at")
  let rooms := world.rooms
  return (if players = 1 then [] else [.playerRooms players]) ++
    world.thingList.flatMap world.thingFlaws ++
    (world.state.factsNamed "link").flatMap (world.linkFlaws rooms) ++
    rooms.values.flatMap (exitFlaws rooms) ++
    (world.state.violated).elim [] fun name => [.violated name]

/-- A world is accepted if it has no flaw. -/
def check (world : World) : Except Error Unit := do
  match ← world.flaws with
  | [] => return
  | found => .error (.invalidWorld (.flaws found))

end Adventure.World
