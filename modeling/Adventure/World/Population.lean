import Adventure.Random.Draw
import Adventure.World.Building

namespace Adventure.World

/-- How often the types of things are drawn. -/
def usualWeights : Weights := SortedMap.of [("c", 0.2), ("s", 0.2), ("o", 0.35), ("f", 0.25)]

/-- An entity that no fact mentions. -/
def newEntity (world : World) (type : String) : Entity × World :=
  let (entity, names) := world.names.mint type world.state.entityNames
  (entity, { world with names })

/-- The first thing that is shut and has no key. -/
def keyless (world : World) : Option Entity :=
  let keys := world.state.factsNamed "match"
  (world.thingList.find? fun thing =>
    (world.descends thing.entity "c" || world.descends thing.entity "d") &&
    (thing.has "closed" || thing.has "locked") &&
    !keys.any fun fact => fact.arguments[1]? == some thing.entity).map Thing.entity

/-- The places that can take a thing: rooms, and what stands or lies somewhere and can hold things. -/
def holders (world : World) (avoid : Option String) : List (String × Entity) :=
  (world.roomList.map fun room => ("at", room.entity)) ++
  world.thingList.filterMap fun thing =>
    if avoid = some thing.id ∨ thing.location = .nowhere then none
    else if world.descends thing.entity "s" then some ("on", thing.entity)
    else if world.descends thing.entity "c" then some ("in", thing.entity)
    else none

/-- A place for a thing that can be carried. -/
def placeOf (world : World) (entity : Entity) (avoid : Option String) : Random Fact := do
  match ← Random.choose (world.holders avoid) with
  | some (predicate, holder) => return ⟨predicate, [entity, holder]⟩
  | none => return ⟨"in", [entity, ⟨"I", "I"⟩]⟩

/-- The facts about a new thing. -/
def thingFacts (world : World) (entity : Entity) : Random (List Fact) := do
  let container := world.descends entity "c"
  if container || world.descends entity "s" then
    let place := (← Random.choose world.roomList).elim [] fun room => [⟨"at", [entity, room.entity]⟩]
    if container then
      let state := (← Random.choose ["open", "closed", "locked"]).getD "open"
      return place ++ [⟨state, [entity]⟩]
    else return place
  else return [← world.placeOf entity none]

/-- One more thing: a key for what has none, else a thing of a type that is drawn. There may be no type to
draw. -/
def nextThing (world : World) (weights : Weights) : Random (Except Error (Option (List Fact × World))) := do
  match world.keyless with
  | some lock =>
    let (key, world) := world.newEntity "k"
    let place ← world.placeOf key (some lock.name)
    return .ok (some ([⟨"match", [key, lock]⟩, place], world))
  | none =>
    match ← world.kb.types.sample "t" ["d"] (some weights) false with
    | .error error => return .error error
    | .ok none => return .ok none
    | .ok (some type) =>
      let (entity, world) := world.newEntity type
      return .ok (some (← world.thingFacts entity, world))

/-- A world with things added, the facts about them in the order in which they came, and the error that ended
the work, if one did. -/
structure Populated where
  world : World
  added : List Fact
  fault : Option Error

/-- Add things, up to the first that cannot be added. -/
def addThings (weights : Weights) : (count : Nat) → World → (added : List Fact) → Random Populated
  | 0, world, added => return ⟨world, added, none⟩
  | count + 1, world, added => do
    match ← world.nextThing weights with
    | .error error => return ⟨world, added, some error⟩
    | .ok none => return ⟨world, added, none⟩
    | .ok (some (facts, world)) =>
      match world.state.addFacts facts with
      | .error error => return ⟨world, added, some error⟩
      | .ok s =>
        match laidOut { world with state := s } with
        | .error error => return ⟨world, added, some error⟩
        | .ok world => addThings weights count world (added ++ facts)

/-- Add things of random types at random places. A world without rooms is refused. -/
def populate (world : World) (count : Nat) (weights : Option Weights) : Random Populated :=
  if world.rooms.isEmpty then return ⟨world, [], some (.invalidWorld .noRooms)⟩
  else addThings (weights.getD usualWeights) count world []

end Adventure.World
