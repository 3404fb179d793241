import Adventure.Session.Basic
import Adventure.World.Invariant
import Adventure.World.Visibility

namespace Adventure.Game

/-- A thing as it is listed in a room: its name, what holds it, and whether it is open. -/
def listed (game : Game) (thing : Thing) : String :=
  let held := match thing.location with
    | .inside holder => " (in " ++ game.nameOf holder ++ ")"
    | .onto holder => " (on " ++ game.nameOf holder ++ ")"
    | _ => ""
  let states := (World.openStates.filter thing.has).map fun state => " (" ++ state ++ ")"
  game.nameOf thing.id ++ held ++ String.join states

/-- A way out of a room, with the door that it leads through. -/
def exitText (game : Game) (world : World) (room : Room) (direction : Direction) : String :=
  match (room.doors[direction]?).bind (world.things[·]?) with
  | some door => direction.name ++ " (through " ++ game.nameOf door.id ++ ")"
  | none => direction.name

/-- A line that lists some items, if there are any. -/
def listing (start : String) (items : List String) : String :=
  if items.isEmpty then "" else "\n" ++ start ++ ", ".intercalate items ++ "."

/-- The player's room: its name, what is seen there, and the ways out. -/
def roomText (game : Game) (world : World) : String :=
  match world.playerRoom with
  | none => "You are nowhere."
  | some room =>
    "-= " ++ game.nameOf room.id ++ " =-" ++
    listing "You see: " ((world.visibleIn room.id).map game.listed) ++
    listing "Exits: " (room.exits.keys.map (game.exitText world room))

def inventoryText (game : Game) (world : World) : String :=
  match world.inventory.map fun thing => game.nameOf thing.id with
  | [] => "You are empty-handed."
  | held => "You are carrying: " ++ ", ".intercalate held ++ "."

/-- What the player reads after an action that led to a state. -/
def feedback (game : Game) (s : State) (action : Action) : Except Error String := do
  if action.name = "look" || action.name.startsWith "go/" then return game.roomText (← World.ofState s)
  else if action.name = "inventory" then return game.inventoryText (← World.ofState s)
  else if action.name.startsWith "examine" then
    let things := action.entities.toList.filter fun entity => !(["P", "I", "r"].contains entity.type)
    let description := things.findSome? fun entity => (game.infos[entity.name]?).bind EntityInfo.description
    return description.getD "You see nothing special."
  else return "You " ++ game.commandFor action ++ "."

def questLabel (game : Game) (number : Nat) : String :=
  ((game.quests[number]?).bind Quest.description).getD s!"quest #{number}"

end Adventure.Game
