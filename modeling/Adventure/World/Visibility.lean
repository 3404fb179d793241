import Adventure.World.Basic

namespace Adventure.World

/-- What can be seen on a thing, or in it if it is open. -/
def shownBy (things : List Thing) (holder : Thing) : List Thing :=
  things.filter fun thing =>
    match thing.location with
    | .onto id => id == holder.id
    | .inside id => id == holder.id && holder.has "open"
    | _ => false

/-- The things in a queue and all that they show, nearest first. A thing has one location, so it is met at most
once. -/
def seenFrom (things : List Thing) : (fuel : Nat) → (queue : List Thing) → List Thing
  | 0, _ => []
  | _ + 1, [] => []
  | fuel + 1, thing :: queue => thing :: seenFrom things fuel (queue ++ shownBy things thing)

/-- What the player can see in a room: the things on its floor, and what stands on visible things or lies in
open ones. -/
def visibleIn (world : World) (room : String) : List Thing :=
  let things := world.thingList
  seenFrom things things.length (things.filter (·.location == .room room))

end Adventure.World
