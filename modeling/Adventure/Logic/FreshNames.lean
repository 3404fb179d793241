import Adventure.Logic.Term

namespace Adventure

/-- For each type, the number that its next invented name may take. -/
structure FreshNames where
  counters : SortedMap String Nat

namespace FreshNames

def empty : FreshNames := ⟨∅⟩

def numbered (type : String) (number : Nat) : String := type ++ "_" ++ toString number

/-- The first number from `number` on whose name is not taken, looked for `tries` times. -/
def firstFree (type : String) (taken : List String) : (tries number : Nat) → Nat
  | 0, number => number
  | tries + 1, number =>
    if taken.contains (numbered type number) then firstFree type taken tries (number + 1) else number

/-- Invent an entity whose name is not taken. Of one try more than there are taken names, one is free. -/
def mint (names : FreshNames) (type : String) (taken : List String) : Entity × FreshNames :=
  let number := firstFree type taken (taken.length + 1) (names.counters.getD type 0)
  (⟨numbered type number, type⟩, ⟨names.counters.insert type (number + 1)⟩)

end FreshNames

end Adventure
