import Adventure.Chain.Options
import Adventure.Decimal.Shortest
import Adventure.Play.Policy
import Adventure.World.Population

namespace Adventure

/-- The bounds of the search for a chain of actions. -/
structure ChainSettings where
  minDepth : Nat
  maxDepth : Nat
  minBreadth : Nat
  maxBreadth : Nat
  maxNodes : Nat
  createEntities : Bool
  restrictedTypes : List String
deriving DecidableEq

namespace ChainSettings

def usual : ChainSettings := ⟨1, 3, 1, 2, 10000, false, ["r", "d"]⟩

/-- The usual options within these bounds. -/
def options (settings : ChainSettings) : ChainOptions :=
  { ChainOptions.usual with
    minDepth := settings.minDepth
    maxDepth := settings.maxDepth
    minBreadth := settings.minBreadth
    maxBreadth := settings.maxBreadth
    maxNodes := settings.maxNodes
    createEntities := settings.createEntities
    restrictedTypes := SortedSet.of settings.restrictedTypes }

end ChainSettings

/-- The size of a generated game. -/
structure GenerationSettings where
  rooms : Nat
  objects : Nat
  questLength : Nat
  questBreadth : Nat
  weights : Weights
deriving BEq

def GenerationSettings.usual : GenerationSettings := ⟨3, 6, 3, 1, World.usualWeights⟩

/-- A weight in the fewest digits that tell it apart, with an exponent below 0.0001 and from 10 ^ 16 on. -/
def weightText (weight : Float) : String := Decimal.Style.text ⟨-3, 16, "", .up⟩ weight.toBits

structure Settings where
  chaining : ChainSettings
  policy : PolicyOptions
  generation : GenerationSettings
deriving BEq

def Settings.usual : Settings := ⟨ChainSettings.usual, PolicyOptions.usual, GenerationSettings.usual⟩

end Adventure
