import Adventure.Random.Draw

namespace Adventure

/-- What each part of the making of a game draws from, so that none shifts the draws of another. -/
structure Streams where
  root : UInt64
  seeds : SortedMap String UInt64
  rngs : SortedMap String Rng
  spawner : Rng

namespace Streams

/-- The parts that always have a source, in the order in which their seeds are drawn. -/
def concerns : List String := ["map", "objects", "quest", "grammar"]

/-- Draw a seed for a part. -/
def spawn (streams : Streams) (concern : String) : Streams :=
  let (seed, spawner) := Random.word64 streams.spawner
  { streams with
    seeds := streams.seeds.insert concern seed
    rngs := streams.rngs.insert concern (Rng.ofSeed seed)
    spawner }

/-- The sources that a seed gives. -/
def ofRoot (root : UInt64) : Streams :=
  concerns.foldl spawn ⟨root, ∅, ∅, Rng.ofSeed root⟩

def override (streams : Streams) (concern : String) (seed : UInt64) : Streams :=
  { streams with
    seeds := streams.seeds.insert concern seed
    rngs := streams.rngs.insert concern (Rng.ofSeed seed) }

/-- The sources that a seed gives, but for the parts whose seeds are known. -/
def ofSeeds (root : UInt64) (seeds : SortedMap String UInt64) : Streams :=
  seeds.toList.foldl (fun streams (concern, seed) => streams.override concern seed) (ofRoot root)

/-- Draw from the source of a part; a part met for the first time is given a seed. -/
def draw {α : Type} (streams : Streams) (concern : String) (random : Random α) : α × Streams :=
  let streams := if streams.rngs.contains concern then streams else streams.spawn concern
  let (value, rng) := random (streams.rngs.getD concern streams.spawner)
  (value, { streams with rngs := streams.rngs.insert concern rng })

/-- New sources from a seed drawn from these. -/
def child (streams : Streams) : Streams × Streams :=
  let (seed, spawner) := Random.word64 streams.spawner
  (ofRoot seed, { streams with spawner })

end Streams

end Adventure
