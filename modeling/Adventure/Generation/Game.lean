import Adventure.Game.Basic
import Adventure.Generation.Map
import Adventure.Generation.Quests
import Adventure.Identity.Uuid
import Adventure.Naming
import Adventure.Random.Concern
import Adventure.Settings.Basic
import Adventure.World.Invariant

namespace Adventure

/-- All that decides how a game is made. The seeds of single parts count before those that the seed gives. -/
structure GameOptions where
  kb : KnowledgeBase
  seed : UInt64
  seeds : SortedMap String UInt64
  generation : GenerationSettings
  chaining : ChainSettings

namespace GameOptions

def usual (kb : KnowledgeBase) (seed : UInt64) : GameOptions :=
  ⟨kb, seed, ∅, GenerationSettings.usual, ChainSettings.usual⟩

/-- Options for the quests: their length and breadth bound the chain. -/
def chainOptions (options : GameOptions) : ChainOptions :=
  let chain := options.chaining.options
  let maxDepth := max options.generation.questLength 1
  let maxBreadth := max options.generation.questBreadth 1
  { chain with
    maxDepth, minDepth := min chain.minDepth maxDepth
    maxBreadth, minBreadth := min chain.minBreadth maxBreadth }

end GameOptions

/-- The entities that the player sees: all but the player and what the player carries. -/
def Game.named (game : Game) : List Entity :=
  game.world.state.entities.filter fun entity =>
    !game.world.descends entity "P" && !game.world.descends entity "I"

def Quest.commands (game : Game) (quest : Quest) : List String :=
  (quest.wins.head?.elim [] Event.actions).map game.commandFor

/-- Give names to the entities of a game, and tasks to its quests and to the game. -/
def Game.dressed (game : Game) (walkthrough : List Action) : Random Game := do
  let (infos, _) ← (game.named.mapM fun entity => do
    return (entity.name, ← Naming.describe game.kb entity) : Naming _).run ∅
  let game := { game with infos := SortedMap.of infos }
  let commands := walkthrough.map game.commandFor
  let quests ← game.quests.mapM fun quest => do
    return { quest with description := some (← Naming.objective (quest.commands game)) }
  let objective ← Naming.objective commands
  return { game with quests, metadata := { game.metadata with walkthrough := commands, objective } }

/-- Make a game from the given sources. -/
def makeGameFrom (options : GameOptions) (streams : Streams) : Except Error Game := do
  let generation := options.generation
  let (world, streams) := streams.draw "map" (makeMap options.kb generation.rooms)
  let world ← world
  let (populated, streams) := streams.draw "objects" (world.populate generation.objects (some generation.weights))
  match populated.fault with
  | some error => throw error
  | none =>
    populated.world.check
    let (made, streams) := streams.draw "quest" (makeQuests populated.world.state options.chainOptions)
    let (chain, quests) ← made
    let (seed, streams) := streams.draw "grammar" Random.word64
    let game := ((Game.of populated.world quests).dressed chain.actions (Rng.ofSeed seed)).1
    return { game with
      metadata := { game.metadata with seeds := streams.seeds, uuid := "fable-" ++ Uuid.ofSeeds streams.seeds } }

/-- Make a game from new sources, a number of times while there is no quest for the world. -/
def makeGameAgain (options : GameOptions) : (times : Nat) → (root : Streams) → ChainFault → Except Error Game
  | 0, _, fault => .error (.noChain fault)
  | times + 1, root, _ =>
    let (streams, root) := root.child
    match makeGameFrom options streams with
    | .error (.noChain fault) => makeGameAgain options times root fault
    | result => result

/-- Make a game, with sixteen tries for a world that has a quest. -/
def makeGame (options : GameOptions) : Except Error Game :=
  let root := Streams.ofSeeds options.seed options.seeds
  match makeGameFrom options root with
  | .error (.noChain fault) => makeGameAgain options 15 root fault
  | result => result

end Adventure
