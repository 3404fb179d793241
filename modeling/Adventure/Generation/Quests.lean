import Adventure.Chain.Finding
import Adventure.Quest.Basic

namespace Adventure

/-- An action does not undo the one just taken. -/
def goesOn (s : State) (previous : Option Action) (action : Action) : Bool :=
  match previous with
  | some previous => s.inverseOf previous != some action
  | none => true

/-- Options for a chain that is looked for forward, in an order drawn from a seed, and goes on. -/
def ChainOptions.forQuests (options : ChainOptions) (seed : UInt64) : ChainOptions :=
  { options with backward := false, rng := some (Rng.ofSeed seed), checkAction := goesOn }

/-- A chain from a state, and a quest for each of its subgoals. -/
def makeQuests (s : State) (options : ChainOptions) : Random (Except Error (Chain × List Quest)) := do
  let seed ← Random.word64
  return do
    let chain ← Chain.find s (options.forQuests seed)
    let quests ← chain.splitByBreadth.mapM Quest.ofActions
    return (chain, quests)

end Adventure
