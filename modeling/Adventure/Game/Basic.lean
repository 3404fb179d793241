import Adventure.Quest.Basic
import Adventure.World.Building

namespace Adventure

/-- A world with quests, the names of its entities and what is known about its making. -/
structure Game where
  world : World
  quests : List Quest
  infos : SortedMap String EntityInfo
  metadata : Metadata
  extras : SortedMap String Json
deriving BEq

namespace Game

def of (world : World) (quests : List Quest) : Game := ⟨world, quests, ∅, Metadata.empty, ∅⟩

def kb (game : Game) : KnowledgeBase := game.world.kb

/-- What the player calls an entity. -/
def nameOf (game : Game) (id : String) : String := (game.infos[id]?.bind EntityInfo.name).getD id

/-- What the player types for an action. -/
def commandFor (game : Game) (action : Action) : String := action.commandWith game.nameOf

def maxScore (game : Game) : Int := Quest.maxScore game.quests

def record (game : Game) : GameRecord where
  version := 1
  kbId := game.kb.id
  world := game.world.facts
  infos := game.infos
  quests := game.quests.map (Quest.record game.nameOf)
  metadata := game.metadata
  extras := game.extras

/-- The game that a record describes. A record with problems is refused. -/
def ofRecord (kb : KnowledgeBase) (record : GameRecord) : Except Error Game := do
  unless record.problems.isEmpty do throw (.invalidWorld (.record record.problems))
  let world ← World.ofFacts kb record.world
  let quests ← record.quests.mapM QuestRecord.quest
  return ⟨world, quests, record.infos, record.metadata, record.extras⟩

end Game

end Adventure
