import Adventure.Json.Basic
import Adventure.Logic.Action
import Adventure.Record.Problem
import Adventure.Text.Blank

namespace Adventure

/-- An action as it is written down, its facts in the order given. -/
structure ActionRecord where
  name : String
  before : List Fact
  after : List Fact
  template : Option String
deriving DecidableEq

/-- An event as it is written down, with the commands of its actions. -/
structure EventRecord where
  actions : List ActionRecord
  conditions : List Fact
  commands : List String
deriving DecidableEq

structure QuestRecord where
  wins : List EventRecord
  fails : List EventRecord
  reward : Int32
  description : Option String
deriving DecidableEq

/-- What the player is told about an entity. -/
structure EntityInfo where
  id : String
  type : String
  name : Option String
  adjective : Option String
  noun : Option String
  synonyms : List String
  definite : Option String
  indefinite : Option String
  description : Option String
deriving DecidableEq

/-- How a game was made. What a record says besides is kept in `extras`. -/
structure Metadata where
  seeds : SortedMap String UInt64
  walkthrough : List String
  objective : String
  uuid : String
  extras : SortedMap String Json
deriving DecidableEq

def Metadata.empty : Metadata := ⟨∅, [], "", "", ∅⟩

/-- A game as it is written down. What a record says besides is kept in `extras`. -/
structure GameRecord where
  version : UInt32
  kbId : String
  world : List Fact
  infos : SortedMap String EntityInfo
  quests : List QuestRecord
  metadata : Metadata
  extras : SortedMap String Json
deriving DecidableEq

namespace GameRecord

/-- The types of the entities of some facts, each as it is first given, and a problem for each other one. -/
def entityTypes (types : SortedMap String String) : List Entity → SortedMap String String × List Problem
  | [] => (types, [])
  | entity :: rest =>
    match types[entity.name]? with
    | none => entityTypes (types.insert entity.name entity.type) rest
    | some type =>
      let (found, problems) := entityTypes types rest
      if type = entity.type then (found, problems)
      else (found, .invalid (.clashingTypes entity.name type entity.type) :: problems)

/-- The player and the inventory are there even if no fact says so. -/
def alwaysKnown : List String := ["P", "I"]

def checkEntity (known : SortedSet String) (site : Site) (name : String) : List Problem :=
  if known.contains name then [] else [.missing .entity name site]

def infoProblems (types : SortedMap String String) (known : SortedSet String) (key : String) (info : EntityInfo) :
    List Problem :=
  (if key = info.id then [] else [.invalid (.misfiledInfo key info.id)]) ++
  checkEntity known .infos key ++
  match types[key]? with
  | some type => if type = info.type then [] else [.invalid (.infoType key info.type type)]
  | none => []

def factProblems (known : SortedSet String) (site : String → Site) (fact : Fact) : List Problem :=
  fact.arguments.flatMap fun entity => checkEntity known (site fact.predicate) entity.name

def eventProblems (known : SortedSet String) (quest : Nat) (event : EventRecord) : List Problem :=
  (if event.actions.isEmpty && event.conditions.isEmpty then [.invalid (.emptyEvent quest)] else []) ++
  (if event.commands.isEmpty || event.commands.length == event.actions.length then []
    else [.invalid (.commandCount quest event.commands.length event.actions.length)]) ++
  (event.actions.flatMap fun action =>
    (action.before ++ action.after).flatMap (factProblems known (.action quest action.name))) ++
  event.conditions.flatMap (factProblems known (.condition quest))

def questProblems (known : SortedSet String) (record : QuestRecord) (quest : Nat) : List Problem :=
  (if record.wins.isEmpty && record.fails.isEmpty then [.invalid (.questWithoutEvents quest)] else []) ++
  (record.wins ++ record.fails).flatMap (eventProblems known quest)

/-- Everything that keeps a record from making a game: entities with two types, entities the world does not
have, quests and events without content, commands that do not go with the actions. -/
def problems (record : GameRecord) : List Problem :=
  let (types, clashes) := entityTypes ∅ (record.world.flatMap Fact.arguments)
  let known := SortedSet.of (types.keys ++ alwaysKnown)
  (if Text.trim record.kbId = "" then [.invalid .missingKnowledgeBase] else []) ++
  clashes ++
  (record.infos.toList.flatMap fun (key, info) => infoProblems types known key info) ++
  record.quests.zipIdx.flatMap fun (quest, number) => questProblems known quest number

end GameRecord

end Adventure
