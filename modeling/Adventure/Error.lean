import Adventure.Logic.Term
import Adventure.Record.Problem
import Adventure.World.Direction

namespace Adventure

/-- Why a knowledge base does not admit a fact. -/
inductive FactFault where
  | unknownType (entity : Entity)
  | undeclared (predicate : String) (arity : Nat)
  | misfit (declared : List Signature)
deriving DecidableEq

def FactFault.message : FactFault → String
  | .unknownType entity => "unknown type '" ++ entity.type ++ "' for '" ++ entity.name ++ "'"
  | .undeclared predicate arity => "predicate '" ++ predicate ++ s!"/{arity}' is not declared"
  | .misfit declared => "argument types match none of " ++ ", ".intercalate (declared.map Signature.text)

/-- Why a search for a chain of actions ends without one. -/
inductive ChainFault where
  | nodeBudget (nodes : Nat)
  | forwardExhausted
  | backwardExhausted
  | goalMissing
deriving DecidableEq

def ChainFault.message : ChainFault → String
  | .nodeBudget nodes => s!"node budget of {nodes} exhausted"
  | .forwardExhausted => "forward search exhausted without a chain"
  | .backwardExhausted => "backward search exhausted without reaching the start state"
  | .goalMissing => "backward chaining needs a goal"

/-- What a quest or one of its events lacks. -/
inductive QuestFault where
  | emptyEvent
  | noEvents
deriving DecidableEq

def QuestFault.message : QuestFault → String
  | .emptyEvent => "an event needs at least one action or condition"
  | .noEvents => "a quest needs a win or fail event"

/-- A way in which the facts of a world do not make a playable map. -/
inductive WorldFlaw where
  | playerRooms (count : Nat)
  | doorInRoom (door : String)
  | manyPlaces (entity : String) (count : Nat)
  | openness (entity : String) (count : Nat)
  | oneWayLink (link : Fact)
  | undirectedLink (link : Fact)
  | noWayBack (exit : Direction) (room : String)
  | violated (constraint : String)
deriving DecidableEq

def WorldFlaw.message : WorldFlaw → String
  | .playerRooms count => s!"player is in {count} rooms"
  | .doorInRoom door => "door '" ++ door ++ "' is placed in a room"
  | .manyPlaces entity count => "'" ++ entity ++ s!"' is in {count} places"
  | .openness entity count => "'" ++ entity ++ s!"' has {count} of open/closed/locked"
  | .oneWayLink link => link.text ++ " has no reverse link"
  | .undirectedLink link => link.text ++ " has no consistent direction"
  | .noWayBack exit room => "exit " ++ exit.name ++ " of '" ++ room ++ "' has no matching way back"
  | .violated constraint => "constraint '" ++ constraint ++ "' is violated"

/-- Why a world is refused. -/
inductive WorldFault where
  | flaws (found : List WorldFlaw)
  | record (problems : List Problem)
  | noRooms
  | emptyMap
deriving DecidableEq

def WorldFault.message : WorldFault → String
  | .flaws found => "; ".intercalate (found.map WorldFlaw.message)
  | .record problems => Problem.messages problems
  | .noRooms => "cannot populate a world without rooms"
  | .emptyMap => "a map needs at least one room"

/-- Where a rule text stops being readable, and what was expected there. -/
structure ReadFault where
  line : Nat
  column : Nat
  expected : String
deriving DecidableEq

def ReadFault.message (fault : ReadFault) : String :=
  s!"parse error at {fault.line}:{fault.column}: " ++ fault.expected

/-- Why an operation on knowledge bases, states, worlds, quests or games is refused. -/
inductive Error where
  | unreadable (fault : ReadFault)
  | invalidText (problems : List Problem)
  | invalidRules (problems : List Problem)
  | unknownType (name : String)
  | unknownRule (name : String)
  | invalidFact (fact : Fact) (fault : FactFault)
  | unbound (rule placeholder : String)
  | noFreeExit (room target : String)
  | noChain (fault : ChainFault)
  | notRunning
  | invalidWorld (fault : WorldFault)
  | invalidQuest (fault : QuestFault)
  | shortPlacement (fact : Fact)
  | endlessWeights
deriving DecidableEq

def Error.message : Error → String
  | .unreadable fault => s!"knowledge base parse error at {fault.line}:{fault.column}: " ++ fault.message
  | .invalidText problems => "invalid knowledge base: invalid knowledge base: " ++ Problem.messages problems
  | .invalidRules problems => "invalid knowledge base: " ++ Problem.messages problems
  | .unknownType name => "unknown type '" ++ name ++ "'"
  | .unknownRule name => "unknown rule '" ++ name ++ "'"
  | .invalidFact fact fault => "invalid fact " ++ fact.text ++ ": " ++ fault.message
  | .unbound rule placeholder => "placeholder '" ++ placeholder ++ "' of rule '" ++ rule ++ "' is not bound"
  | .noFreeExit room target => "no free exit in room '" ++ room ++ "' to connect '" ++ target ++ "'"
  | .noChain fault => "quest generation failed: " ++ fault.message
  | .notRunning => "game is not running (call reset first)"
  | .invalidWorld fault => "invalid world: " ++ fault.message
  | .invalidQuest fault => "invalid quest: " ++ fault.message
  | .shortPlacement fact => fact.text ++ " names no place"
  | .endlessWeights => "the weights have no finite sum"

/-- The program cannot go on after the error. -/
def Error.isFatal : Error → Bool
  | .shortPlacement _ | .endlessWeights => true
  | _ => false

end Adventure
