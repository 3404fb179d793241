import Adventure.Knowledge.Basic
import Adventure.Text.Printable

namespace Adventure

/-- The facts that hold, with those of each signature and those about each entity at hand. -/
structure State where
  kb : KnowledgeBase
  facts : FactSet
  bySignature : SortedMap Signature FactSet
  byEntity : SortedMap Entity FactSet

namespace State

instance : BEq State := ⟨fun s t => s.facts == t.facts⟩

def empty (kb : KnowledgeBase) : State := ⟨kb, ∅, ∅, ∅⟩

/-- Enter a fact under a key of an index. -/
def enter {κ : Type} [Ord κ] [Std.TransOrd κ] (fact : Fact) (index : SortedMap κ FactSet) (key : κ) :
    SortedMap κ FactSet :=
  index.insert key ((index.getD key ∅).insert fact)

/-- Strike a fact from a key of an index; a key without facts goes with its last one. -/
def strike {κ : Type} [Ord κ] [Std.TransOrd κ] (fact : Fact) (index : SortedMap κ FactSet) (key : κ) :
    SortedMap κ FactSet :=
  let left := (index.getD key ∅).erase fact
  if left.isEmpty then index.erase key else index.insert key left

/-- The state with a fact more, whether it can be stated or not. -/
def insert (s : State) (fact : Fact) : State :=
  if s.facts.contains fact then s
  else { s with
    facts := s.facts.insert fact
    bySignature := enter fact s.bySignature fact.signature
    byEntity := fact.arguments.foldl (enter fact) s.byEntity }

def erase (s : State) (fact : Fact) : State :=
  if s.facts.contains fact then { s with
    facts := s.facts.erase fact
    bySignature := strike fact s.bySignature fact.signature
    byEntity := fact.arguments.foldl (strike fact) s.byEntity }
  else s

def insertAll (s : State) (facts : List Fact) : State := facts.foldl insert s

def eraseAll (s : State) (facts : List Fact) : State := facts.foldl erase s

/-- Add facts if all of them can be stated. -/
def addFacts (s : State) (facts : List Fact) : Except Error State := do
  facts.forM s.kb.checkFact
  return s.insertAll facts

def addFact (s : State) (fact : Fact) : Except Error State := s.addFacts [fact]

def ofFacts (kb : KnowledgeBase) (facts : List Fact) : Except Error State := (empty kb).addFacts facts

def contains (s : State) (fact : Fact) : Bool := s.facts.contains fact

def size (s : State) : Nat := s.facts.size

/-- The entities that some fact mentions. -/
def entities (s : State) : List Entity := s.byEntity.keys

def hasEntity (s : State) (entity : Entity) : Bool := s.byEntity.contains entity

def hasName (s : State) (name : String) : Bool := s.byEntity.any fun entity _ => entity.name == name

def entityNames (s : State) : List String := s.entities.map Entity.name

/-- The entities of a type and of its descendants. -/
def entitiesOf (s : State) (type : String) : List Entity :=
  s.entities.filter fun entity => s.kb.types.descends entity.type type

/-- The facts that mention an entity. -/
def factsAbout (s : State) (entity : Entity) : FactSet := s.byEntity.getD entity ∅

/-- The facts of a predicate, by the types of their arguments. Its signatures stand together in the index: the scan
starts where the first of them would stand and stops at the first of another predicate. -/
def factsNamed (s : State) (predicate : String) : List Fact :=
  let later := s.bySignature.toList.dropWhile fun entry => (compare entry.1 ⟨predicate, []⟩).isLT
  (later.takeWhile fun entry => entry.1.predicate == predicate).flatMap fun entry => entry.2.toList

def applicable (s : State) (action : Action) : Bool := action.before.subset s.facts

/-- The state after an action: nothing if the action cannot be taken, an error if it adds a fact that cannot
be stated. -/
def apply (s : State) (action : Action) : Except Error (Option State) :=
  if s.applicable action then do
    action.added.toList.forM s.kb.checkFact
    return some ((s.eraseAll action.removed.toList).insertAll action.added.toList)
  else .ok none

def text (s : State) : String := " & ".intercalate (s.facts.toList.map Fact.text)

/-- The facts as a set of quoted texts. -/
def quoted (s : State) : String :=
  "\x7b" ++ ", ".intercalate (s.facts.toList.map fun fact => Text.quote fact.text) ++ "\x7d"

end State

end Adventure
