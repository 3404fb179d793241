import Adventure.Knowledge.Basic
import Adventure.Random.Draw
import Adventure.Record.Game

namespace Adventure

/-- A computation that gives names and knows those given so far. -/
abbrev Naming := StateT (SortedSet String) Random

namespace Naming

def adjectives : List String := [
  "old", "rusty", "small", "heavy", "dusty", "shiny", "wooden", "battered", "tiny", "green", "red", "blue", "plain",
  "curious", "antique", "sturdy"]

/-- The nouns that belong to a type itself. -/
def ownNouns : String → List String
  | "r" => ["kitchen", "bedroom", "cellar", "attic", "study", "pantry", "hallway", "garage", "library", "parlor"]
  | "d" => ["door", "gate", "hatch", "portal"]
  | "c" => ["chest", "box", "safe", "locker", "crate", "cabinet"]
  | "s" => ["table", "shelf", "counter", "workbench", "stand"]
  | "k" => ["key", "keycard", "passkey"]
  | "f" => ["apple", "carrot", "orange", "loaf", "cheese", "pear"]
  | "o" => ["coin", "book", "lamp", "rope", "candle", "map", "spoon"]
  | _ => []

/-- The nouns for a type: its own or those of its nearest ancestor that has some, else its hint. -/
def nouns (kb : KnowledgeBase) (type : String) : List String :=
  match ((type :: kb.types.ancestors type).map ownNouns).find? (!·.isEmpty) with
  | some found => found
  | none => [(kb.hint type).getD "thing"]

/-- An adjective and a noun. -/
structure Title where
  adjective : String
  noun : String

def Title.text (title : Title) : String := title.adjective ++ " " ++ title.noun

def draw (nouns : List String) : Random Title := do
  let noun ← Random.choose nouns
  let adjective ← Random.choose adjectives
  return ⟨adjective.getD "plain", noun.getD ""⟩

/-- The first of a number of draws that is not in use. -/
def drawUnused (nouns : List String) : (tries : Nat) → Naming (Option Title)
  | 0 => return none
  | tries + 1 => do
    let title ← draw nouns
    if (← get).contains title.text then drawUnused nouns tries
    else
      modify (·.insert title.text)
      return some title

def numbered (noun : String) (number : Nat) : Title := ⟨"plain", noun ++ " " ++ toString number⟩

/-- The first number whose title is not in use, with a bound on how many are in use. -/
def unusedNumber (used : SortedSet String) (noun : String) : (bound number : Nat) → Nat
  | 0, number => number
  | bound + 1, number =>
    if used.contains (numbered noun number).text then unusedNumber used noun bound (number + 1) else number

/-- A title not in use: one of thirty-two draws, else a numbered one. -/
def title (nouns : List String) : Naming Title := do
  match ← drawUnused nouns 32 with
  | some title => return title
  | none =>
    let used ← get
    let noun := nouns.headD ""
    let title := numbered noun (unusedNumber used noun used.size 2)
    modify (·.insert title.text)
    return title

def article (word : String) : String :=
  match word.toList with
  | first :: _ => if "aeiou".toList.contains first then "an" else "a"
  | [] => "a"

/-- A name and a description for an entity. -/
def describe (kb : KnowledgeBase) (entity : Entity) : Naming EntityInfo := do
  let title ← title (nouns kb entity.type)
  return {
    id := entity.name
    type := entity.type
    name := some title.text
    adjective := some title.adjective
    noun := some title.noun
    synonyms := [title.noun]
    definite := some "the"
    indefinite := some (article title.adjective)
    description := some ("It is " ++ article title.adjective ++ " " ++ title.text ++ ".") }

/-- A line that sets the player the task of a walkthrough. -/
def objective : (walkthrough : List String) → Random String
  | [] => return "Explore at your leisure."
  | [only] => return "Your task: " ++ only ++ "."
  | first :: second :: rest => do
    let opener ← Random.choose ["First", "To begin", "Start out:"]
    let steps := toString (rest.length + 1)
    return opener.getD "First" ++ " " ++ first ++ ". Then, in " ++ steps ++ " more steps, finish with: " ++
      (second :: rest).getLast (by simp) ++ "."

end Naming

end Adventure
