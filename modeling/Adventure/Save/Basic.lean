import Adventure.Play.Progression
import Adventure.Record.TermNotation
import Adventure.Ron.Reader
import Adventure.Ron.Writer
import Adventure.Text.Slug

namespace Adventure

/-- The version that saved games are stamped with. -/
def engineVersion : String := "0.1.0"

/-- A game under way as it is kept in a file. -/
structure SavedGame where
  version : String
  game : String
  progression : Snapshot
deriving DecidableEq

open Readable

variable {ν : Type}

def Status.name : Status → String
  | .pending => "Pending"
  | .completed => "Completed"
  | .failed => "Failed"

def Status.ofName? (name : String) : Option Status :=
  [Status.pending, .completed, .failed].find? (·.name == name)

def Tracker.read? [Readable ν] (value : ν) : Option Tracker := do
  let fields ← recordOf? "QuestTracker" ["status", "win", "fail"] value
  let status ← required fields "status" fun value => (variant? value).bind Status.ofName?
  let wins ← required fields "win" (listOf? size?)
  return ⟨status, wins, ← required fields "fail" (listOf? size?)⟩

def Tracker.write [Writable ν] (tracker : Tracker) : ν :=
  let numbers (pointers : List Nat) : ν := Writable.list (pointers.map fun pointer => Writable.int (pointer : Nat))
  Writable.record [
    ("status", Writable.variant tracker.status.name),
    ("win", numbers tracker.wins),
    ("fail", numbers tracker.fails)]

def Snapshot.read? [Readable ν] (value : ν) : Option Snapshot := do
  let fields ← recordOf? "ProgressionSnapshot" ["facts", "trackers", "score", "moves"] value
  let facts ← required fields "facts" (listOf? Fact.read?)
  let trackers ← required fields "trackers" (listOf? Tracker.read?)
  let score ← required fields "score" int32?
  return ⟨facts, trackers, score.toInt, ← required fields "moves" size?⟩

def Snapshot.write [Writable ν] (snapshot : Snapshot) : ν :=
  Writable.record [
    ("facts", Writable.list (snapshot.facts.map Fact.write)),
    ("trackers", Writable.list (snapshot.trackers.map Tracker.write)),
    ("score", Writable.int snapshot.score),
    ("moves", Writable.int snapshot.moves)]

namespace SavedGame

def read? [Readable ν] (value : ν) : Option SavedGame := do
  let fields ← recordOf? "SavedGame" ["version", "game_uuid", "progression"] value
  let version ← required fields "version" text?
  let game ← required fields "game_uuid" text?
  return ⟨version, game, ← required fields "progression" Snapshot.read?⟩

def write [Writable ν] (saved : SavedGame) : ν :=
  Writable.record [
    ("version", Writable.text saved.version),
    ("game_uuid", Writable.text saved.game),
    ("progression", saved.progression.write)]

def toText (saved : SavedGame) : String := Ron.toText saved.write

def ofText? (source : String) : Option SavedGame := (Ron.ofText? source).bind read?

end SavedGame

end Adventure
