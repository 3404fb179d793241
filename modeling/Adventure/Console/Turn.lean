import Adventure.Console.Failure
import Adventure.Console.Request
import Adventure.Save.Age
import Adventure.Save.Slots
import Adventure.Session.Step

namespace Adventure.Console

/-- A text without the spaces at the ends of its lines, as a line of its own. -/
def paragraph (text : String) : String :=
  let clean (line : String) : String := String.ofList (line.toList.reverse.dropWhile (· == ' ')).reverse
  "\n".intercalate ((text.splitOn "\n").map clean) ++ "\n"

/-- A text with spaces after it up to a width. -/
def padded (width : Nat) (text : String) : String := text ++ "".pushn ' ' (width - text.length)

def helpLines : List (String × String) := [
  (":commands", "list the commands that work right now"),
  (":hint", "suggest the next step of a winning walkthrough"),
  (":score", "show quests and score"),
  (":facts", "dump the current state"),
  (":save [slot]", "save the game"),
  (":load [slot]", "load a saved game"),
  (":saves", "list save slots"),
  (":quit", "leave the game")]

def helpText : String :=
  "Commands\n  Type any admissible command, e.g. open old chest.\n" ++
  String.join (helpLines.map fun (command, text) => "  " ++ padded 14 command ++ " " ++ text ++ "\n")

def hintText : Option (List String) → String
  | some [] => "Nothing left to do.\n"
  | some (next :: _) => "Try: " ++ next ++ "\n"
  | none => "No hint available.\n"

def scoreText (game : Game) (progression : Progression) : String :=
  String.join ((List.range game.quests.length).map fun number => "  " ++ game.questLabel number ++ "\n") ++
  s!"Score: {progression.score} of {progression.maxScore}\n"

/-- Lines with two spaces before each. -/
def indented (lines : List String) : String := String.join (lines.map fun line => "  " ++ line ++ "\n")

def entryDetail (entry : SaveEntry) : String :=
  match entry.status, entry.saved with
  | .ready, some saved => s!"{saved.progression.moves} moves, score {saved.progression.score}"
  | .ready, none => ""
  | .outdated version, _ => "saved by v" ++ version
  | .unparsable, _ => "parse error"
  | .unreadable fault, _ => "read error: " ++ fault.message

def entryLine (now : Int) (entry : SaveEntry) : String :=
  let age := entry.file.modified.elim "unknown" (agoText now)
  "  " ++ padded 16 entry.file.slot ++ " " ++ padded 10 age ++ " " ++ entryDetail entry ++ "\n"

def entriesText (now : Int) (entries : List SaveEntry) : String :=
  if entries.isEmpty then "No saved games.\n" else String.join (entries.map (entryLine now))

/-- What a line leads to: some output, and the game as it goes on, if it does. -/
structure Turn where
  output : String
  next : Option Session

def prompt (progression : Progression) : String :=
  s!"\n[Moves: {progression.moves}|Score: {progression.score}]>> "

variable {m : Type → Type} [Monad m] [Files m]

abbrev Run (m : Type → Type) := ExceptT Failure m

def engine {α : Type} (result : Except Error α) : Run m α := ExceptT.mk (pure (result.mapError (.refused [])))

def filed {α : Type} (doing path : String) (result : m (Except FileFault α)) : Run m α :=
  ExceptT.mk (do return (← result).mapError (.file doing path))

/-- Load the game of a file, if there is such a file. -/
def loadFrom (session : Session) (path : String) : Run m Turn := do
  match ← (Files.read path : m _) with
  | .error .missing | .error .notFolder => return ⟨"No save at " ++ path ++ ".\n", some session⟩
  | .error fault => throw (.file "reading save file" path fault)
  | .ok text =>
    match SavedGame.ofText? text with
    | none => throw (.unreadable "parsing save file" path)
    | some saved =>
      let session ← engine (session.load saved)
      let room ← engine session.describeRoom
      return ⟨"Loaded " ++ path ++ ".\n" ++ paragraph room, some session⟩

/-- Answer a request. -/
def answer (session : Session) (request : Request) : Run m Turn := do
  let folder := saveFolder session.game.metadata.uuid
  let say (output : String) : Run m Turn := return ⟨output, some session⟩
  let progression ← engine session.running
  match request with
  | .help => say helpText
  | .quit =>
    return ⟨s!"Final score: {progression.score} of {progression.maxScore} in {progression.moves} moves.\n", none⟩
  | .save slot =>
    let saved ← engine session.save
    let path ← filed "writing save file" (Slot.path folder slot) (saved.store folder slot)
    say ("Saved to " ++ path ++ ".\n")
  | .load slot => loadFrom session (Slot.path folder slot)
  | .saves =>
    let entries ← filed "reading" folder (SaveSlot.entries folder)
    say (entriesText (← (Files.now : m Int)) entries)
  | .hint => say (hintText (← engine session.planned))
  | .commands => say (indented (← engine session.admissible))
  | .score => say (scoreText session.game progression)
  | .facts => say (indented ((← engine session.facts).map Fact.text))
  | .unknown verb => say ("Unknown meta command ':" ++ verb ++ "'. Try :help.\n")

/-- Play a command. -/
def play (session : Session) (command : String) : Run m Turn := do
  let (reply, session) ← engine (session.step command)
  let observed :=
    if reply.observation.startsWith "Invalid command" then reply.observation ++ "\n"
    else paragraph reply.observation
  let ending := if reply.done then "Type :quit to leave or :load to resume a save.\n" else ""
  return ⟨observed ++ ending, some session⟩

/-- Answer a line that was typed. An empty one does nothing. -/
def turn (session : Session) (line : String) : Run m Turn :=
  if (Text.trim line).isEmpty then return ⟨"", some session⟩
  else
    match Request.ofLine? line with
    | some request => answer session request
    | none => play session line

end Adventure.Console
