import Adventure.CommandLine.Arguments
import Adventure.CommandLine.Finish
import Adventure.Console.Transcript
import Adventure.Generation.Game
import Adventure.Knowledge.Compiled
import Adventure.Knowledge.Core
import Adventure.Settings.Notation
import Adventure.Story

namespace Adventure.CommandLine

open Console

variable {m : Type → Type} [Monad m] [Files m]

namespace Player

def versionText : String := "fable " ++ engineVersion ++ "\n"

def configHelp (width : Nat) : String :=
  "      " ++ padded width "--config <CONFIG>" ++ "  Engine configuration (TOML); defaults to data/config.toml\n"

def kbHelp (width : Nat) : String :=
  "      " ++ padded width "--kb <KB>" ++
    "  Knowledge base (.twl or compiled .ron); defaults to the built-in core rules\n"

def seedHelp : String := "      --seed <SEED>                  [default: 1234]\n"

def sizeHelp : String :=
  "      --rooms <ROOMS>                \n" ++
  "      --objects <OBJECTS>            \n" ++
  "      --quest-length <QUEST_LENGTH>  \n"

def helpText : Topic → String
  | .program =>
    "Generate and play procedural text adventures\n\nUsage: fable [OPTIONS] <COMMAND>\n\nCommands:\n" ++
    "  play  Play a game file, or a freshly generated game\n" ++
    "  make  Generate a game and write it as a story file\n" ++
    "  help  Print this message or the help of the given subcommand(s)\n\nOptions:\n" ++ configHelp 17 ++ kbHelp 17 ++
    "  -h, --help             Print help\n  -V, --version          Print version\n"
  | .command .play =>
    "Play a game file, or a freshly generated game\n\nUsage: fable play [OPTIONS] [GAME]\n\nArguments:\n" ++
    "  [GAME]  Game record (JSON) to play\n\nOptions:\n" ++ configHelp 29 ++ seedHelp ++ kbHelp 29 ++ sizeHelp ++
    "  -h, --help                         Print help\n"
  | .command .make =>
    "Generate a game and write it as a story file\n\nUsage: fable make [OPTIONS]\n\nOptions:\n" ++ configHelp 29 ++
    "  -o, --output <OUTPUT>              Directory receiving the story file [default: games]\n" ++ kbHelp 29 ++
    seedHelp ++ sizeHelp ++ "  -h, --help                         Print help\n"
  | .help =>
    "Print this message or the help of the given subcommand(s)\n\nUsage: fable help [COMMAND]...\n\nArguments:\n" ++
    "  [COMMAND]...  Print help for the subcommand(s)\n"

/-- The title in the middle of a line. -/
def title : String :=
  let name := "FABLE"
  let left := (72 - name.length) / 2
  "".pushn ' ' left ++ name ++ "".pushn ' ' (72 - name.length - left) ++ "\n"

/-- The file with the settings: the one that is named, else the one beside the rules, if these are there. -/
def settingsPath (order : Order) : m (Option String) := do
  match order.text? .config, ← Files.list "data/logic" with
  | some path, _ => return some path
  | none, .ok _ => return some "data/config.toml"
  | none, .error _ => return none

def settings (order : Order) : m Settings := do
  match ← settingsPath order with
  | none => return Settings.usual
  | some path => return Settings.ofText (← Files.read path).toOption

def knowledge (order : Order) : Run m KnowledgeBase := do
  match order.text? .kb with
  | none => return Core.knowledge
  | some path =>
    let source ← filed "reading knowledge base" path (Files.read path)
    match KnowledgeBase.ofFile (Path.extension path) source with
    | .ok kb => return kb
    | .error .unreadable => throw (.unreadable "parsing compiled knowledge base" path)
    | .error (.refused error) => throw (.refused ["loading knowledge base '" ++ path ++ "'"] error)

def gameOptions (order : Order) (kb : KnowledgeBase) (settings : Settings) : GameOptions :=
  let usual := settings.generation
  { kb, seed := UInt64.ofNat ((order.number? .seed).getD 1234), seeds := ∅, chaining := settings.chaining
    generation := { usual with
      rooms := (order.number? .rooms).getD usual.rooms
      objects := (order.number? .objects).getD usual.objects
      questLength := (order.number? .questLength).getD usual.questLength } }

def generated (order : Order) (kb : KnowledgeBase) (settings : Settings) : Run m Game :=
  match makeGame (gameOptions order kb settings) with
  | .ok game => return game
  | .error error => throw (.refused ["while generating a game"] error)

def loaded (kb : KnowledgeBase) (path : String) : Run m Game := do
  let source ← filed "reading game from" path (Files.read path)
  match Game.ofText kb source with
  | .ok game => return game
  | .error .unreadable => throw (.unreadable "loading game from" path)
  | .error (.refused error) => throw (.refused ["loading game from '" ++ path ++ "'"] error)

/-- What has been printed so far, and the game that is to be played, if one is. -/
structure Opening where
  output : String
  session : Option Session

/-- Carry out an order up to the point where the player types. -/
def prepare (order : Order) : Run m Opening := do
  let settings ← (settings order : m Settings)
  let kb ← knowledge order
  match order.command with
  | .play =>
    let game ← order.given.game.elim (generated order kb settings) (loaded kb)
    return ⟨title, some (Session.of game settings.policy)⟩
  | .make =>
    let game ← generated order kb settings
    let folder := (order.text? .output).getD "games"
    let path ← filed "creating" folder (Story.write game folder)
    let steps := game.metadata.walkthrough.zipIdx.map fun (command, index) => s!"  {index + 1}. {command}\n"
    return ⟨path ++ "\n" ++ String.join steps, none⟩

/-- The end of a run that printed some output. -/
def finish (output : String) : Option Failure → Finish
  | none => .done output
  | some failure => ⟨failure.code, output, "Error: " ++ failure.message ++ "\n"⟩

def stopped : Stop → Finish
  | .version => .done versionText
  | .help topic => .done (helpText topic)
  | .usage => .failed 2 (helpText .program)

/-- Run the program with a text that is typed into it, in a game that is watched or not. -/
def run (watched : Bool) (arguments : List String) (input : String) : m Finish := do
  match Order.ofArguments arguments with
  | .error stop => return stopped stop
  | .ok order =>
    match ← (prepare order : Run m Opening).run with
    | .error failure => return finish "" (some failure)
    | .ok ⟨output, none⟩ => return finish output none
    | .ok ⟨output, some session⟩ =>
      let (printed, failure) ← transcript (session.watch watched) input
      return finish (output ++ printed) failure

end Player

end Adventure.CommandLine
