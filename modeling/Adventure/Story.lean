import Adventure.Files.Basic
import Adventure.Game.Text
import Adventure.Session.Step

namespace Adventure.Story

/-- The name of the file that a game is written to. -/
def fileName (game : Game) : String := Text.slug game.metadata.uuid ++ ".json"

/-- Write a game into a folder, and tell the path of its file. -/
def write {m : Type → Type} [Monad m] [Files m] (game : Game) (folder : String) : m (Except FileFault String) := do
  match ← Files.makeFolder folder with
  | .error fault => return .error fault
  | .ok () =>
    let path := Path.join folder (fileName game)
    return (← Files.write path game.toText).map fun () => path

/-- Start the game that a text holds. -/
def start (kb : KnowledgeBase) (options : PolicyOptions) (source : String) : Except GameFault (String × Session) := do
  let game ← Game.ofText kb source
  (Session.of game options).reset.mapError .refused

/-- Why a command has no answer. -/
inductive Fault where
  | noStory
  | refused (error : Error)

def Fault.message : Fault → String
  | .noStory => "no story is running"
  | .refused error => error.message

/-- Send a command to the story that is running, if one is. -/
def send (story : Option Session) (command : String) : Except Fault (Reply × Session) :=
  match story with
  | none => .error .noStory
  | some session => (session.step command).mapError .refused

/-- Send commands in turn. One that has no answer leaves the story as it was. -/
def sendAll (story : Option Session) : (commands : List String) → List (Except Fault Reply) × Option Session
  | [] => ([], story)
  | command :: rest =>
    match send story command with
    | .ok (reply, session) =>
      let (replies, last) := sendAll (some session) rest
      (.ok reply :: replies, last)
    | .error fault =>
      let (replies, last) := sendAll story rest
      (.error fault :: replies, last)

end Adventure.Story
