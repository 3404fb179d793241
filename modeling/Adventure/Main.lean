import Adventure.CommandLine.Player
import Adventure.CommandLine.Rules
import Adventure.Settings.Debug
import Std.Time.DateTime.Timestamp

namespace Adventure

/-- The fault behind an error of the system. -/
def FileFault.ofError (error : IO.Error) : FileFault :=
  match error with
  | .noFileOrDirectory _ _ _ => .missing
  | .alreadyExists _ _ _ => .exists
  | .inappropriateType _ code _ => if code = 20 then .notFolder else .isFolder
  | rest => .other (toString rest)

/-- Run an action on files and tell its fault. -/
def tried {α : Type} (action : IO α) : IO (Except FileFault α) := do
  match ← action.toBaseIO with
  | .ok value => return .ok value
  | .error error => return .error (.ofError error)

/-- A time of the system in milliseconds. -/
def milliseconds (time : IO.FS.SystemTime) : Int := time.sec * 1000 + time.nsec.toNat / 1000000

/-- The files among the entries of a folder. -/
def fileEntries (entries : Array IO.FS.DirEntry) : IO (List FileEntry) :=
  entries.toList.filterMapM fun entry => do
    let data ← entry.path.metadata
    match data.type with
    | .file => return some ⟨entry.fileName, some (milliseconds data.modified)⟩
    | _ => return none

instance : Files IO where
  read path := do
    match ← tried (IO.FS.readBinFile path) with
    | .error fault => return .error fault
    | .ok content => return (String.fromUTF8? content).elim (.error .notText) .ok
  write path content := tried (IO.FS.writeFile path content)
  makeFolder path := tried (IO.FS.createDirAll path)
  list path := tried do fileEntries (← (IO.FS.DirEntry.mk path "").root.readDir)
  now := return (← Std.Time.Timestamp.now).toMillisecondsSinceUnixEpoch.val

namespace CommandLine

def Finish.print (finish : Finish) : IO UInt32 := do
  IO.print finish.output
  IO.eprint finish.errors
  return UInt32.ofNat finish.code

/-- Answer the lines that are typed until the player leaves or there are no more. -/
partial def converse (input : IO.FS.Stream) (session : Session) : IO UInt32 := do
  IO.print (session.progression.elim "" Console.prompt)
  (← IO.getStdout).flush
  match Console.linesOf (← input.getLine) with
  | [] => return 0
  | line :: _ =>
    match ← (Console.turn session line : Console.Run IO Console.Turn).run with
    | .error failure => (Player.finish "" (some failure)).print
    | .ok turn =>
      IO.print turn.output
      turn.next.elim (return 0) (converse input)

/-- Generate a game or play one. -/
def playMain (arguments : List String) : IO UInt32 := do
  let watched := Settings.switchedOn (← IO.getEnv "TEXTWORLD_DEBUG")
  match Order.ofArguments arguments with
  | .error stop => (Player.stopped stop).print
  | .ok order =>
    match ← (Player.prepare order : Console.Run IO Player.Opening).run with
    | .error failure => (Player.finish "" (some failure)).print
    | .ok ⟨output, none⟩ => (Finish.done output).print
    | .ok ⟨output, some session⟩ =>
      match session.reset with
      | .error error => (Player.finish output (some (.refused [] error))).print
      | .ok (opening, session) =>
        IO.print (output ++ Console.paragraph opening)
        converse (← IO.getStdin) (session.watch watched)

end CommandLine

end Adventure

open Adventure CommandLine

/-- Work on files with rules after the word `rules`, and on games otherwise. -/
def main (arguments : List String) : IO UInt32 := do
  match arguments with
  | "rules" :: rest => (← (Rules.run rest : IO Finish)).print
  | rest => playMain rest
