import Adventure.Console.Turn

namespace Adventure.Console

/-- The lines of a text, without the marks at their ends. -/
def linesOf (text : String) : List String :=
  let clean (line : String) : String := String.ofList (line.toList.reverse.dropWhile (· == '\r')).reverse
  let pieces := text.splitOn "\n"
  (if pieces.getLast? = some "" then pieces.dropLast else pieces).map clean

/-- All that is printed while lines are answered in turn, and the failure that ended it, if one did. -/
def transcriptFrom {m : Type → Type} [Monad m] [Files m] (session : Session) (printed : String) :
    List String → m (String × Option Failure)
  | [] => return (printed ++ session.progression.elim "" prompt, none)
  | line :: rest => do
    let asked := printed ++ session.progression.elim "" prompt
    match ← (turn session line : Run m Turn).run with
    | .error failure => return (asked, some failure)
    | .ok ⟨output, none⟩ => return (asked ++ output, none)
    | .ok ⟨output, some next⟩ => transcriptFrom next (asked ++ output) rest

/-- All that is printed while a game is played by the lines of a text. -/
def transcript {m : Type → Type} [Monad m] [Files m] (session : Session) (input : String) :
    m (String × Option Failure) := do
  match session.reset with
  | .error error => return ("", some (.refused [] error))
  | .ok (opening, session) => transcriptFrom session (paragraph opening) (linesOf input)

end Adventure.Console
