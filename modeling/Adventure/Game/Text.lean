import Adventure.Game.Basic
import Adventure.Json.Reader
import Adventure.Json.Writer
import Adventure.Record.GameNotation

namespace Adventure

/-- Why a text gives no game. -/
inductive GameFault where
  | unreadable
  | refused (error : Error)

namespace Game

def toText (game : Game) : String := game.record.write.pretty 0

def ofText (kb : KnowledgeBase) (source : String) : Except GameFault Game :=
  match (Json.Written.ofText? source).bind GameRecord.read? with
  | some record => (ofRecord kb record).mapError .refused
  | none => .error .unreadable

end Game

end Adventure
