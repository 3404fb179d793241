import Adventure.Knowledge.Basic
import Adventure.Record.KnowledgeNotation
import Adventure.Ron.Reader
import Adventure.Ron.Writer
import Adventure.Script.Text

namespace Adventure

/-- The text of a compiled knowledge base. -/
def KnowledgeRecord.compiled (record : KnowledgeRecord) : String := Ron.toText record.write

/-- Read a compiled knowledge base back. -/
def KnowledgeRecord.ofCompiled? (source : String) : Option KnowledgeRecord :=
  (Ron.ofText? source).bind KnowledgeRecord.read?

/-- Why a file does not hold a knowledge base. -/
inductive LoadFault where
  | unreadable
  | refused (error : Error)
deriving DecidableEq

/-- The knowledge base in a file: compiled if the file's extension says so, else written out. -/
def KnowledgeBase.ofFile (extension source : String) : Except LoadFault KnowledgeBase :=
  if extension = "ron" then
    match KnowledgeRecord.ofCompiled? source with
    | some record => (ofRecord record).mapError .refused
    | none => .error .unreadable
  else (ofText source).mapError .refused

end Adventure
