import Adventure.Knowledge.Basic
import Adventure.Script.Diagnosis

namespace Adventure.Script

/-- Why a text does not make a knowledge base. -/
inductive Fault where
  | unreadable (fault : ReadFault)
  | invalid (problems : List Problem)

def Fault.message : Fault → String
  | .unreadable fault => fault.message
  | .invalid problems => "invalid knowledge base: " ++ Problem.messages problems

/-- The declarations of a text, well formed or not. -/
def parse (source : String) : Except ReadFault KnowledgeRecord :=
  match read? source with
  | some statements => .ok (declarations statements)
  | none => .error (diagnose source)

/-- The well-formed declarations of a text. -/
def compile (source : String) : Except Fault KnowledgeRecord :=
  match parse source with
  | .error fault => .error (.unreadable fault)
  | .ok record =>
    match record.problems with
    | [] => .ok record
    | problems => .error (.invalid problems)

end Adventure.Script

namespace Adventure.KnowledgeBase

/-- The knowledge base of a text. -/
def ofText (source : String) : Except Error KnowledgeBase :=
  match Script.compile source with
  | .ok record => ofRecord record
  | .error (.unreadable fault) => .error (.unreadable fault)
  | .error (.invalid problems) => .error (.invalidText problems)

end Adventure.KnowledgeBase
