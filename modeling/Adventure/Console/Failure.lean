import Adventure.Error
import Adventure.Files.Basic

namespace Adventure

/-- What ends the program early. -/
inductive Failure where
  | file (doing path : String) (fault : FileFault)
  | unreadable (doing path : String)
  | refused (context : List String) (error : Error)

/-- The reasons of a failure, the outermost first. -/
def Failure.reasons : Failure → List String
  | .file doing path fault => [doing ++ " '" ++ path ++ "'", fault.message]
  | .unreadable doing path => [doing ++ " '" ++ path ++ "'"]
  | .refused context error => context ++ [error.message]

/-- The exit code of a program that a failure ends. -/
def Failure.code : Failure → Nat
  | .refused _ error => if error.isFatal then 101 else 1
  | _ => 1

def Failure.message (failure : Failure) : String := ": ".intercalate failure.reasons

end Adventure
