namespace Adventure.CommandLine

/-- How the program ended: its exit code and what it printed. -/
structure Finish where
  code : Nat
  output : String
  errors : String
deriving DecidableEq

/-- The program did its work. -/
def Finish.done (output : String) : Finish := ⟨0, output, ""⟩

/-- The program could not do its work. -/
def Finish.failed (code : Nat) (errors : String) : Finish := ⟨code, "", errors ++ "\n"⟩

end Adventure.CommandLine
