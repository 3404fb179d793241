import Adventure.CommandLine.Finish
import Adventure.Files.Basic
import Adventure.Knowledge.Compiled

namespace Adventure.CommandLine.Rules

variable {m : Type → Type} [Monad m] [Files m]

def usage : String :=
  "Usage:\n  fable_script check <file.twl>\n  fable_script compile <file.twl> [--out <out.ron>]"

/-- What is wrong with the rules in a file. -/
def report (path : String) : Script.Fault → Finish
  | .invalid problems =>
    let lines := problems.map fun problem => path ++ ": " ++ problem.message
    .failed 1 ("\n".intercalate (lines ++ [s!"{problems.length} error(s)"]))
  | fault => .failed 1 (path ++ ": " ++ fault.message)

/-- Read the rules of a file and go on with them. -/
def withRules (path : Option String) (next : String → KnowledgeRecord → m Finish) : m Finish := do
  match path with
  | none => return .failed 2 "a knowledge-base file is required"
  | some path =>
    match ← Files.read path with
    | .error fault => return .failed 1 ("error: unable to read '" ++ path ++ "': " ++ fault.message)
    | .ok source =>
      match Script.compile source with
      | .error fault => return report path fault
      | .ok record => next path record

def summary (path : String) (record : KnowledgeRecord) : String :=
  path ++ s!": ok ({record.types.length} types, {record.predicates.length} predicates, " ++
    s!"{record.rules.length} rules, {record.constraints.length} constraints)\n"

def check (arguments : List String) : m Finish :=
  withRules arguments.head? fun path record => return .done (summary path record)

/-- The file to read and the file to write; of several files to read the first counts, of those to write the
last. Without a file to write after its flag there are none. -/
def files? (source target : Option String) : List String → Option (Option String × Option String)
  | [] => some (source, target)
  | ["--out"] => none
  | "--out" :: path :: rest => files? source (some path) rest
  | path :: rest => files? (source.orElse fun () => some path) target rest

def compile (arguments : List String) : m Finish := do
  match files? none none arguments with
  | none => return .failed 2 "--out requires a filepath"
  | some (source, target) =>
    withRules source fun _ record => do
      match target with
      | none => return .done (record.compiled ++ "\n")
      | some target =>
        match ← Files.write target record.compiled with
        | .ok () => return .done ""
        | .error fault => return .failed 1 ("error: writing '" ++ target ++ "': " ++ fault.message)

/-- Check or compile a file with rules. -/
def run : (arguments : List String) → m Finish
  | "check" :: rest | "--" :: "check" :: rest => check rest
  | "compile" :: rest | "--" :: "compile" :: rest => compile rest
  | _ => return .failed 2 usage

end Adventure.CommandLine.Rules
