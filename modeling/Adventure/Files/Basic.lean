namespace Adventure

/-- Why a file cannot be read or written. -/
inductive FileFault where
  | missing
  | notFolder
  | isFolder
  | exists
  | tooLong
  | notText
  | other (message : String)
deriving DecidableEq

def FileFault.message : FileFault → String
  | .missing => "No such file or directory (os error 2)"
  | .notFolder => "Not a directory (os error 20)"
  | .isFolder => "Is a directory (os error 21)"
  | .exists => "File exists (os error 17)"
  | .tooLong => "File name too long (os error 36)"
  | .notText => "stream did not contain valid UTF-8"
  | .other message => message

/-- A file in a folder, with the time of its last change in milliseconds, if that is known. -/
structure FileEntry where
  name : String
  modified : Option Int
deriving DecidableEq

/-- A place where files are kept. -/
class Files (m : Type → Type) where
  read : (path : String) → m (Except FileFault String)
  /-- Write a file into a folder that is there. -/
  write : (path content : String) → m (Except FileFault Unit)
  /-- Make a folder with all those above it. -/
  makeFolder : (path : String) → m (Except FileFault Unit)
  /-- The files of a folder, without the folders in it. -/
  list : (path : String) → m (Except FileFault (List FileEntry))
  now : m Int

namespace Path

/-- The path of a file in a folder. -/
def join (folder name : String) : String :=
  if folder.isEmpty || folder.endsWith "/" then folder ++ name else folder ++ "/" ++ name

/-- Split characters at the last place where a character stands, which is left out. -/
def splitLast? (c : Char) (chars : List Char) : Option (List Char × List Char) :=
  match chars.reverse.dropWhile (· != c) with
  | [] => none
  | _ :: front => some (front.reverse, (chars.reverse.takeWhile (· != c)).reverse)

/-- The name of a file as its stem and its extension. A dot at the start belongs to the stem. -/
def splitName (name : String) : String × Option String :=
  match splitLast? '.' name.toList with
  | some (first :: stem, extension) => (String.ofList (first :: stem), some (String.ofList extension))
  | _ => (name, none)

def fileName (path : String) : String :=
  (splitLast? '/' path.toList).elim path fun (_, name) => String.ofList name

def extension (path : String) : String := (splitName (fileName path)).2.getD ""

end Path

end Adventure
