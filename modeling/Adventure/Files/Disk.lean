import Adventure.Files.Basic
import Adventure.Sorted

namespace Adventure

/-- What stands at a path. -/
inductive Disk.Node where
  | folder
  | file (content : ByteArray) (modified : Int)

/-- A tree of files. The folder at its root and those above it are not among the nodes: they are always there. Each
write takes a tick of the clock. -/
structure Disk where
  nodes : SortedMap String Disk.Node
  clock : Int

namespace Disk

def empty : Disk := ⟨∅, 0⟩

/-- The folder above a folder. The root of the tree has folders above it, and the root of all has none. -/
def above (parts : List String) : List String :=
  match parts.getLast? with
  | none | some ".." => parts ++ [".."]
  | some "" => parts
  | some _ => parts.dropLast

/-- Where a path starts, and its steps from there. -/
def steps (path : String) : List String × List String :=
  (if path.startsWith "/" then [""] else [], path.splitOn "/")

def located (parts : List String) : String := "/".intercalate parts

/-- Where a path leads: to a folder, to a file, or to a name in a folder that nothing has. -/
inductive Place where
  | folder (parts : List String)
  | file (parts : List String) (content : ByteArray)
  | vacant (parts : List String)

/-- How many bytes a path may take. -/
def maxPath : Nat := 4095

def isTooLong (name : String) : Bool := name.utf8ByteSize > 255

/-- Take the steps of a path. Each but the last has to lead to a folder, also one that stays there or goes back. -/
def walk (disk : Disk) : (here : List String) → (steps : List String) → Except FileFault Place
  | here, [] => .ok (.folder here)
  | here, step :: rest =>
    if step = "" ∨ step = "." then disk.walk here rest
    else if step = ".." then disk.walk (above here) rest
    else if isTooLong step then .error .tooLong
    else
      match disk.nodes[located (here ++ [step])]?, rest with
      | some .folder, rest => disk.walk (here ++ [step]) rest
      | some (.file content _), [] => .ok (.file (here ++ [step]) content)
      | some (.file _ _), _ => .error .notFolder
      | none, [] => .ok (.vacant (here ++ [step]))
      | none, _ => .error .missing

/-- What a path leads to. -/
def locate (disk : Disk) (path : String) : Except FileFault Place :=
  if path.isEmpty then .error .missing
  else if path.utf8ByteSize > maxPath then .error .tooLong
  else disk.walk (steps path).1 (steps path).2

def read (disk : Disk) (path : String) : Except FileFault String := do
  match ← disk.locate path with
  | .file _ content =>
    match String.fromUTF8? content with
    | some text => return text
    | none => throw .notText
  | .folder _ => throw .isFolder
  | .vacant _ => throw .missing

/-- A path without the slashes at its end. -/
def trimmed (path : String) : String := String.ofList (path.toList.reverse.dropWhile (· == '/')).reverse

/-- Write a file. A path with a slash at its end is that of a folder. -/
def writeBytes (disk : Disk) (path : String) (content : ByteArray) : Except FileFault Disk := do
  if trimmed path = path then
    match ← disk.locate path with
    | .folder _ => throw .isFolder
    | .file parts _ | .vacant parts =>
      let clock := disk.clock + 1
      return ⟨disk.nodes.insert (located parts) (.file content clock), clock⟩
  else
    let _ ← disk.locate (trimmed path)
    throw .isFolder

def write (disk : Disk) (path content : String) : Except FileFault Disk := disk.writeBytes path content.toUTF8

/-- Make the folders along the steps of a path. -/
def makeFolders (disk : Disk) (here : List String) : (steps : List String) → Except FileFault Disk
  | [] => .ok disk
  | step :: rest =>
    if step = "" ∨ step = "." then makeFolders disk here rest
    else if step = ".." then makeFolders disk (above here) rest
    else if isTooLong step then .error .tooLong
    else
      let next := here ++ [step]
      match disk.nodes[located next]? with
      | some (.file _ _) => .error (if rest.isEmpty then .exists else .notFolder)
      | some .folder => makeFolders disk next rest
      | none => makeFolders { disk with nodes := disk.nodes.insert (located next) .folder } next rest

def makeFolder (disk : Disk) (path : String) : Except FileFault Disk :=
  if path.utf8ByteSize > maxPath then .error .tooLong else disk.makeFolders (steps path).1 (steps path).2

/-- Write a file, with the folders above it. -/
def place (disk : Disk) (path content : String) : Except FileFault Disk := do
  let made ← disk.makeFolders (steps path).1 (steps path).2.dropLast
  made.write path content

/-- Set the time of the last change of a file. -/
def touch (disk : Disk) (path : String) (modified : Int) : Disk :=
  match disk.nodes[path]? with
  | some (.file content _) => { disk with nodes := disk.nodes.insert path (.file content modified) }
  | _ => disk

/-- The paths of all files in the tree, in order. -/
def filePaths (disk : Disk) : List String :=
  disk.nodes.toList.filterMap fun (path, node) =>
    match node with
    | .file _ _ => if path.startsWith "../" || path.startsWith "/" then none else some path
    | .folder => none

def list (disk : Disk) (path : String) : Except FileFault (List FileEntry) := do
  match ← disk.locate path with
  | .folder folder =>
    let start := if folder.isEmpty then "" else located folder ++ "/"
    return disk.nodes.toList.filterMap fun (path, node) =>
      match node with
      | .folder => none
      | .file _ modified =>
        let name := Path.fileName path
        if start ++ name = path then some ⟨name, some modified⟩ else none
  | .file _ _ => throw .notFolder
  | .vacant _ => throw .missing

end Disk

/-- Keep the disk as it was if it cannot be changed. -/
def Disk.change (change : Disk → Except FileFault Disk) : StateM Disk (Except FileFault Unit) := fun disk =>
  match change disk with
  | .ok disk => (.ok (), disk)
  | .error fault => (.error fault, disk)

instance : Files (StateM Disk) where
  read path := do return (← get).read path
  write path content := Disk.change (·.write path content)
  makeFolder path := Disk.change (·.makeFolder path)
  list path := do return (← get).list path
  now := do return (← get).clock

end Adventure
