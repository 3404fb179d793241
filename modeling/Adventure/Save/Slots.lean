import Adventure.Files.Basic
import Adventure.Save.Basic

namespace Adventure

/-- The folder of the saved games of a game. -/
def saveFolder (game : String) : String := Path.join "saved_games" (Text.slug game)

/-- What stands between the slot and the version in the name of a saved game. -/
def slotMark : List Char := "-fable-".toList

namespace Slot

/-- The name of the file of a slot, without its extension. -/
def stem (slot : String) : String := Text.slug slot ++ String.ofList slotMark ++ engineVersion

/-- The path of the file of a slot. -/
def path (folder slot : String) : String := Path.join folder (stem slot ++ ".ron")

/-- Split characters at the last place where others stand. -/
def splitAtLast? (mark : List Char) : List Char → Option (List Char × List Char)
  | [] => none
  | c :: rest =>
    match splitAtLast? mark rest with
    | some (front, back) => some (c :: front, back)
    | none => if mark.isPrefixOf (c :: rest) then some ([], (c :: rest).drop mark.length) else none

/-- The slot and the version in the name of a file. -/
def ofStem? (stem : String) : Option (String × String) :=
  match splitAtLast? slotMark stem.toList with
  | some (first :: slot, version) => some (String.ofList (first :: slot), String.ofList version)
  | _ => none

end Slot

/-- A file that may hold a saved game. -/
structure SaveSlot where
  slot : String
  version : String
  name : String
  modified : Option Int

/-- What a file with a saved game turns out to be. -/
inductive SaveStatus where
  | ready
  | outdated (version : String)
  | unparsable
  | unreadable (fault : FileFault)
deriving DecidableEq

structure SaveEntry where
  file : SaveSlot
  version : String
  saved : Option SavedGame
  status : SaveStatus

namespace SaveSlot

def ofFile? (file : FileEntry) : Option SaveSlot :=
  match Path.splitName file.name with
  | (stem, some "ron") =>
    (Slot.ofStem? stem).map fun (slot, version) => ⟨slot, version, file.name, file.modified⟩
  | _ => none

variable {m : Type → Type} [Monad m] [Files m]

/-- The files of a folder that may hold saved games, by slot and version. A folder that is not there has none. -/
def collect (folder : String) : m (Except FileFault (List SaveSlot)) := do
  match ← Files.list folder with
  | .error .missing => return .ok []
  | .error fault => return .error fault
  | .ok files =>
    return .ok ((files.filterMap ofFile?).mergeSort fun a b =>
      (comparePair SaveSlot.slot SaveSlot.version a b).isLE)

/-- Look into a file. -/
def entry (file : SaveSlot) (content : Except FileFault String) : SaveEntry :=
  match content with
  | .error fault => ⟨file, file.version, none, .unreadable fault⟩
  | .ok text =>
    match SavedGame.ofText? text with
    | none => ⟨file, file.version, none, .unparsable⟩
    | some saved =>
      ⟨file, saved.version, some saved, if saved.version = engineVersion then .ready else .outdated saved.version⟩

/-- The later of two files goes before; of two from the same time, the one with the smaller slot. -/
def newerFirst (a b : SaveEntry) : Bool :=
  let order := match a.file.modified, b.file.modified with
    | some s, some t => compare t s
    | some _, none => .lt
    | none, some _ => .gt
    | none, none => .eq
  (order.then (compare a.file.slot b.file.slot)).isLE

/-- What the files of a folder hold, the newest first. -/
def entries (folder : String) : m (Except FileFault (List SaveEntry)) := do
  match ← (collect folder : m _) with
  | .error fault => return .error fault
  | .ok slots =>
    let found ← slots.mapM fun file => do return file.entry (← Files.read (Path.join folder file.name))
    return .ok (found.mergeSort newerFirst)

end SaveSlot

namespace SavedGame

variable {m : Type → Type} [Monad m] [Files m]

/-- Keep a game in a slot, and tell the path of its file. -/
def store (saved : SavedGame) (folder slot : String) : m (Except FileFault String) := do
  match ← Files.makeFolder folder with
  | .error fault => return .error fault
  | .ok () =>
    let path := Slot.path folder slot
    return (← Files.write path saved.toText).map fun () => path

end SavedGame

end Adventure
