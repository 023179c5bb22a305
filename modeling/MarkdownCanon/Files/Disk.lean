import MarkdownCanon.Files.OsError
import MarkdownCanon.Files.Path

/-! A tree of files and folders, some of which may refuse to be read, written or listed. -/

namespace MarkdownCanon

structure StoredFile where
  contents : List UInt8 := []
  readable : Bool := true
  writable : Bool := true
  deriving DecidableEq, Repr, Inhabited

/-- A file, or a folder with what is in it in no particular order. -/
inductive Entry where
  | file (name : String) (stored : StoredFile)
  | folder (name : String) (listable : Bool) (entries : List Entry)
  deriving Repr, Inhabited

namespace Entry

def name : Entry → String
  | file name _ => name
  | folder name _ _ => name

def isFolder : Entry → Bool
  | file .. => false
  | folder .. => true

/-- The entry that the names lead to from `here`, and the way there without any step up. `above`
and `way` have the nearest first. -/
def locate (above : List Entry) (way : List String) (here : Entry) :
    List String → Except OsError (List String × Entry)
  | [] => .ok (way.reverse, here)
  | name :: rest =>
    match here with
    | file .. => .error .notDirectory
    | folder _ _ entries =>
      if name == ".." then
        match above with
        | [] => .error .notFound
        | up :: more => locate more way.tail up rest
      else
        match entries.find? (·.name == name) with
        | none => .error .notFound
        | some entry => locate (here :: above) (name :: way) entry rest

/-- Puts `make old` in the place of the entry `old` of that name, or behind all others. -/
def alter (name : String) (make : Option Entry → Entry) : List Entry → List Entry
  | [] => [make none]
  | entry :: rest =>
    if entry.name == name then make (some entry) :: rest else entry :: alter name make rest

/-- Changes the entry at the end of a way through the entries of a folder. Folders that are not
there are made. -/
def put (make : Option Entry → Entry) : List String → List Entry → List Entry
  | [], entries => entries
  | [name], entries => alter name make entries
  | name :: next :: rest, entries =>
    alter name
      (fun
        | some (folder _ listable inner) => folder name listable (put make (next :: rest) inner)
        | _ => folder name true (put make (next :: rest) []))
      entries

mutual

/-- The files of an entry with their paths. -/
def files (folderPath : Path) : Entry → List (Path × StoredFile)
  | file name stored => [(folderPath.child name, stored)]
  | folder name _ entries => filesIn (folderPath.child name) entries

def filesIn (folderPath : Path) : List Entry → List (Path × StoredFile)
  | [] => []
  | entry :: rest => files folderPath entry ++ filesIn folderPath rest

end

end Entry

/-- The working folder with all that is in it. `location` is its absolute path. -/
structure Disk where
  location : String := ""
  entries : List Entry := []
  listable : Bool := true
  deriving Repr, Inhabited

namespace Disk

def root (disk : Disk) : Entry := .folder "" disk.listable disk.entries

/-- The entry at a path. What lies outside of the working folder is not there. -/
def locate (disk : Disk) (path : Path) : Except OsError (List String × Entry) :=
  if path.isAbsolute then .error .notFound else disk.root.locate [] [] path.names

def isFolder (disk : Disk) (path : Path) : Bool :=
  match disk.locate path with
  | .ok (_, entry) => entry.isFolder
  | .error _ => false

def read (disk : Disk) (path : Path) : Except OsError (List UInt8) :=
  match disk.locate path with
  | .error e => .error e
  | .ok (_, .folder ..) => .error .isDirectory
  | .ok (_, .file _ stored) => if stored.readable then .ok stored.contents else .error .permission

/-- Stores a file at a way that leads nowhere but to its place. -/
def put (disk : Disk) (way : List String) (stored : StoredFile) : Disk :=
  { disk with entries := Entry.put (fun _ => .file (way.getLast?.getD "") stored) way disk.entries }

/-- Makes a folder, unless it is there, and says whether it can be listed. -/
def putFolder (disk : Disk) (way : List String) (listable : Bool) : Disk :=
  if way.isEmpty then { disk with listable }
  else
    let make : Option Entry → Entry
      | some (.folder name _ entries) => .folder name listable entries
      | _ => .folder (way.getLast?.getD "") listable []
    { disk with entries := Entry.put make way disk.entries }

/-- Changes the contents of a file, which is made if only its folder is there. -/
def store (disk : Disk) (path : Path) (change : List UInt8 → List UInt8) : Except OsError Disk :=
  match disk.locate path with
  | .ok (_, .folder ..) => .error .isDirectory
  | .ok (way, .file _ stored) =>
    if stored.writable then .ok (disk.put way { stored with contents := change stored.contents })
    else .error .permission
  | .error .notFound =>
    match disk.locate path.parent with
    | .ok (way, .folder ..) =>
      if path.name == ".." then .error .isDirectory
      else .ok (disk.put (way ++ [path.name]) { contents := change [] })
    | .ok (_, .file ..) => .error .notDirectory
    | .error e => .error e
  | .error e => .error e

def write (disk : Disk) (path : Path) (contents : List UInt8) : Except OsError Disk :=
  disk.store path fun _ => contents

def append (disk : Disk) (path : Path) (contents : List UInt8) : Except OsError Disk :=
  disk.store path (· ++ contents)

def files (disk : Disk) : List (Path × StoredFile) := Entry.filesIn {} disk.entries

/-- The absolute path of a path, made out of the texts alone. -/
def absolute (disk : Disk) (path : Path) : String :=
  let flat := path.flat
  if path.isAbsolute then flat.text
  else String.intercalate "/" (disk.location :: flat.names)

end Disk

end MarkdownCanon
