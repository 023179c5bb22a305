import MarkdownCanon.Files.Disk

/-! The Markdown files below a folder: those of the folder by name, then those of its subfolders, by
name too. A folder that cannot be listed ends the search, and what was found before it stays found.
-/

namespace MarkdownCanon

/-- Files found in a folder in order, up to the first folder that cannot be listed. -/
structure Discovery where
  found : List Path := []
  unlistable : Option Path := none
  deriving DecidableEq, Repr, Inhabited

namespace Discovery

/-- Goes on after a search, unless that was stopped. -/
def andThen (first second : Discovery) : Discovery :=
  match first.unlistable with
  | some _ => first
  | none => ⟨first.found ++ second.found, second.unlistable⟩

def markdownSuffixes : List String := [".md", ".markdown"]

/-- A name that shows, with one of the suffixes in any case. -/
def isMarkdownName (name : String) : Bool :=
  name.toList.head? != some '.' &&
    markdownSuffixes.contains (String.ofList (Text.lower (Path.suffixOf name).toList))

def byName (a b : String × α) : Bool := a.1 ≤ b.1

/-- The Markdown files that stand in a folder, by name. -/
def markdownFiles (folderPath : Path) (entries : List Entry) : List Path :=
  let names := (entries.filter fun e => !e.isFolder && isMarkdownName e.name).map Entry.name
  (names.mergeSort (· ≤ ·)).map folderPath.child

mutual

/-- Searches an entry for Markdown files: the files of a folder come before those of the folders
in it, and both go by name. A file is nothing to search. -/
def below (path : Path) : Entry → Discovery
  | .file .. => {}
  | .folder _ false _ => { unlistable := some path }
  | .folder _ true entries =>
    let folders := (belowEach path entries).mergeSort byName
    folders.foldl (fun done (_, next) => done.andThen next) { found := markdownFiles path entries }

/-- The searches of the folders among some entries, with their names. -/
def belowEach (path : Path) : List Entry → List (String × Discovery)
  | [] => []
  | .file .. :: rest => belowEach path rest
  | .folder name listable entries :: rest =>
    (name, below (path.child name) (.folder name listable entries)) :: belowEach path rest

end

end Discovery

namespace Disk

/-- Searches the folder at a path. The path of a folder that stops the search is written as it was
reached, which shows when it was reached from the working folder. -/
def discover (disk : Disk) (path : Path) : List Path × Option (String × OsError) :=
  match disk.locate path with
  | .error e => ([], some (path.text, e))
  | .ok (_, .file ..) => ([], some (path.text, .notDirectory))
  | .ok (_, entry) =>
    let search := Discovery.below path entry
    let here : Path := {}
    (search.found, search.unlistable.map fun stop =>
      (if path == here && stop != here then "./" ++ stop.text else stop.text, .permission))

end Disk

end MarkdownCanon
