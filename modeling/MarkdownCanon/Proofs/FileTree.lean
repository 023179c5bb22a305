import MarkdownCanon.Files.Discovery

/-! Files in their tree. Giving files new contents moves nothing: every path leads where it led
before, and the same documents are found. Where the names in each folder differ, writing a file that
is there is to give new contents to this one and to no other. -/

namespace MarkdownCanon

/-- What becomes of a file, given the way to it. -/
abbrev FileChange := List String → StoredFile → StoredFile

namespace Entry

mutual

/-- An entry after a change to its files; `way` leads to the entry. -/
def mapFiles (f : FileChange) (way : List String) : Entry → Entry
  | file name stored => file name (f way stored)
  | folder name listable entries => folder name listable (mapFilesIn f way entries)

def mapFilesIn (f : FileChange) (way : List String) : List Entry → List Entry
  | [] => []
  | entry :: rest => mapFiles f (way ++ [entry.name]) entry :: mapFilesIn f way rest

end

variable (f g : FileChange)

@[simp] theorem name_mapFiles (way : List String) (e : Entry) :
    (e.mapFiles f way).name = e.name := by
  cases e <;> rw [mapFiles] <;> rfl

@[simp] theorem isFolder_mapFiles (way : List String) (e : Entry) :
    (e.mapFiles f way).isFolder = e.isFolder := by
  cases e <;> rw [mapFiles] <;> rfl

mutual

theorem mapFiles_mapFiles : (e : Entry) → (way : List String) →
    (e.mapFiles f way).mapFiles g way = e.mapFiles (fun way stored => g way (f way stored)) way
  | file name stored, way => by rw [mapFiles, mapFiles, mapFiles]
  | folder name listable entries, way => by
    rw [mapFiles, mapFiles, mapFiles, mapFilesIn_mapFilesIn entries way]

theorem mapFilesIn_mapFilesIn : (entries : List Entry) → (way : List String) →
    mapFilesIn g way (mapFilesIn f way entries) =
      mapFilesIn (fun way stored => g way (f way stored)) way entries
  | [], _ => by rw [mapFilesIn, mapFilesIn, mapFilesIn]
  | entry :: rest, way => by
    rw [mapFilesIn, mapFilesIn, mapFilesIn, name_mapFiles, mapFiles_mapFiles entry,
      mapFilesIn_mapFilesIn rest way]

end

variable {f g}

mutual

/-- Files that a change leaves alone stay what they are. -/
theorem mapFiles_congr : (e : Entry) → (way : List String) →
    (∀ more stored, f (way ++ more) stored = g (way ++ more) stored) →
    e.mapFiles f way = e.mapFiles g way
  | file name stored, way, same => by
    have here := same [] stored
    rw [List.append_nil] at here
    rw [mapFiles, mapFiles, here]
  | folder name listable entries, way, same => by
    rw [mapFiles, mapFiles, mapFilesIn_congr entries way fun name _ more => same (name :: more)]

theorem mapFilesIn_congr : (entries : List Entry) → (way : List String) →
    (∀ name, (∃ e ∈ entries, e.name = name) → ∀ more stored,
      f (way ++ name :: more) stored = g (way ++ name :: more) stored) →
    mapFilesIn f way entries = mapFilesIn g way entries
  | [], _, _ => by rw [mapFilesIn, mapFilesIn]
  | entry :: rest, way, same => by
    have first :
        entry.mapFiles f (way ++ [entry.name]) = entry.mapFiles g (way ++ [entry.name]) := by
      apply mapFiles_congr
      intro more stored
      rw [List.append_assoc]
      exact same entry.name ⟨entry, List.mem_cons_self, rfl⟩ more stored
    have later : mapFilesIn f way rest = mapFilesIn g way rest := by
      apply mapFilesIn_congr
      rintro name ⟨e, m, named⟩
      exact same name ⟨e, List.mem_cons_of_mem _ m, named⟩
    rw [mapFilesIn, mapFilesIn, first, later]

end

mutual

theorem mapFiles_id : (e : Entry) → (way : List String) →
    e.mapFiles (fun _ stored => stored) way = e
  | file name stored, way => by rw [mapFiles]
  | folder name listable entries, way => by rw [mapFiles, mapFilesIn_id entries way]

theorem mapFilesIn_id : (entries : List Entry) → (way : List String) →
    mapFilesIn (fun _ stored => stored) way entries = entries
  | [], _ => by rw [mapFilesIn]
  | entry :: rest, way => by rw [mapFilesIn, mapFiles_id entry, mapFilesIn_id rest way]

end

theorem find?_mapFilesIn (f : FileChange) (way : List String) (entries : List Entry)
    (name : String) :
    (mapFilesIn f way entries).find? (·.name == name) =
      (entries.find? (·.name == name)).map fun e => e.mapFiles f (way ++ [name]) := by
  induction entries with
  | nil => rw [mapFilesIn]; rfl
  | cons entry rest ih =>
    rw [mapFilesIn]
    by_cases named : entry.name = name
    · simp [named]
    · simpa [named] using ih

/-- The entries above one, each with its own way. `way` has the nearest name first. -/
def mapAbove (f : FileChange) : List String → List Entry → List Entry
  | _, [] => []
  | way, up :: more => up.mapFiles f way.tail.reverse :: mapAbove f way.tail more

theorem locate_folder (above : List Entry) (way : List String) (label name : String)
    (listable : Bool) (entries : List Entry) (rest : List String) :
    locate above way (folder label listable entries) (name :: rest) =
      if name == ".." then
        match above with
        | [] => .error .notFound
        | up :: more => locate more way.tail up rest
      else
        match entries.find? (·.name == name) with
        | none => .error .notFound
        | some entry => locate (folder label listable entries :: above) (name :: way) entry rest :=
  rfl

/-- Paths lead where they led before. -/
theorem locate_mapFiles (f : FileChange) (names : List String) (above : List Entry)
    (way : List String) (here : Entry) :
    locate (mapAbove f way above) way (here.mapFiles f way.reverse) names =
      (locate above way here names).map fun (way, e) => (way, e.mapFiles f way) := by
  induction names generalizing above way here with
  | nil => rw [locate, locate]; rfl
  | cons name rest ih =>
    cases here with
    | file => rw [mapFiles]; rfl
    | folder label listable entries =>
      rw [mapFiles, locate_folder, locate_folder]
      by_cases up : (name == "..") = true
      · rw [if_pos up, if_pos up]
        cases above with
        | nil => rw [mapAbove]; rfl
        | cons parent more => rw [mapAbove]; exact ih more way.tail parent
      · rw [if_neg up, if_neg up, find?_mapFilesIn]
        cases found : entries.find? (·.name == name) with
        | none => rfl
        | some entry =>
          have deeper := ih (folder label listable entries :: above) (name :: way) entry
          rw [mapAbove, List.tail_cons, List.reverse_cons, mapFiles] at deeper
          exact deeper

mutual

/-- The files of an entry are where they were. -/
theorem files_mapFiles (f : FileChange) : (e : Entry) → (base : Path) →
    files base (e.mapFiles f (base.names ++ [e.name])) =
      (files base e).map fun (path, stored) => (path, f path.names stored)
  | file name stored, base => by rw [mapFiles, files, files]; rfl
  | folder name listable entries, base => by
    rw [mapFiles, files, files]
    exact filesIn_mapFilesIn f entries (base.child name)

theorem filesIn_mapFilesIn (f : FileChange) : (entries : List Entry) → (base : Path) →
    filesIn base (mapFilesIn f base.names entries) =
      (filesIn base entries).map fun (path, stored) => (path, f path.names stored)
  | [], _ => by rw [mapFilesIn, filesIn]; rfl
  | entry :: rest, base => by
    rw [mapFilesIn, filesIn, filesIn, List.map_append, files_mapFiles f entry base,
      filesIn_mapFilesIn f rest base]

end

/-- `Leads entries way e`: the names of the way lead from some entries down to `e`. -/
inductive Leads : List Entry → List String → Entry → Prop where
  | here {entries : List Entry} {name : String} {e : Entry}
      (found : entries.find? (·.name == name) = some e) : Leads entries [name] e
  | under {entries inner : List Entry} {name label : String} {listable : Bool} {way : List String}
      {e : Entry} (found : entries.find? (·.name == name) = some (folder label listable inner))
      (inside : Leads inner way e) : Leads entries (name :: way) e

theorem Leads.snoc {entries inner : List Entry} {way : List String} {label name : String}
    {listable : Bool} {e : Entry} (h : Leads entries way (folder label listable inner))
    (found : inner.find? (·.name == name) = some e) : Leads entries (way ++ [name]) e := by
  generalize same : folder label listable inner = last at h
  induction h with
  | here first => subst same; exact .under first (.here found)
  | under first _ ih => exact .under first (ih same)

/-- `Stands entries above way here`: `here` is the folder of all entries, or else one that the way
leads to; and each entry above it stands in the same manner. Nearest names come first. -/
inductive Stands (entries : List Entry) (listable : Bool) :
    List Entry → List String → Entry → Prop where
  | root : Stands entries listable [] [] (folder "" listable entries)
  | under {above inner : List Entry} {way : List String} {label name : String} {open_ : Bool}
      {e : Entry} (parent : Stands entries listable above way (folder label open_ inner))
      (found : inner.find? (·.name == name) = some e) :
      Stands entries listable (folder label open_ inner :: above) (name :: way) e

theorem Stands.leads {entries above : List Entry} {listable : Bool} {way : List String} {e : Entry}
    (h : Stands entries listable above way e) :
    way = [] ∧ e = folder "" listable entries ∨ Leads entries way.reverse e := by
  induction h with
  | root => exact .inl ⟨rfl, rfl⟩
  | under parent found ih =>
    refine .inr ?_
    obtain ⟨rfl, whole⟩ | leads := ih
    · cases whole
      exact .here found
    · rw [List.reverse_cons]
      exact leads.snoc found

/-- Whatever steps up a path has, the way it ends at is one down from the root. -/
theorem Stands.locate {entries above : List Entry} {listable : Bool} {way way' : List String}
    {here e : Entry} {names : List String} (h : Stands entries listable above way here)
    (found : Entry.locate above way here names = .ok (way', e)) :
    way' = [] ∧ e = folder "" listable entries ∨ Leads entries way' e := by
  induction names generalizing above way here with
  | nil =>
    rw [Entry.locate] at found
    cases found
    obtain ⟨rfl, whole⟩ | leads := h.leads
    · exact .inl ⟨rfl, whole⟩
    · exact .inr leads
  | cons name rest ih =>
    cases here with
    | file => simp [Entry.locate] at found
    | folder label open_ inner =>
      rw [locate_folder] at found
      split at found
      · cases h with
        | root => cases found
        | under parent _ => exact ih parent found
      · cases next : inner.find? (·.name == name) with
        | none => rw [next] at found; cases found
        | some entry =>
          rw [next] at found
          exact ih (.under h next) found

mutual

/-- Whether the entries of each folder have different names. -/
def distinct : Entry → Bool
  | file .. => true
  | folder _ _ entries => distinctIn entries

def distinctIn : List Entry → Bool
  | [] => true
  | entry :: rest => !rest.any (·.name == entry.name) && distinct entry && distinctIn rest

end

mutual

theorem distinct_mapFiles (f : FileChange) : (e : Entry) → (way : List String) →
    (e.mapFiles f way).distinct = e.distinct
  | file name stored, way => by rw [mapFiles, distinct, distinct]
  | folder name listable entries, way => by
    rw [mapFiles, distinct, distinct, distinctIn_mapFilesIn f entries way]

theorem distinctIn_mapFilesIn (f : FileChange) : (entries : List Entry) → (way : List String) →
    distinctIn (mapFilesIn f way entries) = distinctIn entries
  | [], _ => by rw [mapFilesIn]
  | entry :: rest, way => by
    have names : (mapFilesIn f way rest).any (·.name == entry.name) =
        rest.any (·.name == entry.name) := by
      rw [← List.isSome_find?, ← List.isSome_find?, find?_mapFilesIn, Option.isSome_map]
    rw [mapFilesIn, distinctIn, distinctIn, name_mapFiles, names, distinct_mapFiles f entry,
      distinctIn_mapFilesIn f rest way]

end

theorem name_of_find {entries : List Entry} {name : String} {e : Entry}
    (found : entries.find? (·.name == name) = some e) : e.name = name := by
  simpa using List.find?_some found

theorem Leads.last {entries : List Entry} {way : List String} {e : Entry}
    (h : Leads entries way e) : way.getLast? = some e.name := by
  induction h with
  | here found => rw [name_of_find found]; rfl
  | under _ _ ih => rw [List.getLast?_cons, ih]; rfl

end Entry

namespace Disk

/-- A disk after a change to its files. -/
def mapFiles (disk : Disk) (f : FileChange) : Disk :=
  { disk with entries := Entry.mapFilesIn f [] disk.entries }

/-- Whether the entries of each folder have different names. -/
def distinct (disk : Disk) : Bool := Entry.distinctIn disk.entries

/-- The file that a path leads to, with the way there. -/
def file? (disk : Disk) (path : Path) : Option (List String × StoredFile) :=
  match disk.locate path with
  | .ok (way, .file _ stored) => some (way, stored)
  | _ => none

variable {disk : Disk} {path : Path}

theorem mapFiles_id (disk : Disk) : (disk.mapFiles fun _ stored => stored) = disk := by
  rw [mapFiles, Entry.mapFilesIn_id]

theorem mapFiles_mapFiles (disk : Disk) (f g : FileChange) :
    (disk.mapFiles f).mapFiles g = disk.mapFiles fun way stored => g way (f way stored) := by
  simp only [mapFiles, Entry.mapFilesIn_mapFilesIn]

theorem files_mapFiles (disk : Disk) (f : FileChange) :
    (disk.mapFiles f).files = disk.files.map fun (path, stored) => (path, f path.names stored) :=
  Entry.filesIn_mapFilesIn f disk.entries {}

theorem locate_mapFiles (disk : Disk) (f : FileChange) (path : Path) :
    (disk.mapFiles f).locate path =
      (disk.locate path).map fun (way, e) => (way, e.mapFiles f way) := by
  have root : (disk.mapFiles f).root = disk.root.mapFiles f [] := by
    rw [Disk.root, Disk.root, Entry.mapFiles]
    rfl
  unfold locate
  split
  · rfl
  · rw [root]
    exact Entry.locate_mapFiles f path.names [] [] disk.root

theorem isFolder_mapFiles (disk : Disk) (f : FileChange) (path : Path) :
    (disk.mapFiles f).isFolder path = disk.isFolder path := by
  unfold isFolder
  rw [locate_mapFiles]
  cases disk.locate path with
  | error e => rfl
  | ok found => exact Entry.isFolder_mapFiles f found.1 found.2

theorem distinct_mapFiles (disk : Disk) (f : FileChange) :
    (disk.mapFiles f).distinct = disk.distinct :=
  Entry.distinctIn_mapFilesIn f disk.entries []

end Disk

namespace Discovery

variable (f : FileChange)

theorem markdownFiles_mapFilesIn (folderPath : Path) (way : List String) (entries : List Entry) :
    markdownFiles folderPath (Entry.mapFilesIn f way entries) =
      markdownFiles folderPath entries := by
  have names : (((Entry.mapFilesIn f way entries).filter fun e =>
      !e.isFolder && isMarkdownName e.name).map Entry.name) =
        (entries.filter fun e => !e.isFolder && isMarkdownName e.name).map Entry.name := by
    induction entries with
    | nil => rw [Entry.mapFilesIn]
    | cons entry rest ih =>
      rw [Entry.mapFilesIn, List.filter_cons, List.filter_cons]
      simp only [Entry.isFolder_mapFiles, Entry.name_mapFiles]
      split
      · rw [List.map_cons, List.map_cons, ih, Entry.name_mapFiles]
      · exact ih
  unfold markdownFiles
  rw [names]

mutual

/-- The search looks at names only. -/
theorem below_mapFiles : (e : Entry) → (path : Path) → (way : List String) →
    below path (e.mapFiles f way) = below path e
  | .file name stored, path, way => by rw [Entry.mapFiles, below, below]
  | .folder name false entries, path, way => by rw [Entry.mapFiles, below, below]
  | .folder name true entries, path, way => by
    rw [Entry.mapFiles, below, below, markdownFiles_mapFilesIn, belowEach_mapFilesIn entries]

theorem belowEach_mapFilesIn : (entries : List Entry) → (path : Path) → (way : List String) →
    belowEach path (Entry.mapFilesIn f way entries) = belowEach path entries
  | [], _, _ => by rw [Entry.mapFilesIn]
  | .file name stored :: rest, path, way => by
    rw [Entry.mapFilesIn, Entry.mapFiles, belowEach, belowEach, belowEach_mapFilesIn rest]
  | .folder name listable entries :: rest, path, way => by
    have first := below_mapFiles (.folder name listable entries) (path.child name) (way ++ [name])
    rw [Entry.mapFiles] at first
    rw [Entry.mapFilesIn, Entry.mapFiles, belowEach, belowEach, belowEach_mapFilesIn rest]
    simp only [Entry.name, first]

end

end Discovery

end MarkdownCanon
