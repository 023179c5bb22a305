import MarkdownCanon.Proofs.FileTree
import Mathlib.Data.List.Nodup
import Mathlib.Data.List.TakeWhile
import Mathlib.Data.Prod.Lex
import Mathlib.Data.Set.Basic
import Mathlib.Data.String.Basic

/-! What a search finds, and in which order. All Markdown files below a folder are found that come
before the first folder that cannot be listed; whatever order the entries of the folders are listed
in, they are found in one order, which is that of the steps to them. -/

namespace MarkdownCanon

namespace Path

theorem suffixOf_parts {name : String} {stem ending : List Char}
    (parts : name.toList = stem ++ '.' :: ending) (last : '.' ∉ ending) :
    suffixOf name =
      if ending.isEmpty || stem.isEmpty then "" else String.ofList ('.' :: ending) := by
  have passed : ∀ c ∈ ending.reverse, (c != '.') = true := by
    intro c m
    have other : c ≠ '.' := fun same => last (same ▸ List.mem_reverse.mp m)
    simpa using other
  have back : name.toList.reverse = ending.reverse ++ '.' :: stem.reverse := by simp [parts]
  have taken : (name.toList.reverse.takeWhile (· != '.')).reverse = ending := by
    rw [back, List.takeWhile_append_of_pos passed]
    simp
  have left : name.length - ending.length - 1 = stem.length := by
    rw [← String.length_toList, parts, List.length_append, List.length_cons]
    omega
  unfold suffixOf
  dsimp only
  rw [taken, left, parts, List.take_left]

theorem suffixOf_plain {name : String} (plain : '.' ∉ name.toList) : suffixOf name = "" := by
  have passed : ∀ c ∈ name.toList.reverse, (c != '.') = true := by
    intro c m
    have other : c ≠ '.' := fun same => plain (same ▸ List.mem_reverse.mp m)
    simpa using other
  unfold suffixOf
  dsimp only
  rw [List.takeWhile_eq_self_iff.mpr passed, List.reverse_reverse, String.length_toList]
  simp

end Path

namespace Discovery

/-- A name that shows, with an ending behind a full stop that spells Markdown in letters of any
case. -/
def NamesMarkdown (name : String) : Prop :=
  ∃ stem ending, name.toList = stem ++ '.' :: ending ∧ stem ≠ [] ∧ stem.head? ≠ some '.' ∧
    '.' ∉ ending ∧ (Text.lower ending = "md".toList ∨ Text.lower ending = "markdown".toList)

theorem mem_markdownSuffixes (ending : List Char) :
    markdownSuffixes.contains (String.ofList (Text.lower ('.' :: ending))) = true ↔
      Text.lower ending = "md".toList ∨ Text.lower ending = "markdown".toList := by
  have dot : Text.lower ('.' :: ending) = '.' :: Text.lower ending := rfl
  simp [markdownSuffixes, dot, ← String.toList_inj]

theorem isMarkdownName_iff (name : String) : isMarkdownName name = true ↔ NamesMarkdown name := by
  have empty : markdownSuffixes.contains (String.ofList (Text.lower "".toList)) = false := by
    decide
  unfold isMarkdownName
  rw [Bool.and_eq_true]
  constructor
  · rintro ⟨shown, suffix⟩
    by_cases dotted : '.' ∈ name.toList.reverse
    · obtain ⟨ending, stem, back, last⟩ := List.eq_append_cons_of_mem dotted
      have parts : name.toList = stem.reverse ++ '.' :: ending.reverse := by
        rw [← List.reverse_inj, back]
        simp
      rw [← List.mem_reverse] at last
      rw [Path.suffixOf_parts parts last] at suffix
      split at suffix
      · rw [empty] at suffix
        cases suffix
      · rename_i whole
        have ⟨_, solid⟩ : ending ≠ [] ∧ stem ≠ [] := by simpa using whole
        rw [String.toList_ofList, mem_markdownSuffixes] at suffix
        rw [parts, List.head?_append, Option.or_of_isSome (by simpa using solid)] at shown
        exact ⟨_, _, parts, by simpa using solid, by simpa using shown, last, suffix⟩
    · rw [List.mem_reverse] at dotted
      rw [Path.suffixOf_plain dotted, empty] at suffix
      cases suffix
  · rintro ⟨stem, ending, parts, solid, shown, last, spelled⟩
    have visible : ending ≠ [] := by
      rintro rfl
      revert spelled
      decide
    have whole : ¬ (ending.isEmpty || stem.isEmpty) = true := by simp [visible, solid]
    rw [Path.suffixOf_parts parts last, if_neg whole, String.toList_ofList, mem_markdownSuffixes,
      parts, List.head?_append, Option.or_of_isSome (by simpa using solid)]
    exact ⟨by simpa using shown, spelled⟩

/-- A step of a walk, to a file or into a folder. Files come before folders, and both go by name. -/
abbrev Step := Bool ×ₗ String

namespace Step

def file (name : String) : Step := toLex (false, name)

def folder (name : String) : Step := toLex (true, name)

theorem file_lt_file {a b : String} (h : a < b) : file a < file b :=
  Prod.Lex.toLex_lt_toLex.mpr (.inr ⟨rfl, h⟩)

theorem file_lt_folder (a b : String) : file a < folder b :=
  Prod.Lex.toLex_lt_toLex.mpr (.inl Bool.false_lt_true)

theorem folder_lt_folder {a b : String} (h : a < b) : folder a < folder b :=
  Prod.Lex.toLex_lt_toLex.mpr (.inr ⟨rfl, h⟩)

end Step

/-- What a walk stops at: a file that it is after, or a folder that it cannot go into. -/
inductive Stop where
  | file (path : Path)
  | folder (path : Path)

namespace Stop

def path : Stop → Path
  | file path => path
  | folder path => path

/-- The steps that lead a walk to a stop. -/
def steps : Stop → List Step
  | file path => path.parent.names.map Step.folder ++ [Step.file path.name]
  | folder path => path.names.map Step.folder

/-- Stops are in the order of the steps to them: a folder comes before all that is in it, and the
files in a folder come before the folders in it. -/
def Before (s t : Stop) : Prop := s.steps < t.steps

theorem steps_file (path : Path) (name : String) :
    (file (path.child name)).steps = (folder path).steps ++ [Step.file name] := by
  simp [steps, Path.child, Path.parent, Path.name]

theorem steps_folder (path : Path) (name : String) :
    (folder (path.child name)).steps = (folder path).steps ++ [Step.folder name] := by
  simp [steps, Path.child]

/-- A stop behind a folder, reached by a certain step out of it. -/
def Past (path : Path) (step : Step) (s : Stop) : Prop :=
  ∃ more, s.steps = (folder path).steps ++ step :: more

theorem past_file (path : Path) (name : String) :
    (file (path.child name)).Past path (Step.file name) :=
  ⟨[], steps_file path name⟩

theorem Past.before {path : Path} {a b : Step} {s t : Stop} (hs : s.Past path a)
    (ht : t.Past path b) (less : a < b) : s.Before t := by
  obtain ⟨more, hs⟩ := hs
  obtain ⟨more', ht⟩ := ht
  unfold Before
  rw [hs, ht]
  exact List.append_left_lt (List.Lex.rel less)

end Stop

/-- `Meets path e s`: in a walk below the folder `e`, which is at the path, `s` is a Markdown file,
or a folder that cannot be listed. Such a folder ends a walk, so that the files in it do not
count: they come after it. -/
inductive Meets : Path → Entry → Stop → Prop where
  | closed {path : Path} {name : String} {entries : List Entry} :
      Meets path (.folder name false entries) (.folder path)
  | file {path : Path} {label name : String} {listable : Bool} {entries : List Entry}
      {stored : StoredFile} (there : .file name stored ∈ entries) (named : NamesMarkdown name) :
      Meets path (.folder label listable entries) (.file (path.child name))
  | inside {path : Path} {label name : String} {listable listable' : Bool}
      {entries inner : List Entry} {s : Stop} (there : .folder name listable' inner ∈ entries)
      (meets : Meets (path.child name) (.folder name listable' inner) s) :
      Meets path (.folder label listable entries) s

theorem meets_folder {path : Path} {label : String} {listable : Bool} {entries : List Entry}
    {s : Stop} : Meets path (.folder label listable entries) s ↔
      listable = false ∧ s = .folder path ∨
      (∃ name stored, .file name stored ∈ entries ∧ NamesMarkdown name ∧
        s = .file (path.child name)) ∨
      ∃ e ∈ entries, e.isFolder = true ∧ Meets (path.child e.name) e s := by
  constructor
  · intro h
    cases h with
    | closed => exact .inl ⟨rfl, rfl⟩
    | file there named => exact .inr (.inl ⟨_, _, there, named, rfl⟩)
    | inside there meets => exact .inr (.inr ⟨_, there, rfl, meets⟩)
  · rintro (⟨rfl, rfl⟩ | ⟨name, stored, there, named, rfl⟩ | ⟨e, there, folder, meets⟩)
    · exact .closed
    · exact .file there named
    · cases e with
      | file => cases folder
      | folder => exact .inside there meets

namespace Meets

theorem steps {path : Path} {e : Entry} {s : Stop} (h : Meets path e s) :
    (Stop.folder path).steps <+: s.steps := by
  induction h with
  | closed => exact List.prefix_rfl
  | file there named => exact ⟨_, (Stop.steps_file _ _).symm⟩
  | inside there meets ih =>
    rw [Stop.steps_folder] at ih
    exact (List.prefix_append _ _).trans ih

theorem past {path : Path} {name : String} {e : Entry} {s : Stop}
    (h : Meets (path.child name) e s) : s.Past path (Step.folder name) := by
  obtain ⟨more, steps⟩ := h.steps
  rw [Stop.steps_folder, List.append_assoc] at steps
  exact ⟨more, steps.symm⟩

theorem not_before {path : Path} {e : Entry} {s : Stop} (h : Meets path e s) :
    ¬ s.Before (.folder path) := by
  intro before
  obtain ⟨more, steps⟩ := h.steps
  unfold Stop.Before at before
  cases more with
  | nil =>
    rw [← steps, List.append_nil] at before
    exact lt_irrefl _ before
  | cons step more =>
    have behind : (Stop.folder path).steps ++ [] < (Stop.folder path).steps ++ step :: more :=
      List.append_left_lt List.Lex.nil
    rw [steps, List.append_nil] at behind
    exact lt_asymm before behind

theorem anchor {path : Path} {e : Entry} {s : Stop} (h : Meets path e s) :
    s.path.anchor = path.anchor := by
  induction h with
  | closed => rfl
  | file => rfl
  | inside _ _ ih => exact ih

end Meets

/-- A search over some stops. It has found the files that come before all folders among them that
cannot be listed, and the first of these, if there is one, has stopped it. -/
structure Surveys (stops : Set Stop) (d : Discovery) : Prop where
  mem : ∀ p, p ∈ d.found ↔
    .file p ∈ stops ∧ ∀ c, .folder c ∈ stops → Stop.Before (.file p) (.folder c)
  sorted : d.found.Pairwise fun p q => Stop.Before (.file p) (.file q)
  all : d.unlistable = none → ∀ c, .folder c ∉ stops
  first : ∀ c, d.unlistable = some c →
    .folder c ∈ stops ∧ ∀ c', .folder c' ∈ stops → ¬ Stop.Before (.folder c') (.folder c)

namespace Surveys

theorem andThen {S T : Set Stop} {d₁ d₂ : Discovery} (h₁ : Surveys S d₁) (h₂ : Surveys T d₂)
    (apart : ∀ s ∈ S, ∀ t ∈ T, s.Before t) : Surveys (S ∪ T) (d₁.andThen d₂) := by
  unfold Discovery.andThen
  split
  · rename_i c stopped
    obtain ⟨closed, least⟩ := h₁.first c stopped
    refine ⟨fun p => ?_, h₁.sorted, fun none_ => ?_, fun c' some_ => ?_⟩
    · rw [h₁.mem]
      constructor
      · rintro ⟨m, early⟩
        refine ⟨.inl m, fun c' m' => ?_⟩
        obtain m' | m' := m'
        · exact early c' m'
        · exact apart _ m _ m'
      · rintro ⟨m | m, early⟩
        · exact ⟨m, fun c' m' => early c' (.inl m')⟩
        · exact absurd (early c (.inl closed)) (lt_asymm (apart _ closed _ m))
    · rw [stopped] at none_
      cases none_
    · rw [stopped] at some_
      cases some_
      refine ⟨.inl closed, fun c' m => ?_⟩
      obtain m | m := m
      · exact least c' m
      · exact lt_asymm (apart _ closed _ m)
  · rename_i through
    have open_ := h₁.all through
    refine ⟨fun p => ?_, ?_, fun none_ c m => ?_, fun c some_ => ?_⟩
    · rw [List.mem_append, h₁.mem, h₂.mem]
      constructor
      · rintro (⟨m, -⟩ | ⟨m, early⟩)
        · exact ⟨.inl m, fun c m' => apart _ m _ (m'.resolve_left (open_ c))⟩
        · exact ⟨.inr m, fun c m' => early c (m'.resolve_left (open_ c))⟩
      · rintro ⟨m | m, early⟩
        · exact .inl ⟨m, fun c m' => early c (.inl m')⟩
        · exact .inr ⟨m, fun c m' => early c (.inr m')⟩
    · refine List.pairwise_append.mpr ⟨h₁.sorted, h₂.sorted, fun p m q m' => ?_⟩
      exact apart _ ((h₁.mem p).mp m).1 _ ((h₂.mem q).mp m').1
    · obtain m | m := m
      · exact open_ c m
      · exact h₂.all none_ c m
    · obtain ⟨m, least⟩ := h₂.first c some_
      exact ⟨.inr m, fun c' m' => least c' (m'.resolve_left (open_ c'))⟩

/-- Searches one after the other, in the order of the folders that they go into. -/
theorem foldl (path : Path) {T : String → Set Stop} {searches : List (String × Discovery)}
    (each : ∀ x ∈ searches, Surveys (T x.1) x.2)
    (past : ∀ name, ∀ s ∈ T name, s.Past path (Step.folder name))
    (sorted : searches.Pairwise fun x y => x.1 < y.1) {S : Set Stop} {done : Discovery}
    (h : Surveys S done) (apart : ∀ s ∈ S, ∀ x ∈ searches, ∀ t ∈ T x.1, s.Before t) :
    Surveys (S ∪ {s | ∃ x ∈ searches, s ∈ T x.1})
      (searches.foldl (fun done (_, next) => done.andThen next) done) := by
  induction searches generalizing S done with
  | nil => simpa using h
  | cons x rest ih =>
    obtain ⟨first, later⟩ := List.pairwise_cons.mp sorted
    have here := h.andThen (each x List.mem_cons_self) fun s m => apart s m x List.mem_cons_self
    have same : S ∪ {s | ∃ y ∈ x :: rest, s ∈ T y.1} =
        S ∪ T x.1 ∪ {s | ∃ y ∈ rest, s ∈ T y.1} := by
      ext s
      simp [or_assoc]
    rw [same]
    refine ih (fun y m => each y (List.mem_cons_of_mem _ m)) later here ?_
    rintro s (m | m) y my t mt
    · exact apart s m y (List.mem_cons_of_mem _ my) t mt
    · exact (past _ s m).before (past _ t mt) (Step.folder_lt_folder (first y my))

theorem once {S : Set Stop} {d : Discovery} (h : Surveys S d) : d.found.Nodup := by
  refine h.sorted.imp ?_
  rintro p q before rfl
  exact lt_irrefl _ before

end Surveys

theorem belowEach_eq (path : Path) (entries : List Entry) :
    belowEach path entries =
      (entries.filter Entry.isFolder).map fun e => (e.name, below (path.child e.name) e) := by
  induction entries with
  | nil => rw [belowEach]; rfl
  | cons e rest ih => cases e <;> rw [belowEach, ih] <;> rfl

theorem sorted_names {names : List String} (nodup : names.Nodup) :
    (names.mergeSort (· ≤ ·)).Pairwise (· < ·) := by
  have sorted : (names.mergeSort (· ≤ ·)).Pairwise fun a b => decide (a ≤ b) = true := by
    apply List.pairwise_mergeSort
    · simpa using fun a b c (h : a ≤ b) (h' : b ≤ c) => h.trans h'
    · simpa using fun a b : String => le_total a b
  have nodup := (List.mergeSort_perm names (· ≤ ·)).nodup_iff.mpr nodup
  refine (sorted.and nodup).imp fun h => ?_
  exact lt_of_le_of_ne (of_decide_eq_true h.1) h.2

theorem sorted_byName {α : Type} {searches : List (String × α)}
    (nodup : (searches.map Prod.fst).Nodup) :
    (searches.mergeSort byName).Pairwise fun x y => x.1 < y.1 := by
  have sorted : (searches.mergeSort byName).Pairwise fun x y => byName x y = true := by
    apply List.pairwise_mergeSort
    · simpa [byName] using
        fun (a : String) (_ : α) (b : String) (_ : α) (c : String) (_ : α) (h : a ≤ b)
          (h' : b ≤ c) => h.trans h'
    · simpa [byName] using fun (a : String) (_ : α) (b : String) (_ : α) => le_total a b
  have nodup := ((List.mergeSort_perm searches byName).map Prod.fst).nodup_iff.mpr nodup
  refine (sorted.and (List.pairwise_map.mp nodup)).imp fun h => ?_
  exact lt_of_le_of_ne (of_decide_eq_true h.1) h.2

/-- The Markdown files that stand in a folder. -/
def filesAt (path : Path) (entries : List Entry) : Set Stop :=
  {s | ∃ name stored, .file name stored ∈ entries ∧ NamesMarkdown name ∧
    s = .file (path.child name)}

/-- What there is to meet in the folders of one name among some entries. -/
def inFolders (path : Path) (entries : List Entry) (name : String) : Set Stop :=
  {s | ∃ e ∈ entries, e.isFolder = true ∧ e.name = name ∧ Meets (path.child name) e s}

section Folder

variable {path : Path} {entries : List Entry}

theorem markdownFiles_surveys (distinct : (entries.map Entry.name).Nodup) :
    Surveys (filesAt path entries) { found := markdownFiles path entries } := by
  refine ⟨fun p => ?_, ?_, fun _ c => ?_, (by simp)⟩
  · unfold markdownFiles
    simp only [List.mem_map, List.mem_mergeSort, List.mem_filter, Bool.and_eq_true,
      Bool.not_eq_true', isMarkdownName_iff]
    constructor
    · rintro ⟨name, ⟨e, ⟨there, file, named⟩, rfl⟩, rfl⟩
      cases e with
      | folder => cases file
      | file name stored =>
        refine ⟨⟨name, stored, there, named, rfl⟩, ?_⟩
        rintro c ⟨name, stored, -, -, same⟩
        cases same
    · rintro ⟨⟨name, stored, there, named, same⟩, -⟩
      cases same
      exact ⟨name, ⟨_, ⟨there, rfl, named⟩, rfl⟩, rfl⟩
  · unfold markdownFiles
    rw [List.pairwise_map]
    have nodup := distinct.sublist
      ((List.filter_sublist (p := fun e => !e.isFolder && isMarkdownName e.name)).map _)
    refine (sorted_names nodup).imp fun {a b} less => ?_
    exact (Stop.past_file _ _).before (Stop.past_file _ _) (Step.file_lt_file less)
  · rintro ⟨name, stored, -, -, same⟩
    cases same

theorem inFolders_eq {e : Entry} (distinct : (entries.map Entry.name).Nodup)
    (there : e ∈ entries) (folder : e.isFolder = true) :
    inFolders path entries e.name = {s | Meets (path.child e.name) e s} := by
  ext s
  constructor
  · rintro ⟨e', there', -, named, meets⟩
    rwa [List.inj_on_of_nodup_map distinct there' there named] at meets
  · exact fun meets => ⟨e, there, folder, rfl, meets⟩

theorem mem_searches (x : String × Discovery) :
    x ∈ (belowEach path entries).mergeSort byName ↔
      ∃ e ∈ entries, e.isFolder = true ∧ (e.name, below (path.child e.name) e) = x := by
  simp [belowEach_eq, and_assoc]

/-- In a folder that can be listed, the files that stand in it come before its folders. -/
theorem meets_open (label : String) :
    {s | Meets path (.folder label true entries) s} = filesAt path entries ∪
      {s | ∃ x ∈ (belowEach path entries).mergeSort byName, s ∈ inFolders path entries x.1} := by
  ext s
  refine meets_folder.trans ?_
  constructor
  · rintro (⟨open_, -⟩ | file | ⟨e, there, folder, meets⟩)
    · cases open_
    · exact .inl file
    · exact .inr ⟨_, (mem_searches _).mpr ⟨e, there, folder, rfl⟩, e, there, folder, rfl, meets⟩
  · rintro (file | ⟨x, -, e, there, folder, named, meets⟩)
    · exact .inr (.inl file)
    · exact .inr (.inr ⟨e, there, folder, named ▸ meets⟩)

end Folder

theorem distinctIn_iff {entries : List Entry} : Entry.distinctIn entries = true ↔
    (entries.map Entry.name).Nodup ∧ ∀ e ∈ entries, e.distinct = true := by
  induction entries with
  | nil => simp [Entry.distinctIn]
  | cons e rest ih => simp [Entry.distinctIn, ih, and_assoc, and_left_comm]

mutual

theorem below_surveys : (e : Entry) → e.isFolder = true → e.distinct = true → (path : Path) →
    Surveys {s | Meets path e s} (below path e)
  | .folder label false entries, _, _, path => by
    rw [below]
    refine ⟨fun p => ?_, .nil, (by simp), fun c some_ => ?_⟩
    · simp only [List.not_mem_nil, false_iff]
      rintro ⟨meets, early⟩
      exact meets.not_before (early path .closed)
    · cases some_
      exact ⟨.closed, fun c' meets => meets.not_before⟩
  | .folder label true entries, _, distinct, path => by
    rw [Entry.distinct] at distinct
    have names := (distinctIn_iff.mp distinct).1
    have each : ∀ x ∈ (belowEach path entries).mergeSort byName,
        Surveys (inFolders path entries x.1) x.2 := by
      intro x m
      obtain ⟨e, there, folder, rfl⟩ := (mem_searches x).mp m
      rw [inFolders_eq names there folder]
      exact eachBelow_surveys entries distinct e there folder (path.child e.name)
    have sorted : ((belowEach path entries).map Prod.fst).Nodup := by
      rw [belowEach_eq, List.map_map]
      exact names.sublist (List.filter_sublist.map _)
    rw [below, meets_open]
    refine Surveys.foldl path each ?_ (sorted_byName sorted)
      (markdownFiles_surveys names) ?_
    · rintro name s ⟨e, -, -, -, meets⟩
      exact meets.past
    · rintro s ⟨name, stored, -, -, rfl⟩ x m t ⟨e, -, -, -, meets⟩
      exact (Stop.past_file _ _).before meets.past (Step.file_lt_folder _ _)

theorem eachBelow_surveys : (entries : List Entry) → Entry.distinctIn entries = true →
    ∀ e ∈ entries, e.isFolder = true → ∀ path : Path, Surveys {s | Meets path e s} (below path e)
  | [], _, _, there, _, _ => by cases there
  | first :: rest, distinct, e, there, folder, path => by
    obtain ⟨names, inner⟩ := distinctIn_iff.mp distinct
    obtain same | there := List.mem_cons.mp there
    · rw [same] at folder ⊢
      exact below_surveys first folder (inner first List.mem_cons_self) path
    · have later : Entry.distinctIn rest = true := by
        refine distinctIn_iff.mpr ⟨(List.nodup_cons.mp names).2, fun e m => ?_⟩
        exact inner e (List.mem_cons_of_mem _ m)
      exact eachBelow_surveys rest later e there folder path

end

end Discovery

/-- An order for the entries of each folder, as a system may list them; `way` leads to the
folder. -/
structure Listing where
  order : (way : List String) → List Entry → List Entry
  perm : ∀ way entries, (order way entries).Perm entries

namespace Entry

variable (listing : Listing)

mutual

/-- An entry with the entries of all its folders listed in another order. -/
def relist (way : List String) : Entry → Entry
  | file name stored => file name stored
  | folder name listable entries =>
    folder name listable (listing.order way (relistIn way entries))

def relistIn (way : List String) : List Entry → List Entry
  | [] => []
  | entry :: rest => relist (way ++ [entry.name]) entry :: relistIn way rest

end

@[simp] theorem name_relist (way : List String) (e : Entry) :
    (e.relist listing way).name = e.name := by
  cases e with
  | file => rw [relist]
  | folder => rw [relist]; rfl

theorem relistIn_eq (way : List String) (entries : List Entry) :
    relistIn listing way entries = entries.map fun e => e.relist listing (way ++ [e.name]) := by
  induction entries with
  | nil => rw [relistIn]; rfl
  | cons e rest ih => rw [relistIn, ih]; rfl

/-- Whatever order they are listed in, the entries are the same. -/
theorem mem_order (way : List String) {entries : List Entry} {e : Entry} :
    e ∈ listing.order way (relistIn listing way entries) ↔
      ∃ e' ∈ entries, e'.relist listing (way ++ [e'.name]) = e := by
  rw [(listing.perm _ _).mem_iff, relistIn_eq, List.mem_map]

theorem distinct_order {way : List String} {entries : List Entry}
    (h : distinctIn entries = true)
    (each : ∀ e ∈ entries, (e.relist listing (way ++ [e.name])).distinct = true) :
    distinctIn (listing.order way (relistIn listing way entries)) = true := by
  rw [Discovery.distinctIn_iff] at h ⊢
  constructor
  · have names : (relistIn listing way entries).map name = entries.map name := by
      simp [relistIn_eq]
    rw [((listing.perm _ _).map name).nodup_iff, names]
    exact h.1
  · intro e m
    obtain ⟨e', m', rfl⟩ := (mem_order listing _).mp m
    exact each e' m'

mutual

theorem distinct_relist : (e : Entry) → (way : List String) → e.distinct = true →
    (e.relist listing way).distinct = true
  | file name stored, way, _ => by rw [relist, distinct]
  | folder name listable entries, way, h => by
    rw [distinct] at h
    rw [relist, distinct]
    exact distinct_order listing h (distinct_relistEach entries way h)

theorem distinct_relistEach : (entries : List Entry) → (way : List String) →
    distinctIn entries = true →
    ∀ e ∈ entries, (e.relist listing (way ++ [e.name])).distinct = true
  | [], _, _, _, m => by cases m
  | first :: rest, way, h, e, m => by
    simp only [distinctIn, Bool.and_eq_true] at h
    obtain same | m := List.mem_cons.mp m
    · rw [same]
      exact distinct_relist first _ h.1.2
    · exact distinct_relistEach rest way h.2 e m

end

end Entry

namespace Discovery

theorem Meets.relist (listing : Listing) {path : Path} {e : Entry} {s : Stop} (h : Meets path e s)
    (way : List String) : Meets path (e.relist listing way) s := by
  induction h generalizing way with
  | closed =>
    rw [Entry.relist]
    exact .closed
  | file there named =>
    have relisted := (Entry.mem_order listing way).mpr ⟨_, there, rfl⟩
    rw [Entry.relist] at relisted
    rw [Entry.relist]
    exact .file relisted named
  | @inside _ _ name _ _ _ _ _ there meets ih =>
    have relisted := (Entry.mem_order listing way).mpr ⟨_, there, rfl⟩
    have inner := ih (way ++ [name])
    rw [Entry.relist] at relisted inner ⊢
    exact .inside relisted inner

end Discovery

namespace Disk

open Discovery

end Disk

end MarkdownCanon
