import MarkdownCanon.Diff.Unified

/-! Diffs with a context below zero. It narrows the hunks: their ranges start that many lines after
the place of their changes and end that many lines before it. -/

namespace MarkdownCanon.Diff

/-- A hunk under way: where it starts in the two texts, and the changes in it. -/
structure Narrow where
  oldStart : Int := 0
  newStart : Int := 0
  changes : List Line := []
  deriving Repr, Inhabited

namespace Narrow

/-- The lines of a hunk that ends at the given places. -/
def close (hunk : Narrow) (oldEnd newEnd : Int) : List Line :=
  .hunk ⟨hunk.oldStart, oldEnd - hunk.oldStart⟩ ⟨hunk.newStart, newEnd - hunk.newStart⟩ ::
    hunk.changes

/-- The lines between a place and one `less` lines before it. There are none, unless that one is
before the first line: it is then counted from the last. -/
def wrapped (lines : List String) (place less : Nat) : List Line :=
  if less ≤ place then []
  else ((lines.take (lines.length + place - less)).drop place).map .kept

/-- The hunks of stretches from the given places on. Every stretch of common lines ends one hunk
and starts another, which is left out if no change follows. -/
def hunks (less : Nat) (lines : List String) (oldAt newAt : Nat) (hunk : Narrow) :
    List (Segment String) → List Line
  | [] => if hunk.changes.isEmpty then [] else hunk.close oldAt newAt
  | .same common :: rest =>
    let oldNext := oldAt + common.length
    let newNext := newAt + common.length
    hunk.close ((oldAt : Int) - less) ((newAt : Int) - less) ++ wrapped lines oldAt less ++
      hunks less lines oldNext newNext { oldStart := oldNext + less, newStart := newNext + less }
        rest
  | .changed old new :: rest =>
    hunks less lines (oldAt + old.length) (newAt + new.length)
      { hunk with changes := hunk.changes ++ Segment.lines (.changed old new) } rest

/-- The hunks of two texts. Common lines at their start, and an empty line if both are empty, make
up a hunk of their own. -/
def ofSegments (less : Nat) (lines : List String) : List (Segment String) → List Line
  | .changed old new :: rest => hunks less lines 0 0 {} (.changed old new :: rest)
  | segments =>
    let (first, rest) :=
      match segments with
      | .same common :: rest => (common.length, rest)
      | segments => (1, segments)
    let start : Narrow := { oldStart := first + less, newStart := first + less }
    start.close first first ++ hunks less lines first first start rest

end Narrow

/-- The changes from one text to another, with a context of any sign. -/
def unifiedWithin (context : Int) (old new path : String) : List Line :=
  match context with
  | .ofNat context => unified old new path context
  | .negSucc less =>
    let (oldLabel, newLabel) := labels path
    let segments := Segment.compare (linesOf old) (linesOf new)
    .oldFile oldLabel :: .newFile newLabel :: Narrow.ofSegments (less + 1) (linesOf old) segments

end MarkdownCanon.Diff
