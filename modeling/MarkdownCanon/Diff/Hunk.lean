import MarkdownCanon.Diff.Segment

/-! Changes that are close to each other, with the lines around them. -/

namespace MarkdownCanon.Diff

/-- Changes close together with the common lines around them. `oldStart` and `newStart` count the
lines of the two texts before it. -/
structure Hunk (α : Type) where
  oldStart : Nat := 0
  newStart : Nat := 0
  segments : List (Segment α) := []
  deriving Repr, Inhabited

namespace Hunk

variable {α : Type}

def add (hunk : Hunk α) (segment : Segment α) : Hunk α :=
  { hunk with segments := hunk.segments ++ [segment] }

def oldLines (hunk : Hunk α) : List α := hunk.segments.flatMap Segment.old

def newLines (hunk : Hunk α) : List α := hunk.segments.flatMap Segment.new

/-- A hunk that shows nothing but common lines. -/
def isQuiet (hunk : Hunk α) : Bool :=
  match hunk.segments with
  | [] | [.same _] => true
  | _ => false

/-- Shortens the last stretch to `context` lines, if both texts have it. -/
def trimEnd (context : Nat) : List (Segment α) → List (Segment α)
  | [] => []
  | [.same lines] => [.same (lines.take context)]
  | segment :: rest => segment :: trimEnd context rest

/-- Divides stretches into hunks wherever the common lines are more than twice the context.
`oldAt` and `newAt` count the lines before the next stretch, and `hunk` is the one under way. -/
def divide (context oldAt newAt : Nat) (hunk : Hunk α) : List (Segment α) → List (Hunk α)
  | [] => if hunk.isQuiet then [] else [hunk]
  | .same lines :: rest =>
    let oldAt := oldAt + lines.length
    let newAt := newAt + lines.length
    if 2 * context < lines.length then
      let kept := .same (lines.drop (lines.length - context))
      hunk.add (.same (lines.take context)) ::
        divide context oldAt newAt ⟨oldAt - context, newAt - context, [kept]⟩ rest
    else divide context oldAt newAt (hunk.add (.same lines)) rest
  | .changed old new :: rest =>
    divide context (oldAt + old.length) (newAt + new.length) (hunk.add (.changed old new)) rest

/-- The hunks of two texts. Common lines at the start and at the end of the texts are shown up to
the context only. -/
def ofSegments (context : Nat) (segments : List (Segment α)) : List (Hunk α) :=
  match segments with
  | .same lines :: rest =>
    let skipped := lines.length - context
    divide context skipped skipped ⟨skipped, skipped, []⟩
      (trimEnd context (.same (lines.drop skipped) :: rest))
  | segments => divide context 0 0 {} (trimEnd context segments)

end Hunk

end MarkdownCanon.Diff
