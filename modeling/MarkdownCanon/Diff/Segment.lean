import MarkdownCanon.Diff.Match

/-! Two texts cut into segments that are equal, and segments that replace one another. -/

namespace MarkdownCanon.Diff

/-- A stretch of two texts: lines that both have, or lines of each in the other's place. -/
inductive Segment (α : Type) where
  | same (lines : List α)
  | changed (old new : List α)
  deriving DecidableEq, Repr, Inhabited

namespace Segment

variable {α : Type}

def old : Segment α → List α
  | same lines => lines
  | changed old _ => old

def new : Segment α → List α
  | same lines => lines
  | changed _ new => new

/-- A change, if there is one. -/
def change (old new : List α) : List (Segment α) :=
  if old.isEmpty && new.isEmpty then [] else [changed old new]

/-- Cuts both texts at their longest match, and what is left at both sides of it likewise. Every
cut uses up an old line, so that as many cuts as there are old lines are enough. -/
def cut [BEq α] (searched : α → Bool) : Nat → List α → List α → List (Segment α)
  | 0, old, new => change old new
  | cuts + 1, old, new =>
    let m := longestMatch searched old new
    if m.size == 0 then change old new
    else
      cut searched cuts (old.take m.old) (new.take m.new) ++
        same ((old.drop m.old).take m.size) ::
        cut searched cuts (old.drop (m.old + m.size)) (new.drop (m.new + m.size))

/-- Joins stretches of common lines that touch. -/
def join : List (Segment α) → List (Segment α)
  | [] => []
  | same lines :: rest =>
    match join rest with
    | same more :: rest => same (lines ++ more) :: rest
    | rest => same lines :: rest
  | changed old new :: rest => changed old new :: join rest

/-- Two texts as a sequence of stretches. -/
def compare [BEq α] (old new : List α) : List (Segment α) :=
  join (cut (fun x => !isPopular new x) old.length old new)

end Segment

end MarkdownCanon.Diff
