/-! The longest run of lines that two texts have in common, the earliest of those that are equally
long. Lines that are too frequent in a long text start no run, but a run may grow over them. -/

namespace MarkdownCanon.Diff

/-- A run of `size` equal lines, from line `old` of one list and line `new` of the other on. -/
structure Match where
  old : Nat := 0
  new : Nat := 0
  size : Nat := 0
  deriving DecidableEq, Repr, Inhabited

variable {α : Type} [BEq α]

def commonStart : List α → List α → Nat
  | x :: xs, y :: ys => if x == y then commonStart xs ys + 1 else 0
  | _, _ => 0

/-- The lengths of the runs that end at line `x` and at each of the new lines. `lengths` holds
those for the line before `x`, and `before` the one for the new line before. -/
def runLengths (x : α) (before : Nat) : List α → List Nat → List Nat
  | [], _ => []
  | y :: ys, lengths =>
    (if x == y then before + 1 else 0) :: runLengths x (lengths.headD 0) ys lengths.tail

/-- Takes the first run that is longer than the best so far. -/
def improve (row : Nat) (best : Match) (column : Nat) : List Nat → Match
  | [] => best
  | k :: rest =>
    improve row (if best.size < k then ⟨row + 1 - k, column + 1 - k, k⟩ else best) (column + 1) rest

/-- The longest run of lines that may be searched for; of several, the earliest in the old lines
and then in the new ones. -/
def longestRun (searched : α → Bool) (new : List α) (row : Nat) (lengths : List Nat)
    (best : Match) : List α → Match
  | [] => best
  | x :: rest =>
    let lengths := if searched x then runLengths x 0 new lengths else []
    longestRun searched new (row + 1) lengths (improve row best 0 lengths) rest

/-- The longest run, drawn out over equal neighbours on both sides, searched for or not. -/
def longestMatch (searched : α → Bool) (old new : List α) : Match :=
  let core := longestRun searched new 0 [] {} old
  let back := commonStart (old.take core.old).reverse (new.take core.new).reverse
  let ahead := commonStart (old.drop (core.old + core.size)) (new.drop (core.new + core.size))
  ⟨core.old - back, core.new - back, back + core.size + ahead⟩

/-- Lines that are too common to start a match from: in two hundred lines or more, those that
make up more than one in a hundred of them, and one. -/
def isPopular (new : List α) (x : α) : Bool :=
  200 ≤ new.length && new.length / 100 + 1 < (new.filter (x == ·)).length

end MarkdownCanon.Diff
