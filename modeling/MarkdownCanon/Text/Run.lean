namespace MarkdownCanon.Text

/-- Length of the longest run of members of `p`, when `current` of them stand just before the
text and `best` is the longest run seen so far. -/
def longestRunFrom (p : Char → Bool) (current best : Nat) : List Char → Nat
  | [] => best
  | c :: rest =>
    if p c then longestRunFrom p (current + 1) (max best (current + 1)) rest
    else longestRunFrom p 0 best rest

def longestRun (p : Char → Bool) (cs : List Char) : Nat := longestRunFrom p 0 0 cs

end MarkdownCanon.Text
