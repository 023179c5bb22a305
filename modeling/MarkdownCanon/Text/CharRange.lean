namespace MarkdownCanon.Text

/-- Inclusive ranges of code points, in ascending order. -/
abbrev CharRanges := List (Nat × Nat)

/-- Membership; the search stops at the first range that starts beyond the code point. -/
def CharRanges.covers : CharRanges → Nat → Bool
  | [], _ => false
  | (low, high) :: rest, n => low ≤ n && (n ≤ high || CharRanges.covers rest n)

end MarkdownCanon.Text
