/-! Runs of spaces, tabs and line ends as one space, in texts and in bytes. -/

namespace MarkdownCanon.Text

/-- The characters that separate words within a paragraph. -/
def isSpacing (c : Char) : Bool :=
  c == ' ' || c == '\t' || c == '\r' || c == '\n'

def isSpacingByte (b : UInt8) : Bool :=
  b == 0x20 || b == 0x09 || b == 0x0D || b == 0x0A

/-- Replaces every maximal run of members of `p` by one `mark`; `inRun` tells whether a member
stands just before the text. -/
def collapseRuns (p : α → Bool) (mark : α) (inRun : Bool) : List α → List α
  | [] => []
  | c :: rest =>
    if p c then
      if inRun then collapseRuns p mark true rest else mark :: collapseRuns p mark true rest
    else c :: collapseRuns p mark false rest

/-- Inline spacing in its normal form: each run of spaces, tabs and line ends becomes one space.
A run at either end stays, as one space, so that neighbouring spans still join as written. -/
def collapse (cs : List Char) : List Char := collapseRuns isSpacing ' ' false cs

/-- What `collapse` does, on encoded text. -/
def collapseBytes (bs : List UInt8) : List UInt8 := collapseRuns isSpacingByte 0x20 false bs

end MarkdownCanon.Text
