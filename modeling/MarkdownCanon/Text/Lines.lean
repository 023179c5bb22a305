/-! Texts cut at newlines, where every newline counts, and into lines, where the last one ends a
line. -/

namespace MarkdownCanon.Text

/-- The pieces of a text between the members of `p`; there is always at least one. -/
def splitAt (p : Char → Bool) : List Char → List (List Char)
  | [] => [[]]
  | c :: rest =>
    if p c then [] :: splitAt p rest
    else match splitAt p rest with
      | [] => [[c]]
      | piece :: pieces => (c :: piece) :: pieces

def segments (cs : List Char) : List (List Char) := splitAt (· == '\n') cs

/-- Undoes `segments`. -/
def joinSegments (pieces : List (List Char)) : List Char := List.intercalate ['\n'] pieces

/-- Characters that end a line of a compared text. A carriage return swallows a line feed. -/
def isLineEnd (c : Char) : Bool :=
  let n := c.toNat
  (0x0A ≤ n && n ≤ 0x0D) || (0x1C ≤ n && n ≤ 0x1E) || n == 0x85 || n == 0x2028 || n == 0x2029

/-- The lines of a text without their ends. An end closes a line and opens none, so a text that
stops after one has no empty last line. -/
def lines : List Char → List (List Char)
  | [] => []
  | '\r' :: '\n' :: rest => [] :: lines rest
  | c :: rest =>
    if isLineEnd c then [] :: lines rest
    else match lines rest with
      | [] => [[c]]
      | line :: more => (c :: line) :: more

end MarkdownCanon.Text
