namespace MarkdownCanon.Text

/-- White space: the Unicode property together with the four information separators. -/
def isBlank (c : Char) : Bool :=
  let n := c.toNat
  (0x09 ≤ n && n ≤ 0x0D) || (0x1C ≤ n && n ≤ 0x20) || n == 0x85 || n == 0xA0 || n == 0x1680 ||
    (0x2000 ≤ n && n ≤ 0x200A) || n == 0x2028 || n == 0x2029 || n == 0x202F || n == 0x205F ||
    n == 0x3000

def trimEnd (p : Char → Bool) (cs : List Char) : List Char :=
  (cs.reverse.dropWhile p).reverse

def trim (p : Char → Bool) (cs : List Char) : List Char :=
  trimEnd p (cs.dropWhile p)

def isSpace (c : Char) : Bool := c == ' '

def isNewline (c : Char) : Bool := c == '\n'

/-- The first word of a text, if it holds one. -/
def firstWord? (cs : List Char) : Option (List Char) :=
  match cs.dropWhile isBlank with
  | [] => none
  | rest => some (rest.takeWhile (!isBlank ·))

/-- A text without its surrounding white space. -/
def strip (s : String) : String := String.ofList (trim isBlank s.toList)

end MarkdownCanon.Text
