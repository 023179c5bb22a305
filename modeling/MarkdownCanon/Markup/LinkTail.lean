import MarkdownCanon.Text.Blank

/-! Destinations and titles of links. -/

namespace MarkdownCanon.Markup

/-- Whether unescaped parentheses pair up, with `depth` of them open and `escaped` telling
whether a backslash stands just before. -/
def parensBalancedFrom (depth : Nat) (escaped : Bool) : List Char → Bool
  | [] => depth == 0
  | c :: rest =>
    if escaped then parensBalancedFrom depth false rest
    else if c == '\\' then parensBalancedFrom depth true rest
    else if c == '(' then parensBalancedFrom (depth + 1) false rest
    else if c == ')' then
      match depth with
      | 0 => false
      | depth + 1 => parensBalancedFrom depth false rest
    else parensBalancedFrom depth false rest

def parensBalanced (url : List Char) : Bool := parensBalancedFrom 0 false url

/-- Puts a backslash before every member of `p`. -/
def backslashBefore (p : Char → Bool) (cs : List Char) : List Char :=
  cs.flatMap fun c => if p c then ['\\', c] else [c]

def isAngle (c : Char) : Bool := c == '<' || c == '>'

/-- A destination stands bare unless white space, an angle bracket or an unpaired parenthesis
would end it early. -/
def destination (url : List Char) : List Char :=
  if url.any Text.isBlank || url.any isAngle || !parensBalanced url then
    '<' :: backslashBefore isAngle url ++ ['>']
  else url

def title (text : List Char) : List Char :=
  '"' :: backslashBefore (fun c => c == '\\' || c == '"') text ++ ['"']

/-- What follows the text of a link or an image. An empty title is left out. -/
def linkTail (url : List Char) (text : List Char) : List Char :=
  "](".toList ++ destination url ++ (if text.isEmpty then [] else ' ' :: title text) ++ [')']

end MarkdownCanon.Markup
