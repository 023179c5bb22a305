import MarkdownCanon.Address.EntityNames

/-! Character references such as `&amp;` and `&#65;`, replaced in one pass from the left. -/

namespace MarkdownCanon.Address

def openName? (name : List Char) : Option (List Char) :=
  (openNames.lookup (String.ofList name)).map fun n => [Char.ofNat n]

/-- The text that a name with its final semicolon stands for. -/
def closedName? (name : List Char) : Option (List Char) :=
  let name := String.ofList name
  ((closedNames.lookup name).map fun n => [Char.ofNat n]).or
    ((pairNames.lookup name).map fun (m, n) => [Char.ofNat m, Char.ofNat n])

/-- What the numbers 0x80 to 0x9F stand for: the characters of the Windows Western code page. -/
def westernCodePage : List Nat :=
  [0x20AC, 0x81, 0x201A, 0x192, 0x201E, 0x2026, 0x2020, 0x2021, 0x2C6, 0x2030, 0x160, 0x2039, 0x152,
    0x8D, 0x17D, 0x8F, 0x90, 0x2018, 0x2019, 0x201C, 0x201D, 0x2022, 0x2013, 0x2014, 0x2DC, 0x2122,
    0x161, 0x203A, 0x153, 0x9D, 0x17E, 0x178]

/-- The text of a numeric reference; numbers of no character have none. -/
def numbered (n : Nat) : List Char :=
  if n == 0 || (0xD800 ≤ n && n ≤ 0xDFFF) || 0x10FFFF < n then [Char.ofNat 0xFFFD]
  else if 0x80 ≤ n && n ≤ 0x9F then [Char.ofNat (westernCodePage.getD (n - 0x80) n)]
  else if (1 ≤ n && n ≤ 8) || n == 0xB || (0xE ≤ n && n ≤ 0x1F) || n == 0x7F ||
      (0xFDD0 ≤ n && n ≤ 0xFDEF) || 0xFFFE ≤ n % 0x10000 then []
  else [Char.ofNat n]

/-- The text of a named reference: the name itself, or the longest open name it starts with. -/
def named (name : List Char) : List Char :=
  match (openName? name).or (closedName? name) with
  | some text => text
  | none =>
    let starts := (List.range name.length).reverse.filter (2 ≤ ·)
    match starts.findSome? fun k => (openName? (name.take k)).map (·, k) with
    | some (text, k) => text ++ name.drop k ++ [';']
    | none => '&' :: name ++ [';']

def isHexDigit (c : Char) : Bool :=
  c.isDigit || ('a' ≤ c && c ≤ 'f') || ('A' ≤ c && c ≤ 'F')

def hexValue (c : Char) : Nat :=
  if c.isDigit then c.toNat - '0'.toNat else c.toLower.toNat - 'a'.toNat + 10

def readNumber (base : Nat) (digits : List Char) : Nat :=
  digits.foldl (fun n c => n * base + hexValue c) 0

/-- Characters that a reference's name is made of. -/
def isNameChar (c : Char) : Bool := !"\t\n\x0c <&#;".toList.contains c

/-- A body of `digits` closed by a semicolon. -/
def closes (body rest : List Char) : Bool :=
  !body.isEmpty && (rest.drop body.length).head? == some ';'

/-- The reference right after an ampersand: its text, and how many characters it takes. -/
def reference? (rest : List Char) : Option (List Char × Nat) :=
  match rest with
  | '#' :: 'x' :: digits => hexReference? digits
  | '#' :: 'X' :: digits => hexReference? digits
  | '#' :: digits =>
    let body := digits.takeWhile Char.isDigit
    if closes body digits && body.length ≤ 7 then
      some (numbered (readNumber 10 body), body.length + 2)
    else none
  | name =>
    let body := name.takeWhile isNameChar
    if closes body name && body.length ≤ 32 then some (named body, body.length + 1) else none
where
  hexReference? (digits : List Char) : Option (List Char × Nat) :=
    let body := digits.takeWhile isHexDigit
    if closes body digits then some (numbered (readNumber 16 body), body.length + 3) else none

/-- Replaces the references of a text once, leaving unknown ones alone; `skip` characters are
part of a reference already replaced. -/
def expandFrom (skip : Nat) : List Char → List Char
  | [] => []
  | c :: rest =>
    match skip with
    | skip + 1 => expandFrom skip rest
    | 0 =>
      if c == '&' then
        match reference? rest with
        | some (text, taken) => text ++ expandFrom taken rest
        | none => c :: expandFrom 0 rest
      else c :: expandFrom 0 rest

def expandReferences (cs : List Char) : List Char := expandFrom 0 cs

end MarkdownCanon.Address
