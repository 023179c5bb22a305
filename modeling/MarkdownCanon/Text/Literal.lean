import MarkdownCanon.Text.Printable

/-! Texts in quotes with escapes, as messages show them. -/

namespace MarkdownCanon.Text

/-- The number `n` in base sixteen with lower-case digits, filled with zeros to `width`. -/
def hex (width n : Nat) : List Char :=
  let digits := Nat.toDigits 16 n
  List.replicate (width - digits.length) '0' ++ digits

def singleQuote : Char := '\x27'

def doubleQuote : Char := '\x22'

/-- One character inside a literal delimited by `quote`. -/
def quoteChar (quote c : Char) : List Char :=
  if c == quote || c == '\\' then ['\\', c]
  else if c == '\n' then ['\\', 'n']
  else if c == '\r' then ['\\', 'r']
  else if c == '\t' then ['\\', 't']
  else if isPrintable c then [c]
  else if c.toNat < 0x100 then '\\' :: 'x' :: hex 2 c.toNat
  else if c.toNat < 0x10000 then '\\' :: 'u' :: hex 4 c.toNat
  else '\\' :: 'U' :: hex 8 c.toNat

/-- A text as messages quote it: between single quotes, unless it holds one and no double quote. -/
def quoted (s : String) : String :=
  let cs := s.toList
  let quote :=
    if cs.contains singleQuote && !cs.contains doubleQuote then doubleQuote else singleQuote
  String.ofList (quote :: cs.flatMap (quoteChar quote) ++ [quote])

end MarkdownCanon.Text
