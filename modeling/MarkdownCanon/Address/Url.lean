import MarkdownCanon.Address.CharacterReference
import MarkdownCanon.Text.Utf8

namespace MarkdownCanon.Address

/-- Characters of an address that stand for themselves. -/
def isUrlSafe (c : Char) : Bool :=
  c.isAlphanum || "_.-~:/?#@!$&()*+,;=%".toList.contains c

def percentByte (b : UInt8) : List Char :=
  ['%', (Nat.digitChar (b.toNat / 16)).toUpper, (Nat.digitChar (b.toNat % 16)).toUpper]

/-- An address as documents hold it: references replaced, then each byte of an unsafe character
written as a percent sign and two digits. -/
def normalize (cs : List Char) : List Char :=
  (expandReferences cs).flatMap fun c =>
    if isUrlSafe c then [c] else (String.utf8EncodeChar c).flatMap percentByte

end MarkdownCanon.Address
