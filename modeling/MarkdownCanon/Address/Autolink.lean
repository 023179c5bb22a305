import MarkdownCanon.Address.Url
import MarkdownCanon.Text.Lines

/-! Addresses that can stand between angle brackets as their own label. -/

namespace MarkdownCanon.Address

def isSchemeChar (c : Char) : Bool := c.isAlphanum || c == '.' || c == '+' || c == '-'

/-- A scheme of two to thirty-two characters, a colon, and no blank, control or angle bracket. -/
def isUri (label : List Char) : Bool :=
  let scheme := label.takeWhile isSchemeChar
  scheme.head?.any Char.isAlpha && 2 ≤ scheme.length && scheme.length ≤ 32 &&
    match label.drop scheme.length with
    | ':' :: rest => rest.all fun c => 0x20 < c.toNat && c != '<' && c != '>'
    | _ => false

def isMailboxChar (c : Char) : Bool :=
  c.isAlphanum || ".!#$%&*+/=?^_-\x27\x60\x7b|\x7d~".toList.contains c

/-- One to sixty-three letters, digits and hyphens, with no hyphen at either end. -/
def isDomainLabel (label : List Char) : Bool :=
  label.head?.any Char.isAlphanum && label.getLast?.any Char.isAlphanum && label.length ≤ 63 &&
    label.all fun c => c.isAlphanum || c == '-'

def isMailbox (label : List Char) : Bool :=
  let user := label.takeWhile isMailboxChar
  !user.isEmpty &&
    match label.drop user.length with
    | '@' :: domain => (Text.splitAt (· == '.') domain).all isDomainLabel
    | _ => false

/-- Whether a link with this address and text was written between angle brackets. -/
def isAutolink (url label : List Char) : Bool :=
  (isUri label && url == normalize label) ||
    (isMailbox label && url == normalize ("mailto:".toList ++ label))

end MarkdownCanon.Address
