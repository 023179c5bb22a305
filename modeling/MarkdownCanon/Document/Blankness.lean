import MarkdownCanon.Document.Node
import MarkdownCanon.Text.Alphanumeric
import MarkdownCanon.Text.Spacing

/-! Nodes that print nothing visible. -/

namespace MarkdownCanon.Node

mutual

/-- Whether an inline node prints nothing but white space. -/
def isBlankInline : Node → Bool
  | lineBreak _ => true
  | text content => (Text.trim Text.isBlank (Text.collapse content.toList)).isEmpty
  | code content => content.isEmpty
  | textless node => node == .code
  | emphasis content | strong content | strikethrough content => allBlankInline content
  | _ => false

def allBlankInline : List Node → Bool
  | [] => true
  | node :: rest => isBlankInline node && allBlankInline rest

end

/-- Whether a block prints no text at all. -/
def isBlankBlock : Node → Bool
  | paragraph content => allBlankInline content
  | list _ items => items.isEmpty
  | htmlBlock content _ => content.toList.all Text.isNewline
  | _ => false

/-- Whether a node is raw HTML without a text, so that nothing can be said of its blankness. -/
def isTextlessHtml : Node → Bool
  | textless (.htmlBlock _) => true
  | _ => false

/-- Whether a node is text that starts with a letter or digit. -/
def startsAlphanumeric : Node → Bool
  | text content => (Text.collapse content.toList).head?.any Text.isAlphanumeric
  | _ => false

end MarkdownCanon.Node
