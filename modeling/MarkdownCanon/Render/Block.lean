import MarkdownCanon.Render.Inline
import MarkdownCanon.Text.Cells
import MarkdownCanon.Text.Run

namespace MarkdownCanon.Render

/-- What stands between a block and the one before it. Lists and raw HTML keep a blank line that
the source had; other blocks have one unless they stand in a tight list. -/
def separator (tight : Bool) : Node → List Char
  | .list style _ => if style.blankBefore then ['\n', '\n'] else ['\n']
  | .htmlBlock _ blankBefore => if blankBefore then ['\n', '\n'] else ['\n']
  | _ => if tight then ['\n'] else ['\n', '\n']

/-- The character that underlines a heading, for the levels that can be underlined. -/
def underline? (settings : RendererSettings) (level : HeadingLevel) : Option Char :=
  if settings.headingStyle == .setext then
    match level.val with
    | 1 => some '='
    | 2 => some '-'
    | _ => none
  else none

def identifierSuffix (identifier : Option String) : List Char :=
  let name := (identifier.getD "").toList
  if name.isEmpty then [] else "\x7b#".toList ++ name ++ "\x7d".toList

/-- A heading from its printed text. An empty one has no line to underline. -/
def headingText (settings : RendererSettings) (level : HeadingLevel) (identifier : Option String)
    (text : List Char) : List Char :=
  let suffix := identifierSuffix identifier
  let spaced := fun (part : List Char) => if part.isEmpty then [] else ' ' :: part
  match underline? settings level with
  | some mark =>
    if text.isEmpty then List.replicate level.val '#' ++ spaced suffix
    else
      let line := text ++ spaced suffix
      line ++ '\n' :: List.replicate (Text.cells line) mark
  | none => List.replicate level.val '#' ++ spaced text ++ spaced suffix

/-- Refuses blocks of which it cannot be said whether they are blank. -/
def checkTexts (children : List Node) : Render Unit :=
  if children.any Node.isTextlessHtml then lack (.member "strip") else return

/-- The info string as it is printed. -/
def infoText (block : CodeBlock) : String := Text.strip (block.info.getD "")

/-- The code of a block after its formatter; indented code names no language. -/
def formattedCode (formatters : FormatterMap) (block : CodeBlock) : String :=
  if block.fenced && !(infoText block).isEmpty then
    CodeFormatter.apply formatters (infoText block) block.content
  else block.content

def formattingTrace (formatters : FormatterMap) (block : CodeBlock) : Journal :=
  if block.fenced && !(infoText block).isEmpty then
    CodeFormatter.applyTrace formatters (infoText block) block.content
  else {}

/-- The fence of a block: no info string after a backtick fence may hold a backtick. -/
def fenceChar (block : CodeBlock) : Char :=
  let fence := if block.fenced then block.fence else .backtick
  if fence == .backtick && (infoText block).toList.contains '\x60' then '~' else fence.char

/-- A fenced block; its fence is longer than any run of the same character inside. -/
def codeBlockText (formatters : FormatterMap) (block : CodeBlock) : List Char :=
  let code := (CodeFormatter.endLine (formattedCode formatters block)).toList
  let mark := fenceChar block
  let fence := List.replicate (max 3 (Text.longestRun (· == mark) code + 1)) mark
  fence ++ (infoText block).toList ++ '\n' :: code ++ fence

def codeBlock (settings : RendererSettings) (block : CodeBlock) : Render Unit := do
  record (formattingTrace settings.formatters block)
  write (codeBlockText settings.formatters block)

/-- The formatter's reply on a block without a text. -/
def replyWithoutCode? (formatters : FormatterMap) (block : CodeBlock) : Option FormatterReply :=
  if block.fenced && !(infoText block).isEmpty then
    (CodeFormatter.find? formatters (infoText block)).map CodeFormatter.withoutCode
  else none

/-- A block without a text can be printed only with one that its formatter gives. -/
def codeBlockWithoutCode (settings : RendererSettings) (block : CodeBlock) : Render Unit := do
  let reply? := replyWithoutCode? settings.formatters block
  record ((reply?.map (CodeFormatter.replyTrace (infoText block))).getD {})
  match reply?.bind CodeFormatter.replyCode? with
  | some content => write (codeBlockText [] { block with content })
  | none => lack .items

/-- A node without the text of its kind. An inline one prints nothing. -/
def textless (settings : RendererSettings) : Textless → Render Unit
  | .code => return
  | .htmlInline => leaveLineStart
  | .htmlBlock _ => lack (.member "rstrip")
  | .codeBlock info fence fenced =>
    codeBlockWithoutCode settings { content := "", info, fence, fenced }

def quoteMarker : List Char := ['>', ' ']

/-- A quote around blocks; inside a line it first opens the line that it starts on. -/
def blockQuote (isEmpty : Bool) (body : Render Unit) : Render Unit := do
  if isEmpty then write ['>']
  else
    if !(← get).writer.atLineStart then write quoteMarker
    indented quoteMarker body

/-- Runs `body` one list deeper. -/
def inList (style : ListStyle) (body : Render Unit) : Render Unit := do
  modify fun s => { s with listLevels := ListLevel.ofStyle style :: s.listLevels }
  body.ensuring (modify fun s => { s with listLevels := s.listLevels.tail })

/-- The width of an item's continuation lines. The uniform style applies where the first block
allows for more than its marker's width, and stays within the three columns beyond it that do not
make indented code of a block. -/
def childIndent (settings : RendererSettings) (marker : List Char) (first : Node) : Nat :=
  let width := marker.length
  if settings.listIndent == .uniform && (first.isParagraph || first.isHeading) then
    min (max settings.uniformWidth.val width) (width + 3)
  else width

/-- The box of a task, which is read as one only before a paragraph. -/
def taskBox (task : Option TaskStatus) (first : Node) : List Char :=
  match task with
  | some status =>
    if first.isParagraph then (if status == .checked then "[X] " else "[ ] ").toList else []
  | none => []

def taskTrace (task : Option TaskStatus) (first : Node) : Journal :=
  if task.isSome && !first.isParagraph then
    Journal.note Log.debug .blocks
      ("Dropping task box of a list item starting with " ++ first.kind)
  else {}

/-- The level of the innermost list, whose count goes up by the item about to be printed. -/
def nextItem : Render ListLevel := do
  match (← get).listLevels with
  | [] => fail .itemOutsideList
  | level :: outer =>
    modify fun s => { s with listLevels := level.advance :: outer }
    return level

/-- An item of a list; `body` prints its children, given whether they stand in a tight list. -/
def listItem (settings : RendererSettings) (children : List Node) (task : Option TaskStatus)
    (body : Bool → Render Unit) : Render Unit := do
  let level ← nextItem
  checkTexts children
  match children.find? (!·.isBlankBlock) with
  | none => write (Text.trimEnd Text.isBlank level.marker)
  | some first =>
    record (taskTrace task first)
    write (level.marker ++ taskBox task first)
    indented (List.replicate (childIndent settings level.marker first) ' ') (body level.tight)

end MarkdownCanon.Render
