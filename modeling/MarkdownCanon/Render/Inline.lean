import MarkdownCanon.Document.Blankness
import MarkdownCanon.Markup.CodeSpan
import MarkdownCanon.Markup.Escape
import MarkdownCanon.Markup.LinkTail
import MarkdownCanon.Render.Monad
import MarkdownCanon.Settings.Renderer

namespace MarkdownCanon.Render

/-- A delimiter that works where it stands: an underscore touching a word on its outer side
delimits nothing, and a star takes its place. -/
def delimiterFor (token : List Char) (before : Option Char) (next : Option Node) : List Char :=
  if before.any Text.isAlphanumeric || next.any Node.startsAlphanumeric then
    token.map fun c => if c == '_' then '*' else c
  else token

/-- A span between delimiters. `blank` content has none, as they would not be read as such. -/
def span (token : List Char) (blank : Bool) (content : Render Unit) : Render Unit := do
  if blank then content
  else
    let s ← get
    let token := delimiterFor token s.writer.last s.nextInline
    leaveLineStart
    stage token
    content
    closeSpan token

/-- A link or an image: its opening bracket, its content and its tail. -/
def reference (opening : List Char) (url title : Option String)
    (content : Render Unit) : Render Unit := do
  leaveLineStart
  stage opening
  content
  write (Markup.linkTail (url.getD "").toList (title.getD "").toList)

/-- The cleaned form of a text, less a first space that the output already ends with. -/
def spacedText (content : String) (writer : Writer) : List Char :=
  match Text.collapse content.toList with
  | ' ' :: rest =>
    if (writer.last == some ' ' || writer.last == some '\n') && writer.committed then rest
    else ' ' :: rest
  | cs => cs

/-- Keeps an exclamation mark before a link from making an image of it. -/
def guardBang (escaped : List Char) (next : Option Node) : List Char :=
  if escaped.getLast? == some '!' && next.any Node.isLink then escaped.dropLast ++ ['\\', '!']
  else escaped

def text (content : String) : Render Unit := do
  let s ← get
  let cs := spacedText content s.writer
  if cs.isEmpty then return
  let place := { atLineStart := s.atLineStart, inTable := s.inTableCell }
  let (escaped, tail) := Markup.escape place s.normalTail cs
  modify fun s => { s with normalTail := tail, atLineStart := false }
  write (guardBang escaped s.nextInline)

def code (content : String) : Render Unit := do
  if content.isEmpty then return
  leaveLineStart
  let span := Markup.codeSpan ['\x60'] content.toList
  let content := if (← get).inTableCell then Markup.guardPipes false span.content else span.content
  write { span with content }.text

/-- Text that goes out as it is. -/
def verbatim (content : List Char) : Render Unit := do
  leaveLineStart
  write content

/-- A break becomes a space where a line must not end, and where soft ones are joined. -/
def lineBreak (settings : RendererSettings) (soft : Bool) : Render Unit := do
  let s ← get
  let oneLine := s.inHeading || s.inTableCell
  if soft && settings.softWraps == .preserve && !oneLine then
    write ['\n']
    modify fun s => { s with atLineStart := true, normalTail := [] }
  else if soft || oneLine then
    if s.writer.last != some ' ' then write [' ']
    modify fun s => { s with normalTail := [' '] }
  else
    write [' ', ' ', '\n']
    modify fun s => { s with atLineStart := true, normalTail := [] }

end MarkdownCanon.Render
