import MarkdownCanon.Render.Block
import MarkdownCanon.Render.Table

/-! The canonical text of each kind of node. Blank blocks are passed over without being visited. -/

namespace MarkdownCanon.Render

variable (settings : RendererSettings)

mutual

/-- Prints a node, wherever it stands. -/
def node : Node → Render Unit
  | .document children => do
    checkTexts children
    blocks false true children
    write ['\n']
  | .heading level content identifier => do
    let flags :=
      { atLineStart := (underline? settings level).isSome, inHeading := some true }
    let text ← scratch flags (inlines content)
    write (headingText settings level identifier (Text.trim Text.isSpace text))
  | .paragraph content => do
    startInlines
    paragraphInlines content
  | .codeBlock block => codeBlock settings block
  | .blockQuote children =>
    blockQuote children.isEmpty do
      checkTexts children
      blocks false true children
  | .list style items => inList style (listItems style true items)
  | .listItem children task _ =>
    listItem settings children task fun tight => blocks tight true children
  | .table header rows =>
    table header rows do
      let headerTexts ← headerRow header
      let bodyTexts ← bodyRows rows
      return (headerTexts, bodyTexts)
  | .tableRow .. => fail .rowOutsideTable
  | .tableCell .. => fail .cellOutsideTable
  | .thematicBreak => write ['-', '-', '-']
  | .htmlBlock content _ => write (Text.trimEnd Text.isNewline content.toList)
  | .text content => text content
  | .emphasis content =>
    span settings.emphasisToken (Node.allBlankInline content) (inlines content)
  | .strong content =>
    span settings.strongToken (Node.allBlankInline content) (inlines content)
  | .strikethrough content =>
    span ['~', '~'] (Node.allBlankInline content) (inlines content)
  | .code content => code content
  | .link url content title => reference ['['] url title (inlines content)
  | .image url content title => reference ['!', '['] url title (inlines content)
  | .autolink _ label => verbatim ('<' :: label.toList ++ ['>'])
  | .htmlInline content => verbatim content.toList
  | .lineBreak soft => lineBreak settings soft
  | .textless node => textless settings node
  | .foreign kind => fail (.unknownKind kind)
  | .missing => fail (.unknownKind (Node.missing).kind)

/-- Prints inline content. -/
def inlines : List Node → Render Unit
  | [] => pure ()
  | child :: rest => do
    modify fun s => { s with nextInline := rest.head? }
    node child
    inlines rest

/-- Prints the content of a paragraph without the breaks at its end. -/
def paragraphInlines : List Node → Render Unit
  | [] => pure ()
  | child :: rest => do
    if child.isLineBreak && rest.all Node.isLineBreak then return
    modify fun s => { s with nextInline := if rest.all Node.isLineBreak then none else rest.head? }
    node child
    paragraphInlines rest

/-- Prints the blocks that are not blank, each but the first after its separator. -/
def blocks (tight first : Bool) : List Node → Render Unit
  | [] => pure ()
  | child :: rest => do
    if child.isBlankBlock then blocks tight first rest
    else
      if !first then write (separator tight child)
      node child
      blocks tight false rest

/-- Prints the items of a list. -/
def listItems (style : ListStyle) (first : Bool) : List Node → Render Unit
  | [] => pure ()
  | .listItem children task blankBefore :: rest => do
    if !first then
      write (if !style.tight || blankBefore then ['\n', '\n'] else ['\n'])
    node (.listItem children task blankBefore)
    listItems style false rest
  | other :: _ => fail (.notListItem other.kind)

/-- The texts of the header's cells, measured. -/
def headerRow : Option Node → Render (List (List Char))
  | some (.tableRow cells _) => do
    let texts ← cellTexts cells
    measureRow texts
    return texts
  | some other => fail (.notRow other.kind)
  | none => fail .noHeader

/-- The texts of the cells of each row, measured row by row. -/
def bodyRows : List Node → Render (List (List (List Char)))
  | [] => return []
  | .tableRow cells _ :: rest => do
    let texts ← cellTexts cells
    measureRow texts
    return texts :: (← bodyRows rest)
  | other :: _ => fail (.notRow other.kind)

/-- The texts of the cells of a row. -/
def cellTexts : List Node → Render (List (List Char))
  | [] => return []
  | .tableCell content _ :: rest => do
    let text ← scratch { inTableCell := some true } (inlines content)
    return text :: (← cellTexts rest)
  | other :: _ => fail (.notCell other.kind)

end

end MarkdownCanon.Render
