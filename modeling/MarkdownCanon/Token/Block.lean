import MarkdownCanon.Reading.Error
import MarkdownCanon.Token.Inline

/-! Blocks from tokens. Blank lines are no blocks: a list or raw HTML only notes that one stood
before it. -/

namespace MarkdownCanon

namespace Token

def build (made : Except NodeError α) : Reading α :=
  match made with
  | .ok a => pure a
  | .error e => throw (.invalidNode e)

/-- An identifier in braces that ends the text here, up to white space. -/
def identifierHere? (cs : List Char) : Option (List Char) :=
  match cs.dropWhile Text.isBlank with
  | '{' :: '#' :: rest =>
    let name := rest.takeWhile fun c => c != '}' && !Text.isBlank c
    match rest.drop name.length with
    | '}' :: after => if !name.isEmpty && after.all Text.isBlank then some name else none
    | _ => none
  | _ => none

/-- Splits off the identifier at the end of a heading, with the white space before it. -/
def splitIdentifier? : List Char → Option (List Char × List Char)
  | [] => none
  | c :: rest =>
    match identifierHere? (c :: rest) with
    | some name => some ([], name)
    | none => (splitIdentifier? rest).map fun (before, name) => (c :: before, name)

/-- Takes the identifier off the last node of a heading's content. -/
def takeIdentifier : List Node → List Node × Option String
  | [] => ([], none)
  | [.text content] =>
    match splitIdentifier? content.toList with
    | some (before, name) => (lineNodes before, some (String.ofList name))
    | none => ([.text content], none)
  | node :: rest =>
    let (rest, identifier) := takeIdentifier rest
    (node :: rest, identifier)

/-- Takes as many spaces off each line as the first one starts with, as far as it has them. -/
def dedentHtml (raw : List Char) : List Char :=
  match Text.segments raw with
  | [] => []
  | first :: rest =>
    let width := (first.takeWhile Text.isSpace).length
    Text.joinSegments ((first :: rest).map fun line =>
      line.drop (min width (line.takeWhile Text.isSpace).length))

def dedentNode : Node → Reading Node
  | .htmlBlock content blankBefore =>
    return .htmlBlock (String.ofList (dedentHtml content.toList)) blankBefore
  | .textless (.htmlBlock _) => throw (.absent (.member "partition"))
  | node => return node

def readCodeBlock (data : TokenData) : Reading Node :=
  if data.style == "indent" then return .ofCodeBlock data.raw none .backtick false
  else do
    let mark := String.ofList ((data.marker.toList ++ ['\x60']).take 1)
    let fence ← build (Fence.build (.text mark))
    let info := (data.attributes.getD {}).info
    return .ofCodeBlock data.raw (if info.isEmpty then none else some info) fence true

def readCells : List Token → Reading (List Node)
  | [] => return []
  | cell :: rest => do
    let attributes ← requireAttributes cell.data
    let content ← readInlines cell.data cell.children
    let cells ← readCells rest
    return .tableCell content (attributes.align.map Alignment.ofText) :: cells

def readRows : List Token → Reading (List Node)
  | [] => return []
  | row :: rest => do
    requireChildren row.data
    let cells ← readCells row.children
    let rows ← readRows rest
    return .tableRow cells false :: rows

/-- The header and the rows of a table from its parts. The last header counts. -/
def readTable (header : Option Node) (rows : List Node) : List Token → Reading Node
  | [] => return .table header rows
  | part :: rest => do
    if part.isA "table_head" then
      requireChildren part.data
      let cells ← readCells part.children
      readTable (some (.tableRow cells true)) rows rest
    else if part.isA "table_body" then
      requireChildren part.data
      let more ← readRows part.children
      readTable header (rows ++ more) rest
    else readTable header rows rest

mutual

/-- The nodes of block tokens. Blank lines are no nodes: they tell the next block that one stood
before it. The blank lines behind a list are part of its last item, so outside of items a block
after a list counts as having one before it. -/
def readBlocks (inItem blankBefore : Bool) : List Token → Reading (List Node)
  | [] => return []
  | .mk data children :: rest => do
    if hasTag data "blank_line" then readBlocks inItem true rest
    else
      let node? ← readBlock blankBefore (.mk data children)
      let here ← node?.toList.mapM fun node => if inItem then dedentNode node else return node
      let nodes ← readBlocks inItem (!inItem && hasTag data "list") rest
      return here ++ nodes

/-- The node of a block token; a paragraph without content has none. -/
def readBlock (blankBefore : Bool) : Token → Reading (Option Node)
  | .mk data children => do
    if hasTag data "heading" then
      let attributes ← requireAttributes data
      let (content, identifier) := takeIdentifier (← readInlines data children)
      let level ← build (HeadingLevel.build attributes.level)
      return some (.heading level content identifier)
    else if hasTag data "paragraph" || hasTag data "block_text" then
      let content ← readInlines data children
      return if content.isEmpty then none else some (.paragraph content)
    else if hasTag data "block_code" then
      return some (← readCodeBlock data)
    else if hasTag data "block_quote" then
      requireChildren data
      return some (.blockQuote (← readBlocks false false children))
    else if hasTag data "list" then
      let attributes ← requireAttributes data
      requireChildren data
      let ordered := attributes.ordered
      let items ← readItems data.tight true children
      let bullet := if data.bullet.isEmpty then (if ordered then "." else "-") else data.bullet
      let marker ← build (ListMarker.build ordered (.text bullet))
      let style ← build (ListStyle.build marker attributes.start data.tight blankBefore)
      return some (.list style items)
    else if hasTag data "table" then
      requireChildren data
      return some (← readTable none [] children)
    else if hasTag data "thematic_break" then
      return some .thematicBreak
    else if hasTag data "block_html" then
      return some (.ofHtmlBlock data.raw blankBefore)
    else throw (.unsupportedBlock (data.tag.getD (.text "")))

/-- The items of a list; all but the first of a loose one have a blank line before them. -/
def readItems (tight first : Bool) : List Token → Reading (List Node)
  | [] => return []
  | .mk data children :: rest => do
    let task := hasTag data "task_list_item"
    if !task && !hasTag data "list_item" then
      throw (.unexpectedInList (data.tag.getD .null))
    let status ←
      if task then
        let attributes ← requireAttributes data
        pure (some (if attributes.checked then TaskStatus.checked else .unchecked))
      else pure none
    requireChildren data
    let blocks ← readBlocks true false children
    let items ← readItems tight false rest
    return .listItem blocks status (!tight && !first) :: items

end

end Token

end MarkdownCanon
