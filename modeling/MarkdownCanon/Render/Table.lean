import MarkdownCanon.Render.Monad

namespace MarkdownCanon.Render

def isRow : Node → Bool
  | .tableRow .. => true
  | _ => false

def alignmentOf : Node → Option Alignment
  | .tableCell _ alignment => alignment
  | _ => none

/-- Refuses a table without a header, or with anything but rows in it. -/
def checkRows (header : Option Node) (rows : List Node) : Except ShapeError Unit :=
  match header with
  | none => .error .noHeader
  | some header =>
    match (header :: rows).find? (!isRow ·) with
    | some other => .error (.notRow other.kind)
    | none => .ok ()

/-- Widens the columns for a row. -/
def measureRow (texts : List (List Char)) : Render Unit :=
  modify fun s => { s with grid := s.grid.measureRow texts }

/-- Writes a table from its texts, once all of them have been measured. -/
def writeTable (header : Node) (headerTexts : List (List Char))
    (bodyTexts : List (List (List Char))) : Render Unit := do
  modify fun s => { s with grid := s.grid.align (header.children.map alignmentOf) }
  let grid := (← get).grid
  write (grid.headerLine headerTexts)
  write ('\n' :: grid.delimiterLine)
  bodyTexts.forM fun texts => write ('\n' :: grid.bodyLine texts)
  record (Journal.note Log.debug .tables
    ("Rendered table with " ++ toString grid.widths.length ++ " columns and " ++
      toString bodyTexts.length ++ " body rows"))

/-- A table: `texts` prints its rows apart and measures them. Only one table is measured at a
time. -/
def table (header : Option Node) (rows : List Node)
    (texts : Render (List (List Char) × List (List (List Char)))) : Render Unit := do
  match checkRows header rows with
  | .error e => fail e
  | .ok () =>
    if (← get).grid.active then fail .nestedTable
    modify fun s => { s with grid := { s.grid with active := true } }
    ensuring
      (do
        let (headerTexts, bodyTexts) ← texts
        writeTable (header.getD .missing) headerTexts bodyTexts)
      (modify fun s => { s with grid := {} })

end MarkdownCanon.Render
