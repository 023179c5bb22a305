import MarkdownCanon.Settings.OptionError

namespace MarkdownCanon

/-- The extensions of Markdown that are read. Values of any kind are taken, and those that count as
true switch an extension on. -/
structure ReaderSettings where
  tables : Value := .bool true
  strikethrough : Value := .bool true
  taskLists : Value := .bool true
  deriving Repr, Inhabited

/-- An extension as the parser knows it; tables in quotes and in lists are separate ones. -/
inductive Extension where
  | strikethrough
  | table
  | tableInQuote
  | tableInList
  | taskLists
  deriving DecidableEq, Repr, Inhabited

namespace ReaderSettings

def options : FieldNames :=
  { title := "MarkdownParserOptions"
    optional := ["parse_tables", "parse_strikethrough", "parse_task_lists"] }

/-- Settings with some options replaced. -/
def override (base : ReaderSettings) (overrides : List (String × Value)) :
    Except OptionError ReaderSettings := do
  checkNames options (overrides.map (·.1))
  let pick (option : String) (kept : Value) : Value := (overrides.lookup option).getD kept
  return { tables := pick "parse_tables" base.tables
           strikethrough := pick "parse_strikethrough" base.strikethrough
           taskLists := pick "parse_task_lists" base.taskLists }

def same (a b : ReaderSettings) : Bool :=
  a.tables.same b.tables && a.strikethrough.same b.strikethrough && a.taskLists.same b.taskLists

def extensions (settings : ReaderSettings) : List Extension :=
  (if settings.strikethrough.truthy then [.strikethrough] else []) ++
    (if settings.tables.truthy then [.table, .tableInQuote, .tableInList] else []) ++
    (if settings.taskLists.truthy then [.taskLists] else [])

end ReaderSettings

end MarkdownCanon
