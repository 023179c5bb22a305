import MarkdownCanon.Document.Absence
import MarkdownCanon.Journal
import MarkdownCanon.Text.Blank
import MarkdownCanon.Text.Literal

/-! Formatters for the code in fenced blocks. One that fails leaves the code as it is. -/

namespace MarkdownCanon

/-- What a code formatter makes of a code: new code, something that is no text, or a failure. -/
inductive FormatterReply where
  | code (text : String)
  | other (kind : String)
  | failed (reason : String)
  deriving DecidableEq, Repr, Inhabited

/-- A formatter for the code of fenced blocks. `trace` is what one run leaves in the journal, and
`withoutCode` the reply on a block that has no text. What is offered as a formatter may turn out not
to be `callable`. -/
structure CodeFormatter where
  name : String
  callable : Bool := true
  run : String → FormatterReply
  trace : String → Journal := fun _ => {}
  withoutCode : FormatterReply := .other Absence.kindName

/-- Formatters by language, in the order of their registration. -/
abbrev FormatterMap := List (String × CodeFormatter)

namespace FormatterMap

/-- Puts a formatter under a name: in place of the one that had it, or behind all others. -/
def insert (formatters : FormatterMap) (name : String) (formatter : CodeFormatter) :
    FormatterMap :=
  match formatters with
  | [] => [(name, formatter)]
  | (other, f) :: rest =>
    if other == name then (name, formatter) :: rest
    else (other, f) :: insert rest name formatter

/-- The map of some entries. The last entry of a name counts, at the place of the first. -/
def ofList (entries : List (String × CodeFormatter)) : FormatterMap :=
  entries.foldl (fun formatters (name, formatter) => formatters.insert name formatter) []

end FormatterMap

namespace CodeFormatter

/-- Stands for a formatter that cannot be called; on any code it fails. -/
def uncallable (name kind : String) : CodeFormatter :=
  let reply := .failed ("'" ++ kind ++ "' object is not callable")
  { name, callable := false, run := fun _ => reply, withoutCode := reply }

/-- The language an info string names: its first word, without one leading full stop. -/
def languageOf (info : String) : String :=
  let cs := Text.trim Text.isBlank info.toList
  let word := match cs with
    | '.' :: rest => rest
    | cs => cs
  String.ofList ((Text.firstWord? word).getD [])

def find? (formatters : FormatterMap) (info : String) : Option CodeFormatter :=
  let language := languageOf info
  if language.isEmpty then none else formatters.lookup language

/-- Ends a non-empty text with a line end. -/
def endLine (text : String) : String :=
  if text.isEmpty || text.toList.getLast? == some '\n' then text else text ++ "\n"

/-- The code that a reply gives, if it does. -/
def replyCode? : FormatterReply → Option String
  | .code text => some (endLine text)
  | .other _ | .failed _ => none

/-- The remark on a reply that gives no code. -/
def replyTrace (info : String) (reply : FormatterReply) : Journal :=
  let language := Text.quoted (languageOf info)
  match reply with
  | .code _ => {}
  | .other kind =>
    Journal.note Log.warning .formatting
      ("Code formatter for " ++ language ++ " returned " ++ kind ++
        ", keeping original code block")
  | .failed reason =>
    Journal.note Log.warning .formatting
      ("Code formatter for " ++ language ++ " failed, keeping original code block: " ++ reason)

/-- The code of a block after the formatter for its info string, if there is one. Code that the
formatter refuses is kept as it is. -/
def apply (formatters : FormatterMap) (info code : String) : String :=
  match find? formatters info with
  | none => code
  | some formatter => (replyCode? (formatter.run code)).getD code

/-- What `apply` leaves in the journal. -/
def applyTrace (formatters : FormatterMap) (info code : String) : Journal :=
  match find? formatters info with
  | none => {}
  | some formatter => formatter.trace code ++ replyTrace info (formatter.run code)

end CodeFormatter

end MarkdownCanon
