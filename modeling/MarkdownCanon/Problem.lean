import MarkdownCanon.FieldNames
import MarkdownCanon.Value

/-! Errors as they are reported, with the kinds that they belong to. -/

namespace MarkdownCanon

/-- A failure as callers see it. Every kind carries what a caller may want to inspect; `cause` is
the text of the error behind it. -/
inductive Problem where
  | general (message : String) (cause : Option String)
  | validation (message : String) (parameter : Option String) (value : Value)
      (cause : Option String)
  | invalidOption (option : String) (value : Value) (message : Option String)
      (choices : List Value)
  | file (message : String) (path : Option String) (cause : Option String)
  | fileAccess (path : String) (message : Option String) (cause : Option String)
  | parsing (message : String) (stage : Option String) (cause : Option String)
  | rendering (message : String) (stage : Option String) (cause : Option String)
  | outputWrite (path : String) (message : Option String) (cause : Option String)
  deriving Repr, Inhabited

namespace Problem

/-- The kinds of problem; each but `general` is a case of a wider one. -/
inductive Kind where
  | general
  | validation
  | invalidOption
  | file
  | fileAccess
  | parsing
  | rendering
  | outputWrite
  deriving DecidableEq, Repr

def Kind.parent? : Kind → Option Kind
  | .general => none
  | .validation | .file | .parsing | .rendering => some .general
  | .invalidOption => some .validation
  | .fileAccess => some .file
  | .outputWrite => some .rendering

/-- The wider kinds, nearest first. No kind is more than two steps below `general`. -/
def Kind.ancestors (kind : Kind) : List Kind :=
  match kind.parent? with
  | none => []
  | some parent => parent :: parent.parent?.toList

/-- What messages call a kind. -/
def Kind.title : Kind → String
  | .general => "MdfmtError"
  | .validation => "ValidationError"
  | .invalidOption => "InvalidOptionsError"
  | .file => "FileError"
  | .fileAccess => "FileAccessError"
  | .parsing => "ParsingError"
  | .rendering => "RenderingError"
  | .outputWrite => "OutputWriteError"

def Kind.all : List Kind :=
  [.general, .validation, .invalidOption, .file, .fileAccess, .parsing, .rendering, .outputWrite]

/-- The fields that a problem of a kind is made from. -/
def Kind.fields (kind : Kind) : FieldNames :=
  let (required, optional) :=
    match kind with
    | .general => (["message"], ["original_error"])
    | .validation => (["message"], ["parameter_name", "parameter_value", "original_error"])
    | .invalidOption => (["option_name", "option_value"], ["message", "choices"])
    | .file => (["message"], ["file_path", "original_error"])
    | .parsing => (["message"], ["parsing_stage", "original_error"])
    | .rendering => (["message"], ["rendering_stage", "original_error"])
    | .fileAccess | .outputWrite => (["file_path"], ["message", "original_error"])
  { title := kind.title, required, optional }

/-- A problem from its fields. -/
def ofFields (kind : Kind) (given : List (String × Value)) : Except FieldError Problem := do
  kind.fields.check (given.map (·.1))
  let value (name : String) : Value := (given.lookup name).getD .null
  let text? (name : String) : Option String := (value name).text?
  let text (name : String) : String := (text? name).getD ""
  let cause := text? "original_error"
  return match kind with
    | .general => general (text "message") cause
    | .validation =>
      validation (text "message") (text? "parameter_name") (value "parameter_value") cause
    | .invalidOption =>
      invalidOption (text "option_name") (value "option_value") (text? "message")
        (value "choices").items
    | .file => file (text "message") (text? "file_path") cause
    | .fileAccess => fileAccess (text "file_path") (text? "message") cause
    | .parsing => parsing (text "message") (text? "parsing_stage") cause
    | .rendering => rendering (text "message") (text? "rendering_stage") cause
    | .outputWrite => outputWrite (text "file_path") (text? "message") cause

def kind : Problem → Kind
  | general .. => .general
  | validation .. => .validation
  | invalidOption .. => .invalidOption
  | file .. => .file
  | fileAccess .. => .fileAccess
  | parsing .. => .parsing
  | rendering .. => .rendering
  | outputWrite .. => .outputWrite

/-- The message of a rejected option when none is given: its value, and what was expected. -/
def optionMessage (option : String) (value : Value) (choices : List Value) : String :=
  "Invalid value for option '" ++ option ++ "': " ++ value.literal ++
    (if choices.isEmpty then ""
     else " (expected one of: " ++ String.intercalate ", " (choices.map Value.literal) ++ ")")

def message : Problem → String
  | general message _ | validation message _ _ _ | file message _ _ => message
  | parsing message _ _ | rendering message _ _ => message
  | invalidOption option value message choices =>
    message.getD (optionMessage option value choices)
  | fileAccess path message _ => message.getD ("Cannot access file: " ++ path)
  | outputWrite path message _ => message.getD ("Failed to write output to: " ++ path)

def cause : Problem → Option String
  | general _ cause | validation _ _ _ cause | file _ _ cause | fileAccess _ _ cause => cause
  | parsing _ _ cause | rendering _ _ cause | outputWrite _ _ cause => cause
  | invalidOption .. => none

end Problem

end MarkdownCanon
