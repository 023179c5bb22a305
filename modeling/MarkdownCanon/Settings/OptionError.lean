import MarkdownCanon.FieldNames
import MarkdownCanon.Problem

namespace MarkdownCanon

/-- Why options are refused. -/
inductive OptionError where
  | notAChoice (option : String) (value : Value) (choices : List Value)
  | notAnInteger (option : String) (value : Value)
  | widthOutOfRange (width : Int)
  | formatterNotCallable (language : String)
  | unknownOptions (first : String) (value : Value) (names known : List String)
  | wrongSettings (expected given : String)
  | field (e : FieldError)
  | unknownField (name : String)
  | frozenField (name : String)
  deriving Repr

namespace OptionError

def widthOption : String := "uniform_indent_width"

/-- The report on refused options; naming an option that is not there, or assigning one, is a
mistake of the caller and has none. -/
def problem? : OptionError → Option Problem
  | notAChoice option value choices => some (.invalidOption option value none choices)
  | notAnInteger option value => some (.invalidOption option value none [])
  | widthOutOfRange width =>
    some (.invalidOption widthOption (.int width)
      (some (widthOption ++ " must be between 1 and 8, got " ++ toString width)) [])
  | formatterNotCallable language =>
    some (.invalidOption "code_formatters" .null
      (some ("Code formatter for " ++ Text.quoted language ++ " is not callable")) [])
  | unknownOptions first value names known =>
    some (.invalidOption first value
      (some ("Unknown renderer option(s): " ++ String.intercalate ", " names))
      (known.map Value.text))
  | wrongSettings expected given =>
    some (.invalidOption "options" (.text given)
      (some ("markdown expected " ++ expected ++ " options, got " ++ given)) [])
  | field _ | unknownField _ | frozenField _ => none

def message (e : OptionError) : String :=
  match e with
  | field e => e.message
  | unknownField name => Text.quoted name
  | frozenField name => "cannot assign to field " ++ Text.quoted name
  | e => (e.problem?.map Problem.message).getD ""

end OptionError

/-- Refuses names that are no options of the settings. -/
def checkNames (options : FieldNames) (given : List String) : Except OptionError Unit :=
  (options.check given).mapError .field

/-- Refuses a value that is none of the choices. -/
def checkChoice (option : String) (value : Value) (choices : List Value) :
    Except OptionError Unit :=
  if choices.any (Value.same · value) then .ok () else .error (.notAChoice option value choices)

end MarkdownCanon
