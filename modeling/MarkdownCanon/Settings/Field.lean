import MarkdownCanon.Settings.Reader
import MarkdownCanon.Settings.Renderer

namespace MarkdownCanon

/-- What is said about an option: a line of help, its choices, the type of its value, and the
flag that turns it off. -/
structure Field where
  name : String
  help : String
  choices : List String := []
  type : Option String := none
  flag : Option String := none
  deriving DecidableEq, Repr, Inhabited

namespace Field

def words (choices : List (String × α)) : List String := choices.map (·.1)

def renderer : List Field :=
  [{ name := "heading_style", help := "Heading style for levels 1-2"
     choices := words HeadingStyle.all },
   { name := "soft_wraps", help := "Soft line break handling", choices := words SoftWraps.all },
   { name := "emphasis_token", help := "Delimiter to use for emphasis"
     choices := words Delimiter.all },
   { name := "strong_token"
     help := "Delimiter to use for strong emphasis (default: emphasis token doubled)"
     choices := words Delimiter.allDoubled },
   { name := "list_indent_style", help := "Indentation convention for list item children"
     choices := words ListIndent.all },
   { name := OptionError.widthOption, help := "Child indentation width for the uniform list style"
     type := some "int" },
   { name := "code_formatters"
     help := "Language name to code formatter map for fenced code blocks" }]

def reader : List Field :=
  [{ name := "parse_tables", help := "Parse table syntax (GFM pipe tables)"
     flag := some "no-parse-tables" },
   { name := "parse_strikethrough", help := "Parse strikethrough syntax (~~text~~)"
     flag := some "no-parse-strikethrough" },
   { name := "parse_task_lists", help := "Parse task list checkboxes (- [ ] and - [x])"
     flag := some "no-parse-task-lists" }]

/-- The line of help for a renderer option. -/
def helpFor (name : String) : Except OptionError String :=
  match renderer.find? (·.name == name) with
  | some field => .ok field.help
  | none => .error (.unknownField name)

end Field

/-- Settings of either side, where the wrong ones may be handed over. -/
inductive AnySettings where
  | reader (settings : ReaderSettings)
  | renderer (settings : RendererSettings)

namespace AnySettings

def name : AnySettings → String
  | reader _ => ReaderSettings.options.title
  | renderer _ => RendererSettings.options.title

def asReader : AnySettings → Except OptionError ReaderSettings
  | reader settings => .ok settings
  | given => .error (.wrongSettings ReaderSettings.options.title given.name)

def asRenderer : AnySettings → Except OptionError RendererSettings
  | renderer settings => .ok settings
  | given => .error (.wrongSettings RendererSettings.options.title given.name)

end AnySettings

namespace RendererSettings

/-- Settings from a base, if there is one, and named options; a name that no option has is
refused before any value is looked at. -/
def resolve (defaults : RendererSettings) (base : Option RendererSettings) (overrides : Overrides) :
    Except OptionError RendererSettings :=
  let known := options.optional.mergeSort (· ≤ ·)
  let unknown :=
    ((overrides.map (·.1)).filter fun name => !known.contains name).mergeSort (· ≤ ·)
  match unknown with
  | first :: _ =>
    let value := ((overrides.lookup first).map OptionValue.toValue).getD .null
    .error (.unknownOptions first value unknown known)
  | [] => (base.getD defaults).override overrides

end RendererSettings

end MarkdownCanon
