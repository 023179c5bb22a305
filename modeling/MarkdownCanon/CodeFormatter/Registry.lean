import MarkdownCanon.CodeFormatter.Basic

/-! Formatters by the name of their language, in the order that the names came in. -/

namespace MarkdownCanon

inductive RegistryError where
  | invalidName (name : String)
  | notCallable (name : String)
  deriving DecidableEq, Repr

def RegistryError.message : RegistryError → String
  | .invalidName name => "Formatter name must be a non-empty word, got " ++ Text.quoted name
  | .notCallable name => "Formatter for " ++ Text.quoted name ++ " must be callable"

/-- A collection of formatters that options are built from. What it starts with is not checked. -/
structure Registry where
  entries : FormatterMap := []

namespace Registry

def register (registry : Registry) (name : String) (formatter : CodeFormatter) :
    Except RegistryError Registry :=
  if name.isEmpty || name != Text.strip name then .error (.invalidName name)
  else if formatter.callable then .ok ⟨registry.entries.insert name formatter⟩
  else .error (.notCallable name)

def unregister (registry : Registry) (name : String) : Registry :=
  ⟨registry.entries.filter (·.1 != name)⟩

/-- Registers entries in turn up to the first that is refused; those before it stay. -/
def update (registry : Registry) : FormatterMap → Registry × Option RegistryError
  | [] => (registry, none)
  | (name, formatter) :: rest =>
    match registry.register name formatter with
    | .ok registry => registry.update rest
    | .error e => (registry, some e)

def get? (registry : Registry) (name : String) : Option CodeFormatter :=
  registry.entries.lookup name

def names (registry : Registry) : List String := registry.entries.map (·.1)

end Registry

end MarkdownCanon
