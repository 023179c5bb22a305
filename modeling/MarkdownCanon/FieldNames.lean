/-! The names of the fields that something is made from: some have to be given, and no others may
be. -/

namespace MarkdownCanon

/-- Fields by name. `title` is what messages call the thing that they make up. -/
structure FieldNames where
  title : String
  required : List String := []
  optional : List String := []
  deriving DecidableEq, Repr, Inhabited

/-- Why the fields that are given do not make it up. -/
inductive FieldError where
  | unexpected (title name : String)
  | missing (title : String) (names : List String)
  deriving DecidableEq, Repr

namespace FieldError

/-- Names in quotes, with a word before the last one. -/
def listed (names : List String) : String :=
  match names.map fun name => "'" ++ name ++ "'" with
  | [] => ""
  | [only] => only
  | [first, second] => first ++ " and " ++ second
  | quoted => String.intercalate ", " quoted.dropLast ++ ", and " ++ quoted.getLastD ""

def message : FieldError → String
  | unexpected title name =>
    title ++ ".__init__() got an unexpected keyword argument '" ++ name ++ "'"
  | missing title names =>
    title ++ ".__init__() missing " ++ toString names.length ++ " required positional argument" ++
      (if names.length == 1 then "" else "s") ++ ": " ++ listed names

end FieldError

namespace FieldNames

/-- Refuses the first name that is none of the fields. -/
def checkKnown (fields : FieldNames) (given : List String) : Except FieldError Unit :=
  match given.find? (!(fields.required ++ fields.optional).contains ·) with
  | some name => .error (.unexpected fields.title name)
  | none => .ok ()

/-- Refuses names that lack a field which has to be there. -/
def checkComplete (fields : FieldNames) (given : List String) : Except FieldError Unit :=
  match fields.required.filter (!given.contains ·) with
  | [] => .ok ()
  | names => .error (.missing fields.title names)

def check (fields : FieldNames) (given : List String) : Except FieldError Unit := do
  fields.checkKnown given
  fields.checkComplete given

end FieldNames

end MarkdownCanon
