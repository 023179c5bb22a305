import MarkdownCanon.CommandLine.Declaration
import MarkdownCanon.Text.Decimal

/-! The words of a command line as options, options with values, and paths. Long options may be cut
short as long as only one of them is meant. -/

namespace MarkdownCanon.CommandLine

/-- What is wrong with a command line. -/
inductive UsageError where
  | ambiguous (word : String) (spellings : List String)
  | ignoredValue (declaration : Declaration) (value : String)
  | missingValue (declaration : Declaration)
  | notAChoice (declaration : Declaration) (value : String) (choices : List String)
  | unrecognized (words : List String)
  deriving DecidableEq, Repr

def UsageError.message : UsageError → String
  | .ambiguous word spellings =>
    "ambiguous option: " ++ word ++ " could match " ++ String.intercalate ", " spellings
  | .ignoredValue declaration value =>
    "argument " ++ declaration.name ++ ": ignored explicit argument " ++ Text.quoted value
  | .missingValue declaration => "argument " ++ declaration.name ++ ": expected one argument"
  | .notAChoice declaration value choices =>
    "argument " ++ declaration.name ++ ": invalid choice: " ++ Text.quoted value ++
      " (choose from " ++ String.intercalate ", " (choices.map Text.quoted) ++ ")"
  | .unrecognized words => "unrecognized arguments: " ++ String.intercalate " " words

/-- A word of the command line by what it is. An option may carry a value with it. -/
inductive Word where
  | option (spelling : String) (declaration : Declaration) (value : Option String)
  | unknown (text : String)
  | plain (text : String)
  | divider
  deriving DecidableEq, Repr, Inhabited

namespace Word

/-- A word cut in two at its first equals sign. -/
def splitValue? (cs : List Char) : Option (String × String) :=
  match cs.dropWhile (· != '=') with
  | _ :: value => some (String.ofList (cs.takeWhile (· != '=')), String.ofList value)
  | [] => none

/-- An option spelled out in full before an equals sign. -/
def withValue? (cs : List Char) : Option Word := do
  let (spelling, value) ← splitValue? cs
  let declaration ← Declaration.find? spelling
  return .option spelling declaration (some value)

/-- The options that a word starting with two dashes may be short for. -/
def longCandidates (text : String) : List Word :=
  let (start, value) :=
    match splitValue? text.toList with
    | some (start, value) => (start, some value)
    | none => (text, none)
  Declaration.spelled.filterMap fun (spelling, declaration) =>
    if start.toList.isPrefixOf spelling.toList then some (.option spelling declaration value)
    else none

/-- The options that a word starting with one dash may stand for: one of a single letter with the
rest of the word as its value, or one that starts like the word. -/
def shortCandidates (text : String) : List Word :=
  let letter := String.ofList (text.toList.take 2)
  Declaration.spelled.filterMap fun (spelling, declaration) =>
    if spelling == letter then
      some (.option spelling declaration (some (String.ofList (text.toList.drop 2))))
    else if text.toList.isPrefixOf spelling.toList then some (.option spelling declaration none)
    else none

def candidates (text : String) : List Word :=
  match text.toList with
  | _ :: '-' :: _ => longCandidates text
  | _ => shortCandidates text

def spelling? : Word → Option String
  | option spelling _ _ => some spelling
  | _ => none

/-- Tells what a word is. Negative numbers and words with a space in them are no options, unless
an option is spelled so. -/
def classify (text : String) : Except UsageError Word :=
  match text.toList with
  | '-' :: second :: rest =>
    let cs := '-' :: second :: rest
    match Declaration.find? text, withValue? cs with
    | some declaration, _ => .ok (.option text declaration none)
    | none, some word => .ok word
    | none, none =>
      match candidates text with
      | [word] => .ok word
      | [] =>
        if Text.isNegativeNumber cs || cs.contains ' ' then .ok (.plain text)
        else .ok (.unknown text)
      | words => .error (.ambiguous text (words.filterMap spelling?))
  | _ => .ok (.plain text)

/-- The words of a command line. Behind a divider there are no options. -/
def classifyAll : List String → Except UsageError (List Word)
  | [] => .ok []
  | text :: rest =>
    if text == "--" then .ok (.divider :: rest.map .plain)
    else do
      let word ← classify text
      let words ← classifyAll rest
      return word :: words

end Word

end MarkdownCanon.CommandLine
