import MarkdownCanon.Diff.Console
import MarkdownCanon.Log.Record
import MarkdownCanon.Settings.Renderer

namespace MarkdownCanon.CommandLine

/-- Options that are on or off. -/
inductive Switch where
  | list
  | write
  | diff
  | underlineHeadings
  | softWraps
  | gofmt
  | trace
  deriving DecidableEq, Repr, Inhabited

/-- Options that take a value. -/
inductive Setting where
  | color
  | listIndentStyle
  | emphasisToken
  | strongToken
  | logLevel
  | logFile
  deriving DecidableEq, Repr, Inhabited

inductive Action where
  | help
  | version
  | switch (switch : Switch)
  | setting (setting : Setting)
  deriving DecidableEq, Repr, Inhabited

/-- An option with all its spellings. -/
structure Declaration where
  spellings : List String
  action : Action
  deriving DecidableEq, Repr, Inhabited

namespace Declaration

/-- An option as messages name it. -/
def name (declaration : Declaration) : String := String.intercalate "/" declaration.spellings

def takesValue (declaration : Declaration) : Bool :=
  match declaration.action with
  | .setting _ => true
  | _ => false

def all : List Declaration :=
  [⟨["-h", "--help"], .help⟩,
   ⟨["-l", "--list"], .switch .list⟩,
   ⟨["-w", "--write"], .switch .write⟩,
   ⟨["-d", "--diff"], .switch .diff⟩,
   ⟨["--color"], .setting .color⟩,
   ⟨["-u", "--underline-headings"], .switch .underlineHeadings⟩,
   ⟨["--soft-wraps"], .switch .softWraps⟩,
   ⟨["--gofmt"], .switch .gofmt⟩,
   ⟨["--list-indent-style"], .setting .listIndentStyle⟩,
   ⟨["--emphasis-token"], .setting .emphasisToken⟩,
   ⟨["--strong-token"], .setting .strongToken⟩,
   ⟨["--log-level"], .setting .logLevel⟩,
   ⟨["--log-file"], .setting .logFile⟩,
   ⟨["--trace"], .switch .trace⟩,
   ⟨["--version", "-V"], .version⟩]

/-- Every spelling with its option, in the order of the declarations. -/
def spelled : List (String × Declaration) :=
  all.flatMap fun declaration => declaration.spellings.map (·, declaration)

def find? (spelling : String) : Option Declaration := spelled.lookup spelling

end Declaration

/-- The levels that the log can be set to. -/
def logLevels : List (String × Int) :=
  [Log.debug, Log.info, Log.warning, Log.error, Log.critical].map fun level =>
    (Log.levelName level, level)

end MarkdownCanon.CommandLine
