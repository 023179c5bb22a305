import MarkdownCanon.CodeFormatter.Gofmt
import MarkdownCanon.CommandLine.Word
import MarkdownCanon.Text.Case

/-! What the words of a command line ask for, taken in from the left. -/

namespace MarkdownCanon.CommandLine

/-- What a command line asks for. `emptied` lists the options whose value was a divider: dividers
are taken out of values, and what is left is no value of any kind. -/
structure Arguments where
  paths : List String := []
  list : Bool := false
  write : Bool := false
  diff : Bool := false
  color : Diff.ColorMode := .auto
  underlineHeadings : Bool := false
  softWraps : Bool := false
  gofmt : Bool := false
  listIndent : ListIndent := .aligned
  emphasis : Delimiter := .star
  strong : Option Delimiter := none
  logLevel : Int := Log.warning
  logFile : Option String := none
  trace : Bool := false
  emptied : List Setting := []
  deriving DecidableEq, Repr, Inhabited

/-- Why a command line is not carried out. -/
inductive Exit where
  | help
  | version
  | usage (e : UsageError)
  deriving DecidableEq, Repr

namespace Arguments

def turnOn (arguments : Arguments) : Switch → Arguments
  | .list => { arguments with list := true }
  | .write => { arguments with write := true }
  | .diff => { arguments with diff := true }
  | .underlineHeadings => { arguments with underlineHeadings := true }
  | .softWraps => { arguments with softWraps := true }
  | .gofmt => { arguments with gofmt := true }
  | .trace => { arguments with trace := true }

/-- The choice that a word stands for. -/
def choose (declaration : Declaration) (words : List (String × α)) (value : String) :
    Except Exit α :=
  match words.lookup value with
  | some choice => .ok choice
  | none => .error (.usage (.notAChoice declaration value (words.map (·.1))))

/-- Takes in the value of an option. The level of the log may be written in any case. -/
def choice (arguments : Arguments) (declaration : Declaration) (value : String) :
    Setting → Except Exit Arguments
  | .color => do return { arguments with color := ← choose declaration Diff.ColorMode.all value }
  | .listIndentStyle => do
    return { arguments with listIndent := ← choose declaration ListIndent.all value }
  | .emphasisToken => do
    return { arguments with emphasis := ← choose declaration Delimiter.all value }
  | .strongToken => do
    return { arguments with strong := some (← choose declaration Delimiter.allDoubled value) }
  | .logLevel => do
    let value := String.ofList (Text.upper value.toList)
    return { arguments with logLevel := ← choose declaration logLevels value }
  | .logFile => .ok { arguments with logFile := some value }

/-- The last value of an option counts, also if it was taken out. -/
def set (arguments : Arguments) (declaration : Declaration) (setting : Setting) (value : String) :
    Except Exit Arguments :=
  let others := arguments.emptied.filter (· != setting)
  if value == "--" then .ok { arguments with emptied := others ++ [setting] }
  else { arguments with emptied := others }.choice declaration value setting

/-- Carries out an option that stands without a value. -/
def apply (arguments : Arguments) (declaration : Declaration) : Except Exit Arguments :=
  match declaration.action with
  | .help => .error .help
  | .version => .error .version
  | .switch switch => .ok (arguments.turnOn switch)
  | .setting _ => .error (.usage (.missingValue declaration))

def applyAll (arguments : Arguments) : List Declaration → Except Exit Arguments
  | [] => .ok arguments
  | declaration :: rest => do
    let arguments ← arguments.apply declaration
    arguments.applyAll rest

/-- The options of single letters that are written as one word, from the first on. -/
def cluster (first : Declaration) : List Char → Except Exit (List Declaration)
  | [] => .ok [first]
  | letter :: rest =>
    match Declaration.find? (String.ofList ['-', letter]) with
    | some next => do return first :: (← cluster next rest)
    | none => .error (.usage (.ignoredValue first (String.ofList (letter :: rest))))

def isLong (spelling : String) : Bool := spelling.toList.take 2 == ['-', '-']

/-- Carries out an option that carries a value with it. -/
def applyWith (arguments : Arguments) (spelling : String) (declaration : Declaration)
    (value : String) : Except Exit Arguments :=
  match declaration.action with
  | .setting setting => arguments.set declaration setting value
  | _ =>
    if isLong spelling || value.isEmpty then
      .error (.usage (.ignoredValue declaration value))
    else do
      let declarations ← cluster declaration value.toList
      arguments.applyAll declarations

end Arguments

/-- Paths are taken from the first group of values only. -/
inductive PathStage where
  | before
  | within
  | after
  deriving DecidableEq, Repr, Inhabited

/-- How far a command line has been read. `extra` collects what nothing takes. -/
structure Progress where
  arguments : Arguments := {}
  stage : PathStage := .before
  extra : List String := []
  deriving Inhabited

namespace Progress

/-- Takes a path, or passes a divider in front of one, if paths are still taken. -/
def take (progress : Progress) (shown : String) (paths : List String) : Progress :=
  match progress.stage with
  | .after => { progress with extra := progress.extra ++ [shown] }
  | _ =>
    { progress with
      stage := .within
      arguments :=
        { progress.arguments with paths := progress.arguments.paths ++ paths } }

/-- An option ends the group of values before it. -/
def leaveGroup (progress : Progress) : Progress :=
  { progress with stage := if progress.stage == .before then .before else .after }

def read (progress : Progress) : List Word → Except Exit Progress
  | [] => .ok progress
  | .plain text :: rest => (progress.take text [text]).read rest
  | .divider :: rest => (progress.take "--" []).read rest
  | .unknown text :: rest =>
    let progress := progress.leaveGroup
    { progress with extra := progress.extra ++ [text] }.read rest
  | .option spelling declaration (some value) :: rest => do
    let progress := progress.leaveGroup
    let arguments ← progress.arguments.applyWith spelling declaration value
    { progress with arguments }.read rest
  | .option _ declaration none :: rest =>
    let progress := progress.leaveGroup
    match declaration.action, rest with
    | .setting setting, .plain value :: rest => do
      let arguments ← progress.arguments.set declaration setting value
      { progress with arguments }.read rest
    | _, rest => do
      let arguments ← progress.arguments.apply declaration
      { progress with arguments }.read rest

end Progress

namespace Arguments

/-- Reads a command line. All words are told apart before any of them is carried out. -/
def parse (words : List String) : Except Exit Arguments :=
  match Word.classifyAll words with
  | .error e => .error (.usage e)
  | .ok words => do
    let progress ← ({} : Progress).read words
    if progress.extra.isEmpty then return progress.arguments
    else .error (.usage (.unrecognized progress.extra))

def isEmptied (arguments : Arguments) (setting : Setting) : Bool :=
  arguments.emptied.contains setting

/-- The renderer option that an option of the command line sets. -/
def optionName? : Setting → Option String
  | .emphasisToken => some "emphasis_token"
  | .strongToken => some "strong_token"
  | .listIndentStyle => some "list_indent_style"
  | _ => none

/-- The settings that a command line asks for. Code is left alone unless it asks otherwise. -/
def settings (arguments : Arguments) (gofmt : Gofmt) : Except OptionError RendererSettings :=
  let chosen : RendererSettings :=
    { headingStyle := if arguments.underlineHeadings then .setext else .atx
      softWraps := if arguments.softWraps then .preserve else .collapse
      emphasis := arguments.emphasis
      strong := arguments.strong
      listIndent := arguments.listIndent
      formatters := if arguments.gofmt then gofmt.defaultFormatters else [] }
  chosen.override ((arguments.emptied.filterMap optionName?).map (·, .plain (.list [])))

def colorMode (arguments : Arguments) : Diff.ColorMode :=
  if arguments.isEmptied .color then .auto else arguments.color

def level (arguments : Arguments) : Value :=
  if arguments.isEmptied .logLevel then .list [] else .int arguments.logLevel

def logTo (arguments : Arguments) : Option String :=
  if arguments.isEmptied .logFile then none else arguments.logFile

end Arguments

end MarkdownCanon.CommandLine
