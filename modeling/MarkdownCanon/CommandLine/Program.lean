import MarkdownCanon.CommandLine.Arguments
import MarkdownCanon.CommandLine.Session
import MarkdownCanon.Version

/-! The program as a function of the world it is started in. -/

namespace MarkdownCanon.CommandLine

/-- What the program meets when it is started. `now` is the time that traced records start with,
and `help` the text that a command line can ask for. -/
structure World where
  parser : Parser
  gofmt : Gofmt := .missing
  disk : Disk := {}
  standardInput : List UInt8 := []
  now : String := ""
  help : String := ""

/-- What the program leaves when it has ended. -/
structure Outcome where
  code : Nat
  disk : Disk
  sent : List (Channel × String) := []
  journal : Journal := {}
  deriving Inhabited

def exitSuccess : Nat := 0

def exitError : Nat := 2

def usageText (message : String) : String :=
  "usage: mdfmt [flags] [path ...]\nmdfmt: error: " ++ message ++ "\n"

namespace World

/-- The end of a program whose command line is not carried out. -/
def leave (world : World) : Exit → Outcome
  | .help => ⟨exitSuccess, world.disk, [(.processOutput, world.help)], {}⟩
  | .version => ⟨exitSuccess, world.disk, [(.processOutput, "mdfmt " ++ version ++ "\n")], {}⟩
  | .usage e => ⟨exitError, world.disk, [(.processErrors, usageText e.message)], {}⟩

def job (world : World) (arguments : Arguments) (settings : RendererSettings) : Job :=
  { formatter := { parser := world.parser, request := { base := some settings } }
    list := arguments.list
    write := arguments.write
    diff := arguments.diff
    color := arguments.colorMode }

/-- Formats what the arguments name, or the standard input if they name nothing. -/
def processAll (world : World) (arguments : Arguments) (settings : RendererSettings) :
    Run Nat := do
  let job := world.job arguments settings
  if arguments.paths.isEmpty then job.processStandardInput world.standardInput
  else job.processPaths arguments.paths
  let failures := (← get).failures
  if failures == 0 then return exitSuccess
  else
    Run.record ⟨Log.debug, .program, toString failures ++ " path(s) failed"⟩
    return exitError

/-- Does what the arguments ask for and gives the exit code. -/
def perform (world : World) (arguments : Arguments) : Run Nat :=
  match arguments.settings world.gofmt with
  | .ok settings => world.processAll arguments settings
  | .error e => do
    Run.sendLine .errors ("mdfmt: " ++ e.message)
    return exitError

/-- Runs the program. It fails if any of the paths does, but goes through all of them; an error
that is none of a path ends it without an exit code. -/
def run (world : World) (words : List String) : Except PathError Outcome :=
  match Arguments.parse words with
  | .error exit => .ok (world.leave exit)
  | .ok arguments =>
    let (log, disk, records) :=
      Log.Setup.configure world.disk arguments.level arguments.logTo
        (if arguments.trace then some world.now else none)
    let main : Run Nat := do
      Run.recordAll records
      world.perform arguments
    match main { disk, log } with
    | .error e _ => .error e
    | .ok code s => .ok ⟨code, s.disk, s.sent, s.journal⟩

end World

end MarkdownCanon.CommandLine
