import MarkdownCanon.Diff.Console
import MarkdownCanon.Diff.Unified
import MarkdownCanon.Files.Discovery
import MarkdownCanon.Formatting.Format
import MarkdownCanon.Log.Setup

/-! One run over many documents. An error on one path is reported and counted, and does not keep the
others from being formatted. -/

namespace MarkdownCanon.CommandLine

/-- Where text goes: to the streams that a caller hands over, or to those of the process. -/
inductive Channel where
  | output
  | errors
  | processOutput
  | processErrors
  deriving DecidableEq, Repr, Inhabited

/-- What a run has done so far. `sent` has the oldest text first; `opened` has the documents that
were opened for writing, whether or not that went well. -/
structure Session where
  disk : Disk := {}
  log : Log.Setup := {}
  sent : List (Channel × String) := []
  opened : List Path := []
  journal : Journal := {}
  failures : Nat := 0
  deriving Inhabited

/-- Why one path is given up. -/
inductive PathError where
  | failure (e : Failure)
  | notWritten (path : String) (e : OsError)
  | notListed (path : String) (e : OsError)
  | writesToStandardInput
  deriving Repr

namespace PathError

/-- The text of an error that the run goes on after; any other ends the run. -/
def report? : PathError → Option String
  | failure e => e.problem?.map Problem.message
  | notWritten _ e => some e.message
  | notListed _ e => some e.message
  | writesToStandardInput => some "cannot use -w with standard input"

/-- The text of any error, also of one that ends the run. -/
def message : PathError → String
  | failure e => e.message
  | e => e.report?.getD ""

/-- The report on a folder that cannot be listed, or on a file that cannot be written. -/
def problem? : PathError → Option Problem
  | failure e => e.problem?
  | notWritten path e => some (.outputWrite path (some e.message) (some (e.report path)))
  | notListed path e => some (.fileAccess path (some e.message) (some (e.report path)))
  | writesToStandardInput => none

end PathError

/-- A step of a run. What was done stays done after an error. -/
abbrev Run := EStateM PathError Session

namespace Run

def send (channel : Channel) (text : String) : Run Unit :=
  modify fun s => { s with sent := s.sent ++ [(channel, text)] }

def sendLine (channel : Channel) (line : String) : Run Unit := send channel (line ++ "\n")

/-- Notes a record, and writes it if the log is set up to. -/
def record (entry : Log.Record) : Run Unit :=
  modify fun s =>
    let (line, disk) := s.log.write s.disk entry
    { s with
      disk
      sent := if line.isEmpty then s.sent else s.sent ++ [(.processErrors, line)]
      journal := s.journal ++ { records := [entry] } }

def recordAll : List Log.Record → Run Unit
  | [] => return
  | entry :: rest => do
    record entry
    recordAll rest

/-- Takes in what a step of formatting left behind. -/
def absorb (journal : Journal) : Run Unit := do
  recordAll journal.records
  modify fun s => { s with journal := s.journal ++ { gofmtInputs := journal.gofmtInputs } }

def ofFormatting (step : Formatting α) : Run α :=
  match step {} with
  | .ok a journal => do
    absorb journal
    return a
  | .error e journal => do
    absorb journal
    throw (.failure e)

/-- Reports an error on a path, unless it is one that ends the run. -/
def report (label : String) (e : PathError) : Run Unit :=
  match e.report? with
  | none => throw e
  | some message => do
    sendLine .errors (label ++ ": " ++ message)
    record ⟨Log.debug, .files, "Failed to process " ++ label⟩
    modify fun s => { s with failures := s.failures + 1 }

def guarded (label : String) (step : Run Unit) : Run Unit := tryCatch step (report label)

end Run

/-- What is done with every document of a run. -/
structure Job where
  formatter : Formatter
  list : Bool := false
  write : Bool := false
  diff : Bool := false
  color : Diff.ColorMode := .auto

namespace Job

def standardInput : String := "<standard input>"

def replaceFile (path : Path) (contents : List UInt8) : Run Unit := do
  modify fun s => { s with opened := s.opened ++ [path] }
  match (← get).disk.write path contents with
  | .ok disk => modify fun s => { s with disk }
  | .error e => throw (.notWritten path.text e)

def showDiff (job : Job) (label old new : String) : Run Unit := do
  Run.sendLine .errors ("diff " ++ label ++ " mdfmt/" ++ label)
  let lines := (Diff.unified old new label Diff.defaultContext).map Diff.Line.text
  Run.send .output (Diff.print job.color lines)

def textOf (bytes : List UInt8) : String :=
  match Text.Utf8.decode bytes with
  | .ok cs => String.ofList cs
  | .error _ => ""

/-- What the job asks to be done with a document that is not in canonical form. -/
def onChange (job : Job) (label : String) (path : Option Path) (old new : String) : Run Unit := do
  Run.record ⟨Log.info, .files, label ++ " needs formatting"⟩
  if job.list then Run.sendLine .output label
  match job.write, path with
  | true, some path => replaceFile path (Formatter.encoded new)
  | _, _ => pure ()
  if job.diff then job.showDiff label old new

/-- Formats a document. Its canonical form is printed if nothing else is asked for. -/
def processSource (job : Job) (label : String) (path : Option Path) (bytes : List UInt8) :
    Run Unit := do
  let formatted ← Run.ofFormatting (job.formatter.format (.bytes bytes))
  if Formatter.encoded formatted != bytes then
    job.onChange label path (textOf bytes) formatted
  if !(job.list || job.write || job.diff) then Run.send .output formatted

def processFile (job : Job) (path : Path) : Run Unit :=
  Run.guarded path.text do
    match (← get).disk.read path with
    | .error e => throw (.failure (.reading (.unreadable path.text e)))
    | .ok bytes => job.processSource path.text (some path) bytes

def processFiles (job : Job) : List Path → Run Unit
  | [] => return
  | path :: rest => do
    job.processFile path
    job.processFiles rest

def processStandardInput (job : Job) (bytes : List UInt8) : Run Unit :=
  Run.guarded standardInput do
    if job.write then throw .writesToStandardInput
    job.processSource standardInput none bytes

/-- Formats a file, or every Markdown file below a folder. -/
def processPath (job : Job) (given : String) : Run Unit := do
  let path := Path.ofText given
  let disk := (← get).disk
  if disk.isFolder path then
    let (found, stop) := disk.discover path
    job.processFiles found
    match stop with
    | some (folder, e) => Run.report given (.notListed folder e)
    | none => pure ()
  else job.processFile path

def processPaths (job : Job) : List String → Run Unit
  | [] => return
  | path :: rest => do
    job.processPath path
    job.processPaths rest

end Job

end MarkdownCanon.CommandLine
