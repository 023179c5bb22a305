import MarkdownCanon.Files.Disk
import MarkdownCanon.Log.Record
import MarkdownCanon.Text.Utf8
import MarkdownCanon.Value

/-! Which records of the log are written, in what form, and where to. -/

namespace MarkdownCanon.Log

/-- The names that a level may be given by. -/
def levelNames : List (String × Int) :=
  [("CRITICAL", critical), ("FATAL", critical), ("ERROR", error), ("WARN", warning),
    ("WARNING", warning), ("INFO", info), ("DEBUG", debug), ("NOTSET", 0)]

/-- The level that a value asks for. Numbers are levels already, and truth values are numbers;
what is no name of a level asks for warnings. -/
def resolveLevel : Value → Value
  | .int n => .int n
  | .bool b => .bool b
  | .text name =>
    .int ((levelNames.lookup (String.ofList (Text.upper name.toList))).getD warning)
  | _ => .int warning

/-- How a record is written. A traced one starts with the time. -/
inductive Layout where
  | plain
  | trace (now : String)
  deriving DecidableEq, Repr, Inhabited

def Layout.line (record : Record) : Layout → String
  | plain => "mdfmt: " ++ levelName record.level ++ ": " ++ record.message ++ "\n"
  | trace now =>
    "[" ++ now ++ "] [" ++ levelName record.level ++ "] [" ++ record.source.name ++ "] " ++
      record.message ++ "\n"

/-- Where records go: those of some level on to the terminal, and to a file if there is one. -/
structure Setup where
  level : Value := .int warning
  layout : Layout := .plain
  file : Option Path := none
  deriving Inhabited

namespace Setup

/-- Whether a record is written. Levels below one switch a record off for good. -/
def keeps (setup : Setup) (record : Record) : Bool :=
  0 < record.level && setup.level.whole?.all (· ≤ record.level)

/-- The texts of a record for the terminal and for the file. -/
def write (setup : Setup) (disk : Disk) (record : Record) : String × Disk :=
  if setup.keeps record then
    let line := setup.layout.line record
    let disk := match setup.file with
      | none => disk
      | some path =>
        match disk.append path (Text.Utf8.encode line.toList) with
        | .ok disk => disk
        | .error _ => disk
    (line, disk)
  else ("", disk)

/-- Records go to the terminal and, if it can be opened, to a file. Tracing takes in every record.
The record that the setup itself leaves is part of the answer. -/
def configure (disk : Disk) (level : Value) (file : Option String) (trace : Option String) :
    Setup × Disk × List Record :=
  let setup : Setup :=
    match trace with
    | none => { level := resolveLevel level }
    | some now => { level := .int debug, layout := .trace now }
  match file with
  | none | some "" => (setup, disk, [])
  | some name =>
    let path := Path.ofText name
    match disk.append path.flat [] with
    | .ok disk =>
      ({ setup with file := some path.flat }, disk,
        [⟨debug, .setup, "Logging to file: " ++ name⟩])
    | .error e =>
      (setup, disk,
        [⟨warning, .setup,
          "Could not create log file " ++ name ++ ": " ++ e.report (disk.absolute path)⟩])

end Setup

end MarkdownCanon.Log
