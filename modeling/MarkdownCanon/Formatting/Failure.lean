import MarkdownCanon.Reading.Error
import MarkdownCanon.Render.Failure
import MarkdownCanon.Settings.OptionError

namespace MarkdownCanon

/-- Why a text could not be formatted or handed over. -/
inductive Failure where
  | option (e : OptionError)
  | reading (e : ReadingError)
  | render (e : RenderFailure)
  | notWritten (path : String) (e : OsError)
  | bytesToTextStream
  deriving Repr

namespace Failure

/-- The report on a failure. Mistakes in the use of the library have none. -/
def problem? : Failure → Option Problem
  | option e => e.problem?
  | reading e => e.problem?
  | render (.shape e) => some e.problem
  | render _ => none
  | notWritten path e => some (.outputWrite path none (some (e.report path)))
  | bytesToTextStream => none

def message : Failure → String
  | option e => e.message
  | reading e => e.message
  | render (.shape e) => e.message
  | render (.absent asked) => asked.message
  | render (.writer e) => e.message
  | notWritten path _ => (Problem.outputWrite path none none).message
  | bytesToTextStream => "string argument expected, got 'bytes'"

end Failure

/-- A step of formatting. The journal is there after a failure too. -/
abbrev Formatting := EStateM Failure Journal

namespace Formatting

def ofOptions (settings : Except OptionError α) : Formatting α :=
  match settings with
  | .ok a => return a
  | .error e => throw (.option e)

def ofReading (read : Reading α) : Formatting α := EStateM.adaptExcept .reading read

def ofRender (rendered : Except RenderFailure α × Journal) : Formatting α := do
  modify (· ++ rendered.2)
  match rendered.1 with
  | .ok a => return a
  | .error e => throw (.render e)

end Formatting

end MarkdownCanon
