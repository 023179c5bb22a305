import MarkdownCanon.CodeFormatter.Basic

namespace MarkdownCanon

/-- What running the external Go formatter does. -/
inductive Gofmt where
  | missing
  | timedOut
  | finished (code : Int) (output errors : String)
  deriving DecidableEq, Repr, Inhabited

namespace Gofmt

/-- Go code as the external formatter prints it, or unchanged when it is empty or refused. -/
def format (gofmt : Gofmt) (source : String) : String :=
  if source.isEmpty then source
  else match gofmt with
    | .finished 0 output _ => output
    | _ => source

/-- What one call of the external formatter leaves in the journal. -/
def trace (gofmt : Gofmt) (source : String) : Journal :=
  if source.isEmpty then {}
  else
    let remark := fun message => Journal.note Log.debug .formatting message
    { gofmtInputs := [source] } ++
      match gofmt with
      | .missing => remark "gofmt could not be run: [Errno 2] No such file or directory"
      | .timedOut => remark "gofmt could not be run: Command 'gofmt' timed out after 30.0 seconds"
      | .finished 0 _ _ => {}
      | .finished _ _ errors => remark ("gofmt rejected code block: " ++ Text.strip errors)

def formatter (gofmt : Gofmt) : CodeFormatter :=
  { name := "go", run := fun source => .code (gofmt.format source), trace := gofmt.trace }

/-- The formatters in use when none are chosen. -/
def defaultFormatters (gofmt : Gofmt) : FormatterMap :=
  [("go", gofmt.formatter), ("Go", gofmt.formatter)]

end Gofmt

end MarkdownCanon
