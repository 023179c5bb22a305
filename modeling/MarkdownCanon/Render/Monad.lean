import MarkdownCanon.Render.Failure
import MarkdownCanon.Render.State

/-! Printing as steps over one state. Whatever a step opens is closed again, also when it fails. -/

namespace MarkdownCanon

/-- A step of printing. The state is there after a failure too. -/
abbrev Render := EStateM RenderFailure RenderState

namespace Render

def fail (e : ShapeError) : Render α := throw (.shape e)

def lack (asked : Absence) : Render α := throw (.absent asked)

def write (text : List Char) : Render Unit :=
  modify fun s => { s with writer := s.writer.write text }

def record (entry : Journal) : Render Unit :=
  modify fun s => { s with journal := s.journal ++ entry }

/-- Runs `body`, then `cleanup` whether or not `body` failed. A failure of `cleanup` counts. -/
def ensuring (body : Render α) (cleanup : Render Unit) : Render α := fun s =>
  match body s with
  | .ok a s =>
    match cleanup s with
    | .ok _ s => .ok a s
    | .error e s => .error e s
  | .error e s =>
    match cleanup s with
    | .ok _ s => .error e s
    | .error e s => .error e s

/-- Runs `body` with `piece` put before each line that it starts. -/
def indented (piece : List Char) (body : Render Unit) : Render Unit := do
  modify fun s => { s with writer := s.writer.pushIndent piece }
  body.ensuring do
    match (← get).writer.popIndent with
    | .ok (_, writer) => modify fun s => { s with writer }
    | .error e => throw (.writer e)

/-- The text that `body` writes, kept apart from the output. -/
def scratch (flags : ScratchFlags) (body : Render Unit) : Render (List Char) := do
  let before ← get
  set (before.enter flags)
  ensuring (do body; return (← get).writer.out.toList)
    (modify fun s => RenderState.leave s flags before)

/-- The next text does not land at the start of a line. -/
def leaveLineStart : Render Unit :=
  modify fun s => { s with atLineStart := false, normalTail := [] }

/-- The next text starts a block. -/
def startInlines : Render Unit :=
  modify fun s => { s with atLineStart := true, normalTail := [] }

def stage (text : List Char) : Render Unit :=
  modify fun s => { s with writer := s.writer.stage text }

/-- Closes a span that `token` was staged for: writes `token` again if content has taken it along,
and takes it back otherwise. -/
def closeSpan (token : List Char) : Render Unit := do
  if (← get).writer.committed then write token
  else
    match (← get).writer.discard token with
    | .ok writer => modify fun s => { s with writer }
    | .error e => throw (.writer e)

end Render

end MarkdownCanon
