import MarkdownCanon.Render.Walk

namespace MarkdownCanon

/-- The text of a document, or why it cannot be printed, and what printing left in the journal.
A document without any text is one empty line. -/
def RendererSettings.render (settings : RendererSettings) (root : Node) :
    Except RenderFailure String × Journal :=
  match root with
  | .document _ =>
    match Render.node settings root {} with
    | .ok _ s =>
      let text := s.writer.out
      (.ok (if text.toList.all Text.isNewline then "\n" else text), s.journal)
    | .error e s => (.error e, s.journal)
  | other => (.error (.shape (.notDocument other.kind)), {})

/-- The text of inline content printed by itself. -/
def RendererSettings.renderInlines (settings : RendererSettings) (flags : ScratchFlags)
    (content : List Node) : Except RenderFailure String × Journal :=
  match Render.scratch flags (Render.inlines settings content) {} with
  | .ok text s => (.ok (String.ofList text), s.journal)
  | .error e s => (.error e, s.journal)

end MarkdownCanon
