import MarkdownCanon.Proofs.Lockstep

/-! Inline content printed twice, each time aside, once in a table cell and once out of one, or both
times in the same way. What the two texts have to do with each other is told from the pieces that
they are put together of. -/

namespace MarkdownCanon

namespace Render

/-- What a piece of code is written as. -/
def codeText (cell : Bool) (content : String) : List Char :=
  let span := Markup.codeSpan ['\x60'] content.toList
  { span with content := if cell then Markup.guardPipes false span.content else span.content }.text

/-- What the text of a node is written as, where it stands. -/
def literalText (place : Markup.Place) (tail cs : List Char) (next : Option Node) : List Char :=
  guardBang (Markup.escape place tail cs).1 next

theorem text_run (content : String) (s : RenderState) :
    text content s =
      if (spacedText content s.writer).isEmpty then .ok () s
      else
        let cs := spacedText content s.writer
        let place := { atLineStart := s.atLineStart, inTable := s.inTableCell }
        .ok () { s with
          writer := s.writer.write (literalText place s.normalTail cs s.nextInline)
          normalTail := (Markup.escape place s.normalTail cs).2
          atLineStart := false } := by
  unfold text
  rw [get_bind]
  dsimp only
  split <;> rfl

theorem code_run (content : String) (s : RenderState) :
    code content s =
      if content.isEmpty then .ok () s
      else .ok () { s with
        writer := s.writer.write (codeText s.inTableCell content)
        normalTail := []
        atLineStart := false } := by
  unfold code
  split <;> rfl

end Render

/-- A relation between texts that goes from their pieces to the whole. `cell` and `cell'` tell
whether the one text and the other are those of a table cell. -/
structure Pairing (cell cell' : Bool) (P : List Char → List Char → Prop) : Prop where
  nil : P [] []
  append : ∀ {a a' b b'}, P a a' → P b b' → P (a ++ b) (a' ++ b')
  last : ∀ {a a'}, P a a' → a'.getLast? = a.getLast?
  delimiter : ∀ {c}, Markup.isDelimiter c = true → P [c] [c]
  text : ∀ atLineStart tail cs next, '\n' ∉ cs →
    P (Render.literalText ⟨atLineStart, cell⟩ tail cs next)
      (Render.literalText ⟨atLineStart, cell'⟩ tail cs next)

/-- Whether the texts that a node itself brings, apart from the nodes in it, are paired. -/
def Node.Pairs (cell cell' : Bool) (P : List Char → List Char → Prop) : Node → Prop
  | .text _ | .emphasis _ | .strong _ | .strikethrough _ => True
  | .code content => P (Render.codeText cell content) (Render.codeText cell' content)
  | .link url _ title | .image url _ title =>
    let tail := Markup.linkTail (url.getD "").toList (title.getD "").toList
    P tail tail
  | .autolink _ label => P ('<' :: label.toList ++ ['>']) ('<' :: label.toList ++ ['>'])
  | .htmlInline content => P content.toList content.toList
  | .lineBreak _ => cell = true ∧ cell' = true ∧ P [' '] [' ']
  | _ => False

/-- Whether all texts in a tree are paired. -/
def Node.AllPairs (cell cell' : Bool) (P : List Char → List Char → Prop) (n : Node) : Prop :=
  ∀ m : Node, m.Within n → m.Pairs cell cell' P

variable {cell cell' : Bool} {P : List Char → List Char → Prop}

theorem Node.AllPairs.child {n c : Node} (h : n.AllPairs cell cell' P) (hc : c ∈ n.children) :
    c.AllPairs cell cell' P :=
  fun m inside => h m (.under hc inside)

namespace Pairing

/-- What holds of two texts put together holds, for one and the same text printed twice, of the
whole. -/
theorem same {Q : List Char → Prop} (nil : Q []) (append : ∀ {a b}, Q a → Q b → Q (a ++ b))
    (delimiter : ∀ {c}, Markup.isDelimiter c = true → Q [c])
    (text : ∀ atLineStart tail cs next, '\n' ∉ cs →
      Q (Render.literalText ⟨atLineStart, cell⟩ tail cs next)) :
    Pairing cell cell fun a a' => a' = a ∧ Q a where
  nil := ⟨rfl, nil⟩
  append ha hb := ⟨by rw [ha.1, hb.1], append ha.2 hb.2⟩
  last h := by rw [h.1]
  delimiter h := ⟨rfl, delimiter h⟩
  text atLineStart tail cs next line := ⟨rfl, text atLineStart tail cs next line⟩

theorem delimiters (pairing : Pairing cell cell' P) {token : List Char}
    (h : ∀ c ∈ token, Markup.isDelimiter c = true) : P token token := by
  induction token with
  | nil => exact pairing.nil
  | cons c token ih =>
    have first := pairing.delimiter (h c List.mem_cons_self)
    exact pairing.append first (ih fun c m => h c (List.mem_cons_of_mem _ m))

theorem eq_nil (pairing : Pairing cell cell' P) {a a' : List Char} (h : P a a') :
    a' = [] ↔ a = [] := by
  rw [← List.getLast?_eq_none_iff, ← List.getLast?_eq_none_iff, pairing.last h]

end Pairing

/-- Two writers without prefixes that hold paired texts and have the same delimiters staged. -/
structure Writer.Paired (P : List Char → List Char → Prop) (w v : Writer) : Prop where
  bare : w.indentation = {}
  bare' : v.indentation = {}
  pending : v.pending = w.pending
  delimiters : ∀ c ∈ w.pending, Markup.isDelimiter c = true
  last : w.last = w.out.toList.getLast?
  last' : v.last = v.out.toList.getLast?
  out : P w.out.toList v.out.toList

namespace Writer.Paired

variable {w v : Writer}

theorem empty (pairing : Pairing cell cell' P) : Paired P {} {} :=
  ⟨rfl, rfl, rfl, by simp, rfl, rfl, pairing.nil⟩

theorem same_last (h : w.Paired P v) (pairing : Pairing cell cell' P) : v.last = w.last := by
  rw [h.last, h.last', pairing.last h.out]

theorem write (h : w.Paired P v) (pairing : Pairing cell cell' P) {a a' : List Char}
    (piece : P a a') : (w.write a).Paired P (v.write a') := by
  by_cases empty : a = []
  · rw [empty, (pairing.eq_nil piece).mpr empty]
    exact h
  · have shown : a' ≠ [] := fun none_ => empty ((pairing.eq_nil piece).mp none_)
    obtain ⟨out, last⟩ := write_bare h.bare empty
    obtain ⟨out', last'⟩ := write_bare h.bare' shown
    refine ⟨by simp [h.bare], by simp [h.bare'], ?_, ?_, ?_, ?_, ?_⟩
    · rw [write_pending w empty, write_pending v shown]
    · simp [write_pending w empty]
    · rw [out, last, ← List.append_assoc, List.getLast?_append_of_ne_nil _ empty]
    · rw [out', last', ← List.append_assoc, List.getLast?_append_of_ne_nil _ shown]
    · rw [out, out', h.pending]
      exact pairing.append h.out (pairing.append (pairing.delimiters h.delimiters) piece)

theorem stage (h : w.Paired P v) {token : List Char}
    (delimiters : ∀ c ∈ token, Markup.isDelimiter c = true) :
    (w.stage token).Paired P (v.stage token) where
  bare := h.bare
  bare' := h.bare'
  pending := by simp [Writer.stage, h.pending]
  delimiters c m := (List.mem_append.mp m).elim (h.delimiters c) (delimiters c)
  last := h.last
  last' := h.last'
  out := h.out

theorem unstage (h : w.Paired P v) {staged token : List Char}
    (pending : w.pending = staged ++ token) :
    Writer.Paired P { w with pending := staged } { v with pending := staged } where
  bare := h.bare
  bare' := h.bare'
  pending := rfl
  delimiters c m := h.delimiters c (pending ▸ List.mem_append_left _ m)
  last := h.last
  last' := h.last'
  out := h.out

end Writer.Paired

/-- Two states of printing that have come to the same place, in a table cell or not. -/
structure RenderState.Paired (cell cell' : Bool) (P : List Char → List Char → Prop)
    (s s' : RenderState) : Prop where
  inTableCell : s.inTableCell = cell
  inTableCell' : s'.inTableCell = cell'
  writer : s.writer.Paired P s'.writer
  normalTail : s'.normalTail = s.normalTail
  atLineStart : s'.atLineStart = s.atLineStart

theorem RenderState.Paired.leaveLineStart {s s' : RenderState} (h : s.Paired cell cell' P s') :
    RenderState.Paired cell cell' P { s with atLineStart := false, normalTail := [] }
      { s' with atLineStart := false, normalTail := [] } :=
  ⟨h.inTableCell, h.inTableCell', h.writer, rfl, rfl⟩

namespace Markup

/-- Whether a text is a single character that is escaped for being one. -/
def isLone : List Char → Bool
  | [c] => aloneEscaped.contains c
  | _ => false

theorem isLone_iff {text : List Char} :
    isLone text = true ↔ ∃ c, text = [c] ∧ aloneEscaped.contains c = true := by
  match text with
  | [] => simp [isLone]
  | [c] => simp [isLone]
  | _ :: _ :: _ => simp [isLone]

theorem escape_text (place : Place) (tail text : List Char) :
    (escape place tail text).1 =
      if isLone text then '\\' :: text else (escapeFrom place [] tail.reverse text).1 := by
  match text with
  | [] => rfl
  | [c] =>
    rw [escape, isLone]
    by_cases alone : aloneEscaped.contains c = true
    · rw [if_pos alone, if_pos alone]
    · rw [if_neg alone, if_neg alone]
  | _ :: _ :: _ => rfl

/-- The plain text at the end does not depend on what has been escaped. -/
theorem escapeFrom_tail (place place' : Place) (seen seen' tail text : List Char) :
    (escapeFrom place seen tail text).2 = (escapeFrom place' seen' tail text).2 := by
  induction text generalizing seen seen' tail with
  | nil => rfl
  | cons c rest ih =>
    rw [escapeFrom, escapeFrom]
    exact ih ..

theorem escape_tail (place place' : Place) (tail text : List Char) :
    (escape place tail text).2 = (escape place' tail text).2 := by
  unfold escape
  split
  · split
    · rfl
    · exact congrArg List.reverse (escapeFrom_tail ..)
  · exact congrArg List.reverse (escapeFrom_tail ..)

end Markup

namespace Render

/-- Two steps that both succeed, in paired states, the delimiters that were staged in `w` being
there still or gone out. -/
def Both (cell cell' : Bool) (P : List Char → List Char → Prop) (w : Writer)
    (r r' : EStateM.Result RenderFailure RenderState Unit) : Prop :=
  ∃ t t', r = .ok () t ∧ r' = .ok () t' ∧ t.Paired cell cell' P t' ∧ w.Settles t.writer

namespace Both

variable {x x' : Render Unit} {s s' : RenderState} {w : Writer}

theorem bind {f f' : Unit → Render Unit} (hx : Both cell cell' P w (x s) (x' s'))
    (hf : ∀ t t', t.Paired cell cell' P t' → w.Settles t.writer →
      Both cell cell' P w (f () t) (f' () t')) :
    Both cell cell' P w ((x >>= f) s) ((x' >>= f') s') := by
  obtain ⟨t, t', run, run', paired, settled⟩ := hx
  rw [bind_of_ok run, bind_of_ok run']
  exact hf t t' paired settled

theorem settling {r r' : EStateM.Result RenderFailure RenderState Unit} {v : Writer}
    (h : Both cell cell' P v r r') (settled : w.Settles v) : Both cell cell' P w r r' := by
  obtain ⟨t, t', run, run', paired, settled'⟩ := h
  exact ⟨t, t', run, run', paired, settled.trans settled'⟩

theorem write (pairing : Pairing cell cell' P) {a a' : List Char} (piece : P a a')
    (h : s.Paired cell cell' P s') :
    Both cell cell' P s.writer (Render.write a s) (Render.write a' s') := by
  refine ⟨_, _, rfl, rfl, ?_, s.writer.write_settles a⟩
  exact ⟨h.inTableCell, h.inTableCell', h.writer.write pairing piece, h.normalTail, h.atLineStart⟩

theorem verbatim (pairing : Pairing cell cell' P) {content : List Char} (piece : P content content)
    (h : s.Paired cell cell' P s') :
    Both cell cell' P s.writer (verbatim content s) (verbatim content s') :=
  write pairing piece h.leaveLineStart

theorem text (pairing : Pairing cell cell' P) (content : String) (h : s.Paired cell cell' P s')
    (next : s'.nextInline = s.nextInline) :
    Both cell cell' P s.writer (text content s) (text content s') := by
  have spaced : spacedText content s'.writer = spacedText content s.writer := by
    unfold spacedText Writer.committed
    rw [h.writer.same_last pairing, h.writer.pending]
  rw [text_run, text_run, spaced]
  by_cases empty : (spacedText content s.writer).isEmpty = true
  · rw [if_pos empty, if_pos empty]
    exact ⟨s, s', rfl, rfl, h, .refl _⟩
  · rw [if_neg empty, if_neg empty, h.normalTail, h.atLineStart, next]
    refine ⟨_, _, rfl, rfl, ⟨h.inTableCell, h.inTableCell', ?_, Markup.escape_tail .., rfl⟩,
      s.writer.write_settles _⟩
    have piece := pairing.text s.atLineStart s.normalTail (spacedText content s.writer)
      s.nextInline (spacedText_line content s.writer)
    rw [← h.inTableCell, ← h.inTableCell'] at piece
    exact h.writer.write pairing piece

theorem code (pairing : Pairing cell cell' P) {content : String}
    (piece : P (codeText cell content) (codeText cell' content)) (h : s.Paired cell cell' P s') :
    Both cell cell' P s.writer (code content s) (code content s') := by
  rw [code_run, code_run, h.inTableCell, h.inTableCell']
  split
  · exact ⟨s, s', rfl, rfl, h, .refl _⟩
  · refine ⟨_, _, rfl, rfl, ⟨rfl, rfl, h.writer.write pairing piece, rfl, rfl⟩, ?_⟩
    exact s.writer.write_settles _

/-- In a cell a break is a space, unless there is one already. -/
theorem lineBreak (pairing : Pairing true true P) (settings : RendererSettings) (soft : Bool)
    (space : P [' '] [' ']) (h : s.Paired true true P s') :
    Both true true P s.writer (lineBreak settings soft s) (lineBreak settings soft s') := by
  unfold Render.lineBreak
  rw [get_bind, get_bind]
  simp only [h.inTableCell, h.inTableCell', h.writer.same_last pairing, Bool.or_true, Bool.not_true,
    Bool.and_false, Bool.false_eq_true, ↓reduceIte]
  by_cases spaced : (s.writer.last != some ' ') = true
  · rw [if_pos spaced, write_bind, write_bind]
    refine ⟨_, _, rfl, rfl, ?_, s.writer.write_settles [' ']⟩
    exact ⟨h.inTableCell, h.inTableCell', h.writer.write pairing space, rfl, h.atLineStart⟩
  · rw [if_neg spaced]
    exact ⟨_, _, rfl, rfl, ⟨h.inTableCell, h.inTableCell', h.writer, rfl, h.atLineStart⟩, .refl _⟩

theorem stage {token : List Char} (delimiters : ∀ c ∈ token, Markup.isDelimiter c = true)
    (h : s.Paired cell cell' P s') :
    RenderState.Paired cell cell' P { s with writer := s.writer.stage token }
      { s' with writer := s'.writer.stage token } :=
  ⟨h.inTableCell, h.inTableCell', h.writer.stage delimiters, h.normalTail, h.atLineStart⟩

/-- A delimiter that both have staged is written by both, or taken back by both. -/
theorem closeSpan (pairing : Pairing cell cell' P) {token : List Char}
    (delimiters : ∀ c ∈ token, Markup.isDelimiter c = true)
    (settled : (w.stage token).Settles s.writer) (h : s.Paired cell cell' P s') :
    Both cell cell' P w (closeSpan token s) (closeSpan token s') := by
  have same : s'.writer.committed = s.writer.committed := by
    rw [Writer.committed, Writer.committed, h.writer.pending]
  unfold Render.closeSpan
  rw [get_bind, get_bind, same]
  by_cases clear : s.writer.pending = []
  · rw [if_pos (by simp [Writer.committed, clear])]
    obtain ⟨t, t', run, run', paired, settled'⟩ := write pairing (pairing.delimiters delimiters) h
    exact ⟨t, t', run, run', paired, .inr (settled'.elim (·.trans clear) id)⟩
  · have staged : s.writer.pending = w.pending ++ token := settled.resolve_right clear
    have discard {v : Writer} (pending : v.pending = w.pending ++ token) :
        v.discard token = .ok { v with pending := w.pending } := by
      simp [Writer.discard, pending]
    rw [if_neg (by simpa [Writer.committed] using clear), get_bind, get_bind, discard staged,
      discard (h.writer.pending.trans staged)]
    refine ⟨_, _, rfl, rfl, ?_, .inl rfl⟩
    exact ⟨h.inTableCell, h.inTableCell', h.writer.unstage staged, h.normalTail, h.atLineStart⟩

theorem span (pairing : Pairing cell cell' P) {token : List Char}
    (delimiters : ∀ c ∈ token, Markup.isDelimiter c = true) (blank : Bool)
    (hx : ∀ ⦃s s'⦄, s.Paired cell cell' P s' → Both cell cell' P s.writer (x s) (x s'))
    (h : s.Paired cell cell' P s') (next : s'.nextInline = s.nextInline) :
    Both cell cell' P s.writer (span token blank x s) (span token blank x s') := by
  unfold Render.span
  split
  · exact hx h
  · rw [get_bind, get_bind, h.writer.same_last pairing, next, leaveLineStart_bind,
      leaveLineStart_bind, stage_bind, stage_bind]
    have chars := delimiterFor_delimiters delimiters s.writer.last s.nextInline
    obtain ⟨t, t', run, run', paired, settled⟩ := hx (stage chars h.leaveLineStart)
    rw [bind_of_ok run, bind_of_ok run']
    exact closeSpan pairing chars settled paired

theorem reference (pairing : Pairing cell cell' P) {opening : List Char}
    (delimiters : ∀ c ∈ opening, Markup.isDelimiter c = true) {url title : Option String}
    (tail : P (Markup.linkTail (url.getD "").toList (title.getD "").toList)
      (Markup.linkTail (url.getD "").toList (title.getD "").toList))
    (hx : ∀ ⦃s s'⦄, s.Paired cell cell' P s' → Both cell cell' P s.writer (x s) (x s'))
    (h : s.Paired cell cell' P s') :
    Both cell cell' P s.writer (reference opening url title x s)
      (reference opening url title x s') := by
  unfold Render.reference
  rw [leaveLineStart_bind, leaveLineStart_bind, stage_bind, stage_bind]
  obtain ⟨t, t', run, run', paired, _⟩ := hx (stage delimiters h.leaveLineStart)
  rw [bind_of_ok run, bind_of_ok run']
  obtain ⟨u, u', last, last', paired', _⟩ := write pairing tail paired
  refine ⟨u, u', last, last', paired', .inr ?_⟩
  cases last
  exact t.writer.write_pending (by simp [Markup.linkTail])

end Both

section Walk

variable {settings : RendererSettings}

mutual

theorem node_both (pairing : Pairing cell cell' P) : (n : Node) → n.Pairs cell cell' P →
    n.AllPairs cell cell' P → ∀ ⦃s s'⦄, s.Paired cell cell' P s' → s'.nextInline = s.nextInline →
    Both cell cell' P s.writer (node settings n s) (node settings n s')
  | .text content, _, _, s, s', h, next => by
    rw [node]
    exact .text pairing content h next
  | .emphasis content, _, pairs, s, s', h, next => by
    have hc := inlines_both pairing content fun c m => pairs.child m
    rw [node]
    exact .span pairing (tokens_delimiters settings).1 _ hc h next
  | .strong content, _, pairs, s, s', h, next => by
    have hc := inlines_both pairing content fun c m => pairs.child m
    rw [node]
    exact .span pairing (tokens_delimiters settings).2 _ hc h next
  | .strikethrough content, _, pairs, s, s', h, next => by
    have hc := inlines_both pairing content fun c m => pairs.child m
    rw [node]
    exact .span pairing (List.all_eq_true.mp rfl) _ hc h next
  | .code content, piece, _, s, s', h, _ => by
    rw [node]
    exact .code pairing piece h
  | .link url content title, tail, pairs, s, s', h, _ => by
    have hc := inlines_both pairing content fun c m => pairs.child m
    rw [node]
    exact .reference pairing (List.all_eq_true.mp rfl) tail hc h
  | .image url content title, tail, pairs, s, s', h, _ => by
    have hc := inlines_both pairing content fun c m => pairs.child m
    rw [node]
    exact .reference pairing (List.all_eq_true.mp rfl) tail hc h
  | .autolink _ label, piece, _, s, s', h, _ => by
    rw [node]
    exact .verbatim pairing piece h
  | .htmlInline content, piece, _, s, s', h, _ => by
    rw [node]
    exact .verbatim pairing piece h
  | .lineBreak soft, own, _, s, s', h, _ => by
    obtain ⟨rfl, rfl, space⟩ := own
    rw [node]
    exact .lineBreak pairing settings soft space h

theorem inlines_both (pairing : Pairing cell cell' P) : (content : List Node) →
    (∀ c ∈ content, c.AllPairs cell cell' P) → ∀ ⦃s s'⦄, s.Paired cell cell' P s' →
    Both cell cell' P s.writer (inlines settings content s) (inlines settings content s')
  | [], _, s, s', h => by
    rw [inlines]
    exact ⟨s, s', rfl, rfl, h, .refl _⟩
  | child :: rest, pairs, s, s', h => by
    have own := pairs child List.mem_cons_self
    have later := fun c m => pairs c (List.mem_cons_of_mem child m)
    have next : RenderState.Paired cell cell' P { s with nextInline := rest.head? }
        { s' with nextInline := rest.head? } :=
      ⟨h.inTableCell, h.inTableCell', h.writer, h.normalTail, h.atLineStart⟩
    rw [inlines, modify_bind, modify_bind]
    refine .bind (node_both pairing child (own child (.self _)) own next rfl) ?_
    intro t t' paired settled
    exact (inlines_both pairing rest later paired).settling settled

end

end Walk

/-- Inline content printed aside in two ways gives paired texts. -/
theorem scratch_both (pairing : Pairing cell cell' P) (settings : RendererSettings)
    {content : List Node} (pairs : ∀ c ∈ content, c.AllPairs cell cell' P) (s s' : RenderState)
    (flags flags' : ScratchFlags) (inCell : flags.inTableCell.getD s.inTableCell = cell)
    (inCell' : flags'.inTableCell.getD s'.inTableCell = cell')
    (start : flags'.atLineStart = flags.atLineStart) :
    ∃ text text' t t', scratch flags (inlines settings content) s = .ok text t ∧
      scratch flags' (inlines settings content) s' = .ok text' t' ∧ P text text' := by
  have entered : (s.enter flags).Paired cell cell' P (s'.enter flags') :=
    ⟨inCell, inCell', .empty pairing, rfl, start⟩
  obtain ⟨u, u', run, run', paired, _⟩ := inlines_both pairing content pairs entered
  refine ⟨_, _, _, _, scratch_eq_ok.mpr ⟨u, run, rfl, rfl⟩, scratch_eq_ok.mpr ⟨u', run', rfl, rfl⟩,
    paired.writer.out⟩

end Render

/-- Inline content printed by itself in two ways gives paired texts. -/
theorem RendererSettings.renderInlines_paired (settings : RendererSettings)
    (pairing : Pairing cell cell' P) {content : List Node}
    (pairs : ∀ c ∈ content, c.AllPairs cell cell' P) (flags flags' : ScratchFlags)
    (inCell : flags.inTableCell.getD false = cell) (inCell' : flags'.inTableCell.getD false = cell')
    (start : flags'.atLineStart = flags.atLineStart) :
    ∃ out out', (settings.renderInlines flags content).1 = .ok out ∧
      (settings.renderInlines flags' content).1 = .ok out' ∧ P out.toList out'.toList := by
  obtain ⟨text, text', t, t', run, run', paired⟩ :=
    Render.scratch_both pairing settings pairs {} {} flags flags' inCell inCell' start
  refine ⟨String.ofList text, String.ofList text', ?_, ?_, by simpa using paired⟩
  · simp only [renderInlines, run]
  · simp only [renderInlines, run']

end MarkdownCanon
