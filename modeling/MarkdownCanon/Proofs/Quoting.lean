import Mathlib.Data.List.Forall2
import MarkdownCanon.Proofs.LockstepWalk
import MarkdownCanon.Proofs.Margins

/-! Blocks in a quote are printed as they are outside of it, behind the marks of the quote on every
line. -/

namespace MarkdownCanon

namespace Text

/-- A line in a quote. -/
def quoteLine (line : List Char) : List Char :=
  if line.isEmpty then ['>'] else '>' :: ' ' :: line

/-- Whether there is nothing on a line but opening delimiters of spans. -/
def isBare (line : List Char) : Bool := !line.isEmpty && line.all Markup.isDelimiter

/-- The margin of `n` quotes. -/
def quotes (n : Nat) : List Char := (List.replicate n Render.quoteMarker).flatten

theorem quotes_succ (n : Nat) : quotes (n + 1) = Render.quoteMarker ++ quotes n := by
  rw [quotes, List.replicate_succ, List.flatten_cons, quotes]

/-- Behind the margin of `n` quotes a line is quoted `n` times. -/
theorem inMargin_quotes (n : Nat) (line : List Char) :
    inMargin (quotes n) line = quoteLine^[n] line := by
  induction n generalizing line with
  | zero =>
    cases line with
    | nil => rfl
    | cons c line => rfl
  | succ n ih =>
    have once (l : List Char) : inMargin Render.quoteMarker l = quoteLine l := by
      cases l with
      | nil => rfl
      | cons c l => rfl
    rw [quotes_succ, inMargin_append, ih, once, Function.iterate_succ_apply']

/-- How a line comes out behind a margin: as it should, or, unless `strict`, without the spaces at
the end of the margin if nothing but delimiters is on it. -/
def Margined (strict : Prop) (margin line shown : List Char) : Prop :=
  '\n' ∉ line ∧ (shown = inMargin margin line ∨
    ¬ strict ∧ isBare line = true ∧ shown = trimEnd isSpace margin ++ line)

end Text

namespace Writer

open Text

/-- The same lines are written, those on the other side behind a margin. -/
structure Behind (strict : Prop) (margin : List Char) (w v : Writer) : Prop extends w.Alike v where
  delimiters : ∀ c ∈ w.pending, Markup.isDelimiter c = true
  line : '\n' ∉ w.indentation.full
  full : v.indentation.full = margin ++ w.indentation.full
  out : ∃ lines lines' last, w.out.toList = page lines last ∧
    v.out.toList = page lines' (if last = [] then [] else margin ++ last) ∧
    List.Forall₂ (Margined strict margin) lines lines' ∧ '\n' ∉ last ∧
    (w.atLineStart = true ↔ last = [])

namespace Behind

variable {strict : Prop} {margin : List Char} {w v : Writer}

/-- A character goes on a line, which it starts or goes on. -/
theorem put_char (h : Behind strict margin w v) {c : Char} (newline : c ≠ '\n') :
    Behind strict margin (w.put c) (v.put c) where
  pending := rfl
  atLineStart := rfl
  last := by simp [Writer.put, Writer.emit, Writer.piece]
  delimiters := by simp [Writer.put]
  line := h.line
  full := h.full
  out := by
    obtain ⟨lines, lines', last, out, out', each, line, start⟩ := h.out
    have staged : '\n' ∉ w.pending := fun m => by
      simpa [Markup.isDelimiter] using h.delimiters _ m
    refine ⟨lines, lines',
      last ++ ((if w.atLineStart then w.indentation.full else []) ++ w.pending ++ [c]),
      ?_, ?_, each, ?_, ?_⟩
    · rw [put_out newline, out, page_append]
    · rw [put_out newline, out', page_append, h.atLineStart, h.pending, h.full]
      congr 1
      by_cases first : last = []
      · simp [first, start.mpr first]
      · have mid : w.atLineStart = false := by simpa using mt start.mp first
        simp [first, mid]
    · split <;> simp [line, h.line, staged, Ne.symm newline]
    · simp [Writer.put, newline]

/-- The line that ends comes out behind the margin. -/
theorem margined (h : Behind strict margin w v) {last : List Char} (line : '\n' ∉ last)
    (start : w.atLineStart = true ↔ last = []) (clear : strict → w.pending = []) :
    Margined strict margin
      (last ++ ((if w.atLineStart then w.indentation.indent else []) ++ w.pending))
      ((if last = [] then [] else margin ++ last) ++
        ((if w.atLineStart then inMargin margin w.indentation.indent else []) ++ w.pending)) := by
  have staged : '\n' ∉ w.pending := fun m => by
    simpa [Markup.isDelimiter] using h.delimiters _ m
  have trimmed : '\n' ∉ w.indentation.indent := fun m => h.line (indent_subset _ m)
  refine ⟨by split <;> simp [line, trimmed, staged], ?_⟩
  by_cases first : last = []
  · simp only [first, start.mpr first, ↓reduceIte, List.nil_append]
    by_cases none_ : w.pending = []
    · left
      simp [none_]
    · by_cases outer : w.indentation.indent = []
      · right
        refine ⟨fun hs => none_ (clear hs), ?_, by simp [outer]⟩
        simpa [isBare, outer, none_] using h.delimiters
      · left
        rw [inMargin_of_ne_nil outer, inMargin_of_ne_nil (by simp [outer]), List.append_assoc]
  · have mid : w.atLineStart = false := by simpa using mt start.mp first
    have shown : last ++ w.pending ≠ [] := by simp [first]
    left
    simp only [first, mid, Bool.false_eq_true, ↓reduceIte, List.nil_append]
    rw [inMargin_of_ne_nil shown, List.append_assoc]

/-- A line ends. -/
theorem put_newline (h : Behind strict margin w v) (clear : strict → w.pending = []) :
    Behind strict margin (w.put '\n') (v.put '\n') where
  pending := rfl
  atLineStart := rfl
  last := by simp [Writer.put, Writer.emit, Writer.piece]
  delimiters := by simp [Writer.put]
  line := h.line
  full := h.full
  out := by
    obtain ⟨lines, lines', last, out, out', each, line, start⟩ := h.out
    have trimmed : v.indentation.indent = inMargin margin w.indentation.indent := by
      rw [Indentation.indent, h.full, trimEnd_append, Indentation.indent]
    refine ⟨_, _, [], ?_, ?_, List.rel_append each (.cons (h.margined line start clear) .nil),
      by simp, by simp [Writer.put]⟩
    · rw [put_newline_out, out, page_append, ← List.append_assoc, page_newline]
    · rw [put_newline_out, out', page_append, ← List.append_assoc, page_newline, h.atLineStart,
        h.pending, trimmed]
      rfl

theorem put (h : Behind strict margin w v) (c : Char)
    (clear : strict → w.pending = [] ∨ c ≠ '\n') :
    Behind strict margin (w.put c) (v.put c) := by
  by_cases newline : c = '\n'
  · subst newline
    exact h.put_newline fun hs => (clear hs).resolve_right (by simp)
  · exact h.put_char newline

theorem pushIndent (h : Behind strict margin w v) {piece : List Char} (line : '\n' ∉ piece) :
    Behind strict margin (w.pushIndent piece) (v.pushIndent piece) where
  pending := h.pending
  atLineStart := h.atLineStart
  last := h.last
  delimiters := h.delimiters
  line := by
    rw [pushIndent_full, List.mem_append, not_or]
    exact ⟨h.line, line⟩
  full := by rw [pushIndent_full, pushIndent_full, h.full, List.append_assoc]
  out := h.out

end Behind

end Writer

/-- A margin of whatever kind may be put before all lines. -/
theorem behind_accord (settings : RendererSettings) (strict : Prop) (margin : List Char) :
    Accord settings (settings.reindented settings.listIndent settings.uniformWidth) strict
      (Writer.Behind strict margin) where
  alike _ _ h := h.toAlike
  put _ _ h c clear := h.put c clear
  stage _ _ h token delimiters :=
    { h with
      pending := by simp only [Writer.stage, h.pending]
      delimiters := fun c m => (List.mem_append.mp m).elim (h.delimiters c) (delimiters c) }
  unstage _ _ h _ kept :=
    { h with
      pending := rfl
      delimiters := fun c m => h.delimiters c (kept.subset m) }
  quote _ _ h := h.pushIndent (by decide)
  item _ _ h _ _ _ := h.pushIndent (by simp)
  back _ _ _ _ h h' _ := { h' with line := h.line, full := h.full }

namespace Render

variable {settings : RendererSettings}

theorem allBlocks_balanced (children : List Node) :
    Balanced False (allBlocks settings children) :=
  .bind (.checkTexts _) fun _ => (blocks_balanced settings false true children).mono False.elim

/-- Blocks keep step with themselves behind a margin. -/
theorem allBlocks_lockstep (settings : RendererSettings) (margin : List Char)
    (children : List Node) :
    Lockstep (Writer.Behind (∀ c ∈ children, c.Steady settings) margin)
      (∀ c ∈ children, c.Steady settings) False (allBlocks settings children)
      (allBlocks settings children) := by
  have accord := behind_accord settings (∀ c ∈ children, c.Steady settings) margin
  refine .bind (.checkTexts _) fun _ => blocks_lockstep accord false true children fun c m => ?_
  exact ⟨fun _ _ _ => rfl, fun level content identifier _ _ =>
    .heading accord level content identifier, fun steady => steady c m⟩

/-- A quote at the start of a line indents its blocks. -/
theorem node_quote {children : List Node} (filled : children.isEmpty = false) {s : RenderState}
    (start : s.writer.atLineStart = true) : node settings (.blockQuote children) s =
    indented quoteMarker (allBlocks settings children) s := by
  rw [node, blockQuote, filled, if_neg (by simp), get_bind, start]
  rfl

theorem allBlocks_quote {children : List Node} (some_ : children ≠ []) {s : RenderState}
    (start : s.writer.atLineStart = true) : allBlocks settings [.blockQuote children] s =
    indented quoteMarker (allBlocks settings children) s := by
  have only : allBlocks settings [.blockQuote children] = node settings (.blockQuote children) := by
    simp [allBlocks, checkTexts, blocks, Node.isTextlessHtml, Node.isBlankBlock]
  rw [only, node_quote (by simpa using some_) start]

end Render

namespace Node

/-- Blocks in quotes, one inside the other. -/
def quoted (n : Nat) (blocks : List Node) : List Node :=
  (fun inner => [blockQuote inner])^[n] blocks

theorem quoted_succ (n : Nat) (blocks : List Node) :
    quoted (n + 1) blocks = [blockQuote (quoted n blocks)] :=
  Function.iterate_succ_apply' _ _ _

theorem quoted_ne_nil {blocks : List Node} (some_ : blocks ≠ []) (n : Nat) :
    quoted n blocks ≠ [] := by
  cases n with
  | zero => exact some_
  | succ n => simp [quoted_succ]

end Node

/-- A writer inside `n` more quotes. -/
def Writer.inQuotes (w : Writer) (n : Nat) : Writer :=
  { w with indentation := ⟨w.indentation.levels ++ List.replicate n Render.quoteMarker⟩ }

namespace Render

variable {settings : RendererSettings}

/-- Nested quotes at the start of a line print what is in them with all their marks pushed. -/
theorem allBlocks_quoted {children : List Node} (some_ : children ≠ []) (n : Nat)
    {s : RenderState} (ready : s.grid.Ready) (start : s.writer.atLineStart = true) :
    (∀ e t, allBlocks settings children { s with writer := s.writer.inQuotes n } = .error e t →
      ∃ t', allBlocks settings (Node.quoted n children) s = .error e t') ∧
    ∀ t, allBlocks settings children { s with writer := s.writer.inQuotes n } = .ok () t →
      allBlocks settings (Node.quoted n children) s =
        .ok () { t with writer := { t.writer with indentation := s.writer.indentation } } := by
  induction n generalizing s with
  | zero =>
    have same : s.writer.inQuotes 0 = s.writer := by simp [Writer.inQuotes]
    rw [same]
    refine ⟨fun e t run => ⟨t, run⟩, fun t run => ?_⟩
    have kept := ((allBlocks_balanced children).done ready run).1.indentation
    rw [← kept]
    exact run
  | succ n ih =>
    have deeper : (s.writer.pushIndent quoteMarker).inQuotes n = s.writer.inQuotes (n + 1) := by
      simp [Writer.inQuotes, Writer.pushIndent, Indentation.push, List.replicate_succ]
    obtain ⟨fails, ends⟩ :=
      @ih { s with writer := s.writer.pushIndent quoteMarker } ready start
    rw [deeper] at fails ends
    rw [Node.quoted_succ, allBlocks_quote (Node.quoted_ne_nil some_ n) start,
      indented_eq (allBlocks_balanced _) ready]
    constructor
    · intro e t run
      obtain ⟨t', inner⟩ := fails e t run
      exact ⟨_, ensuring_modify_eq_error.mpr ⟨t', inner, rfl⟩⟩
    · intro t run
      exact ensuring_modify_eq_ok.mpr ⟨_, ends t run, rfl⟩

end Render

theorem Writer.Behind.inQuotes (strict : Prop) (n : Nat) :
    Behind strict (Text.quotes n) {} (Writer.inQuotes {} n) where
  pending := rfl
  atLineStart := rfl
  last := rfl
  delimiters := by simp
  line := by simp [Indentation.full]
  full := by simp [Writer.inQuotes, Indentation.full, Text.quotes]
  out := ⟨[], [], [], rfl, rfl, .nil, by simp, by simp⟩

namespace Text

/-- A line quoted `n` times, or without the last space if nothing but delimiters is on it. -/
def Quoted (n : Nat) (line shown : List Char) : Prop :=
  shown = quoteLine^[n] line ∨
    isBare line = true ∧ ∃ m, n = m + 1 ∧ shown = quoteLine^[m] ('>' :: line)

theorem Margined.quoted {strict : Prop} {n : Nat} {line shown : List Char}
    (h : Margined strict (quotes n) line shown) :
    Quoted n line shown ∧ (strict → shown = quoteLine^[n] line) := by
  obtain ⟨_, rfl | ⟨loose, bare, rfl⟩⟩ := h
  · rw [inMargin_quotes]
    exact ⟨.inl rfl, fun _ => rfl⟩
  · refine ⟨?_, fun hs => absurd hs loose⟩
    cases n with
    | zero => exact .inl rfl
    | succ m =>
      refine .inr ⟨bare, m, rfl, ?_⟩
      rw [← inMargin_nil, inMargin_quotes, Function.iterate_succ_apply, ← inMargin_quotes,
        ← inMargin_quotes, inMargin_of_ne_nil (by simp [quoteLine]), inMargin_of_ne_nil (by simp)]
      simp [quoteLine]

end Text

/-- The lines of a text that does not end with a line end, and their quoted forms. -/
theorem Writer.Behind.quoted_lines {strict : Prop} {n : Nat} {w v : Writer}
    (h : Behind strict (Text.quotes n) w v) (some_ : w.out.toList ≠ [])
    (open_ : w.out.toList.getLast? ≠ some '\n') :
    w.atLineStart = false ∧ (∃ c ∈ v.out.toList, c ≠ '\n') ∧
    ∃ lines, v.out.toList = Text.joinSegments lines ∧
      List.Forall₂ (Text.Quoted n) (Text.segments w.out.toList) lines ∧
      (strict → lines = (Text.segments w.out.toList).map Text.quoteLine^[n]) := by
  obtain ⟨lines, lines', last, out, out', each, line, start⟩ := h.out
  rw [out] at some_ open_
  have shown := Text.page_getLast? some_ open_
  rw [if_neg shown] at out'
  have whole : List.Forall₂ (Text.Margined strict (Text.quotes n)) (lines ++ [last])
      (lines' ++ [Text.quotes n ++ last]) := by
    refine List.rel_append each (.cons ⟨line, .inl ?_⟩ .nil)
    rw [Text.inMargin_of_ne_nil shown]
  have cut : Text.segments w.out.toList = lines ++ [last] := by
    have free := ((List.forall₂_and_left (p := fun l => '\n' ∉ l) _ _).mp whole).1
    rw [out, Text.page_eq_joinSegments, Text.segments_joinSegments free (by simp)]
  refine ⟨by simpa using mt start.mp shown, ?_, lines' ++ [Text.quotes n ++ last], ?_, ?_, ?_⟩
  · obtain ⟨c, m⟩ := List.exists_mem_of_ne_nil last shown
    refine ⟨c, ?_, fun e => line (e ▸ m)⟩
    simp [out', Text.page, m]
  · rw [out', Text.page_eq_joinSegments]
  · rw [cut]
    exact whole.imp fun _ _ h => h.quoted.1
  · intro hs
    have exact_ : List.Forall₂ (fun l shown => Text.quoteLine^[n] l = shown) _ _ :=
      whole.imp fun _ _ h => (h.quoted.2 hs).symm
    rw [← List.forall₂_map_left_iff, List.forall₂_eq_eq_eq] at exact_
    rw [cut, exact_]

/-- **Quoting is putting marks before lines.** Where the blocks of a quote fail, so does the quote,
with the same error. Where they print a text that does not end with a line end, their quotes print
the lines of that text, each with a mark and a space before it for every quote, or with the marks
alone if it is empty. Only a line of nothing but opening delimiters, which a line end right behind
them leaves alone on their line, may lack the last space; there is none if no span begins with a
line end. -/
theorem RendererSettings.render_quoted (settings : RendererSettings) (blocks : List Node)
    (n : Nat) :
    (∀ e t, Render.allBlocks settings blocks {} = .error e t →
      (settings.render (.document (Node.quoted n blocks))).1 = .error e) ∧
    ∀ t, Render.allBlocks settings blocks {} = .ok () t →
      t.writer.out.toList ≠ [] → t.writer.out.toList.getLast? ≠ some '\n' →
      ∃ lines, (settings.render (.document (Node.quoted n blocks))).1 =
          .ok (String.ofList (Text.joinSegments lines ++ ['\n'])) ∧
        List.Forall₂ (Text.Quoted n) (Text.segments t.writer.out.toList) lines ∧
        ((∀ c ∈ blocks, c.Steady settings) →
          lines = (Text.segments t.writer.out.toList).map Text.quoteLine^[n]) := by
  have both := (Render.allBlocks_lockstep settings (Text.quotes n) blocks).run
    RenderState.orderly_empty (.inQuotes _ n) fun _ => .inr rfl
  constructor
  · intro e t run
    have some_ : blocks ≠ [] := by
      rintro rfl
      cases run
    obtain ⟨_, _, _, _, left, _⟩ | ⟨_, _, t', left, right⟩ := both.ends
    · cases left.symm.trans run
    · cases left.symm.trans run
      obtain ⟨u, failed⟩ := (Render.allBlocks_quoted (s := {}) some_ n (.inr rfl) rfl).1 e t' right
      exact render_of_error failed
  · intro t run some_out open_
    have some_ : blocks ≠ [] := by
      rintro rfl
      cases run
      exact some_out rfl
    obtain ⟨_, _, v, behind, left, right⟩ | ⟨_, _, _, left, _⟩ := both.ends
    · cases left.symm.trans run
      have ends := (Render.allBlocks_quoted (s := {}) some_ n (.inr rfl) rfl).2 _ right
      have clear : t.writer.pending = [] :=
        ((Render.allBlocks_balanced blocks).done (.inr rfl) run).2.elim id id
      obtain ⟨mid, shown, lines, whole, each⟩ := behind.quoted_lines some_out open_
      refine ⟨lines, ?_, each⟩
      rw [render_of_line ends (behind.pending.trans clear) (behind.atLineStart.trans mid) shown,
        ← whole]
    · cases left.symm.trans run

theorem RendererSettings.render_quoted_nested :
    let settings : RendererSettings := { softWraps := .preserve }
    let blocks := [Node.paragraph [.emphasis [.text "a", .lineBreak true, .text "b"]],
      .codeBlock { content := "x\n\ny" }]
    (∀ c ∈ blocks, c.Steady settings) ∧
    ∃ t, Render.allBlocks settings blocks {} = .ok () t ∧ t.writer.out.toList ≠ [] ∧
      t.writer.out.toList.getLast? ≠ some '\n' ∧
      (settings.render (.document (Node.quoted 2 blocks))).1 = .ok (String.ofList
        (Text.joinSegments ((Text.segments t.writer.out.toList).map Text.quoteLine^[2]) ++
          ['\n'])) := by
  intro settings blocks
  have steady : ∀ c ∈ blocks, c.Steady settings := by
    simp only [blocks, List.mem_cons, List.not_mem_nil, or_false, forall_eq_or_imp, forall_eq]
    exact ⟨.of_every (by decide), .of_every (by decide)⟩
  have run : ∃ t, Render.allBlocks settings blocks {} = .ok () t ∧
      t.writer.out = "*a\nb*\n\n```\nx\n\ny\n```" := ⟨_, rfl, by decide⟩
  obtain ⟨t, run, out⟩ := run
  have shown : t.writer.out.toList ≠ [] := by simp [out]
  have open_ : t.writer.out.toList.getLast? ≠ some '\n' := by simp [out]
  obtain ⟨lines, printed, _, exact_⟩ := (render_quoted settings blocks 2).2 t run shown open_
  rw [exact_ steady] at printed
  exact ⟨steady, t, run, shown, open_, printed⟩

/-- The delimiter that a line end takes along stands right behind the mark of the quote. -/
theorem RendererSettings.render_quoted_delimiter :
    let settings : RendererSettings := { softWraps := .preserve }
    let blocks := [Node.paragraph [.link "u" [.lineBreak true, .text "a"] none]]
    ∃ t, Render.allBlocks settings blocks {} = .ok () t ∧ t.writer.out.toList ≠ [] ∧
      t.writer.out.toList.getLast? ≠ some '\n' ∧
      (settings.render (.document (Node.quoted 1 blocks))).1 = .ok ">[\n> a](u)\n" ∧
      (settings.render (.document (Node.quoted 1 blocks))).1 ≠ .ok (String.ofList
        (Text.joinSegments ((Text.segments t.writer.out.toList).map Text.quoteLine) ++
          ['\n'])) := by
  intro settings blocks
  have run : ∃ t, Render.allBlocks settings blocks {} = .ok () t ∧
      t.writer.out = "[\na](u)" := ⟨_, rfl, by decide⟩
  have printed : (settings.render (.document (Node.quoted 1 blocks))).1 = .ok ">[\n> a](u)\n" := by
    rfl
  obtain ⟨t, run, out⟩ := run
  refine ⟨t, run, by simp [out], by simp [out], printed, ?_⟩
  rw [printed, out]
  exact fun h => absurd (Except.ok.inj h) (by decide)

end MarkdownCanon
