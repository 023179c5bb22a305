import MarkdownCanon.Proofs.Layout
import MarkdownCanon.Proofs.Pairing

/-! Spans side by side. Nothing stands between the closing delimiter of one and the opening one of the
next, so that the two run into each other where they are made of the same character. -/

namespace MarkdownCanon

namespace Node

/-- Text, or a span around text. -/
def isEmphatic : Node → Bool
  | text _ | emphasis _ | strong _ | strikethrough _ => true
  | _ => false

def isSpan : Node → Bool
  | emphasis _ | strong _ | strikethrough _ => true
  | _ => false

theorem everyOf_append {p : Node → Bool} {a b : List Node} (h : everyOf p (a ++ b) = true) :
    everyOf p b = true := by
  induction a with
  | nil => exact h
  | cons n a ih =>
    rw [List.cons_append, everyOf, Bool.and_eq_true] at h
    exact ih h.2

theorem everyOf_children {p : Node → Bool} {n : Node} (span : n.isSpan = true)
    (h : n.every p = true) : everyOf p n.children = true := by
  cases n with
  | emphasis _ | strong _ | strikethrough _ =>
    rw [every, Bool.and_eq_true] at h
    exact h.2
  | _ => cases span

theorem startsAlphanumeric_of_isSpan {n : Node} (span : n.isSpan = true) :
    n.startsAlphanumeric = false := by
  cases n with
  | emphasis _ | strong _ | strikethrough _ => rfl
  | _ => cases span

/-- The delimiter of a span, as the settings have it. -/
def token (settings : RendererSettings) : Node → List Char
  | emphasis _ => settings.emphasisToken
  | strong _ => settings.strongToken
  | strikethrough _ => ['~', '~']
  | _ => []

/-- The character that a span is delimited by. Beside a word this is no underscore. -/
def mark? (settings : RendererSettings) (word : Bool) : Node → Option Char
  | emphasis _ => some (if word then '*' else settings.emphasis.char)
  | strong _ => some (if word then '*' else (settings.strong.getD settings.emphasis).char)
  | strikethrough _ => some '~'
  | _ => none

/-- `Row content siblings`: `siblings` is `content` itself, or the content of a span in it. -/
inductive Row : List Node → List Node → Prop where
  | self (content : List Node) : Row content content
  | inside {n : Node} {content siblings : List Node} (child : n ∈ content)
      (row : Row n.children siblings) : Row content siblings

end Node

namespace Writer

/-- A writer without prefixes that has nothing but delimiters staged. -/
structure Plain (w : Writer) : Prop where
  bare : w.indentation = {}
  last : w.last = w.out.toList.getLast?
  delimiters : ∀ c ∈ w.pending, Markup.isDelimiter c = true

/-- Nothing has gone out, or all that was staged and then `text`. -/
inductive Grown (w : Writer) : Writer → List Char → Prop where
  | silent : Grown w w []
  | shown {w' : Writer} {text : List Char} (some_ : text ≠ [])
      (out : w'.out.toList = w.out.toList ++ (w.pending ++ text)) (clear : w'.pending = []) :
      Grown w w' text

variable {u v w : Writer} {a b : List Char}

theorem Grown.trans (h : u.Grown v a) (h' : v.Grown w b) : u.Grown w (a ++ b) := by
  cases h with
  | silent => exact h'
  | shown some_ out clear =>
    cases h' with
    | silent => simpa using Grown.shown some_ out clear
    | shown _ out' clear' => exact .shown (by simp [some_]) (by simp [out', out, clear]) clear'

theorem Grown.out (h : u.Grown v a) : u.out.toList <+: v.out.toList := by
  cases h with
  | silent => exact List.prefix_rfl
  | shown _ out _ => exact ⟨_, out.symm⟩

theorem Grown.of_ne_nil (h : u.Grown v a) (some_ : a ≠ []) :
    v.out.toList = u.out.toList ++ (u.pending ++ a) ∧ v.pending = [] := by
  cases h with
  | silent => exact absurd rfl some_
  | shown _ out clear => exact ⟨out, clear⟩

theorem Plain.write (h : w.Plain) (shown : a ≠ []) : (w.write a).Plain ∧ w.Grown (w.write a) a := by
  obtain ⟨out, last⟩ := write_bare h.bare shown
  have clear := write_pending w shown
  refine ⟨⟨by simp [h.bare], ?_, by simp [clear]⟩, .shown shown out clear⟩
  rw [out, last, ← List.append_assoc, List.getLast?_append_of_ne_nil _ shown]

theorem Plain.last_of_grown (h : v.Plain) (grown : u.Grown v (a ++ b)) (shown : b ≠ []) :
    v.last = b.getLast? := by
  obtain ⟨out, -⟩ := grown.of_ne_nil (by simp [shown])
  rw [h.last, out, ← List.append_assoc, ← List.append_assoc]
  exact List.getLast?_append_of_ne_nil _ shown

theorem Plain.stage (h : w.Plain) (delimiters : ∀ c ∈ a, Markup.isDelimiter c = true) :
    (w.stage a).Plain :=
  ⟨h.bare, h.last, fun c m => (List.mem_append.mp m).elim (h.delimiters c) (delimiters c)⟩

end Writer

namespace Render

open Node

/-- A step that succeeds and only adds to the text; if `shows`, it does add to it. -/
def Adds (shows : Prop) (x : Render Unit) : Prop :=
  ∀ ⦃s⦄, s.writer.Plain → ∃ t text, x s = .ok () t ∧ t.writer.Plain ∧
    s.writer.Grown t.writer text ∧ (shows → text ≠ [])

theorem Adds.done {shows : Prop} {x : Render Unit} (hx : Adds shows x) {s t : RenderState}
    (plain : s.writer.Plain) (run : x s = .ok () t) :
    t.writer.Plain ∧ s.writer.out.toList <+: t.writer.out.toList := by
  obtain ⟨u, text, run', plain', grown, _⟩ := hx plain
  cases run'.symm.trans run
  exact ⟨plain', grown.out⟩

theorem spacedText_ne_nil {content : String} (visible : (Node.text content).isBlankInline = false)
    (w : Writer) : spacedText content w ≠ [] := by
  have marks := text_marks visible
  rw [Node.marks] at marks
  obtain ⟨c, m, shown⟩ := List.any_eq_true.mp marks
  exact List.ne_nil_of_mem (mem_spacedText m (by simpa using shown) w)

theorem Adds.text (content : String) :
    Adds ((Node.text content).isBlankInline = false) (text content) := by
  intro s plain
  rw [text_run]
  by_cases empty : (spacedText content s.writer).isEmpty = true
  · rw [if_pos empty]
    refine ⟨s, [], rfl, plain, .silent, fun visible => ?_⟩
    exact absurd (List.isEmpty_iff.mp empty) (spacedText_ne_nil visible s.writer)
  · rw [if_neg empty]
    have shown : literalText ⟨s.atLineStart, s.inTableCell⟩ s.normalTail
        (spacedText content s.writer) s.nextInline ≠ [] := by
      intro none_
      have kept := (Markup.escape_sublist ⟨s.atLineStart, s.inTableCell⟩ s.normalTail
        (spacedText content s.writer)).trans (guardBang_sublist _ s.nextInline)
      rw [literalText] at none_
      rw [none_, List.sublist_nil] at kept
      exact empty (by simp [kept])
    obtain ⟨plain', grown⟩ := plain.write shown
    exact ⟨_, _, rfl, plain', grown, fun _ => shown⟩

theorem closeSpan_clear {token : List Char} {s : RenderState} (clear : s.writer.pending = []) :
    closeSpan token s = .ok () { s with writer := s.writer.write token } := by
  unfold closeSpan
  rw [get_bind, if_pos (by simp [Writer.committed, clear])]
  rfl

theorem delimiterFor_ne_nil {token : List Char} (some_ : token ≠ []) (before : Option Char)
    (next : Option Node) : delimiterFor token before next ≠ [] := by
  unfold delimiterFor
  split <;> simp [some_]

/-- A span with visible content stands between its delimiters. -/
theorem span_adds {x : Render Unit} (hx : Adds True x) {token : List Char} (some_ : token ≠ [])
    (delimiters : ∀ c ∈ token, Markup.isDelimiter c = true) {s : RenderState}
    (plain : s.writer.Plain) :
    ∃ u v t inside, u.writer.Plain ∧ x u = .ok () v ∧ span token false x s = .ok () t ∧
      v.writer.out.toList <+: t.writer.out.toList ∧ t.writer.Plain ∧
      s.writer.Grown t.writer (delimiterFor token s.writer.last s.nextInline ++ inside ++
        delimiterFor token s.writer.last s.nextInline) := by
  have chars := delimiterFor_delimiters delimiters s.writer.last s.nextInline
  have shown := delimiterFor_ne_nil some_ s.writer.last s.nextInline
  generalize delimiter : delimiterFor token s.writer.last s.nextInline = d at chars shown ⊢
  have opened : (s.writer.stage d).Plain := plain.stage chars
  obtain ⟨t, inside, run, plain', grown, visible⟩ := hx (s :=
    { s with writer := s.writer.stage d, atLineStart := false, normalTail := [] }) opened
  obtain ⟨out, clear⟩ := grown.of_ne_nil (visible trivial)
  obtain ⟨closed, last⟩ := plain'.write shown
  obtain ⟨out', clear'⟩ := last.of_ne_nil shown
  refine ⟨_, t, { t with writer := t.writer.write d }, inside, opened, run, ?_, last.out, closed,
    ?_⟩
  · unfold span
    rw [if_neg (by simp), get_bind, delimiter, leaveLineStart_bind, stage_bind, bind_of_ok run,
      closeSpan_clear clear]
  · refine .shown (by simp [shown]) ?_ clear'
    simp [out', out, clear, Writer.stage]

theorem node_span (settings : RendererSettings) {n : Node} (span : n.isSpan = true) :
    node settings n = Render.span (n.token settings) (allBlankInline n.children)
      (inlines settings n.children) ∧ n.isBlankInline = allBlankInline n.children := by
  cases n with
  | emphasis _ | strong _ | strikethrough _ => simp [node, token, children, isBlankInline]
  | _ => cases span

theorem token_delimiters (settings : RendererSettings) {n : Node} (span : n.isSpan = true) :
    n.token settings ≠ [] ∧ ∀ c ∈ n.token settings, Markup.isDelimiter c = true := by
  cases n with
  | emphasis _ =>
    exact ⟨by simp [token, RendererSettings.emphasisToken], (tokens_delimiters settings).1⟩
  | strong _ =>
    exact ⟨by simp [token, RendererSettings.strongToken], (tokens_delimiters settings).2⟩
  | strikethrough _ => exact ⟨by simp [token], by simp [token, Markup.isDelimiter]⟩
  | _ => cases span

theorem Adds.bind {p q : Prop} {x y : Render Unit} (hx : Adds p x) (hy : Adds q y) :
    Adds (p ∨ q) (do x; y) := by
  intro s plain
  obtain ⟨t, a, run, plain', grown, shows⟩ := hx plain
  obtain ⟨u, b, run', plain'', grown', shows'⟩ := hy plain'
  refine ⟨u, a ++ b, by rw [bind_of_ok run, run'], plain'', grown.trans grown', ?_⟩
  rintro (h | h)
  · simp [shows h]
  · simp [shows' h]

theorem Adds.mono {p q : Prop} {x : Render Unit} (hx : Adds p x) (imp : q → p) : Adds q x := by
  intro s plain
  obtain ⟨t, a, run, plain', grown, shows⟩ := hx plain
  exact ⟨t, a, run, plain', grown, fun h => shows (imp h)⟩

/-- A visible span is printed between its delimiters. -/
theorem node_encloses (settings : RendererSettings) {n : Node} (span : n.isSpan = true)
    (visible : n.isBlankInline = false)
    (hx : Adds (allBlankInline n.children = false) (inlines settings n.children))
    {s : RenderState} (plain : s.writer.Plain) :
    ∃ u v t inside, u.writer.Plain ∧ inlines settings n.children u = .ok () v ∧
      node settings n s = .ok () t ∧ v.writer.out.toList <+: t.writer.out.toList ∧
      t.writer.Plain ∧
      s.writer.Grown t.writer (delimiterFor (n.token settings) s.writer.last s.nextInline ++
        inside ++ delimiterFor (n.token settings) s.writer.last s.nextInline) := by
  obtain ⟨run, blank⟩ := node_span settings span
  obtain ⟨some_, delimiters⟩ := token_delimiters settings span
  rw [blank] at visible
  rw [run, visible]
  exact span_adds (hx.mono fun _ => visible) some_ delimiters plain

theorem Adds.span (settings : RendererSettings) {n : Node} (span : n.isSpan = true)
    (hx : Adds (allBlankInline n.children = false) (inlines settings n.children)) :
    Adds (n.isBlankInline = false) (node settings n) := by
  cases visible : n.isBlankInline with
  | true =>
    obtain ⟨run, blank⟩ := node_span settings span
    rw [run, ← blank, visible]
    exact hx.mono fun h => by cases h
  | false =>
    intro s plain
    obtain ⟨_, _, t, inside, _, _, run, _, plain', grown⟩ :=
      node_encloses settings span visible hx plain
    have shown := delimiterFor_ne_nil (token_delimiters settings span).1 s.writer.last s.nextInline
    exact ⟨t, _, run, plain', grown, fun _ => by simp [shown]⟩

mutual

theorem node_adds (settings : RendererSettings) : (n : Node) → n.every isEmphatic = true →
    Adds (n.isBlankInline = false) (node settings n)
  | .text content, _ => by
    rw [node]
    exact .text content
  | .emphasis content, h => by
    rw [every, Bool.and_eq_true] at h
    exact .span settings rfl (inlines_adds settings content h.2)
  | .strong content, h => by
    rw [every, Bool.and_eq_true] at h
    exact .span settings rfl (inlines_adds settings content h.2)
  | .strikethrough content, h => by
    rw [every, Bool.and_eq_true] at h
    exact .span settings rfl (inlines_adds settings content h.2)

theorem inlines_adds (settings : RendererSettings) : (content : List Node) →
    everyOf isEmphatic content = true →
    Adds (allBlankInline content = false) (inlines settings content)
  | [], _ => by
    rw [inlines]
    exact fun s plain => ⟨s, [], rfl, plain, .silent, by simp [allBlankInline]⟩
  | child :: rest, h => by
    rw [everyOf, Bool.and_eq_true] at h
    have both := (node_adds settings child h.1).bind (inlines_adds settings rest h.2)
    rw [inlines]
    intro s plain
    rw [modify_bind]
    obtain ⟨t, text, run, plain', grown, shows⟩ :=
      both (s := { s with nextInline := rest.head? }) plain
    refine ⟨t, text, run, plain', grown, fun visible => shows ?_⟩
    rwa [allBlankInline, Bool.and_eq_false_iff] at visible

end

section Rows

variable {settings : RendererSettings} {s t : RenderState}

/-- Printing a row comes to each of its members. -/
theorem inlines_reaches (settings : RendererSettings) {before rest : List Node}
    (emphatic : everyOf isEmphatic (before ++ rest) = true) (plain : s.writer.Plain) :
    ∃ r : RenderState, r.writer.Plain ∧
      inlines settings (before ++ rest) s = inlines settings rest r := by
  induction before generalizing s with
  | nil => exact ⟨s, plain, rfl⟩
  | cons c before ih =>
    rw [List.cons_append, everyOf, Bool.and_eq_true] at emphatic
    obtain ⟨u, _, run, plain', _⟩ := node_adds settings c emphatic.1
      (s := { s with nextInline := (before ++ rest).head? }) plain
    obtain ⟨r, plain'', same⟩ := ih emphatic.2 plain'
    refine ⟨r, plain'', ?_⟩
    rw [List.cons_append, inlines, modify_bind, bind_of_ok run, same]

/-- Printing a node comes to its content. -/
theorem node_reaches {n : Node} (emphatic : n.every isEmphatic = true) (plain : s.writer.Plain)
    (run : node settings n s = .ok () t) :
    ∃ u v : RenderState, u.writer.Plain ∧ everyOf isEmphatic n.children = true ∧
      inlines settings n.children u = .ok () v ∧
      v.writer.out.toList <+: t.writer.out.toList := by
  by_cases span : n.isSpan = true
  · have inside := everyOf_children span emphatic
    cases visible : n.isBlankInline with
    | true =>
      obtain ⟨printed, blank⟩ := node_span settings span
      rw [printed, ← blank, visible] at run
      exact ⟨s, t, plain, inside, run, List.prefix_rfl⟩
    | false =>
      obtain ⟨u, v, t', _, plain', inner, whole, front, _⟩ :=
        node_encloses settings span visible (inlines_adds settings n.children inside) plain
      cases whole.symm.trans run
      exact ⟨u, v, plain', inside, inner, front⟩
  · cases n with
    | text content =>
      have front := ((node_adds settings _ emphatic).done plain run).2
      exact ⟨s, s, plain, rfl, by simp [children, inlines], front⟩
    | emphasis _ | strong _ | strikethrough _ => exact absurd rfl span
    | _ => cases every_self emphatic

/-- Printing content comes to every row in it. -/
theorem row_reached {content siblings : List Node} (row : Row content siblings)
    (emphatic : everyOf isEmphatic content = true) (plain : s.writer.Plain)
    (run : inlines settings content s = .ok () t) :
    ∃ u v : RenderState, u.writer.Plain ∧ everyOf isEmphatic siblings = true ∧
      inlines settings siblings u = .ok () v ∧ v.writer.out.toList <+: t.writer.out.toList := by
  -- By the depth of the row: a span around it prints it between staging and closing.
  induction row generalizing s t with
  | self content => exact ⟨s, t, plain, emphatic, run, List.prefix_rfl⟩
  | inside child row ih =>
    obtain ⟨before, after, rfl⟩ := List.append_of_mem child
    obtain ⟨r, plain', same⟩ := inlines_reaches settings emphatic plain
    have later := everyOf_append emphatic
    rw [everyOf, Bool.and_eq_true] at later
    rw [same, inlines, modify_bind] at run
    obtain ⟨_, w, printed, rest⟩ := bind_eq_ok.mp run
    obtain ⟨plain'', -⟩ := (node_adds settings _ later.1).done (by exact plain') printed
    have back := ((inlines_adds settings after later.2).done plain'' rest).2
    obtain ⟨u, v, ready, inside, inner, front⟩ := node_reaches later.1 (by exact plain') printed
    obtain ⟨u', v', ready', inside', inner', front'⟩ := ih inside ready inner
    exact ⟨u', v', ready', inside', inner', front'.trans (front.trans back)⟩

/-- What a visible span adds: all that is staged, and its content between two delimiters. -/
theorem node_between (settings : RendererSettings) {n : Node}
    (emphatic : n.every isEmphatic = true) (span : n.isSpan = true)
    (visible : n.isBlankInline = false) (plain : s.writer.Plain) :
    let d := delimiterFor (n.token settings) s.writer.last s.nextInline
    ∃ t inside, node settings n s = .ok () t ∧ t.writer.Plain ∧ t.writer.pending = [] ∧
      t.writer.last = d.getLast? ∧
      t.writer.out.toList = s.writer.out.toList ++ (s.writer.pending ++ (d ++ inside ++ d)) := by
  intro d
  obtain ⟨_, _, t, inside, _, _, run, _, plain', grown⟩ := node_encloses settings span visible
    (inlines_adds settings n.children (everyOf_children span emphatic)) plain
  have shown := delimiterFor_ne_nil (token_delimiters settings span).1 s.writer.last s.nextInline
  obtain ⟨out, clear⟩ := grown.of_ne_nil (by simp [shown])
  exact ⟨t, inside, run, plain', clear, plain'.last_of_grown grown shown, out⟩

/-- Two spans side by side, each between its own delimiters. -/
theorem inlines_meet {before after : List Node} {x y : Node}
    (emphatic : everyOf isEmphatic (before ++ x :: y :: after) = true) (plain : s.writer.Plain)
    (run : inlines settings (before ++ x :: y :: after) s = .ok () t)
    (spans : x.isSpan = true ∧ y.isSpan = true)
    (visible : x.isBlankInline = false ∧ y.isBlankInline = false) :
    ∃ front staged inside inside' rest d d',
      t.writer.out.toList =
        front ++ staged ++ (d ++ inside ++ d) ++ (d' ++ inside' ++ d') ++ rest ∧
      (∀ c ∈ staged, Markup.isDelimiter c = true) ∧
      d = delimiterFor (x.token settings) front.getLast? (some y) ∧
      d' = delimiterFor (y.token settings) d.getLast? after.head? := by
  obtain ⟨r, plain, same⟩ := inlines_reaches settings emphatic plain
  have later := everyOf_append emphatic
  rw [everyOf, Bool.and_eq_true, everyOf, Bool.and_eq_true] at later
  obtain ⟨emphaticX, emphaticY, others⟩ := later
  -- The first span takes all that is staged along, so that the second has nothing before its own
  -- delimiter, and finds the delimiter of the first as the last character written.
  obtain ⟨u, inside, printed, plainU, clear, last, out⟩ := node_between settings
    (s := { r with nextInline := some y }) emphaticX spans.1 visible.1 plain
  obtain ⟨v, inside', printed', plainV, -, -, out'⟩ := node_between settings
    (s := { u with nextInline := after.head? }) emphaticY spans.2 visible.2 plainU
  rw [same, inlines, modify_bind, List.head?_cons, bind_of_ok printed, inlines, modify_bind,
    bind_of_ok printed'] at run
  obtain ⟨rest, whole⟩ := ((inlines_adds settings after others).done plainV run).2
  refine ⟨r.writer.out.toList, r.writer.pending, inside, inside', rest,
    delimiterFor (x.token settings) r.writer.last (some y),
    delimiterFor (y.token settings) u.writer.last after.head?, ?_, plain.delimiters, ?_, ?_⟩
  · rw [← whole, out', out, clear]
    simp
  · rw [plain.last]
  · rw [last]

end Rows

theorem isAlphanumeric_of_isDelimiter {c : Char} (h : Markup.isDelimiter c = true) :
    Text.isAlphanumeric c = false := by
  simp only [Markup.isDelimiter, Bool.or_eq_true, beq_iff_eq] at h
  obtain (((rfl | rfl) | rfl) | rfl) | rfl := h <;> decide

theorem delimiterFor_beside (settings : RendererSettings) {n : Node} (span : n.isSpan = true)
    (before : Option Char) (next : Option Node) :
    (delimiterFor (n.token settings) before next).getLast?.any Text.isAlphanumeric = false := by
  have chars := delimiterFor_delimiters (token_delimiters settings span).2 before next
  cases last : (delimiterFor (n.token settings) before next).getLast? with
  | none => rfl
  | some c => exact isAlphanumeric_of_isDelimiter (chars c (List.mem_of_getLast? last))

/-- The delimiters of a span begin and end with its mark. -/
theorem delimiterFor_mark (settings : RendererSettings) {n : Node} (span : n.isSpan = true)
    (before : Option Char) (next : Option Node) :
    let word := before.any Text.isAlphanumeric || next.any startsAlphanumeric
    (delimiterFor (n.token settings) before next).head? = n.mark? settings word ∧
      (delimiterFor (n.token settings) before next).getLast? = n.mark? settings word := by
  intro word
  have delimiter : delimiterFor (n.token settings) before next =
      if word then (n.token settings).map fun c => if c == '_' then '*' else c
      else n.token settings := rfl
  rw [delimiter]
  cases n with
  | emphasis _ =>
    simp only [token, RendererSettings.emphasisToken, mark?]
    cases settings.emphasis <;> cases word <;> decide
  | strong _ =>
    simp only [token, RendererSettings.strongToken, mark?]
    cases settings.strong.getD settings.emphasis <;> cases word <;> decide
  | strikethrough _ =>
    simp only [token, mark?]
    cases word <;> decide
  | _ => cases span

end Render

/-- **Delimiters side by side.** Content of text and spans is printed, and wherever in it a visible
span comes right after another one, the closing delimiter of the first and the opening one of the
second have nothing between them. They stay two delimiters just where the spans have different
marks: a span's own, or a star for an underscore next to a word. -/
theorem RendererSettings.renderInlines_delimiters_meet (settings : RendererSettings)
    (flags : ScratchFlags) {content : List Node}
    (emphatic : Node.everyOf Node.isEmphatic content = true) :
    ∃ out, (settings.renderInlines flags content).1 = .ok out ∧
      ∀ before x y after, Node.Row content (before ++ x :: y :: after) →
        x.isSpan = true ∧ y.isSpan = true →
        x.isBlankInline = false ∧ y.isBlankInline = false →
        ∃ front staged inside inside' rest d d',
          out.toList = front ++ staged ++ (d ++ inside ++ d) ++ (d' ++ inside' ++ d') ++ rest ∧
          (∀ c ∈ staged, Markup.isDelimiter c = true) ∧
          d = Render.delimiterFor (x.token settings) front.getLast? (some y) ∧
          d' = Render.delimiterFor (y.token settings) d.getLast? after.head? ∧
          (d.getLast? ≠ d'.head? ↔
            x.mark? settings (front.getLast?.any Text.isAlphanumeric) ≠
              y.mark? settings (after.head?.any Node.startsAlphanumeric)) := by
  have plain : (RenderState.enter {} flags).writer.Plain := ⟨rfl, rfl, by simp [RenderState.enter]⟩
  obtain ⟨t, _, run, _⟩ := Render.inlines_adds settings content emphatic plain
  refine ⟨String.ofList t.writer.out.toList, ?_, ?_⟩
  · have aside := Render.scratch_eq_ok.mpr ⟨t, run, rfl, rfl⟩
    simp only [renderInlines, aside]
  intro before x y after row spans visible
  obtain ⟨u, v, plain', emphatic', inner, back⟩ := Render.row_reached row emphatic plain run
  obtain ⟨front, staged, inside, inside', rest, d, d', out, delimiters, first, second⟩ :=
    Render.inlines_meet emphatic' plain' inner spans visible
  obtain ⟨more, whole⟩ := back
  refine ⟨front, staged, inside, inside', rest ++ more, d, d', ?_, delimiters, first, second, ?_⟩
  · rw [String.toList_ofList, ← whole, out]
    simp
  have ends := (Render.delimiterFor_mark settings spans.1 front.getLast? (some y)).2
  have begins := (Render.delimiterFor_mark settings spans.2 d.getLast? after.head?).1
  have apart := Render.delimiterFor_beside settings spans.1 front.getLast? (some y)
  rw [← first] at ends apart
  rw [← second, apart, Bool.false_or] at begins
  rw [ends, begins, Option.any_some, Node.startsAlphanumeric_of_isSpan spans.2, Bool.or_false]

/-- A deletion, and emphasis whose underscores the word behind it turns into stars. -/
theorem RendererSettings.renderInlines_delimiters_meet_struck :
    let settings : RendererSettings := { emphasis := .underscore }
    let x := Node.strikethrough [.text "b"]
    let y := Node.emphasis [.text "c"]
    let content := [Node.strong [.text "a", x, y, .text "d"]]
    ∃ out, (settings.renderInlines {} content).1 = .ok out ∧
      ∃ front staged inside inside' rest d d',
        out.toList = front ++ staged ++ (d ++ inside ++ d) ++ (d' ++ inside' ++ d') ++ rest ∧
        d.getLast? ≠ d'.head? := by
  intro settings x y content
  have emphatic : Node.everyOf Node.isEmphatic content = true := by decide
  have row : Node.Row content ([.text "a"] ++ x :: y :: [.text "d"]) :=
    .inside List.mem_cons_self (.self _)
  obtain ⟨out, printed, meet⟩ := settings.renderInlines_delimiters_meet {} emphatic
  obtain ⟨front, staged, inside, inside', rest, d, d', whole, -, -, -, apart⟩ :=
    meet _ _ _ _ row ⟨rfl, rfl⟩ ⟨by decide, by decide⟩
  have starred : y.mark? settings ([Node.text "d"].head?.any Node.startsAlphanumeric) =
      some '*' := by decide
  refine ⟨out, printed, front, staged, inside, inside', rest, d, d', whole, apart.mpr ?_⟩
  rw [starred]
  exact (by decide : some '~' ≠ some '*')

/-- Two spans of a kind run into each other. -/
theorem RendererSettings.renderInlines_merges_delimiters :
    let x := Node.emphasis [.text "a"]
    let y := Node.emphasis [.text "b"]
    x.isBlankInline = false ∧ y.isBlankInline = false ∧
      (RendererSettings.renderInlines {} {} [x]).1 = .ok "*a*" ∧
      (RendererSettings.renderInlines {} {} [x, y]).1 = .ok "*a**b*" := by
  intro x y
  exact ⟨by decide, by decide, by decide, by decide⟩

end MarkdownCanon
