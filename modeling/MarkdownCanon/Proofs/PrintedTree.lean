import MarkdownCanon.Proofs.Delimiters

/-! Inline content as it is printed: the tree of its nodes, each with what goes out before its
children and what goes out behind them. What a node itself brings is told from the text before it,
from the delimiters staged since and from the node that follows. So what is to be shown of the
printed text can be shown by going through this tree, without the state of printing. -/

namespace MarkdownCanon

/-- An inline node that has content of its own. -/
def Node.encloses : Node → Bool
  | .emphasis _ | .strong _ | .strikethrough _ | .link .. | .image .. => true
  | _ => false

/-- A printed node. One without children has all of its text in `opening`. -/
inductive Printed where
  | mk (node : Node) (opening : List Char) (inside : List Printed) (closing : List Char)

namespace Printed

def node : Printed → Node
  | mk node _ _ _ => node

def opening : Printed → List Char
  | mk _ opening _ _ => opening

def closing : Printed → List Char
  | mk _ _ _ closing => closing

mutual

def text : Printed → List Char
  | mk _ opening inside closing => opening ++ (textOf inside ++ closing)

def textOf : List Printed → List Char
  | [] => []
  | p :: rest => p.text ++ textOf rest

end

mutual

/-- Whether `Q` holds all over a printed tree. It is told what text stands before each node and what
text stands behind it. -/
def Everywhere (Q : List Char → Printed → List Char → Prop) (front : List Char) :
    Printed → List Char → Prop
  | mk node opening inside closing, back =>
    Q front (mk node opening inside closing) back ∧
      EverywhereOf Q (front ++ opening) inside (closing ++ back)

def EverywhereOf (Q : List Char → Printed → List Char → Prop) (front : List Char) :
    List Printed → List Char → Prop
  | [], _ => True
  | p :: rest, back =>
    Everywhere Q front p (textOf rest ++ back) ∧ EverywhereOf Q (front ++ p.text) rest back

end

section

variable {Q R S : List Char → Printed → List Char → Prop}

mutual

theorem Everywhere.join (imp : ∀ f p b, Q f p b → R f p b → S f p b) :
    {p : Printed} → {front back : List Char} → Everywhere Q front p back →
    Everywhere R front p back → Everywhere S front p back
  | mk _ _ _ _, _, _, ⟨here, inside⟩, ⟨here', inside'⟩ =>
    ⟨imp _ _ _ here here', inside.join imp inside'⟩

theorem EverywhereOf.join (imp : ∀ f p b, Q f p b → R f p b → S f p b) :
    {pieces : List Printed} → {front back : List Char} → EverywhereOf Q front pieces back →
    EverywhereOf R front pieces back → EverywhereOf S front pieces back
  | [], _, _, _, _ => trivial
  | _ :: _, _, _, ⟨first, rest⟩, ⟨first', rest'⟩ => ⟨first.join imp first', rest.join imp rest'⟩

end

mutual

/-- What is told to stand before a node and behind it makes up the text together with its own. -/
theorem everywhere_text {whole : List Char} : (p : Printed) → {front back : List Char} →
    whole = front ++ (p.text ++ back) →
    Everywhere (fun front p back => whole = front ++ (p.text ++ back)) front p back
  | mk _ opening inside closing, front, back, here =>
    ⟨here, everywhereOf_text inside (by simpa [text] using here)⟩

theorem everywhereOf_text {whole : List Char} : (pieces : List Printed) →
    {front back : List Char} → whole = front ++ (textOf pieces ++ back) →
    EverywhereOf (fun front p back => whole = front ++ (p.text ++ back)) front pieces back
  | [], _, _, _ => trivial
  | p :: rest, front, back, here =>
    ⟨everywhere_text p (by simpa [textOf] using here),
      everywhereOf_text rest (by simpa [textOf] using here)⟩

end

end

end Printed

/-- A place in a line: what has been written before it, and the delimiters staged since. -/
structure Spot where
  written : List Char
  staged : List Char

namespace Spot

/-- All that stands before the place, once something is written there. -/
def front (spot : Spot) : List Char := spot.written ++ spot.staged

/-- The place behind a text, which takes along what is staged unless it is empty. -/
def past (spot : Spot) (text : List Char) : Spot :=
  if text.isEmpty then spot else ⟨spot.written ++ (spot.staged ++ text), []⟩

def opened (spot : Spot) (token : List Char) : Spot := { spot with staged := spot.staged ++ token }

theorem front_past (spot : Spot) (text : List Char) :
    (spot.past text).front = spot.front ++ text := by
  unfold past
  split
  · rename_i none_
    simp [List.isEmpty_iff.mp none_]
  · simp [front]

theorem staged_past (spot : Spot) (text : List Char) : (spot.past text).staged ⊆ spot.staged := by
  unfold past
  split
  · exact fun _ m => m
  · exact List.nil_subset _

theorem written_past (spot : Spot) {text : List Char} (some_ : text ≠ []) :
    (spot.past text).written.getLast? = text.getLast? := by
  rw [past, if_neg (by simpa using some_), ← List.append_assoc]
  exact List.getLast?_append_of_ne_nil _ some_

theorem front_opened (spot : Spot) (token : List Char) :
    (spot.opened token).front = spot.front ++ token := by
  simp [front, opened]

end Spot

namespace Render

/-- What a break is written as, given whether it must stay on its line and the character before. -/
def breakText (settings : RendererSettings) (oneLine soft : Bool) (last : Option Char) :
    List Char :=
  if soft && settings.softWraps == .preserve && !oneLine then ['\n']
  else if soft || oneLine then (if last == some ' ' then [] else [' '])
  else [' ', ' ', '\n']

theorem lineBreak_run (settings : RendererSettings) (soft : Bool) (s : RenderState) :
    ∃ start tail, lineBreak settings soft s = .ok () { s with
      writer := s.writer.write
        (breakText settings (s.inHeading || s.inTableCell) soft s.writer.last)
      atLineStart := start
      normalTail := tail } := by
  unfold lineBreak breakText
  rw [get_bind]
  dsimp only
  split
  · exact ⟨true, [], rfl⟩
  · split
    · by_cases space : s.writer.last = some ' '
      · rw [space]
        exact ⟨s.atLineStart, [' '], rfl⟩
      · have other : (s.writer.last != some ' ') = true := by simpa using space
        rw [if_pos other, if_neg (by simpa using space)]
        exact ⟨s.atLineStart, [' '], rfl⟩
    · exact ⟨true, [], rfl⟩

end Render

namespace Printed

section

variable (settings : RendererSettings) (cell heading : Bool)

/-- What a node itself brings at a place, before its children and behind them. -/
def Brings (spot : Spot) (next : Option Node) : Node → List Char → List Char → Prop
  | .text content, opening, closing => closing = [] ∧ ∃ start tail,
    opening = Render.literalText ⟨start, cell⟩ tail
      (Render.spacedText content { last := spot.written.getLast?, pending := spot.staged }) next
  | .code content, opening, closing =>
    closing = [] ∧ opening = if content.isEmpty then [] else Render.codeText cell content
  | .autolink _ label, opening, closing => closing = [] ∧ opening = '<' :: label.toList ++ ['>']
  | .htmlInline content, opening, closing => closing = [] ∧ opening = content.toList
  | .lineBreak soft, opening, closing =>
    closing = [] ∧
      opening = Render.breakText settings (heading || cell) soft spot.written.getLast?
  | .link url _ title, opening, closing =>
    opening = ['['] ∧ closing = Markup.linkTail (url.getD "").toList (title.getD "").toList
  | .image url _ title, opening, closing =>
    opening = ['!', '['] ∧ closing = Markup.linkTail (url.getD "").toList (title.getD "").toList
  | span, opening, closing =>
    let delimiter := if span.isBlankInline then []
      else Render.delimiterFor (span.token settings) spot.written.getLast? next
    opening = delimiter ∧ closing = delimiter

section

variable {settings cell heading} {spot : Spot} {next : Option Node} {n : Node}
  {opening closing : List Char}

theorem brings_span (span : n.isSpan = true) :
    Brings settings cell heading spot next n opening closing ↔
      (opening = if n.isBlankInline then []
        else Render.delimiterFor (n.token settings) spot.written.getLast? next) ∧
      closing = opening := by
  cases n with
  | emphasis _ | strong _ | strikethrough _ =>
    constructor
    · rintro ⟨rfl, rfl⟩
      exact ⟨rfl, rfl⟩
    · rintro ⟨rfl, rfl⟩
      exact ⟨rfl, rfl⟩
  | _ => cases span

theorem Brings.span_delimiters (brings : Brings settings cell heading spot next n opening closing)
    (span : n.isSpan = true) (visible : n.isBlankInline = false) :
    opening = Render.delimiterFor (n.token settings) spot.written.getLast? next ∧
      closing = opening ∧ opening ≠ [] ∧ ∀ c ∈ opening, Markup.isDelimiter c = true := by
  obtain ⟨rfl, rfl⟩ := (brings_span span).mp brings
  obtain ⟨some_, delimiters⟩ := Render.token_delimiters settings span
  rw [visible, if_neg (by simp)]
  exact ⟨rfl, rfl, Render.delimiterFor_ne_nil some_ _ _,
    Render.delimiterFor_delimiters delimiters _ _⟩

/-- What a node brings before its children is made of opening characters. -/
theorem Brings.delimiters (brings : Brings settings cell heading spot next n opening closing)
    (encloses : n.encloses = true) : ∀ c ∈ opening, Markup.isDelimiter c = true := by
  cases span : n.isSpan with
  | true =>
    cases visible : n.isBlankInline with
    | false => exact (brings.span_delimiters span visible).2.2.2
    | true =>
      obtain ⟨rfl, -⟩ := (brings_span span).mp brings
      simp [visible]
  | false =>
    cases n with
    | link _ _ _ | image _ _ _ =>
      obtain ⟨rfl, -⟩ := brings
      simp [Markup.isDelimiter]
    | emphasis _ | strong _ | strikethrough _ => cases span
    | _ => cases encloses

end

mutual

/-- Whether a node is printed as it has to be at a place. What it brings before its children is
staged until one of them is written. -/
def Faithful (spot : Spot) (next : Option Node) : Printed → Prop
  | mk node opening inside closing =>
    Brings settings cell heading spot next node opening closing ∧
      inside.map Printed.node = node.children ∧ FaithfulAll (spot.opened opening) inside

def FaithfulAll (spot : Spot) : List Printed → Prop
  | [] => True
  | p :: rest =>
    Faithful spot (rest.head?.map Printed.node) p ∧ FaithfulAll (spot.past p.text) rest

end

end

end Printed

namespace Writer

def spot (w : Writer) : Spot := ⟨w.out.toList, w.pending⟩

variable {u v w : Writer} {a b : List Char}

theorem Grown.spot (h : u.Grown v a) : v.spot = u.spot.past a := by
  cases h with
  | silent => rfl
  | shown some_ out clear => simp [Writer.spot, Spot.past, some_, out, clear]

theorem Grown.out_of_clear (h : u.Grown v a) (clear : u.pending = []) :
    v.out.toList = u.out.toList ++ a := by
  cases h with
  | silent => simp
  | shown _ out _ => simp [out, clear]

theorem Grown.of_stage (h : (u.stage a).Grown v b) (some_ : b ≠ []) : u.Grown v (a ++ b) := by
  obtain ⟨out, clear⟩ := h.of_ne_nil some_
  exact .shown (by simp [some_]) (by simp [out, stage]) clear

theorem Plain.write_any (h : w.Plain) (a : List Char) :
    (w.write a).Plain ∧ w.Grown (w.write a) a := by
  by_cases empty : a = []
  · subst empty
    exact ⟨h, .silent⟩
  · exact h.write empty

end Writer

/-- Printing has come from one state to another and has added a text. -/
structure RenderState.Onward (s t : RenderState) (text : List Char) : Prop where
  plain : t.writer.Plain
  grown : s.writer.Grown t.writer text
  cell : t.inTableCell = s.inTableCell
  heading : t.inHeading = s.inHeading

namespace RenderState.Onward

variable {s t u : RenderState} {a b : List Char}

theorem refl (plain : s.writer.Plain) : s.Onward s [] := ⟨plain, .silent, rfl, rfl⟩

theorem trans (h : s.Onward t a) (h' : t.Onward u b) : s.Onward u (a ++ b) :=
  ⟨h'.plain, h.grown.trans h'.grown, h'.cell.trans h.cell, h'.heading.trans h.heading⟩

theorem write (plain : s.writer.Plain) (text : List Char) (start : Bool) (tail : List Char) :
    s.Onward { s with writer := s.writer.write text, atLineStart := start, normalTail := tail }
      text := by
  obtain ⟨plain', grown⟩ := plain.write_any text
  exact ⟨plain', grown, rfl, rfl⟩

/-- Text behind an opening, and what closes it. -/
theorem enclose {opening inside closing : List Char} (some_ : closing ≠ [])
    (h : Onward { s with writer := s.writer.stage opening, atLineStart := false, normalTail := [] }
      t inside) :
    s.Onward { t with writer := t.writer.write closing } (opening ++ (inside ++ closing)) := by
  obtain ⟨plain, grown⟩ := h.plain.write some_
  exact ⟨plain, (h.grown.trans grown).of_stage (by simp [some_]), h.cell, h.heading⟩

end RenderState.Onward

namespace Node

variable {p q : Node → Bool}

mutual

theorem every_mono (imp : ∀ n, p n = true → q n = true) : (n : Node) → n.every p = true →
    n.every q = true
  | .document children, h | .paragraph children, h | .blockQuote children, h
  | .heading _ children _, h | .list _ children, h | .listItem children _ _, h
  | .table none children, h | .tableRow children _, h | .tableCell children _, h
  | .emphasis children, h | .strong children, h | .strikethrough children, h
  | .link _ children _, h | .image _ children _, h => by
    rw [every, Bool.and_eq_true] at h ⊢
    exact ⟨imp _ h.1, everyOf_mono imp children h.2⟩
  | .table (some header) rows, h => by
    rw [every, Bool.and_eq_true, Bool.and_eq_true] at h ⊢
    exact ⟨imp _ h.1, every_mono imp header h.2.1, everyOf_mono imp rows h.2.2⟩
  | .codeBlock _, h | .thematicBreak, h | .htmlBlock _ _, h | .text _, h | .code _, h
  | .autolink _ _, h | .lineBreak _, h | .htmlInline _, h | .textless _, h | .foreign _, h
  | .missing, h => imp _ h

theorem everyOf_mono (imp : ∀ n, p n = true → q n = true) : (nodes : List Node) →
    everyOf p nodes = true → everyOf q nodes = true
  | [], _ => rfl
  | node :: rest, h => by
    rw [everyOf, Bool.and_eq_true] at h ⊢
    exact ⟨every_mono imp node h.1, everyOf_mono imp rest h.2⟩

end

theorem everyOf_below {n : Node} (h : n.every p = true) : everyOf p n.children = true := by
  have every {nodes : List Node} (each : ∀ c ∈ nodes, c.every p = true) :
      everyOf p nodes = true := by
    induction nodes with
    | nil => rfl
    | cons c nodes ih =>
      rw [everyOf, Bool.and_eq_true]
      exact ⟨each c List.mem_cons_self, ih fun d m => each d (List.mem_cons_of_mem c m)⟩
  exact every fun _ child => every_child h child

end Node

/-- An inline node with all that it needs, and no raw HTML of no characters. -/
def Node.isSolid : Node → Bool
  | .htmlInline content => !content.isEmpty
  | .textless _ => false
  | n => n.isInline

theorem Node.encloses_of_isSolid {n : Node} (solid : n.isSolid = true) (parent : n.children ≠ []) :
    n.encloses = true := by
  cases n with
  | _ => first | rfl | exact absurd rfl parent | cases solid

namespace Render

open Printed

variable (settings : RendererSettings)

/-- `x` prints the tree of a node. -/
def PrintsNode (n : Node) (x : Render Unit) : Prop :=
  ∀ ⦃s⦄, s.writer.Plain → ∃ t p, x s = .ok () t ∧ s.Onward t p.text ∧ p.node = n ∧
    Faithful settings s.inTableCell s.inHeading s.writer.spot s.nextInline p ∧
    (n.isBlankInline = false → p.text ≠ [])

/-- `x` prints the trees of nodes side by side. -/
def PrintsRow (content : List Node) (x : Render Unit) : Prop :=
  ∀ ⦃s⦄, s.writer.Plain → ∃ t pieces, x s = .ok () t ∧ s.Onward t (textOf pieces) ∧
    pieces.map Printed.node = content ∧
    FaithfulAll settings s.inTableCell s.inHeading s.writer.spot pieces ∧
    (Node.allBlankInline content = false → textOf pieces ≠ [])

variable {settings}

/-- A node without children is one text. -/
theorem PrintsNode.leaf {n : Node} {x : Render Unit} (childless : n.children = [])
    (run : ∀ ⦃s⦄, s.writer.Plain → ∃ text start tail,
      x s = .ok () { s with
        writer := s.writer.write text, atLineStart := start, normalTail := tail } ∧
      Brings settings s.inTableCell s.inHeading s.writer.spot s.nextInline n text [] ∧
      (n.isBlankInline = false → text ≠ [])) : PrintsNode settings n x := by
  intro s plain
  obtain ⟨text, start, tail, ran, brings, shown⟩ := run plain
  refine ⟨_, .mk n text [] [], ran, ?_, rfl, ⟨brings, by simp [childless], trivial⟩, ?_⟩
  · simpa [Printed.text, textOf] using RenderState.Onward.write plain text start tail
  · simpa [Printed.text, textOf] using shown

theorem spacedText_eq_spot (content : String) {w : Writer} (plain : w.Plain) :
    spacedText content w =
      spacedText content { last := w.spot.written.getLast?, pending := w.spot.staged } := by
  unfold spacedText Writer.committed
  rw [plain.last]
  rfl

theorem literalText_eq_nil {place : Markup.Place} {tail cs : List Char} {next : Option Node} :
    literalText place tail cs next = [] ↔ cs = [] := by
  constructor
  · intro none_
    have kept := (Markup.escape_sublist place tail cs).trans (guardBang_sublist _ next)
    rw [literalText] at none_
    rwa [none_, List.sublist_nil] at kept
  · rintro rfl
    rfl

/-- An exclamation mark before a link is the only thing that is not written as it was escaped. -/
theorem literalText_cases (place : Markup.Place) (tail cs : List Char) (next : Option Node) :
    literalText place tail cs next = (Markup.escape place tail cs).1 ∨
      ∃ front, (Markup.escape place tail cs).1 = front ++ ['!'] ∧
        literalText place tail cs next = front ++ ['\\', '!'] := by
  unfold literalText guardBang
  split
  · rename_i ends
    have last : (Markup.escape place tail cs).1.getLast? = some '!' := by
      simp only [Bool.and_eq_true, beq_iff_eq] at ends
      exact ends.1
    refine .inr ⟨_, (List.dropLast_append_getLast? '!' last).symm, rfl⟩
  · exact .inl rfl

/-- Text that comes to nothing is written all the same. -/
theorem text_written (content : String) (s : RenderState) :
    ∃ start tail, text content s = .ok () { s with
      writer := s.writer.write (literalText ⟨s.atLineStart, s.inTableCell⟩ s.normalTail
        (spacedText content s.writer) s.nextInline)
      atLineStart := start
      normalTail := tail } := by
  rw [text_run]
  by_cases empty : (spacedText content s.writer).isEmpty = true
  · rw [if_pos empty, literalText_eq_nil.mpr (List.isEmpty_iff.mp empty)]
    exact ⟨s.atLineStart, s.normalTail, rfl⟩
  · rw [if_neg empty]
    exact ⟨false, _, rfl⟩

theorem PrintsNode.text (content : String) :
    PrintsNode settings (.text content) (text content) := by
  refine .leaf rfl fun s plain => ?_
  obtain ⟨start, tail, run⟩ := text_written content s
  refine ⟨_, start, tail, run, ⟨rfl, s.atLineStart, s.normalTail, ?_⟩, fun visible none_ => ?_⟩
  · rw [← spacedText_eq_spot content plain]
  · exact spacedText_ne_nil visible s.writer (literalText_eq_nil.mp none_)

theorem codeText_head? (cell : Bool) (content : String) :
    (codeText cell content).head? = some '\x60' := by
  simp [codeText, Markup.CodeSpan.text, Markup.codeSpan, List.replicate_succ]

theorem PrintsNode.code (content : String) :
    PrintsNode settings (.code content) (code content) := by
  refine .leaf rfl fun s plain => ?_
  rw [code_run]
  by_cases empty : content.isEmpty = true
  · rw [if_pos empty]
    refine ⟨[], s.atLineStart, s.normalTail, rfl, ⟨rfl, by simp [empty]⟩, fun visible => ?_⟩
    simp [Node.isBlankInline, empty] at visible
  · rw [if_neg empty]
    refine ⟨_, false, [], rfl, ⟨rfl, by simp [empty]⟩, fun _ => ?_⟩
    exact List.ne_nil_of_mem (List.mem_of_head? (codeText_head? s.inTableCell content))

theorem PrintsNode.verbatim {n : Node} {content : List Char} (childless : n.children = [])
    (some_ : content ≠ []) (brings : ∀ cell heading spot next,
      Brings settings cell heading spot next n content []) :
    PrintsNode settings n (verbatim content) :=
  .leaf childless fun _ _ => ⟨content, false, [], rfl, brings _ _ _ _, fun _ => some_⟩

theorem PrintsNode.lineBreak (soft : Bool) :
    PrintsNode settings (.lineBreak soft) (lineBreak settings soft) := by
  refine .leaf rfl fun s plain => ?_
  obtain ⟨start, tail, run⟩ := lineBreak_run settings soft s
  refine ⟨_, start, tail, run, ⟨rfl, ?_⟩, fun visible => by simp [Node.isBlankInline] at visible⟩
  rw [plain.last]
  rfl

theorem PrintsNode.reference {n : Node} {opening : List Char} {url title : Option String}
    (delimiters : ∀ c ∈ opening, Markup.isDelimiter c = true)
    (brings : ∀ cell heading spot next, Brings settings cell heading spot next n opening
      (Markup.linkTail (url.getD "").toList (title.getD "").toList))
    {x : Render Unit} (hx : PrintsRow settings n.children x) :
    PrintsNode settings n (reference opening url title x) := by
  have some_ : Markup.linkTail (url.getD "").toList (title.getD "").toList ≠ [] := by
    simp [Markup.linkTail]
  intro s plain
  obtain ⟨t, pieces, run, onward, nodes, faithful, -⟩ := hx
    (s := { s with writer := s.writer.stage opening, atLineStart := false, normalTail := [] })
    (plain.stage delimiters)
  refine ⟨_, .mk n opening pieces _, ?_, onward.enclose some_, rfl,
    ⟨brings _ _ _ _, nodes, faithful⟩, fun _ => ?_⟩
  · rw [Render.reference, leaveLineStart_bind, stage_bind, bind_of_ok run, write_run]
  · simp [Printed.text, some_]

theorem PrintsNode.span {n : Node} (isSpan : n.isSpan = true)
    (hx : PrintsRow settings n.children (inlines settings n.children)) :
    PrintsNode settings n (node settings n) := by
  obtain ⟨printed, blank⟩ := node_span settings isSpan
  obtain ⟨some_, delimiters⟩ := token_delimiters settings isSpan
  rw [printed]
  intro s plain
  cases visible : n.isBlankInline with
  | true =>
    rw [← blank, visible]
    obtain ⟨t, pieces, run, onward, nodes, faithful, -⟩ := hx plain
    refine ⟨t, .mk n [] pieces [], run, by simpa [Printed.text] using onward, rfl, ?_, by simp⟩
    refine ⟨(brings_span isSpan).mpr ⟨by simp [visible], rfl⟩, nodes, ?_⟩
    rwa [Spot.opened, List.append_nil]
  | false =>
    have chars := delimiterFor_delimiters delimiters s.writer.last s.nextInline
    have shown := delimiterFor_ne_nil some_ s.writer.last s.nextInline
    generalize delimiter : delimiterFor (n.token settings) s.writer.last s.nextInline = d
      at chars shown
    obtain ⟨t, pieces, run, onward, nodes, faithful, inside⟩ := hx
      (s := { s with writer := s.writer.stage d, atLineStart := false, normalTail := [] })
      (plain.stage chars)
    have clear := (onward.grown.of_ne_nil (inside (blank ▸ visible))).2
    refine ⟨_, .mk n d pieces d, ?_, onward.enclose shown, rfl, ⟨?_, nodes, faithful⟩,
      fun _ => by simp [Printed.text, shown]⟩
    · rw [← blank, visible, Render.span, if_neg (by simp), get_bind, delimiter,
        leaveLineStart_bind, stage_bind, bind_of_ok run, closeSpan_clear clear]
    · refine (brings_span isSpan).mpr ⟨?_, rfl⟩
      rw [visible, ← delimiter, plain.last]
      rfl

variable (settings)

mutual

theorem node_printed : (n : Node) → n.every Node.isSolid = true →
    PrintsNode settings n (node settings n)
  | .text content, _ => by
    rw [node]
    exact .text content
  | .code content, _ => by
    rw [node]
    exact .code content
  | .autolink url label, _ => by
    rw [node]
    exact .verbatim rfl (by simp) fun _ _ _ _ => ⟨rfl, rfl⟩
  | .htmlInline content, solid => by
    rw [node]
    have some_ : content.toList ≠ [] := by simpa [Node.every, Node.isSolid] using solid
    exact .verbatim rfl some_ fun _ _ _ _ => ⟨rfl, rfl⟩
  | .lineBreak soft, _ => by
    rw [node]
    exact .lineBreak soft
  | .link url content title, solid => by
    rw [Node.every, Bool.and_eq_true] at solid
    rw [node]
    refine .reference (by simp [Markup.isDelimiter]) ?_ (inlines_printed content solid.2)
    exact fun _ _ _ _ => ⟨rfl, rfl⟩
  | .image url content title, solid => by
    rw [Node.every, Bool.and_eq_true] at solid
    rw [node]
    refine .reference (by simp [Markup.isDelimiter]) ?_ (inlines_printed content solid.2)
    exact fun _ _ _ _ => ⟨rfl, rfl⟩
  | .emphasis content, solid => by
    rw [Node.every, Bool.and_eq_true] at solid
    exact .span rfl (inlines_printed content solid.2)
  | .strong content, solid => by
    rw [Node.every, Bool.and_eq_true] at solid
    exact .span rfl (inlines_printed content solid.2)
  | .strikethrough content, solid => by
    rw [Node.every, Bool.and_eq_true] at solid
    exact .span rfl (inlines_printed content solid.2)

theorem inlines_printed : (content : List Node) → Node.everyOf Node.isSolid content = true →
    PrintsRow settings content (inlines settings content)
  | [], _ => by
    rw [inlines]
    intro s plain
    exact ⟨s, [], rfl, .refl plain, rfl, trivial, by simp [Node.allBlankInline]⟩
  | child :: rest, solid => by
    rw [Node.everyOf, Bool.and_eq_true] at solid
    rw [inlines]
    intro s plain
    obtain ⟨t, p, run, ⟨plain', grown, cell, heading⟩, rfl, faithful, shown⟩ :=
      node_printed child solid.1 (s := { s with nextInline := rest.head? }) plain
    have onward : s.Onward t p.text := ⟨plain', grown, cell, heading⟩
    obtain ⟨u, pieces, run', onward', rfl, faithful', shown'⟩ :=
      inlines_printed rest solid.2 onward.plain
    rw [onward.cell, onward.heading, onward.grown.spot] at faithful'
    rw [List.head?_map] at faithful
    refine ⟨u, p :: pieces, ?_, ?_, rfl, ⟨faithful, faithful'⟩, fun visible => ?_⟩
    · rw [modify_bind, bind_of_ok run, run']
    · exact onward.trans onward'
    · rw [Node.allBlankInline, Bool.and_eq_false_iff] at visible
      obtain visible | visible := visible
      · simp [textOf, shown visible]
      · simp [textOf, shown' visible]

end

end Render

/-- Inline content that is printed aside is a row of printed trees. -/
theorem RendererSettings.renderInlines_printed (settings : RendererSettings) (flags : ScratchFlags)
    {content : List Node} (solid : Node.everyOf Node.isSolid content = true) :
    ∃ out pieces, (settings.renderInlines flags content).1 = .ok out ∧
      out.toList = Printed.textOf pieces ∧ pieces.map Printed.node = content ∧
      Printed.FaithfulAll settings (flags.inTableCell.getD false) (flags.inHeading.getD false)
        ⟨[], []⟩ pieces := by
  have plain : (RenderState.enter {} flags).writer.Plain := ⟨rfl, rfl, by simp [RenderState.enter]⟩
  obtain ⟨t, pieces, run, onward, nodes, faithful, -⟩ :=
    Render.inlines_printed settings content solid plain
  refine ⟨String.ofList t.writer.out.toList, pieces, ?_, ?_, nodes, faithful⟩
  · have aside := Render.scratch_eq_ok.mpr ⟨t, run, rfl, rfl⟩
    simp only [renderInlines, aside]
  · rw [String.toList_ofList, onward.grown.out_of_clear rfl]
    rfl

end MarkdownCanon
