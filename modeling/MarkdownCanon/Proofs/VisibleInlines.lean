import MarkdownCanon.Proofs.HeadingReading
import MarkdownCanon.Proofs.Layout

/-! Inline content that is to be seen, and inline content that leaves nothing but spaces and line
ends on the page. Which it is can be told from the tree, if raw HTML has something to show. -/

namespace MarkdownCanon

/-- A text with more in it than spaces and line ends. -/
def Text.Visible (text : List Char) : Prop := ∃ c ∈ text, c ≠ ' ' ∧ c ≠ '\n'

namespace Text.Visible

variable {a b : List Char}

theorem of_sublist (h : Visible a) (sub : a.Sublist b) : Visible b := by
  obtain ⟨c, m, seen⟩ := h
  exact ⟨c, sub.subset m, seen⟩

theorem ne_nil (h : Visible a) : a ≠ [] := by
  obtain ⟨c, m, -⟩ := h
  exact List.ne_nil_of_mem m

theorem append_left (h : Visible a) (b : List Char) : Visible (a ++ b) :=
  h.of_sublist (List.sublist_append_left a b)

theorem append_right (h : Visible b) (a : List Char) : Visible (a ++ b) :=
  h.of_sublist (List.sublist_append_right a b)

theorem not_iff : ¬ Visible a ↔ ∀ c ∈ a, c = ' ' ∨ c = '\n' := by
  simp only [Visible, not_exists, not_and, not_not, or_iff_not_imp_left, ne_eq]

theorem trim (h : Visible a) : Visible (Text.trim isSpace a) := by
  obtain ⟨c, m, seen⟩ := h
  obtain ⟨lead, cut, whole, leading, spaces⟩ := trim_parts isSpace a
  have solid (d : Char) (space : isSpace d = true) : c ≠ d := by
    rintro rfl
    exact seen.1 (by simpa [isSpace] using space)
  rw [whole, List.mem_append, List.mem_append] at m
  obtain m | m | m := m
  · exact absurd rfl (solid c (leading c m))
  · exact ⟨c, m, seen⟩
  · exact absurd rfl (solid c (spaces c m))

theorem trimEnd_iff : Visible (trimEnd isNewline a) ↔ Visible a := by
  obtain ⟨cut, whole, newlines⟩ := trimEnd_eq_append isNewline a
  constructor
  · intro h
    rw [whole]
    exact h.append_left cut
  · rintro ⟨c, m, seen⟩
    rw [whole, List.mem_append] at m
    refine ⟨c, m.resolve_right fun last => ?_, seen⟩
    exact seen.2 (by simpa [isNewline] using newlines c last)

end Text.Visible

namespace Node

mutual

/-- Whether inline content prints more than spaces and line ends. -/
def isSeen : Node → Bool
  | text content => content.toList.any (!Text.isSpacing ·)
  | code content => !content.isEmpty
  | emphasis content | strong content | strikethrough content => anySeen content
  | link .. | image .. | autolink .. | htmlInline _ => true
  | _ => false

def anySeen : List Node → Bool
  | [] => false
  | node :: rest => isSeen node || anySeen rest

end

/-- Whether a node, if it is raw HTML within a line, has more in it than spaces and line ends. -/
def showsRaw : Node → Bool
  | htmlInline content => content.toList.any fun c => c != ' ' && c != '\n'
  | _ => true

/-- A tree with every node in its place and with its text, in which raw HTML within a line is to be
seen. -/
structure Regular (n : Node) : Prop where
  placed : n.WellPlaced
  held : n.HoldsTexts
  raw : ∀ content, Within (htmlInline content) n → Text.Visible content.toList

namespace Regular

variable {n c : Node}

theorem of_every (placed : n.every wellPlaced = true) (held : n.every (!·.isTextless) = true)
    (raw : n.every showsRaw = true) : n.Regular where
  placed _ inside := every_within placed inside
  held := .of_every held
  raw content inside := by
    obtain ⟨c, m, seen⟩ := List.any_eq_true.mp (every_within raw inside)
    exact ⟨c, m, by simpa using seen⟩

theorem child (h : n.Regular) (hc : c ∈ n.children) : c.Regular :=
  ⟨h.placed.child hc, h.held.child hc, fun content inside => h.raw content (.under hc inside)⟩

theorem self (h : n.Regular) : n.wellPlaced = true := h.placed n (.self n)

theorem texts (h : n.Regular) (kind : Textless) : n ≠ textless kind := by
  rintro rfl
  exact h.held kind (.self _)

end Regular

mutual

/-- What is not to be seen is blank. -/
theorem isBlankInline_of_unseen : (n : Node) → n.isInline = true → n.Regular →
    n.isSeen = false → n.isBlankInline = true
  | text content, _, _, unseen => by
    cases blank : (text content).isBlankInline with
    | true => rfl
    | false =>
      have marks := text_marks blank
      rw [Node.marks, ← isSeen, unseen] at marks
      cases marks
  | code content, _, _, unseen => by simpa [isSeen, isBlankInline] using unseen
  | emphasis content, _, regular, unseen | strong content, _, regular, unseen
  | strikethrough content, _, regular, unseen => by
    rw [isSeen] at unseen
    rw [isBlankInline]
    exact allBlankInline_of_unseen content (List.all_eq_true.mp regular.self)
      (fun c m => regular.child m) unseen
  | lineBreak _, _, _, _ => by rw [isBlankInline]
  | link .., _, _, unseen | image .., _, _, unseen | autolink .., _, _, unseen => by
    simp [isSeen] at unseen
  | htmlInline _, _, _, unseen => by simp [isSeen] at unseen
  | textless kind, _, regular, _ => absurd rfl (regular.texts kind)

theorem allBlankInline_of_unseen : (content : List Node) →
    (∀ c ∈ content, c.isInline = true) → (∀ c ∈ content, c.Regular) →
    anySeen content = false → allBlankInline content = true
  | [], _, _, _ => by rw [allBlankInline]
  | child :: rest, inline, regular, unseen => by
    rw [anySeen, Bool.or_eq_false_iff] at unseen
    rw [allBlankInline, Bool.and_eq_true]
    exact ⟨isBlankInline_of_unseen child (inline child List.mem_cons_self)
        (regular child List.mem_cons_self) unseen.1,
      allBlankInline_of_unseen rest (fun c m => inline c (List.mem_cons_of_mem _ m))
        (fun c m => regular c (List.mem_cons_of_mem _ m)) unseen.2⟩

end

end Node

namespace Render

/-- A step that writes inline content, which is visible if it is to be seen. In a heading it is so
too if it has a line end in it. -/
abbrev Reveals (seen : Bool) (x : Render Unit) : Prop :=
  Emits (fun heading _ _ text =>
    (seen = true ∨ heading = true ∧ '\n' ∈ text) → Text.Visible text) x

namespace Reveals

variable {seen more : Bool} {x y : Render Unit}

theorem nothing : Reveals false (pure ()) :=
  .pure fun _ _ h => by simp at h

theorem bind (hx : Reveals seen x) (hy : Reveals more y) : Reveals (seen || more) (do x; y) := by
  refine Emits.bind hx (fun _ => hy) ?_
  rintro heading _ _ _ front rest first later (either | ⟨inside, m⟩)
  · obtain seen | seen := Bool.or_eq_true_iff.mp either
    · exact (first (.inl seen)).append_left rest
    · exact (later (.inl seen)).append_right front
  · obtain m | m := List.mem_append.mp m
    · exact (first (.inr ⟨inside, m⟩)).append_left rest
    · exact (later (.inr ⟨inside, m⟩)).append_right front

theorem text (content : String) :
    Reveals (content.toList.any (!Text.isSpacing ·)) (text content) := by
  refine (Emits.text content).mono ?_
  rintro _ _ _ _ ⟨w, place, tail, next, rfl⟩ (visible | ⟨-, m⟩)
  · obtain ⟨c, m, hc⟩ := List.any_eq_true.mp visible
    have solid : Text.isSpacing c = false := by simpa using hc
    have kept := mem_spacedText m solid w
    refine ⟨c, ((Markup.escape_sublist place tail _).trans (guardBang_sublist _ next)).subset kept,
      ?_, ?_⟩
    · rintro rfl
      cases solid
    · rintro rfl
      cases solid
  · exact absurd m (written_line content w place tail next)

theorem code (content : String) : Reveals (!content.isEmpty) (code content) := by
  refine (Emits.code content).mono ?_
  rintro _ cell _ _ (⟨empty, rfl⟩ | ⟨_, inner, rfl, guarded⟩) shown
  · simp [empty] at shown
  · exact ⟨'\x60', by simp [Markup.CodeSpan.text, Markup.codeSpan], by decide⟩

theorem verbatim {content : List Char} (visible : Text.Visible content) :
    Reveals true (verbatim content) :=
  Emits.verbatim fun _ _ _ => visible

theorem lineBreak (settings : RendererSettings) (soft : Bool) :
    Reveals false (lineBreak settings soft) := by
  refine (Emits.lineBreak settings soft).mono ?_
  rintro heading cell _ text written (seen | ⟨rfl, m⟩)
  · cases seen
  · simp at written
    obtain rfl | rfl := written <;> simp at m

theorem span (hx : Reveals seen x) {token : List Char} (line : '\n' ∉ token) (blank : Bool) :
    Reveals seen (span token blank x) := by
  refine (Emits.span hx line blank).mono ?_
  rintro heading _ _ _ ⟨inner, close, rfl, closed, visible⟩ shown
  refine (visible (shown.imp_right fun ⟨inside, m⟩ => ⟨inside, ?_⟩)).append_left close
  exact (List.mem_append.mp m).resolve_right closed

theorem reference (hx : Reveals seen x) {opening : List Char} (line : '\n' ∉ opening)
    (url title : Option String) : Reveals true (reference opening url title x) := by
  refine (Emits.reference hx line url title).mono ?_
  rintro _ _ _ _ ⟨inner, -, rfl⟩ -
  exact Text.Visible.append_right ⟨']', by simp [Markup.linkTail], by decide⟩ inner

end Reveals

section Inlines

variable {settings : RendererSettings}

mutual

theorem node_reveals : (n : Node) → n.isInline = true → n.Regular →
    Reveals n.isSeen (node settings n)
  | .text content, _, _ => by
    rw [node, Node.isSeen]
    exact .text content
  | .emphasis content, _, regular => by
    have hc := inlines_reveals content (List.all_eq_true.mp regular.self) fun c m => regular.child m
    rw [node, Node.isSeen]
    exact hc.span (tokens_line settings).1 _
  | .strong content, _, regular => by
    have hc := inlines_reveals content (List.all_eq_true.mp regular.self) fun c m => regular.child m
    rw [node, Node.isSeen]
    exact hc.span (tokens_line settings).2 _
  | .strikethrough content, _, regular => by
    have hc := inlines_reveals content (List.all_eq_true.mp regular.self) fun c m => regular.child m
    rw [node, Node.isSeen]
    exact hc.span (by decide) _
  | .code content, _, _ => by
    rw [node, Node.isSeen]
    exact .code content
  | .link url content title, _, regular => by
    have hc := inlines_reveals content (List.all_eq_true.mp regular.self) fun c m => regular.child m
    rw [node, Node.isSeen]
    exact hc.reference (by decide) url title
  | .image url content title, _, regular => by
    have hc := inlines_reveals content (List.all_eq_true.mp regular.self) fun c m => regular.child m
    rw [node, Node.isSeen]
    exact hc.reference (by decide) url title
  | .autolink _ label, _, _ => by
    rw [node, Node.isSeen]
    exact .verbatim ⟨'<', by simp, by decide⟩
  | .htmlInline content, _, regular => by
    rw [node, Node.isSeen]
    exact .verbatim (regular.raw content (.self _))
  | .lineBreak soft, _, _ => by
    rw [node, Node.isSeen]
    · exact .lineBreak settings soft
    all_goals simp
  | .textless kind, _, regular => absurd rfl (regular.texts kind)

theorem inlines_reveals : (content : List Node) → (∀ c ∈ content, c.isInline = true) →
    (∀ c ∈ content, c.Regular) → Reveals (Node.anySeen content) (inlines settings content)
  | [], _, _ => by
    rw [inlines, Node.anySeen]
    exact .nothing
  | child :: rest, inline, regular => by
    have hc := node_reveals child (inline child List.mem_cons_self)
      (regular child List.mem_cons_self)
    have hr := inlines_reveals rest (fun c m => inline c (List.mem_cons_of_mem _ m))
      fun c m => regular c (List.mem_cons_of_mem _ m)
    rw [inlines, Node.anySeen]
    exact .after (.nextInline _) fun _ => hc.bind hr

end

theorem anySeen_of_breaks {content : List Node} (h : content.all Node.isLineBreak = true) :
    Node.anySeen content = false := by
  induction content with
  | nil => rw [Node.anySeen]
  | cons n rest ih =>
    rw [List.all_cons, Bool.and_eq_true] at h
    cases n with
    | lineBreak => simp [Node.anySeen, Node.isSeen, ih h.2]
    | _ => simp [Node.isLineBreak] at h

theorem paragraphInlines_reveals {content : List Node}
    (inline : ∀ c ∈ content, c.isInline = true) (regular : ∀ c ∈ content, c.Regular) :
    Reveals (Node.anySeen content) (paragraphInlines settings content) := by
  induction content with
  | nil =>
    rw [paragraphInlines, Node.anySeen]
    exact .nothing
  | cons child rest ih =>
    have hc := @node_reveals settings child (inline child List.mem_cons_self)
      (regular child List.mem_cons_self)
    have hr := ih (fun c m => inline c (List.mem_cons_of_mem _ m))
      fun c m => regular c (List.mem_cons_of_mem _ m)
    rw [paragraphInlines]
    split
    · rename_i breaks
      rw [anySeen_of_breaks (by simpa using breaks)]
      exact .nothing
    · rw [Node.anySeen]
      exact .after (.nextInline _) fun _ => hc.bind hr

end Inlines

end Render

/-- A state outside of all containers, with nothing visible on the page so far. -/
structure RenderState.Pale (s : RenderState) : Prop where
  bare : s.writer.indentation = {}
  clear : s.writer.pending = []
  faint : ¬ Text.Visible s.writer.out.toList

namespace Render

variable {settings : RendererSettings} {s t : RenderState}

theorem pale_write (h : s.Pale) {text : List Char} (faint : ¬ Text.Visible text)
    (writer : t.writer = s.writer.write text) : t.Pale := by
  by_cases none_ : text = []
  · rw [none_, Writer.write_nil] at writer
    exact ⟨writer ▸ h.bare, writer ▸ h.clear, writer ▸ h.faint⟩
  · refine ⟨?_, ?_, ?_⟩
    · rw [writer, Writer.write_indentation, h.bare]
    · rw [writer, Writer.write_pending _ none_]
    · rw [writer, (Writer.write_bare h.bare none_).1, h.clear, List.nil_append]
      rintro ⟨c, m, seen⟩
      obtain m | m := List.mem_append.mp m
      · exact h.faint ⟨c, m, seen⟩
      · exact faint ⟨c, m, seen⟩

theorem spacedText_unseen {content : String}
    (unseen : content.toList.any (!Text.isSpacing ·) = false) (w : Writer) :
    spacedText content w = [] ∨ spacedText content w = [' '] := by
  have spacing : ∀ c ∈ content.toList, Text.isSpacing c = true := by simpa using unseen
  have normal : Text.collapse content.toList = [] ∨ Text.collapse content.toList = [' '] := by
    cases text : content.toList with
    | nil => exact .inl rfl
    | cons c rest =>
      rw [text] at spacing
      have skipped := Text.collapseRuns_skip (fun c m => spacing c (List.mem_cons_of_mem _ m)) []
      rw [List.append_nil] at skipped
      right
      rw [Text.collapse, Text.collapseRuns, if_pos (spacing c List.mem_cons_self), if_neg (by simp),
        skipped]
      rfl
  unfold spacedText
  obtain none_ | space := normal
  · rw [none_]
    exact .inl rfl
  · rw [space]
    cases (w.last == some ' ' || w.last == some '\n') && w.committed with
    | false => exact .inr rfl
    | true => exact .inl rfl

theorem text_pale {content : String} (h : s.Pale)
    (unseen : content.toList.any (!Text.isSpacing ·) = false)
    (run : text content s = .ok () t) : t.Pale := by
  rw [text_run] at run
  obtain empty | space := spacedText_unseen unseen s.writer
  · rw [empty] at run
    cases run
    exact h
  · rw [space] at run
    cases run
    have faint : ¬ Text.Visible [' '] := by simp [Text.Visible]
    exact pale_write h faint rfl

theorem lineBreak_pale {soft : Bool} (h : s.Pale) (run : lineBreak settings soft s = .ok () t) :
    t.Pale := by
  have space : ¬ Text.Visible [' '] := by simp [Text.Visible]
  have newline : ¬ Text.Visible ['\n'] := by simp [Text.Visible]
  have hard : ¬ Text.Visible [' ', ' ', '\n'] := by simp [Text.Visible]
  unfold lineBreak at run
  rw [get_bind] at run
  dsimp only at run
  split at run
  · cases run
    exact pale_write h newline rfl
  · split at run
    · split at run
      · cases run
        exact pale_write h space rfl
      · cases run
        exact ⟨h.bare, h.clear, h.faint⟩
    · cases run
      exact pale_write h hard rfl

mutual

theorem node_pale : (n : Node) → n.isInline = true → n.Regular → n.isSeen = false →
    ∀ {s t : RenderState}, s.Pale → node settings n s = .ok () t → t.Pale
  | .text content, _, _, unseen, s, t, pale, run => by
    rw [node] at run
    rw [Node.isSeen] at unseen
    exact text_pale pale unseen run
  | .emphasis content, _, regular, unseen, s, t, pale, run
  | .strong content, _, regular, unseen, s, t, pale, run
  | .strikethrough content, _, regular, unseen, s, t, pale, run => by
    have inline := List.all_eq_true.mp regular.self
    rw [Node.isSeen] at unseen
    rw [node, Node.allBlankInline_of_unseen content inline (fun c m => regular.child m) unseen,
      span, if_pos rfl] at run
    exact inlines_pale content inline (fun c m => regular.child m) unseen pale run
  | .code content, _, _, unseen, s, t, pale, run => by
    have empty : content.isEmpty = true := by simpa [Node.isSeen] using unseen
    rw [node, code_run, if_pos empty] at run
    cases run
    exact pale
  | .lineBreak soft, _, _, _, s, t, pale, run => by
    rw [node] at run
    exact lineBreak_pale pale run
  | .link .., _, _, unseen, _, _, _, _ | .image .., _, _, unseen, _, _, _, _
  | .autolink .., _, _, unseen, _, _, _, _ | .htmlInline _, _, _, unseen, _, _, _, _ => by
    simp [Node.isSeen] at unseen
  | .textless kind, _, regular, _, _, _, _, _ => absurd rfl (regular.texts kind)

theorem inlines_pale : (content : List Node) → (∀ c ∈ content, c.isInline = true) →
    (∀ c ∈ content, c.Regular) → Node.anySeen content = false →
    ∀ {s t : RenderState}, s.Pale → inlines settings content s = .ok () t → t.Pale
  | [], _, _, _, s, t, pale, run => by
    rw [inlines] at run
    cases run
    exact pale
  | child :: rest, inline, regular, unseen, s, t, pale, run => by
    rw [Node.anySeen, Bool.or_eq_false_iff] at unseen
    rw [inlines, modify_bind] at run
    obtain ⟨_, u, first, later⟩ := bind_eq_ok.mp run
    have mid := node_pale child (inline child List.mem_cons_self) (regular child List.mem_cons_self)
      unseen.1 (by exact ⟨pale.bare, pale.clear, pale.faint⟩) first
    exact inlines_pale rest (fun c m => inline c (List.mem_cons_of_mem _ m))
      (fun c m => regular c (List.mem_cons_of_mem _ m)) unseen.2 mid later

end

theorem paragraphInlines_pale {content : List Node} (inline : ∀ c ∈ content, c.isInline = true)
    (regular : ∀ c ∈ content, c.Regular) (unseen : Node.anySeen content = false) (h : s.Pale)
    (run : paragraphInlines settings content s = .ok () t) : t.Pale := by
  induction content generalizing s with
  | nil =>
    rw [paragraphInlines] at run
    cases run
    exact h
  | cons child rest ih =>
    rw [Node.anySeen, Bool.or_eq_false_iff] at unseen
    rw [paragraphInlines] at run
    split at run
    · cases run
      exact h
    · rw [modify_bind] at run
      obtain ⟨_, u, first, later⟩ := bind_eq_ok.mp run
      have mid := node_pale child (inline child List.mem_cons_self)
        (regular child List.mem_cons_self) unseen.1
        (by exact ⟨h.bare, h.clear, h.faint⟩) first
      exact ih (fun c m => inline c (List.mem_cons_of_mem _ m))
        (fun c m => regular c (List.mem_cons_of_mem _ m)) unseen.2 mid later

end Render

end MarkdownCanon
