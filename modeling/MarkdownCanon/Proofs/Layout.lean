import MarkdownCanon.Proofs.Acceptance
import MarkdownCanon.Proofs.Emission
import MarkdownCanon.Proofs.LineEnds
import MarkdownCanon.Proofs.Locality

/-! Where the line ends of a printed document stand: one at its end, and never three in a row. Each
visible block writes a text that neither starts nor ends with one, so that separators do not add
up. -/

namespace MarkdownCanon

def Text.oneLine (text : String) : Bool := !text.toList.contains '\n'

theorem Text.line_of_oneLine {text : String} (h : Text.oneLine text = true) :
    '\n' ∉ text.toList := by
  simpa [Text.oneLine] using h

/-- The first line of a heading printed by itself, which is the one that may be underlined. -/
def RendererSettings.headingLine? (settings : RendererSettings) (level : HeadingLevel)
    (content : List Node) (identifier : Option String) : Option (List Char) :=
  let flags := { atLineStart := (Render.underline? settings level).isSome, inHeading := some true }
  match (settings.renderInlines flags content).1 with
  | .ok text =>
    let heading := Render.headingText settings level identifier (Text.trim Text.isSpace text.toList)
    some (heading.takeWhile (· != '\n'))
  | .error _ => none

namespace Node

def isHardBreak : Node → Bool
  | lineBreak soft => !soft
  | _ => false

def isVisibleText : Node → Bool
  | text content => content.toList.any (!Text.isSpacing ·)
  | _ => false

/-- Whether every hard break has text behind it. -/
def breaksContinued : List Node → Bool
  | [] => true
  | child :: rest =>
    (!child.isHardBreak || rest.head?.any isVisibleText) && breaksContinued rest

/-- Whether the own texts of a node have their line ends where printing leaves them harmless. -/
def ownLines (settings : RendererSettings) : Node → Bool
  | blockQuote children => children.isEmpty || children.any (!·.isBlankBlock)
  | heading level content identifier =>
    Text.oneLine (identifier.getD "") && ((Render.underline? settings level).isNone ||
      (settings.headingLine? level content identifier).all (0 < Text.cells ·))
  | codeBlock block =>
    Text.oneLine (block.info.getD "") && decide (Text.Calm ('\n' :: block.content.toList))
  | htmlBlock content _ =>
    let printed := Text.trimEnd Text.isNewline content.toList
    content.toList.all Text.isNewline || (printed.head? != some '\n' && decide (Text.Calm printed))
  | link url _ title | image url _ title =>
    Text.oneLine (url.getD "") && Text.oneLine (title.getD "")
  | autolink _ label => Text.oneLine label
  | htmlInline _ | textless .htmlInline => false
  | _ => true

def keepsLines (settings : RendererSettings) (n : Node) : Bool :=
  breaksContinued n.children && n.ownLines settings

/-- A tree with every node in its place, and no unexpected line ends. -/
structure Tidy (settings : RendererSettings) (n : Node) : Prop where
  placed : n.WellPlaced
  lines : ∀ m, Within m n → m.keepsLines settings = true

theorem Tidy.of_every {settings : RendererSettings} {n : Node}
    (placed : n.every wellPlaced = true) (lines : n.every (·.keepsLines settings) = true) :
    n.Tidy settings :=
  ⟨fun _ inside => every_within placed inside, fun _ inside => every_within lines inside⟩

theorem Tidy.child {settings : RendererSettings} {n c : Node} (h : n.Tidy settings)
    (hc : c ∈ n.children) : c.Tidy settings :=
  ⟨h.placed.child hc, fun m inside => h.lines m (.under hc inside)⟩

theorem Tidy.self {settings : RendererSettings} {n : Node} (h : n.Tidy settings) :
    n.wellPlaced = true ∧ breaksContinued n.children = true ∧ n.ownLines settings = true :=
  ⟨h.placed n (.self n), by simpa [keepsLines] using h.lines n (.self n)⟩

mutual

/-- Whether inline content leaves a mark on the page. -/
def marks : Node → Bool
  | text content => content.toList.any (!Text.isSpacing ·)
  | code content => !content.isEmpty
  | emphasis content | strong content | strikethrough content => anyMarks content
  | link .. | image .. | autolink .. => true
  | _ => false

def anyMarks : List Node → Bool
  | [] => false
  | node :: rest => marks node || anyMarks rest

end

theorem text_marks {content : String} (h : (text content).isBlankInline = false) :
    (text content).marks = true := by
  rw [marks]
  cases visible : content.toList.any (!Text.isSpacing ·) with
  | true => rfl
  | false =>
    have blank : ∀ c ∈ content.toList, Text.isBlank c = true := fun c m =>
      Text.isBlank_of_isSpacing (by simpa using List.any_eq_false.mp visible c m)
    have empty : Text.ink (Text.collapse content.toList) = [] :=
      (Text.ink_collapse _).trans (Text.ink_eq_nil blank)
    simp [isBlankInline, Text.trim_eq_nil empty] at h

mutual

/-- Tidy content that is not blank leaves a mark. -/
theorem marks_of_visible {settings : RendererSettings} : (n : Node) → n.isInline = true →
    n.Tidy settings → n.isBlankInline = false → n.marks = true
  | text content, _, _, visible => text_marks visible
  | code content, _, _, visible => by simpa [isBlankInline, marks] using visible
  | emphasis content, _, tidy, visible => by
    rw [marks]
    rw [isBlankInline] at visible
    exact anyMarks_of_visible content (List.all_eq_true.mp tidy.self.1)
      (fun c m => tidy.child m) visible
  | strong content, _, tidy, visible => by
    rw [marks]
    rw [isBlankInline] at visible
    exact anyMarks_of_visible content (List.all_eq_true.mp tidy.self.1)
      (fun c m => tidy.child m) visible
  | strikethrough content, _, tidy, visible => by
    rw [marks]
    rw [isBlankInline] at visible
    exact anyMarks_of_visible content (List.all_eq_true.mp tidy.self.1)
      (fun c m => tidy.child m) visible
  | link .., _, _, _ | image .., _, _, _ | autolink .., _, _, _ => by simp [marks]
  | lineBreak _, _, _, visible | textless .code, _, _, visible => by simp [isBlankInline] at visible
  | htmlInline _, _, tidy, _ | textless .htmlInline, _, tidy, _ => by
    simpa [ownLines] using tidy.self.2.2

theorem anyMarks_of_visible {settings : RendererSettings} : (content : List Node) →
    (∀ c ∈ content, c.isInline = true) → (∀ c ∈ content, c.Tidy settings) →
    allBlankInline content = false → anyMarks content = true
  | [], _, _, visible => by simp [allBlankInline] at visible
  | child :: rest, inline, tidy, visible => by
    rw [anyMarks, Bool.or_eq_true]
    rw [allBlankInline, Bool.and_eq_false_iff] at visible
    obtain visible | visible := visible
    · exact .inl (marks_of_visible child (inline child List.mem_cons_self)
        (tidy child List.mem_cons_self) visible)
    · exact .inr (anyMarks_of_visible rest (fun c m => inline c (List.mem_cons_of_mem _ m))
        (fun c m => tidy c (List.mem_cons_of_mem _ m)) visible)

end

end Node

namespace Render

/-- What inline content writes: no line ends at its ends, none at all where a line must not end, and
something if it leaves a mark. -/
structure InlineText (marks heading cell : Bool) (text : List Char) : Prop where
  smooth : Text.Smooth text
  line : (heading || cell) = true → '\n' ∉ text
  shown : marks = true → text ≠ []

namespace InlineText

variable {marks more heading cell : Bool} {text rest : List Char}

theorem of_line (line : '\n' ∉ text) (shown : marks = true → text ≠ []) :
    InlineText marks heading cell text :=
  ⟨Text.smooth_of_line line, fun _ => line, shown⟩

theorem append (h : InlineText marks heading cell text) (h' : InlineText more heading cell rest) :
    InlineText (marks || more) heading cell (text ++ rest) where
  smooth := h.smooth.append h'.smooth
  line closed := by simp [h.line closed, h'.line closed]
  shown some_ := by
    obtain some_ | some_ := Bool.or_eq_true_iff.mp some_
    · simp [h.shown some_]
    · simp [h'.shown some_]

/-- Line ends behind a hard break are followed by what the break continues with. -/
theorem hardBreak (h : InlineText true heading cell rest)
    (broken : text = [' ', ' ', '\n'] ∧ (heading || cell) = false ∨ text = [] ∨ text = [' ']) :
    InlineText true heading cell (text ++ rest) := by
  obtain ⟨rfl, open_⟩ | closed := broken
  · have body : Text.Solid rest := ⟨h.smooth, h.shown rfl⟩
    have whole : Text.Solid ([' ', ' '] ++ (['\n'] ++ rest)) :=
      (Text.solid_of_line (by decide) (by decide)).around body (by decide)
    exact ⟨whole.toSmooth, by simp [open_], fun _ => whole.ne_nil⟩
  · have line : '\n' ∉ text := by obtain rfl | rfl := closed <;> decide
    have first : InlineText false heading cell text := of_line line (by simp)
    exact first.append h

end InlineText

/-- A step that writes inline content. -/
abbrev Inscribes (marks : Bool) (x : Render Unit) : Prop :=
  Emits (fun heading cell _ text => InlineText marks heading cell text) x

namespace Inscribes

variable {marks more : Bool} {x : Render Unit}

theorem span (hx : Inscribes marks x) {token : List Char} (line : '\n' ∉ token) (blank : Bool) :
    Inscribes marks (span token blank x) := by
  refine (Emits.span hx line blank).mono ?_
  rintro heading cell _ _ ⟨inner, close, rfl, closed, written⟩
  have tail : InlineText false heading cell close := .of_line closed (by simp)
  have both := written.append tail
  rwa [Bool.or_false] at both

theorem reference (hx : Inscribes marks x) {opening : List Char} (line : '\n' ∉ opening)
    {url title : Option String} (hu : '\n' ∉ (url.getD "").toList)
    (ht : '\n' ∉ (title.getD "").toList) : Inscribes true (reference opening url title x) := by
  refine (Emits.reference hx line url title).mono ?_
  rintro heading cell _ _ ⟨inner, written, rfl⟩
  have tail : InlineText true heading cell
      (Markup.linkTail (url.getD "").toList (title.getD "").toList) :=
    .of_line (Markup.linkTail_line hu ht) (by simp [Markup.linkTail])
  have both := written.append tail
  rwa [Bool.or_true] at both

theorem text (content : String) :
    Inscribes (content.toList.any (!Text.isSpacing ·)) (text content) := by
  refine (Emits.text content).mono ?_
  rintro _ _ _ _ ⟨w, place, tail, next, rfl⟩
  exact .of_line (written_line content w place tail next) fun visible =>
    written_ne_nil visible w place tail next

theorem code (content : String) : Inscribes (!content.isEmpty) (code content) := by
  refine (Emits.code content).mono ?_
  rintro _ cell _ _ (⟨empty, rfl⟩ | ⟨_, inner, rfl, guarded⟩)
  · exact .of_line (by simp) (by simp [empty])
  · obtain ⟨line, fence⟩ := Markup.codeSpan_line content.toList
    have inside : '\n' ∉ inner := by
      rw [guarded]
      split
      · exact fun m => (Markup.mem_guardPipes m).elim (by decide) line
      · exact line
    refine .of_line ?_ fun _ => by simp [Markup.CodeSpan.text, Markup.codeSpan]
    simp only [Markup.CodeSpan.text, List.mem_append, not_or]
    exact ⟨⟨fence, inside⟩, fence⟩

/-- A break that lines are joined at. -/
theorem softBreak {settings : RendererSettings} (wraps : settings.softWraps = .collapse) :
    Inscribes false (lineBreak settings true) := by
  refine (Emits.lineBreak settings true).mono fun heading cell _ text written => ?_
  simp only [wraps, Bool.true_or, ↓reduceIte] at written
  have line : '\n' ∉ text := by
    obtain rfl | rfl := by simpa using written
    · simp
    · simp
  exact .of_line line (by simp)

theorem hardBreak (settings : RendererSettings) :
    Emits (fun heading cell _ text => text = [' ', ' ', '\n'] ∧ (heading || cell) = false ∨
      text = [] ∨ text = [' ']) (lineBreak settings false) := by
  refine (Emits.lineBreak settings false).mono fun heading cell _ text written => ?_
  simp only [Bool.false_and, Bool.false_or, Bool.false_eq_true, ↓reduceIte] at written
  split at written
  · exact .inr written
  · exact .inl ⟨written, by simp_all⟩

end Inscribes

section Inlines

variable {settings : RendererSettings}

/-- A node and what follows it, of which a hard break takes the first text along. -/
theorem inscribes_cons {child : Node} {rest : List Node} {x : Render Unit}
    (hc : child.isHardBreak = false → Inscribes child.marks (node settings child))
    (hx : Inscribes (Node.anyMarks rest) x)
    (continued : Node.breaksContinued (child :: rest) = true) :
    Inscribes (Node.anyMarks (child :: rest)) (do node settings child; x) := by
  rw [Node.anyMarks]
  cases hard : child.isHardBreak with
  | false => exact (hc hard).bind (fun _ => hx) fun _ _ _ _ _ _ first later => first.append later
  | true =>
    obtain ⟨soft, rfl⟩ : ∃ soft, child = .lineBreak soft := by
      cases child <;> simp [Node.isHardBreak] at hard
      exact ⟨_, rfl⟩
    obtain rfl : soft = false := by simpa [Node.isHardBreak] using hard
    have marked : Node.anyMarks rest = true := by
      cases rest with
      | nil => simp [Node.breaksContinued, Node.isHardBreak] at continued
      | cons next rest =>
        cases next <;> simp_all [Node.breaksContinued, Node.isHardBreak, Node.isVisibleText,
          Node.anyMarks, Node.marks]
    rw [marked] at hx ⊢
    rw [node]
    exact (Inscribes.hardBreak settings).bind (fun _ => hx) fun _ _ _ _ _ _ broken later =>
      later.hardBreak broken

mutual

theorem node_inscribes (wraps : settings.softWraps = .collapse) : (n : Node) →
    n.isInline = true → n.Tidy settings → n.isHardBreak = false →
    Inscribes n.marks (node settings n)
  | .text content, _, _, _ => by
    rw [node, Node.marks]
    exact .text content
  | .emphasis content, _, tidy, _ => by
    have hc := inlines_inscribes wraps content (List.all_eq_true.mp tidy.self.1)
      (fun c m => tidy.child m) tidy.self.2.1
    rw [node, Node.marks]
    exact hc.span (tokens_line settings).1 _
  | .strong content, _, tidy, _ => by
    have hc := inlines_inscribes wraps content (List.all_eq_true.mp tidy.self.1)
      (fun c m => tidy.child m) tidy.self.2.1
    rw [node, Node.marks]
    exact hc.span (tokens_line settings).2 _
  | .strikethrough content, _, tidy, _ => by
    have hc := inlines_inscribes wraps content (List.all_eq_true.mp tidy.self.1)
      (fun c m => tidy.child m) tidy.self.2.1
    rw [node, Node.marks]
    exact hc.span (by decide) _
  | .code content, _, _, _ => by
    rw [node, Node.marks]
    exact .code content
  | .link url content title, _, tidy, _ => by
    have hc := inlines_inscribes wraps content (List.all_eq_true.mp tidy.self.1)
      (fun c m => tidy.child m) tidy.self.2.1
    have own := Bool.and_eq_true_iff.mp tidy.self.2.2
    rw [node, Node.marks]
    exact hc.reference (by decide) (Text.line_of_oneLine own.1) (Text.line_of_oneLine own.2)
  | .image url content title, _, tidy, _ => by
    have hc := inlines_inscribes wraps content (List.all_eq_true.mp tidy.self.1)
      (fun c m => tidy.child m) tidy.self.2.1
    have own := Bool.and_eq_true_iff.mp tidy.self.2.2
    rw [node, Node.marks]
    exact hc.reference (by decide) (Text.line_of_oneLine own.1) (Text.line_of_oneLine own.2)
  | .autolink _ label, _, tidy, _ => by
    have line := Text.line_of_oneLine tidy.self.2.2
    rw [node, Node.marks]
    exact Emits.verbatim fun _ _ => .of_line (by simp [line]) (by simp)
  | .lineBreak soft, _, _, hard => by
    obtain rfl : soft = true := by simpa [Node.isHardBreak] using hard
    rw [node, Node.marks]
    · exact .softBreak wraps
    all_goals simp
  | .textless .code, _, _, _ => by
    rw [node, Node.marks]
    · exact .pure fun _ _ => .of_line (by simp) (by simp)
    all_goals simp
  | .htmlInline _, _, tidy, _ | .textless .htmlInline, _, tidy, _ => by
    simpa [Node.ownLines] using tidy.self.2.2

theorem inlines_inscribes (wraps : settings.softWraps = .collapse) : (content : List Node) →
    (∀ c ∈ content, c.isInline = true) → (∀ c ∈ content, c.Tidy settings) →
    Node.breaksContinued content = true →
    Inscribes (Node.anyMarks content) (inlines settings content)
  | [], _, _, _ => by
    rw [inlines, Node.anyMarks]
    exact .pure fun _ _ => .of_line (by simp) (by simp)
  | child :: rest, inline, tidy, continued => by
    have later := (Bool.and_eq_true_iff.mp continued).2
    have hc := node_inscribes wraps child (inline child List.mem_cons_self)
      (tidy child List.mem_cons_self)
    have hr := inlines_inscribes wraps rest (fun c m => inline c (List.mem_cons_of_mem _ m))
      (fun c m => tidy c (List.mem_cons_of_mem _ m)) later
    rw [inlines]
    exact .after (.nextInline _) fun _ => inscribes_cons hc hr continued

end

theorem anyMarks_of_breaks {content : List Node} (h : content.all Node.isLineBreak = true) :
    Node.anyMarks content = false := by
  induction content with
  | nil => rw [Node.anyMarks]
  | cons n rest ih =>
    rw [List.all_cons, Bool.and_eq_true] at h
    cases n with
    | lineBreak => simp [Node.anyMarks, Node.marks, ih h.2]
    | _ => simp [Node.isLineBreak] at h

theorem paragraphInlines_inscribes (wraps : settings.softWraps = .collapse)
    {content : List Node} (inline : ∀ c ∈ content, c.isInline = true)
    (tidy : ∀ c ∈ content, c.Tidy settings) (continued : Node.breaksContinued content = true) :
    Inscribes (Node.anyMarks content) (paragraphInlines settings content) := by
  induction content with
  | nil =>
    rw [paragraphInlines, Node.anyMarks]
    exact .pure fun _ _ => .of_line (by simp) (by simp)
  | cons child rest ih =>
    have later := (Bool.and_eq_true_iff.mp continued).2
    have hc := node_inscribes wraps child (inline child List.mem_cons_self)
      (tidy child List.mem_cons_self)
    have hr := ih (fun c m => inline c (List.mem_cons_of_mem _ m))
      (fun c m => tidy c (List.mem_cons_of_mem _ m)) later
    rw [paragraphInlines]
    split
    · rename_i breaks
      rw [anyMarks_of_breaks (by simpa using breaks)]
      exact .pure fun _ _ => .of_line (by simp) (by simp)
    · exact .after (.nextInline _) fun _ => inscribes_cons hc hr continued

end Inlines

/-- What a row of blocks writes: nothing if none is visible, and otherwise a solid text, behind a
separator unless they come first. -/
def Laid (first visible : Bool) (text : List Char) : Prop :=
  if visible then
    ∃ gap body, text = gap ++ body ∧ Text.Solid body ∧ if first then gap = [] else Text.IsGap gap
  else text = []

theorem Laid.solid {text : List Char} (h : Laid true true text) : Text.Solid text := by
  obtain ⟨gap, body, rfl, solid, none_⟩ := h
  obtain rfl : gap = [] := none_
  exact solid

/-- What comes later stands apart, or is not there. -/
theorem Laid.behind {text rest : List Char} {visible : Bool} (solid : Text.Solid text)
    (h : Laid false visible rest) : Text.Solid (text ++ rest) := by
  cases visible with
  | true =>
    obtain ⟨gap, body, rfl, solid', between⟩ := h
    have between : Text.IsGap gap := between
    exact solid.around solid' between.calm
  | false =>
    obtain rfl : rest = [] := h
    rwa [List.append_nil]

/-- A step that writes a visible block, outside of tables. -/
abbrev Prints (x : Render Unit) : Prop :=
  Emits (fun _ cell _ text => cell = false → Text.Solid text) x

/-- A step that writes a row of blocks, outside of tables. -/
abbrev Lays (first visible : Bool) (x : Render Unit) : Prop :=
  Emits (fun _ cell _ text => cell = false → Laid first visible text) x

theorem separator_isGap (tight : Bool) (n : Node) : Text.IsGap (separator tight n) := by
  unfold separator
  split <;> split <;> simp [Text.IsGap]

namespace Lays

theorem nil (first : Bool) : Lays first false (pure ()) := .pure fun _ _ _ => rfl

/-- A visible block, what stands before it and what comes after it. -/
theorem cons {x rest : Render Unit} {gap : List Char} {visible : Bool} (hx : Prints x)
    (hr : Lays false visible rest) (between : Text.IsGap gap) (first : Bool) :
    Lays first true (if !first then do write gap; x; rest else do x; rest) := by
  have both : Prints (do x; rest) :=
    hx.bind (fun _ => hr) fun _ _ _ _ _ _ solid later outside =>
      (later outside).behind (solid outside)
  refine .ite (fun inner => ?_) fun outer => ?_
  · obtain rfl : first = false := by simpa using inner
    refine (Emits.write fun _ _ => rfl : Emits (fun _ _ _ text => text = gap) _).bind
      (fun _ => both) ?_
    rintro _ _ _ _ _ body rfl solid outside
    exact ⟨_, body, rfl, solid outside, between⟩
  · obtain rfl : first = true := by simpa using outer
    exact both.mono fun _ _ _ text solid outside => ⟨[], text, rfl, solid outside, rfl⟩

end Lays

section Tables

variable {settings : RendererSettings}

theorem cellTexts_lines (wraps : settings.softWraps = .collapse) {cells : List Node}
    (placed : ∀ c ∈ cells, c.isTableCell = true) (tidy : ∀ c ∈ cells, c.Tidy settings) :
    Emits (fun _ _ texts written => written = [] ∧ ∀ text ∈ texts, '\n' ∉ text)
      (cellTexts settings cells) := by
  induction cells with
  | nil =>
    rw [cellTexts]
    exact .pure fun _ _ => ⟨rfl, by simp⟩
  | cons cell rest ih =>
    have hr := ih (fun c m => placed c (List.mem_cons_of_mem _ m))
      fun c m => tidy c (List.mem_cons_of_mem _ m)
    have own := tidy cell List.mem_cons_self
    cases cell with
    | tableCell content alignment =>
      have hc := inlines_inscribes wraps content (List.all_eq_true.mp own.self.1)
        (fun c m => own.child m) own.self.2.1
      rw [cellTexts]
      refine (Emits.cell hc hr).mono ?_
      rintro heading _ _ _ ⟨rfl, text, more, inner, rfl, shown, written, lines⟩
      refine ⟨rfl, fun other m => ?_⟩
      obtain rfl | m := List.mem_cons.mp m
      · exact shown.newline_mem (written.line (by simp))
      · exact lines other m
    | _ => cases placed _ List.mem_cons_self

theorem headerRow_lines (wraps : settings.softWraps = .collapse) {header : Option Node}
    (placed : header.all Node.isTableRow = true) (tidy : ∀ row ∈ header, row.Tidy settings) :
    Fills (fun _ columns texts => (∀ text ∈ texts, '\n' ∉ text) ∧ texts.length ≤ columns)
      (headerRow settings header) := by
  cases header with
  | none =>
    rw [headerRow]
    exact .fail _
  | some row =>
    have own := tidy row rfl
    cases row with
    | tableRow cells isHeader =>
      rw [headerRow]
      exact .row (cellTexts_lines wraps (List.all_eq_true.mp own.self.1) fun c m => own.child m)
    | _ => cases placed

theorem bodyRows_lines (wraps : settings.softWraps = .collapse) {rows : List Node}
    (placed : ∀ row ∈ rows, row.isTableRow = true) (tidy : ∀ row ∈ rows, row.Tidy settings) :
    Fills (fun _ columns texts => (∀ row ∈ texts, ∀ text ∈ row, '\n' ∉ text) ∧
      ∀ row ∈ texts, row.length ≤ columns) (bodyRows settings rows) := by
  induction rows with
  | nil =>
    rw [bodyRows]
    exact .pure fun _ _ => ⟨by simp, by simp⟩
  | cons row rest ih =>
    have hr := ih (fun c m => placed c (List.mem_cons_of_mem _ m))
      fun c m => tidy c (List.mem_cons_of_mem _ m)
    have own := tidy row List.mem_cons_self
    cases row with
    | tableRow cells isHeader =>
      have hc := cellTexts_lines wraps (List.all_eq_true.mp own.self.1) fun c m => own.child m
      rw [bodyRows]
      refine (Fills.cons hc hr).mono ?_
      rintro _ columns _ ⟨⟨first, others, rfl, line, lines⟩, rooms⟩
      refine ⟨fun row m => ?_, rooms⟩
      obtain rfl | m := List.mem_cons.mp m
      · exact line
      · exact lines row m
    | _ => cases placed _ List.mem_cons_self

theorem gridText_solid (grid : Grid) {headerTexts : List (List Char)}
    {bodyTexts : List (List (List Char))} (first : ∀ text ∈ headerTexts, '\n' ∉ text)
    (rest : ∀ row ∈ bodyTexts, ∀ text ∈ row, '\n' ∉ text) :
    Text.Solid (gridText grid headerTexts bodyTexts) := by
  have header : Text.Solid (grid.headerLine headerTexts ++ '\n' :: grid.delimiterLine) :=
    (Grid.cellsLine_solid grid.widths [] first).line grid.delimiterLine_solid
  rw [gridText]
  generalize grid.headerLine headerTexts ++ '\n' :: grid.delimiterLine = above at header
  induction bodyTexts generalizing above with
  | nil => rwa [List.flatMap_nil, List.append_nil]
  | cons row rows ih =>
    have body : Text.Solid (above ++ '\n' :: grid.bodyLine row) :=
      header.line (Grid.cellsLine_solid grid.widths grid.alignments (rest row List.mem_cons_self))
    rw [List.flatMap_cons, ← List.append_assoc]
    exact ih (fun row m => rest row (List.mem_cons_of_mem _ m)) _ body

theorem table_prints (wraps : settings.softWraps = .collapse) {header : Option Node}
    {rows : List Node} (tidy : (Node.table header rows).Tidy settings) :
    Prints (node settings (.table header rows)) := by
  have placed := Bool.and_eq_true_iff.mp tidy.self.1
  have hh := headerRow_lines wraps placed.1 fun row m =>
    tidy.child (by simp [Node.children, Option.mem_def.mp m])
  have hr := bodyRows_lines wraps (List.all_eq_true.mp placed.2) fun row m =>
    tidy.child (by simp [Node.children, m])
  rw [node]
  refine (Emits.table (T := fun _ first rest => (∀ text ∈ first, '\n' ∉ text) ∧
    ∀ row ∈ rest, ∀ text ∈ row, '\n' ∉ text) (hh.pair hr) header rows).mono ?_
  rintro _ _ _ _ ⟨grid, headerTexts, bodyTexts, ⟨first, rest⟩, _, _, rfl⟩ _
  exact gridText_solid grid first rest

end Tables

section Blocks

variable {settings : RendererSettings}

theorem heading_prints (wraps : settings.softWraps = .collapse) {level : HeadingLevel}
    {content : List Node} {identifier : Option String}
    (tidy : (Node.heading level content identifier).Tidy settings) :
    Prints (node settings (.heading level content identifier)) where
  balanced := (node_balanced settings _).mono False.elim
  wrote s _ t orderly h := by
    obtain ⟨placed, continued, own⟩ := tidy.self
    have inline := List.all_eq_true.mp placed
    obtain ⟨named, wide⟩ := Bool.and_eq_true_iff.mp own
    have hc := inlines_inscribes wraps content inline (fun c m => tidy.child m) continued
    rw [node] at h
    obtain ⟨text, u, aside, hw⟩ := bind_eq_ok.mp h
    have printed := hc.scratch
      { atLineStart := (underline? settings level).isSome, inHeading := some true }
    obtain ⟨_, silent, rfl, inner, shown, written⟩ := printed.wrote orderly aside
    obtain ⟨k, settled⟩ := printed.balanced.done orderly.grid aside
    have clean := (k.orderly settled orderly).writer
    cases hw
    refine ⟨_, silent.trans (u.writer.write_wrote clean _), fun outside => ?_⟩
    have line : '\n' ∉ Text.trim Text.isSpace text := fun m =>
      shown.newline_mem (written.line rfl) ((Text.trim_sublist _ _).subset m)
    refine headingText_solid (Text.line_of_oneLine named) line fun underlined => ?_
    have alone := scratch_renderInlines inline (fun c m => tidy.placed.child m) rfl outside aside
    have first : settings.headingLine? level content identifier = some
        ((headingText settings level identifier (Text.trim Text.isSpace text)).takeWhile
          (· != '\n')) := by
      simp [RendererSettings.headingLine?, alone]
    simpa [first, Option.isSome_iff_ne_none.mp underlined] using wide

theorem paragraph_prints (wraps : settings.softWraps = .collapse) {content : List Node}
    (tidy : (Node.paragraph content).Tidy settings)
    (visible : (Node.paragraph content).isBlankBlock = false) :
    Prints (node settings (.paragraph content)) := by
  have inline := List.all_eq_true.mp tidy.self.1
  have marked := Node.anyMarks_of_visible content inline (fun c m => tidy.child m) visible
  have hc := paragraphInlines_inscribes wraps inline (fun c m => tidy.child m) tidy.self.2.1
  rw [node]
  refine .after .startInlines fun _ => hc.mono fun _ _ _ _ written _ => ?_
  exact ⟨written.smooth, written.shown marked⟩

theorem htmlBlock_prints {content : String} {blankBefore : Bool}
    (tidy : (Node.htmlBlock content blankBefore).Tidy settings)
    (visible : (Node.htmlBlock content blankBefore).isBlankBlock = false) :
    Prints (node settings (.htmlBlock content blankBefore)) := by
  have visible : content.toList.all Text.isNewline = false := visible
  have own := tidy.self.2.2
  simp only [Node.ownLines, visible, Bool.false_or, Bool.and_eq_true, bne_iff_ne,
    decide_eq_true_eq] at own
  rw [node]
  exact .write fun _ _ _ => trimEnd_solid visible own.1 own.2

theorem textless_prints (plain : settings.formatters = []) {kind : Textless}
    (block : (Node.textless kind).isBlock = true) : Prints (node settings (.textless kind)) := by
  rw [node]
  cases kind with
  | code => cases block
  | htmlInline => cases block
  | htmlBlock blankBefore => exact .lack _
  | codeBlock info fence fenced =>
    have none_ : replyWithoutCode? settings.formatters { content := "", info, fence, fenced } =
        none := by
      simp [replyWithoutCode?, plain, CodeFormatter.find?]
    simp only [textless, codeBlockWithoutCode, none_, Option.bind_none]
    exact .after (.record _) fun _ => .lack _

theorem listItem_prints {children : List Node} (task : Option TaskStatus) (blankBefore : Bool)
    (hb : ∀ tight, Lays true (children.any (!·.isBlankBlock))
      (blocks settings tight true children)) :
    Prints (node settings (.listItem children task blankBefore)) := by
  rw [node]
  refine (Emits.listItem hb settings children task).mono ?_
  rintro _ _ _ _ ⟨mark, some_, line, ⟨_, rfl⟩ | ⟨shown, gap, inner, line', rfl, laid⟩⟩ outside
  · exact Text.solid_of_line line some_
  · have visible : children.any (!·.isBlankBlock) = true := by simpa using shown
    rw [visible] at laid
    have front : '\n' ∉ mark ++ gap := by simp [line, line']
    exact (Text.smooth_of_line front).append_solid (laid outside).solid

mutual

theorem node_prints (wraps : settings.softWraps = .collapse) (plain : settings.formatters = []) :
    (n : Node) → n.isBlock = true → n.Tidy settings → n.isBlankBlock = false →
    Prints (node settings n)
  | .heading .., _, tidy, _ => heading_prints wraps tidy
  | .paragraph _, _, tidy, visible => paragraph_prints wraps tidy visible
  | .codeBlock block, _, tidy, _ => by
    obtain ⟨info, calm⟩ := Bool.and_eq_true_iff.mp tidy.self.2.2
    rw [node]
    refine (Emits.codeBlock settings block).mono ?_
    rintro _ _ _ _ rfl _
    rw [plain]
    exact codeBlockText_solid (Text.line_of_oneLine info) (of_decide_eq_true calm)
  | .blockQuote children, _, tidy, _ => by
    have hc := blocks_lays wraps plain false true children (List.all_eq_true.mp tidy.self.1)
      fun c m => tidy.child m
    have body := Emits.after (.checkTexts children) fun _ => hc
    have own := tidy.self.2.2
    rw [node]
    refine (Emits.blockQuote body children.isEmpty).mono ?_
    rintro _ _ _ _ (⟨_, rfl⟩ | ⟨filled, front, inner, line, rfl, laid⟩) outside
    · exact Text.solid_of_line (by decide) (by decide)
    · have visible : children.any (!·.isBlankBlock) = true := by
        simpa only [Node.ownLines, filled, Bool.false_or] using own
      rw [visible] at laid
      exact (Text.smooth_of_line line).append_solid (laid outside).solid
  | .list style items, _, tidy, visible => by
    have hi := listItems_lays wraps plain style true items (List.all_eq_true.mp tidy.self.1)
      fun c m => tidy.child m
    have filled : items.isEmpty = false := visible
    rw [filled] at hi
    rw [node]
    exact (Emits.inList hi style).mono fun _ _ _ _ laid outside => (laid outside).solid
  | .table .., _, tidy, _ => table_prints wraps tidy
  | .thematicBreak, _, _, _ => by
    rw [node]
    exact .write fun _ _ _ => Text.solid_of_line (by decide) (by decide)
  | .htmlBlock .., _, tidy, visible => htmlBlock_prints tidy visible
  | .textless _, block, _, _ => textless_prints plain block

theorem blocks_lays (wraps : settings.softWraps = .collapse) (plain : settings.formatters = [])
    (tight first : Bool) : (children : List Node) → (∀ c ∈ children, c.isBlock = true) →
    (∀ c ∈ children, c.Tidy settings) →
    Lays first (children.any (!·.isBlankBlock)) (blocks settings tight first children)
  | [], _, _ => by
    rw [blocks]
    exact .nil first
  | child :: rest, placed, tidy => by
    have placed' : ∀ c ∈ rest, c.isBlock = true := fun c m => placed c (List.mem_cons_of_mem _ m)
    have tidy' : ∀ c ∈ rest, c.Tidy settings := fun c m => tidy c (List.mem_cons_of_mem _ m)
    rw [blocks]
    cases blank : child.isBlankBlock with
    | true =>
      have hr := blocks_lays wraps plain tight first rest placed' tidy'
      simpa [blank] using hr
    | false =>
      have hc := node_prints wraps plain child (placed child List.mem_cons_self)
        (tidy child List.mem_cons_self) blank
      have hr := blocks_lays wraps plain tight false rest placed' tidy'
      simpa [blank] using Lays.cons hc hr (separator_isGap tight child) first

theorem listItems_lays (wraps : settings.softWraps = .collapse) (plain : settings.formatters = [])
    (style : ListStyle) (first : Bool) : (items : List Node) →
    (∀ c ∈ items, c.isListItem = true) → (∀ c ∈ items, c.Tidy settings) →
    Lays first (!items.isEmpty) (listItems settings style first items)
  | [], _, _ => by
    rw [listItems]
    exact .nil first
  | item :: rest, placed, tidy => by
    have hr := listItems_lays wraps plain style false rest
      (fun c m => placed c (List.mem_cons_of_mem _ m)) fun c m => tidy c (List.mem_cons_of_mem _ m)
    have own := tidy item List.mem_cons_self
    cases item with
    | listItem children task blankBefore =>
      have hb (tight : Bool) := blocks_lays wraps plain tight true children
        (List.all_eq_true.mp own.self.1) fun c m => own.child m
      have gap : Text.IsGap (if !style.tight || blankBefore then ['\n', '\n'] else ['\n']) := by
        split <;> simp [Text.IsGap]
      rw [listItems]
      exact .cons (listItem_prints task blankBefore hb) hr gap first
    | _ => cases placed _ List.mem_cons_self

end

theorem document_ends (wraps : settings.softWraps = .collapse) (plain : settings.formatters = [])
    {children : List Node} (tidy : (Node.document children).Tidy settings) :
    Emits (fun _ cell _ text => cell = false → ∃ body, text = body ++ ['\n'] ∧ Text.Smooth body)
      (node settings (.document children)) := by
  have hc := blocks_lays wraps plain false true children (List.all_eq_true.mp tidy.self.1)
    fun c m => tidy.child m
  rw [node]
  refine .after (.checkTexts children) fun _ => hc.bind
    (fun _ => (.write fun _ _ => rfl : Emits (fun _ _ _ text => text = ['\n']) _)) ?_
  rintro _ _ _ _ text _ laid rfl outside
  refine ⟨text, rfl, ?_⟩
  cases visible : children.any (!·.isBlankBlock) with
  | true =>
    rw [visible] at laid
    exact (laid outside).solid.toSmooth
  | false =>
    rw [visible] at laid
    obtain rfl : text = [] := laid outside
    exact Text.smooth_of_line (by simp)

end Blocks

end Render

/-- **Line ends of a document.** The output of a tidy document ends with exactly one line end and
never has three of them in a row; it starts with one only if it is nothing else. -/
theorem RendererSettings.render_line_ends {settings : RendererSettings}
    (wraps : settings.softWraps = .collapse) (plain : settings.formatters = []) {root : Node}
    (tidy : root.Tidy settings) {out : String} (h : (settings.render root).1 = .ok out) :
    (∃ body, out.toList = body ++ ['\n'] ∧ body.getLast? ≠ some '\n' ∧ body.head? ≠ some '\n') ∧
    ¬ ['\n', '\n', '\n'] <:+: out.toList := by
  obtain ⟨children, s', rfl, run, rfl⟩ := render_eq_ok h
  split
  · exact ⟨⟨[], by simp, by simp, by simp⟩, by decide⟩
  · obtain ⟨text, ⟨printed, grown, shown⟩, ends⟩ :=
      (Render.document_ends wraps plain tidy).wrote RenderState.orderly_empty run
    obtain ⟨_, rfl, smooth⟩ := ends rfl
    obtain ⟨body, rfl, smooth'⟩ := shown.ended smooth
    have start : ({} : RenderState).writer.out.toList = [] := rfl
    rw [start, List.nil_append] at grown
    rw [grown]
    exact ⟨⟨body, rfl, smooth'.last, smooth'.head⟩,
      smooth'.calm.append (by decide) (.inl smooth'.last)⟩

theorem RendererSettings.render_line_ends_nested :
    let item := Node.listItem [.paragraph [.text "a", .lineBreak false, .text "b"],
      .blockQuote [.codeBlock { content := "\nx" }, .paragraph []]] none true
    let root := Node.document [.htmlBlock "\n\n\n" true, .list { marker := .dash } [item, item]]
    root.Tidy {} ∧ ∃ out, (({} : RendererSettings).render root).1 = .ok out ∧
      (∃ body, out.toList = body ++ ['\n'] ∧ body.getLast? ≠ some '\n' ∧
        body.head? ≠ some '\n') ∧ ¬ ['\n', '\n', '\n'] <:+: out.toList := by
  intro item root
  have tidy : root.Tidy {} := .of_every (by decide) (by decide)
  have held : root.HoldsTexts := .of_every (by decide)
  obtain ⟨out, run⟩ := render_of_printable {} held (by decide)
  exact ⟨tidy, out, run, render_line_ends rfl rfl tidy run⟩

end MarkdownCanon
