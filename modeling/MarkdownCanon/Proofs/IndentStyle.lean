import MarkdownCanon.Proofs.LockstepWalk
import MarkdownCanon.Proofs.Realignment

/-! How the lines of list items are indented shows in the margins of lines and nowhere else, as
long as no width is measured over them. -/

namespace MarkdownCanon

namespace Render

variable {settings : RendererSettings} {style : ListIndent} {width : IndentWidth}

theorem headingText_squeeze {level : HeadingLevel} (under : underline? settings level = none)
    (identifier : Option String) {a b : List Char}
    (same : Text.squeeze false b = Text.squeeze false a) :
    Text.squeeze false (headingText settings level identifier b) =
      Text.squeeze false (headingText settings level identifier a) := by
  have ends : Text.endsInMargin false b = Text.endsInMargin false a := by
    rw [← Text.endsInMargin_squeeze, same, Text.endsInMargin_squeeze]
  have empty : b = [] ↔ a = [] := by
    rw [← Text.squeeze_eq_nil, same, Text.squeeze_eq_nil]
  have spaced (text : List Char) :
      Text.squeeze false (' ' :: text) = ' ' :: Text.squeeze false text ∧
        Text.endsInMargin false (' ' :: text) = Text.endsInMargin false text := by
    simp [Text.squeeze, Text.endsInMargin]
  have hashes : '\n' ∉ List.replicate level.val '#' := by simp
  unfold headingText
  simp only [under]
  by_cases none_ : a = []
  · rw [none_, empty.mpr none_]
  · have shown : b ≠ [] := fun e => none_ (empty.mp e)
    rw [if_neg (c := a.isEmpty = true) (by simpa using none_),
      if_neg (c := b.isEmpty = true) (by simpa using shown)]
    simp only [Text.squeeze_append, Text.endsInMargin_append, Text.endsInMargin_false hashes,
      (spaced _).1, (spaced _).2, same, ends]

/-- A heading does not end with a space if its text does not. -/
theorem headingText_last {level : HeadingLevel} (under : underline? settings level = none)
    (identifier : Option String) {text : List Char} (last : text.getLast? ≠ some ' ') :
    (headingText settings level identifier text).getLast? ≠ some ' ' := by
  have hashes : (List.replicate level.val '#').getLast? ≠ some ' ' := by
    rw [List.getLast?_replicate]
    split <;> simp
  have closed : (identifierSuffix identifier).getLast? ≠ some ' ' := by
    unfold identifierSuffix
    dsimp only
    split
    · simp
    · rw [List.getLast?_append]
      simp
  have spaced {part : List Char} (h : part.getLast? ≠ some ' ') :
      (if part.isEmpty then [] else ' ' :: part).getLast? ≠ some ' ' := by
    cases part with
    | nil => simp
    | cons c part => simpa using h
  have joined {a b : List Char} (ha : a.getLast? ≠ some ' ') (hb : b.getLast? ≠ some ' ') :
      (a ++ b).getLast? ≠ some ' ' := by
    rw [List.getLast?_append]
    cases h : b.getLast? with
    | none => simpa using ha
    | some c => simpa [h] using hb
  unfold headingText
  simp only [under]
  exact joined (joined hashes (spaced last)) (spaced closed)

theorem headingText_cons {level : HeadingLevel} (under : underline? settings level = none)
    (identifier : Option String) (text : List Char) :
    ∃ rest, headingText settings level identifier text = '#' :: rest := by
  obtain ⟨n, positive⟩ : ∃ n, level.val = n + 1 := ⟨level.val - 1, by have := level.2.1; omega⟩
  simp [headingText, under, positive, List.replicate_succ]

/-- Headings of texts that differ by spaces in their margins keep writers related. -/
theorem headingText_realigned {level : HeadingLevel} (under : underline? settings level = none)
    (identifier : Option String) {w v : Writer} (related : w.Realigned v) {a b : List Char}
    (same : Text.squeeze false b = Text.squeeze false a) :
    Writer.Realigned
      (w.write (headingText settings level identifier (Text.trim Text.isSpace a)))
      (v.write (headingText settings level identifier (Text.trim Text.isSpace b))) := by
  have trimmed (text : List Char) : (Text.trim Text.isSpace text).getLast? ≠ some ' ' := by
    intro space
    simpa [Text.isSpace] using Text.trimEnd_last Text.isSpace _ space
  have texts := headingText_squeeze under identifier
    (by rw [Text.squeeze_trim, Text.squeeze_trim, same] :
      Text.squeeze false (Text.trim Text.isSpace b) = Text.squeeze false (Text.trim Text.isSpace a))
  have last := headingText_last under identifier (trimmed a)
  have last' := headingText_last under identifier (trimmed b)
  obtain ⟨x, hx⟩ := headingText_cons under identifier (Text.trim Text.isSpace a)
  obtain ⟨y, hy⟩ := headingText_cons under identifier (Text.trim Text.isSpace b)
  rw [hx, hy] at texts
  rw [hx] at last
  rw [hy] at last'
  rw [hx, hy]
  exact related.write_squeezed (by decide) (by decide) texts last last'

/-- Content that keeps step is printed aside with related writers. -/
theorem scratch_together {R : Writer → Writer → Prop} {strict firm : Prop} {x x' : Render Unit}
    (hx : Lockstep R strict firm x x') (fresh : R {} {}) (flags : ScratchFlags) {s : RenderState}
    (orderly : s.Orderly) (v : Writer) :
    (∃ (t : RenderState) (u : Writer), R t.writer u ∧
      scratch flags x s = .ok t.writer.out.toList (t.leave flags s) ∧
      scratch flags x' { s with writer := v } =
        .ok u.out.toList { t.leave flags s with writer := v }) ∨
    ∃ e t t', scratch flags x s = .error e t ∧
      scratch flags x' { s with writer := v } = .error e t' := by
  have inside : (s.enter flags).Orderly := ⟨Writer.clean_empty, orderly.bullets, orderly.grid⟩
  obtain ⟨_, t, u, related, left, right⟩ | ⟨e, t, t', left, right⟩ :=
    (hx.run inside fresh fun _ => .inr rfl).ends
  · refine .inl ⟨t, u, related, scratch_eq_ok.mpr ⟨t, left, rfl, rfl⟩, ?_⟩
    exact scratch_eq_ok.mpr ⟨{ t with writer := u }, right, rfl, rfl⟩
  · refine .inr ⟨e, t.leave flags s, t'.leave flags { s with writer := v }, ?_, ?_⟩
    · exact scratch_eq_error.mpr ⟨t, left, rfl⟩
    · exact scratch_eq_error.mpr ⟨t', right, rfl⟩

/-- A heading that is not underlined may hold lists. -/
theorem heading_lockstep {level : HeadingLevel} (under : underline? settings level = none)
    {content : List Node} (identifier : Option String) {firm : Prop}
    (hc : Lockstep Writer.Realigned False firm (inlines settings content)
      (inlines (settings.reindented style width) content)) :
    Lockstep Writer.Realigned False False (node settings (.heading level content identifier))
      (node (settings.reindented style width) (.heading level content identifier)) where
  balanced := (node_balanced _ _).mono False.elim
  balanced' := (node_balanced _ _).mono False.elim
  run s v orderly related _ := by
    let flags : ScratchFlags :=
      { atLineStart := (underline? settings level).isSome, inHeading := some true }
    have same : node (settings.reindented style width) (.heading level content identifier) = (do
        let text ← scratch flags (inlines (settings.reindented style width) content)
        write (headingText settings level identifier (Text.trim Text.isSpace text))) := by
      rw [node]
      rfl
    rw [node, same]
    obtain ⟨t, u, aside, left, right⟩ | ⟨e, t, t', left, right⟩ :=
      scratch_together hc .empty flags orderly v
    · rw [bind_of_ok left, bind_of_ok right]
      refine .done () { t.leave flags s with writer := _ } _ ?_
      exact headingText_realigned under identifier related aside.text
    · rw [bind_of_error left, bind_of_error right]
      exact .failed _ _ _

end Render

namespace Node

/-- A tree without list items. -/
def ItemFree (n : Node) : Prop := ∀ m, Within m n → m.isListItem = false

theorem ItemFree.child {n c : Node} (h : n.ItemFree) (hc : c ∈ n.children) : c.ItemFree :=
  fun m inside => h m (.under hc inside)

/-- Whether the width of what a node holds shows in the output: in the columns of a table, and in
the line under a heading. -/
def isMeasured (settings : RendererSettings) : Node → Bool
  | table .. => true
  | heading level .. => (Render.underline? settings level).isSome
  | _ => false

/-- No list item stands where widths are measured. -/
def ItemsUnmeasured (settings : RendererSettings) (n : Node) : Prop :=
  ∀ m, Within m n → m.isMeasured settings = true → m.ItemFree

theorem ItemsUnmeasured.of_every {settings : RendererSettings} {n : Node}
    (h : n.every (fun m => !m.isMeasured settings || m.every (!·.isListItem)) = true) :
    n.ItemsUnmeasured settings := by
  intro m inside measured k below
  have free := every_within h inside
  rw [measured, Bool.not_true, Bool.false_or] at free
  simpa using every_within free below

end Node

namespace Render

section

variable (settings : RendererSettings) (style : ListIndent) (width : IndentWidth)

mutual

/-- What holds no list items is printed in the same way however these are indented. -/
theorem node_reindented : (n : Node) → n.ItemFree →
    node (settings.reindented style width) n = node settings n
  | .document children, h => by
    rw [node, node, blocks_reindented false true children fun c m => h.child m]
  | .heading level content identifier, h => by
    rw [node, node, inlines_reindented content fun c m => h.child m]
    rfl
  | .paragraph content, h => by
    rw [node, node, paragraphInlines_reindented content fun c m => h.child m]
  | .codeBlock block, _ => by
    rw [node, node]
    rfl
  | .blockQuote children, h => by
    rw [node, node, blocks_reindented false true children fun c m => h.child m]
  | .list marking items, h => by
    rw [node, node, listItems_reindented marking true items fun c m => h.child m]
  | .listItem children task blankBefore, h => by
    exact absurd (h _ (.self _)) (by simp [Node.isListItem])
  | .table header rows, h => by
    have rowsFree : ∀ c ∈ rows, c.ItemFree := fun c m => h.child (by simp [Node.children, m])
    rw [node, node, bodyRows_reindented rows rowsFree, headerRow_reindented header]
    intro row some_
    exact h.child (by simp [Node.children, Option.mem_def.mp some_])
  | .tableRow .., _ => by rw [node, node]
  | .tableCell .., _ => by rw [node, node]
  | .thematicBreak, _ => by rw [node, node]
  | .htmlBlock content _, _ => by rw [node, node]
  | .text content, _ => by rw [node, node]
  | .emphasis content, h => by
    rw [node, node, inlines_reindented content fun c m => h.child m]
    rfl
  | .strong content, h => by
    rw [node, node, inlines_reindented content fun c m => h.child m]
    rfl
  | .strikethrough content, h => by
    rw [node, node, inlines_reindented content fun c m => h.child m]
  | .code content, _ => by rw [node, node]
  | .link url content title, h => by
    rw [node, node, inlines_reindented content fun c m => h.child m]
  | .image url content title, h => by
    rw [node, node, inlines_reindented content fun c m => h.child m]
  | .autolink _ label, _ => by rw [node, node]
  | .htmlInline content, _ => by rw [node, node]
  | .lineBreak soft, _ => by
    rw [node, node]
    rfl
  | .textless kind, _ => by
    rw [node, node]
    cases kind <;> rfl
  | .foreign kind, _ => by rw [node, node]
  | .missing, _ => by rw [node, node]

theorem inlines_reindented : (content : List Node) → (∀ c ∈ content, c.ItemFree) →
    inlines (settings.reindented style width) content = inlines settings content
  | [], _ => by rw [inlines, inlines]
  | child :: rest, h => by
    rw [inlines, inlines, node_reindented child (h child (by simp)),
      inlines_reindented rest fun c m => h c (by simp [m])]

theorem paragraphInlines_reindented : (content : List Node) → (∀ c ∈ content, c.ItemFree) →
    paragraphInlines (settings.reindented style width) content = paragraphInlines settings content
  | [], _ => by rw [paragraphInlines, paragraphInlines]
  | child :: rest, h => by
    rw [paragraphInlines, paragraphInlines, node_reindented child (h child (by simp)),
      paragraphInlines_reindented rest fun c m => h c (by simp [m])]

theorem blocks_reindented (tight first : Bool) : (children : List Node) →
    (∀ c ∈ children, c.ItemFree) →
    blocks (settings.reindented style width) tight first children =
      blocks settings tight first children
  | [], _ => by rw [blocks, blocks]
  | child :: rest, h => by
    have later (again : Bool) := blocks_reindented tight again rest fun c m => h c (by simp [m])
    rw [blocks, blocks, node_reindented child (h child (by simp)), later, later]

theorem listItems_reindented (marking : ListStyle) (first : Bool) : (items : List Node) →
    (∀ c ∈ items, c.ItemFree) →
    listItems (settings.reindented style width) marking first items =
      listItems settings marking first items
  | [], _ => by rw [listItems, listItems]
  | item :: rest, h => by
    have free := h item (by simp) item (.self _)
    cases item <;> simp_all [listItems, Node.isListItem]

theorem headerRow_reindented : (header : Option Node) → (∀ row ∈ header, row.ItemFree) →
    headerRow (settings.reindented style width) header = headerRow settings header
  | none, _ => by rw [headerRow, headerRow]
  | some row, h => by
    cases row with
    | tableRow cells isHeader =>
      rw [headerRow, headerRow, cellTexts_reindented cells fun c m => (h _ rfl).child m]
    | _ => simp only [headerRow]

theorem bodyRows_reindented : (rows : List Node) → (∀ c ∈ rows, c.ItemFree) →
    bodyRows (settings.reindented style width) rows = bodyRows settings rows
  | [], _ => by rw [bodyRows, bodyRows]
  | row :: rest, h => by
    have later := bodyRows_reindented rest fun c m => h c (by simp [m])
    have free := h row (by simp)
    cases row with
    | tableRow cells isHeader =>
      rw [bodyRows, bodyRows, cellTexts_reindented cells fun c m => free.child m, later]
    | _ => simp only [bodyRows]

theorem cellTexts_reindented : (cells : List Node) → (∀ c ∈ cells, c.ItemFree) →
    cellTexts (settings.reindented style width) cells = cellTexts settings cells
  | [], _ => by rw [cellTexts, cellTexts]
  | cell :: rest, h => by
    have later := cellTexts_reindented rest fun c m => h c (by simp [m])
    have free := h cell (by simp)
    cases cell with
    | tableCell content alignment =>
      rw [cellTexts, cellTexts, inlines_reindented content fun c m => free.child m, later]
    | _ => simp only [cellTexts]

end

end

variable {settings : RendererSettings}

theorem comparable_of_unmeasured (style : ListIndent) (width : IndentWidth) {n : Node}
    (h : n.ItemsUnmeasured settings) :
    Comparable settings style width False Writer.Realigned n where
  tables _ _ inside := node_reindented settings style width _ (h _ inside rfl)
  headings level content identifier inside hc := by
    by_cases under : underline? settings level = none
    · exact heading_lockstep under identifier hc
    · have measured : (Node.heading level content identifier).isMeasured settings = true := by
        simpa [Node.isMeasured, Option.isSome_iff_ne_none] using under
      rw [node_reindented settings style width _ (h _ inside measured)]
      exact .heading (realigned_accord settings style width) level content identifier
  spans := False.elim

end Render

namespace Writer.Realigned

variable {w v : Writer}

theorem unmarked_eq (h : Realigned w v) :
    (Text.segments w.out.toList).map Text.unmarked =
      (Text.segments v.out.toList).map Text.unmarked :=
  Text.map_unmarked_of_squeeze h.text.symm

/-- Only line ends are out on both sides, or on neither. -/
theorem newlines (h : Realigned w v) :
    v.out.toList.all Text.isNewline = w.out.toList.all Text.isNewline := by
  obtain ⟨outs, _⟩ | ⟨c, m, other⟩ := h.same
  · rw [outs]
  · have left : c ∈ w.out.toList := (Text.squeeze_sublist false _).subset m
    have right : c ∈ v.out.toList := (Text.squeeze_sublist false _).subset (h.text ▸ m)
    have apart {text : List Char} (inside : c ∈ text) : text.all Text.isNewline = false := by
      rw [List.all_eq_false]
      exact ⟨c, inside, by simpa [Text.isNewline] using other⟩
    rw [apart left, apart right]

end Writer.Realigned

/-- **List items are indented and nothing else changes.** However lists are indented, a document
fails with the same error, or its text has the same lines up to the spaces and quote marks that
they begin with. No item may stand in a table or in an underlined heading, where its width would
count. -/
theorem RendererSettings.render_reindented (settings : RendererSettings) {children : List Node}
    (unmeasured : (Node.document children).ItemsUnmeasured settings) (style : ListIndent)
    (width : IndentWidth) :
    (∃ e, (settings.render (.document children)).1 = .error e ∧
      ((settings.reindented style width).render (.document children)).1 = .error e) ∨
    ∃ out out', (settings.render (.document children)).1 = .ok out ∧
      ((settings.reindented style width).render (.document children)).1 = .ok out' ∧
      (Text.segments out.toList).map Text.unmarked =
        (Text.segments out'.toList).map Text.unmarked := by
  have lockstep := Render.node_lockstep (realigned_accord settings style width) _
    (Render.comparable_of_unmeasured style width unmeasured)
  unfold RendererSettings.render
  obtain ⟨_, t, v, related, left, right⟩ | ⟨e, t, t', left, right⟩ :=
    (lockstep.run RenderState.orderly_empty .empty False.elim).ends
  · right
    simp only [left, right, related.newlines]
    refine ⟨_, _, rfl, rfl, ?_⟩
    split
    · rfl
    · exact related.unmarked_eq
  · left
    simp only [left, right]
    exact ⟨e, rfl, rfl⟩

theorem RendererSettings.render_reindented_nested :
    let style : ListStyle := { marker := .dash }
    let quote := Node.blockQuote [.codeBlock { content := "x\n\ny" },
      .table (some (.tableRow [.tableCell [.text "b"] none] true)) []]
    let item := Node.listItem [.paragraph [.text "a"], quote] none false
    let children := [Node.heading ⟨1, by decide⟩ [.list style [item, item]] none,
      .list style [item]]
    (Node.document children).ItemsUnmeasured {} ∧
    ((∃ e, (({} : RendererSettings).render (.document children)).1 = .error e ∧
      ((({} : RendererSettings).reindented .uniform .standard).render (.document children)).1 =
        .error e) ∨
    ∃ out out', (({} : RendererSettings).render (.document children)).1 = .ok out ∧
      ((({} : RendererSettings).reindented .uniform .standard).render (.document children)).1 =
        .ok out' ∧
      (Text.segments out.toList).map Text.unmarked =
        (Text.segments out'.toList).map Text.unmarked) := by
  intro style quote item children
  have unmeasured : (Node.document children).ItemsUnmeasured {} := .of_every (by decide)
  exact ⟨unmeasured, render_reindented {} unmeasured .uniform .standard⟩

/-- In a cell the second line of an item widens its column. -/
theorem RendererSettings.render_reindented_cell :
    let item := Node.listItem [.paragraph [.text "a"], .paragraph [.text "b"]] none false
    let header := Node.tableRow [.tableCell [.list { marker := .dash } [item]] none] true
    let root := Node.document [.table (some header) []]
    ∃ out out', (({} : RendererSettings).render root).1 = .ok out ∧
      ((({} : RendererSettings).reindented .uniform .standard).render root).1 = .ok out' ∧
      (Text.segments out.toList).map Text.unmarked ≠
        (Text.segments out'.toList).map Text.unmarked :=
  ⟨_, _, rfl, rfl, by decide⟩

end MarkdownCanon
