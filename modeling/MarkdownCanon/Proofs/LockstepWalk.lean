import MarkdownCanon.Proofs.Layout
import MarkdownCanon.Proofs.Lockstep

/-! Every node keeps step with itself when it is printed twice, into related writers and with lists
indented in two ways. A relation that does not stand a line end right behind a delimiter asks that
no span begins with one. -/

namespace MarkdownCanon

namespace Node

/-- Whether a node that stands first in a span puts no line end first. -/
def staysOnLine (settings : RendererSettings) : Node → Bool
  | text _ | code _ | autolink .. => true
  | emphasis _ | strong _ | strikethrough _ | link .. | image .. => true
  | htmlInline content => content.toList.head? != some '\n'
  | lineBreak soft => !(soft && settings.softWraps == .preserve)
  | textless .code | textless .htmlInline => true
  | _ => false

/-- Whether content leaves a mark on its line before it ends the line. -/
def opensOnLine (settings : RendererSettings) : List Node → Bool
  | [] => true
  | child :: rest => child.staysOnLine settings && (child.marks || opensOnLine settings rest)

/-- Whether a span does not begin with a line end. -/
def spanOnLine (settings : RendererSettings) : Node → Bool
  | emphasis content | strong content | strikethrough content => opensOnLine settings content
  | link _ content _ | image _ content _ => opensOnLine settings content
  | _ => true

/-- A tree in which no span begins with a line end. -/
def Steady (settings : RendererSettings) (n : Node) : Prop :=
  ∀ m, Within m n → m.spanOnLine settings = true

theorem Steady.of_every {settings : RendererSettings} {n : Node}
    (h : n.every (·.spanOnLine settings) = true) : n.Steady settings :=
  fun _ inside => every_within h inside

end Node

namespace Render

variable {α β : Type}

namespace Clears

theorem write {text : List Char} (shown : text ≠ []) : Clears (write text) := by
  intro s a t _ run
  cases run
  exact s.writer.write_pending shown

theorem after {x : Render α} {f : α → Render β} (hx : Balanced False x) (hf : ∀ a, Clears (f a)) :
    Clears (x >>= f) := by
  intro s b t ready run
  obtain ⟨a, u, first, later⟩ := bind_eq_ok.mp run
  exact hf a ((hx.done ready first).1.ready ready) later

theorem before {x : Render α} {f : α → Render β} (clears : Clears x) (hx : Balanced False x)
    (hf : ∀ a, Balanced False (f a)) : Clears (x >>= f) := by
  intro s b t ready run
  obtain ⟨a, u, first, later⟩ := bind_eq_ok.mp run
  have empty := clears ready first
  obtain same | none_ := ((hf a).done ((hx.done ready first).1.ready ready) later).2
  · exact same.trans empty
  · exact none_

theorem text {content : String} (visible : content.toList.any (!Text.isSpacing ·) = true) :
    Clears (text content) := by
  refine after Sure.get.balanced fun s => ?_
  obtain ⟨c, m, hc⟩ := List.any_eq_true.mp visible
  have shown : spacedText content s.writer ≠ [] :=
    List.ne_nil_of_mem (mem_spacedText m (by simpa using hc) s.writer)
  dsimp only
  rw [if_neg (by simpa using shown)]
  refine after (Sure.modify ?_).balanced fun _ => write (written_ne_nil visible _ _ _ _)
  exact fun _ => ⟨rfl, rfl, rfl, rfl, rfl⟩

theorem code {content : String} (shown : content.isEmpty = false) : Clears (code content) := by
  unfold Render.code
  rw [if_neg (by simp [shown])]
  refine after Sure.leaveLineStart.balanced fun _ => after Sure.get.balanced fun _ => ?_
  exact write (by simp [Markup.CodeSpan.text, Markup.codeSpan])

theorem verbatim {content : List Char} (shown : content ≠ []) : Clears (verbatim content) :=
  after Sure.leaveLineStart.balanced fun _ => write shown

/-- A span whose content takes the delimiter along. -/
theorem span {x : Render Unit} (clears : Clears x) (token : List Char) (blank : Bool) :
    Clears (span token blank x) := by
  unfold Render.span
  split
  · exact clears
  · intro s a t ready run
    rw [get_bind, leaveLineStart_bind, stage_bind] at run
    obtain ⟨_, u, inner, closing⟩ := bind_eq_ok.mp run
    have out : u.writer.pending = [] ++ delimiterFor token s.writer.last s.nextInline ∨
        u.writer.pending = [] := .inr (clears (by exact ready) inner)
    obtain ⟨w, closed, _, _, left⟩ := closeSpan_run out
    cases closed.symm.trans closing
    exact left.elim id id

theorem reference {x : Render Unit} (hx : Balanced False x) (opening : List Char)
    (url title : Option String) : Clears (reference opening url title x) := by
  intro s a t ready run
  unfold Render.reference at run
  rw [leaveLineStart_bind, stage_bind] at run
  obtain ⟨_, u, inner, tail⟩ := bind_eq_ok.mp run
  have ready' := (hx.done (by exact ready) inner).1.ready ready
  exact write (by simp [Markup.linkTail]) ready' tail

end Clears

section

variable (settings : RendererSettings)

mutual

/-- What leaves a mark takes along all that was staged. -/
theorem node_clears : (n : Node) → n.marks = true → Clears (node settings n)
  | .text content, marked => by
    rw [node]
    exact .text (by simpa only [Node.marks] using marked)
  | .code content, marked => by
    rw [node]
    exact .code (by simpa [Node.marks] using marked)
  | .emphasis content, marked => by
    rw [node]
    exact .span (inlines_clears content marked) _ _
  | .strong content, marked => by
    rw [node]
    exact .span (inlines_clears content marked) _ _
  | .strikethrough content, marked => by
    rw [node]
    exact .span (inlines_clears content marked) _ _
  | .link url content title, _ => by
    rw [node]
    exact .reference ((inlines_balanced _ _).mono False.elim) _ _ _
  | .image url content title, _ => by
    rw [node]
    exact .reference ((inlines_balanced _ _).mono False.elim) _ _ _
  | .autolink url label, _ => by
    rw [node]
    exact .verbatim (by simp)

theorem inlines_clears : (content : List Node) → Node.anyMarks content = true →
    Clears (inlines settings content)
  | child :: rest, marked => by
    have step := (node_balanced settings child).mono False.elim
    have later := (inlines_balanced settings rest).mono False.elim
    rw [inlines]
    refine .after (nextInline_sure _).balanced fun _ => ?_
    rw [Node.anyMarks, Bool.or_eq_true] at marked
    obtain marked | marked := marked
    · exact .before (node_clears child marked) step fun _ => later
    · exact .after step fun _ => inlines_clears rest marked

end

end

variable {settings : RendererSettings} {style : ListIndent} {width : IndentWidth} {strict : Prop}
  {R : Writer → Writer → Prop}

/-- A tree that can be printed in two ways side by side: its tables come out the same, its headings
keep step if their contents do, and under `strict` no span begins with a line end. -/
structure Comparable (settings : RendererSettings) (style : ListIndent) (width : IndentWidth)
    (strict : Prop) (R : Writer → Writer → Prop) (n : Node) : Prop where
  tables : ∀ header rows, Node.Within (.table header rows) n →
    node (settings.reindented style width) (.table header rows) =
      node settings (.table header rows)
  headings : ∀ level content identifier, Node.Within (.heading level content identifier) n →
    Lockstep R strict (Node.opensOnLine settings content = true) (inlines settings content)
      (inlines (settings.reindented style width) content) →
    Lockstep R strict False (node settings (.heading level content identifier))
      (node (settings.reindented style width) (.heading level content identifier))
  spans : strict → n.Steady settings

theorem Comparable.child {n c : Node} (h : Comparable settings style width strict R n)
    (hc : c ∈ n.children) : Comparable settings style width strict R c where
  tables header rows inside := h.tables header rows (.under hc inside)
  headings level content identifier inside :=
    h.headings level content identifier (.under hc inside)
  spans hs m inside := h.spans hs m (.under hc inside)

namespace Lockstep

/-- The content of an emphasized span. -/
theorem emphasized (accord : Accord settings (settings.reindented style width) strict R) {n : Node}
    {content : List Node} {token : List Char} (h : Comparable settings style width strict R n)
    (hc : Lockstep R strict (Node.opensOnLine settings content = true) (inlines settings content)
      (inlines (settings.reindented style width) content))
    (opens : n.spanOnLine settings = Node.opensOnLine settings content)
    (delimiters : ∀ c ∈ token, Markup.isDelimiter c = true) {firm : Prop} :
    Lockstep R strict firm
      (Render.span token (Node.allBlankInline content) (inlines settings content))
      (Render.span token (Node.allBlankInline content)
        (inlines (settings.reindented style width) content)) :=
  span accord hc (fun hs => opens ▸ h.spans hs n (.self n)) delimiters _

end Lockstep

mutual

/-- **Every node keeps step.** -/
theorem node_lockstep (accord : Accord settings (settings.reindented style width) strict R) :
    (n : Node) → Comparable settings style width strict R n →
    Lockstep R strict (n.staysOnLine settings = true) (node settings n)
      (node (settings.reindented style width) n)
  | .document children, h => by
    have hc := blocks_lockstep accord false true children fun c m => h.child m
    rw [node, node]
    refine .mono (.bind (.checkTexts _) fun _ => hc.bind fun _ => ?_) (by simp [Node.staysOnLine])
    exact .write accord False.elim
  | .heading level content identifier, h => by
    have hc := inlines_lockstep accord content fun c m => h.child m
    exact (h.headings level content identifier (.self _) hc).mono (by simp [Node.staysOnLine])
  | .paragraph content, h => by
    have hc := paragraphInlines_lockstep accord content fun c m => h.child m
    rw [node, node]
    exact .mono (.bind .startInlines fun _ => hc.mono False.elim) (by simp [Node.staysOnLine])
  | .codeBlock block, _ => by
    rw [node, node]
    exact (Lockstep.codeBlock accord block).mono (by simp [Node.staysOnLine])
  | .blockQuote children, h => by
    have hc := blocks_lockstep accord false true children fun c m => h.child m
    rw [node, node]
    exact .mono (.blockQuote accord (.bind (.checkTexts _) fun _ => hc) _)
      (by simp [Node.staysOnLine])
  | .list marking items, h => by
    have hi := listItems_lockstep accord marking true items fun c m => h.child m
    rw [node, node]
    exact (hi.inList marking).mono (by simp [Node.staysOnLine])
  | .listItem children task blankBefore, h => by
    have hb (tight : Bool) := blocks_lockstep accord tight true children fun c m => h.child m
    rw [node, node]
    exact (Lockstep.listItem accord hb children task).mono (by simp [Node.staysOnLine])
  | .table header rows, h => by
    rw [h.tables header rows (.self _), node]
    have aside := (headerRow_aside settings header).bind fun headerTexts =>
      (bodyRows_aside settings rows).bind fun bodyTexts => .pure (headerTexts, bodyTexts)
    refine (Lockstep.table accord (.bind ((headerRow_measured settings header).mono False.elim)
      fun _ => .bind ((bodyRows_measured settings rows).mono False.elim) fun _ =>
        .of_balanced (Sure.pure _).balanced) aside header rows).mono (by simp [Node.staysOnLine])
  | .tableRow .., _ => by
    rw [node, node]
    exact .fail _
  | .tableCell .., _ => by
    rw [node, node]
    exact .fail _
  | .thematicBreak, _ => by
    rw [node, node]
    exact .write accord (by simp)
  | .htmlBlock content _, _ => by
    rw [node, node]
    exact .write accord (by simp [Node.staysOnLine])
  | .text content, _ => by
    rw [node, node]
    exact .text accord content
  | .emphasis content, h => by
    rw [node, node]
    exact .emphasized accord h (inlines_lockstep accord content fun c m => h.child m) rfl
      (tokens_delimiters settings).1
  | .strong content, h => by
    rw [node, node]
    exact .emphasized accord h (inlines_lockstep accord content fun c m => h.child m) rfl
      (tokens_delimiters settings).2
  | .strikethrough content, h => by
    rw [node, node]
    exact .emphasized accord h (inlines_lockstep accord content fun c m => h.child m) rfl
      (by simp [Markup.isDelimiter])
  | .code content, _ => by
    rw [node, node]
    exact .code accord content
  | .link url content title, h => by
    rw [node, node]
    exact .reference accord (inlines_lockstep accord content fun c m => h.child m)
      (fun hs => h.spans hs _ (.self _)) (by simp [Markup.isDelimiter]) url title
  | .image url content title, h => by
    rw [node, node]
    exact .reference accord (inlines_lockstep accord content fun c m => h.child m)
      (fun hs => h.spans hs _ (.self _)) (by simp [Markup.isDelimiter]) url title
  | .autolink _ label, _ => by
    rw [node, node]
    exact .verbatim accord (by simp)
  | .htmlInline content, _ => by
    rw [node, node]
    exact .verbatim accord (by simp [Node.staysOnLine])
  | .lineBreak soft, _ => by
    rw [node, node]
    refine .lineBreak accord fun stays => ?_
    rw [Node.staysOnLine, Bool.not_eq_true'] at stays
    exact stays
  | .textless kind, _ => by
    have same : textless (settings.reindented style width) kind = textless settings kind := by
      cases kind <;> rfl
    rw [node, node, same]
    exact .textless accord (by cases kind <;> simp [Node.staysOnLine, Node.isInline])
  | .foreign kind, _ => by
    rw [node, node]
    exact .fail _
  | .missing, _ => by
    rw [node, node]
    exact .fail _

theorem inlines_lockstep (accord : Accord settings (settings.reindented style width) strict R) :
    (content : List Node) →
    (∀ c ∈ content, Comparable settings style width strict R c) →
    Lockstep R strict (Node.opensOnLine settings content = true) (inlines settings content)
      (inlines (settings.reindented style width) content)
  | [], _ => by
    rw [inlines, inlines]
    exact .pure _
  | child :: rest, h => by
    have step := node_lockstep accord child (h child (by simp))
    have later := inlines_lockstep accord rest fun c m => h c (by simp [m])
    rw [inlines, inlines]
    refine .bind (.nextInline _) fun _ => ?_
    have opens : Node.opensOnLine settings (child :: rest) = true →
        child.staysOnLine settings = true ∧
          (child.marks = true ∨ Node.opensOnLine settings rest = true) := by
      simp [Node.opensOnLine]
    refine .before (step.mono fun h => (opens h).1) (fun _ => later) fun h => ?_
    exact (opens h).2.symm.imp_right (node_clears settings child)

theorem paragraphInlines_lockstep
    (accord : Accord settings (settings.reindented style width) strict R) :
    (content : List Node) →
    (∀ c ∈ content, Comparable settings style width strict R c) →
    Lockstep R strict False (paragraphInlines settings content)
      (paragraphInlines (settings.reindented style width) content)
  | [], _ => by
    rw [paragraphInlines, paragraphInlines]
    exact .pure _
  | child :: rest, h => by
    have step := node_lockstep accord child (h child (by simp))
    have later := paragraphInlines_lockstep accord rest fun c m => h c (by simp [m])
    rw [paragraphInlines, paragraphInlines]
    refine .ite (.pure _) (.bind (.nextInline _) fun _ => ?_)
    exact (step.mono False.elim).bind fun _ => later

theorem blocks_lockstep (accord : Accord settings (settings.reindented style width) strict R)
    (tight first : Bool) : (children : List Node) →
    (∀ c ∈ children, Comparable settings style width strict R c) →
    Lockstep R strict False (blocks settings tight first children)
      (blocks (settings.reindented style width) tight first children)
  | [], _ => by
    rw [blocks, blocks]
    exact .pure _
  | child :: rest, h => by
    have step := node_lockstep accord child (h child (by simp))
    have again := blocks_lockstep accord tight first rest fun c m => h c (by simp [m])
    have later := blocks_lockstep accord tight false rest fun c m => h c (by simp [m])
    have both := (step.mono False.elim).bind fun _ => later
    rw [blocks, blocks]
    exact .ite again (.ite (.bind (.write accord False.elim) fun _ => both) both)

theorem listItems_lockstep (accord : Accord settings (settings.reindented style width) strict R)
    (marking : ListStyle) (first : Bool) : (items : List Node) →
    (∀ c ∈ items, Comparable settings style width strict R c) →
    Lockstep R strict False (listItems settings marking first items)
      (listItems (settings.reindented style width) marking first items)
  | [], _ => by
    rw [listItems, listItems]
    exact .pure _
  | item :: rest, h => by
    cases item with
    | listItem children task blankBefore =>
      have step := node_lockstep accord (.listItem children task blankBefore) (h _ (by simp))
      have later := listItems_lockstep accord marking false rest fun c m => h c (by simp [m])
      have both := (step.mono False.elim).bind fun _ => later
      rw [listItems, listItems]
      exact .ite (.bind (.write accord False.elim) fun _ => both) both
    | _ =>
      simp only [listItems]
      exact .fail _

end

end Render

end MarkdownCanon
