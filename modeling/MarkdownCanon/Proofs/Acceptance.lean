import MarkdownCanon.Proofs.Shape

/-! Printing accepts exactly the well-shaped trees. -/

namespace MarkdownCanon

namespace Node

mutual

theorem wellShaped_of_blankInline (l t : Bool) :
    (n : Node) → n.isBlankInline = true → n.wellShaped l t = true
  | text _, _ | code _, _ | lineBreak _, _ | textless _, _ => by simp [wellShaped]
  | emphasis content, h | strong content, h | strikethrough content, h => by
    rw [wellShaped]
    exact allWellShaped_of_blankInlines l t content (by simpa [isBlankInline] using h)

theorem allWellShaped_of_blankInlines (l t : Bool) :
    (content : List Node) → allBlankInline content = true → allWellShaped l t content = true
  | [], _ => by rw [allWellShaped]
  | n :: rest, h => by
    rw [allBlankInline, Bool.and_eq_true] at h
    rw [allWellShaped, Bool.and_eq_true]
    exact ⟨wellShaped_of_blankInline l t n h.1, allWellShaped_of_blankInlines l t rest h.2⟩

end

/-- A block that is passed over could have been printed. -/
theorem wellShaped_of_blankBlock (l t : Bool) {n : Node} (h : n.isBlankBlock = true) :
    n.wellShaped l t = true := by
  cases n with
  | paragraph content => exact allWellShaped_of_blankInlines l t content h
  | list style items =>
    have : items = [] := by simpa [isBlankBlock] using h
    simp [this, wellShaped, itemsWellShaped]
  | htmlBlock => simp [wellShaped]
  | _ => simp [isBlankBlock] at h

theorem allWellShaped_of_blankBlocks (l t : Bool) {children : List Node}
    (h : ∀ c ∈ children, c.isBlankBlock = true) : allWellShaped l t children = true := by
  induction children with
  | nil => rw [allWellShaped]
  | cons c rest ih =>
    rw [allWellShaped, wellShaped_of_blankBlock l t (h c List.mem_cons_self)]
    exact ih fun c m => h c (List.mem_cons_of_mem _ m)

theorem allWellShaped_of_breaks (l t : Bool) {content : List Node}
    (h : content.all isLineBreak = true) : allWellShaped l t content = true := by
  induction content with
  | nil => rw [allWellShaped]
  | cons n rest ih =>
    rw [List.all_cons, Bool.and_eq_true] at h
    cases n with
    | lineBreak => simp [allWellShaped, wellShaped, ih h.2]
    | _ => simp [isLineBreak] at h

theorem isRow_of_rowsWellShaped {l : Bool} {rows : List Node} (h : rowsWellShaped l rows = true)
    {row : Node} (m : row ∈ rows) : Render.isRow row = true := by
  induction rows with
  | nil => simp at m
  | cons first rest ih =>
    cases first with
    | tableRow cells isHeader =>
      rw [rowsWellShaped, Bool.and_eq_true] at h
      obtain rfl | m := List.mem_cons.mp m
      · rfl
      · exact ih h.2 m
    | _ => simp [rowsWellShaped] at h

theorem checkRows_of_wellShaped {l : Bool} {header : Option Node} {rows : List Node}
    (hh : headerWellShaped l header = true) (hr : rowsWellShaped l rows = true) :
    Render.checkRows header rows = .ok () := by
  cases header with
  | none => simp [headerWellShaped] at hh
  | some row =>
    have first : Render.isRow row = true := by
      cases row <;> simp [headerWellShaped] at hh
      rfl
    have none_ : (row :: rows).find? (!Render.isRow ·) = none := by
      rw [List.find?_eq_none]
      intro other m
      obtain rfl | m := List.mem_cons.mp m
      · simp [first]
      · simp [isRow_of_rowsWellShaped hr m]
    simp [Render.checkRows, none_]

end Node

namespace Render

theorem Judged.pair {n : Node} {rest : List Node} {x : Render Unit} {f : Unit → Render Unit}
    (hx : Judged (fun l t => n.wellShaped l t = true) n.HoldsTexts x)
    (hf : ∀ a, Judged (fun l t => Node.allWellShaped l t rest = true)
      (∀ c ∈ rest, c.HoldsTexts) (f a)) :
    Judged (fun l t => Node.allWellShaped l t (n :: rest) = true)
      (∀ c ∈ n :: rest, c.HoldsTexts) (x >>= f) := by
  refine (bind (hx.of_iff (fun _ _ => Iff.rfl) ?_) fun a =>
    (hf a).of_iff (fun _ _ => Iff.rfl) ?_).of_iff (by simp [Node.allWellShaped]) id
  · exact fun h => h n List.mem_cons_self
  · exact fun h c m => h c (List.mem_cons_of_mem _ m)

variable (settings : RendererSettings)

mutual

theorem node_judged :
    (n : Node) → Judged (fun l t => n.wellShaped l t = true) n.HoldsTexts (node settings n)
  | .document children => by
    have hc := blocks_judged false true children
    have held (h : (Node.document children).HoldsTexts) : ∀ c ∈ children, c.HoldsTexts :=
      fun c m => h.child m
    rw [node]
    refine .following (.checkTexts held) fun _ => .before ?_ fun _ => .write _
    exact hc.of_iff (by simp [Node.wellShaped]) held
  | .heading level content identifier => by
    have hc := inlines_judged content
    rw [node]
    refine .before (.scratch ?_ _) fun _ => .write _
    exact hc.of_iff (by simp [Node.wellShaped]) fun h c m => h.child m
  | .paragraph content => by
    have hc := paragraphInlines_judged content
    rw [node]
    exact .after .startInlines fun _ => hc.of_iff (by simp [Node.wellShaped]) fun h c m => h.child m
  | .codeBlock block => by
    rw [node]
    exact (Judged.of_sure (.codeBlock settings block)).of_iff (by simp [Node.wellShaped]) id
  | .blockQuote children => by
    have hc := blocks_judged false true children
    have held (h : (Node.blockQuote children).HoldsTexts) : ∀ c ∈ children, c.HoldsTexts :=
      fun c m => h.child m
    rw [node]
    refine .blockQuote (.following (.checkTexts held) fun _ => ?_) _ ?_
    · exact hc.of_iff (by simp [Node.wellShaped]) held
    · intro empty l t
      simp [Node.wellShaped, List.isEmpty_iff.mp empty, Node.allWellShaped]
  | .list style items => by
    have hi := listItems_judged style true items
    rw [node]
    exact (Judged.inList hi style).of_iff (by simp [Node.wellShaped]) fun h c m => h.child m
  | .listItem children task blankBefore => by
    have hb (tight : Bool) := blocks_judged tight true children
    rw [node, listItem_eq]
    refine (Judged.bind .nextItem fun level => .itemBody hb id ?_ settings task level).of_iff
      ?_ fun h c m => h.child m
    · exact fun blank l t => Node.allWellShaped_of_blankBlocks l t blank
    · simp [Node.wellShaped]
  | .table header rows => by
    have hh : Gauged _ (Node.table header rows).HoldsTexts _ :=
      (headerRow_gauged header).of_iff (fun _ => Iff.rfl) fun h row m =>
        h.child (by simp [Node.children, Option.mem_def.mp m])
    have hr : Gauged _ (Node.table header rows).HoldsTexts _ :=
      (bodyRows_gauged rows).of_iff (fun _ => Iff.rfl) fun h row m =>
        h.child (by simp [Node.children, m])
    rw [node]
    refine (Judged.table (.bind hh fun _ => .bind hr fun _ =>
      .of_judged (.of_sure (.pure _))) ?_).of_iff ?_ id
    · intro e refused l shaped
      rw [Node.checkRows_of_wellShaped shaped.1 shaped.2.1] at refused
      cases refused
    · simp [Node.wellShaped, and_assoc]
  | .tableRow .. => by
    rw [node]
    exact (Judged.fail _).of_iff (by simp [Node.wellShaped]) id
  | .tableCell .. => by
    rw [node]
    exact (Judged.fail _).of_iff (by simp [Node.wellShaped]) id
  | .thematicBreak => by
    rw [node]
    exact (Judged.of_sure (.write _)).of_iff (by simp [Node.wellShaped]) id
  | .htmlBlock content _ => by
    rw [node]
    exact (Judged.of_sure (.write _)).of_iff (by simp [Node.wellShaped]) id
  | .text content => by
    rw [node]
    exact (Judged.of_sure (.text content)).of_iff (by simp [Node.wellShaped]) id
  | .emphasis content => by
    have hc := inlines_judged content
    rw [node]
    exact .span (hc.of_iff (by simp [Node.wellShaped]) fun h c m => h.child m) _ _
  | .strong content => by
    have hc := inlines_judged content
    rw [node]
    exact .span (hc.of_iff (by simp [Node.wellShaped]) fun h c m => h.child m) _ _
  | .strikethrough content => by
    have hc := inlines_judged content
    rw [node]
    exact .span (hc.of_iff (by simp [Node.wellShaped]) fun h c m => h.child m) _ _
  | .code content => by
    rw [node]
    exact (Judged.of_sure (.code content)).of_iff (by simp [Node.wellShaped]) id
  | .link url content title => by
    have hc := inlines_judged content
    rw [node]
    exact .reference (hc.of_iff (by simp [Node.wellShaped]) fun h c m => h.child m) _ _ _
  | .image url content title => by
    have hc := inlines_judged content
    rw [node]
    exact .reference (hc.of_iff (by simp [Node.wellShaped]) fun h c m => h.child m) _ _ _
  | .autolink _ label => by
    rw [node]
    exact (Judged.of_sure (.verbatim _)).of_iff (by simp [Node.wellShaped]) id
  | .htmlInline content => by
    rw [node]
    exact (Judged.of_sure (.verbatim _)).of_iff (by simp [Node.wellShaped]) id
  | .lineBreak soft => by
    rw [node]
    exact (Judged.of_sure (.lineBreak settings soft)).of_iff (by simp [Node.wellShaped]) id
  | .textless kind => by
    rw [node]
    exact (Judged.textless settings kind).of_iff (by simp [Node.wellShaped]) id
  | .foreign kind => by
    rw [node]
    exact (Judged.fail _).of_iff (by simp [Node.wellShaped]) id
  | .missing => by
    rw [node]
    exact (Judged.fail _).of_iff (by simp [Node.wellShaped]) id

theorem inlines_judged : (content : List Node) →
    Judged (fun l t => Node.allWellShaped l t content = true) (∀ c ∈ content, c.HoldsTexts)
      (inlines settings content)
  | [] => by
    rw [inlines]
    exact (Judged.of_sure (.pure _)).of_iff (by simp [Node.allWellShaped]) id
  | child :: rest => by
    have both := Judged.pair (node_judged child) fun _ => inlines_judged rest
    rw [inlines]
    exact .after (nextInline_sure _) fun _ => both

theorem paragraphInlines_judged : (content : List Node) →
    Judged (fun l t => Node.allWellShaped l t content = true) (∀ c ∈ content, c.HoldsTexts)
      (paragraphInlines settings content)
  | [] => by
    rw [paragraphInlines]
    exact (Judged.of_sure (.pure _)).of_iff (by simp [Node.allWellShaped]) id
  | child :: rest => by
    have both := Judged.pair (node_judged child) fun _ => paragraphInlines_judged rest
    rw [paragraphInlines]
    split
    · rename_i breaks
      have all : (child :: rest).all Node.isLineBreak = true := by simpa using breaks
      refine (Judged.of_sure (.pure _)).of_iff (fun l t => ?_) id
      simp [Node.allWellShaped_of_breaks l t all]
    · exact .after (nextInline_sure _) fun _ => both

theorem blocks_judged (tight first : Bool) : (children : List Node) →
    Judged (fun l t => Node.allWellShaped l t children = true) (∀ c ∈ children, c.HoldsTexts)
      (blocks settings tight first children)
  | [] => by
    rw [blocks]
    exact (Judged.of_sure (.pure _)).of_iff (by simp [Node.allWellShaped]) id
  | child :: rest => by
    have hr := blocks_judged tight first rest
    have both := Judged.pair (node_judged child) fun _ => blocks_judged tight false rest
    rw [blocks]
    split
    · rename_i blank
      refine hr.of_iff (fun l t => ?_) fun h c m => h c (List.mem_cons_of_mem _ m)
      simp [Node.allWellShaped, Node.wellShaped_of_blankBlock l t blank]
    · dsimp only
      exact .ite (.after (.write _) fun _ => both) both

theorem listItems_judged (style : ListStyle) (first : Bool) : (items : List Node) →
    Judged (fun l t => Node.itemsWellShaped l t items = true) (∀ c ∈ items, c.HoldsTexts)
      (listItems settings style first items)
  | [] => by
    rw [listItems]
    exact (Judged.of_sure (.pure _)).of_iff (by simp [Node.itemsWellShaped]) id
  | item :: rest => by
    have hc := node_judged item
    have hr := listItems_judged style false rest
    cases item with
    | listItem children task blankBefore =>
      have both : Judged
          (fun l t => Node.itemsWellShaped l t (.listItem children task blankBefore :: rest) = true)
          (∀ c ∈ Node.listItem children task blankBefore :: rest, c.HoldsTexts)
          (do
            node settings (.listItem children task blankBefore)
            listItems settings style false rest) := by
        refine (Judged.bind (hc.of_iff (fun _ _ => Iff.rfl) ?_) fun _ =>
          hr.of_iff (fun _ _ => Iff.rfl) ?_).of_iff
          (by simp [Node.itemsWellShaped, Node.isListItem]) id
        · exact fun h => h _ List.mem_cons_self
        · exact fun h c m => h c (List.mem_cons_of_mem _ m)
      rw [listItems]
      dsimp only
      exact .ite (.after (.write _) fun _ => both) both
    | _ =>
      simp only [listItems]
      exact (Judged.fail _).of_iff (by simp [Node.itemsWellShaped, Node.isListItem]) id

theorem headerRow_gauged : (header : Option Node) →
    Gauged (fun l => Node.headerWellShaped l header = true) (∀ row ∈ header, row.HoldsTexts)
      (headerRow settings header)
  | none => by
    rw [headerRow]
    exact (Gauged.of_judged (.fail _)).of_iff (by simp [Node.headerWellShaped]) id
  | some row => by
    cases row with
    | tableRow cells isHeader =>
      have hc := cellTexts_judged cells
      rw [headerRow]
      refine (Gauged.bind (.of_judged hc) fun _ => .bind (.measureRow _) fun _ =>
        .of_judged (.of_sure (.pure _))).of_iff (by simp [Node.headerWellShaped]) ?_
      exact fun h c m => (h _ rfl).child m
    | _ =>
      simp only [headerRow]
      exact (Gauged.of_judged (.fail _)).of_iff (by simp [Node.headerWellShaped]) id

theorem bodyRows_gauged : (rows : List Node) →
    Gauged (fun l => Node.rowsWellShaped l rows = true) (∀ row ∈ rows, row.HoldsTexts)
      (bodyRows settings rows)
  | [] => by
    rw [bodyRows]
    exact (Gauged.of_judged (.of_sure (.pure _))).of_iff (by simp [Node.rowsWellShaped]) id
  | row :: rest => by
    have hr := bodyRows_gauged rest
    cases row with
    | tableRow cells isHeader =>
      have hc := cellTexts_judged cells
      rw [bodyRows]
      refine (Gauged.bind (.of_iff (.of_judged hc) (fun _ => Iff.rfl) ?_) fun _ =>
        .bind (.measureRow _) fun _ => .bind (.of_iff hr (fun _ => Iff.rfl) ?_) fun _ =>
        .of_judged (.of_sure (.pure _))).of_iff (by simp [Node.rowsWellShaped]) id
      · exact fun h c m => (h _ List.mem_cons_self).child m
      · exact fun h c m => h c (List.mem_cons_of_mem _ m)
    | _ =>
      simp only [bodyRows]
      exact (Gauged.of_judged (.fail _)).of_iff (by simp [Node.rowsWellShaped]) id

theorem cellTexts_judged : (cells : List Node) →
    Judged (fun l t => Node.cellsWellShaped l t cells = true) (∀ c ∈ cells, c.HoldsTexts)
      (cellTexts settings cells)
  | [] => by
    rw [cellTexts]
    exact (Judged.of_sure (.pure _)).of_iff (by simp [Node.cellsWellShaped]) id
  | cell :: rest => by
    have hr := cellTexts_judged rest
    cases cell with
    | tableCell content alignment =>
      have hc := inlines_judged content
      rw [cellTexts]
      refine (Judged.bind (.of_iff (.scratch hc _) (fun _ _ => Iff.rfl) ?_) fun _ =>
        .before (.of_iff hr (fun _ _ => Iff.rfl) ?_) fun _ => .pure _).of_iff
        (by simp [Node.cellsWellShaped]) id
      · exact fun h c m => (h _ List.mem_cons_self).child m
      · exact fun h c m => h c (List.mem_cons_of_mem _ m)
    | _ =>
      simp only [cellTexts]
      exact (Judged.fail _).of_iff (by simp [Node.cellsWellShaped]) id

end

/-- How printing a whole tree ends tells whether the tree is printable, and nothing else. -/
theorem document_judged (settings : RendererSettings) (children : List Node) :
    (∀ s', node settings (.document children) {} = .ok () s' →
      (Node.document children).printable = true) ∧
    ∀ e s', node settings (.document children) {} = .error e s' →
      e.Justified ((Node.document children).printable = true)
        (Node.document children).HoldsTexts := by
  have judged := node_judged settings (.document children)
  have ready : ({} : RenderState).grid.Ready := .inr rfl
  have shape : (Node.document children).wellShaped false false =
      (Node.document children).printable := by rw [Node.wellShaped, Node.printable]
  rw [← shape]
  exact ⟨fun s' h => judged.done ready h, fun e s' h => judged.failed ready h⟩

end Render

namespace RendererSettings

theorem render_not_document (settings : RendererSettings) {root : Node}
    (h : ∀ children, root ≠ .document children) :
    (settings.render root).1 = .error (.shape (.notDocument root.kind)) ∧
      root.printable = false := by
  cases root with
  | document children => exact absurd rfl (h children)
  | _ => exact ⟨rfl, rfl⟩

/-- The outcome of printing and the shape of the tree, side by side. -/
theorem render_verdict (settings : RendererSettings) (root : Node) :
    (∃ out, (settings.render root).1 = .ok out ∧ root.printable = true) ∨
    ∃ e, (settings.render root).1 = .error e ∧
      e.Justified (root.printable = true) root.HoldsTexts := by
  by_cases h : ∃ children, root = .document children
  · obtain ⟨children, rfl⟩ := h
    obtain ⟨done, failed⟩ := Render.document_judged settings children
    cases run : Render.node settings (.document children) {} with
    | ok a s' =>
      simp only [render, run]
      exact .inl ⟨_, rfl, done s' run⟩
    | error e s' =>
      simp only [render, run]
      exact .inr ⟨e, rfl, failed e s' run⟩
  · obtain ⟨refused, shapeless⟩ :=
      settings.render_not_document fun children same => h ⟨children, same⟩
    exact .inr ⟨_, refused, by simp [RenderFailure.Justified, shapeless]⟩

/-- A printable tree that has all its texts is printed. -/
theorem render_of_printable (settings : RendererSettings) {root : Node} (held : root.HoldsTexts)
    (shape : root.printable = true) : ∃ out, (settings.render root).1 = .ok out := by
  obtain ⟨out, run, _⟩ | ⟨e, _, why⟩ := settings.render_verdict root
  · exact ⟨out, run⟩
  · cases e with
    | shape e => exact absurd shape why
    | absent e => exact absurd held why
    | writer e => exact why.elim

/-- **Printing accepts exactly the printable trees.** Every other tree is refused for its shape, and
whatever the tree, the writer is never found out of balance. -/
theorem render_accepts_exactly (settings : RendererSettings) (root : Node) :
    (∀ e, (settings.render root).1 ≠ .error (.writer e)) ∧
    (root.HoldsTexts →
      ((∃ out, (settings.render root).1 = .ok out) ↔ root.printable = true) ∧
      (root.printable = false → ∃ e, (settings.render root).1 = .error (.shape e))) := by
  obtain ⟨out, run, shape⟩ | ⟨e, run, why⟩ := settings.render_verdict root
  · simp [run, shape]
  · refine ⟨?_, fun held => ⟨⟨by simp [run], settings.render_of_printable held⟩, fun _ => ?_⟩⟩
    · rintro e' same
      cases run.symm.trans same
      exact why
    · cases e with
      | shape e => exact ⟨e, run⟩
      | absent e => exact absurd held why
      | writer e => exact why.elim

theorem render_accepts_exactly_nested :
    let cell := Node.tableCell [.text "a"] none
    let table := Node.table (some (.tableRow [cell] true)) [.tableRow [cell, cell] false]
    let item (n : Node) := Node.listItem [.blockQuote [n]] none false
    let within (n : Node) := Node.document [.list { marker := .dash } [item n]]
    (∃ out, (({} : RendererSettings).render (within table)).1 = .ok out) ∧
    ∃ e, (({} : RendererSettings).render (within (.tableRow [cell] true))).1 =
      .error (.shape e) := by
  intro cell table item within
  have held : (within table).HoldsTexts := .of_every (by decide)
  have held' : (within (.tableRow [cell] true)).HoldsTexts := .of_every (by decide)
  exact ⟨((render_accepts_exactly {} (within table)).2 held).1.mpr (by decide),
    ((render_accepts_exactly {} _).2 held').2 (by decide)⟩

end RendererSettings

end MarkdownCanon
