import MarkdownCanon.Proofs.Balance

/-! Every node is printed in balance, wherever it stands and however printing it ends. From this it
follows that the items of a list are numbered one after the other, whatever is in them. -/

namespace MarkdownCanon.Render

section

variable (settings : RendererSettings)

mutual

theorem node_balanced : (n : Node) → Balanced n.ItemsInLists (node settings n)
  | .document children => by
    have hc := blocks_balanced false true children
    rw [node]
    refine .bind (.checkTexts _) fun _ => .bind ?_ fun _ => (Sure.write _).balanced
    exact hc.mono fun h c m => h.2.inLists rfl m
  | .heading level content identifier => by
    rw [node]
    have hc := inlines_balanced content
    exact .bind (.scratch (hc.mono fun h c m => h.2.inLists rfl m) _) fun _ =>
      (Sure.write _).balanced
  | .paragraph content => by
    rw [node]
    have hc := paragraphInlines_balanced content
    exact .bind Sure.startInlines.balanced fun _ => hc.mono fun h c m => h.2.inLists rfl m
  | .codeBlock block => by
    rw [node]
    exact (Sure.codeBlock _ _).balanced
  | .blockQuote children => by
    rw [node]
    have hc := blocks_balanced false true children
    refine .blockQuote (.bind (.checkTexts _) fun _ => ?_) _
    exact hc.mono fun h c m => h.2.inLists rfl m
  | .list style items => by
    rw [node]
    exact .inList (listItems_balanced style true items) _
  | .listItem children task _ => by
    rw [node]
    have hb (tight : Bool) := (blocks_balanced tight true children).mono False.elim
    exact (Balanced.listItem hb settings children task).mono fun h => Bool.noConfusion h.1
  | .table header rows => by
    rw [node]
    have hh := headerRow_measured header
    have hr := bodyRows_measured rows
    refine .table _ (.bind (hh.mono ?_) fun _ => .bind (hr.mono ?_) fun _ =>
      .of_balanced (Sure.pure _).balanced) _ _
    · intro h row m
      exact h.2.child (by simp [Node.children, Option.mem_def.mp m])
    · intro h row m
      exact h.2.child (by simp [Node.children, m])
  | .tableRow .. => by
    rw [node]
    exact .fail _
  | .tableCell .. => by
    rw [node]
    exact .fail _
  | .thematicBreak => by
    rw [node]
    exact (Sure.write _).balanced
  | .htmlBlock content _ => by
    rw [node]
    exact (Sure.write _).balanced
  | .text content => by
    rw [node]
    exact (Sure.text _).balanced
  | .emphasis content => by
    rw [node]
    have hc := inlines_balanced content
    exact .span (hc.mono fun h c m => h.2.inLists rfl m) _ _
  | .strong content => by
    rw [node]
    have hc := inlines_balanced content
    exact .span (hc.mono fun h c m => h.2.inLists rfl m) _ _
  | .strikethrough content => by
    rw [node]
    have hc := inlines_balanced content
    exact .span (hc.mono fun h c m => h.2.inLists rfl m) _ _
  | .code content => by
    rw [node]
    exact (Sure.code _).balanced
  | .link url content title => by
    rw [node]
    have hc := inlines_balanced content
    exact .reference (hc.mono fun h c m => h.2.inLists rfl m) _ _ _
  | .image url content title => by
    rw [node]
    have hc := inlines_balanced content
    exact .reference (hc.mono fun h c m => h.2.inLists rfl m) _ _ _
  | .autolink _ label => by
    rw [node]
    exact (Sure.verbatim _).balanced
  | .htmlInline content => by
    rw [node]
    exact (Sure.verbatim _).balanced
  | .lineBreak soft => by
    rw [node]
    exact (Sure.lineBreak _ _).balanced
  | .textless n => by
    rw [node]
    exact .textless _ _
  | .foreign kind => by
    rw [node]
    exact .fail _
  | .missing => by
    rw [node]
    exact .fail _

theorem inlines_balanced :
    (content : List Node) → Balanced (∀ c ∈ content, c.ItemsInLists) (inlines settings content)
  | [] => by
    rw [inlines]
    exact (Sure.pure _).balanced
  | child :: rest => by
    have hc := node_balanced child
    have hr := inlines_balanced rest
    rw [inlines]
    refine .bind (nextInline_sure _).balanced fun _ => ?_
    refine .bind (hc.mono fun h => h child List.mem_cons_self) fun _ => ?_
    exact hr.mono fun h c m => h c (List.mem_cons_of_mem _ m)

theorem paragraphInlines_balanced :
    (content : List Node) →
      Balanced (∀ c ∈ content, c.ItemsInLists) (paragraphInlines settings content)
  | [] => by
    rw [paragraphInlines]
    exact (Sure.pure _).balanced
  | child :: rest => by
    have hc := node_balanced child
    have hr := paragraphInlines_balanced rest
    rw [paragraphInlines]
    refine .ite (Sure.pure _).balanced (.bind (nextInline_sure _).balanced fun _ => ?_)
    refine .bind (hc.mono fun h => h child List.mem_cons_self) fun _ => ?_
    exact hr.mono fun h c m => h c (List.mem_cons_of_mem _ m)

theorem blocks_balanced (tight first : Bool) :
    (children : List Node) →
      Balanced (∀ c ∈ children, c.ItemsInLists) (blocks settings tight first children)
  | [] => by
    rw [blocks]
    exact (Sure.pure _).balanced
  | child :: rest => by
    have hc : Balanced (∀ c ∈ child :: rest, c.ItemsInLists) _ :=
      (node_balanced child).mono fun h => h child List.mem_cons_self
    have hr (first : Bool) : Balanced (∀ c ∈ child :: rest, c.ItemsInLists) _ :=
      (blocks_balanced tight first rest).mono fun h c m => h c (List.mem_cons_of_mem _ m)
    rw [blocks]
    refine .ite (hr first) ?_
    dsimp only
    exact .ite (.bind (Sure.write _).balanced fun _ => .bind hc fun _ => hr false)
      (.bind hc fun _ => hr false)

theorem listItems_balanced (style : ListStyle) (first : Bool) :
    (items : List Node) → Balanced False (listItems settings style first items)
  | [] => by
    rw [listItems]
    exact (Sure.pure _).balanced
  | item :: rest => by
    have hc := (node_balanced item).mono False.elim
    have hr := listItems_balanced style false rest
    cases item with
    | listItem children task blankBefore =>
      rw [listItems]
      exact .ite (.bind (Sure.write _).balanced fun _ => .bind hc fun _ => hr)
        (.bind hc fun _ => hr)
    | _ =>
      simp only [listItems]
      exact .fail _

theorem headerRow_measured :
    (header : Option Node) → Measured (∀ row ∈ header, row.ItemsBelow) (headerRow settings header)
  | none => by
    rw [headerRow]
    exact .of_balanced (.fail _)
  | some row => by
    cases row with
    | tableRow cells isHeader =>
      have hc : Balanced (∀ row ∈ some (Node.tableRow cells isHeader), row.ItemsBelow) _ :=
        (cellTexts_balanced cells).mono fun h c m => (h _ rfl).child m
      rw [headerRow]
      exact .bind (.of_balanced hc) fun _ => .bind (.measureRow _) fun _ =>
        .of_balanced (Sure.pure _).balanced
    | _ =>
      simp only [headerRow]
      exact .of_balanced (.fail _)

theorem bodyRows_measured :
    (rows : List Node) → Measured (∀ row ∈ rows, row.ItemsBelow) (bodyRows settings rows)
  | [] => by
    rw [bodyRows]
    exact .of_balanced (Sure.pure _).balanced
  | row :: rest => by
    have hr := bodyRows_measured rest
    cases row with
    | tableRow cells isHeader =>
      have hc : Balanced (∀ row ∈ Node.tableRow cells isHeader :: rest, row.ItemsBelow) _ :=
        (cellTexts_balanced cells).mono fun h c m => (h _ List.mem_cons_self).child m
      rw [bodyRows]
      refine .bind (.of_balanced hc) fun _ => .bind (.measureRow _) fun _ => ?_
      refine .bind (hr.mono fun h c m => h c (List.mem_cons_of_mem _ m)) fun _ => ?_
      exact .of_balanced (Sure.pure _).balanced
    | _ =>
      simp only [bodyRows]
      exact .of_balanced (.fail _)

theorem cellTexts_balanced :
    (cells : List Node) → Balanced (∀ cell ∈ cells, cell.ItemsBelow) (cellTexts settings cells)
  | [] => by
    rw [cellTexts]
    exact (Sure.pure _).balanced
  | cell :: rest => by
    have hr := cellTexts_balanced rest
    cases cell with
    | tableCell content alignment =>
      have hc : Balanced (∀ cell ∈ Node.tableCell content alignment :: rest, cell.ItemsBelow) _ :=
        (inlines_balanced content).mono fun h c m => (h _ List.mem_cons_self).inLists rfl m
      rw [cellTexts]
      refine .bind (.scratch hc _) fun _ => ?_
      exact .bind (hr.mono fun h c m => h c (List.mem_cons_of_mem _ m)) fun _ =>
        (Sure.pure _).balanced
    | _ =>
      simp only [cellTexts]
      exact .fail _

end

end

/-- What is printed of a list before an item: the items that precede it, and the break after
them. -/
def beforeItem (settings : RendererSettings) (style : ListStyle) (before : List Node)
    (blankBefore : Bool) : Render Unit := do
  listItems settings style true before
  if !before.isEmpty then
    write (if !style.tight || blankBefore then ['\n', '\n'] else ['\n'])

section Items

variable {settings : RendererSettings} {style : ListStyle} {children : List Node}
  {task : Option TaskStatus} {blankBefore : Bool}

theorem listItems_append (first : Bool) (before after : List Node) :
    listItems settings style first (before ++ after) = (do
      listItems settings style first before
      listItems settings style (first && before.isEmpty) after) := by
  induction before generalizing first with
  | nil => simp [listItems]
  | cons item before ih =>
    cases item with
    | listItem children task blankBefore =>
      cases first <;> simp [listItems, ih]
    | _ =>
      simp only [List.cons_append, listItems]
      rfl

theorem listItems_split (before after : List Node) :
    listItems settings style true (before ++ .listItem children task blankBefore :: after) = (do
      beforeItem settings style before blankBefore
      node settings (.listItem children task blankBefore)
      listItems settings style false after) := by
  rw [listItems_append]
  cases before <;> simp [listItems, beforeItem]

theorem beforeItem_balanced (settings : RendererSettings) (style : ListStyle)
    (before : List Node) (blankBefore : Bool) :
    Balanced False (beforeItem settings style before blankBefore) :=
  (listItems_balanced settings style true before).bind fun _ =>
    .ite (Sure.write _).balanced (Sure.pure ()).balanced

/-- An item counts once, if there are no stray items in it to count along. -/
theorem listItem_counts {s t : RenderState} {level : ListLevel} {outer : List ListLevel}
    (inLists : ∀ c ∈ children, c.ItemsInLists) (ready : s.grid.Ready)
    (levels : s.listLevels = level :: outer)
    (h : node settings (.listItem children task blankBefore) s = .ok () t) :
    t.listLevels = level.advance :: outer := by
  rw [node, listItem_eq] at h
  obtain ⟨_, _, hn, h⟩ := bind_eq_ok.mp h
  cases (nextItem_cons levels).symm.trans hn
  have body := Balanced.itemBody (fun tight => blocks_balanced settings tight true children)
    settings children task level
  exact (body.done (s := { s with listLevels := level.advance :: outer }) ready h).1.counts inLists

theorem listItems_counts {items : List Node} (first : Bool) {s t : RenderState}
    {level : ListLevel} {outer : List ListLevel}
    (inLists : ∀ item ∈ items, item.isList = false → ∀ c ∈ item.children, c.ItemsInLists)
    (ready : s.grid.Ready)
    (levels : s.listLevels = level :: outer)
    (h : listItems settings style first items s = .ok () t) :
    t.listLevels = { level with index := level.index + items.length } :: outer := by
  induction items generalizing first s level with
  | nil =>
    rw [listItems] at h
    cases h
    simp [levels]
  | cons item items ih =>
    cases item with
    | listItem children task blankBefore =>
      have rest : ∀ {s}, s.grid.Ready → s.listLevels = level :: outer →
          (do node settings (.listItem children task blankBefore)
              listItems settings style false items) s = .ok () t →
          t.listLevels =
            { level with index := level.index + (items.length + 1 : Nat) } :: outer := by
        intro s ready levels h
        obtain ⟨_, u, hu, h⟩ := bind_eq_ok.mp h
        have counted := listItem_counts (inLists _ List.mem_cons_self rfl) ready levels hu
        have k := ((node_balanced settings _).done ready hu).1
        have := ih false (fun item m => inLists item (List.mem_cons_of_mem _ m)) (k.ready ready)
          counted h
        rw [this]
        simp only [ListLevel.advance, List.cons.injEq, and_true, ListLevel.mk.injEq, true_and]
        omega
      rw [listItems] at h
      cases first with
      | true => exact rest ready levels h
      | false =>
        obtain ⟨_, _, hw, h⟩ := bind_eq_ok.mp h
        cases hw
        exact rest (s := { s with writer := s.writer.write _ }) ready levels h
    | _ =>
      simp only [listItems] at h
      cases h

theorem beforeItem_counts {before : List Node} {s t : RenderState}
    (inLists : ∀ item ∈ before, item.isList = false → ∀ c ∈ item.children, c.ItemsInLists)
    (ready : s.grid.Ready)
    (h : beforeItem settings style before blankBefore
      { s with listLevels := ListLevel.ofStyle style :: s.listLevels } = .ok () t) :
    t.listLevels = { ListLevel.ofStyle style with index := before.length } :: s.listLevels := by
  obtain ⟨_, u, hu, h⟩ := bind_eq_ok.mp h
  have counted := listItems_counts true inLists
    (s := { s with listLevels := ListLevel.ofStyle style :: s.listLevels }) ready rfl hu
  have same : t.listLevels = u.listLevels := by
    split at h <;> cases h <;> rfl
  rw [same, counted]
  simp [ListLevel.ofStyle]

theorem trimEnd_marker (number : List Char) (marker : ListMarker) :
    Text.trimEnd Text.isBlank (number ++ marker.bullet.toList ++ [' ']) =
      number ++ marker.bullet.toList := by
  cases marker <;> simp [ListMarker.bullet, Text.trimEnd, Text.isBlank]

/-- The first thing that an item prints is the marker that its list has come to. -/
theorem listItem_marker {s t : RenderState} {level : ListLevel} {outer : List ListLevel}
    {text : List Char} (ready : s.grid.Ready) (levels : s.listLevels = level :: outer)
    (marker : level.marker = text ++ [' '])
    (trimmed : Text.trimEnd Text.isBlank (text ++ [' ']) = text)
    (h : node settings (.listItem children task blankBefore) s = .ok () t) :
    (s.writer.write text).out.toList <+: t.writer.out.toList := by
  rw [node, listItem_eq] at h
  obtain ⟨_, _, hn, h⟩ := bind_eq_ok.mp h
  cases (nextItem_cons levels).symm.trans hn
  obtain ⟨_, u, hc, h⟩ := bind_eq_ok.mp h
  have same : u = { s with listLevels := level.advance :: outer } := by
    unfold checkTexts at hc
    split at hc <;> cases hc
    rfl
  subst same
  cases visible : children.find? (!·.isBlankBlock) with
  | none =>
    simp only [visible, marker, trimmed] at h
    cases h
    exact List.prefix_rfl
  | some first =>
    simp only [visible, marker, record_bind, write_bind] at h
    have body := (blocks_balanced settings level.tight true children).mono False.elim
    have k := ((body.indented _).done (by exact ready) h).1
    refine List.IsPrefix.trans ?_ k.out
    rw [List.append_assoc, Writer.write_append]
    exact Writer.write_out _ _

theorem ofStyle_marker (style : ListStyle) (count : Nat) (ordered : style.marker.ordered = true) :
    ListLevel.marker { ListLevel.ofStyle style with index := count } =
      (toString (style.start + count)).toList ++ style.marker.bullet.toList ++ [' '] := by
  have number : toString ((style.start : Int) + (count : Int)) = toString (style.start + count) :=
    rfl
  simp [ListLevel.marker, ListLevel.ofStyle, ordered, number]

/-- **Printing is balanced.** However printing a node ends, it leaves the prefixes, the flags, the
grid and the lists around it as they were; on success nothing of its own stays staged. Where items
stand in lists only, no list is counted on by what is inside its items: an item comes with the
number of the first one and the items before it, whatever those hold. -/
theorem node_restores_state (settings : RendererSettings) (n : Node) (s : RenderState)
    (ready : s.grid.Ready) :
    (∀ s', node settings n s = .ok () s' →
      s.Kept n.ItemsInLists s' ∧ s.writer.Settles s'.writer) ∧
    (∀ e s', node settings n s = .error e s' → s.Kept n.ItemsInLists s') ∧
    (n.ItemsInLists → ∀ style before children task blankBefore after,
      let item := Node.listItem children task blankBefore
      let marker := (toString (style.start + before.length)).toList ++ style.marker.bullet.toList
      (Node.list style (before ++ item :: after)).Within n → style.marker.ordered = true →
      (node settings (.list style (before ++ item :: after)) = inList style (do
        beforeItem settings style before blankBefore
        node settings item
        listItems settings style false after)) ∧
      ∀ s t u : RenderState, s.grid.Ready →
        beforeItem settings style before blankBefore
          { s with listLevels := ListLevel.ofStyle style :: s.listLevels } = .ok () t →
        node settings item t = .ok () u →
        (t.writer.write marker).out.toList <+: u.writer.out.toList) := by
  refine ⟨fun s' h => (node_balanced settings n).done ready h,
    fun e s' h => (node_balanced settings n).failed ready h, ?_⟩
  intro inLists style before children task blankBefore after item marker inside ordered
  refine ⟨by rw [node, listItems_split], ?_⟩
  intro s t u ready ht hu
  have below := inLists.2.within inside
  have levels := beforeItem_counts
    (fun i m other c hc => below.item (List.mem_append_left _ m) other hc) ready ht
  have k : RenderState.Kept False _ t :=
    ((beforeItem_balanced settings style before blankBefore).done (by exact ready) ht).1
  exact listItem_marker (k.ready ready) levels (ofStyle_marker style before.length ordered)
    (trimEnd_marker _ _) hu

theorem node_restores_state_numbered :
    ∃ s', node {} (.list { marker := .dot, start := 7 }
        [.listItem [.paragraph [.text "a"]] none false, .listItem [] none false]) {} = .ok () s' ∧
      s'.writer.out = "7. a\n8." ∧ s'.listLevels = [] ∧ s'.writer.indentation = {} ∧
      s'.writer.pending = [] ∧ s'.grid = {} := by
  have run : ∃ s', node {} (.list { marker := .dot, start := 7 }
      [.listItem [.paragraph [.text "a"]] none false, .listItem [] none false]) {} = .ok () s' ∧
      s'.writer.out = "7. a\n8." := ⟨_, rfl, by decide⟩
  obtain ⟨s', h, out⟩ := run
  obtain ⟨k, settled⟩ := (node_restores_state {} _ {} (.inr rfl)).1 s' h
  obtain ⟨_, levels⟩ := k.levels
  exact ⟨s', h, out, levels, k.indentation, settled.elim id id, k.grid⟩

end Items

end MarkdownCanon.Render
