import MarkdownCanon.Proofs.Acceptance

/-! What stands between a paragraph and the block below it. A container keeps the two apart with a
blank line, unless it is an item of a tight list. -/

namespace MarkdownCanon

namespace Node

/-- Whether the children of a node are blocks, one below the other. -/
def isContainer : Node → Bool
  | document _ | blockQuote _ | listItem .. => true
  | _ => false

/-- `Holds outer n tight siblings`: a container in `n`, or `n` itself, has the children `siblings`.
It is an item of a tight list if `tight`; whether the list around `n` is one tells `outer`. -/
inductive Holds : Bool → Node → Bool → List Node → Prop where
  | own {outer : Bool} {n : Node} (container : n.isContainer = true) :
      Holds outer n (n.isListItem && outer) n.children
  | under {outer tight : Bool} {n c : Node} {siblings : List Node}
      (container : n.isContainer = true) (child : c ∈ n.children)
      (inside : Holds outer c tight siblings) : Holds outer n tight siblings
  | item {outer tight : Bool} {style : ListStyle} {items siblings : List Node} {item : Node}
      (child : item ∈ items) (inside : Holds style.tight item tight siblings) :
      Holds outer (list style items) tight siblings

theorem visible_of_container {n : Node} (h : n.isContainer = true) : n.isBlankBlock = false := by
  cases n <;> simp_all [isContainer, isBlankBlock]

/-- A block that is passed over holds no other ones. -/
theorem Holds.visible {outer tight : Bool} {n : Node} {siblings : List Node}
    (h : Holds outer n tight siblings) : n.isBlankBlock = false := by
  cases h with
  | own container => exact visible_of_container container
  | under container => exact visible_of_container container
  | item child =>
    simp only [isBlankBlock, List.isEmpty_eq_false_iff]
    exact List.ne_nil_of_mem child

/-- Whether a block, right below the last line of a paragraph, would be read as more of it or as the
line under a heading. -/
def fuses (settings : RendererSettings) : Node → Bool
  | paragraph _ | thematicBreak => true
  | heading level _ _ => (Render.underline? settings level).isSome
  | _ => false

end Node

theorem Writer.write_blankLine (w : Writer) :
    (w.write ['\n', '\n']).out.toList =
      (w.write ['\n']).out.toList ++ (w.indentation.indent ++ ['\n']) := by
  simp [write_cons, put, piece, emit, opening]

namespace RenderState

/-- Whether the innermost list is tight. -/
def tight (s : RenderState) : Bool := s.listLevels.head?.any (·.tight)

theorem Kept.tight {exact : Prop} {s t : RenderState} (h : s.Kept exact t) : t.tight = s.tight := by
  obtain ⟨index, levels⟩ := h.levels
  unfold RenderState.tight
  rw [levels]
  cases s.listLevels <;> rfl

end RenderState

namespace Render

open Node

variable {settings : RendererSettings} {s t : RenderState}

/-- `x` runs on the way from `s` to `t`, in a list that is tight or not. -/
def Passes (x : Render Unit) (tight : Bool) (s t : RenderState) : Prop :=
  ∃ u v, x u = .ok () v ∧ u.grid.Ready ∧ u.tight = tight ∧
    s.writer.out.toList <+: u.writer.out.toList ∧ v.writer.out.toList <+: t.writer.out.toList

theorem Passes.widen {x : Render Unit} {tight : Bool} {u v : RenderState} (h : Passes x tight u v)
    (before : s.writer.out.toList <+: u.writer.out.toList)
    (after : v.writer.out.toList <+: t.writer.out.toList) : Passes x tight s t := by
  obtain ⟨u', v', run, ready, same, before', after'⟩ := h
  exact ⟨u', v', run, ready, same, before.trans before', after'.trans after⟩

theorem checkTexts_eq_ok {children : List Node} (h : checkTexts children s = .ok () t) : t = s := by
  unfold checkTexts at h
  split at h
  · cases h
  · cases h
    rfl

theorem blocks_blank {tight first : Bool} {children : List Node}
    (blank : ∀ c ∈ children, c.isBlankBlock = true) :
    blocks settings tight first children = pure () := by
  induction children with
  | nil => rw [blocks]
  | cons c children ih =>
    rw [blocks, if_pos (blank c List.mem_cons_self)]
    exact ih fun c m => blank c (List.mem_cons_of_mem _ m)

theorem Passes.indented {x : Render Unit} {piece : List Char} {tight : Bool}
    (hx : Balanced False x) (ready : s.grid.Ready) (same : s.tight = tight)
    (h : indented piece x s = .ok () t) : Passes x tight s t := by
  rw [indented_eq hx ready] at h
  obtain ⟨v, run, rfl⟩ := ensuring_modify_eq_ok.mp h
  exact ⟨_, v, run, ready, same, List.prefix_rfl, List.prefix_rfl⟩

theorem blockQuote_passes {x : Render Unit} {isEmpty : Bool} (hx : Balanced False x)
    (nothing : isEmpty = true → x = pure ()) (ready : s.grid.Ready)
    (h : blockQuote isEmpty x s = .ok () t) : Passes x s.tight s t := by
  unfold blockQuote at h
  split at h
  · rename_i empty
    cases h
    exact ⟨s, s, by rw [nothing empty]; rfl, ready, rfl, List.prefix_rfl, s.writer.write_out _⟩
  · rw [get_bind] at h
    split at h
    · rw [write_bind] at h
      have inside := Passes.indented hx (by exact ready) rfl h
      exact inside.widen (s.writer.write_out _) List.prefix_rfl
    · exact Passes.indented hx ready rfl h

theorem allBlocks_passes {children : List Node} (ready : s.grid.Ready)
    (h : allBlocks settings children s = .ok () t) :
    Passes (blocks settings false true children) s.tight s t := by
  obtain ⟨_, u, checked, run⟩ := bind_eq_ok.mp h
  obtain rfl := checkTexts_eq_ok checked
  exact ⟨u, t, run, ready, rfl, List.prefix_rfl, List.prefix_rfl⟩

theorem listItem_passes {children : List Node} {task : Option TaskStatus} {blankBefore : Bool}
    (ready : s.grid.Ready)
    (h : node settings (.listItem children task blankBefore) s = .ok () t) :
    Passes (blocks settings s.tight true children) s.tight s t := by
  rw [node, listItem_eq] at h
  obtain ⟨level, u, counted, h⟩ := bind_eq_ok.mp h
  cases levels : s.listLevels with
  | nil => cases (nextItem_nil levels).symm.trans counted
  | cons inner outer =>
    cases (nextItem_cons levels).symm.trans counted
    have same : s.tight = level.tight := by
      rw [RenderState.tight, levels]
      rfl
    obtain ⟨_, u, checked, h⟩ := bind_eq_ok.mp h
    obtain rfl := checkTexts_eq_ok checked
    rw [same]
    cases visible : children.find? (!·.isBlankBlock) with
    | none =>
      have blank : ∀ c ∈ children, c.isBlankBlock = true := by simpa using visible
      simp only [visible] at h
      cases h
      exact ⟨s, s, by rw [blocks_blank blank]; rfl, ready, same, List.prefix_rfl,
        s.writer.write_out _⟩
    | some first =>
      simp only [visible, record_bind, write_bind] at h
      have balanced := (blocks_balanced settings level.tight true children).mono False.elim
      have inside := Passes.indented balanced (by exact ready) rfl h
      exact inside.widen (s.writer.write_out _) List.prefix_rfl

/-- Printing a container comes to its blocks. -/
theorem container_passes {n : Node} (container : n.isContainer = true) (ready : s.grid.Ready)
    (h : node settings n s = .ok () t) :
    Passes (blocks settings (n.isListItem && s.tight) true n.children) s.tight s t := by
  cases n with
  | document children =>
    rw [document_eq] at h
    obtain ⟨_, u, run, ended⟩ := bind_eq_ok.mp h
    cases ended
    exact (allBlocks_passes ready run).widen List.prefix_rfl (u.writer.write_out _)
  | blockQuote children =>
    rw [node] at h
    have balanced : Balanced False (allBlocks settings children) :=
      .bind (.checkTexts children) fun _ =>
        (blocks_balanced settings false true children).mono False.elim
    have nothing : children.isEmpty = true → allBlocks settings children = pure () := by
      intro empty
      rw [List.isEmpty_iff.mp empty, allBlocks, blocks]
      rfl
    obtain ⟨u, v, run, ready', same, before, after⟩ := blockQuote_passes balanced nothing ready h
    exact same ▸ (allBlocks_passes ready' run).widen before after
  | listItem children task blankBefore => exact listItem_passes ready h
  | _ => cases container

/-- What is printed between balanced steps is passed on the way. -/
theorem Passes.of_bind {front x back : Render Unit} (hf : Balanced False front)
    (hx : Balanced False x) (hb : Balanced False back) (ready : s.grid.Ready)
    (h : (do front; x; back) s = .ok () t) : Passes x s.tight s t := by
  obtain ⟨_, u, before, h⟩ := bind_eq_ok.mp h
  obtain ⟨_, v, run, after⟩ := bind_eq_ok.mp h
  have kept := (hf.done ready before).1
  have done := (hx.done (kept.ready ready) run).1
  have rest := (hb.done (done.ready (kept.ready ready)) after).1
  exact ⟨u, v, run, kept.ready ready, kept.tight, kept.out, rest.out⟩

/-- What is printed of a row of blocks before a visible one: the blocks that precede it, and the gap
after them. -/
def beforeBlock (settings : RendererSettings) (tight : Bool) (before : List Node) (c : Node) :
    Render Unit := do
  blocks settings tight true before
  if !before.all isBlankBlock then write (separator tight c)

theorem beforeBlock_balanced (settings : RendererSettings) (tight : Bool) (before : List Node)
    (c : Node) : Balanced False (beforeBlock settings tight before c) :=
  ((blocks_balanced settings tight true before).mono False.elim).bind fun _ =>
    .ite (Sure.write _).balanced (Sure.pure ()).balanced

theorem blocks_append (tight first : Bool) (before after : List Node) :
    blocks settings tight first (before ++ after) = (do
      blocks settings tight first before
      blocks settings tight (first && before.all isBlankBlock) after) := by
  induction before generalizing first with
  | nil => simp [blocks]
  | cons c before ih =>
    by_cases blank : c.isBlankBlock = true
    · simp [blocks, blank, ih]
    · cases first <;> simp [blocks, blank, ih]

theorem blocks_split (tight : Bool) (before after : List Node) {c : Node}
    (visible : c.isBlankBlock = false) :
    blocks settings tight true (before ++ c :: after) = (do
      beforeBlock settings tight before c
      node settings c
      blocks settings tight false after) := by
  rw [blocks_append, beforeBlock, bind_assoc]
  congr 1
  funext _
  rw [blocks, if_neg (by simp [visible])]
  cases before.all isBlankBlock <;> simp

/-- Blank blocks are passed over. -/
theorem blocks_filter (tight first : Bool) (children : List Node) :
    blocks settings tight first children =
      blocks settings tight first (children.filter (!·.isBlankBlock)) := by
  induction children generalizing first with
  | nil => rfl
  | cons c children ih =>
    by_cases blank : c.isBlankBlock = true
    · simp [blocks, blank, ih]
    · simp [blocks, blank, ih false]

theorem blocks_passes {tight : Bool} {children : List Node} {c : Node} (m : c ∈ children)
    (visible : c.isBlankBlock = false) (ready : s.grid.Ready)
    (h : blocks settings tight true children s = .ok () t) :
    Passes (node settings c) s.tight s t := by
  obtain ⟨before, after, rfl⟩ := List.append_of_mem m
  rw [blocks_split tight before after visible] at h
  exact .of_bind (beforeBlock_balanced settings tight before c)
    ((node_balanced settings c).mono False.elim)
    ((blocks_balanced settings tight false after).mono False.elim) ready h

theorem listItems_eq_ok {style : ListStyle} {items : List Node} {item : Node} (m : item ∈ items)
    {first : Bool} (h : listItems settings style first items s = .ok () t) :
    item.isListItem = true := by
  obtain ⟨before, after, rfl⟩ := List.append_of_mem m
  rw [listItems_append] at h
  obtain ⟨_, u, -, h⟩ := bind_eq_ok.mp h
  cases item with
  | listItem => rfl
  | _ =>
    simp only [listItems] at h
    cases h

/-- Printing a list comes to each of its items. -/
theorem list_passes {style : ListStyle} {items : List Node} {item : Node} (m : item ∈ items)
    (ready : s.grid.Ready) (h : node settings (.list style items) s = .ok () t) :
    Passes (node settings item) style.tight s t := by
  rw [node, inList, modify_bind] at h
  obtain ⟨v, run, rfl⟩ := ensuring_modify_eq_ok.mp h
  cases item with
  | listItem children task blankBefore =>
    obtain ⟨before, after, rfl⟩ := List.append_of_mem m
    rw [listItems_split] at run
    have inside := Passes.of_bind (beforeItem_balanced settings style before blankBefore)
      ((node_balanced settings (.listItem children task blankBefore)).mono False.elim)
      (listItems_balanced settings style false after) (by exact ready) run
    exact inside.widen List.prefix_rfl List.prefix_rfl
  | _ => cases listItems_eq_ok m run

/-- Printing a node comes to the blocks of every container in it. -/
theorem holds_passes {outer tight : Bool} {n : Node} {siblings : List Node}
    (h : Holds outer n tight siblings) (ready : s.grid.Ready) (same : s.tight = outer)
    (run : node settings n s = .ok () t) :
    ∃ inner, Passes (blocks settings tight true siblings) inner s t := by
  -- On the way in a container leaves the tightness of the innermost list as it is; a list sets it.
  induction h generalizing s t with
  | own container =>
    subst same
    exact ⟨_, container_passes container ready run⟩
  | under container child inside ih =>
    obtain ⟨u, v, run, ready, kept, before, after⟩ := container_passes container ready run
    obtain ⟨u', v', run, ready, kept', before', after'⟩ :=
      blocks_passes child inside.visible ready run
    obtain ⟨inner, deeper⟩ := ih ready (kept'.trans (kept.trans same)) run
    exact ⟨inner, (deeper.widen before' after').widen before after⟩
  | item child inside ih =>
    obtain ⟨u, v, run, ready, kept, before, after⟩ := list_passes child ready run
    obtain ⟨inner, deeper⟩ := ih ready kept run
    exact ⟨inner, deeper.widen before after⟩

/-- On the way from `s` to `t`, `p` is printed up to the state `u`, `gap` is written behind it, and
`q` is printed. -/
def Parts (settings : RendererSettings) (p q : Node) (gap : List Char)
    (s u t : RenderState) : Prop :=
  ∃ r v, s.writer.out.toList <+: r.writer.out.toList ∧ node settings p r = .ok () u ∧
    node settings q { u with writer := u.writer.write gap } = .ok () v ∧
    v.writer.out.toList <+: t.writer.out.toList

/-- Between two visible blocks stands the separator of the second. -/
theorem blocks_parts {tight : Bool} {children before after : List Node} {p q : Node}
    (visible : children.filter (!·.isBlankBlock) = before ++ p :: q :: after)
    (ready : s.grid.Ready) (h : blocks settings tight true children s = .ok () t) :
    ∃ u, Parts settings p q (separator tight q) s u t := by
  have shown : ∀ c ∈ before ++ p :: q :: after, c.isBlankBlock = false := by
    intro c m
    rw [← visible] at m
    simpa using List.of_mem_filter m
  rw [blocks_filter, visible, blocks_split tight before _ (shown p (by simp))] at h
  obtain ⟨_, r, front, h⟩ := bind_eq_ok.mp h
  obtain ⟨_, u, first, h⟩ := bind_eq_ok.mp h
  rw [blocks, if_neg (by simp [shown q (by simp)])] at h
  obtain ⟨_, w, gap, h⟩ := bind_eq_ok.mp h
  cases gap
  obtain ⟨_, v, second, rest⟩ := bind_eq_ok.mp h
  have led := ((beforeBlock_balanced settings tight before p).done ready front).1
  have above := ((node_balanced settings p).done (led.ready ready) first).1
  have ready' := above.ready (led.ready ready)
  have below := ((node_balanced settings q).done (by exact ready') second).1
  have others := ((blocks_balanced settings tight false after).done (below.ready ready') rest).1
  exact ⟨u, r, v, led.out, first, second, others.out⟩

theorem separator_of_fuses {q : Node} (h : q.fuses settings = true) (tight : Bool) :
    separator tight q = if tight then ['\n'] else ['\n', '\n'] := by
  cases q with
  | paragraph _ | thematicBreak | heading _ _ _ => rfl
  | _ => cases h

theorem node_of_wellShaped (settings : RendererSettings) {n : Node} (ready : s.grid.Ready)
    (shaped : n.wellShaped s.inList s.grid.active = true) (held : n.HoldsTexts) :
    ∃ t, node settings n s = .ok () t := by
  cases run : node settings n s with
  | ok _ t => exact ⟨t, rfl⟩
  | error e t =>
    have why := (node_judged settings n).failed ready run
    cases e with
    | shape e => exact absurd shaped why
    | absent e => exact absurd held why
    | writer e => exact why.elim

/-- **Blocks stand apart, except in a tight list.** Printing comes to the blocks of each container
in a tree, whatever the place of the tree. One that could be read as more of a paragraph above it,
or as the line under a heading, stands behind a blank line, with nothing on it but the marks of the
containers around. In an item of a tight list there is no such line. -/
theorem node_parts_blocks (settings : RendererSettings) {n : Node} {s : RenderState}
    (ready : s.grid.Ready) (shaped : n.wellShaped s.inList s.grid.active = true)
    (held : n.HoldsTexts) :
    ∃ t, node settings n s = .ok () t ∧
      ∀ tight siblings before p q after, Holds s.tight n tight siblings →
        siblings.filter (!·.isBlankBlock) = before ++ p :: q :: after → q.fuses settings = true →
        ∃ gap u, Parts settings p q gap s u t ∧
          (['\n', '\n'] <:+: gap ↔ tight = false) ∧
          (u.writer.write gap).out.toList = (u.writer.write ['\n']).out.toList ++
            if tight then [] else u.writer.indentation.indent ++ ['\n'] := by
  obtain ⟨t, run⟩ := node_of_wellShaped settings ready shaped held
  refine ⟨t, run, ?_⟩
  intro tight siblings before p q after holds visible fuses
  obtain ⟨inner, r, v, blocks, ready', -, front, back⟩ := holds_passes holds ready rfl run
  obtain ⟨u, r', v', front', first, second, back'⟩ := blocks_parts visible ready' blocks
  refine ⟨_, u, ⟨r', v', front.trans front', first, second, back'.trans back⟩, ?_⟩
  rw [separator_of_fuses fuses]
  cases tight with
  | true => exact ⟨by decide, by simp⟩
  | false => exact ⟨by decide, u.writer.write_blankLine⟩

/-- A rule below a paragraph in a loose item; a blank block between the two is not printed. -/
theorem node_parts_blocks_loose :
    let rows := [Node.paragraph [.text "a"], .paragraph [], .thematicBreak]
    let n := Node.document [.blockQuote
      [.list { marker := .dash, tight := false } [.listItem rows none false]]]
    ∃ t gap u, node {} n {} = .ok () t ∧
      Parts {} (.paragraph [.text "a"]) .thematicBreak gap {} u t ∧ ['\n', '\n'] <:+: gap := by
  intro rows n
  have first {c : Node} {rest : List Node} : c ∈ c :: rest := List.mem_cons_self
  have holds : Holds false n false rows :=
    .under rfl first (.under rfl first (.item first (.own rfl)))
  obtain ⟨t, run, parts⟩ := node_parts_blocks {} (n := n) (s := {}) (.inr rfl) (by decide)
    (.of_every (by decide))
  obtain ⟨gap, u, parts, blank, -⟩ := parts false rows [] _ _ [] holds rfl rfl
  exact ⟨t, gap, u, run, parts, blank.mpr rfl⟩

end Render

/-- In a tight item a rule comes right below the paragraph, as the line under a heading does. -/
theorem RendererSettings.render_underlines_paragraph :
    let rows := [Node.paragraph [.text "a"], .thematicBreak]
    let root := Node.document [.list { marker := .dash, tight := true } [.listItem rows none false]]
    Node.Holds false root true rows ∧ Node.thematicBreak.fuses {} = true ∧
      (RendererSettings.render {} root).1 = .ok "- a\n  ---\n" ∧
      Text.segments "- a\n  ---\n".toList = ["- a".toList, "  ---".toList, []] := by
  intro rows root
  have holds : Node.Holds false root true rows :=
    .under rfl List.mem_cons_self (.item List.mem_cons_self (.own rfl))
  have printed : (RendererSettings.render {} root).1 = .ok "- a\n  ---\n" := by rfl
  exact ⟨holds, rfl, printed, by decide⟩

end MarkdownCanon
