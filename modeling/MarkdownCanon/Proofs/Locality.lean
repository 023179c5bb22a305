import MarkdownCanon.Proofs.Running
import MarkdownCanon.Proofs.Trees

/-! Inline content prints the same in any list and any table, so that what it prints by itself is
what it prints where it stands. -/

namespace MarkdownCanon

/-- A state in other lists, with another grid and another journal. -/
def RenderState.moved (s : RenderState) (levels : List ListLevel) (grid : Grid)
    (journal : Journal) : RenderState :=
  { s with listLevels := levels, grid, journal }

namespace Render

variable {α β : Type}

/-- A step that goes the same way wherever its state is moved. -/
def Portable (x : Render α) : Prop :=
  ∀ ⦃s a t⦄, x s = .ok a t → ∀ levels grid journal,
    x (s.moved levels grid journal) = .ok a (t.moved levels grid journal)

namespace Portable

theorem pure (a : α) : Portable (pure a) := by
  intro s b t h levels grid journal
  cases h
  rfl

theorem bind {x : Render α} {f : α → Render β} (hx : Portable x) (hf : ∀ a, Portable (f a)) :
    Portable (x >>= f) := by
  intro s b t h levels grid journal
  obtain ⟨a, u, h₁, h₂⟩ := bind_eq_ok.mp h
  exact bind_eq_ok.mpr ⟨a, _, hx h₁ levels grid journal, hf a h₂ levels grid journal⟩

/-- A step that reads of the state only what moving leaves alone. -/
theorem get_bind {f : RenderState → Render α}
    (same : ∀ s levels grid journal, f (s.moved levels grid journal) = f s)
    (hf : ∀ s, Portable (f s)) : Portable (get >>= f) := by
  intro s a t h levels grid journal
  rw [Render.get_bind] at h ⊢
  rw [same]
  exact hf s h levels grid journal

theorem modify {f : RenderState → RenderState}
    (same : ∀ s levels grid journal,
      f (s.moved levels grid journal) = (f s).moved levels grid journal) :
    Portable (modify f : Render Unit) := by
  intro s a t h levels grid journal
  cases h
  rw [modify_run, same]

theorem ite {c : Prop} [Decidable c] {x y : Render α} (hx : Portable x) (hy : Portable y) :
    Portable (if c then x else y) := by
  split
  · exact hx
  · exact hy

theorem throw (e : RenderFailure) : Portable (throw e : Render α) := by
  intro s a t h
  cases h

theorem write (text : List Char) : Portable (write text) := modify fun _ _ _ _ => rfl

theorem stage (text : List Char) : Portable (stage text) := modify fun _ _ _ _ => rfl

theorem leaveLineStart : Portable leaveLineStart := modify fun _ _ _ _ => rfl

theorem closeSpan (token : List Char) : Portable (closeSpan token) := by
  refine get_bind (fun _ _ _ _ => rfl) fun s => ite (write token) ?_
  refine get_bind (fun _ _ _ _ => rfl) fun s => ?_
  split
  · exact modify fun _ _ _ _ => rfl
  · exact throw _

theorem span {x : Render Unit} (hx : Portable x) (token : List Char) (blank : Bool) :
    Portable (span token blank x) := by
  refine ite hx (get_bind (fun _ _ _ _ => rfl) fun s => ?_)
  exact leaveLineStart.bind fun _ => (stage _).bind fun _ => hx.bind fun _ => closeSpan _

theorem reference {x : Render Unit} (hx : Portable x) (opening : List Char)
    (url title : Option String) : Portable (reference opening url title x) :=
  leaveLineStart.bind fun _ => (stage _).bind fun _ => hx.bind fun _ => write _

theorem text (content : String) : Portable (text content) := by
  refine get_bind (fun _ _ _ _ => rfl) fun s => ite (pure ()) ?_
  exact (modify fun _ _ _ _ => rfl).bind fun _ => write _

theorem code (content : String) : Portable (code content) :=
  ite (pure ()) (leaveLineStart.bind fun _ => get_bind (fun _ _ _ _ => rfl) fun _ => write _)

theorem lineBreak (settings : RendererSettings) (soft : Bool) :
    Portable (lineBreak settings soft) := by
  refine get_bind (fun _ _ _ _ => rfl) fun s => ite ?_ (ite ?_ ?_)
  · exact (write _).bind fun _ => modify fun _ _ _ _ => rfl
  · dsimp only
    exact ite ((write _).bind fun _ => modify fun _ _ _ _ => rfl) (modify fun _ _ _ _ => rfl)
  · exact (write _).bind fun _ => modify fun _ _ _ _ => rfl

end Portable

mutual

theorem node_portable (settings : RendererSettings) :
    (n : Node) → n.isInline = true → n.WellPlaced → Portable (node settings n)
  | .text content, _, _ => by
    rw [node]
    exact .text content
  | .emphasis content, _, placed => by
    have hc := inlines_portable settings content (List.all_eq_true.mp (placed _ (.self _)))
      fun c m => placed.child m
    rw [node]
    exact hc.span _ _
  | .strong content, _, placed => by
    have hc := inlines_portable settings content (List.all_eq_true.mp (placed _ (.self _)))
      fun c m => placed.child m
    rw [node]
    exact hc.span _ _
  | .strikethrough content, _, placed => by
    have hc := inlines_portable settings content (List.all_eq_true.mp (placed _ (.self _)))
      fun c m => placed.child m
    rw [node]
    exact hc.span _ _
  | .code content, _, _ => by
    rw [node]
    exact .code content
  | .link url content title, _, placed => by
    have hc := inlines_portable settings content (List.all_eq_true.mp (placed _ (.self _)))
      fun c m => placed.child m
    rw [node]
    exact hc.reference _ url title
  | .image url content title, _, placed => by
    have hc := inlines_portable settings content (List.all_eq_true.mp (placed _ (.self _)))
      fun c m => placed.child m
    rw [node]
    exact hc.reference _ url title
  | .autolink _ label, _, _ => by
    rw [node]
    exact Portable.leaveLineStart.bind fun _ => .write _
  | .htmlInline content, _, _ => by
    rw [node]
    exact Portable.leaveLineStart.bind fun _ => .write _
  | .lineBreak soft, _, _ => by
    rw [node]
    exact .lineBreak settings soft
  | .textless .code, _, _ => by
    rw [node]
    exact .pure ()
  | .textless .htmlInline, _, _ => by
    rw [node]
    exact .leaveLineStart

theorem inlines_portable (settings : RendererSettings) :
    (content : List Node) → (∀ c ∈ content, c.isInline = true) →
      (∀ c ∈ content, c.WellPlaced) → Portable (inlines settings content)
  | [], _, _ => by
    rw [inlines]
    exact .pure ()
  | child :: rest, inline, placed => by
    have hc := node_portable settings child (inline child List.mem_cons_self)
      (placed child List.mem_cons_self)
    have hr := inlines_portable settings rest (fun c m => inline c (List.mem_cons_of_mem _ m))
      fun c m => placed c (List.mem_cons_of_mem _ m)
    rw [inlines]
    exact (Portable.modify fun _ _ _ _ => rfl).bind fun _ => hc.bind fun _ => hr

end

/-- Inline content says itself what follows each of its nodes. -/
theorem inlines_nextInline (settings : RendererSettings) (content : List Node) (s : RenderState)
    (next : Option Node) {t : RenderState}
    (h : inlines settings content { s with nextInline := next } = .ok () t) :
    ∃ t', inlines settings content s = .ok () t' ∧ t'.writer = t.writer := by
  cases content with
  | nil =>
    rw [inlines] at h ⊢
    cases h
    exact ⟨s, rfl, rfl⟩
  | cons child rest =>
    rw [inlines, modify_bind] at h ⊢
    exact ⟨t, h, rfl⟩

/-- Content printed aside in a document outside of tables prints what it does by itself. -/
theorem scratch_renderInlines {settings : RendererSettings} {content : List Node}
    (inline : ∀ c ∈ content, c.isInline = true) (placed : ∀ c ∈ content, c.WellPlaced)
    {flags : ScratchFlags} (heading : flags.inHeading = some true) {s t : RenderState}
    (outside : s.inTableCell = false) {text : List Char}
    (h : scratch flags (inlines settings content) s = .ok text t) :
    (settings.renderInlines flags content).1 = .ok (String.ofList text) := by
  obtain ⟨u, hu, rfl, _⟩ := scratch_eq_ok.mp h
  have moved := inlines_portable settings content inline placed hu [] {} {}
  have same : (s.enter flags).moved [] {} {} =
      { ({} : RenderState).enter flags with nextInline := s.nextInline } := by
    simp [RenderState.enter, RenderState.moved, heading, outside]
  rw [same] at moved
  obtain ⟨u', run, writer⟩ := inlines_nextInline settings content _ _ moved
  have aside : scratch flags (inlines settings content) {} =
      .ok u.writer.out.toList (u'.leave flags {}) :=
    scratch_eq_ok.mpr ⟨u', run, by rw [writer]; rfl, rfl⟩
  simp only [RendererSettings.renderInlines, aside]

end Render

end MarkdownCanon
