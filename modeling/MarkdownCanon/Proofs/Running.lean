import MarkdownCanon.Render.Document

/-! How steps of printing run: what a sequence of steps, a protected step and a step printed aside
come to, by the way they end. -/

namespace MarkdownCanon.Render

variable {α β : Type}

theorem bind_eq_ok {x : Render α} {f : α → Render β} {s t : RenderState} {b : β} :
    (x >>= f) s = .ok b t ↔ ∃ a u, x s = .ok a u ∧ f a u = .ok b t := by
  change EStateM.bind x f s = _ ↔ _
  unfold EStateM.bind
  cases x s <;> simp [and_assoc]

theorem bind_eq_error {x : Render α} {f : α → Render β} {s t : RenderState} {e : RenderFailure} :
    (x >>= f) s = .error e t ↔
      x s = .error e t ∨ ∃ a u, x s = .ok a u ∧ f a u = .error e t := by
  change EStateM.bind x f s = _ ↔ _
  unfold EStateM.bind
  cases x s <;> simp [and_assoc]

theorem bind_of_ok {x : Render α} {s t : RenderState} {a : α} (h : x s = .ok a t)
    (f : α → Render β) : (x >>= f) s = f a t := by
  change EStateM.bind x f s = _
  rw [EStateM.bind, h]

theorem bind_of_error {x : Render α} {s t : RenderState} {e : RenderFailure}
    (h : x s = .error e t) (f : α → Render β) : (x >>= f) s = .error e t := by
  change EStateM.bind x f s = _
  rw [EStateM.bind, h]

@[simp] theorem pure_run (a : α) (s : RenderState) : (pure a : Render α) s = .ok a s := rfl

@[simp] theorem get_run (s : RenderState) : (get : Render RenderState) s = .ok s s := rfl

@[simp] theorem modify_run (f : RenderState → RenderState) (s : RenderState) :
    (modify f : Render Unit) s = .ok () (f s) := rfl

@[simp] theorem write_run (text : List Char) (s : RenderState) :
    write text s = .ok () { s with writer := s.writer.write text } := rfl

@[simp] theorem fail_run (e : ShapeError) (s : RenderState) :
    (fail e : Render α) s = .error (.shape e) s := rfl

theorem get_bind (f : RenderState → Render α) (s : RenderState) : (get >>= f) s = f s s := rfl

theorem modify_bind (g : RenderState → RenderState) (f : Unit → Render α) (s : RenderState) :
    (modify g >>= f) s = f () (g s) := rfl

theorem write_bind (text : List Char) (f : Unit → Render α) (s : RenderState) :
    (write text >>= f) s = f () { s with writer := s.writer.write text } := rfl

theorem record_bind (entry : Journal) (f : Unit → Render α) (s : RenderState) :
    (record entry >>= f) s = f () { s with journal := s.journal ++ entry } := rfl

theorem stage_bind (text : List Char) (f : Unit → Render α) (s : RenderState) :
    (stage text >>= f) s = f () { s with writer := s.writer.stage text } := rfl

theorem leaveLineStart_bind (f : Unit → Render α) (s : RenderState) :
    (leaveLineStart >>= f) s = f () { s with atLineStart := false, normalTail := [] } := rfl

/-- A cleanup that cannot fail is made at the end, however the protected step ended. -/
theorem ensuring_modify (x : Render α) (f : RenderState → RenderState) (s : RenderState) :
    x.ensuring (modify f) s =
      match x s with
      | .ok a t => .ok a (f t)
      | .error e t => .error e (f t) := by
  unfold ensuring
  cases x s <;> rfl

theorem ensuring_modify_eq_ok {x : Render α} {f : RenderState → RenderState} {s t : RenderState}
    {a : α} : x.ensuring (modify f) s = .ok a t ↔ ∃ u, x s = .ok a u ∧ t = f u := by
  rw [ensuring_modify]
  cases x s <;> simp [and_assoc, eq_comm (a := t)]

theorem ensuring_modify_eq_error {x : Render α} {f : RenderState → RenderState}
    {s t : RenderState} {e : RenderFailure} :
    x.ensuring (modify f) s = .error e t ↔ ∃ u, x s = .error e u ∧ t = f u := by
  rw [ensuring_modify]
  cases x s <;> simp [and_assoc, eq_comm (a := t)]

theorem ensuring_eq_ok {x : Render α} {cleanup : Render Unit} {s t : RenderState} {a : α} :
    x.ensuring cleanup s = .ok a t ↔ ∃ u, x s = .ok a u ∧ cleanup u = .ok () t := by
  unfold ensuring
  cases x s with
  | ok b u => cases h : cleanup u <;> simp [h, and_assoc]
  | error e u => cases h : cleanup u <;> simp [h]

/-- A protected step fails as its cleanup does, or else as it does itself. -/
theorem ensuring_eq_error {x : Render α} {cleanup : Render Unit} {s t : RenderState}
    {e : RenderFailure} :
    x.ensuring cleanup s = .error e t ↔
      (∃ u, ((∃ a, x s = .ok a u) ∨ ∃ e', x s = .error e' u) ∧ cleanup u = .error e t) ∨
        ∃ u, x s = .error e u ∧ cleanup u = .ok () t := by
  unfold ensuring
  cases x s with
  | ok b u => cases h : cleanup u <;> simp [h]
  | error e' u => cases h : cleanup u <;> simp [h, and_assoc]

theorem scratch_eq_ok {flags : ScratchFlags} {x : Render Unit} {s t : RenderState}
    {text : List Char} :
    scratch flags x s = .ok text t ↔
      ∃ u, x (s.enter flags) = .ok () u ∧ text = u.writer.out.toList ∧ t = u.leave flags s := by
  have : scratch flags x s =
      (do x; return (← get).writer.out.toList : Render (List Char)).ensuring
        (modify fun u => u.leave flags s) (s.enter flags) := rfl
  rw [this, ensuring_modify_eq_ok]
  simp only [bind_eq_ok, get_run, pure_run, EStateM.Result.ok.injEq]
  constructor
  · rintro ⟨v, ⟨_, u, hx, _, _, ⟨rfl, rfl⟩, rfl, rfl⟩, rfl⟩
    exact ⟨u, hx, rfl, rfl⟩
  · rintro ⟨u, hx, rfl, rfl⟩
    exact ⟨u, ⟨(), u, hx, u, u, ⟨rfl, rfl⟩, rfl, rfl⟩, rfl⟩

theorem scratch_eq_error {flags : ScratchFlags} {x : Render Unit} {s t : RenderState}
    {e : RenderFailure} :
    scratch flags x s = .error e t ↔
      ∃ u, x (s.enter flags) = .error e u ∧ t = u.leave flags s := by
  have : scratch flags x s =
      (do x; return (← get).writer.out.toList : Render (List Char)).ensuring
        (modify fun u => u.leave flags s) (s.enter flags) := rfl
  rw [this, ensuring_modify_eq_error]
  simp only [bind_eq_error, get_run, pure_run, reduceCtorEq, and_false, exists_false, or_false]

/-- Blocks as a document or a quote prints them. -/
def allBlocks (settings : RendererSettings) (children : List Node) : Render Unit := do
  checkTexts children
  blocks settings false true children

theorem document_eq (settings : RendererSettings) (children : List Node) :
    node settings (.document children) = (do allBlocks settings children; write ['\n']) := by
  rw [node, allBlocks, bind_assoc]

end MarkdownCanon.Render

namespace MarkdownCanon

/-- A text comes of a document whose root was printed. -/
theorem RendererSettings.render_eq_ok {settings : RendererSettings} {root : Node} {out : String}
    (h : (settings.render root).1 = .ok out) :
    ∃ children s', root = .document children ∧ Render.node settings root {} = .ok () s' ∧
      out = if s'.writer.out.toList.all Text.isNewline then "\n" else s'.writer.out := by
  unfold RendererSettings.render at h
  split at h
  · rename_i children
    cases run : Render.node settings (.document children) {} with
    | ok _ s' =>
      simp only [run, Except.ok.injEq] at h
      exact ⟨children, s', rfl, rfl, h.symm⟩
    | error e s' =>
      simp only [run] at h
      cases h
  · cases h

theorem RendererSettings.render_of_error {settings : RendererSettings} {children : List Node}
    {e : RenderFailure} {t : RenderState}
    (h : Render.allBlocks settings children {} = .error e t) :
    (settings.render (.document children)).1 = .error e := by
  unfold RendererSettings.render
  rw [Render.document_eq, Render.bind_of_error h]

/-- The blocks of a document are followed by a line end. -/
theorem RendererSettings.render_of_ok {settings : RendererSettings} {children : List Node}
    {t : RenderState} (h : Render.allBlocks settings children {} = .ok () t) :
    (settings.render (.document children)).1 =
      .ok (if (t.writer.write ['\n']).out.toList.all Text.isNewline then "\n"
        else (t.writer.write ['\n']).out) := by
  unfold RendererSettings.render
  rw [Render.document_eq, Render.bind_of_ok h]
  rfl

end MarkdownCanon
