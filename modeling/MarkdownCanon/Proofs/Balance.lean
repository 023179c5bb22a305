import MarkdownCanon.Proofs.Running
import MarkdownCanon.Proofs.Trees
import MarkdownCanon.Proofs.Writing

/-! Printing leaves the state as it was, but for the output, the plain text just before it and the
count of the innermost list. -/

namespace MarkdownCanon

/-- Between tables the grid is empty; while one is printed it is active. -/
def Grid.Ready (grid : Grid) : Prop := grid.active = true ∨ grid = {}

/-- Staged text is still there, or all of it has gone out. -/
def Writer.Settles (w w' : Writer) : Prop := w'.pending = w.pending ∨ w'.pending = []

/-- What printing keeps, whether or not it succeeds. The innermost list may have counted items on;
with `exact` it has not. -/
structure RenderState.Kept (exact : Prop) (s s' : RenderState) : Prop where
  out : s.writer.out.toList <+: s'.writer.out.toList
  indentation : s'.writer.indentation = s.writer.indentation
  inTableCell : s'.inTableCell = s.inTableCell
  inHeading : s'.inHeading = s.inHeading
  grid : s'.grid = s.grid
  levels : ∃ index, s'.listLevels = s.listLevels.modifyHead fun level => { level with index }
  counts : exact → s'.listLevels = s.listLevels

namespace RenderState.Kept

variable {exact : Prop} {s t u : RenderState}

theorem levels_of_eq (h : t.listLevels = s.listLevels) :
    ∃ index, t.listLevels = s.listLevels.modifyHead fun level => { level with index } := by
  rw [h]
  cases s.listLevels with
  | nil => exact ⟨0, rfl⟩
  | cons level outer => exact ⟨level.index, rfl⟩

/-- A step that touches nothing but the output and the marks of the place in the text. -/
theorem of_eqs (out : s.writer.out.toList <+: t.writer.out.toList)
    (indentation : t.writer.indentation = s.writer.indentation)
    (inTableCell : t.inTableCell = s.inTableCell) (inHeading : t.inHeading = s.inHeading)
    (grid : t.grid = s.grid) (levels : t.listLevels = s.listLevels) : s.Kept exact t :=
  ⟨out, indentation, inTableCell, inHeading, grid, levels_of_eq levels, fun _ => levels⟩

theorem refl (s : RenderState) : s.Kept exact s :=
  of_eqs List.prefix_rfl rfl rfl rfl rfl rfl

theorem trans (h : s.Kept exact t) (h' : t.Kept exact u) : s.Kept exact u where
  out := h.out.trans h'.out
  indentation := h'.indentation.trans h.indentation
  inTableCell := h'.inTableCell.trans h.inTableCell
  inHeading := h'.inHeading.trans h.inHeading
  grid := h'.grid.trans h.grid
  levels := by
    obtain ⟨i, hi⟩ := h.levels
    obtain ⟨j, hj⟩ := h'.levels
    refine ⟨j, ?_⟩
    rw [hj, hi]
    cases s.listLevels <;> rfl
  counts e := (h'.counts e).trans (h.counts e)

theorem mono {exact' : Prop} (h : s.Kept exact t) (imp : exact' → exact) : s.Kept exact' t :=
  { h with counts := fun e => h.counts (imp e) }

/-- Replacing the grid on both sides. -/
theorem regrid (h : s.Kept exact t) (grid : Grid) :
    RenderState.Kept exact { s with grid } { t with grid } :=
  ⟨h.out, h.indentation, h.inTableCell, h.inHeading, rfl, h.levels, h.counts⟩

theorem inList (h : s.Kept exact t) : t.inList = s.inList := by
  obtain ⟨i, hi⟩ := h.levels
  unfold RenderState.inList
  rw [hi]
  cases s.listLevels <;> rfl

theorem ready (h : s.Kept exact t) (ready : s.grid.Ready) : t.grid.Ready := h.grid ▸ ready

end RenderState.Kept

theorem Writer.Settles.refl (w : Writer) : w.Settles w := .inl rfl

theorem Writer.Settles.trans {u v w : Writer} (h : u.Settles v) (h' : v.Settles w) :
    u.Settles w := by
  rcases h' with h' | h'
  · rcases h with h | h
    · exact .inl (h'.trans h)
    · exact .inr (h'.trans h)
  · exact .inr h'

theorem Writer.write_settles (w : Writer) (text : List Char) : w.Settles (w.write text) := by
  cases text with
  | nil => exact .refl w
  | cons c text => exact .inr (w.write_pending (by simp))

theorem RenderState.leave_kept {exact : Prop} {s t : RenderState} (flags : ScratchFlags)
    (h : (s.enter flags).Kept exact t) : s.Kept exact (t.leave flags s) where
  out := List.prefix_rfl
  indentation := rfl
  inTableCell := by
    have := h.inTableCell
    cases hf : flags.inTableCell <;> simp_all [leave, enter]
  inHeading := by
    have := h.inHeading
    cases hf : flags.inHeading <;> simp_all [leave, enter]
  grid := h.grid
  levels := h.levels
  counts := h.counts

namespace Render

variable {α β : Type} {exact : Prop}

/-- A step that always succeeds, in a state that it keeps. -/
def Sure (x : Render α) : Prop :=
  ∀ s, ∃ a t, x s = .ok a t ∧ s.Kept True t ∧ s.writer.Settles t.writer

namespace Sure

theorem bind {x : Render α} {f : α → Render β} (hx : Sure x) (hf : ∀ a, Sure (f a)) :
    Sure (x >>= f) := by
  intro s
  obtain ⟨a, t, ht, k, p⟩ := hx s
  obtain ⟨b, u, hu, k', p'⟩ := hf a t
  exact ⟨b, u, bind_eq_ok.mpr ⟨a, t, ht, hu⟩, k.trans k', p.trans p'⟩

theorem ite {c : Prop} [Decidable c] {x y : Render α} (hx : Sure x) (hy : Sure y) :
    Sure (if c then x else y) := by
  split
  · exact hx
  · exact hy

theorem pure (a : α) : Sure (pure a) := fun s => ⟨a, s, rfl, .refl s, .refl _⟩

theorem get : Sure get := fun s => ⟨s, s, rfl, .refl s, .refl _⟩

theorem write (text : List Char) : Sure (write text) := fun s =>
  ⟨(), _, rfl, .of_eqs (s.writer.write_out text) (s.writer.write_indentation text) rfl rfl rfl rfl,
    s.writer.write_settles text⟩

/-- A change of the marks of the place in the text, or of the journal. -/
theorem modify {f : RenderState → RenderState}
    (same : ∀ s, (f s).writer = s.writer ∧ (f s).inTableCell = s.inTableCell ∧
      (f s).inHeading = s.inHeading ∧ (f s).grid = s.grid ∧ (f s).listLevels = s.listLevels) :
    Sure (modify f : Render Unit) := by
  intro s
  obtain ⟨writer, inTableCell, inHeading, grid, levels⟩ := same s
  refine ⟨(), f s, rfl, .of_eqs ?_ ?_ inTableCell inHeading grid levels, ?_⟩
  · exact writer ▸ List.prefix_rfl
  · rw [writer]
  · exact writer ▸ .refl _

theorem record (entry : Journal) : Sure (record entry) :=
  Sure.modify fun _ => ⟨rfl, rfl, rfl, rfl, rfl⟩

theorem leaveLineStart : Sure leaveLineStart := modify fun _ => ⟨rfl, rfl, rfl, rfl, rfl⟩

theorem startInlines : Sure startInlines := modify fun _ => ⟨rfl, rfl, rfl, rfl, rfl⟩

theorem forM {f : α → Render Unit} (hf : ∀ a, Sure (f a)) (as : List α) : Sure (as.forM f) := by
  induction as with
  | nil => exact pure ()
  | cons a as ih => exact (hf a).bind fun _ => ih

theorem text (content : String) : Sure (text content) := by
  unfold Render.text
  refine get.bind fun s => ite (pure ()) ?_
  dsimp only
  exact bind (modify fun _ => ⟨rfl, rfl, rfl, rfl, rfl⟩) fun _ => write _

theorem code (content : String) : Sure (code content) :=
  ite (pure ()) (leaveLineStart.bind fun _ => get.bind fun _ => write _)

theorem verbatim (content : List Char) : Sure (verbatim content) :=
  leaveLineStart.bind fun _ => write _

theorem lineBreak (settings : RendererSettings) (soft : Bool) : Sure (lineBreak settings soft) := by
  unfold Render.lineBreak
  refine get.bind fun s => ite ?_ (ite ?_ ?_)
  · exact (write _).bind fun _ => modify fun _ => ⟨rfl, rfl, rfl, rfl, rfl⟩
  · dsimp only
    refine ite (bind (write _) fun _ => ?_) ?_
    · exact modify fun _ => ⟨rfl, rfl, rfl, rfl, rfl⟩
    · exact modify fun _ => ⟨rfl, rfl, rfl, rfl, rfl⟩
  · exact (write _).bind fun _ => modify fun _ => ⟨rfl, rfl, rfl, rfl, rfl⟩

theorem codeBlock (settings : RendererSettings) (block : CodeBlock) :
    Sure (codeBlock settings block) :=
  (record _).bind fun _ => write _

end Sure

theorem nextInline_sure (next : Option Node) :
    Sure (modify fun s => { s with nextInline := next } : Render Unit) :=
  Sure.modify fun _ => ⟨rfl, rfl, rfl, rfl, rfl⟩

/-- A step that keeps the state, and on success leaves nothing of its own staged. -/
structure Balanced (exact : Prop) (x : Render α) : Prop where
  done : ∀ ⦃s a t⦄, s.grid.Ready → x s = .ok a t → s.Kept exact t ∧ s.writer.Settles t.writer
  failed : ∀ ⦃s e t⦄, s.grid.Ready → x s = .error e t → s.Kept exact t

theorem Sure.balanced {x : Render α} (hx : Sure x) : Balanced exact x where
  done s a t _ h := by
    obtain ⟨b, u, hr, k, p⟩ := hx s
    cases hr.symm.trans h
    exact ⟨k.mono fun _ => trivial, p⟩
  failed s e t _ h := by
    obtain ⟨b, u, hr, _⟩ := hx s
    cases hr.symm.trans h

/-- A span is closed without a fault where its delimiter is the last thing staged, or has gone
out. -/
theorem closeSpan_run {token staged : List Char} {s : RenderState}
    (h : s.writer.pending = staged ++ token ∨ s.writer.pending = []) :
    ∃ w, closeSpan token s = .ok () { s with writer := w } ∧
      s.writer.out.toList <+: w.out.toList ∧ w.indentation = s.writer.indentation ∧
      (w.pending = staged ∨ w.pending = []) := by
  by_cases hp : s.writer.pending = []
  · refine ⟨s.writer.write token, ?_, s.writer.write_out token,
      s.writer.write_indentation token, ?_⟩
    · exact bind_eq_ok.mpr ⟨s, s, rfl, by simp [Writer.committed, hp]⟩
    · rcases s.writer.write_settles token with h | h
      · exact .inr (h.trans hp)
      · exact .inr h
  · have hs : s.writer.pending = staged ++ token := h.resolve_right hp
    have discard : s.writer.discard token = .ok { s.writer with pending := staged } := by
      simp [Writer.discard, hs]
    refine ⟨{ s.writer with pending := staged }, ?_, List.prefix_rfl, rfl, .inl rfl⟩
    refine bind_eq_ok.mpr ⟨s, s, rfl, ?_⟩
    rw [if_neg (by simpa [Writer.committed] using hp)]
    refine bind_eq_ok.mpr ⟨s, s, rfl, ?_⟩
    rw [discard]
    rfl

namespace Balanced

theorem mono {exact' : Prop} {x : Render α} (h : Balanced exact x) (imp : exact' → exact) :
    Balanced exact' x :=
  ⟨fun _ _ _ ready hx => ⟨(h.done ready hx).1.mono imp, (h.done ready hx).2⟩,
    fun _ _ _ ready hx => (h.failed ready hx).mono imp⟩

theorem bind {x : Render α} {f : α → Render β} (hx : Balanced exact x)
    (hf : ∀ a, Balanced exact (f a)) : Balanced exact (x >>= f) where
  done s b t ready h := by
    obtain ⟨a, u, h₁, h₂⟩ := bind_eq_ok.mp h
    obtain ⟨k₁, p₁⟩ := hx.done ready h₁
    obtain ⟨k₂, p₂⟩ := (hf a).done (k₁.ready ready) h₂
    exact ⟨k₁.trans k₂, p₁.trans p₂⟩
  failed s e t ready h := by
    rcases bind_eq_error.mp h with h | ⟨a, u, h₁, h₂⟩
    · exact hx.failed ready h
    · obtain ⟨k₁, _⟩ := hx.done ready h₁
      exact k₁.trans ((hf a).failed (k₁.ready ready) h₂)

theorem ite {c : Prop} [Decidable c] {x y : Render α} (hx : Balanced exact x)
    (hy : Balanced exact y) : Balanced exact (if c then x else y) := by
  split
  · exact hx
  · exact hy

/-- A failure at once. -/
theorem throw (e : RenderFailure) : Balanced exact (throw e : Render α) where
  done _ _ _ _ h := by cases h
  failed s _ _ _ h := by
    cases h
    exact .refl s

theorem fail (e : ShapeError) : Balanced exact (fail e : Render α) := throw (.shape e)

theorem lack (asked : Absence) : Balanced exact (lack asked : Render α) := throw (.absent asked)

theorem checkTexts (children : List Node) : Balanced exact (checkTexts children) :=
  ite (lack _) (Sure.pure ()).balanced

theorem textless (settings : RendererSettings) (node : Textless) :
    Balanced exact (textless settings node) := by
  cases node with
  | code => exact (Sure.pure ()).balanced
  | htmlInline => exact Sure.leaveLineStart.balanced
  | htmlBlock blankBefore => exact lack _
  | codeBlock info fence fenced =>
    refine bind (Sure.record _).balanced fun _ => ?_
    split
    · exact (Sure.write _).balanced
    · exact lack _

/-- What is printed aside touches neither the writer nor the flags. -/
theorem scratch {x : Render Unit} (hx : Balanced exact x) (flags : ScratchFlags) :
    Balanced exact (scratch flags x) where
  done s text t ready h := by
    obtain ⟨u, hu, _, rfl⟩ := scratch_eq_ok.mp h
    exact ⟨RenderState.leave_kept flags (hx.done (by exact ready) hu).1, .refl _⟩
  failed s e t ready h := by
    obtain ⟨u, hu, rfl⟩ := scratch_eq_error.mp h
    exact RenderState.leave_kept flags (hx.failed (by exact ready) hu)

theorem stage_kept (s : RenderState) (token : List Char) :
    s.Kept exact { s with writer := s.writer.stage token } :=
  .of_eqs List.prefix_rfl rfl rfl rfl rfl rfl

/-- A delimiter that is staged for `x` is written again or taken back. -/
theorem staged {x : Render Unit} (hx : Balanced exact x) (token : List Char) :
    Balanced exact (do stage token; x; closeSpan token) where
  done s _ t ready h := by
    rw [stage_bind] at h
    obtain ⟨_, u, hu, hc⟩ := bind_eq_ok.mp h
    obtain ⟨k, p⟩ := hx.done (by exact ready) hu
    obtain ⟨w, hw, out, indentation, pending⟩ := closeSpan_run p
    cases hw.symm.trans hc
    exact ⟨((stage_kept s token).trans k).trans (.of_eqs out indentation rfl rfl rfl rfl), pending⟩
  failed s e t ready h := by
    rw [stage_bind] at h
    obtain hu | ⟨_, u, hu, hc⟩ := bind_eq_error.mp h
    · exact (stage_kept s token).trans (hx.failed (by exact ready) hu)
    · obtain ⟨_, p⟩ := hx.done (by exact ready) hu
      obtain ⟨w, hw, _⟩ := closeSpan_run p
      cases hw.symm.trans hc

theorem span {x : Render Unit} (hx : Balanced exact x) (token : List Char) (blank : Bool) :
    Balanced exact (span token blank x) :=
  ite hx (Sure.get.balanced.bind fun _ => Sure.leaveLineStart.balanced.bind fun _ => staged hx _)

theorem reference {x : Render Unit} (hx : Balanced exact x) (opening : List Char)
    (url title : Option String) : Balanced exact (reference opening url title x) := by
  refine bind Sure.leaveLineStart.balanced fun _ =>
    ⟨fun s _ t ready h => ?_, fun s e t ready h => ?_⟩
  · rw [stage_bind] at h
    obtain ⟨_, u, hu, hw⟩ := bind_eq_ok.mp h
    obtain ⟨k, _⟩ := hx.done (by exact ready) hu
    have k' : u.Kept exact t := ((Sure.write _).balanced.done (k.ready ready) hw).1
    cases hw
    have tail : Markup.linkTail (url.getD "").toList (title.getD "").toList ≠ [] := by
      simp [Markup.linkTail]
    exact ⟨((stage_kept s opening).trans k).trans k', .inr (u.writer.write_pending tail)⟩
  · rw [stage_bind] at h
    obtain hu | ⟨_, u, hu, hw⟩ := bind_eq_error.mp h
    · exact (stage_kept s opening).trans (hx.failed (by exact ready) hu)
    · cases hw

end Balanced

theorem Writer.popIndent_push {w : Writer} {i : Indentation} {piece : List Char}
    (h : w.indentation = i.push piece) :
    w.popIndent = .ok (piece, { w with indentation := i }) := by
  simp [Writer.popIndent, h, Indentation.pop?, Indentation.push]

/-- Under a balanced step the prefix that `indented` takes away is the one that it put there. -/
theorem indented_eq {x : Render Unit} (hx : Balanced exact x) {s : RenderState}
    (ready : s.grid.Ready) (piece : List Char) :
    indented piece x s =
      x.ensuring (modify fun t =>
        { t with writer := { t.writer with indentation := s.writer.indentation } })
        { s with writer := s.writer.pushIndent piece } := by
  unfold indented
  rw [modify_bind]
  unfold ensuring
  cases hr : x { s with writer := s.writer.pushIndent piece } with
  | ok _ t =>
    have k := (hx.done (by exact ready) hr).1
    simp only [bind, EStateM.bind, get_run, Writer.popIndent_push k.indentation, modify_run]
  | error e t =>
    have k := hx.failed (by exact ready) hr
    simp only [bind, EStateM.bind, get_run, Writer.popIndent_push k.indentation, modify_run]

namespace Balanced

/-- A step whose indentation is taken back keeps what it kept inside. -/
theorem unindented_kept {s t : RenderState} {piece : List Char}
    (k : RenderState.Kept exact { s with writer := s.writer.pushIndent piece } t) :
    s.Kept exact { t with writer := { t.writer with indentation := s.writer.indentation } } :=
  ⟨k.out, rfl, k.inTableCell, k.inHeading, k.grid, k.levels, k.counts⟩

theorem indented {x : Render Unit} (hx : Balanced exact x) (piece : List Char) :
    Balanced exact (indented piece x) where
  done s _ t ready h := by
    rw [indented_eq hx ready] at h
    obtain ⟨u, hu, rfl⟩ := ensuring_modify_eq_ok.mp h
    obtain ⟨k, p⟩ := hx.done (by exact ready) hu
    exact ⟨unindented_kept k, p⟩
  failed s e t ready h := by
    rw [indented_eq hx ready] at h
    obtain ⟨u, hu, rfl⟩ := ensuring_modify_eq_error.mp h
    exact unindented_kept (hx.failed (by exact ready) hu)

theorem blockQuote {x : Render Unit} (hx : Balanced exact x) (isEmpty : Bool) :
    Balanced exact (blockQuote isEmpty x) := by
  unfold Render.blockQuote
  refine ite (Sure.write _).balanced (Sure.get.balanced.bind fun s => ?_)
  dsimp only
  exact ite ((Sure.write _).balanced.bind fun _ => indented hx _) (indented hx _)

/-- A list counts its own items only: the level that they count on is gone afterwards. -/
theorem closed_kept {s t : RenderState} {level : ListLevel}
    (k : RenderState.Kept False { s with listLevels := level :: s.listLevels } t) :
    s.Kept exact { t with listLevels := t.listLevels.tail } := by
  obtain ⟨index, hi⟩ := k.levels
  exact .of_eqs k.out k.indentation k.inTableCell k.inHeading k.grid (by simp [hi])

theorem inList {x : Render Unit} (hx : Balanced False x) (style : ListStyle) :
    Balanced exact (inList style x) where
  done s _ t ready h := by
    unfold Render.inList at h
    rw [modify_bind] at h
    obtain ⟨u, hu, rfl⟩ := ensuring_modify_eq_ok.mp h
    obtain ⟨k, p⟩ := hx.done (by exact ready) hu
    exact ⟨closed_kept k, p⟩
  failed s e t ready h := by
    unfold Render.inList at h
    rw [modify_bind] at h
    obtain ⟨u, hu, rfl⟩ := ensuring_modify_eq_error.mp h
    exact closed_kept (hx.failed (by exact ready) hu)

end Balanced

/-- An item once it has been counted. -/
def itemBody (settings : RendererSettings) (children : List Node) (task : Option TaskStatus)
    (body : Bool → Render Unit) (level : ListLevel) : Render Unit := do
  checkTexts children
  match children.find? (!·.isBlankBlock) with
  | none => write (Text.trimEnd Text.isBlank level.marker)
  | some first =>
    record (taskTrace task first)
    write (level.marker ++ taskBox task first)
    indented (List.replicate (childIndent settings level.marker first) ' ') (body level.tight)

theorem listItem_eq (settings : RendererSettings) (children : List Node)
    (task : Option TaskStatus) (body : Bool → Render Unit) :
    listItem settings children task body = nextItem >>= itemBody settings children task body := rfl

theorem nextItem_nil {s : RenderState} (h : s.listLevels = []) :
    nextItem s = .error (.shape .itemOutsideList) s := by
  refine bind_eq_error.mpr (.inr ⟨s, s, rfl, ?_⟩)
  rw [h]
  rfl

theorem nextItem_cons {s : RenderState} {level : ListLevel} {outer : List ListLevel}
    (h : s.listLevels = level :: outer) :
    nextItem s = .ok level { s with listLevels := level.advance :: outer } := by
  refine bind_eq_ok.mpr ⟨s, s, rfl, ?_⟩
  rw [h]
  rfl

namespace Balanced

theorem nextItem : Balanced False nextItem where
  done s level t _ h := by
    cases hl : s.listLevels with
    | nil => cases (nextItem_nil hl).symm.trans h
    | cons inner outer =>
      cases (nextItem_cons hl).symm.trans h
      exact ⟨⟨List.prefix_rfl, rfl, rfl, rfl, rfl, ⟨level.index + 1, by rw [hl]; rfl⟩, False.elim⟩,
        .refl _⟩
  failed s e t _ h := by
    cases hl : s.listLevels with
    | nil =>
      cases (nextItem_nil hl).symm.trans h
      exact .refl s
    | cons inner outer => cases (nextItem_cons hl).symm.trans h

theorem itemBody {body : Bool → Render Unit} (hb : ∀ tight, Balanced exact (body tight))
    (settings : RendererSettings) (children : List Node) (task : Option TaskStatus)
    (level : ListLevel) : Balanced exact (itemBody settings children task body level) := by
  refine bind (checkTexts children) fun _ => ?_
  split
  · exact (Sure.write _).balanced
  · refine (Sure.record _).balanced.bind fun _ => (Sure.write _).balanced.bind fun _ => ?_
    exact indented (hb _) _

theorem listItem {body : Bool → Render Unit} (hb : ∀ tight, Balanced False (body tight))
    (settings : RendererSettings) (children : List Node) (task : Option TaskStatus) :
    Balanced False (listItem settings children task body) :=
  nextItem.bind fun level => itemBody hb settings children task level

end Balanced

/-- The lines of a table whose columns are all measured. -/
def tableLines (headerTexts : List (List Char)) (bodyTexts : List (List (List Char))) :
    Render Unit := do
  let grid := (← get).grid
  write (grid.headerLine headerTexts)
  write ('\n' :: grid.delimiterLine)
  bodyTexts.forM fun texts => write ('\n' :: grid.bodyLine texts)
  record (Journal.note Log.debug .tables
    ("Rendered table with " ++ toString grid.widths.length ++ " columns and " ++
      toString bodyTexts.length ++ " body rows"))

theorem writeTable_eq (header : Node) (headerTexts : List (List Char))
    (bodyTexts : List (List (List Char))) :
    writeTable header headerTexts bodyTexts = (do
      modify fun s => { s with grid := s.grid.align (header.children.map alignmentOf) }
      tableLines headerTexts bodyTexts) := rfl

theorem tableLines_sure (headerTexts : List (List Char)) (bodyTexts : List (List (List Char))) :
    Sure (tableLines headerTexts bodyTexts) := by
  refine .bind .get fun s => .bind (.write _) fun _ => .bind (.write _) fun _ => ?_
  exact .bind (.forM (fun _ => .write _) _) fun _ => .record _

/-- A step of a table that is being measured: it keeps all but the widths. -/
structure Measured (exact : Prop) (x : Render α) : Prop where
  done : ∀ ⦃s a t⦄, s.grid.active = true → x s = .ok a t →
    t.grid.active = true ∧ s.Kept exact { t with grid := s.grid } ∧ s.writer.Settles t.writer
  failed : ∀ ⦃s e t⦄, s.grid.active = true → x s = .error e t →
    s.Kept exact { t with grid := s.grid }

namespace Measured

theorem mono {exact' : Prop} {x : Render α} (h : Measured exact x) (imp : exact' → exact) :
    Measured exact' x where
  done _ _ _ active hx := by
    obtain ⟨active, k, p⟩ := h.done active hx
    exact ⟨active, k.mono imp, p⟩
  failed _ _ _ active hx := (h.failed active hx).mono imp

theorem of_balanced {x : Render α} (hx : Balanced exact x) : Measured exact x where
  done s a t active h := by
    obtain ⟨k, p⟩ := hx.done (.inl active) h
    exact ⟨by rw [k.grid]; exact active, k.regrid _, p⟩
  failed s e t active h := (hx.failed (.inl active) h).regrid _

theorem bind {x : Render α} {f : α → Render β} (hx : Measured exact x)
    (hf : ∀ a, Measured exact (f a)) : Measured exact (x >>= f) where
  done s b t active h := by
    obtain ⟨a, u, h₁, h₂⟩ := bind_eq_ok.mp h
    obtain ⟨active₁, k₁, p₁⟩ := hx.done active h₁
    obtain ⟨active₂, k₂, p₂⟩ := (hf a).done active₁ h₂
    exact ⟨active₂, k₁.trans (k₂.regrid _), p₁.trans p₂⟩
  failed s e t active h := by
    rcases bind_eq_error.mp h with h | ⟨a, u, h₁, h₂⟩
    · exact hx.failed active h
    · obtain ⟨active₁, k₁, _⟩ := hx.done active h₁
      exact k₁.trans (((hf a).failed active₁ h₂).regrid _)

/-- A change of the grid that leaves it active. -/
theorem modify {f : Grid → Grid} (hf : ∀ grid, (f grid).active = grid.active) :
    Measured exact (modify fun s => { s with grid := f s.grid } : Render Unit) where
  done s _ t active h := by
    cases h
    exact ⟨(hf _).trans active, .of_eqs List.prefix_rfl rfl rfl rfl rfl rfl, .refl _⟩
  failed s _ _ _ h := by cases h

theorem measureRow (texts : List (List Char)) : Measured exact (measureRow texts) := by
  refine modify (f := fun grid => grid.measureRow texts) fun grid => ?_
  unfold Grid.measureRow
  fun_induction Grid.measureFrom grid 0 texts with
  | case1 => rfl
  | case2 grid column text rest ih => exact ih

theorem writeTable (header : Node) (headerTexts : List (List Char))
    (bodyTexts : List (List (List Char))) :
    Measured exact (writeTable header headerTexts bodyTexts) :=
  bind (modify (f := fun grid => grid.align _) fun _ => rfl) fun _ =>
    of_balanced (tableLines_sure headerTexts bodyTexts).balanced

end Measured

section Table

variable {header : Option Node} {rows : List Node} {s : RenderState}
  (texts : Render (List (List Char) × List (List (List Char))))

/-- What a table does between taking the grid and giving it back. -/
def tableBody (header : Option Node) : Render Unit := do
  let (headerTexts, bodyTexts) ← texts
  writeTable (header.getD .missing) headerTexts bodyTexts

theorem table_refused {e : ShapeError} (h : checkRows header rows = .error e) :
    table header rows texts s = .error (.shape e) s := by
  unfold table
  rw [h]
  rfl

theorem table_nested (h : checkRows header rows = .ok ()) (active : s.grid.active = true) :
    table header rows texts s = .error (.shape .nestedTable) s := by
  unfold table
  rw [h]
  refine bind_eq_error.mpr (.inr ⟨s, s, rfl, ?_⟩)
  simp [active, bind_eq_error]

theorem table_run (h : checkRows header rows = .ok ()) (inactive : s.grid.active = false) :
    table header rows texts s =
      (tableBody texts header).ensuring (modify fun t => { t with grid := {} })
        { s with grid := { s.grid with active := true } } := by
  unfold table
  rw [h]
  have guard (x y : Render Unit) :
      (do if (← get).grid.active then x else y : Render Unit) s = y s := by
    change (if s.grid.active = true then x else y) s = y s
    rw [if_neg (by simp [inactive])]
  exact guard _ _

theorem Balanced.table (ht : Measured exact texts) (header : Option Node) (rows : List Node) :
    Balanced exact (table header rows texts) := by
  have body : Measured exact (tableBody texts header) := ht.bind fun _ => .writeTable _ _ _
  -- The grid given back is the empty one that an inactive grid was.
  have back {s t : RenderState} (ready : s.grid.Ready) (inactive : s.grid.active = false)
      (k : RenderState.Kept exact { s with grid := { s.grid with active := true } }
        { t with grid := { s.grid with active := true } }) :
      s.Kept exact { t with grid := {} } := by
    have empty : s.grid = {} := ready.resolve_left (by simp [inactive])
    exact ⟨k.out, k.indentation, k.inTableCell, k.inHeading, empty.symm, k.levels, k.counts⟩
  constructor
  · intro s _ t ready h
    cases hc : checkRows header rows with
    | error e => cases (table_refused texts hc).symm.trans h
    | ok _ =>
      cases ha : s.grid.active with
      | true => cases (table_nested texts hc ha).symm.trans h
      | false =>
        rw [table_run texts hc ha] at h
        obtain ⟨u, hu, rfl⟩ := ensuring_modify_eq_ok.mp h
        obtain ⟨_, k, p⟩ := body.done rfl hu
        exact ⟨back ready ha k, p⟩
  · intro s e t ready h
    cases hc : checkRows header rows with
    | error e =>
      cases (table_refused texts hc).symm.trans h
      exact .refl s
    | ok _ =>
      cases ha : s.grid.active with
      | true =>
        cases (table_nested texts hc ha).symm.trans h
        exact .refl s
      | false =>
        rw [table_run texts hc ha] at h
        obtain ⟨u, hu, rfl⟩ := ensuring_modify_eq_error.mp h
        exact back ready ha (body.failed rfl hu)

end Table

end Render

end MarkdownCanon
