import MarkdownCanon.Proofs.BalancedWalk
import MarkdownCanon.Render.Document

/-! Which trees can be printed. Printing checks shapes as it goes, on lists and grids that are open
at the time; what it accepts in the end is told from the tree alone. -/

namespace MarkdownCanon

namespace Node

mutual

/-- Whether a node can be printed where it stands, inside a list or not, inside a table or not. -/
def wellShaped (inList inTable : Bool) : Node → Bool
  | document children | blockQuote children => allWellShaped inList inTable children
  | heading _ content _ | paragraph content => allWellShaped inList inTable content
  | emphasis content | strong content => allWellShaped inList inTable content
  | strikethrough content => allWellShaped inList inTable content
  | link _ content _ | image _ content _ => allWellShaped inList inTable content
  | list _ items => itemsWellShaped true inTable items
  | listItem children _ _ => inList && allWellShaped inList inTable children
  | table header rows => !inTable && headerWellShaped inList header && rowsWellShaped inList rows
  | tableRow .. | tableCell .. | foreign _ | missing => false
  | codeBlock _ | thematicBreak | htmlBlock .. | text _ | code _ | autolink .. => true
  | lineBreak _ | htmlInline _ | textless _ => true

def allWellShaped (inList inTable : Bool) : List Node → Bool
  | [] => true
  | node :: rest => wellShaped inList inTable node && allWellShaped inList inTable rest

/-- The items of a list, which must be list items. -/
def itemsWellShaped (inList inTable : Bool) : List Node → Bool
  | [] => true
  | item :: rest =>
    item.isListItem && wellShaped inList inTable item && itemsWellShaped inList inTable rest

def headerWellShaped (inList : Bool) : Option Node → Bool
  | some (tableRow cells _) => cellsWellShaped inList true cells
  | _ => false

def rowsWellShaped (inList : Bool) : List Node → Bool
  | [] => true
  | tableRow cells _ :: rest => cellsWellShaped inList true cells && rowsWellShaped inList rest
  | _ :: _ => false

def cellsWellShaped (inList inTable : Bool) : List Node → Bool
  | [] => true
  | tableCell content _ :: rest =>
    allWellShaped inList inTable content && cellsWellShaped inList inTable rest
  | _ :: _ => false

end

/-- A tree that can be printed as a whole. -/
def printable : Node → Bool
  | document children => allWellShaped false false children
  | _ => false

/-- Every node has the text that its kind has. -/
def HoldsTexts (n : Node) : Prop := ∀ kind, ¬ Within (textless kind) n

def isTextless : Node → Bool
  | textless _ => true
  | _ => false

theorem HoldsTexts.of_every {n : Node} (h : n.every (!·.isTextless) = true) : n.HoldsTexts := by
  intro kind inside
  simpa [isTextless] using every_within h inside

theorem HoldsTexts.child {n c : Node} (h : n.HoldsTexts) (hc : c ∈ n.children) : c.HoldsTexts :=
  fun kind inside => h kind (.under hc inside)

theorem HoldsTexts.of_any {children : List Node} (h : ∀ c ∈ children, c.HoldsTexts) :
    children.any isTextlessHtml = false := by
  rw [List.any_eq_false]
  intro c hc
  cases c with
  | textless kind => exact absurd (.self _) (h _ hc kind)
  | _ => simp [isTextlessHtml]

end Node

/-- Why a step may fail: the shape is wrong, or a text is not there. The writer is no reason. -/
def RenderFailure.Justified (shape texts : Prop) : RenderFailure → Prop
  | .shape _ => ¬ shape
  | .absent _ => ¬ texts
  | .writer _ => False

theorem RenderFailure.Justified.mono {shape texts shape' texts' : Prop} {e : RenderFailure}
    (h : e.Justified shape texts) (hs : shape' → shape) (ht : texts' → texts) :
    e.Justified shape' texts' := by
  cases e with
  | shape _ => exact fun s => h (hs s)
  | absent _ => exact fun t => h (ht t)
  | writer _ => exact h

namespace Render

variable {α β : Type} {shape shape' : Bool → Bool → Prop} {texts texts' : Prop}

/-- A step that succeeds where `shape` allows it, given whether a list and a table are open. -/
structure Judged (shape : Bool → Bool → Prop) (texts : Prop) (x : Render α) : Prop where
  balanced : Balanced False x
  done : ∀ ⦃s a t⦄, s.grid.Ready → x s = .ok a t → shape s.inList s.grid.active
  failed : ∀ ⦃s e t⦄, s.grid.Ready → x s = .error e t →
    e.Justified (shape s.inList s.grid.active) texts

namespace Judged

theorem of_iff {x : Render α} (h : Judged shape texts x)
    (same : ∀ inList inTable, shape' inList inTable ↔ shape inList inTable)
    (imp : texts' → texts) : Judged shape' texts' x where
  balanced := h.balanced
  done _ _ _ ready hx := (same _ _).mpr (h.done ready hx)
  failed _ _ _ ready hx := (h.failed ready hx).mono (same _ _).mp imp

theorem of_sure {x : Render α} (hx : Sure x) : Judged (fun _ _ => True) texts x where
  balanced := hx.balanced
  done _ _ _ _ _ := trivial
  failed s e t _ h := by
    obtain ⟨a, u, hu, _⟩ := hx s
    cases hu.symm.trans h

theorem fail (e : ShapeError) : Judged (fun _ _ => False) texts (fail e : Render α) where
  balanced := .fail e
  done _ _ _ _ h := by cases h
  failed _ _ _ _ h := by
    cases h
    exact id

theorem bind {x : Render α} {f : α → Render β} (hx : Judged shape texts x)
    (hf : ∀ a, Judged shape' texts (f a)) :
    Judged (fun l t => shape l t ∧ shape' l t) texts (x >>= f) where
  balanced := hx.balanced.bind fun a => (hf a).balanced
  done s b t ready h := by
    obtain ⟨a, u, h₁, h₂⟩ := bind_eq_ok.mp h
    have k := (hx.balanced.done ready h₁).1
    have next := (hf a).done (k.ready ready) h₂
    rw [k.inList, k.grid] at next
    exact ⟨hx.done ready h₁, next⟩
  failed s e t ready h := by
    obtain h | ⟨a, u, h₁, h₂⟩ := bind_eq_error.mp h
    · exact (hx.failed ready h).mono And.left id
    · have k := (hx.balanced.done ready h₁).1
      have next := (hf a).failed (k.ready ready) h₂
      rw [k.inList, k.grid] at next
      exact next.mono And.right id

/-- A step in front that no shape stops changes nothing. -/
theorem following {x : Render α} {f : α → Render β} (hx : Judged (fun _ _ => True) texts x)
    (hf : ∀ a, Judged shape texts (f a)) : Judged shape texts (x >>= f) :=
  (bind hx hf).of_iff (by simp) id

theorem after {x : Render α} {f : α → Render β} (hx : Sure x)
    (hf : ∀ a, Judged shape texts (f a)) : Judged shape texts (x >>= f) :=
  following (of_sure hx) hf

/-- Neither does a sure one behind. -/
theorem before {x : Render α} {f : α → Render β} (hx : Judged shape texts x)
    (hf : ∀ a, Sure (f a)) : Judged shape texts (x >>= f) :=
  (bind hx fun a => of_sure (hf a)).of_iff (by simp) id

theorem ite {c : Prop} [Decidable c] {x y : Render α} (hx : Judged shape texts x)
    (hy : Judged shape texts y) : Judged shape texts (if c then x else y) := by
  split
  · exact hx
  · exact hy

theorem checkTexts {children : List Node} (h : texts → ∀ c ∈ children, c.HoldsTexts) :
    Judged (fun _ _ => True) texts (checkTexts children) where
  balanced := .checkTexts children
  done _ _ _ _ _ := trivial
  failed s e t _ h' := by
    unfold Render.checkTexts at h'
    split at h'
    · cases h'
      rename_i lacking
      intro held
      simp [Node.HoldsTexts.of_any (h held)] at lacking
    · cases h'

theorem scratch {x : Render Unit} (hx : Judged shape texts x) (flags : ScratchFlags) :
    Judged shape texts (scratch flags x) where
  balanced := hx.balanced.scratch flags
  done s text t ready h := by
    obtain ⟨u, hu, _⟩ := scratch_eq_ok.mp h
    exact hx.done (s := s.enter flags) ready hu
  failed s e t ready h := by
    obtain ⟨u, hu, _⟩ := scratch_eq_error.mp h
    exact hx.failed (s := s.enter flags) ready hu

theorem span {x : Render Unit} (hx : Judged shape texts x) (token : List Char) (blank : Bool) :
    Judged shape texts (span token blank x) := by
  refine ite hx (after .get fun s => after .leaveLineStart fun _ => ?_)
  refine ⟨hx.balanced.staged _, fun s _ t ready h => ?_, fun s e t ready h => ?_⟩
  · rw [stage_bind] at h
    obtain ⟨_, u, hu, _⟩ := bind_eq_ok.mp h
    exact hx.done (s := { s with writer := s.writer.stage _ }) ready hu
  · rw [stage_bind] at h
    obtain hu | ⟨_, u, hu, hc⟩ := bind_eq_error.mp h
    · exact hx.failed (s := { s with writer := s.writer.stage _ }) ready hu
    -- The content has left the delimiter as the last thing staged or taken it along.
    · obtain ⟨_, settled⟩ := hx.balanced.done (by exact ready) hu
      obtain ⟨w, hw, _⟩ := closeSpan_run settled
      cases hw.symm.trans hc

theorem reference {x : Render Unit} (hx : Judged shape texts x) (opening : List Char)
    (url title : Option String) : Judged shape texts (reference opening url title x) := by
  refine ⟨hx.balanced.reference opening url title, fun s _ t ready h => ?_, fun s e t ready h => ?_⟩
  · unfold Render.reference at h
    rw [leaveLineStart_bind, stage_bind] at h
    obtain ⟨_, u, hu, _⟩ := bind_eq_ok.mp h
    have verdict := hx.done (by exact ready) hu
    exact verdict
  · unfold Render.reference at h
    rw [leaveLineStart_bind, stage_bind] at h
    obtain hu | ⟨_, u, _, hw⟩ := bind_eq_error.mp h
    · have verdict := hx.failed (by exact ready) hu
      exact verdict
    · cases hw

theorem indented {x : Render Unit} (hx : Judged shape texts x) (piece : List Char) :
    Judged shape texts (indented piece x) where
  balanced := hx.balanced.indented piece
  done s _ t ready h := by
    rw [indented_eq hx.balanced ready] at h
    obtain ⟨u, hu, _⟩ := ensuring_modify_eq_ok.mp h
    have verdict := hx.done (by exact ready) hu
    exact verdict
  failed s e t ready h := by
    rw [indented_eq hx.balanced ready] at h
    obtain ⟨u, hu, _⟩ := ensuring_modify_eq_error.mp h
    have verdict := hx.failed (by exact ready) hu
    exact verdict

theorem blockQuote {x : Render Unit} (hx : Judged shape texts x) (isEmpty : Bool)
    (empty : isEmpty = true → ∀ l t, shape l t) : Judged shape texts (blockQuote isEmpty x) := by
  unfold Render.blockQuote
  cases isEmpty with
  | true => exact (of_sure (.write _)).of_iff (fun l t => by simp [empty rfl l t]) id
  | false =>
    refine after .get fun s => ?_
    dsimp only
    exact ite (after (.write _) fun _ => indented hx _) (indented hx _)

theorem inList {x : Render Unit} (hx : Judged shape texts x) (style : ListStyle) :
    Judged (fun _ t => shape true t) texts (inList style x) where
  balanced := hx.balanced.inList style
  done s _ t ready h := by
    unfold Render.inList at h
    rw [modify_bind] at h
    obtain ⟨u, hu, _⟩ := ensuring_modify_eq_ok.mp h
    have verdict := hx.done (by exact ready) hu
    exact verdict
  failed s e t ready h := by
    unfold Render.inList at h
    rw [modify_bind] at h
    obtain ⟨u, hu, _⟩ := ensuring_modify_eq_error.mp h
    have verdict := hx.failed (by exact ready) hu
    exact verdict

theorem nextItem : Judged (fun l _ => l = true) texts nextItem where
  balanced := .nextItem
  done s _ t _ h := by
    cases hl : s.listLevels with
    | nil => cases (nextItem_nil hl).symm.trans h
    | cons level outer => simp [RenderState.inList, hl]
  failed s e t _ h := by
    cases hl : s.listLevels with
    | nil =>
      cases (nextItem_nil hl).symm.trans h
      simp [RenderFailure.Justified, RenderState.inList, hl]
    | cons level outer => cases (nextItem_cons hl).symm.trans h

theorem itemBody {body : Bool → Render Unit} (hb : ∀ tight, Judged shape texts (body tight))
    {children : List Node} (held : texts → ∀ c ∈ children, c.HoldsTexts)
    (blank : (∀ c ∈ children, c.isBlankBlock = true) → ∀ l t, shape l t)
    (settings : RendererSettings) (task : Option TaskStatus) (level : ListLevel) :
    Judged shape texts (itemBody settings children task body level) := by
  refine following (checkTexts held) fun _ => ?_
  cases visible : children.find? (!·.isBlankBlock) with
  | none =>
    have all : ∀ c ∈ children, c.isBlankBlock = true := by simpa using visible
    exact (of_sure (.write _)).of_iff (fun l t => by simp [blank all l t]) id
  | some first => exact after (.record _) fun _ => after (.write _) fun _ => indented (hb _) _

theorem textless (settings : RendererSettings) (kind : Textless) :
    Judged (fun _ _ => True) (Node.textless kind).HoldsTexts (textless settings kind) where
  balanced := .textless settings kind
  done _ _ _ _ _ := trivial
  failed s e t ready h := by
    have lacking : ¬ (Node.textless kind).HoldsTexts := fun held => held kind (.self _)
    cases kind with
    | code => cases h
    | htmlInline => cases h
    | htmlBlock blankBefore =>
      cases h
      exact lacking
    | codeBlock info fence fenced =>
      simp only [Render.textless, codeBlockWithoutCode, record_bind] at h
      let block : CodeBlock := { content := "", info, fence, fenced }
      cases code : (replyWithoutCode? settings.formatters block).bind CodeFormatter.replyCode? with
      | some content =>
        simp only [block, code] at h
        cases h
      | none =>
        simp only [block, code] at h
        cases h
        exact lacking

end Judged

/-- As `Judged`, for a step of a table that is being measured. -/
structure Gauged (shape : Bool → Prop) (texts : Prop) (x : Render α) : Prop where
  measured : Measured False x
  done : ∀ ⦃s a t⦄, s.grid.active = true → x s = .ok a t → shape s.inList
  failed : ∀ ⦃s e t⦄, s.grid.active = true → x s = .error e t →
    e.Justified (shape s.inList) texts

namespace Gauged

theorem of_judged {x : Render α} (hx : Judged shape texts x) :
    Gauged (fun l => shape l true) texts x where
  measured := .of_balanced hx.balanced
  done s a t active h := by
    have verdict := hx.done (.inl active) h
    rwa [active] at verdict
  failed s e t active h := by
    have verdict := hx.failed (.inl active) h
    rwa [active] at verdict

theorem bind {shape shape' : Bool → Prop} {x : Render α} {f : α → Render β}
    (hx : Gauged shape texts x) (hf : ∀ a, Gauged shape' texts (f a)) :
    Gauged (fun l => shape l ∧ shape' l) texts (x >>= f) where
  measured := hx.measured.bind fun a => (hf a).measured
  done s b t active h := by
    obtain ⟨a, u, h₁, h₂⟩ := bind_eq_ok.mp h
    obtain ⟨active', k, _⟩ := hx.measured.done active h₁
    have next := (hf a).done active' h₂
    rw [show u.inList = s.inList from k.inList] at next
    exact ⟨hx.done active h₁, next⟩
  failed s e t active h := by
    obtain h | ⟨a, u, h₁, h₂⟩ := bind_eq_error.mp h
    · exact (hx.failed active h).mono And.left id
    · obtain ⟨active', k, _⟩ := hx.measured.done active h₁
      have next := (hf a).failed active' h₂
      rw [show u.inList = s.inList from k.inList] at next
      exact next.mono And.right id

theorem of_iff {shape shape' : Bool → Prop} {x : Render α} (h : Gauged shape texts x)
    (same : ∀ inList, shape' inList ↔ shape inList) (imp : texts' → texts) :
    Gauged shape' texts' x where
  measured := h.measured
  done _ _ _ active hx := (same _).mpr (h.done active hx)
  failed _ _ _ active hx := (h.failed active hx).mono (same _).mp imp

/-- A measuring step that cannot fail. -/
theorem of_modify {f : RenderState → RenderState}
    (hf : Measured False (modify f : Render Unit)) :
    Gauged (fun _ => True) texts (modify f : Render Unit) where
  measured := hf
  done _ _ _ _ _ := trivial
  failed _ _ _ _ h := by cases h

theorem measureRow (row : List (List Char)) : Gauged (fun _ => True) texts (measureRow row) :=
  of_modify (.measureRow row)

theorem writeTable (header : Node) (headerTexts : List (List Char))
    (bodyTexts : List (List (List Char))) :
    Gauged (fun _ => True) texts (writeTable header headerTexts bodyTexts) := by
  rw [writeTable_eq]
  have align : Gauged (fun _ => True) texts _ :=
    of_modify (.modify (f := fun grid => grid.align (header.children.map alignmentOf)) fun _ => rfl)
  refine (bind align fun _ => ?_).of_iff (fun _ => (and_self_iff).symm) id
  exact of_judged (.of_sure (tableLines_sure headerTexts bodyTexts))

end Gauged

/-- A table is refused inside another one, and where its rows are none. -/
theorem Judged.table {shape : Bool → Prop} {header : Option Node} {rows : List Node}
    {x : Render (List (List Char) × List (List (List Char)))} (hx : Gauged shape texts x)
    (refused : ∀ e, checkRows header rows = .error e → ∀ l, ¬ shape l) :
    Judged (fun l t => t = false ∧ shape l) texts (table header rows x) := by
  have body : Gauged shape texts (tableBody x header) :=
    (hx.bind fun _ => .writeTable _ _ _).of_iff (by simp) id
  refine ⟨.table x hx.measured header rows, fun s _ t ready h => ?_, fun s e t ready h => ?_⟩
  · cases hc : checkRows header rows with
    | error e => cases (table_refused x hc).symm.trans h
    | ok _ =>
      cases active : s.grid.active with
      | true => cases (table_nested x hc active).symm.trans h
      | false =>
        rw [table_run x hc active] at h
        obtain ⟨u, hu, _⟩ := ensuring_modify_eq_ok.mp h
        have verdict := body.done rfl hu
        exact ⟨rfl, verdict⟩
  · cases hc : checkRows header rows with
    | error e =>
      cases (table_refused x hc).symm.trans h
      exact fun ok => refused e hc _ ok.2
    | ok _ =>
      cases active : s.grid.active with
      | true =>
        cases (table_nested x hc active).symm.trans h
        exact fun ok => Bool.noConfusion ok.1
      | false =>
        rw [table_run x hc active] at h
        obtain ⟨u, hu, _⟩ := ensuring_modify_eq_error.mp h
        have verdict := body.failed rfl hu
        exact verdict.mono And.right id

end Render

end MarkdownCanon
