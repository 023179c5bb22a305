import MarkdownCanon.Proofs.BalancedWalk
import MarkdownCanon.Proofs.Ink

/-! What a step writes. A step is described by the text that it hands to the writer; prefixes and
delimiters that were staged before go out in front of it. -/

namespace MarkdownCanon

namespace Writer

theorem Clean.stage {w : Writer} (clean : w.Clean) {token : List Char} (line : '\n' ∉ token) :
    (w.stage token).Clean :=
  ⟨by simp [Writer.stage, clean.pending, line], clean.indentation⟩

theorem Clean.pushIndent {w : Writer} (clean : w.Clean) {piece : List Char} (line : '\n' ∉ piece) :
    (w.pushIndent piece).Clean := by
  refine ⟨clean.pending, ?_⟩
  have full : (w.indentation.push piece).full = w.indentation.full ++ piece := by
    simp [Indentation.full, Indentation.push]
  change '\n' ∉ (w.indentation.push piece).full
  simp [full, clean.indentation, line]

theorem clean_empty : Clean {} := ⟨by simp, by simp [Indentation.full]⟩

end Writer

/-- Nothing that the state puts in front of text ends a line, the lists are marked as lists are,
and the grid is ready. -/
structure RenderState.Orderly (s : RenderState) : Prop where
  writer : s.writer.Clean
  bullets : ∀ level ∈ s.listLevels, ∃ marker : ListMarker, level.bullet = marker.bullet
  grid : s.grid.Ready

theorem RenderState.Kept.orderly {exact : Prop} {s t : RenderState} (k : s.Kept exact t)
    (settled : s.writer.Settles t.writer) (orderly : s.Orderly) : t.Orderly := by
  refine ⟨⟨?_, k.indentation ▸ orderly.writer.indentation⟩, ?_, k.ready orderly.grid⟩
  · obtain h | h := settled
    · exact h ▸ orderly.writer.pending
    · simp [h]
  · obtain ⟨index, levels⟩ := k.levels
    have bullets := orderly.bullets
    rw [levels]
    cases h : s.listLevels with
    | nil => simp
    | cons level outer => simpa [h] using bullets

theorem RenderState.orderly_empty : RenderState.Orderly {} :=
  ⟨Writer.clean_empty, by simp, .inr rfl⟩

namespace Render

variable {α β : Type} {P P' : Bool → Bool → α → List Char → Prop}

/-- A step that, where it succeeds, writes a text and returns a value as `P` says, which is told
whether the step is made in a heading and in a cell of a table. -/
structure Emits (P : Bool → Bool → α → List Char → Prop) (x : Render α) : Prop where
  balanced : Balanced False x
  wrote : ∀ ⦃s a t⦄, s.Orderly → x s = .ok a t →
    ∃ text, s.writer.Wrote t.writer text ∧ P s.inHeading s.inTableCell a text

namespace Emits

theorem mono {x : Render α} (h : Emits P x) (imp : ∀ ⦃heading cell a text⦄,
    P heading cell a text → P' heading cell a text) : Emits P' x where
  balanced := h.balanced
  wrote s a t orderly hx := by
    obtain ⟨text, wrote, post⟩ := h.wrote orderly hx
    exact ⟨text, wrote, imp post⟩

theorem bind {x : Render α} {f : α → Render β} {Q : α → Bool → Bool → β → List Char → Prop}
    {R : Bool → Bool → β → List Char → Prop} (hx : Emits P x) (hf : ∀ a, Emits (Q a) (f a))
    (join : ∀ ⦃heading cell a b front rest⦄, P heading cell a front →
      Q a heading cell b rest → R heading cell b (front ++ rest)) : Emits R (x >>= f) where
  balanced := hx.balanced.bind fun a => (hf a).balanced
  wrote s b t orderly h := by
    obtain ⟨a, u, h₁, h₂⟩ := bind_eq_ok.mp h
    obtain ⟨k, settled⟩ := hx.balanced.done orderly.grid h₁
    obtain ⟨front, w₁, p₁⟩ := hx.wrote orderly h₁
    obtain ⟨rest, w₂, p₂⟩ := (hf a).wrote (k.orderly settled orderly) h₂
    rw [k.inHeading, k.inTableCell] at p₂
    exact ⟨front ++ rest, w₁.trans w₂, join p₁ p₂⟩

theorem ite {c : Prop} [Decidable c] {x y : Render α} (hx : c → Emits P x)
    (hy : ¬ c → Emits P y) : Emits P (if c then x else y) := by
  split
  · exact hx ‹_›
  · exact hy ‹_›

theorem pure {a : α} (h : ∀ heading cell, P heading cell a []) : Emits P (pure a) where
  balanced := (Sure.pure a).balanced
  wrote s b t _ hx := by
    cases hx
    exact ⟨[], .refl _, h _ _⟩

/-- The state that a step reads has the flags that the step is judged by. -/
theorem get : Emits (fun heading cell s text => s.inHeading = heading ∧ s.inTableCell = cell ∧
    text = []) get where
  balanced := Sure.get.balanced
  wrote s b t _ hx := by
    cases hx
    exact ⟨[], .refl _, rfl, rfl, rfl⟩

theorem get_bind {f : RenderState → Render α}
    (hf : ∀ s, Emits (fun heading cell a text => s.inHeading = heading → s.inTableCell = cell →
      P heading cell a text) (f s)) : Emits P (MonadState.get >>= f) :=
  get.bind hf fun heading cell s b front rest h h' => by
    rw [h.2.2, List.nil_append]
    exact h' h.1 h.2.1

/-- A step that cannot fail and leaves the writer alone. -/
theorem silent {x : Render α} (hx : Sure x)
    (same : ∀ {s a t}, x s = .ok a t → t.writer = s.writer) :
    Emits (fun _ _ _ text => text = []) x where
  balanced := hx.balanced
  wrote _ _ _ _ h := ⟨[], same h ▸ .refl _, rfl⟩

theorem write {text : List Char} {P : Bool → Bool → Unit → List Char → Prop}
    (h : ∀ heading cell, P heading cell () text) : Emits P (write text) where
  balanced := (Sure.write text).balanced
  wrote s _ t orderly hx := by
    cases hx
    exact ⟨text, s.writer.write_wrote orderly.writer text, h _ _⟩

theorem throw (e : RenderFailure) : Emits P (throw e : Render α) where
  balanced := .throw e
  wrote _ _ _ _ h := by cases h

theorem fail (e : ShapeError) : Emits P (fail e : Render α) := throw (.shape e)

theorem lack (asked : Absence) : Emits P (lack asked : Render α) := throw (.absent asked)

/-- A silent step in front changes nothing. -/
theorem after {x : Render α} {f : α → Render β} {Q : Bool → Bool → β → List Char → Prop}
    (hx : Emits (fun _ _ _ text => text = []) x) (hf : ∀ a, Emits Q (f a)) : Emits Q (x >>= f) :=
  hx.bind hf fun _ _ _ _ front rest silent h => by
    rw [silent, List.nil_append]
    exact h

theorem leaveLineStart : Emits (fun _ _ _ text => text = []) leaveLineStart :=
  silent .leaveLineStart fun h => by cases h; rfl

theorem startInlines : Emits (fun _ _ _ text => text = []) startInlines :=
  silent .startInlines fun h => by cases h; rfl

theorem nextInline (next : Option Node) : Emits (fun _ _ _ text => text = [])
    (modify fun s => { s with nextInline := next } : Render Unit) :=
  silent (nextInline_sure next) fun h => by cases h; rfl

theorem record (entry : Journal) : Emits (fun _ _ _ text => text = []) (record entry) :=
  silent (.record entry) fun h => by cases h; rfl

theorem checkTexts (children : List Node) :
    Emits (fun _ _ _ text => text = []) (checkTexts children) :=
  ite (fun _ => lack _) fun _ => pure fun _ _ => rfl

/-- A node without its text prints nothing that is known of. -/
theorem textless (settings : RendererSettings) (kind : Textless) :
    Emits (fun _ _ _ _ => True) (textless settings kind) := by
  cases kind with
  | code => exact pure fun _ _ => trivial
  | htmlInline => exact leaveLineStart.mono fun _ _ _ _ _ => trivial
  | htmlBlock blankBefore => exact lack _
  | codeBlock info fence fenced =>
    refine after (record _) fun _ => ?_
    split
    · exact write fun _ _ => trivial
    · exact lack _

/-- Text printed aside is returned with its delimiters, and nothing is written. -/
theorem scratch {P : Bool → Bool → Unit → List Char → Prop} {x : Render Unit} (hx : Emits P x)
    (flags : ScratchFlags) :
    Emits (fun heading cell out text => text = [] ∧ ∃ inner, Prefixed inner out ∧
      P (flags.inHeading.getD heading) (flags.inTableCell.getD cell) () inner)
      (scratch flags x) where
  balanced := hx.balanced.scratch flags
  wrote s out t orderly h := by
    obtain ⟨u, hu, rfl, rfl⟩ := scratch_eq_ok.mp h
    have inside : (s.enter flags).Orderly := ⟨Writer.clean_empty, orderly.bullets, orderly.grid⟩
    obtain ⟨inner, ⟨out, ho, shown⟩, post⟩ := hx.wrote inside hu
    refine ⟨[], .refl _, rfl, inner, ?_, post⟩
    have start : (s.enter flags).writer.out.toList = [] := rfl
    rwa [ho, start, List.nil_append]

/-- A text goes out escaped, and nothing does for one that only repeats a space. -/
theorem text (content : String) : Emits (fun _ _ _ written => ∃ w place tail next,
    written = guardBang (Markup.escape place tail (spacedText content w)).1 next)
    (text content) := by
  unfold Render.text
  refine get_bind fun s => ?_
  refine ite (fun empty => pure fun _ _ _ _ => ?_) fun _ => ?_
  · exact ⟨s.writer, {}, [], none, by simp [List.isEmpty_iff.mp empty, Markup.escape,
      Markup.escapeFrom, guardBang]⟩
  · dsimp only
    refine after (silent (.modify fun _ => ⟨rfl, rfl, rfl, rfl, rfl⟩) fun h => by cases h; rfl)
      fun _ => write fun _ _ _ _ => ?_
    exact ⟨_, _, _, _, rfl⟩

theorem code (content : String) : Emits (fun _ cell _ written =>
    let span := Markup.codeSpan ['\x60'] content.toList
    (content.isEmpty = true ∧ written = []) ∨ content.isEmpty = false ∧
      ∃ inner, written = Markup.CodeSpan.text ⟨inner, span.fence⟩ ∧
        inner = (if cell then Markup.guardPipes false else id) span.content)
    (code content) := by
  unfold Render.code
  refine ite (fun empty => pure fun _ _ => .inl ⟨empty, rfl⟩) fun some_ => ?_
  refine after leaveLineStart fun _ => get_bind fun s => write fun _ cell _ inCell => .inr ?_
  refine ⟨by simpa using some_, _, rfl, ?_⟩
  rw [inCell]
  cases cell <;> rfl

theorem verbatim {content : List Char} {P : Bool → Bool → Unit → List Char → Prop}
    (h : ∀ heading cell, P heading cell () content) : Emits P (verbatim content) :=
  after leaveLineStart fun _ => write h

theorem lineBreak (settings : RendererSettings) (soft : Bool) :
    Emits (fun heading cell _ written =>
      if soft && settings.softWraps == .preserve && !(heading || cell) then written = ['\n']
      else if soft || heading || cell then written = [] ∨ written = [' ']
      else written = [' ', ' ', '\n'])
      (lineBreak settings soft) := by
  have mark (atLineStart : RenderState → Bool) (normalTail : List Char) :
      Emits (fun _ _ _ text => text = []) (modify fun s =>
        { s with atLineStart := atLineStart s, normalTail } : Render Unit) :=
    silent (.modify fun _ => ⟨rfl, rfl, rfl, rfl, rfl⟩) fun h => by cases h; rfl
  have marked (text : List Char) (atLineStart : RenderState → Bool) (normalTail : List Char) :
      Emits (fun _ _ _ written => written = text) (do
        Render.write text
        modify fun s => { s with atLineStart := atLineStart s, normalTail }) := by
    refine (write fun _ _ => rfl : Emits (fun _ _ _ written => written = text) _).bind
      (fun _ => mark atLineStart normalTail) ?_
    rintro _ _ _ _ _ _ rfl rfl
    exact List.append_nil _
  unfold Render.lineBreak
  refine get_bind fun s => ite (fun kept => ?_) fun other => ite (fun joined => ?_) fun hard => ?_
  · refine (marked ['\n'] (fun _ => true) []).mono fun heading cell _ written same h c => ?_
    rw [h, c] at kept
    rw [if_pos kept]
    exact same
  · dsimp only
    have one : Emits (fun _ _ _ written => written = [] ∨ written = [' ']) (do
        if s.writer.last != some ' ' then Render.write [' ']
        modify fun s => { s with normalTail := [' '] } : Render Unit) :=
      ite (fun _ => (marked [' '] (·.atLineStart) [' ']).mono fun _ _ _ _ => .inr)
        fun _ => (mark (·.atLineStart) [' ']).mono fun _ _ _ _ => .inl
    refine one.mono fun heading cell _ written same h c => ?_
    rw [h, c] at other joined
    rw [if_neg other, if_pos (by simpa [or_assoc] using joined)]
    exact same
  · have broken := marked [' ', ' ', '\n'] (fun _ => true) []
    refine broken.mono fun heading cell _ written same h c => ?_
    rw [h, c] at other hard
    rw [if_neg other, if_neg (by simpa [or_assoc] using hard)]
    exact same

theorem codeBlock (settings : RendererSettings) (block : CodeBlock) :
    Emits (fun _ _ _ text => text = codeBlockText settings.formatters block)
      (codeBlock settings block) :=
  after (record _) fun _ => write fun _ _ => rfl

end Emits

theorem closeSpan_wrote {token : List Char} (line : '\n' ∉ token) {s t : RenderState}
    (clean : s.writer.Clean) (h : closeSpan token s = .ok () t) :
    ∃ close, '\n' ∉ close ∧ s.writer.Wrote t.writer close := by
  unfold closeSpan at h
  rw [get_bind] at h
  split at h
  · cases h
    exact ⟨token, line, s.writer.write_wrote clean token⟩
  · rw [get_bind] at h
    cases discarded : s.writer.discard token with
    | ok writer =>
      have same : writer.out = s.writer.out := by
        unfold Writer.discard at discarded
        split at discarded <;> cases discarded
        rfl
      rw [discarded] at h
      cases h
      exact ⟨[], by simp, [], by simp [same], .nil⟩
    | error e =>
      rw [discarded] at h
      cases h

theorem tokens_line (settings : RendererSettings) :
    '\n' ∉ settings.emphasisToken ∧ '\n' ∉ settings.strongToken := by
  have char (d : Delimiter) : '\n' ≠ d.char := by cases d <;> decide
  simp [RendererSettings.emphasisToken, RendererSettings.strongToken, char]

theorem delimiterFor_line {token : List Char} (line : '\n' ∉ token) (before : Option Char)
    (next : Option Node) : '\n' ∉ delimiterFor token before next := by
  unfold delimiterFor
  split
  · intro m
    obtain ⟨c, mem, same⟩ := List.mem_map.mp m
    split at same
    · cases same
    · exact line (same ▸ mem)
  · exact line

namespace Emits

variable {P : Bool → Bool → Unit → List Char → Prop} {x : Render Unit}

/-- The opening delimiter of a span is staged, so that only the closing one is written. -/
theorem span (hx : Emits P x) {token : List Char} (line : '\n' ∉ token) (blank : Bool) :
    Emits (fun heading cell _ text => ∃ inner close, text = inner ++ close ∧ '\n' ∉ close ∧
      P heading cell () inner) (span token blank x) where
  balanced := hx.balanced.span token blank
  wrote s _ t orderly h := by
    unfold Render.span at h
    split at h
    · obtain ⟨inner, wrote, post⟩ := hx.wrote orderly h
      exact ⟨inner, wrote, inner, [], by simp, by simp, post⟩
    · rw [Render.get_bind, leaveLineStart_bind, stage_bind] at h
      obtain ⟨_, u, hu, hc⟩ := bind_eq_ok.mp h
      have line' := delimiterFor_line line s.writer.last s.nextInline
      have staged := orderly.writer.stage line'
      obtain ⟨inner, wrote, post⟩ := hx.wrote (by exact ⟨staged, orderly.bullets, orderly.grid⟩) hu
      obtain ⟨k, settled⟩ := hx.balanced.done (by exact orderly.grid) hu
      have clean := (k.orderly settled (by exact ⟨staged, orderly.bullets, orderly.grid⟩)).writer
      obtain ⟨close, closed, wrote'⟩ := closeSpan_wrote line' clean hc
      exact ⟨inner ++ close, wrote.trans wrote', inner, close, rfl, closed, post⟩

theorem reference (hx : Emits P x) {opening : List Char} (line : '\n' ∉ opening)
    (url title : Option String) :
    Emits (fun heading cell _ text => ∃ inner, P heading cell () inner ∧
      text = inner ++ Markup.linkTail (url.getD "").toList (title.getD "").toList)
      (reference opening url title x) where
  balanced := hx.balanced.reference opening url title
  wrote s _ t orderly h := by
    unfold Render.reference at h
    rw [leaveLineStart_bind, stage_bind] at h
    obtain ⟨_, u, hu, hw⟩ := bind_eq_ok.mp h
    have staged := orderly.writer.stage line
    obtain ⟨inner, wrote, post⟩ := hx.wrote (by exact ⟨staged, orderly.bullets, orderly.grid⟩) hu
    obtain ⟨k, settled⟩ := hx.balanced.done (by exact orderly.grid) hu
    have clean := (k.orderly settled (by exact ⟨staged, orderly.bullets, orderly.grid⟩)).writer
    cases hw
    exact ⟨_, wrote.trans (u.writer.write_wrote clean _), inner, post, rfl⟩

theorem indented (hx : Emits P x) (piece : List Char) (line : '\n' ∉ piece) :
    Emits P (indented piece x) where
  balanced := hx.balanced.indented piece
  wrote s _ t orderly h := by
    rw [indented_eq hx.balanced orderly.grid] at h
    obtain ⟨u, hu, rfl⟩ := ensuring_modify_eq_ok.mp h
    have pushed := orderly.writer.pushIndent line
    obtain ⟨inner, wrote, post⟩ := hx.wrote (by exact ⟨pushed, orderly.bullets, orderly.grid⟩) hu
    exact ⟨inner, wrote, post⟩

theorem blockQuote (hx : Emits P x) (isEmpty : Bool) :
    Emits (fun heading cell _ text => (isEmpty = true ∧ text = ['>']) ∨ isEmpty = false ∧
      ∃ front inner, '\n' ∉ front ∧ text = front ++ inner ∧ P heading cell () inner)
      (blockQuote isEmpty x) := by
  have body := hx.indented quoteMarker (by decide)
  unfold Render.blockQuote
  refine ite (fun empty => write fun _ _ => .inl ⟨empty, rfl⟩) fun filled => ?_
  have filled : isEmpty = false := by simpa using filled
  refine after (silent .get fun h => by cases h; rfl) fun s => ?_
  dsimp only
  refine ite (fun _ => ?_) fun _ => body.mono fun _ _ _ inner post => ?_
  · refine (write fun _ _ => rfl : Emits (fun _ _ _ text => text = quoteMarker) _).bind
      (fun _ => body) ?_
    rintro heading cell _ _ _ inner rfl post
    exact .inr ⟨filled, quoteMarker, inner, by decide, rfl, post⟩
  · exact .inr ⟨filled, [], inner, by simp, rfl, post⟩

theorem inList (hx : Emits P x) (style : ListStyle) : Emits P (inList style x) where
  balanced := hx.balanced.inList style
  wrote s _ t orderly h := by
    unfold Render.inList at h
    rw [modify_bind] at h
    obtain ⟨u, hu, rfl⟩ := ensuring_modify_eq_ok.mp h
    have bullets : ∀ level ∈ ListLevel.ofStyle style :: s.listLevels,
        ∃ marker : ListMarker, level.bullet = marker.bullet := by
      intro level m
      obtain rfl | m := List.mem_cons.mp m
      · exact ⟨style.marker, rfl⟩
      · exact orderly.bullets level m
    obtain ⟨text, wrote, post⟩ := hx.wrote (by exact ⟨orderly.writer, bullets, orderly.grid⟩) hu
    exact ⟨text, wrote, post⟩

theorem nextItem : Emits (fun _ _ level text =>
    (∃ marker : ListMarker, level.bullet = marker.bullet) ∧ text = []) nextItem where
  balanced := .nextItem
  wrote s level t orderly h := by
    cases hl : s.listLevels with
    | nil => cases (nextItem_nil hl).symm.trans h
    | cons inner outer =>
      cases (nextItem_cons hl).symm.trans h
      exact ⟨[], .refl _, orderly.bullets level (by simp [hl]), rfl⟩

end Emits

theorem number_line (n : Int) : '\n' ∉ (toString n).toList := by
  have digits (n : Nat) : '\n' ∉ n.repr.toList := by
    intro m
    have m' : '\n' ∈ Nat.toDigits 10 n := by simpa [Nat.repr] using m
    have digit := Nat.isDigit_of_mem_toDigits (by decide) (by decide) m'
    simp at digit
  rw [Int.toString_eq_repr]
  cases n with
  | ofNat n => simpa [Int.repr] using digits n
  | negSucc n => simpa [Int.repr] using digits (n + 1)

/-- A marker is a visible mark and a space, and an item without text keeps the mark. -/
theorem marker_mark {level : ListLevel} {marker : ListMarker} (h : level.bullet = marker.bullet) :
    ∃ mark, level.marker = mark ++ [' '] ∧ Text.trimEnd Text.isBlank level.marker = mark ∧
      mark ≠ [] ∧ '\n' ∉ mark := by
  let number := (if level.ordered then toString (level.start + level.index) else "").toList
  have shape : level.marker = number ++ marker.bullet.toList ++ [' '] := by
    simp [ListLevel.marker, number, h]
  have line : '\n' ∉ number := by
    by_cases ordered : level.ordered = true
    · simpa [number, ordered] using number_line _
    · simp [number, ordered]
  refine ⟨number ++ marker.bullet.toList, shape, by rw [shape, trimEnd_marker], ?_, ?_⟩
  · cases marker <;> simp [ListMarker.bullet]
  · cases marker <;> simp [ListMarker.bullet, line]

theorem taskBox_line (task : Option TaskStatus) (first : Node) : '\n' ∉ taskBox task first := by
  unfold taskBox
  split
  · split <;> [split; skip] <;> simp
  · simp

/-- An item is its mark, and behind a gap whatever its children print. -/
theorem Emits.listItem {P : Bool → Bool → Unit → List Char → Prop} {body : Bool → Render Unit}
    (hb : ∀ tight, Emits P (body tight)) (settings : RendererSettings) (children : List Node)
    (task : Option TaskStatus) :
    Emits (fun heading cell _ text => ∃ mark, mark ≠ [] ∧ '\n' ∉ mark ∧
      ((∀ c ∈ children, c.isBlankBlock = true) ∧ text = mark ∨
        (∃ c ∈ children, c.isBlankBlock = false) ∧ ∃ gap inner, '\n' ∉ gap ∧
          text = mark ++ gap ++ inner ∧ P heading cell () inner))
      (listItem settings children task body) := by
  rw [listItem_eq]
  have item (level : ListLevel) : Emits (fun heading cell _ text =>
      (∀ c ∈ children, c.isBlankBlock = true) ∧ text = Text.trimEnd Text.isBlank level.marker ∨
        (∃ c ∈ children, c.isBlankBlock = false) ∧ ∃ box inner, '\n' ∉ box ∧
          text = level.marker ++ box ++ inner ∧ P heading cell () inner)
      (itemBody settings children task body level) := by
    refine after (checkTexts children) fun _ => ?_
    cases visible : children.find? (!·.isBlankBlock) with
    | none => exact write fun _ _ => .inl ⟨by simpa using visible, rfl⟩
    | some first =>
      have shown : ∃ c ∈ children, c.isBlankBlock = false :=
        ⟨first, List.mem_of_find?_eq_some visible, by simpa using List.find?_some visible⟩
      refine after (record _) fun _ => ?_
      have inside := (hb level.tight).indented
        (List.replicate (childIndent settings level.marker first) ' ') (by simp)
      refine (write fun _ _ => rfl : Emits (fun _ _ _ text =>
        text = level.marker ++ taskBox task first) _).bind (fun _ => inside) ?_
      rintro heading cell _ _ _ inner rfl post
      exact .inr ⟨shown, _, inner, taskBox_line task first, rfl, post⟩
  refine nextItem.bind item ?_
  rintro heading cell level _ _ text ⟨⟨marker, bullet⟩, rfl⟩ shape
  obtain ⟨mark, whole, cut, some_, line⟩ := marker_mark bullet
  refine ⟨mark, some_, line, ?_⟩
  obtain ⟨blank, rfl⟩ | ⟨shown, box, inner, boxed, rfl, post⟩ := shape
  · exact .inl ⟨blank, cut⟩
  · refine .inr ⟨shown, ' ' :: box, inner, by simp [boxed], ?_, post⟩
    rw [whole]
    simp

/-- A cell is printed aside, and its text goes before those of the cells behind it. -/
theorem Emits.cell {P : Bool → Bool → Unit → List Char → Prop} {x : Render Unit}
    {rest : Render (List (List Char))} {R : Bool → List (List Char) → Prop} (hx : Emits P x)
    (hr : Emits (fun heading _ texts written => written = [] ∧ R heading texts) rest) :
    Emits (fun heading _ texts written => written = [] ∧ ∃ text more inner, texts = text :: more ∧
      Prefixed inner text ∧ P heading true () inner ∧ R heading more) (do
        let text ← Render.scratch { inTableCell := some true } x
        return text :: (← rest)) := by
  have others (text : List Char) : Emits (fun heading _ texts written => written = [] ∧
      ∃ more, texts = text :: more ∧ R heading more) (do return text :: (← rest)) := by
    refine hr.bind (Q := fun more _ _ texts written => written = [] ∧ texts = text :: more)
      (fun _ => pure fun _ _ => ⟨rfl, rfl⟩) ?_
    rintro heading _ more _ _ _ ⟨rfl, post⟩ ⟨rfl, rfl⟩
    exact ⟨rfl, more, rfl, post⟩
  refine (hx.scratch _).bind others ?_
  rintro heading cell text _ _ _ ⟨rfl, inner, shown, post⟩ ⟨rfl, more, rfl, post'⟩
  exact ⟨rfl, text, more, inner, rfl, shown, post, post'⟩

/-- A step of a table that is being measured. It writes nothing, takes no column away and returns
what `Q` says, which is told how many columns there are in the end. -/
structure Fills (Q : Bool → Nat → α → Prop) (x : Render α) : Prop where
  measured : Measured False x
  filled : ∀ ⦃s a t⦄, s.Orderly → s.grid.active = true → x s = .ok a t →
    s.writer.Wrote t.writer [] ∧ s.grid.widths.length ≤ t.grid.widths.length ∧
      Q s.inHeading t.grid.widths.length a

namespace Fills

variable {Q : Bool → Nat → α → Prop}

theorem mono {x : Render α} {Q' : Bool → Nat → α → Prop} (h : Fills Q x)
    (imp : ∀ ⦃heading columns a⦄, Q heading columns a → Q' heading columns a) : Fills Q' x where
  measured := h.measured
  filled s a t orderly active hx := by
    obtain ⟨wrote, grown, post⟩ := h.filled orderly active hx
    exact ⟨wrote, grown, imp post⟩

theorem of_emits {x : Render α} {R : Bool → α → Prop}
    (hx : Emits (fun heading _ a text => text = [] ∧ R heading a) x) :
    Fills (fun heading _ a => R heading a) x where
  measured := .of_balanced hx.balanced
  filled s a t orderly _ h := by
    obtain ⟨_, wrote, rfl, post⟩ := hx.wrote orderly h
    exact ⟨wrote, (hx.balanced.done orderly.grid h).1.grid ▸ Nat.le_refl _, post⟩

theorem bind {x : Render α} {f : α → Render β} {Q' : α → Bool → Nat → β → Prop}
    {R : Bool → Nat → β → Prop} (hx : Fills Q x) (hf : ∀ a, Fills (Q' a) (f a))
    (join : ∀ ⦃heading before after a b⦄, before ≤ after → Q heading before a →
      Q' a heading after b → R heading after b) : Fills R (x >>= f) where
  measured := hx.measured.bind fun a => (hf a).measured
  filled s b t orderly active h := by
    obtain ⟨a, u, h₁, h₂⟩ := bind_eq_ok.mp h
    obtain ⟨active', k, settled⟩ := hx.measured.done active h₁
    have kept := k.orderly (by exact settled) orderly
    have orderly' : u.Orderly := ⟨kept.writer, kept.bullets, .inl active'⟩
    obtain ⟨w₁, grown₁, p₁⟩ := hx.filled orderly active h₁
    obtain ⟨w₂, grown₂, p₂⟩ := (hf a).filled orderly' active' h₂
    rw [show u.inHeading = s.inHeading from k.inHeading] at p₂
    exact ⟨w₁.trans w₂, grown₁.trans grown₂, join grown₂ p₁ p₂⟩

theorem pure {a : α} (h : ∀ heading columns, Q heading columns a) : Fills Q (pure a) where
  measured := .of_balanced (Sure.pure a).balanced
  filled s b t _ _ hx := by
    cases hx
    exact ⟨.refl _, Nat.le_refl _, h _ _⟩

theorem fail (e : ShapeError) : Fills Q (fail e : Render α) where
  measured := .of_balanced (.fail e)
  filled _ _ _ _ _ h := by cases h

theorem measureRow (texts : List (List Char)) :
    Fills (fun _ columns _ => texts.length ≤ columns) (measureRow texts) where
  measured := .measureRow texts
  filled s _ t _ _ h := by
    cases h
    obtain ⟨grown, room⟩ := s.grid.measureRow_length texts
    exact ⟨.refl _, grown, room⟩

/-- A row, once measured, has a column for each of its texts. -/
theorem row {cells : Render (List (List Char))} {R : Bool → List (List Char) → Prop}
    (hc : Emits (fun heading _ texts text => text = [] ∧ R heading texts) cells) :
    Fills (fun heading columns texts => R heading texts ∧ texts.length ≤ columns)
      (do let texts ← cells; Render.measureRow texts; return texts) := by
  have measured (texts : List (List Char)) :
      Fills (fun _ columns out => out = texts ∧ texts.length ≤ columns)
        (do Render.measureRow texts; return texts) := by
    refine (measureRow texts).bind (fun _ => pure (Q := fun _ _ out => out = texts) ?_) ?_
    · exact fun _ _ => rfl
    · exact fun _ _ _ _ _ le room same => ⟨same, room.trans le⟩
  refine (of_emits hc).bind measured ?_
  rintro heading before after texts _ _ post ⟨rfl, room⟩
  exact ⟨post, room⟩

/-- A row before others keeps its columns while those are measured. -/
theorem cons {cells : Render (List (List Char))} {rest : Render (List (List (List Char)))}
    {R : Bool → List (List Char) → Prop} {S : Bool → List (List (List Char)) → Prop}
    (hc : Emits (fun heading _ texts text => text = [] ∧ R heading texts) cells)
    (hr : Fills (fun heading columns rows => S heading rows ∧ ∀ row ∈ rows, row.length ≤ columns)
      rest) :
    Fills (fun heading columns rows => (∃ first others, rows = first :: others ∧
        R heading first ∧ S heading others) ∧ ∀ row ∈ rows, row.length ≤ columns)
      (do let texts ← cells; Render.measureRow texts; return texts :: (← rest)) := by
  have others (texts : List (List Char)) : Fills (fun heading columns out =>
      ∃ others, out = texts :: others ∧ S heading others ∧ ∀ row ∈ others, row.length ≤ columns)
      (do return texts :: (← rest)) := by
    refine hr.bind (fun others => pure (Q := fun _ _ out => out = texts :: others) ?_) ?_
    · exact fun _ _ => rfl
    · exact fun _ _ _ others _ le post same =>
        ⟨others, same, post.1, fun row m => (post.2 row m).trans le⟩
  have measured (texts : List (List Char)) : Fills (fun heading columns out =>
      texts.length ≤ columns ∧ ∃ others, out = texts :: others ∧ S heading others ∧
        ∀ row ∈ others, row.length ≤ columns)
      (do Render.measureRow texts; return texts :: (← rest)) :=
    (measureRow texts).bind (fun _ => others texts) fun _ _ _ _ _ le room post =>
      ⟨room.trans le, post⟩
  refine (of_emits hc).bind measured ?_
  rintro heading before after texts _ _ post ⟨room, others, rfl, post', rooms⟩
  refine ⟨⟨texts, others, rfl, post, post'⟩, fun row m => ?_⟩
  obtain rfl | m := List.mem_cons.mp m
  · exact room
  · exact rooms row m

/-- The header and the rows below it, which are measured after it. -/
theorem pair {x : Render (List (List Char))} {y : Render (List (List (List Char)))}
    {R : Bool → List (List Char) → Prop} {S : Bool → List (List (List Char)) → Prop}
    (hx : Fills (fun heading columns texts => R heading texts ∧ texts.length ≤ columns) x)
    (hy : Fills (fun heading columns rows => S heading rows ∧ ∀ row ∈ rows, row.length ≤ columns)
      y) :
    Fills (fun heading columns texts => (R heading texts.1 ∧ S heading texts.2) ∧
        texts.1.length ≤ columns ∧ ∀ row ∈ texts.2, row.length ≤ columns)
      (do let first ← x; let rest ← y; return (first, rest)) := by
  have below (first : List (List Char)) : Fills (fun heading columns texts => texts.1 = first ∧
      S heading texts.2 ∧ ∀ row ∈ texts.2, row.length ≤ columns)
      (do let rest ← y; return (first, rest)) := by
    refine hy.bind (fun rest => pure (Q := fun _ _ out => out = (first, rest)) ?_) ?_
    · exact fun _ _ => rfl
    · rintro _ _ _ rest _ le post rfl
      exact ⟨rfl, post.1, fun row m => (post.2 row m).trans le⟩
  refine hx.bind below ?_
  rintro heading before after _ ⟨first, rest⟩ le post ⟨rfl, post', rooms⟩
  exact ⟨⟨post.1, post'⟩, post.2.trans le, rooms⟩

end Fills

/-- The lines of a table as one text. -/
def gridText (grid : Grid) (headerTexts : List (List Char)) (bodyTexts : List (List (List Char))) :
    List Char :=
  grid.headerLine headerTexts ++ '\n' :: grid.delimiterLine ++
    bodyTexts.flatMap fun texts => '\n' :: grid.bodyLine texts

theorem forM_write_run (f : α → List Char) (as : List α) (s : RenderState) :
    (as.forM fun a => write (f a)) s =
      .ok () { s with writer := s.writer.write (as.flatMap f) } := by
  induction as generalizing s with
  | nil => rfl
  | cons a as ih =>
    change (write (f a) >>= fun _ => as.forM fun a => write (f a)) s = _
    rw [write_bind, ih, List.flatMap_cons, Writer.write_append]

theorem tableLines_run (headerTexts : List (List Char)) (bodyTexts : List (List (List Char)))
    (s : RenderState) : ∃ journal, tableLines headerTexts bodyTexts s = .ok ()
      { s with writer := s.writer.write (gridText s.grid headerTexts bodyTexts), journal } := by
  rw [gridText, Writer.write_append, Writer.write_append]
  unfold tableLines
  rw [Render.get_bind, write_bind, write_bind]
  exact ⟨_, bind_eq_ok.mpr ⟨(), _, forM_write_run _ _ _, rfl⟩⟩

/-- A table writes the lines of its grid, which has room for every text. -/
theorem Emits.table {x : Render (List (List Char) × List (List (List Char)))}
    {T : Bool → List (List Char) → List (List (List Char)) → Prop}
    (hx : Fills (fun heading columns texts => T heading texts.1 texts.2 ∧
      texts.1.length ≤ columns ∧ ∀ row ∈ texts.2, row.length ≤ columns) x)
    (header : Option Node) (rows : List Node) :
    Emits (fun heading _ _ text => ∃ grid headerTexts bodyTexts, T heading headerTexts bodyTexts ∧
        headerTexts.length ≤ grid.widths.length ∧
        (∀ row ∈ bodyTexts, row.length ≤ grid.widths.length) ∧
        text = gridText grid headerTexts bodyTexts)
      (table header rows x) where
  balanced := .table x hx.measured header rows
  wrote s _ t orderly h := by
    cases hc : checkRows header rows with
    | error e => cases (table_refused x hc).symm.trans h
    | ok _ =>
      cases active : s.grid.active with
      | true => cases (table_nested x hc active).symm.trans h
      | false =>
        rw [table_run x hc active] at h
        obtain ⟨u, hu, rfl⟩ := ensuring_modify_eq_ok.mp h
        obtain ⟨⟨headerTexts, bodyTexts⟩, v, hv, hw⟩ := bind_eq_ok.mp hu
        obtain ⟨wrote, _, post, room, rooms⟩ :=
          hx.filled (by exact ⟨orderly.writer, orderly.bullets, .inl rfl⟩) rfl hv
        obtain ⟨_, k, settled⟩ := hx.measured.done rfl hv
        have clean := (k.orderly (by exact settled)
          ⟨orderly.writer, orderly.bullets, .inl rfl⟩).writer
        change writeTable (header.getD .missing) headerTexts bodyTexts v = _ at hw
        rw [writeTable_eq, modify_bind] at hw
        obtain ⟨journal, run⟩ := tableLines_run headerTexts bodyTexts
          { v with grid := v.grid.align ((header.getD .missing).children.map alignmentOf) }
        cases run.symm.trans hw
        have lines := wrote.trans (v.writer.write_wrote clean (gridText
          (v.grid.align ((header.getD .missing).children.map alignmentOf)) headerTexts bodyTexts))
        exact ⟨_, lines, v.grid.align _, headerTexts, bodyTexts, post, room, rooms, rfl⟩

end Render

end MarkdownCanon
