import MarkdownCanon.Proofs.Emission
import MarkdownCanon.Proofs.LineEnds

/-! Two runs of printing side by side, into writers that differ in the prefixes of their lines.
Nothing that is printed depends on prefixes: both runs write the same characters and end the same
way, so that a relation between the writers that every single character keeps is kept throughout. -/

namespace MarkdownCanon

/-- The characters that spans are opened with. -/
def Markup.isDelimiter (c : Char) : Bool :=
  c == '*' || c == '_' || c == '~' || c == '[' || c == '!'

/-- Settings that only indent lists in another way. -/
def RendererSettings.reindented (settings : RendererSettings) (style : ListIndent)
    (width : IndentWidth) : RendererSettings :=
  { settings with listIndent := style, uniformWidth := width }

/-- Two writers that look the same to whoever writes. -/
structure Writer.Alike (w v : Writer) : Prop where
  pending : v.pending = w.pending
  atLineStart : v.atLineStart = w.atLineStart
  last : v.last = w.last

/-- A relation between writers that is kept when both are used in the same way, up to the
indentation of items. Under `strict` it may be lost to a line end that is the first thing to follow
what is staged. -/
structure Accord (settings settings' : RendererSettings) (strict : Prop)
    (R : Writer → Writer → Prop) : Prop where
  alike : ∀ ⦃w v⦄, R w v → w.Alike v
  put : ∀ ⦃w v⦄, R w v → ∀ c, (strict → w.pending = [] ∨ c ≠ '\n') → R (w.put c) (v.put c)
  stage : ∀ ⦃w v⦄, R w v → ∀ token, (∀ c ∈ token, Markup.isDelimiter c = true) →
    R (w.stage token) (v.stage token)
  unstage : ∀ ⦃w v⦄, R w v → ∀ kept, kept <+: w.pending →
    R { w with pending := kept } { v with pending := kept }
  quote : ∀ ⦃w v⦄, R w v →
    R (w.pushIndent Render.quoteMarker) (v.pushIndent Render.quoteMarker)
  /-- Behind its mark an item is indented, each time as the settings say. -/
  item : ∀ ⦃w v⦄, R w v → (∃ marker : ListMarker, marker.bullet.toList ⊆ w.out.toList) →
    ∀ (text : List Char) (first : Node),
      R (w.pushIndent (List.replicate (Render.childIndent settings text first) ' '))
        (v.pushIndent (List.replicate (Render.childIndent settings' text first) ' '))
  /-- Prefixes can be taken back to what they were before something was written. -/
  back : ∀ ⦃w v w' v'⦄, R w v → R w' v' → w.out.toList <+: w'.out.toList →
    R { w' with indentation := w.indentation } { v' with indentation := v.indentation }

theorem Accord.write {settings settings' : RendererSettings} {strict : Prop}
    {R : Writer → Writer → Prop} (accord : Accord settings settings' strict R) {w v : Writer}
    (related : R w v) {text : List Char}
    (clear : strict → w.pending = [] ∨ text.head? ≠ some '\n') :
    R (w.write text) (v.write text) := by
  induction text generalizing w v with
  | nil => exact related
  | cons c text ih =>
    rw [Writer.write_cons, Writer.write_cons]
    refine ih (accord.put related c ?_) fun _ => .inl rfl
    intro h
    simpa using clear h

namespace Render

variable {α β : Type} {settings settings' : RendererSettings} {R : Writer → Writer → Prop}
  {strict firm : Prop}

/-- How two runs end that have kept step: with the same value, in states that differ in related
writers only, or with the same failure. -/
inductive Together (R : Writer → Writer → Prop) :
    EStateM.Result RenderFailure RenderState α → EStateM.Result RenderFailure RenderState α → Prop
  | done (a : α) (t : RenderState) (v : Writer) (related : R t.writer v) :
    Together R (.ok a t) (.ok a { t with writer := v })
  | failed (e : RenderFailure) (t t' : RenderState) : Together R (.error e t) (.error e t')

theorem Together.ends {r r' : EStateM.Result RenderFailure RenderState α} (h : Together R r r') :
    (∃ a t v, R t.writer v ∧ r = .ok a t ∧ r' = .ok a { t with writer := v }) ∨
      ∃ e t t', r = .error e t ∧ r' = .error e t' := by
  cases h with
  | done a t v related => exact .inl ⟨a, t, v, related, rfl, rfl⟩
  | failed e t t' => exact .inr ⟨e, t, t', rfl, rfl⟩

theorem Together.bind {S : Writer → Writer → Prop} {x x' : Render α} {f f' : α → Render β}
    {s s' : RenderState} (h : Together S (x s) (x' s'))
    (next : ∀ a t v, x s = .ok a t → S t.writer v →
      Together R (f a t) (f' a { t with writer := v })) :
    Together R ((x >>= f) s) ((x' >>= f') s') := by
  obtain ⟨a, t, v, related, left, right⟩ | ⟨e, t, t', left, right⟩ := h.ends
  · rw [bind_of_ok left, bind_of_ok right]
    exact next a t v left related
  · rw [bind_of_error left, bind_of_error right]
    exact .failed e t t'

/-- Cleaning up changes nothing if it leads to related writers. -/
theorem Together.ensuring {x x' : Render α} {f f' : RenderState → RenderState} {s s' : RenderState}
    (h : Together R (x s) (x' s'))
    (cleaned : ∀ a t v, x s = .ok a t → R t.writer v →
      ∃ v', f' { t with writer := v } = { f t with writer := v' } ∧ R (f t).writer v') :
    Together R (x.ensuring (modify f) s) (x'.ensuring (modify f') s') := by
  rw [ensuring_modify, ensuring_modify]
  obtain ⟨a, t, v, related, left, right⟩ | ⟨e, t, t', left, right⟩ := h.ends
  · obtain ⟨v', same, related'⟩ := cleaned a t v left related
    simp only [left, right, same]
    exact .done a (f t) v' related'
  · simp only [left, right]
    exact .failed e _ _

/-- Two steps that keep step from writers that are related. Under `strict` this is said only of
writers with nothing staged, unless the steps are `firm`: they do not begin with a line end. -/
structure Lockstep (R : Writer → Writer → Prop) (strict firm : Prop) (x x' : Render α) : Prop where
  balanced : Balanced False x
  balanced' : Balanced False x'
  run : ∀ ⦃s : RenderState⦄ ⦃v : Writer⦄, s.Orderly → R s.writer v →
    (strict → firm ∨ s.writer.pending = []) → Together R (x s) (x' { s with writer := v })

/-- A step after which nothing is left staged. -/
def Clears (x : Render α) : Prop :=
  ∀ ⦃s : RenderState⦄ ⦃a : α⦄ ⦃t : RenderState⦄, s.grid.Ready → x s = .ok a t →
    t.writer.pending = []

namespace Lockstep

theorem mono {x x' : Render α} {firm' : Prop} (h : Lockstep R strict firm x x')
    (imp : firm' → firm) : Lockstep R strict firm' x x' where
  balanced := h.balanced
  balanced' := h.balanced'
  run _ _ orderly related clear := h.run orderly related fun hs => (clear hs).imp_left imp

/-- What comes after a step that puts out all that was staged may begin as it likes. -/
theorem before {x x' : Render α} {f f' : α → Render β} {later : Prop}
    (hx : Lockstep R strict firm x x') (hf : ∀ a, Lockstep R strict later (f a) (f' a))
    (imp : firm → later ∨ Clears x) : Lockstep R strict firm (x >>= f) (x' >>= f') where
  balanced := hx.balanced.bind fun a => (hf a).balanced
  balanced' := hx.balanced'.bind fun a => (hf a).balanced'
  run s v orderly related clear := by
    refine (hx.run orderly related clear).bind fun a t v' run related' => ?_
    obtain ⟨k, settled⟩ := hx.balanced.done orderly.grid run
    refine (hf a).run (k.orderly settled orderly) related' fun h => ?_
    obtain first | empty := clear h
    · exact (imp first).imp_right fun clears => clears orderly.grid run
    · exact .inr (settled.elim (·.trans empty) id)

theorem bind {x x' : Render α} {f f' : α → Render β} (hx : Lockstep R strict firm x x')
    (hf : ∀ a, Lockstep R strict firm (f a) (f' a)) :
    Lockstep R strict firm (x >>= f) (x' >>= f') :=
  hx.before hf .inl

theorem ite {c : Prop} [Decidable c] {x x' y y' : Render α} (hx : Lockstep R strict firm x x')
    (hy : Lockstep R strict firm y y') :
    Lockstep R strict firm (if c then x else y) (if c then x' else y') := by
  split
  · exact hx
  · exact hy

theorem pure (a : α) : Lockstep R strict firm (pure a) (pure a) where
  balanced := (Sure.pure a).balanced
  balanced' := (Sure.pure a).balanced
  run s v _ related _ := .done a s v related

theorem throw (e : RenderFailure) : Lockstep R strict firm (throw e : Render α) (throw e) where
  balanced := .throw e
  balanced' := .throw e
  run s _ _ _ _ := .failed e s _

theorem fail (e : ShapeError) : Lockstep R strict firm (fail e : Render α) (fail e) :=
  throw (.shape e)

theorem lack (asked : Absence) : Lockstep R strict firm (lack asked : Render α) (lack asked) :=
  throw (.absent asked)

/-- A change that has nothing to do with the writer. -/
theorem adjust {f : RenderState → RenderState} (sure : Sure (modify f : Render Unit))
    (free : ∀ s v, f { s with writer := v } = { f s with writer := v })
    (kept : ∀ s, (f s).writer = s.writer) :
    Lockstep R strict firm (modify f : Render Unit) (modify f) where
  balanced := sure.balanced
  balanced' := sure.balanced
  run s v _ related _ := by
    rw [modify_run, modify_run, free s v]
    refine .done () (f s) v ?_
    rw [kept]
    exact related

theorem record (entry : Journal) : Lockstep R strict firm (record entry) (record entry) :=
  adjust (.record entry) (fun _ _ => rfl) fun _ => rfl

theorem leaveLineStart : Lockstep R strict firm leaveLineStart leaveLineStart :=
  adjust .leaveLineStart (fun _ _ => rfl) fun _ => rfl

theorem startInlines : Lockstep R strict firm startInlines startInlines :=
  adjust .startInlines (fun _ _ => rfl) fun _ => rfl


theorem nextInline (next : Option Node) :
    Lockstep R strict firm (modify fun s => { s with nextInline := next } : Render Unit)
      (modify fun s => { s with nextInline := next }) :=
  adjust (nextInline_sure next) (fun _ _ => rfl) fun _ => rfl

theorem write (accord : Accord settings settings' strict R) {text : List Char}
    (head : firm → text.head? ≠ some '\n') :
    Lockstep R strict firm (write text) (write text) where
  balanced := (Sure.write text).balanced
  balanced' := (Sure.write text).balanced
  run s v _ related clear := by
    refine .done () _ _ (accord.write related fun h => ?_)
    obtain firm | empty := clear h
    · exact .inr (head firm)
    · exact .inl empty

/-- A step that reads of the writer only what is the same on both sides. -/
theorem get_bind {f f' : RenderState → Render α} (accord : Accord settings settings' strict R)
    (balanced : Balanced False (get >>= f)) (balanced' : Balanced False (get >>= f'))
    (same : ∀ s v, s.writer.Alike v → f' { s with writer := v } = f s)
    (hf : ∀ s, Lockstep R strict firm (f s) (f s)) :
    Lockstep R strict firm (get >>= f) (get >>= f') where
  balanced := balanced
  balanced' := balanced'
  run s v orderly related clear := by
    rw [Render.get_bind, Render.get_bind, same s v (accord.alike related)]
    exact (hf s).run orderly related clear

theorem checkTexts (children : List Node) :
    Lockstep R strict firm (checkTexts children) (checkTexts children) :=
  ite (lack _) (pure ())

theorem text (accord : Accord settings settings' strict R) (content : String) :
    Lockstep R strict firm (text content) (text content) := by
  refine get_bind accord (Sure.text content).balanced (Sure.text content).balanced ?_ ?_
  · intro s v alike
    have same : spacedText content v = spacedText content s.writer := by
      rw [spacedText, spacedText, Writer.committed, Writer.committed, alike.pending, alike.last]
    simp only [same]
  · intro s
    refine ite (pure ()) ?_
    refine bind (adjust (.modify fun _ => ⟨rfl, rfl, rfl, rfl, rfl⟩) (fun _ _ => rfl)
      fun _ => rfl) fun _ => ?_
    refine write accord fun _ head => ?_
    exact written_line content s.writer _ _ _ (List.mem_of_head? head)

theorem code (accord : Accord settings settings' strict R) (content : String) :
    Lockstep R strict firm (code content) (code content) := by
  refine ite (pure ()) (leaveLineStart.bind fun _ => ?_)
  refine get_bind accord (Sure.get.bind fun _ => .write _).balanced
    (Sure.get.bind fun _ => .write _).balanced (fun _ _ _ => rfl) fun s => ?_
  refine write accord fun _ => ?_
  simp [Markup.CodeSpan.text, Markup.codeSpan, List.replicate_succ]

theorem verbatim (accord : Accord settings settings' strict R) {content : List Char}
    (head : firm → content.head? ≠ some '\n') :
    Lockstep R strict firm (verbatim content) (verbatim content) :=
  leaveLineStart.bind fun _ => write accord head

theorem lineBreak (accord : Accord settings settings' strict R) {soft : Bool}
    (stays : firm → (soft && settings.softWraps == .preserve) = false) :
    Lockstep R strict firm (lineBreak settings soft) (lineBreak settings soft) := by
  have mark {f : RenderState → RenderState} (same : ∀ s, (f s).writer = s.writer ∧
      (f s).inTableCell = s.inTableCell ∧ (f s).inHeading = s.inHeading ∧ (f s).grid = s.grid ∧
      (f s).listLevels = s.listLevels)
      (free : ∀ s v, f { s with writer := v } = { f s with writer := v }) :
      Lockstep R strict firm (modify f : Render Unit) (modify f) :=
    adjust (.modify same) free fun s => (same s).1
  refine get_bind accord (Sure.lineBreak settings soft).balanced
    (Sure.lineBreak settings soft).balanced ?_ ?_
  · intro s v alike
    simp only [alike.last]
  · intro s
    have joined : Lockstep R strict firm (do
        if s.writer.last != some ' ' then Render.write [' ']
        modify fun s => { s with normalTail := [' '] } : Render Unit) (do
        if s.writer.last != some ' ' then Render.write [' ']
        modify fun s => { s with normalTail := [' '] }) :=
      ite ((write accord fun _ => by simp).bind fun _ =>
        mark (fun _ => ⟨rfl, rfl, rfl, rfl, rfl⟩) fun _ _ => rfl)
        (mark (fun _ => ⟨rfl, rfl, rfl, rfl, rfl⟩) fun _ _ => rfl)
    have hard : Lockstep R strict firm (do
        Render.write [' ', ' ', '\n']
        modify fun s => { s with atLineStart := true, normalTail := [] } : Render Unit) (do
        Render.write [' ', ' ', '\n']
        modify fun s => { s with atLineStart := true, normalTail := [] }) :=
      (write accord fun _ => by simp).bind fun _ =>
        mark (fun _ => ⟨rfl, rfl, rfl, rfl, rfl⟩) fun _ _ => rfl
    dsimp only
    by_cases kept : (soft && settings.softWraps == .preserve) = true
    · have loose : firm → False := fun h => by simp [stays h] at kept
      refine ite ((write accord fun h => (loose h).elim).bind fun _ => ?_) (ite joined hard)
      exact mark (fun _ => ⟨rfl, rfl, rfl, rfl, rfl⟩) fun _ _ => rfl
    · rw [if_neg (by simp [kept])]
      exact ite joined hard

theorem codeBlock (accord : Accord settings settings' strict R) (block : CodeBlock) :
    Lockstep R strict False (codeBlock settings block) (codeBlock settings block) :=
  (record _).bind fun _ => write accord False.elim

theorem textless (accord : Accord settings settings' strict R) {kind : Textless}
    (inline : firm → (Node.textless kind).isInline = true) :
    Lockstep R strict firm (textless settings kind) (textless settings kind) := by
  cases kind with
  | code => exact pure ()
  | htmlInline => exact leaveLineStart
  | htmlBlock blankBefore => exact lack _
  | codeBlock info fence fenced =>
    have block : firm → False := fun h => by simpa [Node.isInline] using inline h
    refine (record _).bind fun _ => ?_
    split
    · exact write accord fun h => (block h).elim
    · exact lack _

end Lockstep

/-- Opening characters stay such where stars take the place of underscores. -/
theorem delimiterFor_delimiters {token : List Char}
    (h : ∀ c ∈ token, Markup.isDelimiter c = true) (before : Option Char) (next : Option Node) :
    ∀ c ∈ delimiterFor token before next, Markup.isDelimiter c = true := by
  unfold delimiterFor
  split
  · intro c m
    obtain ⟨d, hd, rfl⟩ := List.mem_map.mp m
    split
    · rfl
    · exact h d hd
  · exact h

theorem tokens_delimiters (settings : RendererSettings) :
    (∀ c ∈ settings.emphasisToken, Markup.isDelimiter c = true) ∧
      ∀ c ∈ settings.strongToken, Markup.isDelimiter c = true := by
  have char (d : Delimiter) : Markup.isDelimiter d.char = true := by cases d <;> rfl
  simp [RendererSettings.emphasisToken, RendererSettings.strongToken, char]

theorem closeSpan_together (accord : Accord settings settings' strict R) (token : List Char)
    {s : RenderState} {v : Writer} (related : R s.writer v) :
    Together R (closeSpan token s) (closeSpan token { s with writer := v }) := by
  have alike := accord.alike related
  unfold closeSpan
  rw [get_bind, get_bind]
  have committed : v.committed = s.writer.committed := by
    rw [Writer.committed, Writer.committed, alike.pending]
  simp only [committed]
  by_cases empty : s.writer.committed = true
  · rw [if_pos empty]
    have none_ : s.writer.pending = [] := by simpa [Writer.committed] using empty
    exact .done () _ _ (accord.write related fun _ => .inl none_)
  · rw [if_neg empty, get_bind, get_bind]
    simp only [Writer.discard, alike.pending]
    by_cases last : token.isSuffixOf s.writer.pending = true
    · rw [if_pos last, if_pos last]
      have kept := accord.unstage related _
        (List.take_prefix (s.writer.pending.length - token.length) s.writer.pending)
      exact .done () { s with writer := { s.writer with pending := _ } } _ kept
    · rw [if_neg last, if_neg last]
      exact .failed _ _ _

namespace Lockstep

/-- What a span holds follows its opening delimiter and must not begin with a line end. -/
theorem span (accord : Accord settings settings' strict R) {x x' : Render Unit} {inside : Prop}
    (hx : Lockstep R strict inside x x') (firmly : strict → inside) {token : List Char}
    (delimiters : ∀ c ∈ token, Markup.isDelimiter c = true) (blank : Bool) :
    Lockstep R strict firm (span token blank x) (span token blank x') where
  balanced := hx.balanced.span token blank
  balanced' := hx.balanced'.span token blank
  run s v orderly related clear := by
    unfold Render.span
    split
    · exact hx.run orderly related fun h => .inl (firmly h)
    · have chars := delimiterFor_delimiters delimiters s.writer.last s.nextInline
      have line : '\n' ∉ delimiterFor token s.writer.last s.nextInline := by
        intro m
        simpa [Markup.isDelimiter] using chars _ m
      rw [Render.get_bind, Render.get_bind, leaveLineStart_bind, leaveLineStart_bind, stage_bind,
        stage_bind]
      simp only [(accord.alike related).last]
      have staged := accord.stage related _ chars
      refine (hx.run (by exact ⟨orderly.writer.stage line, orderly.bullets, orderly.grid⟩)
        (by exact staged) fun h => .inl (firmly h)).bind fun _ t v' _ related' => ?_
      exact closeSpan_together accord _ related'

theorem reference (accord : Accord settings settings' strict R) {x x' : Render Unit}
    {inside : Prop} (hx : Lockstep R strict inside x x') (firmly : strict → inside)
    {opening : List Char} (delimiters : ∀ c ∈ opening, Markup.isDelimiter c = true)
    (url title : Option String) :
    Lockstep R strict firm (reference opening url title x) (reference opening url title x') where
  balanced := hx.balanced.reference opening url title
  balanced' := hx.balanced'.reference opening url title
  run s v orderly related clear := by
    unfold Render.reference
    have line : '\n' ∉ opening := by
      intro m
      simpa [Markup.isDelimiter] using delimiters _ m
    rw [leaveLineStart_bind, leaveLineStart_bind, stage_bind, stage_bind]
    have staged := accord.stage related _ delimiters
    refine (hx.run (by exact ⟨orderly.writer.stage line, orderly.bullets, orderly.grid⟩)
      (by exact staged) fun h => .inl (firmly h)).bind fun _ t v' _ related' => ?_
    exact .done () _ _ (accord.write related' fun _ => .inr (by simp [Markup.linkTail]))

/-- A prefix is pushed on each side for as long as the steps go on. -/
theorem indented_together (accord : Accord settings settings' strict R) {x x' : Render Unit}
    (hx : Lockstep R strict firm x x') {piece piece' : List Char} (line : '\n' ∉ piece)
    {s : RenderState} {v : Writer} (orderly : s.Orderly) (related : R s.writer v)
    (pushed : R (s.writer.pushIndent piece) (v.pushIndent piece'))
    (clear : strict → firm ∨ s.writer.pending = []) :
    Together R (indented piece x s) (indented piece' x' { s with writer := v }) := by
  rw [indented_eq hx.balanced orderly.grid, indented_eq hx.balanced' (by exact orderly.grid)]
  refine Together.ensuring (hx.run (by
    exact ⟨orderly.writer.pushIndent line, orderly.bullets, orderly.grid⟩) pushed clear) ?_
  intro _ t v' run related'
  have k := (hx.balanced.done (by exact orderly.grid) run).1
  exact ⟨_, rfl, accord.back related related' k.out⟩

theorem blockQuote (accord : Accord settings settings' strict R) {x x' : Render Unit}
    (hx : Lockstep R strict False x x') (isEmpty : Bool) :
    Lockstep R strict False (blockQuote isEmpty x) (blockQuote isEmpty x') := by
  have body : Lockstep R strict False (indented quoteMarker x) (indented quoteMarker x') :=
    ⟨hx.balanced.indented _, hx.balanced'.indented _, fun s v orderly related clear =>
      indented_together accord hx (by decide) orderly related (accord.quote related) clear⟩
  unfold Render.blockQuote
  refine ite (write accord False.elim) ?_
  refine ⟨?_, ?_, fun s v orderly related clear => ?_⟩
  · refine Sure.get.balanced.bind fun s => ?_
    dsimp only
    exact .ite ((Sure.write _).balanced.bind fun _ => body.balanced) body.balanced
  · refine Sure.get.balanced.bind fun s => ?_
    dsimp only
    exact .ite ((Sure.write _).balanced.bind fun _ => body.balanced') body.balanced'
  · rw [Render.get_bind, Render.get_bind]
    simp only [(accord.alike related).atLineStart]
    have opened : Lockstep R strict False (Render.write quoteMarker) (Render.write quoteMarker) :=
      write accord False.elim
    have both := ite (c := (!s.writer.atLineStart) = true) (opened.bind fun _ => body) body
    exact both.run orderly related clear

theorem inList {x x' : Render Unit}
    (hx : Lockstep R strict firm x x') (style : ListStyle) :
    Lockstep R strict firm (inList style x) (inList style x') where
  balanced := hx.balanced.inList style
  balanced' := hx.balanced'.inList style
  run s v orderly related clear := by
    unfold Render.inList
    rw [modify_bind, modify_bind]
    have bullets : ∀ level ∈ ListLevel.ofStyle style :: s.listLevels,
        ∃ marker : ListMarker, level.bullet = marker.bullet := by
      intro level m
      obtain rfl | m := List.mem_cons.mp m
      · exact ⟨style.marker, rfl⟩
      · exact orderly.bullets level m
    refine Together.ensuring (hx.run (by exact ⟨orderly.writer, bullets, orderly.grid⟩)
      (by exact related) clear) ?_
    intro _ t v' _ related'
    exact ⟨v', rfl, related'⟩

theorem itemBody (accord : Accord settings settings' strict R) {body body' : Bool → Render Unit}
    (hb : ∀ tight, Lockstep R strict False (body tight) (body' tight)) (children : List Node)
    (task : Option TaskStatus) {level : ListLevel}
    (bullet : ∃ marker : ListMarker, level.bullet = marker.bullet) :
    Lockstep R strict False (itemBody settings children task body level)
      (itemBody settings' children task body' level) := by
  refine (checkTexts children).bind fun _ => ?_
  cases visible : children.find? (!·.isBlankBlock) with
  | none => exact write accord False.elim
  | some first =>
    refine (record _).bind fun _ => ⟨?_, ?_, fun s v orderly related clear => ?_⟩
    · exact (Sure.write _).balanced.bind fun _ => (hb _).balanced.indented _
    · exact (Sure.write _).balanced.bind fun _ => (hb _).balanced'.indented _
    let text := level.marker ++ taskBox task first
    have shown : text ≠ [] := by simp [text, ListLevel.marker]
    have written : R (s.writer.write text) (v.write text) :=
      accord.write related fun h => .inl ((clear h).resolve_left id)
    have empty : (s.writer.write text).pending = [] := s.writer.write_pending shown
    have orderly' : RenderState.Orderly { s with writer := s.writer.write text } :=
      ⟨⟨by simp [empty], by simpa using orderly.writer.indentation⟩, orderly.bullets, orderly.grid⟩
    -- The mark of the item is out by now, on both sides.
    have marked : ∃ marker : ListMarker,
        marker.bullet.toList ⊆ (s.writer.write text).out.toList := by
      obtain ⟨marker, same⟩ := bullet
      obtain ⟨out, ho, within⟩ := s.writer.write_wrote orderly.writer text
      refine ⟨marker, fun c m => ?_⟩
      have inText : c ∈ text := by simp [text, ListLevel.marker, same, m]
      rw [ho]
      exact List.mem_append_right _ (within.sublist.subset inText)
    rw [write_bind, write_bind]
    exact indented_together accord (hb _) (by simp) orderly' written
      (accord.item written marked _ _) fun _ => .inr empty

theorem listItem (accord : Accord settings settings' strict R) {body body' : Bool → Render Unit}
    (hb : ∀ tight, Lockstep R strict False (body tight) (body' tight)) (children : List Node)
    (task : Option TaskStatus) :
    Lockstep R strict False (listItem settings children task body)
      (listItem settings' children task body') where
  balanced := .listItem (fun tight => (hb tight).balanced) settings children task
  balanced' := .listItem (fun tight => (hb tight).balanced') settings' children task
  run s v orderly related clear := by
    rw [listItem_eq, listItem_eq]
    have either : s.listLevels = [] ∨ ∃ level outer, s.listLevels = level :: outer := by
      cases s.listLevels <;> simp
    obtain none_ | ⟨level, outer, levels⟩ := either
    · have failed : Together R (nextItem s) (nextItem { s with writer := v }) := by
        rw [nextItem_nil none_, nextItem_nil (s := { s with writer := v }) none_]
        exact .failed _ _ _
      refine failed.bind fun _ _ _ run _ => ?_
      cases (nextItem_nil none_).symm.trans run
    · have counted : Together R (nextItem s) (nextItem { s with writer := v }) := by
        rw [nextItem_cons levels, nextItem_cons (s := { s with writer := v }) levels]
        exact .done level { s with listLevels := level.advance :: outer } v related
      refine counted.bind fun _ _ _ run related' => ?_
      cases (nextItem_cons levels).symm.trans run
      have bullet := orderly.bullets level (by simp [levels])
      have bullets : ∀ l ∈ level.advance :: outer,
          ∃ marker : ListMarker, l.bullet = marker.bullet := by
        intro l m
        obtain rfl | m := List.mem_cons.mp m
        · exact bullet
        · exact orderly.bullets l (by simp [levels, m])
      exact (itemBody accord hb children task bullet).run
        (by exact ⟨orderly.writer, bullets, orderly.grid⟩) related' clear

end Lockstep

/-- A step that goes the same way whatever the writer is, and leaves it alone. -/
def Aside (x : Render α) : Prop :=
  ∀ (s : RenderState) (v : Writer),
    Together (fun w v' => w = s.writer ∧ v' = v) (x s) (x { s with writer := v })

theorem Together.mono {S : Writer → Writer → Prop}
    {r r' : EStateM.Result RenderFailure RenderState α} (h : Together R r r')
    (imp : ∀ w v, R w v → S w v) : Together S r r' := by
  cases h with
  | done a t v related => exact .done a t v (imp _ _ related)
  | failed e t t' => exact .failed e t t'

namespace Aside

theorem pure (a : α) : Aside (pure a) := fun s v => .done a s v ⟨rfl, rfl⟩

theorem fail (e : ShapeError) : Aside (fail e : Render α) := fun s _ => .failed _ s _

theorem bind {x : Render α} {f : α → Render β} (hx : Aside x) (hf : ∀ a, Aside (f a)) :
    Aside (x >>= f) := by
  intro s v
  refine (hx s v).bind fun a t v' _ same => ?_
  obtain ⟨writer, rfl⟩ := same
  exact (hf a t v').mono fun w u same => ⟨same.1.trans writer, same.2⟩

theorem measureRow (texts : List (List Char)) : Aside (measureRow texts) :=
  fun s v => .done () { s with grid := s.grid.measureRow texts } v ⟨rfl, rfl⟩

/-- What is printed aside starts on a writer of its own. -/
theorem scratch (x : Render Unit) (flags : ScratchFlags) : Aside (scratch flags x) := by
  intro s v
  cases run : x (s.enter flags) with
  | ok a t =>
    have left : Render.scratch flags x s = .ok t.writer.out.toList (t.leave flags s) :=
      scratch_eq_ok.mpr ⟨t, run, rfl, rfl⟩
    have right : Render.scratch flags x { s with writer := v } =
        .ok t.writer.out.toList (t.leave flags { s with writer := v }) :=
      scratch_eq_ok.mpr ⟨t, run, rfl, rfl⟩
    rw [left, right]
    exact .done _ (t.leave flags s) v ⟨rfl, rfl⟩
  | error e t =>
    have left : Render.scratch flags x s = .error e (t.leave flags s) :=
      scratch_eq_error.mpr ⟨t, run, rfl⟩
    have right : Render.scratch flags x { s with writer := v } =
        .error e (t.leave flags { s with writer := v }) :=
      scratch_eq_error.mpr ⟨t, run, rfl⟩
    rw [left, right]
    exact .failed _ _ _

end Aside

theorem cellTexts_aside (settings : RendererSettings) (cells : List Node) :
    Aside (cellTexts settings cells) := by
  induction cells with
  | nil =>
    rw [cellTexts]
    exact .pure _
  | cons cell rest later =>
    cases cell with
    | tableCell content alignment =>
      rw [cellTexts]
      exact .bind (.scratch _ _) fun _ => .bind later fun _ => .pure _
    | _ =>
      simp only [cellTexts]
      exact .fail _

theorem headerRow_aside (settings : RendererSettings) (header : Option Node) :
    Aside (headerRow settings header) := by
  cases header with
  | none =>
    rw [headerRow]
    exact .fail _
  | some row =>
    cases row with
    | tableRow cells isHeader =>
      rw [headerRow]
      exact .bind (cellTexts_aside settings cells) fun _ => .bind (.measureRow _) fun _ => .pure _
    | _ =>
      simp only [headerRow]
      exact .fail _

theorem bodyRows_aside (settings : RendererSettings) (rows : List Node) :
    Aside (bodyRows settings rows) := by
  induction rows with
  | nil =>
    rw [bodyRows]
    exact .pure _
  | cons row rest later =>
    cases row with
    | tableRow cells isHeader =>
      rw [bodyRows]
      exact .bind (cellTexts_aside settings cells) fun _ => .bind (.measureRow _) fun _ =>
        .bind later fun _ => .pure _
    | _ =>
      simp only [bodyRows]
      exact .fail _

namespace Lockstep

theorem of_aside {x : Render α} (balanced : Balanced False x) (aside : Aside x) :
    Lockstep R strict firm x x where
  balanced := balanced
  balanced' := balanced
  run s v _ related _ := (aside s v).mono fun w u same => by rw [same.1, same.2]; exact related

theorem forM (f : β → Render Unit) (hf : ∀ b, Lockstep R strict firm (f b) (f b)) (bs : List β) :
    Lockstep R strict firm (bs.forM f) (bs.forM f) := by
  induction bs with
  | nil => exact pure ()
  | cons b bs ih => exact (hf b).bind fun _ => ih

theorem tableLines (accord : Accord settings settings' strict R) (headerTexts : List (List Char))
    (bodyTexts : List (List (List Char))) :
    Lockstep R strict False (tableLines headerTexts bodyTexts)
      (tableLines headerTexts bodyTexts) := by
  refine get_bind accord (tableLines_sure headerTexts bodyTexts).balanced
    (tableLines_sure headerTexts bodyTexts).balanced (fun _ _ _ => rfl) fun s => ?_
  refine (write accord False.elim).bind fun _ => (write accord False.elim).bind fun _ => ?_
  exact (forM _ (fun _ => write accord False.elim) _).bind fun _ => record _

theorem table (accord : Accord settings settings' strict R)
    {x : Render (List (List Char) × List (List (List Char)))} (measured : Measured False x)
    (aside : Aside x) (header : Option Node) (rows : List Node) :
    Lockstep R strict False (table header rows x) (table header rows x) where
  balanced := .table x measured header rows
  balanced' := .table x measured header rows
  run s v orderly related clear := by
    cases checked : checkRows header rows with
    | error e =>
      rw [table_refused x checked, table_refused x checked]
      exact .failed _ _ _
    | ok _ =>
      cases active : s.grid.active with
      | true =>
        rw [table_nested x checked active, table_nested x checked (by exact active)]
        exact .failed _ _ _
      | false =>
        rw [table_run x checked active, table_run x checked (by exact active)]
        refine Together.ensuring (.bind (aside _ _) fun texts t v' run same => ?_) ?_
        · obtain ⟨writer, rfl⟩ := same
          obtain ⟨active', k, settled⟩ := measured.done rfl run
          have kept := k.orderly (by exact settled)
            ⟨orderly.writer, orderly.bullets, .inl rfl⟩
          change Together R (writeTable (header.getD .missing) texts.1 texts.2 t)
            (writeTable (header.getD .missing) texts.1 texts.2 { t with writer := v' })
          rw [writeTable_eq, modify_bind, modify_bind]
          refine (tableLines accord texts.1 texts.2).run
            (by exact ⟨kept.writer, kept.bullets, .inl active'⟩) ?_ ?_
          · rw [show t.writer = s.writer from writer]
            exact related
          · rw [show t.writer = s.writer from writer]
            exact clear
        · intro _ t v' _ related'
          exact ⟨v', rfl, related'⟩

/-- A heading whose content is printed in the same way on both sides. -/
theorem heading (accord : Accord settings settings' strict R) (level : HeadingLevel)
    (content : List Node) (identifier : Option String) :
    Lockstep R strict False (node settings (.heading level content identifier))
      (node settings (.heading level content identifier)) := by
  let flags : ScratchFlags :=
    { atLineStart := (underline? settings level).isSome, inHeading := some true }
  have aside : Lockstep R strict False (scratch flags (inlines settings content))
      (scratch flags (inlines settings content)) :=
    of_aside (((inlines_balanced settings content).mono False.elim).scratch _) (.scratch _ _)
  rw [node]
  exact aside.bind fun _ => write accord False.elim

end Lockstep

end Render

end MarkdownCanon
