import MarkdownCanon.Proofs.Pairing

/-! Pipes in the cells of a table. A pipe with a backslash before it does not end its cell, and
whoever reads the cell takes the backslash away before looking at anything else. Text and code are
written so that this gives back what they are written as elsewhere; what goes out as it is, a
destination, a title, an address or raw HTML, is not. -/

namespace MarkdownCanon

namespace Markup

/-- Every pipe has a backslash directly before it. -/
def Guarded (text : List Char) : Prop :=
  ∀ before after, text = before ++ '|' :: after → before.getLast? = some '\\'

/-- A text with each backslash before a pipe taken away. -/
def unguardPipes : List Char → List Char
  | [] => []
  | '\\' :: '|' :: rest => '|' :: unguardPipes rest
  | c :: rest => c :: unguardPipes rest

theorem guarded_of_notMem {text : List Char} (h : '|' ∉ text) : Guarded text := by
  rintro before after rfl
  simp at h

theorem Guarded.head {text : List Char} (h : Guarded text) : text.head? ≠ some '|' := by
  intro first
  obtain ⟨rest, rfl⟩ := List.head?_eq_some_iff.mp first
  simpa using h [] rest rfl

theorem Guarded.append {a b : List Char} (ha : Guarded a) (hb : Guarded b) : Guarded (a ++ b) := by
  intro before after cut
  obtain ⟨more, rfl, rest⟩ | ⟨more, rfl, rest⟩ := List.append_eq_append_iff.mp cut
  · have last := hb more after rest
    rw [List.getLast?_append, last]
    rfl
  · cases more with
    | nil =>
      obtain rfl : '|' :: after = b := rest
      exact absurd rfl hb.head
    | cons c more =>
      obtain ⟨rfl, -⟩ := List.cons.inj rest
      exact ha before more rfl

theorem Guarded.concat {a : List Char} (ha : Guarded a) {c : Char}
    (h : c = '|' → a.getLast? = some '\\') : Guarded (a ++ [c]) := by
  intro before after cut
  obtain ⟨more, rfl, rest⟩ | ⟨more, rfl, rest⟩ := List.append_eq_append_iff.mp cut
  · obtain ⟨rfl, rest⟩ | ⟨more', -, rest⟩ := List.cons_eq_append_iff.mp rest
    · obtain ⟨pipe, -⟩ := List.cons.inj rest
      rw [List.append_nil]
      exact h pipe
    · simp at rest
  · cases more with
    | nil =>
      obtain ⟨pipe, -⟩ := List.cons.inj rest
      rw [List.append_nil] at h
      exact h pipe.symm
    | cons d more =>
      obtain ⟨rfl, -⟩ := List.cons.inj rest
      exact ha before more rfl

theorem Guarded.of_append {a b : List Char} (h : Guarded (a ++ b)) : Guarded a := by
  rintro before after rfl
  exact h before (after ++ b) (by simp)

theorem unguardPipes_cons {c : Char} {rest : List Char} (h : c ≠ '\\' ∨ rest.head? ≠ some '|') :
    unguardPipes (c :: rest) = c :: unguardPipes rest := by
  rw [unguardPipes]
  rintro more rfl rfl
  simp at h

theorem unguardPipes_append (a : List Char) {b : List Char} (h : b.head? ≠ some '|') :
    unguardPipes (a ++ b) = unguardPipes a ++ unguardPipes b := by
  fun_induction unguardPipes a with
  | case1 => rfl
  | case2 rest ih => simp [unguardPipes, ih]
  | case3 c rest other ih =>
    have apart : c ≠ '\\' ∨ (rest ++ b).head? ≠ some '|' := by
      by_cases slash : c = '\\'
      · cases rest with
        | nil => exact .inr h
        | cons d rest =>
          refine .inr fun pipe => ?_
          obtain rfl : d = '|' := by simpa using pipe
          exact other rest slash rfl
      · exact .inl slash
    rw [List.cons_append, unguardPipes_cons apart, ih, List.cons_append]

theorem unguardPipes_getLast? (text : List Char) :
    (unguardPipes text).getLast? = text.getLast? := by
  fun_induction unguardPipes text with
  | case1 => rfl
  | case2 rest ih => rw [List.getLast?_cons_cons, List.getLast?_cons, List.getLast?_cons, ih]
  | case3 c rest _ ih => rw [List.getLast?_cons, List.getLast?_cons, ih]

theorem unguardPipes_of_notMem {text : List Char} (h : '|' ∉ text) : unguardPipes text = text := by
  induction text with
  | nil => rfl
  | cons c text ih =>
    simp only [List.mem_cons, not_or] at h
    have apart : text.head? ≠ some '|' := fun first => h.2 (List.mem_of_head? first)
    rw [unguardPipes_cons (.inr apart), ih h.2]

/-- The text of something in a cell, and its text elsewhere. Given `covered`, the pipes of the one
are guarded; given also `fresh`, it becomes the other when the guards are taken away. -/
structure Guards (covered fresh : Prop) (a a' : List Char) : Prop where
  last : a'.getLast? = a.getLast?
  guarded : covered → Guarded a
  undone : covered → fresh → unguardPipes a = a'

variable {covered fresh : Prop}

namespace Guards

theorem of_unguard {a : List Char} (h : Guarded a) : Guards covered fresh a (unguardPipes a) :=
  ⟨unguardPipes_getLast? a, fun _ => h, fun _ _ => rfl⟩

theorem of_notMem {a : List Char} (h : covered → '|' ∉ a) : Guards covered fresh a a :=
  ⟨rfl, fun b => guarded_of_notMem (h b), fun b _ => unguardPipes_of_notMem (h b)⟩

theorem append {a a' b b' : List Char} (ha : Guards covered fresh a a')
    (hb : Guards covered fresh b b') :
    Guards covered fresh (a ++ b) (a' ++ b') where
  last := by rw [List.getLast?_append, List.getLast?_append, ha.last, hb.last]
  guarded h := (ha.guarded h).append (hb.guarded h)
  undone h h' := by
    rw [unguardPipes_append a (hb.guarded h).head, ha.undone h h', hb.undone h h']

end Guards

/-- In a table a pipe is escaped; nothing else is escaped there and not elsewhere. -/
theorem mustEscape_inTable (atLineStart : Bool) (seen tail : List Char) (c : Char)
    (rest : List Char) :
    mustEscape ⟨atLineStart, true⟩ seen tail c rest =
      (mustEscape ⟨atLineStart, false⟩ seen tail c rest || c == '|') := by
  by_cases pipe : c = '|'
  · subst pipe
    rfl
  · have other : (c == '|') = false := by simpa using pipe
    simp only [mustEscape, other, Bool.or_false, Bool.false_eq_true, ↓reduceIte]

theorem mustEscape_pipe (atLineStart : Bool) (seen tail rest : List Char) :
    mustEscape ⟨atLineStart, false⟩ seen tail '|' rest = false := rfl

theorem escapeFrom_guards (atLineStart : Bool) (seen tail text : List Char) :
    Guards covered fresh (escapeFrom ⟨atLineStart, true⟩ seen tail text).1
      (escapeFrom ⟨atLineStart, false⟩ seen tail text).1 := by
  induction text generalizing seen tail with
  | nil => exact .of_notMem fun _ => by simp [escapeFrom]
  | cons c rest ih =>
    rw [escapeFrom, escapeFrom]
    refine .append ?_ (ih _ _)
    rw [mustEscape_inTable]
    by_cases pipe : c = '|'
    · subst pipe
      rw [mustEscape_pipe]
      have slash : Guarded ['\\'] := guarded_of_notMem (by decide)
      have guarded : Guarded ['\\', '|'] := slash.concat fun _ => rfl
      exact .of_unguard guarded
    · have other : (c == '|') = false := by simpa using pipe
      rw [other, Bool.or_false]
      refine .of_notMem fun _ => ?_
      split <;> simp [Ne.symm pipe]

theorem escape_guards (atLineStart : Bool) (tail text : List Char) :
    Guards covered fresh (escape ⟨atLineStart, true⟩ tail text).1
      (escape ⟨atLineStart, false⟩ tail text).1 := by
  rw [escape_text, escape_text]
  split
  · rename_i alone
    have other : '|' ∉ '\\' :: text := by
      intro pipe
      obtain ⟨c, rfl, special⟩ := isLone_iff.mp alone
      obtain rfl : '|' = c := by simpa using pipe
      exact absurd special (by decide)
    exact .of_notMem fun _ => other
  · exact escapeFrom_guards ..

/-- Pipes that the code does not have a backslash before get one. -/
theorem guardPipes_guarded (afterBackslash : Bool) (front cs : List Char) (h : Guarded front)
    (slash : afterBackslash = true → front.getLast? = some '\\') :
    Guarded (front ++ guardPipes afterBackslash cs) := by
  induction cs generalizing afterBackslash front with
  | nil => simpa [guardPipes] using h
  | cons c rest ih =>
    rw [guardPipes]
    split
    · have guard : Guarded (front ++ ['\\']) := h.concat (by simp)
      have pipe : Guarded (front ++ ['\\'] ++ ['|']) := guard.concat fun _ => by simp
      have more := ih false _ pipe (by simp)
      simpa using more
    · rename_i other
      have here : Guarded (front ++ [c]) := h.concat fun pipe => slash (by simpa [pipe] using other)
      have more := ih (c == '\\') _ here (by simp)
      simpa using more

theorem unguardPipes_guardPipes (afterBackslash : Bool) {cs : List Char}
    (h : ¬ ['\\', '|'] <:+: cs) : unguardPipes (guardPipes afterBackslash cs) = cs := by
  induction cs generalizing afterBackslash with
  | nil => rfl
  | cons c rest ih =>
    have later : ¬ ['\\', '|'] <:+: rest := fun inside => h (List.infix_cons inside)
    rw [guardPipes]
    split
    · rename_i pipe
      have : c = '|' := by simp_all
      rw [unguardPipes, ih false later, this]
    · have apart : c ≠ '\\' ∨ (guardPipes (c == '\\') rest).head? ≠ some '|' := by
        by_cases slash : c = '\\'
        · subst slash
          right
          cases rest with
          | nil => simp [guardPipes]
          | cons d rest =>
            have other : d ≠ '|' := by
              rintro rfl
              exact h ⟨[], rest, rfl⟩
            simp [guardPipes, other]
        · exact .inl slash
      rw [unguardPipes_cons apart, ih _ later]

theorem guardPipes_getLast? (afterBackslash : Bool) (cs : List Char) :
    (guardPipes afterBackslash cs).getLast? = cs.getLast? := by
  induction cs generalizing afterBackslash with
  | nil => rfl
  | cons c rest ih =>
    rw [guardPipes]
    split
    · rename_i pipe
      have : c = '|' := by simp_all
      rw [List.getLast?_cons_cons, List.getLast?_cons, List.getLast?_cons, ih, this]
    · rw [List.getLast?_cons, List.getLast?_cons, ih]

/-- Neither the spaces put around code nor those in place of its line ends come to stand between a
backslash and a pipe. -/
theorem infix_codeSpan {code : List Char} (h : ['\\', '|'] <:+: (codeSpan ['\x60'] code).content) :
    ['\\', '|'] <:+: code := by
  have line : ['\\', '|'] <:+: code.map fun c => if c == '\n' then ' ' else c := by
    unfold codeSpan at h
    dsimp only at h
    split at h
    · obtain last | h := List.infix_concat_iff.mp h
      · obtain ⟨front, whole⟩ := last
        have ends := congrArg List.getLast? whole
        rw [List.getLast?_concat, List.getLast?_append_of_ne_nil _ (by simp)] at ends
        simp at ends
      · obtain first | h := List.infix_cons_iff.mp h
        · simp at first
        · exact h
    · exact h
  obtain ⟨before, after, cut⟩ := line
  obtain ⟨front, back, rfl, hf, -⟩ := List.map_eq_append_iff.mp cut.symm
  obtain ⟨before', pair, rfl, -, hp⟩ := List.map_eq_append_iff.mp hf
  obtain ⟨c, one, rfl, hc, ho⟩ := List.map_eq_cons_iff.mp hp
  obtain ⟨d, none_, rfl, hd, hn⟩ := List.map_eq_cons_iff.mp ho
  have same {c d : Char} (h : (if c == '\n' then ' ' else c) = d) (ink : d ≠ ' ') : c = d := by
    split at h
    · exact absurd h.symm ink
    · exact h
  rw [same hc (by decide), same hd (by decide), List.map_eq_nil_iff.mp hn]
  exact ⟨before', back, rfl⟩

theorem codeText_guards (content : String) (h : fresh → ¬ ['\\', '|'] <:+: content.toList) :
    Guards covered fresh (Render.codeText true content) (Render.codeText false content) := by
  have fence : '|' ∉ (codeSpan ['\x60'] content.toList).fence := by simp [codeSpan]
  have inside : Guards covered fresh (guardPipes false (codeSpan ['\x60'] content.toList).content)
      (codeSpan ['\x60'] content.toList).content := by
    refine ⟨(guardPipes_getLast? _ _).symm, fun _ => ?_, fun _ f => ?_⟩
    · exact guardPipes_guarded false [] _ (guarded_of_notMem (by simp)) (by simp)
    · exact unguardPipes_guardPipes false fun inside => h f (infix_codeSpan inside)
  exact ((Guards.of_notMem fun _ => fence).append inside).append (.of_notMem fun _ => fence)

/-- An exclamation mark that is escaped comes last on both sides. -/
theorem guardBang_guards {a a' : List Char} (h : Guards covered fresh a a') (next : Option Node) :
    Guards covered fresh (Render.guardBang a next) (Render.guardBang a' next) := by
  unfold Render.guardBang
  rw [h.last]
  split
  · rename_i bang
    have last : a.getLast? = some '!' := by simp_all
    obtain ⟨front, rfl⟩ := List.getLast?_eq_some_iff.mp last
    obtain ⟨front', rfl⟩ := List.getLast?_eq_some_iff.mp (h.last.trans last)
    rw [List.dropLast_concat, List.dropLast_concat]
    refine ⟨by simp, fun c => ?_, fun c f => ?_⟩
    · exact (h.guarded c).of_append.append (guarded_of_notMem (by decide))
    · have undone := h.undone c f
      rw [unguardPipes_append _ (by simp)] at undone ⊢
      rw [List.append_cancel_right undone]
      rfl
  · exact h

theorem guards_pairing (covered fresh : Prop) : Pairing true false (Guards covered fresh) where
  nil := .of_notMem fun _ => by simp
  append := .append
  last h := h.last
  delimiter {c} h := by
    refine .of_notMem fun _ pipe => ?_
    obtain rfl : '|' = c := by simpa using pipe
    exact absurd h (by decide)
  text _ _ _ next _ := guardBang_guards (escape_guards ..) next

end Markup

namespace Node

/-- The inline nodes that do not break lines. -/
def isUnbroken : Node → Bool
  | text _ | code _ | emphasis _ | strong _ | strikethrough _ | link .. | image .. => true
  | autolink .. | htmlInline _ => true
  | _ => false

/-- Whether a pipe of a node goes out as it is: in a destination or a title, in an address, in raw
HTML. -/
def baresPipe : Node → Bool
  | link url _ title | image url _ title =>
    (url.getD "").toList.contains '|' || (title.getD "").toList.contains '|'
  | autolink _ label => label.toList.contains '|'
  | htmlInline content => content.toList.contains '|'
  | _ => false

/-- Whether a node is code with a pipe that a backslash stands before already. -/
def holdsGuard : Node → Bool
  | code content => decide (['\\', '|'] <:+: content.toList)
  | _ => false

theorem pairs_guards {n : Node} {covered fresh : Prop} (unbroken : n.isUnbroken = true)
    (bares : covered → n.baresPipe = false) (holds : fresh → n.holdsGuard = false) :
    n.Pairs true false (Markup.Guards covered fresh) := by
  cases n with
  | text | emphasis | strong | strikethrough => trivial
  | code content =>
    exact Markup.codeText_guards content fun f => by simpa [holdsGuard] using holds f
  | link url _ title | image url _ title =>
    refine .of_notMem fun c => ?_
    have free : '|' ∉ (url.getD "").toList ∧ '|' ∉ (title.getD "").toList := by
      simpa [baresPipe] using bares c
    exact Markup.linkTail_notMem (by decide) free.1 free.2
  | autolink _ label =>
    refine .of_notMem fun c => ?_
    simpa [baresPipe] using bares c
  | htmlInline content =>
    refine .of_notMem fun c => ?_
    simpa [baresPipe] using bares c
  | _ => simp [isUnbroken] at unbroken

theorem allPairs_guards {content : List Node} {covered fresh : Prop}
    (unbroken : everyOf isUnbroken content = true)
    (bares : covered → everyOf (!·.baresPipe) content = true)
    (holds : fresh → everyOf (!·.holdsGuard) content = true) :
    ∀ c ∈ content, c.AllPairs true false (Markup.Guards covered fresh) := by
  intro c hc m inside
  have within {p : Node → Bool} (h : everyOf p content = true) : p m = true :=
    every_within (everyOf_mem h hc) inside
  refine pairs_guards (within unbroken) (fun h => ?_) fun h => ?_
  · simpa using within (bares h)
  · simpa using within (holds h)

end Node

/-- **Pipes of text and code are guarded.** Inline content without breaks prints in a table cell and
elsewhere. If nothing that goes out as it is holds a pipe, every pipe of the cell has a backslash
directly before it; and if no code has such a backslash of its own, the cell without these
backslashes is the content as it is printed elsewhere. -/
theorem RendererSettings.renderInlines_guards_pipes (settings : RendererSettings)
    (content : List Node) (unbroken : Node.everyOf Node.isUnbroken content = true) :
    ∃ cell plain, (settings.renderInlines { inTableCell := some true } content).1 = .ok cell ∧
      (settings.renderInlines {} content).1 = .ok plain ∧
      (Node.everyOf (!·.baresPipe) content = true → Markup.Guarded cell.toList) ∧
      (Node.everyOf (!·.baresPipe) content = true → Node.everyOf (!·.holdsGuard) content = true →
        Markup.unguardPipes cell.toList = plain.toList) := by
  obtain ⟨cell, plain, run, run', guards⟩ := settings.renderInlines_paired
    (Markup.guards_pairing _ _) (Node.allPairs_guards unbroken id id)
    { inTableCell := some true } {} rfl rfl rfl
  exact ⟨cell, plain, run, run', guards.guarded, guards.undone⟩

theorem RendererSettings.renderInlines_guards_pipes_nested :
    let content : List Node := [.text "a|b", .emphasis [.code "c||d", .text "|!"],
      .link (some "u") [.image (some "v w") [.strikethrough [.text "e|"]] none] (some "t"),
      .autolink "x:y" "x:y", .htmlInline "<br>"]
    ∃ cell plain, (({} : RendererSettings).renderInlines { inTableCell := some true } content).1 =
        .ok cell ∧
      (({} : RendererSettings).renderInlines {} content).1 = .ok plain ∧
      Markup.Guarded cell.toList ∧ Markup.unguardPipes cell.toList = plain.toList := by
  intro content
  obtain ⟨cell, plain, run, run', guarded, undone⟩ :=
    renderInlines_guards_pipes {} content (by decide)
  exact ⟨cell, plain, run, run', guarded (by decide), undone (by decide) (by decide)⟩

/-- A title keeps its pipes in a cell, and code keeps the backslash before one: neither is what was
to be read. -/
theorem RendererSettings.renderInlines_bares_pipes :
    (∃ cell, (({} : RendererSettings).renderInlines { inTableCell := some true }
        [.link (some "u") [.text "x"] (some "a|b")]).1 = .ok cell ∧ ¬ Markup.Guarded cell.toList) ∧
    ∃ cell plain, (({} : RendererSettings).renderInlines { inTableCell := some true }
        [.code "\\|"]).1 = .ok cell ∧
      (({} : RendererSettings).renderInlines {} [.code "\\|"]).1 = .ok plain ∧
      Markup.unguardPipes cell.toList ≠ plain.toList := by
  constructor
  · refine ⟨"[x](u \"a|b\")", by decide, fun guarded => ?_⟩
    have before := guarded "[x](u \"a".toList "b\")".toList (by decide)
    simp at before
  · exact ⟨"\x60\\|\x60", "\x60\\|\x60", by decide, by decide, by decide⟩

end MarkdownCanon
