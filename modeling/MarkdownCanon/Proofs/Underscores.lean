import MarkdownCanon.Proofs.LiteralText
import MarkdownCanon.Proofs.PrintedTree

/-! Underscores beside words. A delimiter is chosen before its span is printed, from the last
character written and from the kind of the next node. Where every node has something to print, this
comes to the same as choosing it from the characters that end up beside it. -/

namespace MarkdownCanon

namespace Text

theorem isAlphanumeric_of_isBlank {c : Char} (blank : isBlank c = true) :
    isAlphanumeric c = false := by
  let ranges : List (Nat × Nat) := [(0x09, 5), (0x1C, 5), (0x85, 1), (0xA0, 1), (0x1680, 1),
    (0x2000, 11), (0x2028, 2), (0x202F, 1), (0x205F, 1), (0x3000, 1)]
  have table : ∀ r ∈ ranges, ∀ k < r.2, isAlphanumeric (Char.ofNat (r.1 + k)) = false := by
    decide +kernel
  have range : ∃ r ∈ ranges, r.1 ≤ c.toNat ∧ c.toNat < r.1 + r.2 := by
    simp only [isBlank, Bool.or_eq_true, Bool.and_eq_true, decide_eq_true_eq, beq_iff_eq] at blank
    simp only [ranges, List.exists_mem_cons_iff]
    omega
  obtain ⟨r, m, low, high⟩ := range
  have entry := table r m (c.toNat - r.1) (by omega)
  rwa [Nat.add_sub_cancel' low, Char.ofNat_toNat] at entry

theorem isAlphanumeric_of_isPunctuation {c : Char} (h : Markup.isPunctuation c = true) :
    isAlphanumeric c = false := by
  have table : ∀ n < 0x80, Markup.isPunctuation (Char.ofNat n) = true →
      isAlphanumeric (Char.ofNat n) = false := by decide
  have ascii : c.toNat < 0x80 := by
    simp only [Markup.isPunctuation, Bool.or_eq_true, Bool.and_eq_true, decide_eq_true_eq] at h
    omega
  have entry := table c.toNat ascii
  rw [Char.ofNat_toNat] at entry
  exact entry h

/-- Whether a letter or digit stands at the start of a text. -/
def startsWord (cs : List Char) : Bool := cs.head?.any isAlphanumeric

/-- Whether a letter or digit stands at the end of a text. -/
def endsWord (cs : List Char) : Bool := cs.getLast?.any isAlphanumeric

theorem startsWord_append {a b : List Char} (some_ : a ≠ []) :
    startsWord (a ++ b) = startsWord a := by
  rw [startsWord, List.head?_append_of_ne_nil _ some_, startsWord]

theorem startsWord_of_delimiters {a b : List Char} (some_ : a ≠ [])
    (delimiters : ∀ c ∈ a, Markup.isDelimiter c = true) : startsWord (a ++ b) = false := by
  cases a with
  | nil => exact absurd rfl some_
  | cons c a => exact Render.isAlphanumeric_of_isDelimiter (delimiters c List.mem_cons_self)

theorem endsWord_append {a b : List Char} (delimiters : ∀ c ∈ b, Markup.isDelimiter c = true)
    (h : endsWord a = false) : endsWord (a ++ b) = false := by
  cases last : b.getLast? with
  | none => simpa [List.getLast?_eq_none_iff.mp last] using h
  | some c =>
    rw [endsWord, List.getLast?_append, last]
    exact Render.isAlphanumeric_of_isDelimiter (delimiters c (List.mem_of_getLast? last))

theorem collapse_ne_nil {cs : List Char} (some_ : cs ≠ []) : collapse cs ≠ [] := by
  cases cs with
  | nil => exact absurd rfl some_
  | cons c cs =>
    rw [collapse, collapseRuns]
    split <;> simp

end Text

open Text (startsWord endsWord)

theorem Markup.Escaped.startsWord_eq {out text : List Char} (h : Markup.Escaped out text) :
    startsWord out = startsWord text := by
  cases h with
  | nil => rfl
  | plain => rfl
  | guarded punctuation => exact (Text.isAlphanumeric_of_isPunctuation punctuation).symm

/-- A delimiter with stars in place of its underscores. -/
def Markup.starred (token : List Char) : List Char :=
  token.map fun c => if c == '_' then '*' else c

theorem Markup.underscore_notMem_starred (token : List Char) : '_' ∉ starred token := by
  intro m
  obtain ⟨c, -, same⟩ := List.mem_map.mp m
  split at same
  · cases same
  · simp_all

theorem Render.delimiterFor_eq_starred (token written : List Char) (next : Option Node) :
    delimiterFor token written.getLast? next =
      if endsWord written || next.any Node.startsAlphanumeric then Markup.starred token
      else token := rfl

theorem Render.startsWord_literalText (place : Markup.Place) (tail cs : List Char)
    (next : Option Node) : startsWord (literalText place tail cs next) = startsWord cs := by
  rw [← (Markup.escape_escaped place tail cs).startsWord_eq]
  obtain same | ⟨front, escaped, guarded⟩ := literalText_cases place tail cs next
  · rw [same]
  · rw [escaped, guarded]
    cases front <;> rfl

/-- Text keeps its first space behind a character that is none. -/
theorem Render.spacedText_of_solid (content : String) {w : Writer} (space : w.last ≠ some ' ')
    (line : w.last ≠ some '\n') : spacedText content w = Text.collapse content.toList := by
  unfold spacedText
  split
  · rename_i rest cleaned
    rw [if_neg (by simp [space, line]), cleaned]
  · rfl

namespace Node

/-- An inline node with something to print: nothing of it is empty, and raw HTML is a tag. -/
def isFilled : Node → Bool
  | text content | code content | autolink _ content => !content.isEmpty
  | htmlInline content => content.toList.head? == some '<'
  | emphasis content | strong content | strikethrough content => !content.isEmpty
  | link .. | image .. | lineBreak _ => true
  | _ => false

theorem isSolid_of_isFilled (n : Node) (filled : n.isFilled = true) : n.isSolid = true := by
  cases n with
  | htmlInline content =>
    rw [isSolid]
    by_contra empty
    obtain rfl : content = "" := by simpa using empty
    cases filled
  | _ => first | rfl | cases filled

theorem children_ne_nil_of_isFilled {n : Node} (filled : n.isFilled = true)
    (span : n.isSpan = true) : n.children ≠ [] := by
  cases n with
  | emphasis _ | strong _ | strikethrough _ => simpa [isFilled, children] using filled
  | _ => cases span

theorem startsAlphanumeric_of_isBlankInline {n : Node} (blank : n.isBlankInline = true) :
    n.startsAlphanumeric = false := by
  cases n with
  | text content =>
    rw [startsAlphanumeric]
    rw [isBlankInline] at blank
    have none_ := Text.ink_trim (fun _ blank => blank) (Text.collapse content.toList)
    rw [List.isEmpty_iff.mp blank] at none_
    cases cleaned : Text.collapse content.toList with
    | nil => rfl
    | cons c rest =>
      rw [cleaned] at none_
      have blank : Text.isBlank c = true := by
        simpa using List.filter_eq_nil_iff.mp none_.symm c List.mem_cons_self
      exact Text.isAlphanumeric_of_isBlank blank
  | _ => rfl

end Node

namespace Printed

variable {settings : RendererSettings} {cell heading : Bool} {spot : Spot} {next : Option Node}

/-- Where no space and no line end stands before it, a node that has something to print and is no
span does print something, and it starts a word just if it is taken to. -/
theorem Brings.startsWord_opening {n : Node} {opening closing : List Char}
    (brings : Brings settings cell heading spot next n opening closing)
    (filled : n.isFilled = true) (other : n.isSpan = false)
    (space : spot.written.getLast? ≠ some ' ') (line : spot.written.getLast? ≠ some '\n') :
    opening ≠ [] ∧ startsWord opening = n.startsAlphanumeric := by
  cases n with
  | text content =>
    obtain ⟨-, start, tail, rfl⟩ := brings
    have some_ : content.toList ≠ [] := by simpa [Node.isFilled] using filled
    rw [Render.spacedText_of_solid content space line, Render.startsWord_literalText]
    refine ⟨fun none_ => ?_, rfl⟩
    exact Text.collapse_ne_nil some_ (Render.literalText_eq_nil.mp none_)
  | code content =>
    obtain ⟨-, rfl⟩ := brings
    have some_ : content.isEmpty = false := by simpa [Node.isFilled] using filled
    have head := Render.codeText_head? cell content
    rw [some_, if_neg (by simp), startsWord, head]
    exact ⟨List.ne_nil_of_mem (List.mem_of_head? head), rfl⟩
  | autolink url label =>
    obtain ⟨-, rfl⟩ := brings
    exact ⟨by simp, rfl⟩
  | htmlInline content =>
    obtain ⟨-, rfl⟩ := brings
    have head : content.toList.head? = some '<' := by simpa [Node.isFilled] using filled
    rw [startsWord, head]
    exact ⟨List.ne_nil_of_mem (List.mem_of_head? head), rfl⟩
  | lineBreak soft =>
    obtain ⟨-, rfl⟩ := brings
    unfold Render.breakText
    rw [if_neg (c := (_ == _) = true) (by simpa using space)]
    split
    · exact ⟨by simp, rfl⟩
    · split <;> exact ⟨by simp, rfl⟩
  | link url content title =>
    obtain ⟨rfl, -⟩ := brings
    exact ⟨by simp, rfl⟩
  | image url content title =>
    obtain ⟨rfl, -⟩ := brings
    exact ⟨by simp, rfl⟩
  | emphasis _ | strong _ | strikethrough _ => cases other
  | _ => cases filled

theorem startsWord_text : (p : Printed) → {spot : Spot} → {next : Option Node} →
    Faithful settings cell heading spot next p → p.node.every Node.isFilled = true →
    spot.written.getLast? ≠ some ' ' → spot.written.getLast? ≠ some '\n' →
    p.text ≠ [] ∧ startsWord p.text = p.node.startsAlphanumeric
  | mk n opening inside closing, spot, next, ⟨brings, nodes, faithful⟩, filled, space, line => by
    have filled' : n.isFilled = true := Node.every_self filled
    rw [Printed.text]
    cases span : n.isSpan with
    | false =>
      obtain ⟨some_, word⟩ := brings.startsWord_opening filled' span space line
      exact ⟨by simp [some_], (Text.startsWord_append some_).trans word⟩
    | true =>
      cases visible : n.isBlankInline with
      | false =>
        obtain ⟨-, -, some_, delimiters⟩ := brings.span_delimiters span visible
        refine ⟨by simp [some_], ?_⟩
        exact (Text.startsWord_of_delimiters some_ delimiters).trans
          (Node.startsAlphanumeric_of_isSpan span).symm
      | true =>
        -- A blank span has no delimiters, so that its first child is what stands first.
        obtain ⟨rfl, rfl⟩ := (brings_span span).mp brings
        rw [visible, if_pos rfl] at faithful ⊢
        have childBlank := (Render.node_span settings span).2.symm.trans visible
        have some_ := Node.children_ne_nil_of_isFilled filled' span
        rw [← nodes] at childBlank some_
        have inner := Node.everyOf_children span filled
        rw [← nodes] at inner
        cases inside with
        | nil => exact absurd rfl some_
        | cons q rest =>
          rw [List.map_cons, Node.everyOf, Bool.and_eq_true] at inner
          rw [List.map_cons, Node.allBlankInline, Bool.and_eq_true] at childBlank
          obtain ⟨shown, word⟩ := startsWord_text q faithful.1 inner.1 space line
          rw [List.nil_append, List.append_nil, textOf]
          refine ⟨by simp [shown], ?_⟩
          rw [Text.startsWord_append shown, word,
            Node.startsAlphanumeric_of_isBlankInline childBlank.1]
          exact (Node.startsAlphanumeric_of_isSpan span).symm

/-- No word stands behind the children of a node, unless they are blank. -/
theorem Brings.startsWord_closing {n : Node} {opening closing : List Char}
    (brings : Brings settings cell heading spot next n opening closing)
    (filled : n.isFilled = true) (visible : Node.allBlankInline n.children = false)
    (back : List Char) : startsWord (closing ++ back) = false := by
  cases span : n.isSpan with
  | true =>
    rw [← (Render.node_span settings span).2] at visible
    obtain ⟨-, rfl, some_, delimiters⟩ := brings.span_delimiters span visible
    exact Text.startsWord_of_delimiters some_ delimiters
  | false =>
    cases n with
    | link _ _ _ | image _ _ _ =>
      obtain ⟨-, rfl⟩ := brings
      rfl
    | emphasis _ | strong _ | strikethrough _ => cases span
    | _ => first | cases visible | cases filled

/-- A span and what stands beside it: it has its delimiter on both sides, which holds an underscore
only if no word is next to it, and in which stars stand for underscores if one is. -/
structure KeepsOffWords (settings : RendererSettings) (front : List Char) (p : Printed)
    (back : List Char) : Prop where
  closing : p.closing = p.opening
  token : p.opening = p.node.token settings ∨ p.opening = Markup.starred (p.node.token settings)
  apart : '_' ∈ p.opening → endsWord front = false ∧ startsWord back = false
  starred : endsWord front = true ∨ startsWord back = true →
    p.opening = Markup.starred (p.node.token settings)

/-- A delimiter that is chosen by the text written before its span and by the text that comes to
stand behind it. -/
theorem Brings.keepsOffWords {n : Node} {opening closing : List Char} {inside : List Printed}
    (brings : Brings settings cell heading spot next n opening closing)
    (span : n.isSpan = true) (visible : n.isBlankInline = false)
    (staged : ∀ c ∈ spot.staged, Markup.isDelimiter c = true) {back : List Char}
    (ahead : startsWord back = next.any Node.startsAlphanumeric) :
    KeepsOffWords settings spot.front (mk n opening inside closing) back := by
  obtain ⟨chosen, alike, -, -⟩ := brings.span_delimiters span visible
  have before : endsWord spot.written = false → endsWord spot.front = false :=
    Text.endsWord_append staged
  rw [Render.delimiterFor_eq_starred, ← ahead] at chosen
  cases word : endsWord spot.written || startsWord back with
  | true =>
    have chosen : opening = Markup.starred (n.token settings) := by
      rw [chosen, if_pos word]
    refine ⟨alike, .inr chosen, fun m => ?_, fun _ => chosen⟩
    rw [Printed.opening, chosen] at m
    exact absurd m (Markup.underscore_notMem_starred _)
  | false =>
    have chosen : opening = n.token settings := by
      rw [chosen, if_neg (by simp [word])]
    rw [Bool.or_eq_false_iff] at word
    refine ⟨alike, .inl chosen, fun _ => ⟨before word.1, word.2⟩, ?_⟩
    rintro (touches | touches)
    · rw [before word.1] at touches
      cases touches
    · rw [word.2] at touches
      cases touches

/-- Behind a visible span, what comes next is printed as it was foreseen. -/
theorem foreseen {p : Printed} {rest : List Printed} {back : List Char}
    (faithful : FaithfulAll settings cell heading spot (p :: rest))
    (filled : Node.everyOf Node.isFilled (rest.map node) = true)
    (span : p.node.isSpan = true) (visible : p.node.isBlankInline = false)
    (end_ : startsWord back = false) :
    startsWord (textOf rest ++ back) =
      (rest.head?.map node).any Node.startsAlphanumeric := by
  cases rest with
  | nil => exact end_
  | cons q rest =>
    obtain ⟨n, opening, inside, closing⟩ := p
    obtain ⟨-, alike, some_, delimiters⟩ := faithful.1.1.span_delimiters span visible
    have shown : (mk n opening inside closing).text ≠ [] := by simp [Printed.text, some_]
    have last : (spot.past (mk n opening inside closing).text).written.getLast? =
        opening.getLast? := by
      rw [spot.written_past shown, Printed.text, alike, ← List.append_assoc]
      exact List.getLast?_append_of_ne_nil _ some_
    have solid : ∀ c, Markup.isDelimiter c = false → opening.getLast? ≠ some c := by
      intro c other same
      rw [delimiters c (List.mem_of_getLast? same)] at other
      cases other
    rw [List.map_cons, Node.everyOf, Bool.and_eq_true] at filled
    obtain ⟨shown', word⟩ := startsWord_text q faithful.2.1 filled.1
      (last ▸ solid ' ' rfl) (last ▸ solid '\n' rfl)
    rw [textOf, List.append_assoc, Text.startsWord_append shown', word]
    rfl

mutual

theorem keepsOffWords : (p : Printed) → {spot : Spot} → {next : Option Node} → {back : List Char} →
    Faithful settings cell heading spot next p → p.node.every Node.isFilled = true →
    (∀ c ∈ spot.staged, Markup.isDelimiter c = true) →
    (p.node.isSpan = true → p.node.isBlankInline = false →
      startsWord back = next.any Node.startsAlphanumeric) →
    Everywhere (fun front p back => p.node.isSpan = true → p.node.isBlankInline = false →
      KeepsOffWords settings front p back) spot.front p back
  | mk n opening inside closing, spot, next, back, ⟨brings, nodes, faithful⟩, filled, staged,
      ahead => by
    have filled' : n.isFilled = true := Node.every_self filled
    refine ⟨fun span visible => brings.keepsOffWords span visible staged (ahead span visible), ?_⟩
    -- The last child has nothing to look ahead to, and finds what closes its parent behind it. Only
    -- a blank parent has nothing to close, but then none of its children has a delimiter either.
    rw [← Spot.front_opened]
    cases empty : inside with
    | nil => trivial
    | cons q rest =>
      rw [← empty]
      have encloses := Node.encloses_of_isSolid (Node.isSolid_of_isFilled n filled')
        (by simp [← nodes, empty])
      refine allKeepOffWords inside faithful (nodes ▸ Node.everyOf_below filled) ?_ ?_
      · intro c m
        exact (List.mem_append.mp m).elim (staged c) (brings.delimiters encloses c)
      · intro visible
        rw [nodes] at visible
        exact brings.startsWord_closing filled' visible back

theorem allKeepOffWords : (pieces : List Printed) → {spot : Spot} → {back : List Char} →
    FaithfulAll settings cell heading spot pieces →
    Node.everyOf Node.isFilled (pieces.map node) = true →
    (∀ c ∈ spot.staged, Markup.isDelimiter c = true) →
    (Node.allBlankInline (pieces.map node) = false → startsWord back = false) →
    EverywhereOf (fun front p back => p.node.isSpan = true → p.node.isBlankInline = false →
      KeepsOffWords settings front p back) spot.front pieces back
  | [], _, _, _, _, _, _ => trivial
  | p :: rest, spot, back, faithful, filled, staged, end_ => by
    rw [List.map_cons, Node.everyOf, Bool.and_eq_true] at filled
    rw [List.map_cons, Node.allBlankInline] at end_
    refine ⟨keepsOffWords p faithful.1 filled.1 staged fun span visible => ?_, ?_⟩
    · exact foreseen faithful filled.2 span visible (end_ (by simp [visible]))
    · rw [← Spot.front_past]
      refine allKeepOffWords rest faithful.2 filled.2 ?_ fun visible => end_ (by simp [visible])
      exact fun c m => staged c (spot.staged_past _ m)

end

end Printed

/-- **Underscores keep off words.** Inline content in which every node has something to print is
printed, whatever the settings. Each span of it that is not blank has one delimiter on both sides.
If there is an underscore in it, then neither the character before the opening delimiter nor the one
behind the closing delimiter is a letter or digit; and if one of them is, stars take the place of
the underscores. -/
theorem RendererSettings.renderInlines_keeps_off_words (settings : RendererSettings)
    (flags : ScratchFlags) {content : List Node}
    (filled : Node.everyOf Node.isFilled content = true) :
    ∃ out pieces, (settings.renderInlines flags content).1 = .ok out ∧
      out.toList = Printed.textOf pieces ∧ pieces.map Printed.node = content ∧
      Printed.FaithfulAll settings (flags.inTableCell.getD false) (flags.inHeading.getD false)
        ⟨[], []⟩ pieces ∧
      Printed.EverywhereOf (fun front p back => out.toList = front ++ (p.text ++ back) ∧
        (p.node.isSpan = true → p.node.isBlankInline = false →
          Printed.KeepsOffWords settings front p back)) [] pieces [] := by
  obtain ⟨out, pieces, run, text, rfl, faithful⟩ := settings.renderInlines_printed flags
    (Node.everyOf_mono Node.isSolid_of_isFilled content filled)
  refine ⟨out, pieces, run, text, rfl, faithful, ?_⟩
  have whole : out.toList = [] ++ (Printed.textOf pieces ++ []) := by simpa using text
  have places := Printed.everywhereOf_text pieces whole
  refine places.join (fun _ _ _ place keeps => ⟨place, keeps⟩) ?_
  exact Printed.allKeepOffWords pieces faithful filled (by simp) fun _ => rfl

/-- Emphasis within a word, by itself and at the start of a word. -/
theorem RendererSettings.renderInlines_keeps_off_words_nested :
    let settings : RendererSettings := { emphasis := .underscore }
    let content : List Node := [.text "a", .strong [.emphasis [.text "b"], .text " c"], .text " ",
      .emphasis [.text "d"], .lineBreak true, .emphasis [.text "e"], .text "f"]
    ∃ out pieces, (settings.renderInlines {} content).1 = .ok out ∧
      out = "a***b* c** _d_ *e*f" ∧ out.toList = Printed.textOf pieces ∧
      pieces.map Printed.node = content ∧
      Printed.EverywhereOf (fun front p back => out.toList = front ++ (p.text ++ back) ∧
        (p.node.isSpan = true → p.node.isBlankInline = false →
          Printed.KeepsOffWords settings front p back)) [] pieces [] := by
  intro settings content
  have filled : Node.everyOf Node.isFilled content = true := by decide
  have printed : (settings.renderInlines {} content).1 = .ok "a***b* c** _d_ *e*f" := by
    decide +kernel
  obtain ⟨out, pieces, run, text, nodes, -, everywhere⟩ :=
    settings.renderInlines_keeps_off_words {} filled
  exact ⟨out, pieces, run, Except.ok.inj (run.symm.trans printed), text, nodes, everywhere⟩

end MarkdownCanon
