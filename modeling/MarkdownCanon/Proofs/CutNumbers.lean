import MarkdownCanon.Proofs.BlockOpeners

/-! A number at the start of a line whose text comes in pieces. Digits go out as they are, and each
piece is told what plain text stands before it, so that a dot behind them is always escaped. Whether
the line was just begun is forgotten after the first piece, so that a parenthesis is escaped only
where it comes with the whole number or is a piece by itself. -/

namespace MarkdownCanon

namespace Markup

/-- Digits are passed over, and count as plain text. -/
theorem escapeFrom_digits (place : Place) {run : List Char} (numeral : ∀ c ∈ run, c.isDigit = true)
    (seen tail rest : List Char) :
    escapeFrom place seen tail (run ++ rest) =
      (run ++ (escapeFrom place (run.reverse ++ seen) (run.reverse ++ tail) rest).1,
        (escapeFrom place (run.reverse ++ seen) (run.reverse ++ tail) rest).2) := by
  induction run generalizing seen tail with
  | nil => rfl
  | cons c run ih =>
    have digit := numeral c List.mem_cons_self
    rw [List.cons_append, escapeFrom, mustEscape_digit digit, extendTail_digit digit,
      ih fun c m => numeral c (List.mem_cons_of_mem _ m)]
    simp

theorem isLone_digits {run : List Char} (numeral : ∀ c ∈ run, c.isDigit = true) :
    isLone run = false := by
  have table : aloneEscaped.all (!·.isDigit) = true := by decide
  by_contra alone
  obtain ⟨c, rfl, special⟩ := isLone_iff.mp (by simpa using alone)
  have other := List.all_eq_true.mp table c (List.contains_iff_mem.mp special)
  simp [numeral c List.mem_cons_self] at other

/-- A piece of digits, and the plain text behind it. -/
theorem escape_digits (place : Place) {run : List Char} (numeral : ∀ c ∈ run, c.isDigit = true)
    (tail : List Char) : escape place tail run = (run, tail ++ run) := by
  have passed := escapeFrom_digits place numeral [] tail.reverse []
  rw [List.append_nil, List.append_nil] at passed
  have plain : escape place tail run = ((escapeFrom place [] tail.reverse run).1,
      (escapeFrom place [] tail.reverse run).2.reverse) := by
    have other := isLone_digits numeral
    match run with
    | [] => rfl
    | [c] =>
      rw [isLone] at other
      rw [escape, other]
      rfl
    | _ :: _ :: _ => rfl
  rw [plain, passed]
  simp [escapeFrom]

/-- The mark behind a number is escaped if it is a dot, if the number was all in this piece and the
piece began the line, or if the mark is the whole piece. -/
theorem escape_marked (place : Place) {tail run : List Char} {mark : Char}
    (numeral : isNumeral (tail ++ run) = true) (marks : mark = '.' ∨ mark = ')')
    (start : place.atLineStart = tail.isEmpty) (rest : List Char) :
    ∃ more, (escape place tail (run ++ mark :: rest)).1 =
      run ++ (if mark = '.' ∨ tail = [] ∨ (run = [] ∧ rest = []) then ['\\', mark] else [mark]) ++
        more := by
  obtain ⟨some_, digits⟩ := isNumeral_iff.mp numeral
  have inside : ∀ c ∈ run, c.isDigit = true := fun c m => digits c (by simp [m])
  have before : isNumeral (run.reverse ++ tail.reverse) = true := by
    rw [← List.reverse_append, isNumeral_iff]
    exact ⟨fun none_ => some_ (List.reverse_eq_nil_iff.mp none_),
      fun c m => digits c (List.mem_reverse.mp m)⟩
  rw [escape_text]
  by_cases alone : isLone (run ++ mark :: rest) = true
  · obtain ⟨c, whole, special⟩ := isLone_iff.mp alone
    obtain ⟨rfl, rfl⟩ : run = [] ∧ rest = [] := by
      have length := congrArg List.length whole
      simp only [List.length_append, List.length_cons, List.length_nil] at length
      constructor <;> apply List.length_eq_zero_iff.mp <;> omega
    rw [if_pos alone, if_pos (by simp)]
    exact ⟨[], rfl⟩
  · rw [if_neg alone, escapeFrom_digits place inside, escapeFrom]
    refine ⟨(escapeFrom place (mark :: (run.reverse ++ []))
      (extendTail (run.reverse ++ tail.reverse) mark) rest).1, ?_⟩
    suffices same : mustEscape place (run.reverse ++ []) (run.reverse ++ tail.reverse) mark rest =
        true ↔ mark = '.' ∨ tail = [] ∨ (run = [] ∧ rest = []) by
      simp only [same, List.append_assoc]
    obtain rfl | rfl := marks
    · simp [mustEscape_dot, before]
    · have notAlone : ¬ (run = [] ∧ rest = []) := by
        rintro ⟨rfl, rfl⟩
        exact alone (by decide)
      rw [mustEscape_paren, start, List.append_nil]
      constructor
      · intro must
        rw [Bool.and_eq_true, List.isEmpty_iff] at must
        exact .inr (.inl must.1)
      · rintro (dot | rfl | whole)
        · cases dot
        · rw [List.reverse_nil, List.append_nil] at before
          simp [before]
        · exact absurd whole notAlone

/-- How digits and the mark behind them have to be cut for the mark to be escaped. The line is
`fresh` if nothing stands before the digits. -/
def GuardsMark (fresh : Prop) (digits : List Char) (mark : Char) (pieces : List (List Char)) :
    Prop :=
  mark = '.' ∨ (fresh ∧ ∃ first ∈ pieces.head?, digits ++ [mark] <+: first) ∨
    ∃ before after, pieces = before ++ [mark] :: after ∧ before.flatten = digits

theorem guardsMark_later {fresh : Prop} {piece digits : List Char} (some_ : piece ≠ [])
    {mark : Char} {pieces : List (List Char)} :
    GuardsMark fresh (piece ++ digits) mark (piece :: pieces) ↔
      GuardsMark False digits mark pieces := by
  have short : ¬ piece ++ (digits ++ [mark]) <+: piece := by
    intro front
    have length := front.length_le
    simp only [List.length_append, List.length_cons, List.length_nil] at length
    omega
  have rest : (∃ before after, piece :: pieces = before ++ [mark] :: after ∧
      before.flatten = piece ++ digits) ↔
      ∃ before after, pieces = before ++ [mark] :: after ∧ before.flatten = digits := by
    constructor
    · rintro ⟨before, after, whole, joined⟩
      cases before with
      | nil => exact absurd (List.append_eq_nil_iff.mp joined.symm).1 some_
      | cons first before =>
        obtain ⟨rfl, rfl⟩ := List.cons.inj whole
        exact ⟨before, after, rfl, List.append_cancel_left joined⟩
    · rintro ⟨before, after, rfl, rfl⟩
      exact ⟨piece :: before, after, rfl, rfl⟩
  unfold GuardsMark
  rw [rest]
  simp [short]

theorem guardsMark_here {fresh : Prop} {digits rest : List Char} {mark : Char}
    {pieces : List (List Char)} :
    GuardsMark fresh digits mark ((digits ++ mark :: rest) :: pieces) ↔
      mark = '.' ∨ fresh ∨ (digits = [] ∧ rest = []) := by
  have front : digits ++ [mark] <+: digits ++ mark :: rest := ⟨rest, by simp⟩
  have alone : (∃ before after, (digits ++ mark :: rest) :: pieces = before ++ [mark] :: after ∧
      before.flatten = digits) ↔ digits = [] ∧ rest = [] := by
    constructor
    · rintro ⟨before, after, whole, joined⟩
      cases before with
      | nil =>
        obtain rfl : [] = digits := joined
        exact ⟨rfl, (List.cons.inj (List.cons.inj whole).1).2⟩
      | cons first before =>
        obtain ⟨rfl, -⟩ := List.cons.inj whole
        have length := congrArg List.length joined
        simp only [List.flatten_cons, List.length_append, List.length_cons] at length
        omega
    · rintro ⟨rfl, rfl⟩
      exact ⟨[], pieces, rfl, rfl⟩
  unfold GuardsMark
  rw [alone]
  simp [front]

end Markup

/-- A state in which a line has been begun with digits only. -/
structure RenderState.Counts (s : RenderState) (digits : List Char) : Prop where
  bare : s.writer.indentation = {}
  clear : s.writer.pending = []
  out : s.writer.out.toList = digits
  tail : s.normalTail = digits
  start : s.atLineStart = digits.isEmpty

namespace Render

variable {settings : RendererSettings} {s : RenderState} {digits : List Char}

/-- A text that does not begin with spacing keeps its first characters. -/
theorem spacedText_solid {front : List Char} (some_ : front ≠ [])
    (solid : ∀ c ∈ front, Text.isSpacing c = false) (rest : List Char) (w : Writer) :
    spacedText (String.ofList (front ++ rest)) w =
      front ++ Text.collapseRuns Text.isSpacing ' ' false rest := by
  have kept : Text.collapse (front ++ rest) =
      front ++ Text.collapseRuns Text.isSpacing ' ' false rest := by
    clear some_
    rw [Text.collapse]
    induction front with
    | nil => rfl
    | cons c front ih =>
      rw [List.cons_append, Text.collapseRuns, if_neg (by simp [solid c List.mem_cons_self]),
        ih fun c m => solid c (List.mem_cons_of_mem _ m)]
      rfl
  obtain ⟨c, front, rfl⟩ := List.exists_cons_of_ne_nil some_
  unfold spacedText
  rw [String.toList_ofList, kept]
  split
  · rename_i same
    obtain ⟨rfl, -⟩ := List.cons.inj same
    cases solid ' ' List.mem_cons_self
  · rfl

theorem isBlank_of_isDigit {c : Char} (digit : c.isDigit = true) : Text.isBlank c = false := by
  have zero : '0'.val.toNat = 48 := rfl
  have nine : '9'.val.toNat = 57 := rfl
  simp only [Char.isDigit, Bool.and_eq_true, decide_eq_true_eq, UInt32.le_iff_toNat_le] at digit
  simp only [Text.isBlank, Char.toNat, Bool.or_eq_false_iff, Bool.and_eq_false_iff,
    decide_eq_false_iff_not, beq_eq_false_iff_ne]
  omega

theorem isSpacing_of_isDigit {c : Char} (digit : c.isDigit = true) : Text.isSpacing c = false := by
  by_contra spacing
  have blank := Text.isBlank_of_isSpacing (by simpa using spacing)
  rw [isBlank_of_isDigit digit] at blank
  cases blank

theorem literalText_unlinked {next : Option Node} (noLink : next.any Node.isLink = false)
    (place : Markup.Place) (tail cs : List Char) :
    literalText place tail cs next = (Markup.escape place tail cs).1 := by
  simp [literalText, guardBang, noLink]

/-- More digits. -/
theorem text_counts (h : s.Counts digits) {run : List Char} (some_ : run ≠ [])
    (numeral : ∀ c ∈ run, c.isDigit = true) (noLink : s.nextInline.any Node.isLink = false) :
    ∃ t, text (String.ofList run) s = .ok () t ∧ t.Counts (digits ++ run) := by
  have cs : spacedText (String.ofList run) s.writer = run := by
    have whole := spacedText_solid some_ (fun c m => isSpacing_of_isDigit (numeral c m)) []
      s.writer
    simpa [Text.collapseRuns] using whole
  rw [text_run, cs, if_neg (by simpa using some_)]
  dsimp only
  rw [literalText_unlinked noLink, h.tail, Markup.escape_digits _ numeral]
  refine ⟨_, rfl, ?_, Writer.write_pending _ some_, ?_, rfl, ?_⟩
  · rw [Writer.write_indentation, h.bare]
  · rw [(Writer.write_bare h.bare some_).1, h.clear, h.out, List.nil_append]
  · simp [some_]

/-- The mark behind the digits, with or without a backslash. -/
theorem text_marked (h : s.Counts digits) {run : List Char} {mark : Char}
    (numeral : Markup.isNumeral (digits ++ run) = true) (marks : mark = '.' ∨ mark = ')')
    (noLink : s.nextInline.any Node.isLink = false) (rest : List Char) :
    ∃ t, text (String.ofList (run ++ mark :: rest)) s = .ok () t ∧
      digits ++ run ++ (if mark = '.' ∨ digits = [] ∨ (run = [] ∧ rest = []) then ['\\', mark]
        else [mark]) <+: t.writer.out.toList := by
  obtain ⟨-, all⟩ := Markup.isNumeral_iff.mp numeral
  have solid : ∀ c ∈ run ++ [mark], Text.isSpacing c = false := by
    intro c m
    obtain m | m := List.mem_append.mp m
    · exact isSpacing_of_isDigit (all c (List.mem_append_right _ m))
    · rw [List.mem_singleton.mp m]
      obtain rfl | rfl := marks <;> rfl
  have cs := spacedText_solid (by simp) solid rest s.writer
  rw [List.append_assoc, List.append_assoc, List.singleton_append, List.singleton_append] at cs
  have ends : Text.collapseRuns Text.isSpacing ' ' false rest = [] ↔ rest = [] := by
    cases rest with
    | nil => simp [Text.collapseRuns]
    | cons c rest =>
      rw [Text.collapseRuns]
      cases Text.isSpacing c <;> simp
  rw [← h.tail] at numeral
  obtain ⟨more, written⟩ := Markup.escape_marked
    { atLineStart := s.atLineStart, inTable := s.inTableCell } numeral marks
    (by rw [h.start, h.tail]) (Text.collapseRuns Text.isSpacing ' ' false rest)
  rw [text_run, cs, if_neg (by simp)]
  dsimp only
  rw [literalText_unlinked noLink, written]
  refine ⟨_, rfl, more, ?_⟩
  rw [(Writer.write_bare h.bare (by split <;> simp)).1, h.clear, h.out, h.tail]
  simp only [ends, List.nil_append, List.append_assoc]

/-- The nodes of a text that comes in pieces. -/
def textsOf (pieces : List (List Char)) : List Node :=
  pieces.map fun piece => .text (String.ofList piece)

theorem allLeaves_textsOf (pieces : List (List Char)) :
    Node.allLeaves (textsOf pieces) = pieces.flatten := by
  induction pieces with
  | nil => rfl
  | cons piece pieces ih =>
    rw [textsOf, List.map_cons, Node.allLeaves, Node.leaves, ← textsOf, ih, String.toList_ofList,
      List.flatten_cons]

/-- Pieces that begin with a number are not blank. -/
theorem textsOf_visible {pieces : List (List Char)} {rest : List Char}
    (numeral : Markup.isNumeral digits = true) (cut : pieces.flatten = digits ++ rest) :
    Node.allBlankInline (textsOf pieces) = false := by
  obtain ⟨some_, all⟩ := Markup.isNumeral_iff.mp numeral
  obtain ⟨c, digits, rfl⟩ := List.exists_cons_of_ne_nil some_
  by_contra blank
  have none_ := Node.ink_of_blankInlines _ (by simpa using blank)
  rw [allLeaves_textsOf, cut, Text.ink_eq_nil_iff] at none_
  have white := none_ c (by simp)
  rw [isBlank_of_isDigit (all c List.mem_cons_self)] at white
  cases white

theorem textsOf_noLink (pieces : List (List Char)) :
    (nextLiteral (textsOf pieces)).any Node.isLink = false := by
  refine nextLiteral_noLink fun n m => ?_
  obtain ⟨piece, -, rfl⟩ := List.mem_map.mp m
  rfl

theorem paragraphInlines_piece (piece : List Char) (pieces : List (List Char)) (s : RenderState) :
    paragraphInlines settings (textsOf (piece :: pieces)) s =
      (do text (String.ofList piece); paragraphInlines settings (textsOf pieces))
        { s with nextInline := nextLiteral (textsOf pieces) } := by
  rw [textsOf, List.map_cons, paragraphInlines_cons (by simp [Node.isLineBreak]), node, textsOf]

/-- Texts are printed, whatever they are, and take nothing back. -/
theorem paragraphInlines_grow (settings : RendererSettings) (pieces : List (List Char))
    (s : RenderState) :
    ∃ t, paragraphInlines settings (textsOf pieces) s = .ok () t ∧
      s.writer.out.toList <+: t.writer.out.toList := by
  induction pieces generalizing s with
  | nil => exact ⟨s, rfl, List.prefix_rfl⟩
  | cons piece pieces ih =>
    obtain ⟨t, run, grown⟩ : ∃ t, text (String.ofList piece)
        { s with nextInline := nextLiteral (textsOf pieces) } = .ok () t ∧
          s.writer.out.toList <+: t.writer.out.toList := by
      rw [text_run]
      split
      · exact ⟨_, rfl, List.prefix_rfl⟩
      · exact ⟨_, rfl, Writer.write_out _ _⟩
    obtain ⟨u, run', grown'⟩ := ih t
    rw [paragraphInlines_piece, bind_of_ok run]
    exact ⟨u, run', grown.trans grown'⟩

/-- A number is printed piece by piece up to its mark. -/
theorem paragraphInlines_number (settings : RendererSettings) {left rest : List Char} {mark : Char}
    (marks : mark = '.' ∨ mark = ')') {pieces : List (List Char)}
    (shown : ∀ piece ∈ pieces, piece ≠ []) (cut : pieces.flatten = left ++ mark :: rest)
    (h : s.Counts digits) (numeral : Markup.isNumeral (digits ++ left) = true) :
    ∃ t, paragraphInlines settings (textsOf pieces) s = .ok () t ∧
      (Markup.GuardsMark (digits = []) left mark pieces →
        digits ++ left ++ ['\\', mark] <+: t.writer.out.toList) ∧
      (¬ Markup.GuardsMark (digits = []) left mark pieces →
        digits ++ left ++ [mark] <+: t.writer.out.toList) := by
  -- By the pieces: each is all digits, or holds the mark, behind which nothing matters any more.
  induction pieces generalizing s digits left with
  | nil => simp at cut
  | cons piece pieces ih =>
    have some_ := shown piece List.mem_cons_self
    have turned : RenderState.Counts { s with nextInline := nextLiteral (textsOf pieces) } digits :=
      ⟨h.bare, h.clear, h.out, h.tail, h.start⟩
    have noLink := textsOf_noLink pieces
    rw [paragraphInlines_piece]
    rw [List.flatten_cons] at cut
    have ends : (∃ more, left = piece ++ more ∧ pieces.flatten = more ++ mark :: rest) ∨
        ∃ more, piece = left ++ mark :: more := by
      obtain ⟨more, whole, later⟩ | ⟨more, whole, here⟩ := List.append_eq_append_iff.mp cut
      · exact .inl ⟨more, whole, later⟩
      · cases more with
        | nil => exact .inl ⟨[], by simp [whole], here.symm⟩
        | cons c more =>
          rw [List.cons_append] at here
          obtain ⟨rfl, -⟩ := List.cons.inj here
          exact .inr ⟨more, whole⟩
    obtain ⟨more, rfl, later⟩ | ⟨more, rfl⟩ := ends
    · have inside : ∀ c ∈ piece, c.isDigit = true :=
        fun c m => (Markup.isNumeral_iff.mp numeral).2 c (by simp [m])
      rw [← List.append_assoc] at numeral
      obtain ⟨t, run, counts⟩ := text_counts turned some_ inside noLink
      obtain ⟨u, run', guarded, bare⟩ :=
        ih (fun piece m => shown piece (List.mem_cons_of_mem _ m)) later counts numeral
      have begun : (digits ++ piece = []) = False := by simp [some_]
      rw [begun] at guarded bare
      rw [bind_of_ok run, Markup.guardsMark_later some_, ← List.append_assoc]
      exact ⟨u, run', guarded, bare⟩
    · obtain ⟨t, run, printed⟩ := text_marked turned numeral marks noLink more
      obtain ⟨u, run', grown⟩ := paragraphInlines_grow settings pieces t
      rw [bind_of_ok run, Markup.guardsMark_here]
      refine ⟨u, run', fun guarded => ?_, fun bare => ?_⟩
      · rw [if_pos guarded] at printed
        exact printed.trans grown
      · rw [if_neg bare] at printed
        exact printed.trans grown

end Render

/-- **A number at the start of a line.** A text that begins with digits and a dot or a closing
parenthesis is a paragraph by itself, in any number of pieces. It is printed with a backslash before
that mark, so that no item of a list is read there, if the mark is a dot, or the first piece holds
the digits and the mark, or the mark is a piece of its own. In all other cases there is no
backslash. -/
theorem RendererSettings.render_cut_number (settings : RendererSettings)
    {digits rest : List Char} {mark : Char} {pieces : List (List Char)}
    (numeral : Markup.isNumeral digits = true) (marks : mark = '.' ∨ mark = ')')
    (shown : ∀ piece ∈ pieces, piece ≠ []) (cut : pieces.flatten = digits ++ mark :: rest) :
    let guarded := mark = '.' ∨ (∃ first ∈ pieces.head?, digits ++ [mark] <+: first) ∨
      ∃ before after, pieces = before ++ [mark] :: after ∧ before.flatten = digits
    ∃ out, (settings.render (.document [.paragraph
        (pieces.map fun piece => .text (String.ofList piece))])).1 = .ok out ∧
      (guarded → digits ++ ['\\', mark] <+: out.toList ∧
        Markup.isNumberMarker out.toList = false) ∧
      (¬ guarded → digits ++ [mark] <+: out.toList) := by
  intro guarded
  have same : Markup.GuardsMark (([] : List Char) = []) digits mark pieces ↔ guarded := by
    simp [Markup.GuardsMark, guarded]
  have counts : RenderState.Counts { ({} : RenderState) with atLineStart := true } [] :=
    ⟨rfl, rfl, rfl, rfl, rfl⟩
  obtain ⟨t, run, escaped, plain⟩ := Render.paragraphInlines_number settings marks shown cut
    counts numeral
  rw [← Render.allBlocks_paragraph (Render.textsOf_visible numeral cut)] at run
  rw [List.nil_append, same] at escaped plain
  have grown : t.writer.out.toList <+: (t.writer.write ['\n']).out.toList :=
    Writer.write_out _ _
  have number : digits <+: t.writer.out.toList := by
    by_cases h : guarded
    · exact (List.prefix_append digits _).trans (escaped h)
    · exact (List.prefix_append digits _).trans (plain h)
  obtain ⟨some_, all⟩ := Markup.isNumeral_iff.mp numeral
  have ink : ¬ (t.writer.write ['\n']).out.toList.all Text.isNewline = true := by
    intro newlines
    obtain ⟨c, m⟩ := List.exists_mem_of_ne_nil digits some_
    have newline := List.all_eq_true.mp newlines c ((number.trans grown).subset m)
    rw [eq_of_beq newline] at m
    cases all _ m
  have printed := render_of_ok run
  rw [if_neg ink] at printed
  refine ⟨_, printed, fun h => ?_, fun h => (plain h).trans grown⟩
  · have front := (escaped h).trans grown
    refine ⟨front, ?_⟩
    obtain ⟨more, whole⟩ := front
    rw [← whole, List.append_assoc, Markup.isNumberMarker_append numeral (by simp)]
    rfl

/-- A dot, and a parenthesis cut off on both sides; but not one that is cut off in front only. -/
theorem RendererSettings.render_cut_number_pieces :
    (∃ out, (({} : RendererSettings).render (.document [.paragraph
        [.text "1", .text "2", .text ". a"]])).1 = .ok out ∧ "12\\.".toList <+: out.toList) ∧
    (∃ out, (({} : RendererSettings).render (.document [.paragraph
        [.text "1", .text "2", .text ")", .text " a"]])).1 = .ok out ∧
      "12\\)".toList <+: out.toList) ∧
    ∃ out, (({} : RendererSettings).render (.document [.paragraph
        [.text "1", .text "2) a"]])).1 = .ok out ∧ "12)".toList <+: out.toList := by
  have numeral : Markup.isNumeral "12".toList = true := by decide
  refine ⟨?_, ?_, ?_⟩
  · have cut : ["1".toList, "2".toList, ". a".toList].flatten =
        "12".toList ++ '.' :: " a".toList := rfl
    obtain ⟨out, printed, escaped, -⟩ :=
      render_cut_number {} numeral (.inl rfl) (by decide) cut
    exact ⟨out, printed, (escaped (.inl rfl)).1⟩
  · have cut : ["1".toList, "2".toList, ")".toList, " a".toList].flatten =
        "12".toList ++ ')' :: " a".toList := rfl
    obtain ⟨out, printed, escaped, -⟩ :=
      render_cut_number {} numeral (.inr rfl) (by decide) cut
    exact ⟨out, printed, (escaped (.inr (.inr ⟨["1".toList, "2".toList], _, rfl, rfl⟩))).1⟩
  · have cut : ["1".toList, "2) a".toList].flatten = "12".toList ++ ')' :: " a".toList := rfl
    obtain ⟨out, printed, -, plain⟩ :=
      render_cut_number {} numeral (.inr rfl) (by decide) cut
    refine ⟨out, printed, plain ?_⟩
    rintro (dot | ⟨first, m, front⟩ | ⟨before, after, whole, joined⟩)
    · cases dot
    · obtain rfl : "1".toList = first := by simpa using m
      exact absurd front (by decide)
    · match before with
      | [] => cases joined
      | [_] => simp at whole
      | _ :: _ :: _ => simp at whole

/-- A parenthesis that is cut off from its number goes out as it is, and the line is read as an item
of a list. -/
theorem RendererSettings.render_cut_number_bare :
    (["1".toList, ") x".toList].flatten = "1".toList ++ ')' :: " x".toList) ∧
    (({} : RendererSettings).render (.document [.paragraph [.text "1", .text ") x"]])).1 =
      .ok "1) x\n" ∧
    Markup.isNumberMarker "1) x\n".toList = true := by
  decide

end MarkdownCanon
