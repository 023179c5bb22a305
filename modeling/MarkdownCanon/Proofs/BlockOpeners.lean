import Mathlib.Data.List.Chain
import MarkdownCanon.Proofs.LiteralText

/-! Lines that would be read as the beginning of a block, and why plain text has none of them. What
decides is the first character of a line; only a number has to be followed up to where it ends. -/

namespace MarkdownCanon

/-- A run of members of `p` ends where something else stands. -/
theorem Text.takeWhile_run {p : Char → Bool} {run rest : List Char}
    (inside : ∀ c ∈ run, p c = true) (beyond : ∀ c, rest.head? = some c → p c = false) :
    (run ++ rest).takeWhile p = run := by
  have none_ : rest.takeWhile p = [] := by
    cases rest with
    | nil => rfl
    | cons c rest => simp [beyond c rfl]
  rw [List.takeWhile_append_of_pos inside, none_, List.append_nil]

/-- What stands first stays there, unless it goes itself. -/
theorem Text.trimEnd_cons {p : Char → Bool} {c : Char} (kept : p c = false) (cs : List Char) :
    ∃ rest, trimEnd p (c :: cs) = c :: rest := by
  obtain ⟨cut, whole, spaces⟩ := trimEnd_eq_append p (c :: cs)
  cases shown : trimEnd p (c :: cs) with
  | nil =>
    rw [shown, List.nil_append] at whole
    have gone := spaces c (whole ▸ List.mem_cons_self)
    rw [kept] at gone
    cases gone
  | cons d rest =>
    rw [shown, List.cons_append] at whole
    rw [(List.cons.inj whole).1]
    exact ⟨rest, rfl⟩

namespace Markup

/-- A line without the spaces, up to three, that a block may be indented by. -/
def unindented (line : List Char) : List Char :=
  line.drop (min 3 (line.takeWhile Text.isSpace).length)

/-- A marker has to be followed by a space, or by nothing. -/
def endsMarker (rest : List Char) : Bool := rest.head?.all Text.isSpace

/-- The start of a quote or of raw HTML. -/
def isQuoteOrTag (body : List Char) : Bool := body.head?.any isAngle

def isHeadingMarker (body : List Char) : Bool :=
  let marks := body.takeWhile (· == '#')
  1 ≤ marks.length && marks.length ≤ 6 && endsMarker (body.drop marks.length)

def isBulletMarker : List Char → Bool
  | c :: rest => (c == '-' || c == '+' || c == '*') && endsMarker rest
  | [] => false

def isNumberMarker (body : List Char) : Bool :=
  let digits := body.takeWhile Char.isDigit
  !digits.isEmpty &&
    match body.drop digits.length with
    | c :: rest => (c == '.' || c == ')') && endsMarker rest
    | [] => false

def isFenceMarker (body : List Char) : Bool :=
  "\x60~".toList.any fun mark => (List.replicate 3 mark).isPrefixOf body

/-- A line of one character only, which makes a heading of the text above it. -/
def isUnderline (body : List Char) : Bool :=
  "=-".toList.any fun mark => !body.isEmpty && body.all (· == mark)

/-- A line across the page, with or without spaces between its characters. -/
def isRule (body : List Char) : Bool :=
  "-_*".toList.any fun mark => 3 ≤ body.count mark && body.all fun c => c == mark || c == ' '

/-- Whether a line is read as the beginning of a block other than a paragraph, or as the end of a
heading. -/
def opensBlock (line : List Char) : Bool :=
  let body := unindented line
  isQuoteOrTag body || isHeadingMarker body || isBulletMarker body || isNumberMarker body ||
    isFenceMarker body || isUnderline body || isRule body

example : ["> a", "   <b>", "###### a", "#", "- a", "+", "12) a", "\x60\x60\x60a", "==", " --",
    "* * *"].all (opensBlock ·.toList) = true := by decide

example : ["", "a > b", "    > a", "####### a", "#a", "-a", "12)a", "\x60\x60a", "= =", "_ _ -",
    "\\> a", "12\\) a"].any (opensBlock ·.toList) = false := by decide

/-- Characters that a line must not begin with, as far as those alone decide. -/
def openers : List Char := [' ', '<', '>', '#', '-', '+', '*', '\x60', '~', '=', '_']

/-- A line that has begun in such a way that nothing behind makes it open a block. -/
inductive Inert : List Char → Prop where
  | word {c : Char} (plain : c ∉ openers) (other : c.isDigit = false) (rest : List Char) :
      Inert (c :: rest)
  | number {digits : List Char} {c : Char} (numeral : isNumeral digits = true)
      (beyond : c.isDigit = false) (unmarked : c ≠ '.' ∧ c ≠ ')') (rest : List Char) :
      Inert (digits ++ c :: rest)

theorem Inert.append {line : List Char} (h : Inert line) (more : List Char) :
    Inert (line ++ more) := by
  cases h with
  | word plain other rest => exact .word plain other (rest ++ more)
  | number numeral beyond unmarked rest =>
    rw [List.append_assoc]
    exact .number numeral beyond unmarked (rest ++ more)

theorem isNumeral_iff {cs : List Char} :
    isNumeral cs = true ↔ cs ≠ [] ∧ ∀ c ∈ cs, c.isDigit = true := by
  simp [isNumeral]

theorem not_mem_openers_of_isDigit {c : Char} (digit : c.isDigit = true) : c ∉ openers := by
  have table : openers.all (!·.isDigit) = true := by decide
  intro m
  simpa [digit] using List.all_eq_true.mp table c m

/-- Only as a number can a line that begins with none of the `openers` open a block. -/
theorem opensBlock_cons {c : Char} (plain : c ∉ openers) (rest : List Char) :
    opensBlock (c :: rest) = isNumberMarker (c :: rest) := by
  have other (d : Char) (m : d ∈ openers) : (c == d) = false := by
    rw [beq_eq_false_iff_ne]
    rintro rfl
    exact plain m
  have body : unindented (c :: rest) = c :: rest := by
    simp [unindented, Text.isSpace, other ' ' (by decide)]
  have quote : isQuoteOrTag (c :: rest) = false := by
    simp [isQuoteOrTag, isAngle, other '<' (by decide), other '>' (by decide)]
  have heading : isHeadingMarker (c :: rest) = false := by
    simp [isHeadingMarker, other '#' (by decide)]
  have bullet : isBulletMarker (c :: rest) = false := by
    simp [isBulletMarker, other '-' (by decide), other '+' (by decide), other '*' (by decide)]
  have fence : isFenceMarker (c :: rest) = false := by
    simp [isFenceMarker, List.replicate_succ, List.isPrefixOf, Bool.beq_comm,
      other '\x60' (by decide), other '~' (by decide)]
  have underline : isUnderline (c :: rest) = false := by
    simp [isUnderline, other '=' (by decide), other '-' (by decide)]
  have rule : isRule (c :: rest) = false := by
    simp [isRule, other ' ' (by decide), other '-' (by decide), other '_' (by decide),
      other '*' (by decide)]
  simp [opensBlock, body, quote, heading, bullet, fence, underline, rule]

theorem isNumberMarker_append {digits : List Char} (numeral : isNumeral digits = true)
    {rest : List Char} (beyond : ∀ c, rest.head? = some c → c.isDigit = false) :
    isNumberMarker (digits ++ rest) = match rest with
      | c :: rest => (c == '.' || c == ')') && endsMarker rest
      | [] => false := by
  obtain ⟨some_, all⟩ := isNumeral_iff.mp numeral
  have shown : digits.isEmpty = false := by simpa using some_
  rw [isNumberMarker, Text.takeWhile_run all beyond, List.drop_left, shown]
  cases rest <;> simp

theorem Inert.opensBlock {line : List Char} (h : Inert line) : opensBlock line = false := by
  cases h with
  | word plain other rest =>
    rw [opensBlock_cons plain]
    simp [isNumberMarker, other]
  | number numeral beyond unmarked rest =>
    rename_i digits c
    obtain ⟨some_, all⟩ := isNumeral_iff.mp numeral
    obtain ⟨d, digits, rfl⟩ := List.exists_cons_of_ne_nil some_
    have first := not_mem_openers_of_isDigit (all d List.mem_cons_self)
    rw [List.cons_append, opensBlock_cons first, ← List.cons_append,
      isNumberMarker_append numeral (by simp [beyond])]
    simp [unmarked.1, unmarked.2]

theorem opensBlock_numeral {line : List Char} (numeral : isNumeral line = true) :
    opensBlock line = false := by
  obtain ⟨some_, all⟩ := isNumeral_iff.mp numeral
  obtain ⟨d, digits, rfl⟩ := List.exists_cons_of_ne_nil some_
  have first := not_mem_openers_of_isDigit (all d List.mem_cons_self)
  have alone : isNumberMarker (d :: digits ++ []) = false :=
    isNumberMarker_append numeral (by simp)
  rw [List.append_nil] at alone
  rw [opensBlock_cons first, alone]

theorem mustEscape_digit {c : Char} (digit : c.isDigit = true) (place : Place)
    (seen tail rest : List Char) : mustEscape place seen tail c rest = false := by
  by_contra must
  have punctuation := mustEscape_punctuation (by simpa using must)
  simp only [Char.isDigit, isPunctuation, Bool.and_eq_true, Bool.or_eq_true, decide_eq_true_eq,
    UInt32.le_iff_toNat_le, Char.toNat] at digit punctuation
  have zero : '0'.val.toNat = 48 := rfl
  have nine : '9'.val.toNat = 57 := rfl
  omega

theorem extendTail_digit {c : Char} (digit : c.isDigit = true) (tail : List Char) :
    extendTail tail c = c :: tail := by
  have table : special.all (!·.isDigit) = true := by decide
  rw [extendTail, if_neg]
  intro m
  simpa [digit] using List.all_eq_true.mp table c (List.contains_iff_mem.mp m)

theorem mustEscape_dot (place : Place) (seen tail rest : List Char) :
    mustEscape place seen tail '.' rest = isNumeral tail := rfl

theorem mustEscape_paren (place : Place) (seen tail rest : List Char) :
    mustEscape place seen tail ')' rest = (place.atLineStart && isNumeral seen) := rfl

/-- What stands behind a number at the start of a line does not make it an item. -/
theorem escapeFrom_number {place : Place} (start : place.atLineStart = true) {seen : List Char}
    (numeral : isNumeral seen = true) (text : List Char) :
    Inert (seen.reverse ++ (escapeFrom place seen seen text).1) ∨
      isNumeral (seen.reverse ++ (escapeFrom place seen seen text).1) = true := by
  induction text generalizing seen with
  | nil =>
    right
    simpa [isNumeral, escapeFrom] using numeral
  | cons c rest ih =>
    have backwards : isNumeral seen.reverse = true := by simpa [isNumeral] using numeral
    rw [escapeFrom]
    by_cases digit : c.isDigit = true
    · have longer : isNumeral (c :: seen) = true := by
        simpa [isNumeral, digit] using (isNumeral_iff.mp numeral).2
      have more := ih longer
      rw [List.reverse_cons, List.append_assoc] at more
      rw [mustEscape_digit digit, extendTail_digit digit]
      exact more
    · left
      have beyond : c.isDigit = false := by simpa using digit
      by_cases must : mustEscape place seen seen c rest = true
      · rw [if_pos must]
        exact .number backwards (by decide) (by decide) _
      · rw [if_neg must]
        refine .number backwards beyond ⟨?_, ?_⟩ _
        · rintro rfl
          rw [mustEscape_dot] at must
          exact must numeral
        · rintro rfl
          rw [mustEscape_paren, start] at must
          exact must numeral

theorem mustEscape_opener (inTable : Bool) {c : Char} (m : c ∈ openers) (other : c ≠ ' ')
    (rest : List Char) : mustEscape ⟨true, inTable⟩ [] [] c rest = true := by
  simp only [openers, List.mem_cons, List.not_mem_nil, or_false] at m
  obtain rfl | rfl | rfl | rfl | rfl | rfl | rfl | rfl | rfl | rfl | rfl := m
  · exact absurd rfl other
  all_goals rfl

/-- **A line of literal text is begun safely.** Whatever the text, what its first line begins with
does not open a block, and nothing behind it changes that, unless it is a number so far. -/
theorem escape_begins {place : Place} (start : place.atLineStart = true) {c : Char}
    (other : c ≠ ' ') (rest : List Char) :
    Inert (escape place [] (c :: rest)).1 ∨ isNumeral (escape place [] (c :: rest)).1 = true := by
  have backslash (more : List Char) : Inert ('\\' :: more) := .word (by decide) (by decide) more
  rw [escape_text, List.reverse_nil]
  split
  · exact .inl (backslash _)
  · rw [escapeFrom]
    by_cases digit : c.isDigit = true
    · have number : isNumeral [c] = true := by simp [isNumeral, digit]
      have more := escapeFrom_number start number rest
      rw [mustEscape_digit digit, extendTail_digit digit]
      exact more
    · left
      by_cases must : mustEscape place [] [] c rest = true
      · rw [if_pos must]
        exact backslash _
      · rw [if_neg must]
        refine .word (fun m => must ?_) (by simpa using digit) _
        obtain ⟨atLineStart, inTable⟩ := place
        obtain rfl : atLineStart = true := start
        exact mustEscape_opener inTable m other rest

end Markup

/-- A state of printing plain text. No line that has ended opens a block, and neither does `last`,
the line that the output stops in, whatever follows, unless it is empty or a number so far. -/
structure RenderState.Quiet (s : RenderState) (last : List Char) : Prop where
  bare : s.writer.indentation = {}
  clear : s.writer.pending = []
  tip : s.writer.last = s.writer.out.toList.getLast?
  outside : s.inTableCell = false
  below : s.inHeading = false
  lines : ∃ lines, s.writer.out.toList = Text.page lines last ∧
    ∀ line ∈ lines, '\n' ∉ line ∧ Markup.opensBlock line = false
  line : '\n' ∉ last
  begun : (last = [] ∧ s.atLineStart = true ∧ s.normalTail = []) ∨ Markup.Inert last ∨
    Markup.isNumeral last = true

namespace RenderState.Quiet

variable {s t : RenderState} {last : List Char}

theorem closed (h : s.Quiet last) : Markup.opensBlock last = false := by
  obtain ⟨rfl, -, -⟩ | inert | numeral := h.begun
  · rfl
  · exact inert.opensBlock
  · exact Markup.opensBlock_numeral numeral

/-- An empty line has just been started. -/
theorem atStart (h : s.Quiet []) : s.atLineStart = true ∧ s.normalTail = [] := by
  obtain ⟨-, start⟩ | inert | numeral := h.begun
  · exact start
  · have shown := inert.append []
    generalize nothing : [] ++ [] = line at shown
    cases shown <;> simp at nothing
  · cases numeral

/-- The line goes on. -/
theorem write (h : s.Quiet last) {written : List Char} (shown : written ≠ [])
    (line : '\n' ∉ written) (writer : t.writer = s.writer.write written)
    (outside : t.inTableCell = s.inTableCell) (below : t.inHeading = s.inHeading)
    (begun : Markup.Inert (last ++ written) ∨ Markup.isNumeral (last ++ written) = true) :
    t.Quiet (last ++ written) := by
  obtain ⟨out, tip⟩ := Writer.write_bare h.bare shown
  rw [← writer] at out tip
  rw [h.clear, List.nil_append] at out
  obtain ⟨lines, page, quiet⟩ := h.lines
  refine ⟨?_, ?_, ?_, outside.trans h.outside, below.trans h.below, ⟨lines, ?_, quiet⟩, ?_,
    .inr begun⟩
  · rw [writer, Writer.write_indentation, h.bare]
  · rw [writer, Writer.write_pending _ shown]
  · rw [tip, out, List.getLast?_append_of_ne_nil _ shown]
  · rw [out, page, Text.page_append]
  · simp [h.line, line]

/-- The line ends, and another one starts. -/
theorem wrap (h : s.Quiet last) (writer : t.writer = s.writer.write ['\n'])
    (outside : t.inTableCell = s.inTableCell) (below : t.inHeading = s.inHeading)
    (start : t.atLineStart = true) (tail : t.normalTail = []) :
    t.Quiet [] ∧ t.writer.last = some '\n' := by
  obtain ⟨out, tip⟩ := Writer.write_bare h.bare (List.cons_ne_nil '\n' [])
  rw [← writer] at out tip
  rw [h.clear, List.nil_append] at out
  obtain ⟨lines, page, quiet⟩ := h.lines
  refine ⟨⟨?_, ?_, ?_, outside.trans h.outside, below.trans h.below, ⟨lines ++ [last], ?_, ?_⟩,
    by simp, .inl ⟨rfl, start, tail⟩⟩, tip⟩
  · rw [writer, Writer.write_indentation, h.bare]
  · rw [writer, Writer.write_pending _ (by simp)]
  · rw [tip, out]
    simp
  · rw [out, page, Text.page_append, Text.page_newline]
  · intro line m
    obtain m | m := List.mem_append.mp m
    · exact quiet line m
    · obtain rfl := List.mem_singleton.mp m
      exact ⟨h.line, h.closed⟩

/-- The last character of a line that has been begun is that of the output. -/
theorem last_eq (h : s.Quiet last) (shown : last ≠ []) : s.writer.last = last.getLast? := by
  obtain ⟨lines, page, -⟩ := h.lines
  rw [h.tip, page, Text.page, List.getLast?_append_of_ne_nil _ shown]

end RenderState.Quiet

theorem Text.collapseRuns_head (cs : List Char) :
    (collapseRuns isSpacing ' ' true cs).head? ≠ some ' ' := by
  induction cs with
  | nil => simp [collapseRuns]
  | cons c cs ih =>
    rw [collapseRuns]
    by_cases spacing : isSpacing c = true
    · simpa [spacing] using ih
    · rw [if_neg spacing, List.head?_cons]
      intro same
      cases same
      exact spacing rfl

namespace Render

open Text (collapseRuns isSpacing)

variable {settings : RendererSettings} {s : RenderState} {last : List Char}

theorem text_quiet (content : String) (h : s.Quiet last) (open_ : last = [] ∨ Markup.Inert last)
    (head : last = [] → (spacedText content s.writer).head? ≠ some ' ')
    (noLink : s.nextInline.any Node.isLink = false) :
    ∃ t last', text content s = .ok () t ∧ t.Quiet last' ∧
      (spacedText content s.writer = [] ∧ t = s ∧ last' = last ∨ last' ≠ []) := by
  rw [text_run]
  by_cases empty : spacedText content s.writer = []
  · rw [if_pos (by simp [empty])]
    exact ⟨s, last, rfl, h, .inl ⟨empty, rfl, rfl⟩⟩
  · rw [if_neg (by simpa using empty)]
    have same (place : Markup.Place) (tail cs : List Char) :
        literalText place tail cs s.nextInline = (Markup.escape place tail cs).1 := by
      simp [literalText, guardBang, noLink]
    have escaped := Markup.escape_escaped
      { atLineStart := s.atLineStart, inTable := s.inTableCell } s.normalTail
      (spacedText content s.writer)
    have shown := mt escaped.eq_nil.mp empty
    have line : '\n' ∉ (Markup.escape
        { atLineStart := s.atLineStart, inTable := s.inTableCell } s.normalTail
        (spacedText content s.writer)).1 :=
      fun m => (Markup.mem_escape m).elim (by decide) (spacedText_line content s.writer)
    dsimp only
    rw [same]
    refine ⟨_, last ++ _, rfl, h.write shown line rfl rfl rfl ?_,
      .inr fun none_ => shown (List.append_eq_nil_iff.mp none_).2⟩
    obtain rfl | inert := open_
    · obtain ⟨c, rest, cs⟩ := List.exists_cons_of_ne_nil empty
      obtain ⟨start, tail⟩ := h.atStart
      have other : c ≠ ' ' := by
        have first := head rfl
        rw [cs, List.head?_cons] at first
        exact fun space => first (congrArg some space)
      rw [List.nil_append, cs, tail]
      exact Markup.escape_begins start other rest
    · exact .inl (inert.append _)

theorem softBreak_wraps (wraps : settings.softWraps = .preserve) (outside : s.inTableCell = false)
    (below : s.inHeading = false) :
    lineBreak settings true s = .ok ()
      { s with writer := s.writer.write ['\n'], atLineStart := true, normalTail := [] } := by
  unfold lineBreak
  rw [get_bind, if_pos (by simp [wraps, outside, below])]
  rfl

theorem softBreak_joins (joins : settings.softWraps = .collapse) :
    lineBreak settings true s = .ok ()
      { s with
        writer := if s.writer.last = some ' ' then s.writer else s.writer.write [' ']
        normalTail := [' '] } := by
  unfold lineBreak
  rw [get_bind, joins]
  by_cases space : s.writer.last = some ' '
  · rw [if_pos space, space]
    rfl
  · have other : (s.writer.last != some ' ') = true := by simpa using space
    rw [if_neg space, other]
    rfl

/-- Behind a break, which is a line end or else a space, the next text may stand. -/
theorem softBreak_quiet (h : s.Quiet last)
    (wrapped : last = [] → settings.softWraps = .preserve) :
    ∃ t last', lineBreak settings true s = .ok () t ∧ t.Quiet last' ∧
      (last' = [] ∨ Markup.Inert last') ∧
      (last' = [] → settings.softWraps = .preserve ∧ t.writer.last = some '\n') := by
  cases wraps : settings.softWraps with
  | preserve =>
    obtain ⟨quiet, tip⟩ := h.wrap (t := { s with
      writer := s.writer.write ['\n'], atLineStart := true, normalTail := [] }) rfl rfl rfl rfl rfl
    exact ⟨_, [], softBreak_wraps wraps h.outside h.below, quiet, .inl rfl, fun _ => ⟨rfl, tip⟩⟩
  | collapse =>
    have shown : last ≠ [] := by
      intro none_
      rw [wraps] at wrapped
      cases wrapped none_
    have begun : Markup.Inert last ∨ Markup.isNumeral last = true :=
      h.begun.resolve_left fun none_ => shown none_.1
    rw [softBreak_joins wraps]
    by_cases space : s.writer.last = some ' '
    · -- the line ends with a space already, so that it is no number
      rw [if_pos space]
      have inert : Markup.Inert last := by
        refine begun.resolve_right fun numeral => ?_
        rw [h.last_eq shown] at space
        exact absurd ((Markup.isNumeral_iff.mp numeral).2 ' ' (List.mem_of_getLast? space))
          (by decide)
      refine ⟨_, last, rfl, ?_, .inr inert, fun none_ => absurd none_ shown⟩
      exact ⟨h.bare, h.clear, h.tip, h.outside, h.below, h.lines, h.line, .inr begun⟩
    · rw [if_neg space]
      have inert : Markup.Inert (last ++ [' ']) := by
        obtain inert | numeral := begun
        · exact inert.append _
        · exact .number numeral (by decide) (by decide) []
      exact ⟨_, last ++ [' '], rfl, h.write (by simp) (by simp) rfl rfl rfl (.inl inert),
        .inr inert, by simp⟩

/-- No text stands right behind another one. -/
def Apart (nodes : List Node) : Prop :=
  nodes.IsChain fun a b => a.isLineBreak = true ∨ b.isLineBreak = true

theorem Apart.next {child next : Node} {rest : List Node} (h : Apart (child :: rest))
    (text : child.isLineBreak = false) (head : rest.head? = some next) :
    next.isLineBreak = true := by
  have either := (List.isChain_cons.mp h).1 next head
  exact either.resolve_left (by simp [text])

/-- What a text is told of the node behind it is never that this is a link. -/
def nextLiteral (rest : List Node) : Option Node :=
  if rest.all Node.isLineBreak then none else rest.head?

theorem nextLiteral_noLink {rest : List Node} (literal : ∀ n ∈ rest, isLiteral n = true) :
    (nextLiteral rest).any Node.isLink = false := by
  unfold nextLiteral
  split
  · rfl
  · exact head?_noLink literal

theorem paragraphInlines_cons {child : Node} {rest : List Node}
    (goesOn : ¬ (child.isLineBreak && rest.all Node.isLineBreak) = true) (s : RenderState) :
    paragraphInlines settings (child :: rest) s =
      (do node settings child; paragraphInlines settings rest)
        { s with nextInline := nextLiteral rest } := by
  rw [paragraphInlines, if_neg goesOn, modify_bind, nextLiteral]

theorem quiet_nextInline (h : s.Quiet last) (next : Option Node) :
    RenderState.Quiet { s with nextInline := next } last :=
  ⟨h.bare, h.clear, h.tip, h.outside, h.below, h.lines, h.line, h.begun⟩

variable (settings) in
/-- No line of plain text opens a block. The line that the output stops in is never begun with a
space: it is empty only behind a line end. -/
theorem paragraphInlines_quiet {nodes : List Node} (literal : ∀ n ∈ nodes, isLiteral n = true)
    (apart : Apart nodes) {s : RenderState} {last : List Char} (h : s.Quiet last)
    (wrapped : last = [] → settings.softWraps = .preserve ∧ s.writer.last = some '\n')
    (ready : ∀ n, nodes.head? = some n → n.isLineBreak = false → last = [] ∨ Markup.Inert last) :
    ∃ t last', paragraphInlines settings nodes s = .ok () t ∧ t.Quiet last' := by
  induction nodes generalizing s last with
  | nil => exact ⟨s, last, rfl, h⟩
  | cons child rest ih =>
    have others : ∀ n ∈ rest, isLiteral n = true := fun n m => literal n (List.mem_cons_of_mem _ m)
    have later : Apart rest := List.IsChain.tail apart
    have turned := quiet_nextInline h (nextLiteral rest)
    by_cases ended : (child.isLineBreak && rest.all Node.isLineBreak) = true
    · rw [paragraphInlines, if_pos ended]
      exact ⟨s, last, rfl, h⟩
    · rw [paragraphInlines_cons ended]
      cases child with
      | text content =>
        have head : last = [] → (spacedText content s.writer).head? ≠ some ' ' := by
          intro none_
          rw [spacedText_eq content h.clear, (wrapped none_).2]
          exact Text.collapseRuns_head content.toList
        obtain ⟨t, last', run, quiet, went⟩ :=
          text_quiet content turned (ready _ rfl rfl) head (nextLiteral_noLink others)
        have wrapped' : last' = [] →
            settings.softWraps = .preserve ∧ t.writer.last = some '\n' := by
          intro none_
          obtain ⟨-, rfl, rfl⟩ | shown := went
          · exact wrapped none_
          · exact absurd none_ shown
        rw [node, bind_of_ok run]
        refine ih others later quiet wrapped' fun n first text_ => ?_
        rw [apart.next rfl first] at text_
        cases text_
      | lineBreak soft =>
        obtain rfl : soft = true := literal _ List.mem_cons_self
        obtain ⟨t, last', run, quiet, ready', wrapped'⟩ :=
          softBreak_quiet turned fun none_ => (wrapped none_).1
        rw [node, bind_of_ok run]
        exact ih others later quiet wrapped' fun _ _ _ => ready'
      | _ => cases literal _ List.mem_cons_self

theorem quiet_empty : RenderState.Quiet { atLineStart := true } [] :=
  ⟨rfl, rfl, rfl, rfl, rfl, ⟨[], rfl, by simp⟩, by simp, .inl ⟨rfl, rfl, rfl⟩⟩

variable (settings) in
/-- The first text is not begun with a space either, if its source is not. -/
theorem paragraph_quiet {c : Char} (solid : Text.isSpacing c = false) {line : List Char}
    {more : List Node} (literal : ∀ n ∈ more, isLiteral n = true)
    (apart : Apart (.text (String.ofList (c :: line)) :: more)) :
    ∃ t last, paragraphInlines settings (.text (String.ofList (c :: line)) :: more)
      { atLineStart := true } = .ok () t ∧ t.Quiet last := by
  have cs : spacedText (String.ofList (c :: line)) {} =
      c :: collapseRuns isSpacing ' ' false line := by
    rw [spacedText_eq _ rfl, String.toList_ofList, collapseRuns, if_neg (by simp [solid])]
  have head : (spacedText (String.ofList (c :: line)) {}).head? ≠ some ' ' := by
    rw [cs, List.head?_cons]
    intro space
    cases space
    cases solid
  obtain ⟨t, last, run, quiet, went⟩ := text_quiet _
    (quiet_nextInline quiet_empty (nextLiteral more)) (.inl rfl) (fun _ => head)
    (nextLiteral_noLink literal)
  have shown : last ≠ [] := by
    refine went.resolve_left fun none_ => ?_
    have empty := none_.1
    rw [cs] at empty
    cases empty
  rw [paragraphInlines_cons (by simp [Node.isLineBreak]), node, bind_of_ok run]
  refine paragraphInlines_quiet settings literal (List.IsChain.tail apart) quiet
    (fun none_ => absurd none_ shown) fun n first text_ => ?_
  rw [apart.next rfl first] at text_
  cases text_

end Render

namespace Token

theorem textNodes_apart (raw : String) : Render.Apart (textNodes raw) := by
  have lines (rest : List (List Char)) (first : List Char) : Render.Apart
      (lineNodes first ++ rest.flatMap fun line => .lineBreak true :: lineNodes line) := by
    induction rest generalizing first with
    | nil =>
      unfold lineNodes
      split
      · exact .nil
      · exact .singleton _
    | cons line rest ih =>
      have broken : Render.Apart (.lineBreak true :: (lineNodes line ++
          rest.flatMap fun line => .lineBreak true :: lineNodes line)) :=
        List.isChain_cons.mpr ⟨fun _ _ => .inl rfl, ih line⟩
      rw [List.flatMap_cons, List.cons_append]
      unfold lineNodes at broken ⊢
      split
      · exact broken
      · exact List.isChain_cons_cons.mpr ⟨.inr rfl, broken⟩
  unfold textNodes
  split
  · exact .nil
  · exact lines _ _

/-- A text that does not start with spacing begins its first node. -/
theorem textNodes_begin {raw : String} {c : Char} {cs : List Char} (text : raw.toList = c :: cs)
    (solid : Text.isSpacing c = false) :
    ∃ line more, textNodes raw = .text (String.ofList (c :: line)) :: more := by
  have newline : c ≠ '\n' := by
    rintro rfl
    cases solid
  have stays : isTabOrSpace c = false := by
    by_contra space
    rw [isSpacing_of_isTabOrSpace (by simpa using space)] at solid
    cases solid
  obtain ⟨first, rest, cut⟩ := List.exists_cons_of_ne_nil (Writer.segments_ne_nil cs)
  obtain ⟨kept, trimmed⟩ := Text.trimEnd_cons stays first
  have lines : ∃ line more, softLines raw.toList = (c :: line) :: more := by
    rw [text, softLines, Text.segments_cons newline cut]
    cases rest with
    | nil => exact ⟨first, [], rfl⟩
    | cons second rest => exact ⟨kept, _, by rw [← trimmed]⟩
  obtain ⟨line, more, lines⟩ := lines
  rw [textNodes, lines]
  exact ⟨line, _, rfl⟩

end Token

theorem Text.segments_page {lines : List (List Char)} {last : List Char}
    (ended : ∀ line ∈ lines, '\n' ∉ line) (open_ : '\n' ∉ last) :
    segments (page lines last) = lines ++ [last] := by
  rw [page_eq_joinSegments]
  refine segments_joinSegments ?_ (by simp)
  intro line m
  obtain m | m := List.mem_append.mp m
  · exact ended line m
  · rwa [List.mem_singleton.mp m]

theorem RendererSettings.render_quiet {settings : RendererSettings} {children : List Node}
    {t : RenderState} {last : List Char}
    (run : Render.allBlocks settings children {} = .ok () t) (quiet : t.Quiet last) :
    ∃ out, (settings.render (.document children)).1 = .ok out ∧
      ∀ line ∈ Text.segments out.toList, Markup.opensBlock line = false := by
  obtain ⟨lines, page, ended⟩ := quiet.lines
  have whole : (t.writer.write ['\n']).out.toList = Text.page (lines ++ [last]) [] := by
    rw [(Writer.write_bare quiet.bare (by simp)).1, quiet.clear, List.nil_append, page,
      Text.page_append, Text.page_newline]
  have closed : ∀ line ∈ lines ++ [last], '\n' ∉ line ∧ Markup.opensBlock line = false := by
    intro line m
    obtain m | m := List.mem_append.mp m
    · exact ended line m
    · rw [List.mem_singleton.mp m]
      exact ⟨quiet.line, quiet.closed⟩
  refine ⟨_, render_of_ok run, fun line m => ?_⟩
  split at m
  · obtain rfl : line = [] := by simpa using m
    rfl
  · rw [whole, Text.segments_page (fun line m => (closed line m).1) (by simp)] at m
    obtain m | m := List.mem_append.mp m
    · exact (closed line m).2
    · rw [List.mem_singleton.mp m]
      rfl

/-- **Literal text opens no block.** The nodes of a text that does not start within spacing, as a
paragraph by itself, are printed, whatever the settings, and no line of the output is one that a
block begins with. -/
theorem RendererSettings.render_opens_nothing (settings : RendererSettings) (raw : String)
    (solid : ∀ c, raw.toList.head? = some c → Text.isSpacing c = false) :
    ∃ out, (settings.render (.document [.paragraph (Token.textNodes raw)])).1 = .ok out ∧
      ∀ line ∈ Text.segments out.toList, Markup.opensBlock line = false := by
  by_cases blank : Node.allBlankInline (Token.textNodes raw) = true
  · have run : Render.allBlocks settings [.paragraph (Token.textNodes raw)] {} = .ok () {} := by
      simp [Render.allBlocks, Render.checkTexts, Render.blocks, Node.isTextlessHtml,
        Node.isBlankBlock, blank]
    have empty : (({} : Writer).write ['\n']).out.toList.all Text.isNewline = true := by decide
    rw [render_of_ok run, if_pos empty]
    refine ⟨"\n", rfl, fun line m => ?_⟩
    obtain rfl : line = [] := by simpa using m
    rfl
  · cases text : raw.toList with
    | nil =>
      refine absurd ?_ blank
      rw [Token.textNodes, text]
      rfl
    | cons c cs =>
      have first : Text.isSpacing c = false := solid c (by simp [text])
      obtain ⟨line, more, nodes⟩ := Token.textNodes_begin text first
      have literal := Token.textNodes_literal raw
      have apart := Token.textNodes_apart raw
      rw [nodes] at literal apart
      obtain ⟨t, last, run, quiet⟩ := Render.paragraph_quiet settings first
        (fun n m => literal n (List.mem_cons_of_mem _ m)) apart
      rw [← nodes] at run
      refine render_quiet (Eq.trans ?_ run) quiet
      exact Render.allBlocks_paragraph (by simpa using blank) {}

theorem RendererSettings.render_opens_nothing_markers :
    (Text.segments "1) a\n- b\n# c\n===".toList).all Markup.opensBlock = true ∧
    ∃ out, (({ softWraps := .preserve } : RendererSettings).render (.document [.paragraph
        (Token.textNodes "1) a\n- b\n# c\n===")])).1 = .ok out ∧
      ∀ line ∈ Text.segments out.toList, Markup.opensBlock line = false := by
  refine ⟨by decide, render_opens_nothing _ _ fun c first => ?_⟩
  obtain rfl : '1' = c := by simpa using first
  decide

end MarkdownCanon
