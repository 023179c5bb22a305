import MarkdownCanon.Proofs.Leaves
import MarkdownCanon.Proofs.Margins
import MarkdownCanon.Proofs.Pairing
import MarkdownCanon.Token.Inline

/-! Plain text reads back as itself: what a paragraph of it prints, with the backslashes taken away
again, is the text in its normal form. -/

namespace MarkdownCanon

namespace Markup

/-- The punctuation of ASCII, which a backslash can stand before. -/
def isPunctuation (c : Char) : Bool :=
  let n := c.toNat
  (0x21 ≤ n && n ≤ 0x2F) || (0x3A ≤ n && n ≤ 0x40) || (0x5B ≤ n && n ≤ 0x60) ||
    (0x7B ≤ n && n ≤ 0x7E)

/-- A text with each backslash before punctuation taken away, from left to right. -/
def unescape : List Char → List Char
  | [] => []
  | '\\' :: c :: rest => if isPunctuation c then c :: unescape rest else '\\' :: c :: unescape rest
  | c :: rest => c :: unescape rest

/-- The first text is the second with a backslash before some of its punctuation, and before every
backslash. -/
inductive Escaped : List Char → List Char → Prop where
  | nil : Escaped [] []
  | plain {c : Char} {out text : List Char} (other : c ≠ '\\') (rest : Escaped out text) :
      Escaped (c :: out) (c :: text)
  | guarded {c : Char} {out text : List Char} (punctuation : isPunctuation c = true)
      (rest : Escaped out text) : Escaped ('\\' :: c :: out) (c :: text)

namespace Escaped

theorem append {a b x y : List Char} (h : Escaped a x) (h' : Escaped b y) :
    Escaped (a ++ b) (x ++ y) := by
  induction h with
  | nil => exact h'
  | plain other _ ih => exact .plain other ih
  | guarded punctuation _ ih => exact .guarded punctuation ih

theorem unescape_eq {out text : List Char} (h : Escaped out text) : unescape out = text := by
  induction h with
  | nil => rfl
  | plain other _ ih =>
    rw [unescape, ih]
    rintro c rest rfl
    exact absurd rfl other
  | guarded punctuation _ ih => rw [unescape, if_pos punctuation, ih]

theorem getLast? {out text : List Char} (h : Escaped out text) : out.getLast? = text.getLast? := by
  induction h with
  | nil => rfl
  | plain _ _ ih => rw [List.getLast?_cons, List.getLast?_cons, ih]
  | guarded _ _ ih => rw [List.getLast?_cons_cons, List.getLast?_cons, List.getLast?_cons, ih]

theorem sublist {out text : List Char} (h : Escaped out text) : text.Sublist out := by
  induction h with
  | nil => exact .slnil
  | plain _ _ ih => exact ih.cons_cons _
  | guarded _ _ ih => exact (ih.cons_cons _).cons _

theorem eq_nil {out text : List Char} (h : Escaped out text) : out = [] ↔ text = [] := by
  rw [← List.getLast?_eq_none_iff, h.getLast?, List.getLast?_eq_none_iff]

end Escaped

theorem mustEscape_punctuation {place : Place} {seen tail rest : List Char} {c : Char}
    (h : mustEscape place seen tail c rest = true) : isPunctuation c = true := by
  have table : ∀ c ∈ alwaysEscaped ++ "_#".toList ++ lineStartEscaped ++ ".)|".toList,
      isPunctuation c = true := List.all_eq_true.mp (by decide)
  apply table
  unfold mustEscape at h
  repeat' split at h
  all_goals simp_all

theorem escapeFrom_escaped (place : Place) (seen tail text : List Char) :
    Escaped (escapeFrom place seen tail text).1 text := by
  induction text generalizing seen tail with
  | nil => exact .nil
  | cons c rest ih =>
    rw [escapeFrom]
    dsimp only
    split
    · rename_i must
      exact .guarded (mustEscape_punctuation must) (ih _ _)
    · rename_i plain
      refine .plain ?_ (ih _ _)
      rintro rfl
      exact plain rfl

theorem escape_escaped (place : Place) (tail text : List Char) :
    Escaped (escape place tail text).1 text := by
  rw [escape_text]
  split
  · rename_i alone
    obtain ⟨c, rfl, special⟩ := isLone_iff.mp alone
    have table : ∀ c ∈ aloneEscaped, isPunctuation c = true := List.all_eq_true.mp (by decide)
    exact .guarded (table c (List.contains_iff_mem.mp special)) .nil
  · exact escapeFrom_escaped ..

end Markup

namespace Text

/-- Whether a text ends within spacing; `inRun` tells this of what stands before it. -/
def endsSpaced : Bool → List Char → Bool
  | inRun, [] => inRun
  | _, c :: rest => endsSpaced (isSpacing c) rest

theorem endsSpaced_eq (inRun : Bool) (text : List Char) :
    endsSpaced inRun text = (text.getLast?.map isSpacing).getD inRun := by
  induction text generalizing inRun with
  | nil => rfl
  | cons c text ih =>
    rw [endsSpaced, ih, List.getLast?_cons]
    cases text.getLast? <;> rfl

theorem collapseRuns_append (inRun : Bool) (a b : List Char) :
    collapseRuns isSpacing ' ' inRun (a ++ b) =
      collapseRuns isSpacing ' ' inRun a ++ collapseRuns isSpacing ' ' (endsSpaced inRun a) b := by
  induction a generalizing inRun with
  | nil => rfl
  | cons c a ih =>
    rw [List.cons_append, collapseRuns, collapseRuns, endsSpaced, ih, ih]
    cases isSpacing c <;> cases inRun <;> rfl

/-- Runs are marked once: where each is its mark already, nothing changes. -/
theorem collapseRuns_marked {α : Type} {p : α → Bool} {mark : α} (member : p mark = true)
    (inRun : Bool) (text : List α) :
    collapseRuns p mark inRun (collapseRuns p mark inRun text) =
      collapseRuns p mark inRun text := by
  induction text generalizing inRun with
  | nil => rfl
  | cons c text ih =>
    rw [collapseRuns]
    by_cases here : p c = true
    · cases inRun with
      | true => simp only [here, ↓reduceIte, ih]
      | false => simp only [here, ↓reduceIte, Bool.false_eq_true, collapseRuns, member, ih]
    · simp only [here, ↓reduceIte, Bool.false_eq_true, collapseRuns, ih]

/-- Spacing is in its normal form once it has been brought there. -/
theorem collapseRuns_idem (inRun : Bool) (text : List Char) :
    collapseRuns isSpacing ' ' inRun (collapseRuns isSpacing ' ' inRun text) =
      collapseRuns isSpacing ' ' inRun text :=
  collapseRuns_marked rfl inRun text

theorem endsSpaced_collapseRuns (inRun : Bool) (text : List Char) :
    endsSpaced inRun (collapseRuns isSpacing ' ' inRun text) = endsSpaced inRun text := by
  have space : isSpacing ' ' = true := rfl
  induction text generalizing inRun with
  | nil => rfl
  | cons c text ih =>
    rw [collapseRuns, endsSpaced]
    by_cases spacing : isSpacing c = true
    · cases inRun <;> simp only [spacing, ↓reduceIte, Bool.false_eq_true, endsSpaced, space, ih]
    · simp only [spacing, ↓reduceIte, Bool.false_eq_true, endsSpaced, ih]

/-- The only spacing left in a normal form is spaces. -/
theorem eq_space_of_mem {inRun : Bool} {text : List Char} {c : Char}
    (m : c ∈ collapseRuns isSpacing ' ' inRun text) (spacing : isSpacing c = true) : c = ' ' := by
  induction text generalizing inRun with
  | nil => cases m
  | cons d text ih =>
    rw [collapseRuns] at m
    split at m
    · split at m
      · exact ih m
      · exact (List.mem_cons.mp m).elim id ih
    · rename_i other
      obtain rfl | m := List.mem_cons.mp m
      · exact absurd spacing other
      · exact ih m

/-- Spacing behind spacing changes nothing. -/
theorem collapseRuns_skip {cut : List Char} (spacing : ∀ c ∈ cut, isSpacing c = true)
    (text : List Char) :
    collapseRuns isSpacing ' ' true (cut ++ text) = collapseRuns isSpacing ' ' true text := by
  induction cut with
  | nil => rfl
  | cons c cut ih =>
    rw [List.cons_append, collapseRuns, if_pos (spacing c List.mem_cons_self), if_pos rfl]
    exact ih fun c m => spacing c (List.mem_cons_of_mem _ m)

theorem collapseRuns_newline (inRun : Bool) (text : List Char) :
    collapseRuns isSpacing ' ' inRun ('\n' :: text) =
      (if inRun then [] else [' ']) ++ collapseRuns isSpacing ' ' true text := by
  have newline : isSpacing '\n' = true := rfl
  cases inRun <;> simp [collapseRuns, newline]

/-- Neither does spacing in front of a line end. -/
theorem collapseRuns_lineEnd {cut : List Char} (spacing : ∀ c ∈ cut, isSpacing c = true)
    (inRun : Bool) (text : List Char) :
    collapseRuns isSpacing ' ' inRun (cut ++ '\n' :: text) =
      collapseRuns isSpacing ' ' inRun ('\n' :: text) := by
  cases cut with
  | nil => rfl
  | cons c cut =>
    have later := collapseRuns_skip (fun c m => spacing c (List.mem_cons_of_mem _ m))
      ('\n' :: text)
    rw [List.cons_append, collapseRuns, if_pos (spacing c List.mem_cons_self), later,
      collapseRuns_newline, collapseRuns_newline]
    cases inRun <;> rfl

end Text

open Text (collapseRuns isSpacing)

namespace Token

theorem isSpacing_of_isTabOrSpace {c : Char} (h : isTabOrSpace c = true) :
    isSpacing c = true := by
  simp only [isTabOrSpace, Bool.or_eq_true, beq_iff_eq] at h
  obtain rfl | rfl := h <;> rfl

/-- The lines of a text behind the first, each with the line end before it. -/
def behind (lines : List (List Char)) : List Char := lines.flatMap fun line => '\n' :: line

theorem behind_cons (first : List Char) (rest : List (List Char)) :
    behind (first :: rest) = '\n' :: (first ++ behind rest) := by
  simp [behind]

theorem behind_trimStarts {lines : List (List Char)} (some_ : lines ≠ []) :
    ∃ text, behind (softLines.trimStarts lines) = '\n' :: text := by
  match lines with
  | [] => exact absurd rfl some_
  | [last] => exact ⟨_, rfl⟩
  | line :: _ :: _ => exact ⟨_, behind_cons _ _⟩

theorem collapse_trimEnd (inRun : Bool) (line text : List Char) :
    collapseRuns isSpacing ' ' inRun (Text.trimEnd isTabOrSpace line ++ '\n' :: text) =
      collapseRuns isSpacing ' ' inRun (line ++ '\n' :: text) := by
  obtain ⟨cut, whole, spaces⟩ := Text.trimEnd_eq_append isTabOrSpace line
  have spacing c (m : c ∈ cut) := isSpacing_of_isTabOrSpace (spaces c m)
  conv_rhs => rw [whole, List.append_assoc, Text.collapseRuns_append,
    Text.collapseRuns_lineEnd spacing]
  rw [Text.collapseRuns_append]

theorem collapse_dropWhile (inRun : Bool) (line text : List Char) :
    collapseRuns isSpacing ' ' inRun ('\n' :: (line.dropWhile isTabOrSpace ++ text)) =
      collapseRuns isSpacing ' ' inRun ('\n' :: (line ++ text)) := by
  have spacing : ∀ c ∈ line.takeWhile isTabOrSpace, isSpacing c = true :=
    fun c m => isSpacing_of_isTabOrSpace (List.mem_takeWhile_imp m)
  rw [Text.collapseRuns_newline, Text.collapseRuns_newline,
    ← Text.collapseRuns_skip spacing (line.dropWhile isTabOrSpace ++ text), ← List.append_assoc,
    List.takeWhile_append_dropWhile]

theorem collapse_trimStarts (inRun : Bool) (lines : List (List Char)) :
    collapseRuns isSpacing ' ' inRun (behind (softLines.trimStarts lines)) =
      collapseRuns isSpacing ' ' inRun (behind lines) := by
  fun_induction softLines.trimStarts lines generalizing inRun with
  | case1 => rfl
  | case2 last => simpa [behind] using collapse_dropWhile inRun last []
  | case3 line rest more ih =>
    obtain ⟨text, starts⟩ := behind_trimStarts more
    calc collapseRuns isSpacing ' ' inRun
          (behind (Text.trim isTabOrSpace line :: softLines.trimStarts rest))
        = collapseRuns isSpacing ' ' inRun
            ('\n' :: (line.dropWhile isTabOrSpace ++ behind (softLines.trimStarts rest))) := by
          rw [behind_cons, starts, Text.collapseRuns_newline, Text.collapseRuns_newline, Text.trim,
            collapse_trimEnd]
      _ = collapseRuns isSpacing ' ' inRun
            ('\n' :: line ++ behind (softLines.trimStarts rest)) :=
          collapse_dropWhile inRun line _
      _ = collapseRuns isSpacing ' ' inRun ('\n' :: line ++ behind rest) := by
          rw [Text.collapseRuns_append, ih, ← Text.collapseRuns_append]
      _ = collapseRuns isSpacing ' ' inRun (behind (line :: rest)) := by
          rw [behind_cons, List.cons_append]

/-- The spaces and tabs around line ends are not missed. -/
theorem collapse_softLines (raw : List Char) :
    Text.collapse (Text.joinSegments (softLines raw)) = Text.collapse raw := by
  have whole := Text.joinSegments_segments raw
  unfold softLines
  split
  · rename_i none_
    exact absurd none_ (Writer.segments_ne_nil raw)
  · rename_i only cut
    rw [cut] at whole
    rw [whole]
  · rename_i first rest more cut
    obtain ⟨text, starts⟩ := behind_trimStarts more
    rw [cut, Text.joinSegments_cons] at whole
    rw [Text.joinSegments_cons, ← whole, Text.collapse, Text.collapse, ← behind, ← behind, starts,
      collapse_trimEnd, ← starts, Text.collapseRuns_append, collapse_trimStarts,
      ← Text.collapseRuns_append]

end Token

/-- A writer that holds, escaped, a text `shown` with the same normal form as the text that has been
`read`. Where soft breaks are joined, it is that form. -/
structure Writer.Reads (wraps : SoftWraps) (read shown : List Char) (w : Writer) : Prop where
  bare : w.indentation = {}
  clear : w.pending = []
  last : w.last = shown.getLast?
  escaped : Markup.Escaped w.out.toList shown
  spacing : ∀ c ∈ shown, isSpacing c = true → c = ' ' ∨ c = '\n'
  same : Text.collapse shown = Text.collapse read
  normal : wraps = .collapse → Text.collapse shown = shown

namespace Writer.Reads

variable {wraps : SoftWraps} {read shown : List Char} {w : Writer}

theorem empty (wraps : SoftWraps) : Reads wraps [] [] {} :=
  ⟨rfl, rfl, rfl, .nil, by simp, rfl, fun _ => rfl⟩

theorem endsSpaced_eq (h : w.Reads wraps read shown) :
    Text.endsSpaced false read = Text.endsSpaced false shown := by
  rw [← Text.endsSpaced_collapseRuns, ← Text.collapse, ← h.same, Text.collapse,
    Text.endsSpaced_collapseRuns]

/-- What is written for a piece of the source has its normal form, given what stands before. -/
theorem write (h : w.Reads wraps read shown) {source piece written : List Char}
    (escaped : Markup.Escaped written piece)
    (spacing : ∀ c ∈ piece, isSpacing c = true → c = ' ' ∨ c = '\n')
    (same : collapseRuns isSpacing ' ' (Text.endsSpaced false shown) piece =
      collapseRuns isSpacing ' ' (Text.endsSpaced false shown) source)
    (normal : wraps = .collapse →
      collapseRuns isSpacing ' ' (Text.endsSpaced false shown) piece = piece) :
    (w.write written).Reads wraps (read ++ source) (shown ++ piece) := by
  have joined : Text.collapse (shown ++ piece) = Text.collapse (read ++ source) := by
    rw [Text.collapse, Text.collapse, Text.collapseRuns_append, Text.collapseRuns_append,
      h.endsSpaced_eq, same]
    exact congrArg (· ++ _) h.same
  have settled : wraps = .collapse → Text.collapse (shown ++ piece) = shown ++ piece := by
    intro joins
    rw [Text.collapse, Text.collapseRuns_append, normal joins]
    exact congrArg (· ++ _) (h.normal joins)
  have spaces : ∀ c ∈ shown ++ piece, isSpacing c = true → c = ' ' ∨ c = '\n' :=
    fun c m => (List.mem_append.mp m).elim (h.spacing c) (spacing c)
  by_cases none_ : written = []
  · have nothing := escaped.eq_nil.mp none_
    subst none_ nothing
    rw [List.append_nil] at joined settled ⊢
    exact ⟨h.bare, h.clear, h.last, h.escaped, h.spacing, joined, settled⟩
  · have some_ : piece ≠ [] := fun nothing => none_ (escaped.eq_nil.mpr nothing)
    obtain ⟨out, last⟩ := write_bare h.bare none_
    rw [h.clear, List.nil_append] at out
    refine ⟨by simp [h.bare], write_pending w none_, ?_, ?_, spaces, joined, settled⟩
    · rw [last, escaped.getLast?, List.getLast?_append_of_ne_nil _ some_]
    · rw [out]
      exact h.escaped.append escaped

/-- The writer can tell from its last character whether it ends within spacing. -/
theorem last_spacing (h : w.Reads wraps read shown) :
    (w.last == some ' ' || w.last == some '\n') = Text.endsSpaced false shown := by
  rw [Text.endsSpaced_eq, h.last]
  cases last : shown.getLast? with
  | none => rfl
  | some c =>
    have kinds := h.spacing c (List.mem_of_getLast? last)
    cases spacing : isSpacing c with
    | true => obtain rfl | rfl := kinds spacing <;> rfl
    | false =>
      have other : c ≠ ' ' ∧ c ≠ '\n' := by
        constructor <;> rintro rfl <;> cases spacing
      simp [other.1, other.2, spacing]

end Writer.Reads

namespace Render

theorem spacedText_eq (content : String) {w : Writer} (clear : w.pending = []) :
    spacedText content w = collapseRuns isSpacing ' '
      (w.last == some ' ' || w.last == some '\n') content.toList := by
  unfold spacedText Text.collapse
  have committed : w.committed = true := by simp [Writer.committed, clear]
  rw [committed, Bool.and_true]
  cases content.toList with
  | nil => rfl
  | cons c rest =>
    rw [collapseRuns, collapseRuns]
    by_cases spacing : isSpacing c = true
    · simp only [spacing, ↓reduceIte, Bool.false_eq_true]
    · have other : c ≠ ' ' := by
        rintro rfl
        exact spacing rfl
      rw [if_neg spacing, if_neg spacing]
      split
      · rename_i same
        exact absurd (List.cons.inj same).1 other
      · rfl

/-- The source of a text, or of a break. -/
def sourceOf : Node → List Char
  | .text content => content.toList
  | .lineBreak _ => ['\n']
  | _ => []

/-- Texts and soft breaks. -/
def isLiteral : Node → Bool
  | .text _ => true
  | .lineBreak soft => soft
  | _ => false

variable {settings : RendererSettings}

theorem literalText_escaped (place : Markup.Place) (tail cs : List Char) {next : Option Node}
    (noLink : next.any Node.isLink = false) :
    Markup.Escaped (literalText place tail cs next) cs := by
  have same : literalText place tail cs next = (Markup.escape place tail cs).1 := by
    simp [literalText, guardBang, noLink]
  rw [same]
  exact Markup.escape_escaped place tail cs

theorem text_reads (content : String) {s : RenderState} {read shown : List Char}
    (h : s.writer.Reads settings.softWraps read shown)
    (noLink : s.nextInline.any Node.isLink = false) :
    ∃ t shown', text content s = .ok () t ∧
      t.writer.Reads settings.softWraps (read ++ content.toList) shown' ∧
      t.inTableCell = s.inTableCell ∧ t.inHeading = s.inHeading := by
  have piece := spacedText_eq content h.clear
  rw [h.last_spacing] at piece
  have same : collapseRuns isSpacing ' ' (Text.endsSpaced false shown)
      (spacedText content s.writer) = spacedText content s.writer := by
    rw [piece, Text.collapseRuns_idem]
  have spacing : ∀ c ∈ spacedText content s.writer, isSpacing c = true →
      c = ' ' ∨ c = '\n' := by
    intro c m space
    rw [piece] at m
    exact .inl (Text.eq_space_of_mem m space)
  have after {written : List Char}
      (escaped : Markup.Escaped written (spacedText content s.writer)) :=
    h.write escaped spacing (same.trans piece) fun _ => same
  rw [text_run]
  split
  · rename_i none_
    rw [List.isEmpty_iff.mp none_] at after
    exact ⟨s, _, rfl, after .nil, rfl, rfl⟩
  · exact ⟨_, _, rfl, after (literalText_escaped _ _ _ noLink), rfl, rfl⟩

variable (settings) in
/-- A soft break is a line end, or else a space unless there is one already. -/
theorem softBreak_run {s : RenderState} (outside : s.inTableCell = false)
    (below : s.inHeading = false) :
    ∃ t, lineBreak settings true s = .ok () t ∧
      t.writer = s.writer.write (match settings.softWraps with
        | .preserve => ['\n']
        | .collapse => if s.writer.last = some ' ' then [] else [' ']) ∧
      t.inTableCell = s.inTableCell ∧ t.inHeading = s.inHeading := by
  unfold lineBreak
  rw [get_bind, outside, below]
  cases settings.softWraps with
  | preserve => exact ⟨_, rfl, rfl, outside, below⟩
  | collapse =>
    by_cases space : s.writer.last = some ' '
    · rw [space]
      exact ⟨_, rfl, rfl, outside, below⟩
    · have written : (s.writer.last != some ' ') = true := by simpa using space
      rw [written, if_neg space]
      exact ⟨_, rfl, rfl, outside, below⟩

/-- Either way it has the normal form of a line end. -/
theorem lineBreak_reads {s : RenderState} {read shown : List Char}
    (h : s.writer.Reads settings.softWraps read shown) (outside : s.inTableCell = false)
    (below : s.inHeading = false) :
    ∃ t shown', lineBreak settings true s = .ok () t ∧
      t.writer.Reads settings.softWraps (read ++ ['\n']) shown' ∧
      t.inTableCell = s.inTableCell ∧ t.inHeading = s.inHeading := by
  obtain ⟨t, run, writer, flags⟩ := softBreak_run settings outside below
  refine ⟨t, shown ++ (match settings.softWraps with
    | .preserve => ['\n']
    | .collapse => if s.writer.last = some ' ' then [] else [' ']), run, ?_, flags⟩
  rw [writer]
  cases wraps : settings.softWraps with
  | preserve =>
    rw [wraps] at h
    exact h.write (.plain (by decide) .nil) (by simp) rfl fun joins => by cases joins
  | collapse =>
    rw [wraps] at h
    have oneLine : s.writer.last ≠ some '\n' := by
      rw [h.last]
      intro last
      refine Text.collapse_line shown ?_
      rw [h.normal rfl]
      exact List.mem_of_getLast? last
    have spaced := h.last_spacing
    rw [beq_eq_false_iff_ne.mpr oneLine, Bool.or_false] at spaced
    by_cases space : s.writer.last = some ' '
    · rw [beq_iff_eq.mpr space] at spaced
      simp only [space, ↓reduceIte]
      exact h.write .nil (by simp) (by rw [← spaced]; rfl) fun _ => rfl
    · rw [beq_eq_false_iff_ne.mpr space] at spaced
      simp only [space, ↓reduceIte]
      exact h.write (.plain (by decide) .nil) (by simp) (by rw [← spaced]; rfl)
        fun _ => by rw [← spaced]; rfl

/-- One node more has been read. -/
theorem node_reads {n : Node} (literal : isLiteral n = true) {s : RenderState}
    {read shown : List Char} (h : s.writer.Reads settings.softWraps read shown)
    (outside : s.inTableCell = false) (below : s.inHeading = false)
    (noLink : s.nextInline.any Node.isLink = false) :
    ∃ t shown', node settings n s = .ok () t ∧
      t.writer.Reads settings.softWraps (read ++ sourceOf n) shown' ∧
      t.inTableCell = s.inTableCell ∧ t.inHeading = s.inHeading := by
  cases n with
  | text content =>
    rw [node]
    exact text_reads content h noLink
  | lineBreak soft =>
    obtain rfl : soft = true := literal
    rw [node]
    exact lineBreak_reads h outside below
  | _ => cases literal

theorem head?_noLink {rest : List Node} (literal : ∀ n ∈ rest, isLiteral n = true) :
    rest.head?.any Node.isLink = false := by
  cases rest with
  | nil => rfl
  | cons next rest =>
    have own := literal next List.mem_cons_self
    cases next with
    | text | lineBreak => rfl
    | _ => cases own

theorem not_all_breaks {nodes : List Node} (some_ : nodes ≠ [])
    (last : ∀ n, nodes.getLast? = some n → n.isLineBreak = false) :
    ¬ nodes.all Node.isLineBreak = true := by
  intro breaks
  have ends := List.getLast?_eq_some_getLast some_
  have break_ := List.all_eq_true.mp breaks _ (List.getLast_mem some_)
  rw [last _ ends] at break_
  cases break_

variable (settings) in
/-- A paragraph of texts and soft breaks that does not end with a break is read whole. -/
theorem paragraphInlines_reads {nodes : List Node} (literal : ∀ n ∈ nodes, isLiteral n = true)
    (last : ∀ n, nodes.getLast? = some n → n.isLineBreak = false) {s : RenderState}
    {read shown : List Char} (h : s.writer.Reads settings.softWraps read shown)
    (outside : s.inTableCell = false) (below : s.inHeading = false) :
    ∃ t shown', paragraphInlines settings nodes s = .ok () t ∧
      t.writer.Reads settings.softWraps (read ++ nodes.flatMap sourceOf) shown' := by
  induction nodes generalizing s read shown with
  | nil =>
    rw [paragraphInlines]
    exact ⟨s, shown, rfl, by simpa using h⟩
  | cons child rest ih =>
    have goesOn : ¬ (child.isLineBreak && rest.all Node.isLineBreak) = true :=
      not_all_breaks (List.cons_ne_nil child rest) last
    have others : ∀ n ∈ rest, isLiteral n = true := fun n m => literal n (List.mem_cons_of_mem _ m)
    have noLink : (if rest.all Node.isLineBreak then none else rest.head?).any Node.isLink =
        false := by
      split
      · rfl
      · exact head?_noLink others
    have later : ∀ n, rest.getLast? = some n → n.isLineBreak = false := by
      intro n ends
      apply last n
      rw [List.getLast?_cons, ends]
      rfl
    obtain ⟨t, shown₁, run, reads, cell, heading⟩ :=
      node_reads (literal child List.mem_cons_self) (by exact h)
        (s := { s with nextInline := if rest.all Node.isLineBreak then none else rest.head? })
        outside below noLink
    obtain ⟨u, shown₂, run', reads'⟩ :=
      ih others later reads (cell.trans outside) (heading.trans below)
    refine ⟨u, shown₂, ?_, ?_⟩
    · rw [paragraphInlines, if_neg goesOn, modify_bind, bind_of_ok run, run']
    · rw [List.flatMap_cons, ← List.append_assoc]
      exact reads'

/-- Breaks are no ink. -/
theorem ink_sourceOf {nodes : List Node} (literal : ∀ n ∈ nodes, isLiteral n = true) :
    Text.ink (nodes.flatMap sourceOf) = Text.ink (Node.allLeaves nodes) := by
  induction nodes with
  | nil => rfl
  | cons n rest ih =>
    have own := literal n List.mem_cons_self
    rw [List.flatMap_cons, Text.ink_append, Node.allLeaves, Text.ink_append,
      ih fun n m => literal n (List.mem_cons_of_mem _ m)]
    cases n with
    | text content => rw [sourceOf, Node.leaves]
    | lineBreak soft =>
      rw [sourceOf, Node.leaves]
      rfl
    | _ => cases own

end Render

namespace Token

theorem textNodes_literal (raw : String) : ∀ n ∈ textNodes raw, Render.isLiteral n = true := by
  have line (line : List Char) : ∀ n ∈ lineNodes line, Render.isLiteral n = true := by
    intro n m
    unfold lineNodes at m
    split at m
    · cases m
    · obtain rfl := List.mem_singleton.mp m
      rfl
  intro n m
  unfold textNodes at m
  split at m
  · cases m
  · obtain m | m := List.mem_append.mp m
    · exact line _ n m
    · obtain ⟨other, -, m⟩ := List.mem_flatMap.mp m
      obtain rfl | m := List.mem_cons.mp m
      · rfl
      · exact line other n m

theorem textNodes_source (raw : String) :
    (textNodes raw).flatMap Render.sourceOf = Text.joinSegments (softLines raw.toList) := by
  have line (line : List Char) : (lineNodes line).flatMap Render.sourceOf = line := by
    unfold lineNodes
    split
    · rename_i none_
      rw [List.isEmpty_iff.mp none_]
      rfl
    · simp [Render.sourceOf]
  unfold textNodes
  split
  · rename_i none_
    rw [none_]
    rfl
  · rename_i first rest lines
    rw [lines, Text.joinSegments_cons, List.flatMap_append, line, List.flatMap_assoc]
    simp [Render.sourceOf, line]

/-- The nodes of a text have its normal form. -/
theorem collapse_textNodes (raw : String) :
    Text.collapse ((textNodes raw).flatMap Render.sourceOf) = Text.collapse raw.toList := by
  rw [textNodes_source, collapse_softLines]

/-- A text that does not end within spacing does not become nodes that end with a break. -/
theorem textNodes_last {raw : String} (ends : Text.endsSpaced false raw.toList = false) {n : Node}
    (last : (textNodes raw).getLast? = some n) : n.isLineBreak = false := by
  have same : Text.endsSpaced false ((textNodes raw).flatMap Render.sourceOf) = false := by
    rw [← Text.endsSpaced_collapseRuns, ← Text.collapse, collapse_textNodes, Text.collapse,
      Text.endsSpaced_collapseRuns, ends]
  obtain ⟨front, nodes⟩ := List.getLast?_eq_some_iff.mp last
  have own := textNodes_literal raw n (by simp [nodes])
  cases n with
  | lineBreak soft =>
    rw [nodes, List.flatMap_append, Text.endsSpaced_eq] at same
    simp [Render.sourceOf, isSpacing] at same
  | _ => rfl

theorem ink_textNodes (raw : String) :
    Text.ink ((textNodes raw).flatMap Render.sourceOf) = Text.ink raw.toList := by
  rw [← Text.ink_collapse, collapse_textNodes, Text.ink_collapse]

theorem textNodes_visible {raw : String} (visible : Text.ink raw.toList ≠ []) :
    Node.allBlankInline (textNodes raw) = false := by
  by_contra blank
  have none_ := Node.ink_of_blankInlines _ (by simpa using blank)
  rw [← Render.ink_sourceOf (textNodes_literal raw), ink_textNodes] at none_
  exact visible none_

end Token

theorem Render.allBlocks_paragraph {settings : RendererSettings} {content : List Node}
    (visible : Node.allBlankInline content = false) (s : RenderState) :
    allBlocks settings [.paragraph content] s =
      paragraphInlines settings content { s with atLineStart := true, normalTail := [] } := by
  have whole : allBlocks settings [.paragraph content] = node settings (.paragraph content) := by
    simp [allBlocks, checkTexts, blocks, Node.isTextlessHtml, Node.isBlankBlock, visible]
  rw [whole, node]
  rfl

/-- What a document is read from is followed by a line end. -/
theorem RendererSettings.render_reads {settings : RendererSettings} {children : List Node}
    {t : RenderState} {read shown : List Char}
    (run : Render.allBlocks settings children {} = .ok () t)
    (reads : t.writer.Reads settings.softWraps read shown) (visible : Text.ink read ≠ []) :
    (settings.render (.document children)).1 = .ok (t.writer.out ++ "\n") := by
  have printed : (t.writer.write ['\n']).out = t.writer.out ++ "\n" := by
    rw [← String.toList_inj, (Writer.write_bare reads.bare (by simp)).1, reads.clear]
    simp
  have ink : ¬ (t.writer.out ++ "\n").toList.all Text.isNewline = true := by
    intro newlines
    have blank : Text.ink shown = [] := by
      refine Text.ink_eq_nil fun c m => Text.isBlank_of_isNewline ?_
      have inside := reads.escaped.sublist.subset m
      exact List.all_eq_true.mp newlines c (by simp [inside])
    rw [← Text.ink_collapse, reads.same, Text.ink_collapse] at blank
    exact visible blank
  rw [render_of_ok run, printed, if_neg ink]

/-- **Literal text reads back as itself.** The nodes of a text that does not end within spacing and
is not blank, as a paragraph by itself, print as one line or more and a last line end. Without the
backslashes before punctuation this has the same normal form as the text; and where soft breaks are
joined, it is that form. -/
theorem RendererSettings.render_literal (settings : RendererSettings) (raw : String)
    (ends : ∀ c, raw.toList.getLast? = some c → Text.isSpacing c = false)
    (visible : raw.toList.any (!Text.isBlank ·) = true) :
    ∃ out, (settings.render (.document [.paragraph (Token.textNodes raw)])).1 = .ok (out ++ "\n") ∧
      (settings.softWraps = .collapse →
        Markup.unescape out.toList = Text.collapse raw.toList) ∧
      Text.collapse (Markup.unescape out.toList) = Text.collapse raw.toList := by
  have open_ : Text.endsSpaced false raw.toList = false := by
    rw [Text.endsSpaced_eq]
    cases last : raw.toList.getLast? with
    | none => rfl
    | some c => exact ends c last
  have ink : Text.ink raw.toList ≠ [] := by
    intro blank
    obtain ⟨c, m, shown⟩ := List.any_eq_true.mp visible
    simp [Text.ink_eq_nil_iff.mp blank c m] at shown
  obtain ⟨t, shown, run, reads⟩ := Render.paragraphInlines_reads settings
    (Token.textNodes_literal raw) (fun n => Token.textNodes_last open_)
    (s := { ({} : RenderState) with atLineStart := true, normalTail := [] }) (.empty _) rfl rfl
  rw [← Render.allBlocks_paragraph (Token.textNodes_visible ink)] at run
  rw [List.nil_append] at reads
  have same : Text.collapse shown = Text.collapse raw.toList :=
    reads.same.trans (Token.collapse_textNodes raw)
  have unescaped : Markup.unescape t.writer.out.toList = shown := reads.escaped.unescape_eq
  rw [← Token.ink_textNodes] at ink
  refine ⟨t.writer.out, render_reads run reads ink, fun joins => ?_, ?_⟩
  · rw [unescaped, ← same]
    exact (reads.normal joins).symm
  · rw [unescaped, same]

theorem RendererSettings.render_literal_wrapped :
    (∃ out, (({ softWraps := .collapse } : RendererSettings).render (.document [.paragraph
        (Token.textNodes "1. *a*\r\n \t#b\\\n\n_c_!")])).1 = .ok (out ++ "\n") ∧
      Markup.unescape out.toList = "1. *a* #b\\ _c_!".toList) ∧
    ∃ out, (({ softWraps := .preserve } : RendererSettings).render (.document [.paragraph
        (Token.textNodes "1. *a*\r\n \t#b\\\n\n_c_!")])).1 = .ok (out ++ "\n") ∧
      Text.collapse (Markup.unescape out.toList) = "1. *a* #b\\ _c_!".toList := by
  have ends : ∀ c, "1. *a*\r\n \t#b\\\n\n_c_!".toList.getLast? = some c →
      Text.isSpacing c = false := by
    intro c last
    obtain rfl : '!' = c := by simpa using last
    decide
  have visible : "1. *a*\r\n \t#b\\\n\n_c_!".toList.any (!Text.isBlank ·) = true := by decide
  have form : Text.collapse "1. *a*\r\n \t#b\\\n\n_c_!".toList = "1. *a* #b\\ _c_!".toList := by
    decide
  obtain ⟨joined, run, reads, -⟩ := render_literal { softWraps := .collapse } _ ends visible
  obtain ⟨kept, run', -, reads'⟩ := render_literal { softWraps := .preserve } _ ends visible
  exact ⟨⟨joined, run, (reads rfl).trans form⟩, kept, run', reads'.trans form⟩

end MarkdownCanon
