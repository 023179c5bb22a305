import Mathlib.Data.List.TakeWhile
import MarkdownCanon.Render.Block
import MarkdownCanon.Render.Grid

/-! The visible characters of a text, and that no part of printing takes one away: spacing is
normalised, ends are trimmed, backslashes and delimiters are put in, and a line of a table has room
for every cell. -/

namespace MarkdownCanon

namespace Text

/-- The characters of a text that are not white space. -/
def ink (cs : List Char) : List Char := cs.filter (!isBlank ·)

@[simp] theorem ink_nil : ink [] = [] := rfl

@[simp] theorem ink_append (a b : List Char) : ink (a ++ b) = ink a ++ ink b :=
  List.filter_append a b

theorem ink_cons (c : Char) (cs : List Char) :
    ink (c :: cs) = if isBlank c then ink cs else c :: ink cs := by
  cases h : isBlank c <;> simp [ink, h]

theorem ink_sublist (cs : List Char) : (ink cs).Sublist cs := List.filter_sublist

/-- What holds the ink of a text passes it on to any text with the same ink as itself. -/
theorem ink_sublist_of_eq {a b c : List Char} (h : (ink a).Sublist b) (same : ink b = ink c) :
    (ink a).Sublist c := by
  have kept : (ink (ink a)).Sublist (ink b) := h.filter _
  rw [same] at kept
  have twice : ink (ink a) = ink a := by simp [ink, List.filter_filter]
  exact (twice ▸ kept).trans (ink_sublist c)

theorem ink_eq_nil_iff {cs : List Char} : ink cs = [] ↔ ∀ c ∈ cs, isBlank c = true := by
  simp [ink]

theorem ink_eq_nil {cs : List Char} (h : ∀ c ∈ cs, isBlank c = true) : ink cs = [] :=
  ink_eq_nil_iff.mpr h

theorem isBlank_of_isSpace {c : Char} (h : isSpace c = true) : isBlank c = true := by
  rw [eq_of_beq h]
  rfl

theorem isBlank_of_isNewline {c : Char} (h : isNewline c = true) : isBlank c = true := by
  rw [eq_of_beq h]
  rfl

theorem isBlank_of_isSpacing {c : Char} (h : isSpacing c = true) : isBlank c = true := by
  simp only [isSpacing, Bool.or_eq_true, beq_iff_eq] at h
  obtain ((rfl | rfl) | rfl) | rfl := h <;> rfl

theorem ink_reverse (cs : List Char) : ink cs.reverse = (ink cs).reverse := List.filter_reverse

section Trim

variable {p : Char → Bool} (blank : ∀ c, p c = true → isBlank c = true)

include blank

theorem ink_dropWhile (cs : List Char) : ink (cs.dropWhile p) = ink cs := by
  have dropped : ink (cs.takeWhile p) = [] :=
    ink_eq_nil fun c m => blank c (List.mem_takeWhile_imp m)
  calc ink (cs.dropWhile p)
      = ink (cs.takeWhile p ++ cs.dropWhile p) := by rw [ink_append, dropped, List.nil_append]
    _ = ink cs := by rw [List.takeWhile_append_dropWhile]

theorem ink_trimEnd (cs : List Char) : ink (trimEnd p cs) = ink cs := by
  rw [trimEnd, ink_reverse, ink_dropWhile blank, ink_reverse, List.reverse_reverse]

theorem ink_trim (cs : List Char) : ink (trim p cs) = ink cs := by
  rw [trim, ink_trimEnd blank, ink_dropWhile blank]

end Trim

/-- A text without ink is trimmed away. -/
theorem trim_eq_nil {cs : List Char} (h : ink cs = []) : trim isBlank cs = [] := by
  have dropped : cs.dropWhile isBlank = [] := by
    simpa [List.dropWhile_eq_nil_iff] using ink_eq_nil_iff.mp h
  rw [trim, dropped]
  rfl

theorem ink_collapseRuns (inRun : Bool) (cs : List Char) :
    ink (collapseRuns isSpacing ' ' inRun cs) = ink cs := by
  have space : isBlank ' ' = true := rfl
  induction cs generalizing inRun with
  | nil => rfl
  | cons c cs ih =>
    rw [collapseRuns]
    split
    · rename_i spacing
      rw [ink_cons c, isBlank_of_isSpacing spacing]
      split <;> simp [ink_cons, space, ih]
    · rw [ink_cons, ink_cons, ih]

@[simp] theorem ink_collapse (cs : List Char) : ink (collapse cs) = ink cs :=
  ink_collapseRuns false cs

theorem ink_unbroken (cs : List Char) :
    ink (cs.map fun c => if c == '\n' then ' ' else c) = ink cs := by
  have space : isBlank ' ' = true := rfl
  have newline : isBlank '\n' = true := rfl
  induction cs with
  | nil => rfl
  | cons c cs ih =>
    rw [List.map_cons, ink_cons, ink_cons, ih]
    by_cases h : c = '\n' <;> simp [h, space, newline]

end Text

namespace Markup

theorem escapeFrom_sublist (place : Place) (seen tail text : List Char) :
    text.Sublist (escapeFrom place seen tail text).1 := by
  induction text generalizing seen tail with
  | nil => exact List.nil_sublist _
  | cons c rest ih =>
    have step (cs : List Char) : (c :: cs).Sublist ('\\' :: c :: cs) := List.sublist_cons_self _ _
    rw [escapeFrom]
    dsimp only
    split
    · exact ((ih _ _).cons_cons c).trans (step _)
    · exact (ih _ _).cons_cons c

theorem escape_sublist (place : Place) (tail text : List Char) :
    text.Sublist (escape place tail text).1 := by
  unfold escape
  split
  · split
    · exact List.sublist_cons_self _ _
    · exact escapeFrom_sublist _ _ _ _
  · exact escapeFrom_sublist _ _ _ _

theorem guardPipes_sublist (afterBackslash : Bool) (cs : List Char) :
    cs.Sublist (guardPipes afterBackslash cs) := by
  induction cs generalizing afterBackslash with
  | nil => exact List.nil_sublist _
  | cons c rest ih =>
    rw [guardPipes]
    split
    · rename_i pipe
      have : c = '|' := by simp_all
      rw [this]
      exact ((ih false).cons_cons '|').cons '\\'
    · exact (ih _).cons_cons c

theorem backslashBefore_sublist (p : Char → Bool) (cs : List Char) :
    cs.Sublist (backslashBefore p cs) := by
  induction cs with
  | nil => exact List.nil_sublist _
  | cons c cs ih =>
    have here : [c].Sublist (if p c then ['\\', c] else [c]) := by
      split
      · exact List.sublist_cons_self _ _
      · exact List.Sublist.refl _
    exact here.append ih

theorem destination_sublist (url : List Char) : url.Sublist (destination url) := by
  unfold destination
  split
  · exact ((backslashBefore_sublist _ url).trans (List.sublist_append_left _ _)).cons '<'
  · exact List.Sublist.refl _

theorem title_sublist (text : List Char) : text.Sublist (title text) :=
  ((backslashBefore_sublist _ text).trans (List.sublist_append_left _ _)).cons '"'

theorem linkTail_sublist (url text : List Char) : (url ++ text).Sublist (linkTail url text) := by
  have spaced : text.Sublist (if text.isEmpty then [] else ' ' :: title text) := by
    split
    · simp_all
    · exact (title_sublist text).cons ' '
  have both := (destination_sublist url).append spaced
  rw [linkTail, List.append_assoc "](".toList]
  exact (both.trans (List.sublist_append_right _ _)).trans (List.sublist_append_left _ _)

theorem codeSpan_ink (delimiter code : List Char) :
    (Text.ink code).Sublist (codeSpan delimiter code).content := by
  rw [← Text.ink_unbroken code]
  refine (Text.ink_sublist _).trans ?_
  unfold codeSpan
  dsimp only
  split
  · exact (List.sublist_append_left _ _).cons ' '
  · exact List.Sublist.refl _

theorem codeSpan_text_sublist (span : CodeSpan) : span.content.Sublist span.text :=
  (List.sublist_append_right _ _).trans (List.sublist_append_left _ _)

end Markup

namespace Render

theorem spacedText_ink (content : String) (w : Writer) :
    Text.ink (spacedText content w) = Text.ink content.toList := by
  have space (cs : List Char) : Text.ink (' ' :: cs) = Text.ink cs := rfl
  rw [← Text.ink_collapse content.toList]
  unfold spacedText
  split
  · rename_i h
    rw [h]
    split <;> simp only [space]
  · rfl

theorem guardBang_sublist (escaped : List Char) (next : Option Node) :
    escaped.Sublist (guardBang escaped next) := by
  unfold guardBang
  split
  · rename_i h
    have last : escaped.getLast? = some '!' := by simp_all
    obtain ⟨front, rfl⟩ := List.getLast?_eq_some_iff.mp last
    rw [List.dropLast_concat]
    exact (List.Sublist.refl _).append (List.sublist_cons_self _ _)
  · exact List.Sublist.refl _

theorem identifierSuffix_sublist (identifier : Option String) :
    (identifier.getD "").toList.Sublist (identifierSuffix identifier) := by
  unfold identifierSuffix
  dsimp only
  split
  · simp_all
  · exact (List.sublist_append_right _ _).trans (List.sublist_append_left _ _)

theorem headingText_sublist (settings : RendererSettings) (level : HeadingLevel)
    (identifier : Option String) (text : List Char) :
    (text ++ (identifier.getD "").toList).Sublist (headingText settings level identifier text) := by
  have spaced (part : List Char) : part.Sublist (if part.isEmpty then [] else ' ' :: part) := by
    split
    · simp_all
    · exact List.sublist_cons_self _ _
  have suffix := (identifierSuffix_sublist identifier).trans (spaced _)
  unfold headingText
  dsimp only
  split
  · split
    · rename_i empty
      rw [List.isEmpty_iff.mp empty, List.nil_append]
      exact suffix.trans (List.sublist_append_right _ _)
    · exact ((List.Sublist.refl text).append suffix).trans (List.sublist_append_left _ _)
  · rw [List.append_assoc]
    exact ((spaced text).append suffix).trans (List.sublist_append_right _ _)

theorem formattedCode_nil (block : CodeBlock) : formattedCode [] block = block.content := by
  simp [formattedCode, CodeFormatter.apply, CodeFormatter.find?]

theorem endLine_sublist (text : String) :
    text.toList.Sublist (CodeFormatter.endLine text).toList := by
  unfold CodeFormatter.endLine
  split
  · exact List.Sublist.refl _
  · rw [String.toList_append]
    exact List.sublist_append_left _ _

theorem infoText_ink (block : CodeBlock) :
    Text.ink (infoText block).toList = Text.ink (block.info.getD "").toList := by
  simp [infoText, Text.strip, Text.ink_trim]

theorem codeBlockText_ink (block : CodeBlock) :
    (Text.ink (block.info.getD "").toList ++ block.content.toList).Sublist
      (codeBlockText [] block) := by
  have info := Text.ink_sublist (infoText block).toList
  rw [infoText_ink] at info
  have code := (endLine_sublist block.content).cons '\n'
  unfold codeBlockText
  rw [formattedCode_nil]
  dsimp only
  refine (info.append code).trans (List.Sublist.trans ?_ (List.sublist_append_left _ _))
  rw [List.append_assoc]
  exact List.sublist_append_right _ _

end Render

namespace Grid

theorem widen_length (width column : Nat) (widths : List Nat) :
    (widen width column widths).length = max widths.length (column + 1) := by
  fun_induction widen width column widths <;> simp_all

/-- Measuring a row makes room for all of its cells and takes away none. -/
theorem measureFrom_length (grid : Grid) (column : Nat) (texts : List (List Char)) :
    grid.widths.length ≤ (grid.measureFrom column texts).widths.length ∧
    (texts ≠ [] → column + texts.length ≤ (grid.measureFrom column texts).widths.length) := by
  induction texts generalizing grid column with
  | nil => exact ⟨Nat.le_refl _, fun h => absurd rfl h⟩
  | cons text rest ih =>
    obtain ⟨grown, room⟩ := ih (grid.measure column (Text.cells text)) (column + 1)
    have wide : (grid.measure column (Text.cells text)).widths.length =
        max grid.widths.length (column + 1) := widen_length ..
    rw [measureFrom, List.length_cons]
    by_cases h : rest = []
    · subst h
      simp only [List.length_nil]
      omega
    · have := room h
      omega

theorem measureRow_length (grid : Grid) (texts : List (List Char)) :
    grid.widths.length ≤ (grid.measureRow texts).widths.length ∧
    texts.length ≤ (grid.measureRow texts).widths.length := by
  obtain ⟨grown, room⟩ := measureFrom_length grid 0 texts
  refine ⟨grown, ?_⟩
  by_cases h : texts = []
  · simp [h]
  · have := room h
    simp only [measureRow]
    omega

theorem pad_sublist (text : List Char) (width : Nat) (alignment : Option Alignment) :
    text.Sublist (pad text width alignment) := by
  unfold pad
  dsimp only
  split
  · exact List.sublist_append_right _ _
  · exact (List.sublist_append_right _ _).trans (List.sublist_append_left _ _)
  · exact List.sublist_append_left _ _

/-- A line with a column for each of its texts holds them all, in order. -/
theorem cellsLine_sublist (widths : List Nat) (alignments : List (Option Alignment))
    (texts : List (List Char)) (room : texts.length ≤ widths.length) :
    texts.flatten.Sublist (cellsLine widths alignments texts) := by
  induction widths generalizing alignments texts with
  | nil =>
    have : texts = [] := by simpa using room
    simp [this]
  | cons width widths ih =>
    cases texts with
    | nil => exact List.nil_sublist _
    | cons text rest =>
      have later := ih alignments.tail rest (by simpa using room)
      have here := pad_sublist text width (alignments.headD none)
      rw [cellsLine, List.flatten_cons]
      exact ((here.append (later.cons ' ')).cons ' ').cons '|'

end Grid

end MarkdownCanon
