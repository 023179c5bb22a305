import Mathlib.Data.List.Infix
import MarkdownCanon.Proofs.Ink
import MarkdownCanon.Proofs.Writing

/-! Where texts have line ends. Texts that neither start nor end with one can be put together, also
with a separator between them, without three line ends coming to stand in a row. -/

namespace MarkdownCanon

namespace Text

/-- No three line ends in a row. -/
abbrev Calm (text : List Char) : Prop := ¬ ['\n', '\n', '\n'] <:+: text

theorem calm_of_line {text : List Char} (line : '\n' ∉ text) : Calm text :=
  fun triple => line (triple.subset List.mem_cons_self)

/-- Line ends meet where a text that ends with one is followed by one that starts with one. -/
theorem Calm.append {a b : List Char} (ha : Calm a) (hb : Calm b)
    (apart : a.getLast? ≠ some '\n' ∨ b.head? ≠ some '\n') : Calm (a ++ b) := by
  intro triple
  obtain h | h | ⟨x, y, hx, hy, whole, behind, front⟩ := List.infix_append_iff_ne_nil.mp triple
  · exact ha h
  · exact hb h
  · have newlines : ∀ c ∈ x ++ y, c = '\n' := by
      rw [← whole]
      simp
    obtain apart | apart := apart
    · obtain ⟨before, rfl⟩ := behind
      apply apart
      rw [List.getLast?_append_of_ne_nil _ hx, List.getLast?_eq_some_getLast hx]
      rw [newlines _ (List.mem_append_left _ (List.getLast_mem hx))]
    · obtain ⟨after, rfl⟩ := front
      apply apart
      rw [List.head?_append_of_ne_nil _ hy, List.head?_eq_some_head hy]
      rw [newlines _ (List.mem_append_right _ (List.head_mem hy))]

/-- A text that neither starts nor ends with a line end. -/
structure Smooth (text : List Char) : Prop where
  head : text.head? ≠ some '\n'
  last : text.getLast? ≠ some '\n'
  calm : Calm text

theorem smooth_of_line {text : List Char} (line : '\n' ∉ text) : Smooth text where
  head h := line (List.mem_of_head? h)
  last h := line (List.mem_of_getLast? h)
  calm := calm_of_line line

theorem Smooth.append {a b : List Char} (ha : Smooth a) (hb : Smooth b) : Smooth (a ++ b) where
  head := by
    cases a with
    | nil => exact hb.head
    | cons c a => exact ha.head
  last := by
    cases b with
    | nil => simpa using ha.last
    | cons c b =>
      rw [List.getLast?_append_of_ne_nil _ (by simp)]
      exact hb.last
  calm := ha.calm.append hb.calm (.inl ha.last)

/-- A smooth text that is one. -/
structure Solid (text : List Char) : Prop extends Smooth text where
  ne_nil : text ≠ []

theorem solid_of_line {text : List Char} (line : '\n' ∉ text) (some_ : text ≠ []) : Solid text :=
  ⟨smooth_of_line line, some_⟩

theorem Solid.append {a b : List Char} (ha : Solid a) (hb : Smooth b) : Solid (a ++ b) :=
  ⟨ha.toSmooth.append hb, by simp [ha.ne_nil]⟩

theorem Smooth.append_solid {a b : List Char} (ha : Smooth a) (hb : Solid b) : Solid (a ++ b) :=
  ⟨ha.append hb.toSmooth, by simp [hb.ne_nil]⟩

/-- Solid texts may have line ends between them. -/
theorem Solid.around {a b between : List Char} (ha : Solid a) (hb : Solid b) (calm : Calm between) :
    Solid (a ++ (between ++ b)) := by
  have later : Calm (between ++ b) := calm.append hb.calm (.inr hb.head)
  refine ⟨⟨?_, ?_, ha.calm.append later (.inl ha.last)⟩, by simp [ha.ne_nil]⟩
  · rw [List.head?_append_of_ne_nil _ ha.ne_nil]
    exact ha.head
  · rw [← List.append_assoc, List.getLast?_append_of_ne_nil _ hb.ne_nil]
    exact hb.last

theorem Solid.line {a b : List Char} (ha : Solid a) (hb : Solid b) : Solid (a ++ '\n' :: b) := by
  have both : Solid (a ++ (['\n'] ++ b)) := ha.around hb (by decide)
  exact both

/-- One line end, or two. -/
def IsGap (gap : List Char) : Prop := gap = ['\n'] ∨ gap = ['\n', '\n']

theorem IsGap.calm {gap : List Char} (h : IsGap gap) : Calm gap := by
  obtain rfl | rfl := h <;> decide

end Text

namespace Prefixed

open Text

/-- A line end that comes first has nothing in front of it. -/
theorem of_newline {text out : List Char} (h : Prefixed text ('\n' :: out)) :
    ∃ rest, text = '\n' :: rest ∧ Prefixed rest out := by
  generalize same : '\n' :: out = all at h
  cases h with
  | nil => cases same
  | cons front c line rest =>
    cases front with
    | nil =>
      cases same
      exact ⟨_, rfl, rest⟩
    | cons d front =>
      cases same
      exact absurd List.mem_cons_self line

theorem triple {text out : List Char} (h : Prefixed text out)
    (inside : ['\n', '\n', '\n'] <:+: out) : ['\n', '\n', '\n'] <:+: text := by
  induction h with
  | nil => exact inside
  | cons front c line rest ih =>
    have none_ {x : List Char} (part : x <:+: front) (newlines : '\n' ∈ x) : False :=
      line (part.subset newlines)
    obtain h | h | ⟨x, y, hx, _, whole, behind, _⟩ := List.infix_append_iff_ne_nil.mp inside
    · exact (none_ h List.mem_cons_self).elim
    · obtain ⟨after, first⟩ | h := List.infix_cons_iff.mp h
      · have all : Prefixed _ ('\n' :: '\n' :: '\n' :: after) := first ▸ cons [] c (by simp) rest
        obtain ⟨_, one, second⟩ := all.of_newline
        obtain ⟨_, rfl, third⟩ := second.of_newline
        obtain ⟨_, rfl, _⟩ := third.of_newline
        rw [one]
        exact ⟨[], _, rfl⟩
      · exact List.infix_cons (ih h)
    · obtain ⟨d, x, rfl⟩ := List.exists_cons_of_ne_nil hx
      obtain rfl : '\n' = d := by simpa using congrArg List.head? whole
      exact (none_ behind.isInfix List.mem_cons_self).elim

theorem head {text out : List Char} (h : Prefixed text out) (free : text.head? ≠ some '\n') :
    out.head? ≠ some '\n' := by
  cases h with
  | nil => exact free
  | cons front c line rest =>
    cases front with
    | nil => exact free
    | cons d front =>
      intro same
      cases same
      exact line List.mem_cons_self

theorem getLast? {text out : List Char} (h : Prefixed text out) : out.getLast? = text.getLast? := by
  induction h with
  | nil => rfl
  | cons front c _ _ ih =>
    rw [List.getLast?_append_of_ne_nil _ (by simp), List.getLast?_cons, List.getLast?_cons, ih]

theorem cut {a b out : List Char} (h : Prefixed (a ++ b) out) :
    ∃ x y, out = x ++ y ∧ Prefixed a x ∧ Prefixed b y := by
  induction a generalizing out with
  | nil => exact ⟨[], out, rfl, .nil, h⟩
  | cons c a ih =>
    obtain _ | ⟨front, _, line, rest⟩ := h
    obtain ⟨x, y, rfl, hx, hy⟩ := ih rest
    exact ⟨front ++ c :: x, y, by simp, .cons front c line hx, hy⟩

theorem smooth {text out : List Char} (h : Prefixed text out) (s : Smooth text) : Smooth out :=
  ⟨h.head s.head, h.getLast? ▸ s.last, fun inside => s.calm (h.triple inside)⟩

/-- The line end behind a smooth text stays alone. -/
theorem ended {text out : List Char} (h : Prefixed (text ++ ['\n']) out) (s : Smooth text) :
    ∃ body, out = body ++ ['\n'] ∧ Smooth body := by
  obtain ⟨x, y, rfl, shown, last⟩ := h.cut
  obtain _ | ⟨front, _, line, _ | _⟩ := last
  exact ⟨x ++ front, by simp, (shown.smooth s).append (smooth_of_line line)⟩

end Prefixed

namespace Text

theorem collapseRuns_line (inRun : Bool) (cs : List Char) :
    '\n' ∉ collapseRuns isSpacing ' ' inRun cs := by
  induction cs generalizing inRun with
  | nil => simp [collapseRuns]
  | cons c cs ih =>
    rw [collapseRuns]
    split
    · split
      · exact ih true
      · simp [ih true]
    · rename_i other
      have : '\n' ≠ c := by
        rintro rfl
        exact other rfl
      simp [this, ih false]

theorem collapse_line (cs : List Char) : '\n' ∉ collapse cs := collapseRuns_line false cs

theorem mem_collapseRuns {c : Char} {cs : List Char} (inRun : Bool) (m : c ∈ cs)
    (visible : isSpacing c = false) : c ∈ collapseRuns isSpacing ' ' inRun cs := by
  induction cs generalizing inRun with
  | nil => simp at m
  | cons d cs ih =>
    rw [collapseRuns]
    obtain rfl | m := List.mem_cons.mp m
    · simp [visible]
    · split
      · split
        · exact ih true m
        · exact List.mem_cons_of_mem _ (ih true m)
      · exact List.mem_cons_of_mem _ (ih false m)

theorem trimEnd_eq_append (p : Char → Bool) (cs : List Char) :
    ∃ cut, cs = trimEnd p cs ++ cut ∧ ∀ c ∈ cut, p c = true := by
  refine ⟨(cs.reverse.takeWhile p).reverse, ?_, fun c m => ?_⟩
  · rw [trimEnd, ← List.reverse_append, List.takeWhile_append_dropWhile, List.reverse_reverse]
  · exact List.mem_takeWhile_imp (List.mem_reverse.mp m)

theorem trimEnd_last (p : Char → Bool) {c : Char} (cs : List Char)
    (last : (trimEnd p cs).getLast? = some c) : p c = false := by
  rw [trimEnd, List.getLast?_reverse] at last
  have := List.head?_dropWhile_not p cs.reverse
  rw [last] at this
  simpa using this

theorem trim_sublist (p : Char → Bool) (cs : List Char) : (trim p cs).Sublist cs := by
  obtain ⟨cut, whole, _⟩ := trimEnd_eq_append p (cs.dropWhile p)
  have kept := List.sublist_append_left (trim p cs) cut
  rw [trim, ← whole] at kept
  exact kept.trans (List.dropWhile_sublist p)

end Text

namespace Markup

theorem mem_escapeFrom {c : Char} {place : Place} {seen tail text : List Char}
    (m : c ∈ (escapeFrom place seen tail text).1) : c = '\\' ∨ c ∈ text := by
  induction text generalizing seen tail with
  | nil => exact .inr m
  | cons d rest ih =>
    rw [escapeFrom] at m
    obtain m | m := List.mem_append.mp m
    · have : c = '\\' ∨ c = d := by
        split at m
        · simpa using m
        · exact .inr (by simpa using m)
      obtain h | rfl := this
      · exact .inl h
      · exact .inr List.mem_cons_self
    · exact (ih m).imp id (List.mem_cons_of_mem _)

theorem mem_escape {c : Char} {place : Place} {tail text : List Char}
    (m : c ∈ (escape place tail text).1) : c = '\\' ∨ c ∈ text := by
  unfold escape at m
  split at m
  · split at m
    · simpa using m
    · exact mem_escapeFrom m
  · exact mem_escapeFrom m

theorem mem_guardPipes {c : Char} {afterBackslash : Bool} {cs : List Char}
    (m : c ∈ guardPipes afterBackslash cs) : c = '\\' ∨ c ∈ cs := by
  induction cs generalizing afterBackslash with
  | nil => exact .inr m
  | cons d rest ih =>
    rw [guardPipes] at m
    split at m
    · rename_i pipe
      have : d = '|' := by simp_all
      simp only [List.mem_cons] at m ⊢
      obtain rfl | rfl | m := m
      · exact .inl rfl
      · exact .inr (.inl this.symm)
      · exact (ih m).imp id .inr
    · obtain rfl | m := List.mem_cons.mp m
      · exact .inr List.mem_cons_self
      · exact (ih m).imp id (List.mem_cons_of_mem _)

theorem mem_backslashBefore {c : Char} {p : Char → Bool} {cs : List Char}
    (m : c ∈ backslashBefore p cs) : c = '\\' ∨ c ∈ cs := by
  obtain ⟨d, hd, m⟩ := List.mem_flatMap.mp m
  have : c = '\\' ∨ c = d := by
    split at m
    · simpa using m
    · exact .inr (by simpa using m)
  obtain h | rfl := this
  · exact .inl h
  · exact .inr hd

/-- A link's tail holds its destination, its title and its own punctuation. -/
theorem linkTail_notMem {c : Char} (other : c ∉ "\\]()<> \"".toList) {url text : List Char}
    (hu : c ∉ url) (ht : c ∉ text) : c ∉ linkTail url text := by
  simp only [String.reduceToList, List.mem_cons, List.not_mem_nil, or_false, not_or] at other
  have escaped {p : Char → Bool} {cs : List Char} (free : c ∉ cs) : c ∉ backslashBefore p cs :=
    fun m => (mem_backslashBefore m).elim other.1 free
  have first : c ∉ destination url := by
    unfold destination
    split
    · simp [escaped hu, other]
    · exact hu
  have second : c ∉ title text := by simp [title, escaped ht, other]
  unfold linkTail
  split <;> simp [first, second, other]

theorem linkTail_line {url text : List Char} (hu : '\n' ∉ url) (ht : '\n' ∉ text) :
    '\n' ∉ linkTail url text :=
  linkTail_notMem (by decide) hu ht

theorem codeSpan_line (code : List Char) :
    '\n' ∉ (codeSpan ['\x60'] code).content ∧ '\n' ∉ (codeSpan ['\x60'] code).fence := by
  have line : '\n' ∉ code.map fun c => if c == '\n' then ' ' else c := by
    intro m
    obtain ⟨c, _, same⟩ := List.mem_map.mp m
    split at same
    · cases same
    · simp_all
  constructor
  · unfold codeSpan
    dsimp only
    split
    · intro m
      obtain m | m := List.mem_append.mp m
      · exact line (by simpa using m)
      · simp at m
    · exact line
  · simp [codeSpan]

end Markup

namespace Render

theorem spacedText_line (content : String) (w : Writer) : '\n' ∉ spacedText content w := by
  have line := Text.collapse_line content.toList
  unfold spacedText
  split
  · rename_i h
    rw [h] at line
    split
    · exact fun m => line (List.mem_cons_of_mem _ m)
    · exact line
  · exact line

theorem mem_spacedText {content : String} {c : Char} (m : c ∈ content.toList)
    (visible : Text.isSpacing c = false) (w : Writer) : c ∈ spacedText content w := by
  have kept : c ∈ Text.collapse content.toList := Text.mem_collapseRuns false m visible
  unfold spacedText
  split
  · rename_i h
    rw [h] at kept
    split
    · obtain rfl | kept := List.mem_cons.mp kept
      · cases visible
      · exact kept
    · exact kept
  · exact kept

theorem guardBang_line {escaped : List Char} (line : '\n' ∉ escaped) (next : Option Node) :
    '\n' ∉ guardBang escaped next := by
  unfold guardBang
  split
  · have : '\n' ∉ escaped.dropLast := fun m => line ((List.dropLast_sublist _).subset m)
    simp [this]
  · exact line

theorem written_line (content : String) (w : Writer) (place : Markup.Place) (tail : List Char)
    (next : Option Node) :
    '\n' ∉ guardBang (Markup.escape place tail (spacedText content w)).1 next :=
  guardBang_line (fun m => (Markup.mem_escape m).elim (by decide) (spacedText_line content w)) next

theorem written_ne_nil {content : String} (visible : content.toList.any (!Text.isSpacing ·) = true)
    (w : Writer) (place : Markup.Place) (tail : List Char) (next : Option Node) :
    guardBang (Markup.escape place tail (spacedText content w)).1 next ≠ [] := by
  obtain ⟨c, m, hc⟩ := List.any_eq_true.mp visible
  have kept := mem_spacedText m (by simpa using hc) w
  have shown := ((Markup.escape_sublist place tail _).trans (guardBang_sublist _ next)).subset kept
  exact List.ne_nil_of_mem shown

theorem identifierSuffix_line {identifier : Option String}
    (line : '\n' ∉ (identifier.getD "").toList) : '\n' ∉ identifierSuffix identifier := by
  unfold identifierSuffix
  dsimp only
  split <;> simp [line]

theorem underline?_line {settings : RendererSettings} {level : HeadingLevel} {mark : Char}
    (h : underline? settings level = some mark) : mark ≠ '\n' := by
  rintro rfl
  unfold underline? at h
  split at h
  · split at h <;> cases h
  · cases h

theorem takeWhile_line {line : List Char} (h : '\n' ∉ line) (rest : List Char) :
    (line ++ '\n' :: rest).takeWhile (· != '\n') = line := by
  have all : ∀ c ∈ line, (c != '\n') = true := by
    intro c m
    have : c ≠ '\n' := fun same => h (same ▸ m)
    simp [this]
  rw [List.takeWhile_append_of_pos all, List.takeWhile_cons]
  simp

/-- A heading is one line, or a line and a line of marks that is as wide. -/
theorem headingText_solid {settings : RendererSettings} {level : HeadingLevel}
    {identifier : Option String} {text : List Char} (hi : '\n' ∉ (identifier.getD "").toList)
    (ht : '\n' ∉ text) (wide : (underline? settings level).isSome = true →
      0 < Text.cells ((headingText settings level identifier text).takeWhile (· != '\n'))) :
    Text.Solid (headingText settings level identifier text) := by
  have spaced {part : List Char} (line : '\n' ∉ part) :
      '\n' ∉ if part.isEmpty then [] else ' ' :: part := by
    split <;> simp [line]
  have suffix := spaced (identifierSuffix_line hi)
  have marks : List.replicate level.val '#' ≠ [] := by
    have := level.property.1
    simp only [ne_eq, List.replicate_eq_nil_iff]
    omega
  have hashes : '\n' ∉ List.replicate level.val '#' := by simp
  unfold headingText at wide ⊢
  dsimp only at wide ⊢
  cases under : underline? settings level with
  | none =>
    simp only
    refine Text.solid_of_line ?_ (by simp [marks])
    simp only [List.mem_append, not_or]
    exact ⟨⟨hashes, spaced ht⟩, suffix⟩
  | some mark =>
    simp only [under, Option.isSome_some, true_implies] at wide ⊢
    split
    · refine Text.solid_of_line ?_ (by simp [marks])
      simp only [List.mem_append, not_or]
      exact ⟨hashes, suffix⟩
    · rename_i some_
      rw [if_neg some_] at wide
      have line : '\n' ∉ text ++
          if (identifierSuffix identifier).isEmpty then []
          else ' ' :: identifierSuffix identifier := by
        simp only [List.mem_append, not_or]
        exact ⟨ht, suffix⟩
      rw [takeWhile_line line] at wide
      have first := Text.solid_of_line line (by simp_all)
      have second : Text.Solid (List.replicate (Text.cells (text ++
          if (identifierSuffix identifier).isEmpty then [] else ' ' :: identifierSuffix identifier))
          mark) := by
        refine Text.solid_of_line (fun m => ?_) (by simpa using Nat.pos_iff_ne_zero.mp wide)
        exact underline?_line under (List.eq_of_mem_replicate m).symm
      exact first.line second

theorem fenceChar_line (block : CodeBlock) : fenceChar block ≠ '\n' := by
  have char (fence : Fence) (swap : Bool) : (if swap then '~' else fence.char) ≠ '\n' := by
    cases swap <;> cases fence <;> decide
  exact char _ _

theorem infoText_line {block : CodeBlock} (h : '\n' ∉ (block.info.getD "").toList) :
    '\n' ∉ (infoText block).toList := by
  intro m
  rw [infoText, Text.strip, String.toList_ofList] at m
  exact h ((Text.trim_sublist _ _).subset m)

theorem endLine_calm {code : String} (h : Text.Calm ('\n' :: code.toList)) :
    Text.Calm ('\n' :: (CodeFormatter.endLine code).toList) := by
  unfold CodeFormatter.endLine
  split
  · exact h
  · rename_i open_
    have last : ('\n' :: code.toList).getLast? ≠ some '\n' := by
      simp only [Bool.or_eq_true, not_or, beq_iff_eq] at open_
      have some_ : code.toList ≠ [] := by simpa using open_.1
      rw [List.getLast?_cons_of_ne_nil some_]
      exact open_.2
    rw [String.toList_append, ← List.cons_append]
    exact Text.Calm.append h (by decide) (.inl last)

theorem codeBlockText_solid {block : CodeBlock} (hi : '\n' ∉ (block.info.getD "").toList)
    (hc : Text.Calm ('\n' :: block.content.toList)) : Text.Solid (codeBlockText [] block) := by
  have fence (n : Nat) : Text.Solid (List.replicate (max 3 n) (fenceChar block)) := by
    refine Text.solid_of_line (fun m => ?_) ?_
    · exact fenceChar_line block (List.eq_of_mem_replicate m).symm
    · simp only [ne_eq, List.replicate_eq_nil_iff]
      omega
  unfold codeBlockText
  rw [formattedCode_nil]
  dsimp only
  rw [List.append_assoc _ ('\n' :: _)]
  have info := Text.smooth_of_line (infoText_line hi)
  exact ((fence _).append info).around (fence _) (endLine_calm hc)

/-- Raw HTML that is not blank, without the line ends behind it. -/
theorem trimEnd_solid {content : List Char} (visible : content.all Text.isNewline = false)
    (head : (Text.trimEnd Text.isNewline content).head? ≠ some '\n')
    (calm : Text.Calm (Text.trimEnd Text.isNewline content)) :
    Text.Solid (Text.trimEnd Text.isNewline content) := by
  refine ⟨⟨head, fun last => ?_, calm⟩, fun empty => ?_⟩
  · cases Text.trimEnd_last _ _ last
  · obtain ⟨cut, whole, newlines⟩ := Text.trimEnd_eq_append Text.isNewline content
    rw [empty, List.nil_append] at whole
    rw [whole, List.all_eq_true.mpr newlines] at visible
    cases visible

end Render

namespace Grid

theorem pad_line {text : List Char} (h : '\n' ∉ text) (width : Nat) (alignment : Option Alignment) :
    '\n' ∉ pad text width alignment := by
  unfold pad
  dsimp only
  split <;> simp [h]

theorem cellsLine_line (widths : List Nat) (alignments : List (Option Alignment))
    {texts : List (List Char)} (h : ∀ text ∈ texts, '\n' ∉ text) :
    '\n' ∉ cellsLine widths alignments texts := by
  induction widths generalizing alignments texts with
  | nil => simp [cellsLine]
  | cons width widths ih =>
    have here : '\n' ∉ texts.headD [] := by
      cases texts with
      | nil => simp
      | cons text rest => exact h text List.mem_cons_self
    have later := ih alignments.tail fun text m => h text (List.mem_of_mem_tail m)
    have cell := pad_line here width (alignments.headD none)
    rw [cellsLine]
    simp only [List.mem_append, List.mem_cons, not_or]
    exact ⟨⟨by decide, by decide, cell⟩, by decide, later⟩

theorem cellsLine_solid (widths : List Nat) (alignments : List (Option Alignment))
    {texts : List (List Char)} (h : ∀ text ∈ texts, '\n' ∉ text) :
    Text.Solid (cellsLine widths alignments texts) :=
  Text.solid_of_line (cellsLine_line widths alignments h) (by cases widths <;> simp [cellsLine])

theorem delimiterLine_line (grid : Grid) : '\n' ∉ grid.delimiterLine := by
  have cell (width : Nat) (alignment : Option Alignment) : '\n' ∉ delimiter width alignment := by
    unfold delimiter
    split <;> split <;> simp
  simp only [delimiterLine, List.mem_cons, List.mem_flatMap, not_or, not_exists, not_and]
  refine ⟨by decide, fun piece m inside => ?_⟩
  obtain ⟨i, hi, rfl⟩ := List.mem_iff_getElem.mp m
  simp [cell] at inside

theorem delimiterLine_solid (grid : Grid) : Text.Solid grid.delimiterLine :=
  Text.solid_of_line grid.delimiterLine_line (by simp [delimiterLine])

end Grid

end MarkdownCanon
