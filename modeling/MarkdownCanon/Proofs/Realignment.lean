import MarkdownCanon.Proofs.Lockstep
import MarkdownCanon.Proofs.Margins

/-! Texts and writers that are the same but for the spaces in the margins of lines. Writing keeps
writers so, also while lists are indented in two ways, and whether or not the texts that are written
differ by such spaces in their turn. -/

namespace MarkdownCanon

namespace Text

/-- The characters that margins are made of. -/
def isMargin (c : Char) : Bool := c == ' ' || c == '>'

/-- A line without its margin. -/
def unmarked (line : List Char) : List Char := line.dropWhile isMargin

/-- A text without the spaces in the margins of its lines; `margin` tells whether it starts in
one. -/
def squeeze : Bool → List Char → List Char
  | _, [] => []
  | margin, c :: rest =>
    (if margin && c == ' ' then [] else [c]) ++ squeeze (c == '\n' || margin && isMargin c) rest

/-- Whether a text ends in the margin of a line. -/
def endsInMargin : Bool → List Char → Bool
  | margin, [] => margin
  | margin, c :: rest => endsInMargin (c == '\n' || margin && isMargin c) rest

theorem squeeze_append (margin : Bool) (a b : List Char) :
    squeeze margin (a ++ b) = squeeze margin a ++ squeeze (endsInMargin margin a) b := by
  induction a generalizing margin with
  | nil => rfl
  | cons c a ih => simp only [List.cons_append, squeeze, endsInMargin, ih, List.append_assoc]

theorem endsInMargin_append (margin : Bool) (a b : List Char) :
    endsInMargin margin (a ++ b) = endsInMargin (endsInMargin margin a) b := by
  induction a generalizing margin with
  | nil => rfl
  | cons c a ih => simp only [List.cons_append, endsInMargin, ih]

theorem endsInMargin_squeeze (margin : Bool) (text : List Char) :
    endsInMargin margin (squeeze margin text) = endsInMargin margin text := by
  induction text generalizing margin with
  | nil => rfl
  | cons c text ih =>
    rw [squeeze]
    by_cases dropped : (margin && c == ' ') = true
    · obtain ⟨rfl, space⟩ := Bool.and_eq_true_iff.mp dropped
      have step : (c == '\n' || true && isMargin c) = true := by simp [isMargin, space]
      rw [if_pos dropped, List.nil_append, endsInMargin, step]
      exact ih true
    · rw [if_neg dropped, List.singleton_append, endsInMargin, endsInMargin]
      exact ih _

theorem squeeze_sublist (margin : Bool) (text : List Char) :
    (squeeze margin text).Sublist text := by
  induction text generalizing margin with
  | nil => exact .slnil
  | cons c text ih =>
    rw [squeeze]
    split
    · exact (ih _).cons c
    · exact (ih _).cons_cons c

theorem mem_squeeze {c : Char} (other : c ≠ ' ') {text : List Char} (m : c ∈ text)
    (margin : Bool) : c ∈ squeeze margin text := by
  induction text generalizing margin with
  | nil => simp at m
  | cons d text ih =>
    rw [squeeze, List.mem_append]
    obtain rfl | m := List.mem_cons.mp m
    · simp [other]
    · exact .inr (ih m _)

/-- Of a margin the quote marks are left. -/
theorem squeeze_of_margin {text : List Char} (h : ∀ c ∈ text, isMargin c = true) :
    squeeze true text = text.filter (· == '>') ∧ endsInMargin true text = true := by
  induction text with
  | nil => exact ⟨rfl, rfl⟩
  | cons c text ih =>
    obtain ⟨kept, ends⟩ := ih fun d m => h d (by simp [m])
    have mark := h c (by simp)
    have step : (c == '\n' || true && isMargin c) = true := by simp [mark]
    rw [squeeze, endsInMargin, step, kept, ends]
    refine ⟨?_, rfl⟩
    obtain rfl | rfl : c = ' ' ∨ c = '>' := by simpa [isMargin] using mark
    · rfl
    · rfl

theorem squeeze_getLast? {text : List Char} (h : text.getLast? ≠ some ' ') (margin : Bool) :
    (squeeze margin text).getLast? = text.getLast? := by
  cases text using List.reverseRecOn with
  | nil => rfl
  | append_singleton text c =>
    have other : c ≠ ' ' := by simpa using h
    rw [squeeze_append]
    simp [squeeze, other]

/-- Nothing is squeezed out of a line that does not start in a margin. -/
theorem squeeze_false {line : List Char} (h : '\n' ∉ line) : squeeze false line = line := by
  induction line with
  | nil => rfl
  | cons c line ih =>
    simp only [List.mem_cons, not_or] at h
    have step : (c == '\n' || false && isMargin c) = false := by simp [Ne.symm h.1]
    rw [squeeze, step, ih h.2]
    rfl

theorem endsInMargin_false {line : List Char} (h : '\n' ∉ line) :
    endsInMargin false line = false := by
  induction line with
  | nil => rfl
  | cons c line ih =>
    simp only [List.mem_cons, not_or] at h
    have step : (c == '\n' || false && isMargin c) = false := by simp [Ne.symm h.1]
    rw [endsInMargin, step, ih h.2]

theorem squeeze_eq_nil {text : List Char} : squeeze false text = [] ↔ text = [] := by
  cases text <;> simp [squeeze]

theorem unmarked_squeeze {line : List Char} (h : '\n' ∉ line) :
    unmarked (squeeze true line) = unmarked line := by
  unfold unmarked
  induction line with
  | nil => rfl
  | cons c line ih =>
    simp only [List.mem_cons, not_or] at h
    rw [squeeze]
    by_cases mark : isMargin c = true
    · have step : (c == '\n' || true && isMargin c) = true := by simp [mark]
      rw [step, List.dropWhile_cons_of_pos mark, ← ih h.2]
      split
      · rfl
      · exact List.dropWhile_cons_of_pos mark
    · have step : (c == '\n' || true && isMargin c) = false := by simp [Ne.symm h.1, mark]
      have other : (true && c == ' ') = false := by
        simp only [isMargin, Bool.or_eq_true, not_or] at mark
        simpa using mark.1
      rw [step, squeeze_false h.2, other]
      rfl

theorem segments_squeeze {text first : List Char} {rest : List (List Char)}
    (h : segments text = first :: rest) (margin : Bool) :
    segments (squeeze margin text) = squeeze margin first :: rest.map (squeeze true) := by
  induction text generalizing first rest margin with
  | nil =>
    obtain ⟨rfl, rfl⟩ : [] = first ∧ [] = rest := by simpa using h
    rfl
  | cons c text ih =>
    obtain ⟨second, more, tail⟩ := List.exists_cons_of_ne_nil (Writer.segments_ne_nil text)
    rw [squeeze]
    by_cases newline : c = '\n'
    · subst newline
      rw [segments_newline, tail] at h
      cases h
      have kept : (margin && '\n' == ' ') = false := by simp
      rw [kept]
      exact (segments_newline _).trans (congrArg _ (ih tail true))
    · rw [segments_cons newline tail] at h
      cases h
      have later := ih tail (c == '\n' || margin && isMargin c)
      rw [squeeze]
      split
      · exact later
      · exact segments_cons newline later

/-- Texts that are the same but for the spaces in their margins have the same lines behind these. -/
theorem map_unmarked_of_squeeze {a b : List Char} (h : squeeze false a = squeeze false b) :
    (segments a).map unmarked = (segments b).map unmarked := by
  have lines (text : List Char) :
      (segments (squeeze false text)).map unmarked = (segments text).map unmarked := by
    obtain ⟨first, rest, cut⟩ := List.exists_cons_of_ne_nil (Writer.segments_ne_nil text)
    have line {l : List Char} (m : l ∈ segments text) := segments_line m
    rw [cut] at line
    rw [segments_squeeze cut, cut, squeeze_false (line List.mem_cons_self), List.map_cons,
      List.map_map, List.map_cons]
    congr 1
    refine List.map_congr_left fun l m => ?_
    exact unmarked_squeeze (line (List.mem_cons_of_mem _ m))
  rw [← lines a, h, lines b]

theorem squeeze_trimEnd (margin : Bool) (text : List Char) :
    squeeze margin (trimEnd isSpace text) = trimEnd isSpace (squeeze margin text) := by
  obtain ⟨cut, whole, spaces⟩ := trimEnd_eq_append isSpace text
  have last : (trimEnd isSpace text).getLast? ≠ some ' ' := by
    intro space
    simpa [isSpace] using trimEnd_last isSpace text space
  have squeezed (m : Bool) : ∀ c ∈ squeeze m cut, isSpace c = true :=
    fun c inside => spaces c ((squeeze_sublist m cut).subset inside)
  nth_rewrite 2 [whole]
  rw [squeeze_append, trimEnd_append, trimEnd_spaces (squeezed _), inMargin_nil]
  refine (trimEnd_of_getLast? ?_).symm
  rw [squeeze_getLast? last]
  exact last

theorem squeeze_dropWhile (text : List Char) :
    squeeze false (text.dropWhile isSpace) = (squeeze false text).dropWhile isSpace := by
  induction text with
  | nil => rfl
  | cons c text ih =>
    by_cases space : isSpace c = true
    · obtain rfl : c = ' ' := by simpa [isSpace] using space
      rw [List.dropWhile_cons_of_pos space, ih]
      rfl
    · rw [List.dropWhile_cons_of_neg space, squeeze]
      exact (List.dropWhile_cons_of_neg space).symm

theorem squeeze_trim (text : List Char) :
    squeeze false (trim isSpace text) = trim isSpace (squeeze false text) := by
  rw [trim, trim, squeeze_trimEnd, squeeze_dropWhile]

end Text

namespace Writer

open Text

theorem opening_subset (w : Writer) (segment : List Char) :
    w.opening segment ⊆ w.indentation.full := by
  intro c m
  rw [← w.indentation.indent_append]
  unfold opening at m
  split at m
  · rw [List.mem_append] at m ⊢
    refine m.imp_right fun m => ?_
    split at m
    · simp at m
    · exact m
  · simp at m

/-- Every line has the quote marks of its prefix. -/
theorem opening_quotes {w : Writer} (start : w.atLineStart = true) (segment : List Char) :
    (w.opening segment).filter (· == '>') = w.indentation.full.filter (· == '>') := by
  obtain ⟨cut, whole, spaces⟩ := trimEnd_eq_append isSpace w.indentation.full
  have none_ : cut.filter (· == '>') = [] := by
    rw [List.filter_eq_nil_iff]
    intro c m quote
    obtain rfl : c = '>' := by simpa using quote
    exact absurd (spaces _ m) (by decide)
  have trimmed : w.indentation.indent.filter (· == '>') =
      w.indentation.full.filter (· == '>') := by
    conv_rhs => rw [whole]
    rw [List.filter_append, none_, List.append_nil, Indentation.indent]
  rw [opening, if_pos start]
  split
  · rw [List.append_nil, trimmed]
  · rw [Indentation.indent_append]

/-- Something is out, other than line ends and the spaces of margins. -/
def Marked (w : Writer) : Prop := ∃ c ∈ squeeze false w.out.toList, c ≠ '\n'

/-- The same text is written, in lines that may differ by spaces in their margins. While nothing
is marked there is no difference at all. -/
structure Realigned (w v : Writer) : Prop extends w.Alike v where
  margins : ∀ c ∈ w.indentation.full ++ v.indentation.full, isMargin c = true
  quotes : v.indentation.full.filter (· == '>') = w.indentation.full.filter (· == '>')
  lineStart : w.atLineStart = true → w.out.toList = [] ∨ endsInMargin false w.out.toList = true
  text : squeeze false v.out.toList = squeeze false w.out.toList
  same : v.out = w.out ∧ v.indentation.full = w.indentation.full ∨ w.Marked

namespace Realigned

variable {w v : Writer}

theorem empty : Realigned {} {} where
  pending := rfl
  atLineStart := rfl
  last := rfl
  margins := by simp [Indentation.full]
  quotes := rfl
  lineStart _ := .inl rfl
  text := rfl
  same := .inl ⟨rfl, rfl⟩

theorem endsInMargin_eq (h : Realigned w v) :
    endsInMargin false v.out.toList = endsInMargin false w.out.toList := by
  rw [← endsInMargin_squeeze, h.text, endsInMargin_squeeze]

theorem marked_start (h : Realigned w v) (marked : w.Marked) (start : w.atLineStart = true) :
    endsInMargin false w.out.toList = true := by
  refine (h.lineStart start).resolve_left fun none_ => ?_
  obtain ⟨c, m, _⟩ := marked
  simp [none_, squeeze] at m

/-- Two openings of a line differ by spaces in the margin. -/
theorem opening_margin (h : Realigned w v) (start : w.atLineStart = true) (a b : List Char) :
    squeeze true (v.opening b) = squeeze true (w.opening a) ∧
      endsInMargin true (v.opening b) = true ∧ endsInMargin true (w.opening a) = true := by
  have start' : v.atLineStart = true := h.atLineStart.trans start
  have left : ∀ c ∈ w.opening a, isMargin c = true := fun c m =>
    h.margins c (List.mem_append_left _ (w.opening_subset a m))
  have right : ∀ c ∈ v.opening b, isMargin c = true := fun c m =>
    h.margins c (List.mem_append_right _ (v.opening_subset b m))
  obtain ⟨kept, ends⟩ := squeeze_of_margin left
  obtain ⟨kept', ends'⟩ := squeeze_of_margin right
  rw [kept, kept', opening_quotes start, opening_quotes start', h.quotes]
  exact ⟨rfl, ends', ends⟩

/-- What goes out before a segment is the same but for spaces in the margin. -/
theorem opening (h : Realigned w v) (segment : List Char) {margin : Bool}
    (ends : margin = endsInMargin false w.out.toList) :
    squeeze margin (v.opening segment) = squeeze margin (w.opening segment) ∧
      endsInMargin margin (v.opening segment) = endsInMargin margin (w.opening segment) := by
  by_cases start : w.atLineStart = true
  · by_cases marked : w.Marked
    · rw [ends, h.marked_start marked start]
      obtain ⟨kept, right, left⟩ := h.opening_margin start segment segment
      exact ⟨kept, right.trans left.symm⟩
    · have fulls := (h.same.resolve_right marked).2
      have equal : v.opening segment = w.opening segment := by
        simp only [Writer.opening, h.atLineStart, Indentation.whitespace, Indentation.indent,
          fulls]
      rw [equal]
      exact ⟨rfl, rfl⟩
  · have start' : v.atLineStart = false := by
      rw [h.atLineStart]
      simpa using start
    simp [Writer.opening, start, start']

/-- Texts that are the same but for spaces in margins go out on both sides. -/
theorem emit (h : Realigned w v) {a b : List Char} {start : Bool}
    (kept : squeeze (endsInMargin false w.out.toList) b =
      squeeze (endsInMargin false w.out.toList) a)
    (last : b.getLast? = a.getLast?)
    (equal : ¬ w.Marked → b = a)
    (ended : start = true → endsInMargin (endsInMargin false w.out.toList) a = true) :
    Realigned { w.emit a with pending := [], atLineStart := start }
      { v.emit b with pending := [], atLineStart := start } where
  pending := rfl
  atLineStart := rfl
  last := by simp only [Writer.emit, last, h.last]
  margins := h.margins
  quotes := h.quotes
  lineStart hs := by
    right
    simpa [Writer.emit, endsInMargin_append] using ended hs
  text := by
    simp only [Writer.emit, String.toList_append, String.toList_ofList, squeeze_append, h.text,
      h.endsInMargin_eq, kept]
  same := by
    by_cases marked : w.Marked
    · right
      obtain ⟨c, m, other⟩ := marked
      refine ⟨c, ?_, other⟩
      simp only [Writer.emit, String.toList_append, squeeze_append]
      exact List.mem_append_left _ m
    · left
      obtain ⟨outs, fulls⟩ := h.same.resolve_right marked
      simp only [Writer.emit, equal marked, outs]
      exact ⟨trivial, fulls⟩

theorem put (h : Realigned w v) (c : Char) : Realigned (w.put c) (v.put c) := by
  have front := h.opening (if c == '\n' then [] else [c]) rfl
  refine h.emit ?_ ?_ ?_ ?_
  · simp only [piece, squeeze_append, endsInMargin_append, h.pending]
    rw [front.1, front.2]
  · simp [piece]
  · intro unmarked
    have fulls := (h.same.resolve_right unmarked).2
    simp only [piece, Writer.opening, h.atLineStart, Indentation.whitespace, Indentation.indent,
      fulls, h.pending]
  · intro newline
    simp [piece, endsInMargin_append, endsInMargin, newline]

theorem pushIndent (h : Realigned w v) {a b : List Char}
    (margin : ∀ c ∈ a ++ b, isMargin c = true)
    (quotes : b.filter (· == '>') = a.filter (· == '>')) (equal : ¬ w.Marked → b = a) :
    Realigned (w.pushIndent a) (v.pushIndent b) where
  pending := h.pending
  atLineStart := h.atLineStart
  last := h.last
  margins c m := by
    have either : c ∈ w.indentation.full ++ v.indentation.full ∨ c ∈ a ++ b := by
      simp only [pushIndent_full, List.mem_append] at m ⊢
      tauto
    exact either.elim (h.margins c) (margin c)
  quotes := by
    rw [pushIndent_full, pushIndent_full, List.filter_append, List.filter_append, h.quotes, quotes]
  lineStart := h.lineStart
  text := h.text
  same := by
    by_cases marked : w.Marked
    · exact .inr marked
    · obtain ⟨outs, fulls⟩ := h.same.resolve_right marked
      refine .inl ⟨outs, ?_⟩
      rw [pushIndent_full, pushIndent_full, fulls, equal marked]

theorem marked_mono {u : Writer} (marked : w.Marked) (longer : w.out.toList <+: u.out.toList) :
    u.Marked := by
  obtain ⟨c, m, other⟩ := marked
  obtain ⟨more, whole⟩ := longer
  refine ⟨c, ?_, other⟩
  rw [← whole, squeeze_append]
  exact List.mem_append_left _ m

end Realigned

/-- Where the mark of an item is out, something is. -/
theorem marked_of_bullet {w : Writer} {marker : ListMarker}
    (out : marker.bullet.toList ⊆ w.out.toList) : w.Marked := by
  obtain ⟨c, m, other⟩ : ∃ c ∈ marker.bullet.toList, c ≠ ' ' ∧ c ≠ '\n' := by
    cases marker <;> simp [ListMarker.bullet]
  exact ⟨c, mem_squeeze other.1 (out m) false, other.2⟩

end Writer

/-- Lists may be indented in two ways side by side. -/
theorem realigned_accord (settings : RendererSettings) (style : ListIndent) (width : IndentWidth) :
    Accord settings (settings.reindented style width) False Writer.Realigned where
  alike _ _ h := h.toAlike
  put _ _ h c _ := h.put c
  stage _ _ h token _ :=
    { h with pending := by simp only [Writer.stage, h.pending] }
  unstage _ _ h _ _ := { h with pending := rfl }
  quote _ _ h := h.pushIndent (by simp [Render.quoteMarker, Text.isMargin]) rfl fun _ => rfl
  item w v h marked text first := by
    obtain ⟨marker, out⟩ := marked
    have spaces (n : Nat) : (List.replicate n ' ').filter (· == '>') = [] := by simp
    refine h.pushIndent ?_ (by rw [spaces, spaces]) fun unmarked => ?_
    · intro c m
      have space : c = ' ' := by
        rw [List.mem_append, List.mem_replicate, List.mem_replicate] at m
        exact m.elim (·.2) (·.2)
      simp [space, Text.isMargin]
    · exact absurd (Writer.marked_of_bullet out) unmarked
  back w v w' v' h h' longer :=
    { h' with
      margins := h.margins
      quotes := h.quotes
      same := by
        by_cases marked : w'.Marked
        · exact .inr marked
        · have unmarked : ¬ w.Marked := fun m => marked (Writer.Realigned.marked_mono m longer)
          exact .inl ⟨(h'.same.resolve_right marked).1, (h.same.resolve_right unmarked).2⟩ }

namespace Writer.Realigned

open Text

variable {w v : Writer}

/-- A line that differs by spaces in its margin is ended. -/
theorem closeLine (h : Realigned w v) (marked : w.Marked) (start : w.atLineStart = true)
    (clear : w.pending = []) {a b : List Char} (same : squeeze true b = squeeze true a) :
    Realigned (w.closeLine a) (v.closeLine b) := by
  obtain ⟨front, right, left⟩ := h.opening_margin start a b
  have ends : endsInMargin true b = endsInMargin true a := by
    rw [← endsInMargin_squeeze, same, endsInMargin_squeeze]
  refine h.emit ?_ (by simp) (fun unmarked => absurd marked unmarked) fun _ => ?_
  · rw [h.marked_start marked start, h.pending, clear]
    simp only [squeeze_append, endsInMargin_append, front, right, left, same, ends,
      List.append_nil]
  · simp [endsInMargin_append, endsInMargin]

/-- So is one that the text stops in, unless it stops in the margin. -/
theorem continueLine (h : Realigned w v) (marked : w.Marked) (start : w.atLineStart = true)
    (clear : w.pending = []) {a b : List Char} (same : squeeze true b = squeeze true a)
    (last : a.getLast? ≠ some ' ') (last' : b.getLast? ≠ some ' ') :
    Realigned (w.continueLine a) (v.continueLine b) := by
  have ends : b.getLast? = a.getLast? := by
    rw [← squeeze_getLast? last true, ← squeeze_getLast? last' true, same]
  have empty : b = [] ↔ a = [] := by
    rw [← List.getLast?_eq_none_iff, ends, List.getLast?_eq_none_iff]
  by_cases none_ : a = []
  · rw [none_, empty.mpr none_]
    exact h
  · have shown : b ≠ [] := fun e => none_ (empty.mp e)
    obtain ⟨front, right, left⟩ := h.opening_margin start a b
    unfold Writer.continueLine
    rw [if_neg (by simpa using none_), if_neg (by simpa using shown)]
    refine h.emit ?_ ?_ (fun unmarked => absurd marked unmarked) fun never => by cases never
    · rw [h.marked_start marked start, h.pending, clear]
      simp only [squeeze_append, front, right, left, same, List.append_nil]
    · rw [List.getLast?_append_of_ne_nil _ shown, List.getLast?_append_of_ne_nil _ none_, ends]

theorem marked_closeLine (marked : w.Marked) (segment : List Char) : (w.closeLine segment).Marked :=
  marked_mono marked ⟨w.opening segment ++ w.pending ++ segment ++ ['\n'], by
    simp [Writer.closeLine, Writer.emit]⟩

theorem writeSegments (h : Realigned w v) (marked : w.Marked) (start : w.atLineStart = true)
    (clear : w.pending = []) {first first' : List Char} {rest rest' : List (List Char)}
    (same : (first' :: rest').map (squeeze true) = (first :: rest).map (squeeze true))
    (last : ∀ l, (first :: rest).getLast? = some l → l.getLast? ≠ some ' ')
    (last' : ∀ l, (first' :: rest').getLast? = some l → l.getLast? ≠ some ' ') :
    Realigned (w.writeSegments (first :: rest)) (v.writeSegments (first' :: rest')) := by
  induction rest generalizing w v first first' rest' with
  | nil =>
    obtain ⟨line, rfl⟩ : squeeze true first' = squeeze true first ∧ rest' = [] := by
      simpa using same
    exact h.continueLine marked start clear line (last _ rfl) (last' _ rfl)
  | cons second rest ih =>
    cases rest' with
    | nil => simp at same
    | cons second' rest' =>
      obtain ⟨line, later⟩ := List.cons.inj same
      rw [List.getLast?_cons_cons] at last last'
      rw [Writer.writeSegments, Writer.writeSegments]
      exact ih (h.closeLine marked start clear line) (marked_closeLine marked _) rfl rfl later
        last last'

theorem write (h : Realigned w v) (text : List Char) : Realigned (w.write text) (v.write text) :=
  (realigned_accord {} .uniform .standard).write h False.elim

theorem marked_write {c : Char} (space : c ≠ ' ') (newline : c ≠ '\n') (w : Writer)
    (text : List Char) : (w.write (c :: text)).Marked := by
  rw [Writer.write_cons]
  have put : c ∈ (w.put c).out.toList := by simp [Writer.put, Writer.emit, Writer.piece]
  exact marked_mono ⟨c, mem_squeeze space put false, newline⟩ ((w.put c).write_out text)

/-- Texts whose lines differ by spaces in their margins keep writers related, where the first line
begins with a mark. -/
theorem write_squeezed (h : Realigned w v) {c : Char} (space : c ≠ ' ') (newline : c ≠ '\n')
    {a b : List Char} (same : squeeze false (c :: b) = squeeze false (c :: a))
    (last : (c :: a).getLast? ≠ some ' ') (last' : (c :: b).getLast? ≠ some ' ') :
    Realigned (w.write (c :: a)) (v.write (c :: b)) := by
  obtain ⟨first, rest, cut⟩ := List.exists_cons_of_ne_nil (segments_ne_nil a)
  obtain ⟨first', rest', cut'⟩ := List.exists_cons_of_ne_nil (segments_ne_nil b)
  replace cut := segments_cons newline cut
  replace cut' := segments_cons newline cut'
  have line : '\n' ∉ c :: first := segments_line (cut ▸ List.mem_cons_self)
  have line' : '\n' ∉ c :: first' := segments_line (cut' ▸ List.mem_cons_self)
  have lines := congrArg segments same
  rw [segments_squeeze cut, segments_squeeze cut', squeeze_false line, squeeze_false line',
    List.cons.injEq] at lines
  obtain ⟨equal, later⟩ := lines
  rw [equal] at cut'
  cases rest with
  | nil =>
    obtain rfl : rest' = [] := by simpa using later
    have whole : c :: b = c :: a := by
      rw [← joinSegments_segments (c :: b), ← joinSegments_segments (c :: a), cut, cut']
    rw [whole]
    exact h.write _
  | cons second rest =>
    cases rest' with
    | nil => simp at later
    | cons second' rest' =>
      -- The first lines are the same on both sides and leave a mark.
      have closed := h.write (c :: first ++ ['\n'])
      have marked := marked_write space newline w (first ++ ['\n'])
      rw [← List.cons_append, write_line line] at marked
      rw [write_line line, write_line line] at closed
      rw [Writer.write, cut, Writer.write, cut', Writer.writeSegments, Writer.writeSegments]
      refine closed.writeSegments marked rfl rfl later ?_ ?_
      · intro l hl
        rw [← List.getLast?_cons_cons, ← cut] at hl
        exact fun ends => last (segments_getLast? hl ends)
      · intro l hl
        rw [← List.getLast?_cons_cons, ← cut'] at hl
        exact fun ends => last' (segments_getLast? hl ends)

end Writer.Realigned

end MarkdownCanon
