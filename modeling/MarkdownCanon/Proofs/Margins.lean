import MarkdownCanon.Proofs.LineEnds
import MarkdownCanon.Proofs.Running

/-! Texts as lines, and lines behind a margin. -/

namespace MarkdownCanon

namespace Text

theorem segments_eq_splitOn (text : List Char) : segments text = text.splitOn '\n' := by
  unfold segments List.splitOn
  induction text with
  | nil => simp [splitAt]
  | cons c text ih =>
    rw [splitAt, List.splitOnP_cons_eq_if_modifyHead, ih]
    by_cases newline : (c == '\n') = true
    · rw [if_pos newline, if_pos newline]
    · rw [if_neg newline, if_neg newline]
      have some_ := List.splitOnP_ne_nil (· == '\n') text
      cases h : text.splitOnP (· == '\n') with
      | nil => exact absurd h some_
      | cons first rest => rfl

theorem joinSegments_segments (text : List Char) : joinSegments (segments text) = text := by
  rw [joinSegments, segments_eq_splitOn]
  exact List.intercalate_splitOn '\n'

theorem segments_joinSegments {lines : List (List Char)} (free : ∀ line ∈ lines, '\n' ∉ line)
    (some_ : lines ≠ []) : segments (joinSegments lines) = lines := by
  rw [joinSegments, segments_eq_splitOn]
  exact List.splitOn_intercalate '\n' free some_

@[simp] theorem segments_nil : segments [] = [[]] := rfl

@[simp] theorem segments_newline (text : List Char) :
    segments ('\n' :: text) = [] :: segments text := by
  simp [segments, splitAt]

theorem segments_cons {c : Char} (line : c ≠ '\n') {text first : List Char}
    {rest : List (List Char)} (h : segments text = first :: rest) :
    segments (c :: text) = (c :: first) :: rest := by
  rw [segments] at h
  simp [segments, splitAt, line, h]

/-- What lies between two line ends is a line. -/
theorem segments_line {text line : List Char} (m : line ∈ segments text) : '\n' ∉ line := by
  induction text generalizing line with
  | nil =>
    obtain rfl : line = [] := by simpa using m
    simp
  | cons c text ih =>
    by_cases newline : c = '\n'
    · subst newline
      rw [segments_newline] at m
      obtain rfl | m := List.mem_cons.mp m
      · simp
      · exact ih m
    · obtain ⟨first, rest, h⟩ := List.exists_cons_of_ne_nil (Writer.segments_ne_nil text)
      rw [segments_cons newline h] at m
      obtain rfl | m := List.mem_cons.mp m
      · have := ih (h ▸ List.mem_cons_self)
        simp [Ne.symm newline, this]
      · exact ih (h ▸ List.mem_cons_of_mem _ m)

/-- The last piece of a text is what the text ends with. -/
theorem segments_suffix {text line : List Char} (h : (segments text).getLast? = some line) :
    line <:+ text := by
  induction text generalizing line with
  | nil =>
    obtain rfl : [] = line := by simpa using h
    exact List.suffix_rfl
  | cons c text ih =>
    obtain ⟨first, rest, cut⟩ := List.exists_cons_of_ne_nil (Writer.segments_ne_nil text)
    by_cases newline : c = '\n'
    · subst newline
      rw [segments_newline, cut, List.getLast?_cons_cons, ← cut] at h
      exact (ih h).trans (List.suffix_cons _ _)
    · rw [segments_cons newline cut] at h
      cases rest with
      | nil =>
        obtain rfl : c :: first = line := by simpa using h
        have whole : first = text := by
          rw [← joinSegments_segments text, cut, joinSegments, List.intercalate_singleton]
        rw [whole]
      | cons second rest =>
        rw [List.getLast?_cons_cons] at h
        rw [cut, List.getLast?_cons_cons] at ih
        exact (ih h).trans (List.suffix_cons _ _)

theorem segments_getLast? {text line : List Char} {c : Char}
    (h : (segments text).getLast? = some line) (last : line.getLast? = some c) :
    text.getLast? = some c := by
  obtain ⟨front, rfl⟩ := segments_suffix h
  simp [List.getLast?_append, last]

/-- Lines that have ended, and the line that a text stops in. -/
def page (lines : List (List Char)) (last : List Char) : List Char :=
  lines.flatMap (· ++ ['\n']) ++ last

theorem page_append (lines : List (List Char)) (last more : List Char) :
    page lines last ++ more = page lines (last ++ more) := by
  simp [page]

theorem page_newline (lines : List (List Char)) (last : List Char) :
    page lines (last ++ ['\n']) = page (lines ++ [last]) [] := by
  simp [page]

theorem page_eq_joinSegments (lines : List (List Char)) (last : List Char) :
    page lines last = joinSegments (lines ++ [last]) := by
  induction lines with
  | nil => simp [page, joinSegments]
  | cons line lines ih =>
    have more : lines ++ [last] ≠ [] := by simp
    obtain ⟨second, rest, h⟩ := List.exists_cons_of_ne_nil more
    have split : page (line :: lines) last = line ++ ['\n'] ++ page lines last := by simp [page]
    rw [split, ih, List.cons_append, h, joinSegments, joinSegments, List.intercalate_cons_cons]

theorem joinSegments_cons (first : List Char) (rest : List (List Char)) :
    joinSegments (first :: rest) = first ++ rest.flatMap fun line => '\n' :: line := by
  induction rest generalizing first with
  | nil => simp [joinSegments]
  | cons second rest ih =>
    have split : joinSegments (first :: second :: rest) =
        first ++ ['\n'] ++ joinSegments (second :: rest) := List.intercalate_cons_cons
    rw [split, ih]
    simp

theorem page_getLast? {lines : List (List Char)} {last : List Char} (shown : page lines last ≠ [])
    (open_ : (page lines last).getLast? ≠ some '\n') : last ≠ [] := by
  rintro rfl
  cases lines using List.reverseRecOn with
  | nil => exact shown rfl
  | append_singleton lines line => exact open_ (by simp [page])

/-- The last piece of a text that does not end with a line end is not empty. -/
theorem segments_last {text line : List Char} (shown : text ≠ [])
    (open_ : text.getLast? ≠ some '\n') (h : (segments text).getLast? = some line) :
    line ≠ [] := by
  obtain ⟨lines, cut⟩ := List.getLast?_eq_some_iff.mp h
  have whole : page lines line = text := by
    rw [page_eq_joinSegments, ← cut, joinSegments_segments]
  rw [← whole] at shown open_
  exact page_getLast? shown open_

/-- A line behind a margin. An empty line does not have the spaces at the end of its margin. -/
def inMargin (margin line : List Char) : List Char :=
  if line.isEmpty then trimEnd isSpace margin else margin ++ line

@[simp] theorem inMargin_nil (margin : List Char) : inMargin margin [] = trimEnd isSpace margin :=
  rfl

theorem inMargin_of_ne_nil {line : List Char} (h : line ≠ []) (margin : List Char) :
    inMargin margin line = margin ++ line := by
  simp [inMargin, h]

theorem trimEnd_append (a b : List Char) :
    trimEnd isSpace (a ++ b) = inMargin a (trimEnd isSpace b) := by
  unfold trimEnd
  rw [List.reverse_append, List.dropWhile_append]
  by_cases blank : (b.reverse.dropWhile isSpace).isEmpty = true
  · rw [if_pos blank, List.isEmpty_iff.mp blank]
    rfl
  · rw [if_neg blank, List.reverse_append, List.reverse_reverse, inMargin_of_ne_nil]
    simpa using blank

theorem trimEnd_spaces {text : List Char} (h : ∀ c ∈ text, isSpace c = true) :
    trimEnd isSpace text = [] := by
  have all : ∀ c ∈ text.reverse, isSpace c = true := fun c m => h c (List.mem_reverse.mp m)
  rw [trimEnd, List.dropWhile_eq_nil_iff.mpr all, List.reverse_nil]

theorem trimEnd_of_getLast? {text : List Char} (h : text.getLast? ≠ some ' ') :
    trimEnd isSpace text = text := by
  cases text using List.reverseRecOn with
  | nil => rfl
  | append_singleton text c =>
    have other : isSpace c = false := by simpa [isSpace] using h
    simp [trimEnd, other]

/-- Behind two margins stands what stands behind the one made of both. -/
theorem inMargin_append (a b line : List Char) :
    inMargin (a ++ b) line = inMargin a (inMargin b line) := by
  by_cases empty : line = []
  · rw [empty, inMargin_nil, inMargin_nil, trimEnd_append]
  · have shown : b ++ line ≠ [] := by simp [empty]
    rw [inMargin_of_ne_nil empty, inMargin_of_ne_nil empty, inMargin_of_ne_nil shown,
      List.append_assoc]

end Text

theorem Indentation.indent_append (i : Indentation) : i.indent ++ i.whitespace = i.full := by
  obtain ⟨cut, whole, _⟩ := Text.trimEnd_eq_append Text.isSpace i.full
  have first : i.indent <+: i.full := ⟨cut, whole.symm⟩
  exact List.prefix_iff_eq_append.mp first

@[simp] theorem Writer.pushIndent_full (w : Writer) (piece : List Char) :
    (w.pushIndent piece).indentation.full = w.indentation.full ++ piece := by
  simp [Writer.pushIndent, Indentation.push, Indentation.full]

theorem Writer.write_line {line : List Char} (h : '\n' ∉ line) (w : Writer) :
    w.write (line ++ ['\n']) = w.closeLine line := by
  have lines : Text.segments (Text.joinSegments [line, []]) = [line, []] :=
    Text.segments_joinSegments (by simp [h]) (by simp)
  rw [Writer.write, show line ++ ['\n'] = Text.joinSegments [line, []] by
    simp [Text.joinSegments, List.intercalate_cons_cons], lines]
  rfl

theorem Writer.opening_nil (w : Writer) :
    w.opening [] = if w.atLineStart then w.indentation.indent else [] := by
  simp [Writer.opening]

theorem Writer.opening_of_ne_nil (w : Writer) {segment : List Char} (h : segment ≠ []) :
    w.opening segment = if w.atLineStart then w.indentation.full else [] := by
  simp [Writer.opening, h, Indentation.indent_append]

theorem Writer.put_out {c : Char} (h : c ≠ '\n') (w : Writer) : (w.put c).out.toList =
    w.out.toList ++ ((if w.atLineStart then w.indentation.full else []) ++ w.pending ++ [c]) := by
  simp [Writer.put, Writer.emit, Writer.piece, h, w.opening_of_ne_nil]

theorem Writer.put_newline_out (w : Writer) : (w.put '\n').out.toList = w.out.toList ++
    ((if w.atLineStart then w.indentation.indent else []) ++ w.pending ++ ['\n']) := by
  simp [Writer.put, Writer.emit, Writer.piece, w.opening_nil]

theorem Writer.opening_append (w : Writer) (segment : List Char) : w.opening segment ++ segment =
    if w.atLineStart then Text.inMargin w.indentation.full segment else segment := by
  by_cases empty : segment = []
  · rw [empty, List.append_nil, w.opening_nil]
    rfl
  · rw [w.opening_of_ne_nil empty, Text.inMargin_of_ne_nil empty]
    split <;> rfl

/-- Nothing is staged: a text goes out line by line, each line behind the prefix if it starts
there. -/
theorem Writer.writeSegments_out {w : Writer} (clear : w.pending = []) {first : List Char}
    {rest : List (List Char)} (last : ∀ line, (first :: rest).getLast? = some line → line ≠ []) :
    (w.writeSegments (first :: rest)).out.toList = w.out.toList ++
        ((if w.atLineStart then Text.inMargin w.indentation.full first else first) ++
          rest.flatMap fun line => '\n' :: Text.inMargin w.indentation.full line) ∧
      (w.writeSegments (first :: rest)).atLineStart = false := by
  induction rest generalizing w first with
  | nil =>
    have shown : first ≠ [] := last first rfl
    have text : w.opening first ++ w.pending ++ first =
        if w.atLineStart then Text.inMargin w.indentation.full first else first := by
      rw [clear, List.append_nil, w.opening_append]
    rw [Writer.writeSegments, Writer.continueLine, if_neg (by simpa using shown), text]
    simp [Writer.emit]
  | cons second rest ih =>
    have text : w.opening first ++ w.pending ++ first ++ ['\n'] =
        (if w.atLineStart then Text.inMargin w.indentation.full first else first) ++ ['\n'] := by
      rw [clear, List.append_nil, w.opening_append]
    rw [List.getLast?_cons_cons] at last
    obtain ⟨out, mid⟩ := @ih (w.closeLine first) rfl second last
    rw [Writer.writeSegments, out]
    refine ⟨?_, mid⟩
    rw [Writer.closeLine, text]
    simp [Writer.emit]

theorem Writer.write_on_line {w : Writer} (clear : w.pending = []) {text : List Char}
    (shown : text ≠ []) (line : '\n' ∉ text) :
    (w.write text).out.toList =
        w.out.toList ++ ((if w.atLineStart then w.indentation.full else []) ++ text) ∧
      (w.write text).atLineStart = false := by
  have cut : Text.segments text = [text] := by
    have whole : Text.joinSegments [text] = text := List.intercalate_singleton
    rw [← whole, Text.segments_joinSegments (by simpa using line) (by simp), whole]
  have last : ∀ l, [text].getLast? = some l → l ≠ [] := by simp [shown]
  obtain ⟨out, mid⟩ := writeSegments_out clear last
  rw [Writer.write, cut, out]
  refine ⟨?_, mid⟩
  split <;> simp [Text.inMargin_of_ne_nil shown]

/-- A document whose blocks stop in the middle of a line that shows something. -/
theorem RendererSettings.render_of_line {settings : RendererSettings} {children : List Node}
    {t : RenderState} (run : Render.allBlocks settings children {} = .ok () t)
    (clear : t.writer.pending = []) (mid : t.writer.atLineStart = false)
    (shown : ∃ c ∈ t.writer.out.toList, c ≠ '\n') :
    (settings.render (.document children)).1 =
      .ok (String.ofList (t.writer.out.toList ++ ['\n'])) := by
  have ended : (t.writer.write ['\n']).out.toList = t.writer.out.toList ++ ['\n'] := by
    rw [Writer.write_cons, Writer.write_nil, Writer.put_newline_out]
    simp [mid, clear]
  have text : (t.writer.out.toList ++ ['\n']).all Text.isNewline = false := by
    obtain ⟨c, m, other⟩ := shown
    rw [List.all_eq_false]
    exact ⟨c, List.mem_append_left _ m, by simpa [Text.isNewline] using other⟩
  rw [render_of_ok run, ended, text, ← ended, String.ofList_toList]
  rfl

end MarkdownCanon
