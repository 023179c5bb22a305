import MarkdownCanon.Proofs.Margins

/-! What the writer makes of a text that starts on a line of its own: the same lines behind the
prefix, from which they can be had back. A prefix of several pieces may be put on at once or piece
by piece. -/

namespace MarkdownCanon

namespace Text

/-- The lines of a text behind a margin. The last one has not ended, so that nothing stands before
it unless it holds something. -/
def marginLines (margin : List Char) : List (List Char) → List (List Char)
  | [] => []
  | [last] => [if last.isEmpty then [] else margin ++ last]
  | line :: next :: rest => inMargin margin line :: marginLines margin (next :: rest)

/-- A text behind a margin. -/
def shift (margin text : List Char) : List Char :=
  joinSegments (marginLines margin (segments text))

/-- A line without as much of a margin as it starts with. -/
def dropMargin : List Char → List Char → List Char
  | m :: margin, c :: line => if m = c then dropMargin margin line else c :: line
  | _, line => line

/-- A text without the margin of its lines. -/
def unshift (margin text : List Char) : List Char :=
  joinSegments ((segments text).map (dropMargin margin))

section Lines

variable {margin : List Char} {lines : List (List Char)}

theorem marginLines_cons (margin line : List Char) (some_ : lines ≠ []) :
    marginLines margin (line :: lines) = inMargin margin line :: marginLines margin lines := by
  obtain ⟨next, rest, rfl⟩ := List.exists_cons_of_ne_nil some_
  rfl

theorem marginLines_ne_nil (margin : List Char) (some_ : lines ≠ []) :
    marginLines margin lines ≠ [] := by
  fun_cases marginLines margin lines <;> simp_all

theorem inMargin_line (free : '\n' ∉ margin) {line : List Char} (one : '\n' ∉ line) :
    '\n' ∉ inMargin margin line := by
  obtain ⟨cut, whole, -⟩ := trimEnd_eq_append isSpace margin
  unfold inMargin
  split
  · exact fun m => free (whole ▸ List.mem_append_left cut m)
  · simp [free, one]

theorem marginLines_free (free : '\n' ∉ margin) (one : ∀ line ∈ lines, '\n' ∉ line) :
    ∀ line ∈ marginLines margin lines, '\n' ∉ line := by
  induction lines with
  | nil => simp [marginLines]
  | cons line lines ih =>
    cases lines with
    | nil =>
      have here : '\n' ∉ line := one line List.mem_cons_self
      rw [marginLines]
      split <;> simp [free, here]
    | cons next rest =>
      rw [marginLines, List.forall_mem_cons]
      refine ⟨inMargin_line free (one line List.mem_cons_self), ih fun l m => ?_⟩
      exact one l (List.mem_cons_of_mem _ m)

/-- A text behind a margin has its own lines, each behind the margin. -/
theorem segments_shift (free : '\n' ∉ margin) (text : List Char) :
    segments (shift margin text) = marginLines margin (segments text) :=
  segments_joinSegments (marginLines_free free fun _ => segments_line)
    (marginLines_ne_nil margin (Writer.segments_ne_nil text))

theorem marginLines_append (outer inner : List Char) (lines : List (List Char)) :
    marginLines (outer ++ inner) lines = marginLines outer (marginLines inner lines) := by
  induction lines with
  | nil => rfl
  | cons line lines ih =>
    cases lines with
    | nil => by_cases empty : line = [] <;> simp [marginLines, empty]
    | cons next rest =>
      have more : next :: rest ≠ [] := by simp
      rw [marginLines_cons _ _ more, marginLines_cons _ _ more,
        marginLines_cons _ _ (marginLines_ne_nil inner more), inMargin_append, ih]

/-- Two margins may be put on one after the other, the inner one first. -/
theorem shift_append (outer : List Char) {inner : List Char} (free : '\n' ∉ inner)
    (text : List Char) : shift (outer ++ inner) text = shift outer (shift inner text) := by
  rw [shift, marginLines_append, ← segments_shift free]
  rfl

theorem dropMargin_append (margin line : List Char) :
    dropMargin margin (margin ++ line) = line := by
  induction margin with
  | nil => cases line <;> rfl
  | cons m margin ih => rw [List.cons_append, dropMargin, if_pos rfl, ih]

/-- The beginning of a margin is nothing but margin. -/
theorem dropMargin_front (front rest : List Char) : dropMargin (front ++ rest) front = [] := by
  induction front with
  | nil => cases rest <;> rfl
  | cons m front ih => rw [List.cons_append, dropMargin, if_pos rfl, ih]

theorem dropMargin_inMargin (margin line : List Char) :
    dropMargin margin (inMargin margin line) = line := by
  by_cases empty : line = []
  · obtain ⟨cut, whole, -⟩ := trimEnd_eq_append isSpace margin
    rw [empty, inMargin_nil]
    nth_rewrite 1 [whole]
    exact dropMargin_front _ cut
  · rw [inMargin_of_ne_nil empty, dropMargin_append]

theorem map_dropMargin (margin : List Char) (lines : List (List Char)) :
    (marginLines margin lines).map (dropMargin margin) = lines := by
  induction lines with
  | nil => rfl
  | cons line lines ih =>
    cases lines with
    | nil =>
      have nothing : dropMargin margin [] = [] := dropMargin_front [] margin
      by_cases empty : line = []
      · simp [marginLines, empty, nothing]
      · simp [marginLines, empty, dropMargin_append]
    | cons next rest =>
      rw [marginLines_cons _ _ (by simp), List.map_cons, dropMargin_inMargin, ih]

theorem unshift_shift (free : '\n' ∉ margin) (text : List Char) :
    unshift margin (shift margin text) = text := by
  rw [unshift, segments_shift free, map_dropMargin, joinSegments_segments]

/-- What becomes of each line, by its place. -/
theorem marginLines_getElem? (margin : List Char) (lines : List (List Char)) (k : Nat) :
    (marginLines margin lines)[k]? = lines[k]?.map fun line =>
      if line ≠ [] then margin ++ line
      else if k + 1 < lines.length then trimEnd isSpace margin else [] := by
  induction lines generalizing k with
  | nil => rfl
  | cons line lines ih =>
    cases lines with
    | nil =>
      cases k with
      | zero => by_cases empty : line = [] <;> simp [marginLines, empty]
      | succ k => rfl
    | cons next rest =>
      rw [marginLines_cons _ _ (by simp)]
      cases k with
      | zero => by_cases empty : line = [] <;> simp [inMargin, empty]
      | succ k =>
        rw [List.getElem?_cons_succ, List.getElem?_cons_succ, ih, List.length_cons (a := line)]
        simp only [Nat.add_lt_add_iff_right]

end Lines

end Text

namespace Writer

open Text

/-- A writer at the start of a line, with nothing staged, within the given prefixes. -/
structure Ready (levels : List (List Char)) (w : Writer) : Prop where
  start : w.atLineStart = true
  clear : w.pending = []
  under : w.indentation.levels = levels

/-- What goes out when a text is written. -/
def Emits (w : Writer) (text out : List Char) : Prop :=
  (w.write text).out.toList = w.out.toList ++ out

theorem writeSegments_marginLines {w : Writer} (start : w.atLineStart = true)
    (clear : w.pending = []) {lines : List (List Char)} (some_ : lines ≠ []) :
    (w.writeSegments lines).out.toList =
      w.out.toList ++ joinSegments (marginLines w.indentation.full lines) := by
  induction lines generalizing w with
  | nil => exact absurd rfl some_
  | cons line lines ih =>
    cases lines with
    | nil =>
      by_cases empty : line = []
      · simp [writeSegments, continueLine, marginLines, joinSegments, empty]
      · simp [writeSegments, continueLine, marginLines, joinSegments, empty, emit, clear, start,
          w.opening_of_ne_nil empty]
    | cons next rest =>
      have more : next :: rest ≠ [] := by simp
      have here : (w.closeLine line).out.toList =
          w.out.toList ++ (inMargin w.indentation.full line ++ ['\n']) := by
        have text : w.opening line ++ w.pending ++ line ++ ['\n'] =
            inMargin w.indentation.full line ++ ['\n'] := by
          rw [clear, List.append_nil, w.opening_append, if_pos start]
        rw [closeLine, text]
        simp [emit]
      obtain ⟨second, others, cut⟩ :=
        List.exists_cons_of_ne_nil (marginLines_ne_nil w.indentation.full more)
      have later : ((w.closeLine line).writeSegments (next :: rest)).out.toList =
          (w.closeLine line).out.toList ++
            joinSegments (marginLines w.indentation.full (next :: rest)) := ih rfl rfl more
      rw [writeSegments, later, here, marginLines_cons _ _ more, cut]
      simp [joinSegments, List.intercalate_cons_cons]

theorem Ready.emits {levels : List (List Char)} {w : Writer} (ready : w.Ready levels)
    (text : List Char) : w.Emits text (shift levels.flatten text) := by
  have whole := writeSegments_marginLines ready.start ready.clear (segments_ne_nil text)
  rw [Indentation.full, ready.under] at whole
  exact whole

/-- **A text goes out behind its prefix.** On a line of its own, with nothing staged, a text goes
out line by line: one that holds something behind the whole prefix, an empty one that has ended
behind the prefix without the spaces at its end, and an empty last one as it is. So no empty line
comes to end with a space, the text can be had back from what has gone out, and to write it within
two stacks of prefixes is to write it within the inner one and what goes out there within the outer
one. -/
theorem write_shifts {levels : List (List Char)} (free : ∀ piece ∈ levels, '\n' ∉ piece)
    {w : Writer} (ready : w.Ready levels) (text : List Char) :
    let margin := levels.flatten
    let lines := segments text
    ∃ out, w.Emits text out ∧
      (∀ k : Nat, (segments out)[k]? = lines[k]?.map fun line =>
        if line ≠ [] then margin ++ line
        else if k + 1 < lines.length then trimEnd isSpace margin else []) ∧
      (∀ (k : Nat) (line : List Char), lines[k]? = some [] → (segments out)[k]? = some line →
        line.getLast? ≠ some ' ') ∧
      unshift margin out = text ∧
      ∀ outer inner, levels = outer ++ inner → ∀ v u : Writer, v.Ready outer → u.Ready inner →
        ∃ once, u.Emits text once ∧ v.Emits once out := by
  intro margin lines
  have one : '\n' ∉ margin := by
    rw [List.mem_flatten]
    exact fun ⟨piece, m, inside⟩ => free piece m inside
  have each := marginLines_getElem? margin lines
  rw [← segments_shift one] at each
  refine ⟨shift margin text, ready.emits text, each, fun k line empty there last => ?_,
    unshift_shift one text, ?_⟩
  · rw [each, empty, Option.map_some, Option.some_inj, if_neg (by simp)] at there
    subst there
    split at last
    · cases trimEnd_last isSpace margin last
    · cases last
  · rintro outer inner rfl v u vReady uReady
    have innerFree : '\n' ∉ inner.flatten := fun m => by
      simp only [margin, List.flatten_append, List.mem_append, not_or] at one
      exact one.2 m
    refine ⟨shift inner.flatten text, uReady.emits text, ?_⟩
    have both : shift margin text = shift outer.flatten (shift inner.flatten text) := by
      rw [← shift_append _ innerFree, ← List.flatten_append]
    rw [both]
    exact vReady.emits _

/-- A quote in an item, with an empty line in it and one at the end. -/
theorem write_shifts_nested :
    let text := "b\n\nc\n".toList
    let shown := "  > b\n  >\n  > c\n".toList
    let w : Writer := { out := "- a\n", indentation := ⟨["  ".toList, "> ".toList]⟩ }
    let v : Writer := { indentation := ⟨["  ".toList]⟩ }
    let u : Writer := { indentation := ⟨["> ".toList]⟩ }
    (∀ piece ∈ ["  ".toList, "> ".toList], '\n' ∉ piece) ∧
      w.Ready ["  ".toList, "> ".toList] ∧ v.Ready ["  ".toList] ∧ u.Ready ["> ".toList] ∧
      w.Emits text shown ∧ unshift "  > ".toList shown = text ∧
      ∃ once, u.Emits text once ∧ v.Emits once shown := by
  intro text shown w v u
  have free : ∀ piece ∈ ["  ".toList, "> ".toList], '\n' ∉ piece := by decide
  have within : w.Ready ["  ".toList, "> ".toList] := ⟨rfl, rfl, rfl⟩
  have outer : v.Ready ["  ".toList] := ⟨rfl, rfl, rfl⟩
  have inner : u.Ready ["> ".toList] := ⟨rfl, rfl, rfl⟩
  obtain ⟨out, emits, -, -, back, both⟩ := write_shifts free within text
  have run : (w.write text).out = "- a\n  > b\n  >\n  > c\n" := rfl
  have here : w.Emits text shown := by
    unfold Emits
    rw [run]
    simp [w, shown]
  obtain rfl : out = shown := List.append_cancel_left (emits.symm.trans here)
  exact ⟨free, within, outer, inner, here, back, both _ _ rfl v u outer inner⟩

end Writer

end MarkdownCanon
