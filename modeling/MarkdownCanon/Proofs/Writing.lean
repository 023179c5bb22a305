import Mathlib.Data.List.Basic
import MarkdownCanon.Render.Writer

/-! The writer one character at a time, and what reaches the output for a text that is written:
the text itself, with prefixes and staged delimiters put in front of some of its characters. -/

namespace MarkdownCanon

namespace Writer

/-- What goes out for one character: the prefix of its line if it is the first there, whatever is
staged, and the character. -/
def piece (w : Writer) (c : Char) : List Char :=
  w.opening (if c == '\n' then [] else [c]) ++ w.pending ++ [c]

def put (w : Writer) (c : Char) : Writer :=
  { w.emit (w.piece c) with pending := [], atLineStart := c == '\n' }

theorem emit_append (w : Writer) (a b : List Char) : w.emit (a ++ b) = (w.emit a).emit b := by
  simp only [emit, String.ofList_append, String.append_assoc, List.getLast?_append]
  cases b.getLast? <;> rfl

@[simp] theorem write_nil (w : Writer) : w.write [] = w := rfl

theorem closeLine_nil (w : Writer) : w.closeLine [] = w.put '\n' := by
  simp [closeLine, put, piece, emit]

theorem continueLine_cons (w : Writer) (c : Char) (segment : List Char) (hc : c ≠ '\n') :
    w.continueLine (c :: segment) = (w.put c).continueLine segment := by
  cases segment with
  | nil => simp [continueLine, put, piece, opening, hc]
  | cons d segment =>
    have split : w.opening (c :: d :: segment) ++ w.pending ++ c :: d :: segment =
        w.piece c ++ d :: segment := by
      simp [piece, opening, hc]
    simp only [continueLine, List.isEmpty_cons, Bool.false_eq_true, ↓reduceIte, split, emit_append]
    simp [put, opening, emit, hc]

theorem closeLine_cons (w : Writer) (c : Char) (segment : List Char) (hc : c ≠ '\n') :
    w.closeLine (c :: segment) = (w.put c).closeLine segment := by
  have split : w.opening (c :: segment) ++ w.pending ++ c :: segment ++ ['\n'] =
      w.piece c ++ (segment ++ ['\n']) := by
    simp [piece, opening, hc]
  simp only [closeLine, split, emit_append]
  simp [put, opening, emit, hc]

theorem segments_ne_nil (text : List Char) : Text.segments text ≠ [] := by
  unfold Text.segments
  fun_cases Text.splitAt <;> simp

/-- A text is written by its characters, each of which finds what the one before left. -/
theorem write_cons (w : Writer) (c : Char) (text : List Char) :
    w.write (c :: text) = (w.put c).write text := by
  obtain ⟨segment, rest, hs⟩ := List.exists_cons_of_ne_nil (segments_ne_nil text)
  unfold write
  by_cases hc : c = '\n'
  · have : Text.segments (c :: text) = [] :: segment :: rest := by
      rw [← hs]
      simp [Text.segments, Text.splitAt, hc]
    rw [this, hs, writeSegments, closeLine_nil, hc]
  · have : Text.segments (c :: text) = (c :: segment) :: rest := by
      simp only [Text.segments] at hs
      simp [Text.segments, Text.splitAt, hc, hs]
    rw [this, hs]
    cases rest with
    | nil => simp only [writeSegments, continueLine_cons w c segment hc]
    | cons next rest => simp only [writeSegments, closeLine_cons w c segment hc]

theorem write_append (w : Writer) (a b : List Char) :
    w.write (a ++ b) = (w.write a).write b := by
  induction a generalizing w with
  | nil => rfl
  | cons c a ih => rw [List.cons_append, write_cons, write_cons, ih]

theorem write_fields (w : Writer) (text : List Char) :
    (w.write text).indentation = w.indentation ∧
    (w.write text).pending = if text.isEmpty then w.pending else [] := by
  induction text generalizing w with
  | nil => exact ⟨rfl, rfl⟩
  | cons c text ih =>
    rw [write_cons, (ih _).1, (ih _).2]
    exact ⟨rfl, by cases text <;> rfl⟩

@[simp] theorem write_indentation (w : Writer) (text : List Char) :
    (w.write text).indentation = w.indentation := (write_fields w text).1

theorem write_pending (w : Writer) {text : List Char} (h : text ≠ []) :
    (w.write text).pending = [] := by
  rw [(write_fields w text).2]
  simp [h]

theorem piece_bare {w : Writer} (bare : w.indentation = {}) (c : Char) :
    w.piece c = w.pending ++ [c] := by
  simp [piece, opening, bare, Indentation.indent, Indentation.whitespace, Indentation.full,
    Text.trimEnd]

/-- Where there are no prefixes, a text goes out as it is, behind whatever is staged. -/
theorem write_bare {w : Writer} (bare : w.indentation = {}) {text : List Char} (shown : text ≠ []) :
    (w.write text).out.toList = w.out.toList ++ (w.pending ++ text) ∧
      (w.write text).last = text.getLast? := by
  induction text generalizing w with
  | nil => exact absurd rfl shown
  | cons c text ih =>
    have here : (w.put c).out.toList = w.out.toList ++ (w.pending ++ [c]) := by
      simp [put, emit, piece_bare bare]
    rw [write_cons]
    cases text with
    | nil => exact ⟨here, by simp [put, emit, piece_bare bare]⟩
    | cons d text =>
      obtain ⟨out, last⟩ := ih (w := w.put c) bare (by simp)
      refine ⟨?_, last⟩
      rw [out, here]
      simp [put]

theorem write_out (w : Writer) (text : List Char) :
    w.out.toList <+: (w.write text).out.toList := by
  induction text generalizing w with
  | nil => exact List.prefix_rfl
  | cons c text ih =>
    rw [write_cons]
    exact List.IsPrefix.trans ⟨w.piece c, by simp [put, emit]⟩ (ih (w.put c))

end Writer

/-- `out` is `text` with something put in front of some of its characters, never a line end. -/
inductive Prefixed : List Char → List Char → Prop where
  | nil : Prefixed [] []
  | cons (front : List Char) (c : Char) {text out : List Char} (line : '\n' ∉ front)
      (rest : Prefixed text out) : Prefixed (c :: text) (front ++ c :: out)

namespace Prefixed

theorem append {a b x y : List Char} (h : Prefixed a x) (h' : Prefixed b y) :
    Prefixed (a ++ b) (x ++ y) := by
  induction h with
  | nil => exact h'
  | cons front c line _ ih =>
    rw [List.append_assoc, List.cons_append, List.cons_append]
    exact cons front c line ih

theorem sublist {text out : List Char} (h : Prefixed text out) : text.Sublist out := by
  induction h with
  | nil => exact List.nil_sublist _
  | cons front c _ _ ih => exact (ih.cons_cons c).trans (List.sublist_append_right _ _)

theorem newline_mem {text out : List Char} (h : Prefixed text out) (free : '\n' ∉ text) :
    '\n' ∉ out := by
  induction h with
  | nil => exact free
  | cons front c line _ ih =>
    simp only [List.mem_cons, not_or] at free
    simp [line, free.1, ih free.2]

end Prefixed

namespace Writer

/-- Nothing that the writer puts in front of text ends a line. -/
structure Clean (w : Writer) : Prop where
  pending : '\n' ∉ w.pending
  indentation : '\n' ∉ w.indentation.full

/-- The output has grown by `text`, prefixed. -/
def Wrote (w w' : Writer) (text : List Char) : Prop :=
  ∃ out, w'.out.toList = w.out.toList ++ out ∧ Prefixed text out

theorem Wrote.refl (w : Writer) : w.Wrote w [] := ⟨[], by simp, .nil⟩

theorem Wrote.trans {u v w : Writer} {a b : List Char} (h : u.Wrote v a) (h' : v.Wrote w b) :
    u.Wrote w (a ++ b) := by
  obtain ⟨x, hx, px⟩ := h
  obtain ⟨y, hy, py⟩ := h'
  exact ⟨x ++ y, by rw [hy, hx, List.append_assoc], px.append py⟩

theorem indent_subset (i : Indentation) : i.indent ⊆ i.full := by
  intro c hc
  simp only [Indentation.indent, Text.trimEnd, List.mem_reverse] at hc
  exact List.mem_reverse.mp ((List.dropWhile_sublist _).subset hc)

theorem piece_front (w : Writer) (clean : w.Clean) (c : Char) :
    ∃ front, '\n' ∉ front ∧ w.piece c = front ++ [c] := by
  refine ⟨w.opening (if c == '\n' then [] else [c]) ++ w.pending, ?_, rfl⟩
  simp only [opening, List.mem_append, clean.pending, or_false]
  have hi : '\n' ∉ w.indentation.indent := fun h => clean.indentation (indent_subset _ h)
  have hw : '\n' ∉ w.indentation.whitespace := fun h => clean.indentation (List.mem_of_mem_drop h)
  split <;> [split; skip] <;> simp [hi, hw]

theorem put_clean (w : Writer) (clean : w.Clean) (c : Char) : (w.put c).Clean :=
  ⟨by simp [put], clean.indentation⟩

theorem write_wrote (w : Writer) (clean : w.Clean) (text : List Char) :
    w.Wrote (w.write text) text := by
  induction text generalizing w with
  | nil => exact Wrote.refl w
  | cons c text ih =>
    obtain ⟨front, line, hp⟩ := piece_front w clean c
    obtain ⟨out, ho, rest⟩ := ih (w.put c) (put_clean w clean c)
    refine ⟨front ++ c :: out, ?_, .cons front c line rest⟩
    rw [write_cons, ho]
    simp [put, emit, hp]

end Writer

end MarkdownCanon
