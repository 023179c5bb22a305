import MarkdownCanon.Proofs.Writing

/-! The writer as a machine that takes a text one character at a time, and what is true of it after
any use. -/

namespace MarkdownCanon

/-- Something done with a writer. -/
inductive WriterAction where
  | push (piece : List Char)
  | pop
  | stage (text : List Char)
  | discard (text : List Char)
  | write (text : List Char)
  deriving DecidableEq, Repr

namespace Writer

/-- Takes one character. The first of a line brings the prefix, of which an empty line only has the
part up to its spaces. -/
def step (w : Writer) (c : Char) : Writer :=
  let opened := if w.atLineStart then w.emit w.indentation.indent else w
  if c == '\n' then
    { ({ opened.emit w.pending with pending := [] } : Writer).emit [c] with atLineStart := true }
  else
    let spaced := if w.atLineStart then opened.emit w.indentation.whitespace else opened
    { ({ spaced.emit w.pending with pending := [] } : Writer).emit [c] with atLineStart := false }

/-- What is left after an action. One that is refused changes nothing. -/
def act (w : Writer) : WriterAction → Writer
  | .push piece => w.pushIndent piece
  | .pop => (w.popIndent.map Prod.snd).toOption.getD w
  | .stage text => w.stage text
  | .discard text => (w.discard text).toOption.getD w
  | .write text => w.write text

@[simp] theorem emit_nil (w : Writer) : w.emit [] = w := by
  simp [emit]

theorem emit_opening (w : Writer) (c : Char) :
    w.emit (w.opening (if c == '\n' then [] else [c])) =
      if w.atLineStart then
        if c == '\n' then w.emit w.indentation.indent
        else (w.emit w.indentation.indent).emit w.indentation.whitespace
      else w := by
  unfold opening
  by_cases start : w.atLineStart = true
  · rw [if_pos start, if_pos start, emit_append]
    split <;> simp
  · rw [if_neg start, if_neg start, emit_nil]

theorem step_eq_put (w : Writer) (c : Char) : w.step c = w.put c := by
  unfold step put piece
  rw [emit_append, emit_append, emit_opening]
  by_cases newline : (c == '\n') = true <;> by_cases start : w.atLineStart = true
  all_goals
    simp only [newline, start, ↓reduceIte, Bool.false_eq_true]
    rfl

theorem write_eq_foldl (w : Writer) (text : List Char) : w.write text = text.foldl step w := by
  induction text generalizing w with
  | nil => rfl
  | cons c text ih => rw [write_cons, ih, List.foldl_cons, step_eq_put]

/-- What a writer remembers of its output: the last character, and whether a line is to start. -/
structure Mindful (w : Writer) : Prop where
  last : w.last = w.out.toList.getLast?
  start : w.atLineStart = true ↔ w.last = none ∨ w.last = some '\n'

namespace Mindful

theorem put (w : Writer) (c : Char) : (w.put c).Mindful where
  last := by simp [Writer.put, emit, piece]
  start := by simp [Writer.put, emit, piece]

theorem write {w : Writer} (h : w.Mindful) (text : List Char) : (w.write text).Mindful := by
  induction text generalizing w with
  | nil => exact h
  | cons c text ih =>
    rw [write_cons]
    exact ih (put w c)

theorem act {w : Writer} (h : w.Mindful) (action : WriterAction) : (w.act action).Mindful := by
  cases action with
  | push piece => exact ⟨h.last, h.start⟩
  | pop =>
    simp only [Writer.act, popIndent]
    split
    · exact ⟨h.last, h.start⟩
    · exact h
  | stage text => exact ⟨h.last, h.start⟩
  | discard text =>
    simp only [Writer.act, discard]
    split
    · exact ⟨h.last, h.start⟩
    · exact h
  | write text => exact h.write text

theorem run (actions : List WriterAction) : (actions.foldl Writer.act {}).Mindful := by
  have fresh : ({} : Writer).Mindful := ⟨rfl, by simp⟩
  generalize ({} : Writer) = w at fresh ⊢
  induction actions generalizing w with
  | nil => exact fresh
  | cons action actions ih => exact ih (w.act action) (fresh.act action)

end Mindful

/-- **A text is written by its characters.** However a writer has been used before, writing a text
leaves it as taking the characters one after the other does: the output, the prefixes, what is
staged and whether a line is to start. The last character that it remembers is that of its output, a
line is to start behind a line end and at the very beginning only, and it does not matter where a
text is cut in two. -/
theorem write_by_characters (actions : List WriterAction) (text : List Char) :
    let w : Writer := actions.foldl act {}
    w.write text = text.foldl step w ∧
      (w.write text).last = (w.write text).out.toList.getLast? ∧
      ((w.write text).atLineStart = true ↔
        (w.write text).last = none ∨ (w.write text).last = some '\n') ∧
      ∀ first second, (w.write first).write second = w.write (first ++ second) := by
  intro w
  have after : (w.write text).Mindful := (Mindful.run actions).write text
  refine ⟨write_eq_foldl w text, after.last, after.start, fun first second => ?_⟩
  exact (write_append w first second).symm

/-- What is staged goes out in front of a line end too, behind a prefix without its spaces. -/
example : ([.push "> ".toList, .stage ['*'], .write "\na".toList].foldl act {} : Writer).out =
    ">*\n> a" := rfl

end Writer

end MarkdownCanon
