import MarkdownCanon.Diff.Match
import Mathlib.Data.List.GetD
import Mathlib.Data.List.Infix

/-! The longest match of two lists is a run that both have. Of a list with itself it is the whole
list: however few of the lines are searched for, no run beside the diagonal is longer than the
longest one that was on the diagonal before it. -/

namespace MarkdownCanon.Diff

variable {α : Type}

/-- `m.Within old new`: the match is a run of lines that stands where it should in both lists. -/
def Match.Within (m : Match) (old new : List α) : Prop :=
  ∃ run before after before' after', old = before ++ run ++ after ∧ new = before' ++ run ++ after' ∧
    before.length = m.old ∧ before'.length = m.new ∧ run.length = m.size

/-- A run of lines to be searched for, with which both lists end. -/
def Ends (searched : α → Bool) (size : Nat) (old new : List α) : Prop :=
  ∃ run, run.length = size ∧ (∀ x ∈ run, searched x = true) ∧ run <:+ old ∧ run <:+ new

namespace Ends

variable {searched : α → Bool} {old new : List α} {size : Nat}

theorem zero (searched : α → Bool) (old new : List α) : Ends searched 0 old new :=
  ⟨[], rfl, by simp, List.nil_suffix, List.nil_suffix⟩

theorem snoc (h : Ends searched size old new) {x : α} (may : searched x = true) :
    Ends searched (size + 1) (old ++ [x]) (new ++ [x]) := by
  obtain ⟨run, length, all, ⟨front, rfl⟩, ⟨front', rfl⟩⟩ := h
  refine ⟨run ++ [x], by simp [length], ?_, ⟨front, by simp⟩, ⟨front', by simp⟩⟩
  simpa [or_imp, forall_and, may] using all

theorem symm (h : Ends searched size old new) : Ends searched size new old := by
  obtain ⟨run, length, all, ends, ends'⟩ := h
  exact ⟨run, length, all, ends', ends⟩

theorem within (h : Ends searched size old new) (after after' : List α) :
    Match.Within ⟨old.length - size, new.length - size, size⟩ (old ++ after) (new ++ after') := by
  obtain ⟨run, rfl, -, ⟨before, rfl⟩, ⟨before', rfl⟩⟩ := h
  exact ⟨run, before, after, before', after', rfl, rfl, by simp, by simp, rfl⟩

end Ends

/-- How many of the last lines are to be searched for. -/
def searchedEnd (searched : α → Bool) (lines : List α) : Nat :=
  (lines.reverse.takeWhile searched).length

theorem searchedEnd_snoc (searched : α → Bool) (lines : List α) (x : α) :
    searchedEnd searched (lines ++ [x]) =
      if searched x then searchedEnd searched lines + 1 else 0 := by
  unfold searchedEnd
  rw [List.reverse_append, List.reverse_singleton, List.singleton_append, List.takeWhile_cons]
  split <;> rfl

theorem Ends.le {searched : α → Bool} {size : Nat} {old new : List α}
    (h : Ends searched size old new) : size ≤ searchedEnd searched old := by
  obtain ⟨run, rfl, all, ⟨front, rfl⟩, -⟩ := h
  unfold searchedEnd
  rw [List.reverse_append, List.takeWhile_append_of_pos (by simpa using all)]
  simp

theorem improve_append (row : Nat) (best : Match) (column : Nat) (ks ks' : List Nat) :
    improve row best column (ks ++ ks') =
      improve row (improve row best column ks) (column + ks.length) ks' := by
  induction ks generalizing best column with
  | nil => rfl
  | cons k rest ih =>
    rw [List.cons_append, improve, improve, ih, List.length_cons, Nat.add_assoc,
      Nat.add_comm 1]

/-- Runs that are no longer than the best so far change nothing. -/
theorem improve_of_le {row column : Nat} {best : Match} {ks : List Nat}
    (short : ∀ k ∈ ks, k ≤ best.size) : improve row best column ks = best := by
  induction ks generalizing column with
  | nil => rfl
  | cons k rest ih =>
    rw [improve, if_neg (Nat.not_lt.mpr (short k List.mem_cons_self))]
    exact ih fun k m => short k (List.mem_cons_of_mem _ m)

theorem improve_within {row column : Nat} {best : Match} {ks : List Nat} {old new : List α}
    (h : best.Within old new)
    (each : ∀ j (hj : j < ks.length),
      Match.Within ⟨row + 1 - ks[j], column + j + 1 - ks[j], ks[j]⟩ old new) :
    (improve row best column ks).Within old new := by
  induction ks generalizing best column with
  | nil => exact h
  | cons k rest ih =>
    rw [improve]
    refine ih ?_ fun j hj => ?_
    · split
      · exact each 0 (by simp)
      · exact h
    · have later := each (j + 1) (by simpa using hj)
      rwa [List.getElem_cons_succ, ← Nat.add_assoc, Nat.add_right_comm column] at later

/-- If none of the runs before column `row` is longer than the best so far, and none of those behind
it longer than the one there, then this one alone counts. -/
theorem improve_diagonal (best : Match) (before behind : List Nat) (k : Nat)
    (short : ∀ j ∈ before, j ≤ best.size) (shorter : ∀ j ∈ behind, j ≤ k) :
    improve before.length best 0 (before ++ k :: behind) =
      if best.size < k then ⟨before.length + 1 - k, before.length + 1 - k, k⟩ else best := by
  rw [improve_append, improve_of_le short, improve, improve_of_le, Nat.zero_add]
  intro j m
  have least := shorter j m
  split
  · exact least
  · omega

/-- The lengths of runs that end where the old lines end, one for each of the new lines. -/
def IsRow (searched : α → Bool) (old new : List α) (lengths : List Nat) : Prop :=
  ∀ j, Ends searched (lengths.getD j 0) old (new.take (j + 1))

theorem isRow_nil (searched : α → Bool) (new : List α) : IsRow searched [] new [] :=
  fun j => Ends.zero searched [] (new.take (j + 1))

section Rows

variable [BEq α]

/-- The row of lengths behind one more line. -/
def nextRow (searched : α → Bool) (new : List α) (lengths : List Nat) (x : α) : List Nat :=
  if searched x then runLengths x 0 new lengths else []

theorem longestRun_cons (searched : α → Bool) (new : List α) (row : Nat) (lengths : List Nat)
    (best : Match) (x : α) (rest : List α) :
    longestRun searched new row lengths best (x :: rest) =
      longestRun searched new (row + 1) (nextRow searched new lengths x)
        (improve row best 0 (nextRow searched new lengths x)) rest := rfl

theorem runLengths_getElem? (x : α) (before : Nat) (new : List α) (lengths : List Nat) (j : Nat) :
    (runLengths x before new lengths)[j]? =
      new[j]?.map fun y => if x == y then (before :: lengths).getD j 0 + 1 else 0 := by
  induction new generalizing before lengths j with
  | nil => simp [runLengths]
  | cons y ys ih =>
    cases j with
    | zero => simp [runLengths]
    | succ j =>
      rw [runLengths, List.getElem?_cons_succ, ih, List.getElem?_cons_succ]
      cases lengths with
      | nil => cases j <;> simp
      | cons k rest => simp

theorem runLengths_length (x : α) (before : Nat) (new : List α) (lengths : List Nat) :
    (runLengths x before new lengths).length = new.length := by
  induction new generalizing before lengths with
  | nil => rfl
  | cons y ys ih => rw [runLengths, List.length_cons, ih, List.length_cons]

theorem nextRow_length_le (searched : α → Bool) (new : List α) (lengths : List Nat) (x : α) :
    (nextRow searched new lengths x).length ≤ new.length := by
  unfold nextRow
  split
  · exact (runLengths_length x 0 new lengths).le
  · exact Nat.zero_le _

/-- The run that a match is drawn out from. -/
def core (searched : α → Bool) (old new : List α) : Match := longestRun searched new 0 [] {} old

/-- The core is drawn out over what is equal on both sides of it. -/
theorem longestMatch_eq {run before after before' after' : List α}
    (h : core searched (before ++ run ++ after) (before' ++ run ++ after') =
      ⟨before.length, before'.length, run.length⟩) :
    longestMatch searched (before ++ run ++ after) (before' ++ run ++ after') =
      ⟨before.length - commonStart before.reverse before'.reverse,
        before'.length - commonStart before.reverse before'.reverse,
        commonStart before.reverse before'.reverse + run.length + commonStart after after'⟩ := by
  have past (front tail : List α) :
      (front ++ run ++ tail).drop (front.length + run.length) = tail :=
    List.drop_left' (List.length_append ..)
  have start (front tail : List α) : (front ++ run ++ tail).take front.length = front := by
    rw [List.append_assoc, List.take_left]
  unfold core at h
  unfold longestMatch
  simp only [h, past, start]

variable [LawfulBEq α] {searched : α → Bool} {old new : List α} {lengths : List Nat}

theorem IsRow.next (h : IsRow searched old new lengths) (x : α) :
    IsRow searched (old ++ [x]) new (nextRow searched new lengths x) := by
  intro j
  unfold nextRow
  split
  · rename_i may
    rw [List.getD_eq_getElem?_getD, runLengths_getElem?]
    cases there : new[j]? with
    | none => exact Ends.zero ..
    | some y =>
      dsimp only [Option.map_some, Option.getD_some]
      split
      · rename_i same
        obtain rfl := eq_of_beq same
        rw [List.take_add_one, there]
        cases j with
        | zero => exact (Ends.zero searched old (new.take 0)).snoc may
        | succ j => exact (h j).snoc may
      · exact Ends.zero ..
  · exact Ends.zero ..

theorem longestRun_within {best : Match} {rest : List α} (row : IsRow searched old new lengths)
    (h : best.Within (old ++ rest) new) :
    (longestRun searched new old.length lengths best rest).Within (old ++ rest) new := by
  induction rest generalizing old lengths best with
  | nil => exact h
  | cons x rest ih =>
    have next := row.next x
    have here : (old ++ [x]).length = old.length + 1 := by simp
    rw [longestRun_cons, ← List.singleton_append, ← List.append_assoc, ← here]
    refine ih next (improve_within (by simpa using h) fun j hj => ?_)
    have inside : j < new.length := hj.trans_le (nextRow_length_le searched new lengths x)
    have column : (new.take (j + 1)).length = 0 + j + 1 := by
      rw [List.length_take]
      omega
    have ends := next j
    rw [List.getD_eq_getElem _ _ hj] at ends
    have within := ends.within rest (new.drop (j + 1))
    rwa [List.take_append_drop, here, column] at within

/-- A list is compared with itself. `row` is the row of the lines so far; the run on its diagonal is
the longest on it, and of those on the diagonal before it none is longer than the best. -/
structure Diagonal (searched : α → Bool) (old rest : List α) (lengths : List Nat) (best : Match) :
    Prop where
  row : IsRow searched old (old ++ rest) lengths
  here : (0 :: lengths).getD old.length 0 = searchedEnd searched old
  level : best.old = best.new
  passed : ∀ j < old.length, searchedEnd searched (old.take (j + 1)) ≤ best.size

theorem nextRow_here {x : α} {rest : List α}
    (here : (0 :: lengths).getD old.length 0 = searchedEnd searched old) :
    (nextRow searched (old ++ x :: rest) lengths x).getD old.length 0 =
      searchedEnd searched (old ++ [x]) := by
  rw [searchedEnd_snoc]
  unfold nextRow
  split
  · rw [List.getD_eq_getElem?_getD, runLengths_getElem?, List.getElem?_append_right (le_refl _),
      Nat.sub_self, List.getElem?_cons_zero, Option.map_some, Option.getD_some,
      if_pos (beq_self_eq_true x), here]
  · rfl

theorem Diagonal.improve {best : Match} {x : α} {rest : List α}
    (h : Diagonal searched old (x :: rest) lengths best) :
    improve old.length best 0 (nextRow searched (old ++ x :: rest) lengths x) =
      if best.size < searchedEnd searched (old ++ [x]) then
        ⟨old.length + 1 - searchedEnd searched (old ++ [x]),
          old.length + 1 - searchedEnd searched (old ++ [x]), searchedEnd searched (old ++ [x])⟩
      else best := by
  by_cases may : searched x = true
  · have next := h.row.next x
    have here : (nextRow searched (old ++ x :: rest) lengths x).getD old.length 0 =
        searchedEnd searched (old ++ [x]) := nextRow_here h.here
    have inside : old.length < (nextRow searched (old ++ x :: rest) lengths x).length := by
      rw [nextRow, if_pos may, runLengths_length]
      simp
    generalize nextRow searched (old ++ x :: rest) lengths x = ks at next here inside
    rw [List.getD_eq_getElem _ _ inside] at here
    have parts : ks = ks.take old.length ++ ks[old.length] :: ks.drop (old.length + 1) := by simp
    have start : (ks.take old.length).length = old.length := by simp [inside.le]
    have whole := improve_diagonal best (ks.take old.length) (ks.drop (old.length + 1))
      ks[old.length] ?_ ?_
    · rwa [start, ← parts, here] at whole
    -- A run before the diagonal ends in the new lines where one on the diagonal ended earlier.
    · intro k m
      obtain ⟨j, hj, rfl⟩ := List.mem_take_iff_getElem.mp m
      have ends := (next j).symm.le
      rw [List.getD_eq_getElem _ _ (by omega), List.take_append_of_le_length (by omega)] at ends
      exact ends.trans (h.passed j (by omega))
    -- A run behind it ends in the old lines where the one on the diagonal ends now.
    · intro k m
      obtain ⟨j, hj, rfl⟩ := List.mem_drop_iff_getElem.mp m
      have ends := (next (old.length + 1 + j)).le
      rw [List.getD_eq_getElem _ _ (by omega)] at ends
      rw [here]
      exact ends
  · have nothing : searchedEnd searched (old ++ [x]) = 0 := by
      rw [searchedEnd_snoc, if_neg may]
    rw [nextRow, if_neg may, nothing, if_neg (Nat.not_lt_zero _)]
    rfl

theorem Diagonal.next {best : Match} {x : α} {rest : List α}
    (h : Diagonal searched old (x :: rest) lengths best) :
    Diagonal searched (old ++ [x]) rest (nextRow searched (old ++ x :: rest) lengths x)
      (Diff.improve old.length best 0 (nextRow searched (old ++ x :: rest) lengths x)) := by
  have whole : old ++ [x] ++ rest = old ++ x :: rest := by simp
  have improved := h.improve
  refine ⟨?_, ?_, ?_, fun j hj => ?_⟩
  · rw [whole]
    exact h.row.next x
  · rw [List.length_append, List.length_singleton, List.getD_cons_succ]
    exact nextRow_here h.here
  · rw [improved]
    split
    · rfl
    · exact h.level
  · rw [improved]
    rw [List.length_append, List.length_singleton] at hj
    obtain early | last := Nat.lt_succ_iff_lt_or_eq.mp hj
    · have least := h.passed j early
      rw [List.take_append_of_le_length (by omega)]
      split
      · dsimp only
        omega
      · exact least
    · rw [last, List.take_of_length_le (by simp)]
      split
      · exact le_refl _
      · omega

theorem longestRun_level {best : Match} {rest : List α}
    (h : Diagonal searched old rest lengths best) :
    (longestRun searched (old ++ rest) old.length lengths best rest).old =
      (longestRun searched (old ++ rest) old.length lengths best rest).new := by
  induction rest generalizing old lengths best with
  | nil => exact h.level
  | cons x rest ih =>
    have later := ih h.next
    rw [longestRun_cons]
    rwa [List.append_assoc, List.singleton_append, List.length_append, List.length_singleton]
      at later

theorem commonStart_parts (xs ys : List α) : ∃ run xs' ys', xs = run ++ xs' ∧ ys = run ++ ys' ∧
    run.length = commonStart xs ys := by
  fun_induction commonStart xs ys with
  | case1 x xs y ys same ih =>
    obtain ⟨run, xs', ys', rfl, rfl, length⟩ := ih
    obtain rfl := eq_of_beq same
    exact ⟨x :: run, xs', ys', rfl, rfl, congrArg (· + 1) length⟩
  | case2 x xs y ys other => exact ⟨[], _, _, rfl, rfl, rfl⟩
  | case3 xs ys => exact ⟨[], _, _, rfl, rfl, rfl⟩

theorem commonStart_self (xs : List α) : commonStart xs xs = xs.length := by
  induction xs with
  | nil => rfl
  | cons x xs ih => simp [commonStart, ih]

theorem core_within (searched : α → Bool) (old new : List α) :
    (core searched old new).Within old new := by
  have nothing : Match.Within {} ([] ++ old) new :=
    ⟨[], [], old, [], new, rfl, rfl, rfl, rfl, rfl⟩
  exact longestRun_within (isRow_nil searched new) nothing

theorem longestMatch_within (searched : α → Bool) (old new : List α) :
    (longestMatch searched old new).Within old new := by
  obtain ⟨run, before, after, before', after', rfl, rfl, ho, hn, hs⟩ := core_within searched old new
  rw [longestMatch_eq (by rw [ho, hn, hs])]
  obtain ⟨back, b, b', hb, hb', hback⟩ := commonStart_parts before.reverse before'.reverse
  obtain ⟨ahead, a, a', rfl, rfl, hahead⟩ := commonStart_parts after after'
  rw [← hback, ← hahead]
  rw [List.reverse_eq_iff, List.reverse_append] at hb hb'
  subst hb hb'
  exact ⟨back.reverse ++ run ++ ahead, b.reverse, a, b'.reverse, a', by simp, by simp, by simp,
    by simp, by simp [Nat.add_assoc]⟩

/-- A list matches itself as a whole. -/
theorem longestMatch_self (searched : α → Bool) (lines : List α) :
    longestMatch searched lines lines = ⟨0, 0, lines.length⟩ := by
  have start : Diagonal searched [] lines [] {} := ⟨isRow_nil searched lines, rfl, rfl, by simp⟩
  have level : (core searched lines lines).old = (core searched lines lines).new :=
    longestRun_level start
  obtain ⟨run, before, after, before', after', parts, parts', ho, hn, hs⟩ :=
    core_within searched lines lines
  have same : before = before' ∧ after = after' := by
    have length : before.length = before'.length := by rw [ho, hn, level]
    have whole := parts.symm.trans parts'
    rw [List.append_assoc, List.append_assoc] at whole
    obtain ⟨rfl, rest⟩ := List.append_inj whole length
    exact ⟨rfl, List.append_cancel_left rest⟩
  obtain ⟨rfl, rfl⟩ := same
  have found : core searched lines lines = ⟨before.length, before.length, run.length⟩ := by
    rw [hs]
    nth_rewrite 2 [hn]
    rw [ho]
  rw [parts] at found ⊢
  rw [longestMatch_eq found, commonStart_self, commonStart_self]
  simp [Nat.add_assoc]

end Rows

end MarkdownCanon.Diff
