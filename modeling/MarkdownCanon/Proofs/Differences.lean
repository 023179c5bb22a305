import MarkdownCanon.Proofs.BlockOpeners
import MarkdownCanon.Proofs.LongestMatch
import MarkdownCanon.Proofs.RunEffects

/-! What a diff shows. The stretches that two texts are cut into hold all lines of both, and the
hunks hold every change among them, so a diff is empty when the texts have the same lines and only
then. What kind of line ends there are, and whether the last line has one, makes no line. -/

namespace MarkdownCanon

namespace Diff

variable {α β : Type}

namespace Segment

/-- The lines that only the old text has. -/
def gone : Segment α → List α
  | same _ => []
  | changed old _ => old

/-- The lines that only the new text has. -/
def come : Segment α → List α
  | same _ => []
  | changed _ new => new

/-- `Keeps segments old new`: the stretches hold the lines of both texts in order. -/
def Keeps (segments : List (Segment α)) (old new : List α) : Prop :=
  segments.flatMap Segment.old = old ∧ segments.flatMap Segment.new = new

theorem Keeps.append {segments segments' : List (Segment α)} {old old' new new' : List α}
    (h : Keeps segments old new) (h' : Keeps segments' old' new') :
    Keeps (segments ++ segments') (old ++ old') (new ++ new') := by
  obtain ⟨rfl, rfl⟩ := h
  obtain ⟨rfl, rfl⟩ := h'
  exact ⟨List.flatMap_append .., List.flatMap_append ..⟩

theorem keeps_same (lines : List α) : Keeps [same lines] lines lines := by
  simp [Keeps, Segment.old, Segment.new]

theorem keeps_change (old new : List α) : Keeps (change old new) old new := by
  unfold change
  split
  · simp_all [Keeps]
  · simp [Keeps, Segment.old, Segment.new]

theorem keeps_cut [BEq α] [LawfulBEq α] (searched : α → Bool) (cuts : Nat) (old new : List α) :
    Keeps (cut searched cuts old new) old new := by
  induction cuts generalizing old new with
  | zero => exact keeps_change old new
  | succ cuts ih =>
    unfold cut
    dsimp only
    split
    · exact keeps_change old new
    · obtain ⟨run, before, after, before', after', rfl, rfl, ho, hn, hs⟩ :=
        longestMatch_within searched old new
      rw [← ho, ← hn, ← hs]
      have parts (front tail : List α) : (front ++ run ++ tail).take front.length = front ∧
          ((front ++ run ++ tail).drop front.length).take run.length = run ∧
          (front ++ run ++ tail).drop (front.length + run.length) = tail := by
        refine ⟨by simp, by simp, ?_⟩
        exact List.drop_left' (List.length_append ..)
      rw [(parts before after).1, (parts before after).2.1, (parts before after).2.2,
        (parts before' after').1, (parts before' after').2.2, List.append_cons]
      exact ((ih before before').append (keeps_same run)).append (ih after after')

theorem join_flatMap {f : Segment α → List β}
    (joins : ∀ a b, f (same (a ++ b)) = f (same a) ++ f (same b)) (segments : List (Segment α)) :
    (join segments).flatMap f = segments.flatMap f := by
  fun_induction join segments with
  | case1 => rfl
  | case2 lines rest more rest' joined ih =>
    rw [joined] at ih
    rw [List.flatMap_cons, joins, List.append_assoc, ← List.flatMap_cons, ih, List.flatMap_cons]
  | case3 lines rest _ ih => rw [List.flatMap_cons, ih, List.flatMap_cons]
  | case4 old new rest ih => rw [List.flatMap_cons, ih, List.flatMap_cons]

theorem keeps_compare [BEq α] [LawfulBEq α] (old new : List α) :
    Keeps (compare old new) old new := by
  have kept := keeps_cut (fun x => !isPopular new x) old.length old new
  exact ⟨(join_flatMap (fun _ _ => rfl) _).trans kept.1,
    (join_flatMap (fun _ _ => rfl) _).trans kept.2⟩

theorem cut_nil [BEq α] [LawfulBEq α] (searched : α → Bool) (cuts : Nat) :
    cut searched cuts [] [] = [] := by
  cases cuts with
  | zero => rfl
  | succ cuts => rw [cut, longestMatch_self]; rfl

/-- A text is one stretch of what it has in common with itself. -/
theorem compare_self [BEq α] [LawfulBEq α] (lines : List α) :
    compare lines lines = if lines = [] then [] else [same lines] := by
  cases lines with
  | nil => exact congrArg join (cut_nil _ 0)
  | cons x rest =>
    rw [compare, List.length_cons, cut, longestMatch_self]
    simp [cut_nil, join]

/-- Stretches in which nothing is gone or has come hold one text twice. -/
theorem Keeps.eq {segments : List (Segment α)} {old new : List α} (h : Keeps segments old new)
    (still : ∀ s ∈ segments, s.gone = [] ∧ s.come = []) : old = new := by
  rw [← h.1, ← h.2]
  refine List.flatMap_congr fun s m => ?_
  cases s with
  | same lines => rfl
  | changed gone come => exact (still _ m).1.trans (still _ m).2.symm

end Segment

namespace Hunk

/-- What there is to see in the changes of a hunk. -/
def changes (f : Segment α → List β) (hunk : Hunk α) : List β := hunk.segments.flatMap f

variable {context : Nat} {f : Segment α → List β}

theorem add_changes (hunk : Hunk α) (segment : Segment α) :
    (hunk.add segment).changes f = hunk.changes f ++ f segment := by
  simp [add, changes]

theorem quiet_changes (silent : ∀ lines, f (.same lines) = []) {hunk : Hunk α}
    (quiet : hunk.isQuiet = true) : hunk.changes f = [] := by
  unfold isQuiet at quiet
  unfold changes
  split at quiet
  · rename_i none_
    rw [none_]
    rfl
  · rename_i lines only
    rw [only, List.flatMap_singleton, silent]
  · cases quiet

theorem divide_changes (silent : ∀ lines, f (.same lines) = []) (oldAt newAt : Nat) (hunk : Hunk α)
    (segments : List (Segment α)) :
    (divide context oldAt newAt hunk segments).flatMap (changes f) =
      hunk.changes f ++ segments.flatMap f := by
  induction segments generalizing oldAt newAt hunk with
  | nil =>
    unfold divide
    split
    · rename_i quiet
      rw [quiet_changes silent quiet]
      rfl
    · simp
  | cons segment rest ih =>
    cases segment with
    | same lines =>
      unfold divide
      dsimp only
      split
      -- The hunk ends here, and the next one starts with common lines, which show nothing.
      · rw [List.flatMap_cons, ih, add_changes, silent, List.flatMap_cons, silent, changes, changes,
          List.flatMap_singleton, silent]
        simp
      · rw [ih, add_changes, List.flatMap_cons, List.append_assoc]
    | changed old new =>
      unfold divide
      rw [ih, add_changes, List.flatMap_cons, List.append_assoc]

theorem trimEnd_flatMap (silent : ∀ lines, f (.same lines) = []) (segments : List (Segment α)) :
    (trimEnd context segments).flatMap f = segments.flatMap f := by
  fun_induction trimEnd context segments with
  | case1 => rfl
  | case2 lines => simp [silent]
  | case3 segment rest _ ih => rw [List.flatMap_cons, ih, List.flatMap_cons]

/-- The hunks hold all changes. -/
theorem ofSegments_changes (silent : ∀ lines, f (.same lines) = []) (segments : List (Segment α)) :
    (ofSegments context segments).flatMap (changes f) = segments.flatMap f := by
  unfold ofSegments
  split
  · rw [divide_changes silent, trimEnd_flatMap silent, List.flatMap_cons, List.flatMap_cons, silent,
      silent]
    rfl
  · rw [divide_changes silent, trimEnd_flatMap silent]
    rfl

theorem ofSegments_same (context : Nat) (lines : List α) :
    ofSegments context [.same lines] = [] := by
  have short (l : List α) : ¬2 * context < (l.take context).length := by
    rw [List.length_take]
    omega
  unfold ofSegments
  dsimp only [trimEnd, divide]
  rw [if_neg (short _)]
  rfl

/-- There are no hunks if there is no change. -/
theorem ofSegments_compare_eq_nil [BEq α] [LawfulBEq α] (context : Nat) (old new : List α) :
    ofSegments context (Segment.compare old new) = [] ↔ old = new := by
  constructor
  · intro none_
    refine (Segment.keeps_compare old new).eq fun s m => ?_
    have nothing (f : Segment α → List α) (silent : ∀ lines, f (.same lines) = []) : f s = [] := by
      have all : (ofSegments context (Segment.compare old new)).flatMap (changes f) =
          (Segment.compare old new).flatMap f := ofSegments_changes silent _
      rw [none_] at all
      exact List.flatMap_eq_nil_iff.mp all.symm s m
    exact ⟨nothing Segment.gone fun _ => rfl, nothing Segment.come fun _ => rfl⟩
  · rintro rfl
    rw [Segment.compare_self]
    split
    · rfl
    · exact ofSegments_same context old

end Hunk

theorem unified_eq_nil_iff {old new path : String} {context : Nat} :
    unified old new path context = [] ↔ linesOf old = linesOf new := by
  rw [← Hunk.ofSegments_compare_eq_nil context (linesOf old)]
  unfold unified
  split
  · rename_i none_
    simp [none_]
  · rename_i some_
    simpa using some_

end Diff

namespace Text

/-- A text with a line feed in the place of every line end. -/
def lineFeeds : List Char → List Char
  | [] => []
  | '\r' :: '\n' :: rest => '\n' :: lineFeeds rest
  | c :: rest => (if isLineEnd c then '\n' else c) :: lineFeeds rest

/-- A text with a line feed behind its last line too. -/
def ended (text : List Char) : List Char :=
  if text = [] ∨ text.getLast? = some '\n' then text else text ++ ['\n']

theorem ended_newline (text : List Char) : ended ('\n' :: text) = '\n' :: ended text := by
  cases text with
  | nil => rfl
  | cons c rest =>
    unfold ended
    rw [List.getLast?_cons_cons]
    split <;> simp_all

theorem ended_cons (c : Char) {text : List Char} (some_ : text ≠ []) :
    ended (c :: text) = c :: ended text := by
  obtain ⟨d, rest, rfl⟩ := List.exists_cons_of_ne_nil some_
  unfold ended
  rw [List.getLast?_cons_cons]
  split <;> simp_all

theorem lines_eq_nil_iff {cs : List Char} : lines cs = [] ↔ cs = [] := by
  fun_cases lines cs <;> simp_all

theorem lineFeeds_eq_nil_iff {cs : List Char} : lineFeeds cs = [] ↔ cs = [] := by
  fun_cases lineFeeds cs <;> simp

theorem lines_line {cs line : List Char} (m : line ∈ lines cs) : '\n' ∉ line := by
  fun_induction lines cs generalizing line with
  | case1 => cases m
  | case2 rest ih =>
    obtain rfl | m := List.mem_cons.mp m
    · exact List.not_mem_nil
    · exact ih m
  | case3 c rest other closes ih =>
    obtain rfl | m := List.mem_cons.mp m
    · exact List.not_mem_nil
    · exact ih m
  | case4 c rest other open_ none_ ih =>
    rw [List.mem_singleton.mp m, List.mem_singleton]
    rintro rfl
    exact open_ rfl
  | case5 c rest other open_ first more cut ih =>
    have inside : '\n' ∉ first := ih (by simp [cut])
    obtain rfl | m := List.mem_cons.mp m
    · rw [List.mem_cons, not_or]
      refine ⟨?_, inside⟩
      rintro rfl
      exact open_ rfl
    · exact ih (by simp [cut, m])

/-- The lines of a text, each with a line feed behind it. -/
theorem ended_lineFeeds (cs : List Char) : ended (lineFeeds cs) = page (lines cs) [] := by
  fun_induction lines cs with
  | case1 => rfl
  | case2 rest ih =>
    rw [lineFeeds, ended_newline, ih]
    rfl
  | case3 c rest other closes ih =>
    rw [lineFeeds.eq_3 _ _ other, if_pos closes, ended_newline, ih]
    rfl
  | case4 c rest other open_ none_ ih =>
    obtain rfl := lines_eq_nil_iff.mp none_
    have newline : c ≠ '\n' := by
      rintro rfl
      exact open_ rfl
    rw [lineFeeds.eq_3 _ _ other, if_neg open_]
    simp [lineFeeds, ended, page, newline]
  | case5 c rest other open_ first more cut ih =>
    have some_ : lineFeeds rest ≠ [] := by
      rw [Ne, lineFeeds_eq_nil_iff]
      rintro rfl
      cases cut
    rw [lineFeeds.eq_3 _ _ other, if_neg open_, ended_cons c some_, ih, cut]
    rfl

/-- Two texts have the same lines if they differ in nothing but the kind of their line ends and in
whether the last line has one. -/
theorem lines_eq_iff {cs ds : List Char} :
    lines cs = lines ds ↔ ended (lineFeeds cs) = ended (lineFeeds ds) := by
  rw [ended_lineFeeds, ended_lineFeeds]
  refine ⟨fun same => congrArg (page · []) same, fun same => ?_⟩
  have cut := congrArg segments same
  rw [segments_page (fun _ => lines_line) List.not_mem_nil,
    segments_page (fun _ => lines_line) List.not_mem_nil] at cut
  exact List.append_cancel_right cut

end Text

namespace Diff

theorem linesOf_eq_iff {old new : String} : linesOf old = linesOf new ↔
    Text.ended (Text.lineFeeds old.toList) = Text.ended (Text.lineFeeds new.toList) := by
  rw [← Text.lines_eq_iff]
  exact (List.map_injective_iff.mpr fun _ _ => String.ofList_inj.mp).eq_iff

/-- A diff of two texts that are not equal can be empty. -/
theorem unified_misses_line_end :
    unified "x" "x\n" "x.md" defaultContext = [] ∧ "x" ≠ "x\n" := by
  decide +kernel

theorem printLine_ne_empty (mode : ColorMode) (style : Option Style) (line : String) :
    printLine mode style line ≠ "" := by
  obtain ⟨row, rows, cut⟩ :=
    List.exists_cons_of_ne_nil (Writer.segments_ne_nil (visible line).toList)
  unfold printLine
  dsimp only
  rw [cut, Ne, ← String.toList_inj]
  simp

theorem print_eq_empty_iff {mode : ColorMode} {lines : List String} :
    print mode lines = "" ↔ lines = [] := by
  cases lines with
  | nil => exact ⟨fun _ => rfl, fun _ => rfl⟩
  | cons line rest => simp [print, String.join_cons, printLine_ne_empty]

end Diff

namespace CommandLine

namespace Job

open Run

/-- The changes of a document as a job prints them. -/
def shownDiff (job : Job) (label old new : String) : String :=
  Diff.print job.color ((Diff.unified old new label Diff.defaultContext).map Diff.Line.text)

theorem shownDiff_eq_empty_iff {job : Job} {label old new : String} :
    job.shownDiff label old new = "" ↔
      Text.ended (Text.lineFeeds old.toList) = Text.ended (Text.lineFeeds new.toList) := by
  rw [shownDiff, Diff.print_eq_empty_iff, List.map_eq_nil_iff, Diff.unified_eq_nil_iff,
    Diff.linesOf_eq_iff]

variable {job : Job} {bytes : List UInt8} {text : String}

/-- A job that writes no file prints what it is asked for of a document that changes. -/
theorem processSource_sent (job : Job) (formed : job.formatter.canonical bytes = .ok text)
    (keeps : job.write = false) (label : String) (path : Option Path) {s : Session}
    (quiet : s.log.file = none) :
    ∃ t, job.processSource label path bytes s = .ok () t ∧
      sentOn .output t.sent = sentOn .output s.sent ++
        ((if Formatter.encoded text = bytes then []
          else sentOn .output (job.listing label ++
            job.showing label (textOf bytes) text).handed) ++
          sentOn .output (job.printing text).handed) := by
  by_cases canonical : Formatter.encoded text = bytes
  · obtain ⟨t, run, became⟩ :=
      processSource_canonical label path formed canonical s.disk rfl quiet
    refine ⟨t, run, ?_⟩
    rw [← sentOn_handed rfl t.sent, became.handed, sentOn_append, sentOn_handed rfl,
      if_pos canonical, List.nil_append]
  · obtain ⟨t, run, became⟩ := processSource_changed label path formed canonical
      (onChange_kept keeps label path (textOf bytes) text s.disk) rfl quiet
    refine ⟨t, run, ?_⟩
    rw [← sentOn_handed rfl t.sent, became.handed, sentOn_append, sentOn_handed rfl,
      if_neg canonical, Effect.handed_append, sentOn_append]

/-- A diff shows nothing of two texts exactly if they differ in nothing but the kind of their line
ends and in whether the last line has one. So a document that is listed, as it is not in canonical
form, is shown with its changes, unless there are no others. -/
theorem processSource_lists_and_shows (formed : job.formatter.canonical bytes = .ok text)
    (label : String) (path : Option Path) {s : Session} (quiet : s.log.file = none) :
    (∀ (old new name : String) (context : Nat), Diff.unified old new name context = [] ↔
      Text.ended (Text.lineFeeds old.toList) = Text.ended (Text.lineFeeds new.toList)) ∧
    ∃ listed shown,
      { job with list := true, write := false, diff := false }.processSource label path bytes s =
        .ok () listed ∧
      { job with list := false, write := false, diff := true }.processSource label path bytes s =
        .ok () shown ∧
      sentOn .output listed.sent = sentOn .output s.sent ++
        (if Formatter.encoded text = bytes then [] else [label ++ "\n"]) ∧
      sentOn .output shown.sent = sentOn .output s.sent ++
        (if Formatter.encoded text = bytes then []
          else [job.shownDiff label (textOf bytes) text]) ∧
      (job.shownDiff label (textOf bytes) text = "" ↔
        Text.ended (Text.lineFeeds (textOf bytes).toList) =
          Text.ended (Text.lineFeeds text.toList)) := by
  refine ⟨fun old new name context => Diff.unified_eq_nil_iff.trans Diff.linesOf_eq_iff, ?_⟩
  obtain ⟨listed, lists, names⟩ :=
    processSource_sent { job with list := true, write := false, diff := false } formed rfl label
      path quiet
  obtain ⟨shown, shows_, prints⟩ :=
    processSource_sent { job with list := false, write := false, diff := true } formed rfl label
      path quiet
  refine ⟨listed, shown, lists, shows_, names.trans ?_, prints.trans ?_, shownDiff_eq_empty_iff⟩
  · exact congrArg _ (List.append_nil _)
  · exact congrArg _ (List.append_nil _)

/-- The document "x" is listed, as its last line has no end, and shown with an empty diff. -/
theorem processSource_lists_unended :
    let paragraph : Token := .mk { tag := some (.text "paragraph") } [.ofText "x"]
    let job : Job := { formatter := .plain (.knowing [("x", [paragraph])]) {} }
    job.formatter.canonical (Formatter.encoded "x") = .ok "x\n" ∧
    ∃ listed shown,
      { job with list := true }.processSource "x.md" none (Formatter.encoded "x") {} =
        .ok () listed ∧
      { job with diff := true }.processSource "x.md" none (Formatter.encoded "x") {} =
        .ok () shown ∧
      sentOn .output listed.sent = ["x.md\n"] ∧ sentOn .output shown.sent = [""] := by
  intro paragraph job
  have formed : job.formatter.canonical (Formatter.encoded "x") = .ok "x\n" := by
    have text : (job.formatter.canonical (Formatter.encoded "x")).toOption = some "x\n" := by
      decide +kernel
    cases canonical : job.formatter.canonical (Formatter.encoded "x") with
    | ok out => rw [canonical] at text; exact congrArg _ (Option.some.inj text)
    | error e => rw [canonical] at text; cases text
  obtain ⟨-, listed, shown, lists, shows_, names, prints, silent⟩ :=
    processSource_lists_and_shows formed "x.md" none (s := {}) rfl
  have other : Formatter.encoded "x\n" ≠ Formatter.encoded "x" := by decide +kernel
  have level : job.shownDiff "x.md" (textOf (Formatter.encoded "x")) "x\n" = "" :=
    silent.mpr (by decide +kernel)
  rw [if_neg other] at names prints
  rw [level] at prints
  exact ⟨formed, listed, shown, lists, shows_, names, prints⟩

end Job

end CommandLine

end MarkdownCanon
