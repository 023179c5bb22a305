import MarkdownCanon.Proofs.Differences

/-! Lines of a diff and what they are there for. A diff has two file headers and below them hunks,
whose lines are those of the two texts in order. A line has the style that goes with its role, but
for a line of a text whose mark makes it look like a file header. -/

namespace MarkdownCanon.Diff

namespace Line

/-- What a line shows of the two texts. -/
def part : Line → Segment String
  | oldFile _ | newFile _ | hunk .. => .same []
  | kept line => .same [line]
  | removed line => .changed [line] []
  | added line => .changed [] [line]

def isFile : Line → Bool
  | oldFile _ | newFile _ => true
  | hunk .. | kept _ | removed _ | added _ => false

/-- The style that goes with what a line is there for. -/
def style : Line → Option Style
  | oldFile _ | newFile _ => some .bold
  | hunk .. => some .cyan
  | kept _ => none
  | removed _ => some .red
  | added _ => some .green

/-- A line of a text whose mark and first characters are those of a file header. -/
def posesAsFile : Line → Bool
  | removed line => ['-', '-'].isPrefixOf line.toList
  | added line => ['+', '+'].isPrefixOf line.toList
  | oldFile _ | newFile _ | hunk .. | kept _ => false

/-- Three marks in a row make a file header of a line. -/
theorem ofLine_marked {mark : Char} {style : Style}
    (known : mark = '-' ∧ style = .red ∨ mark = '+' ∧ style = .green) (cs : List Char) :
    Style.ofLine (String.ofList (mark :: cs)) =
      if [mark, mark].isPrefixOf cs then some .bold else some style := by
  unfold Style.ofLine
  rw [String.toList_ofList]
  rcases cs with _ | ⟨c, _ | ⟨d, rest⟩⟩
  · obtain ⟨rfl, rfl⟩ | ⟨rfl, rfl⟩ := known <;> rfl
  · by_cases again : c = mark <;> obtain ⟨rfl, rfl⟩ | ⟨rfl, rfl⟩ := known <;> simp [again]
  · by_cases again : c = mark <;> by_cases thrice : d = mark <;>
      obtain ⟨rfl, rfl⟩ | ⟨rfl, rfl⟩ := known <;> simp [again, thrice, eq_comm (b := c),
        eq_comm (b := d)]

theorem style_text (line : Line) :
    Style.ofLine line.text = if line.posesAsFile then some .bold else line.style := by
  cases line with
  | oldFile label => simp [text, style, posesAsFile, Style.ofLine]
  | newFile label => simp [text, style, posesAsFile, Style.ofLine]
  | hunk old new => simp [text, style, posesAsFile, Style.ofLine]
  | kept line => simp [text, style, posesAsFile, Style.ofLine]
  | removed line =>
    have marked : (removed line).text = String.ofList ('-' :: line.toList) := by
      rw [← String.toList_inj]
      simp [text]
    rw [marked, ofLine_marked (.inl ⟨rfl, rfl⟩)]
    rfl
  | added line =>
    have marked : (added line).text = String.ofList ('+' :: line.toList) := by
      rw [← String.toList_inj]
      simp [text]
    rw [marked, ofLine_marked (.inr ⟨rfl, rfl⟩)]
    rfl

end Line

/-- What a diff shows of the two texts, it shows in the lines of its hunks. -/
theorem unified_parts {f : Segment String → List String} (none_ : f (.same []) = [])
    (shown : ∀ s : Segment String, s.lines.flatMap (fun l => f l.part) = f s)
    (old new path : String) (context : Nat) :
    (unified old new path context).flatMap (fun l => f l.part) =
      (Hunk.ofSegments context (Segment.compare (linesOf old) (linesOf new))).flatMap
        (Hunk.changes f) := by
  have hunk (h : Hunk String) : h.lines.flatMap (fun l => f l.part) = h.changes f := by
    rw [Hunk.lines, List.flatMap_cons, Hunk.header, Line.part, none_, List.nil_append,
      List.flatMap_assoc]
    exact List.flatMap_congr fun s _ => shown s
  unfold unified
  split
  · rename_i nothing
    rw [nothing]
    rfl
  · dsimp only
    rw [List.flatMap_cons, List.flatMap_cons, Line.part, Line.part, none_, List.nil_append,
      List.nil_append, List.flatMap_assoc]
    exact List.flatMap_congr fun h _ => hunk h

namespace Hunk

variable {α : Type} {context : Nat} {side : Segment α → List α}

/-- The lines that are left of a long stretch stand at its start and at its end. -/
theorem ends_sublist {lines : List α} (long : 2 * context < lines.length) :
    List.Sublist (lines.take context ++ lines.drop (lines.length - context)) lines := by
  have later : lines.length - context = context + (lines.length - 2 * context) := by omega
  have tail : List.Sublist (lines.drop (lines.length - context)) (lines.drop context) := by
    rw [later, ← List.drop_drop]
    exact List.drop_sublist ..
  have both := (List.Sublist.refl (lines.take context)).append tail
  rwa [List.take_append_drop] at both

theorem divide_sublist (whole : ∀ lines, side (.same lines) = lines) (oldAt newAt : Nat)
    (hunk : Hunk α) (segments : List (Segment α)) :
    List.Sublist ((divide context oldAt newAt hunk segments).flatMap (changes side))
      (hunk.changes side ++ segments.flatMap side) := by
  induction segments generalizing oldAt newAt hunk with
  | nil =>
    unfold divide
    split <;> simp
  | cons segment rest ih =>
    cases segment with
    | same lines =>
      unfold divide
      dsimp only
      split
      · rename_i long
        have tail := ih (oldAt + lines.length) (newAt + lines.length)
          ⟨oldAt + lines.length - context, newAt + lines.length - context,
            [.same (lines.drop (lines.length - context))]⟩
        rw [changes, List.flatMap_singleton, whole] at tail
        rw [List.flatMap_cons, List.flatMap_cons, add_changes, whole, whole, List.append_assoc]
        refine (List.Sublist.refl _).append (((List.Sublist.refl _).append tail).trans ?_)
        rw [← List.append_assoc]
        exact (ends_sublist long).append (.refl _)
      · rw [List.flatMap_cons, ← List.append_assoc, ← add_changes]
        exact ih ..
    | changed old new =>
      unfold divide
      rw [List.flatMap_cons, ← List.append_assoc, ← add_changes]
      exact ih ..

theorem trimEnd_sublist (whole : ∀ lines, side (.same lines) = lines)
    (segments : List (Segment α)) :
    List.Sublist ((trimEnd context segments).flatMap side) (segments.flatMap side) := by
  fun_induction trimEnd context segments with
  | case1 => exact .refl _
  | case2 lines =>
    rw [List.flatMap_singleton, List.flatMap_singleton, whole, whole]
    exact List.take_sublist ..
  | case3 segment rest _ ih =>
    rw [List.flatMap_cons, List.flatMap_cons]
    exact (List.Sublist.refl _).append ih

/-- The hunks show lines of each text in their order. -/
theorem ofSegments_sublist (whole : ∀ lines, side (.same lines) = lines)
    (segments : List (Segment α)) :
    List.Sublist ((ofSegments context segments).flatMap (changes side))
      (segments.flatMap side) := by
  unfold ofSegments
  split
  · rename_i lines rest
    refine (divide_sublist whole ..).trans ?_
    refine (trimEnd_sublist whole _).trans ?_
    rw [List.flatMap_cons, List.flatMap_cons, whole, whole]
    exact (List.drop_sublist ..).append (.refl _)
  · exact (divide_sublist whole ..).trans (trimEnd_sublist whole _)

end Hunk

section Sides

variable (old new path : String) (context : Nat)

/-- The lines of the old text that are shown are in order. -/
theorem unified_old :
    List.Sublist ((unified old new path context).flatMap (·.part.old)) (linesOf old) := by
  have shown (s : Segment String) : s.lines.flatMap (·.part.old) = s.old := by
    cases s <;> simp [Segment.lines, Line.part, Segment.old, List.flatMap_map]
  rw [unified_parts rfl shown]
  refine (Hunk.ofSegments_sublist (fun _ => rfl) _).trans ?_
  rw [(Segment.keeps_compare (linesOf old) (linesOf new)).1]

/-- The lines of the new text that are shown are in order. -/
theorem unified_new :
    List.Sublist ((unified old new path context).flatMap (·.part.new)) (linesOf new) := by
  have shown (s : Segment String) : s.lines.flatMap (·.part.new) = s.new := by
    cases s <;> simp [Segment.lines, Line.part, Segment.new, List.flatMap_map]
  rw [unified_parts rfl shown]
  refine (Hunk.ofSegments_sublist (fun _ => rfl) _).trans ?_
  rw [(Segment.keeps_compare (linesOf old) (linesOf new)).2]

/-- All lines that are gone are shown, and no others are marked so. -/
theorem unified_gone : (unified old new path context).flatMap (·.part.gone) =
    (Segment.compare (linesOf old) (linesOf new)).flatMap Segment.gone := by
  have shown (s : Segment String) : s.lines.flatMap (·.part.gone) = s.gone := by
    cases s <;> simp [Segment.lines, Line.part, Segment.gone, List.flatMap_map]
  exact (unified_parts rfl shown old new path context).trans
    (Hunk.ofSegments_changes (fun _ => rfl) _)

/-- All lines that have come are shown, and no others are marked so. -/
theorem unified_come : (unified old new path context).flatMap (·.part.come) =
    (Segment.compare (linesOf old) (linesOf new)).flatMap Segment.come := by
  have shown (s : Segment String) : s.lines.flatMap (·.part.come) = s.come := by
    cases s <;> simp [Segment.lines, Line.part, Segment.come, List.flatMap_map]
  exact (unified_parts rfl shown old new path context).trans
    (Hunk.ofSegments_changes (fun _ => rfl) _)

theorem lines_isFile {hunk : Hunk String} {l : Line} (m : l ∈ hunk.lines) : l.isFile = false := by
  unfold Hunk.lines at m
  obtain rfl | m := List.mem_cons.mp m
  · rfl
  · obtain ⟨s, -, m⟩ := List.mem_flatMap.mp m
    cases s with
    | same lines =>
      obtain ⟨line, -, rfl⟩ := List.mem_map.mp m
      rfl
    | changed gone come =>
      obtain m | m := List.mem_append.mp m
      · obtain ⟨line, -, rfl⟩ := List.mem_map.mp m
        rfl
      · obtain ⟨line, -, rfl⟩ := List.mem_map.mp m
        rfl

/-- A diff that is not empty starts with the two file headers, and has no others. -/
theorem unified_files : unified old new path context = [] ∨
    ∃ body, unified old new path context =
        .oldFile (labels path).1 :: .newFile (labels path).2 :: body ∧
      ∀ l ∈ body, l.isFile = false := by
  unfold unified
  split
  · exact .inl rfl
  · refine .inr ⟨_, rfl, fun l m => ?_⟩
    obtain ⟨hunk, -, m⟩ := List.mem_flatMap.mp m
    exact lines_isFile m

/-- The lines of a diff have the styles that go with their roles: bold for the two file headers,
cyan for those of hunks, red for every line that only the old text has, green for every one that
only the new text has, and none for the others. Only a line that poses as a file header, as it
starts with two characters like its mark, is shown as one. -/
theorem unified_styles :
    (unified old new path context = [] ∨
      ∃ body, unified old new path context =
          .oldFile (labels path).1 :: .newFile (labels path).2 :: body ∧
        ∀ l ∈ body, l.isFile = false) ∧
    (∃ segments, Segment.Keeps segments (linesOf old) (linesOf new) ∧
      (unified old new path context).flatMap (·.part.gone) = segments.flatMap Segment.gone ∧
      (unified old new path context).flatMap (·.part.come) = segments.flatMap Segment.come) ∧
    List.Sublist ((unified old new path context).flatMap (·.part.old)) (linesOf old) ∧
    List.Sublist ((unified old new path context).flatMap (·.part.new)) (linesOf new) ∧
    ((unified old new path context).map Line.text).map Style.ofLine =
      (unified old new path context).map fun l =>
        if l.posesAsFile then some .bold else l.style := by
  refine ⟨unified_files old new path context, ?_, unified_old old new path context,
    unified_new old new path context, ?_⟩
  · exact ⟨_, Segment.keeps_compare .., unified_gone old new path context,
      unified_come old new path context⟩
  · rw [List.map_map]
    exact List.map_congr_left fun l _ => l.style_text

/-- The line under a heading is gone when the heading gets a mark in its place, and is not red. -/
theorem unified_styles_underline :
    (unified "Title\n---\n" "## Title\n" "x.md" defaultContext).map
        (fun l => (l.text, Style.ofLine l.text)) =
      [("--- a/x.md", some .bold), ("+++ b/x.md", some .bold), ("@@ -1,2 +1 @@", some .cyan),
        ("-Title", some .red), ("----", some .bold), ("+## Title", some .green)] ∧
    Line.removed "---" ∈ unified "Title\n---\n" "## Title\n" "x.md" defaultContext ∧
    Style.ofLine (Line.removed "---").text ≠ some .red := by
  decide +kernel

end Sides

end MarkdownCanon.Diff
