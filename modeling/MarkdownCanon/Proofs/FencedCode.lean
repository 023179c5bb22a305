import Mathlib.Data.List.DropRight
import MarkdownCanon.Proofs.BlockOpeners
import MarkdownCanon.Proofs.Containers

/-! Fenced code as a reader takes it apart. What is printed for a block of code is read as that
block, except where the info string goes on with the character of the fence in front of it. -/

namespace MarkdownCanon

namespace Text

theorem le_longestRunFrom (p : Char → Bool) (current best : Nat) (text : List Char) :
    best ≤ longestRunFrom p current best text := by
  induction text generalizing current best with
  | nil => exact Nat.le_refl best
  | cons c text ih =>
    rw [longestRunFrom]
    split
    · exact Nat.le_trans (Nat.le_max_left _ _) (ih _ _)
    · exact ih _ _

/-- A run at the start of a text is counted on from the members just before. -/
theorem run_le_longestRunFrom {p : Char → Bool} {run : List Char} (inside : ∀ c ∈ run, p c = true)
    (rest : List Char) {current best : Nat} (counted : current ≤ best) :
    current + run.length ≤ longestRunFrom p current best (run ++ rest) := by
  induction run generalizing current best with
  | nil => exact Nat.le_trans counted (le_longestRunFrom p current best rest)
  | cons c run ih =>
    have more := ih (fun c m => inside c (List.mem_cons_of_mem _ m))
      (Nat.le_max_right best (current + 1))
    rw [List.cons_append, longestRunFrom, if_pos (inside c List.mem_cons_self)]
    simp only [List.length_cons]
    omega

/-- No run in a text is longer than the longest. -/
theorem run_le_longestRun {p : Char → Bool} {run text : List Char}
    (inside : ∀ c ∈ run, p c = true) (part : run <:+: text) :
    run.length ≤ longestRun p text := by
  obtain ⟨front, rest, rfl⟩ := part
  have behind (current best : Nat) (counted : current ≤ best) :
      run.length ≤ longestRunFrom p current best (front ++ (run ++ rest)) := by
    induction front generalizing current best with
    | nil =>
      have whole := run_le_longestRunFrom inside rest counted
      rw [List.nil_append]
      omega
    | cons c front ih =>
      rw [List.cons_append, longestRunFrom]
      split
      · exact ih _ _ (Nat.le_max_right _ _)
      · exact ih _ _ (Nat.zero_le _)
  rw [List.append_assoc]
  exact behind 0 0 (Nat.le_refl 0)

theorem trim_trim (p : Char → Bool) (cs : List Char) : trim p (trim p cs) = trim p cs := by
  have front : (trim p cs).dropWhile p = trim p cs := by
    cases kept : cs.dropWhile p with
    | nil =>
      rw [trim, kept]
      rfl
    | cons c rest =>
      have stays : p c = false := by
        have head := List.head?_dropWhile_not p cs
        rw [kept] at head
        simpa using head
      obtain ⟨more, shown⟩ := trimEnd_cons stays rest
      rw [trim, kept, shown, List.dropWhile_cons_of_neg (by simp [stays])]
  calc trim p (trim p cs)
      = trimEnd p (trim p cs) := by rw [trim, front]
    _ = trim p cs := List.rdropWhile_idempotent p (cs.dropWhile p)

/-- The lines of a text that is empty or ends with a line end. -/
theorem exists_lines {text : List Char} (ended : ∀ c, text.getLast? = some c → c = '\n') :
    ∃ lines, text = page lines [] ∧ ∀ line ∈ lines, '\n' ∉ line := by
  have some_ := Writer.segments_ne_nil text
  obtain ⟨lines, last, cut⟩ : ∃ lines last, segments text = lines ++ [last] :=
    ⟨_, _, (List.dropLast_append_getLast some_).symm⟩
  have whole : text = page lines last := by
    rw [page_eq_joinSegments, ← cut, joinSegments_segments]
  have line : ∀ line ∈ lines ++ [last], '\n' ∉ line := fun line m => segments_line (cut ▸ m)
  cases last using List.reverseRecOn with
  | nil => exact ⟨lines, whole, fun l m => line l (List.mem_append_left _ m)⟩
  | append_singleton last c =>
    have newline : c = '\n' := ended c (by simp [whole, page])
    exact absurd (by simp [newline]) (line (last ++ [c]) (by simp))

end Text

/-- What a reader makes of fenced code: the character of the fence and how often it stands in the
opening one, the info string, the lines of the code, and whatever follows the closing fence. -/
structure FencedCode where
  mark : Char
  length : Nat
  info : List Char
  lines : List (List Char)
  after : List (List Char)
  deriving DecidableEq, Repr

namespace FencedCode

/-- Whether a line closes fenced code: at least as many of the character as the opening fence has,
and nothing else but spaces, of which three at most stand in front. -/
def closes (mark : Char) (length : Nat) (line : List Char) : Bool :=
  let body := Markup.unindented line
  let fence := body.takeWhile (· == mark)
  length ≤ fence.length && (body.drop fence.length).all Text.isSpace

/-- Whether a line can open fenced code, when `fence` is what it begins with and `info` the rest of
it. An info string behind backticks holds none. -/
def opens (mark : Char) (fence info : List Char) : Bool :=
  3 ≤ fence.length && (mark == '\x60' && !info.contains '\x60' || mark == '~')

/-- Fenced code whose first line begins with `mark`. -/
def readFrom? (mark : Char) (first : List Char) (later : List (List Char)) : Option FencedCode :=
  let fence := first.takeWhile (· == mark)
  let info := first.drop fence.length
  match later.dropWhile (!closes mark fence.length ·) with
  | [] => none
  | _ :: after =>
    if opens mark fence info then
      some
        { mark, length := fence.length, info := Text.trim Text.isBlank info, after
          lines := later.takeWhile (!closes mark fence.length ·) }
    else none

def read? (text : List Char) : Option FencedCode :=
  match Text.segments text with
  | (mark :: rest) :: later => readFrom? mark (mark :: rest) later
  | _ => none

example : read? "~~~ ~x \na\n~~\n ~~~~ \nb".toList =
    some ⟨'~', 3, "~x".toList, ["a".toList, "~~".toList], ["b".toList]⟩ := by decide

example : read? "\x60\x60\x60a\x60\n\x60\x60\x60".toList = none := by decide

end FencedCode

namespace Render

open FencedCode

/-- How many characters the fence of a block has. -/
def fenceLength (formatters : FormatterMap) (block : CodeBlock) : Nat :=
  max 3 (Text.longestRun (· == fenceChar block)
    (CodeFormatter.endLine (formattedCode formatters block)).toList + 1)

theorem codeBlockText_eq (formatters : FormatterMap) (block : CodeBlock) :
    codeBlockText formatters block =
      List.replicate (fenceLength formatters block) (fenceChar block) ++
        (infoText block).toList ++
        '\n' :: (CodeFormatter.endLine (formattedCode formatters block)).toList ++
        List.replicate (fenceLength formatters block) (fenceChar block) := rfl

theorem fenceChar_cases (block : CodeBlock) :
    fenceChar block = '\x60' ∧ '\x60' ∉ (infoText block).toList ∨ fenceChar block = '~' := by
  unfold fenceChar
  dsimp only
  generalize (if block.fenced = true then block.fence else Fence.backtick) = fence
  cases fence with
  | tilde => exact .inr rfl
  | backtick =>
    by_cases m : '\x60' ∈ (infoText block).toList
    · right
      rw [if_pos]
      simpa using m
    · left
      refine ⟨if_neg ?_, m⟩
      simpa using m

theorem fenceChar_opens {length : Nat} (long : 3 ≤ length) (block : CodeBlock) :
    opens (fenceChar block) (List.replicate length (fenceChar block)) (infoText block).toList =
      true := by
  obtain ⟨backtick, none_⟩ | tilde := fenceChar_cases block
  · simp [opens, long, backtick, none_]
  · simp [opens, long, tilde]

theorem fenceChar_ne_space (block : CodeBlock) : fenceChar block ≠ ' ' := by
  obtain ⟨backtick, -⟩ | tilde := fenceChar_cases block
  · rw [backtick]
    decide
  · rw [tilde]
    decide

theorem infoText_trim (block : CodeBlock) :
    Text.trim Text.isBlank (infoText block).toList = (infoText block).toList := by
  simp only [infoText, Text.strip, String.toList_ofList, Text.trim_trim]

theorem endLine_last (code : String) {c : Char}
    (last : (CodeFormatter.endLine code).toList.getLast? = some c) : c = '\n' := by
  unfold CodeFormatter.endLine at last
  split at last
  · rename_i done
    obtain empty | ended := Bool.or_eq_true_iff.mp done
    · rw [String.isEmpty_iff.mp empty] at last
      cases last
    · rw [beq_iff_eq.mp ended] at last
      exact (Option.some.inj last).symm
  · simpa using last.symm

end Render

namespace FencedCode

/-- A line closes no code that it is longer than every run in. -/
theorem closes_of_short {mark : Char} {length : Nat} {line code : List Char}
    (part : line <:+: code) (short : Text.longestRun (· == mark) code < length) :
    closes mark length line = false := by
  have fence : (Markup.unindented line).takeWhile (· == mark) <:+: code :=
    (List.takeWhile_prefix _).isInfix.trans ((List.drop_suffix _ _).isInfix.trans part)
  have run := Text.run_le_longestRun (fun c m => List.mem_takeWhile_imp m) fence
  simp only [closes, Bool.and_eq_false_imp, decide_eq_true_eq]
  intro long
  omega

theorem closes_fence {mark : Char} (other : mark ≠ ' ') (length : Nat) :
    closes mark length (List.replicate length mark) = true := by
  have body : Markup.unindented (List.replicate length mark) = List.replicate length mark := by
    have none_ : (List.replicate length mark).takeWhile Text.isSpace = [] := by
      cases length <;> simp [List.replicate_succ, Text.isSpace, other]
    rw [Markup.unindented, none_]
    simp
  have fence : (List.replicate length mark).takeWhile (· == mark) = List.replicate length mark := by
    rw [List.takeWhile_eq_self_iff]
    intro c m
    simp [List.eq_of_mem_replicate m]
  simp [closes, body, fence]

theorem read?_page {mark : Char} {rest : List Char} {lines : List (List Char)} {last : List Char}
    (line : ∀ l ∈ (mark :: rest) :: lines, '\n' ∉ l) (open_ : '\n' ∉ last) :
    read? (Text.page ((mark :: rest) :: lines) last) =
      readFrom? mark (mark :: rest) (lines ++ [last]) := by
  rw [read?, Text.segments_page line open_]
  rfl

variable {mark : Char} {length : Nat} {info : List Char} {lines : List (List Char)}

/-- Code between two fences is read as what it was made of, if the info string does not go on with
the character of the fence. -/
theorem readFrom?_eq (other : mark ≠ ' ')
    (opening : opens mark (List.replicate length mark) info = true)
    (stops : info.head? ≠ some mark) (inside : ∀ line ∈ lines, closes mark length line = false) :
    readFrom? mark (List.replicate length mark ++ info)
        (lines ++ [List.replicate length mark]) =
      some ⟨mark, length, Text.trim Text.isBlank info, lines, []⟩ := by
  have fence : (List.replicate length mark ++ info).takeWhile (· == mark) =
      List.replicate length mark := by
    apply Text.takeWhile_run
    · intro c m
      simp [List.eq_of_mem_replicate m]
    · intro c head
      rw [beq_eq_false_iff_ne]
      rintro rfl
      exact stops head
  have code : ∀ line ∈ lines, (!closes mark length line) = true := by
    intro line m
    simp [inside line m]
  have rest : (List.replicate length mark ++ info).drop length = info := by simp
  rw [readFrom?, fence]
  simp only [List.length_replicate, rest, opening]
  rw [List.dropWhile_append_of_pos code, List.takeWhile_append_of_pos code]
  simp [closes_fence other length]

/-- An info string that goes on with the character of the fence makes the opening fence longer. -/
theorem length_of_readFrom? (goesOn : info.head? = some mark) {later : List (List Char)}
    {code : FencedCode}
    (h : readFrom? mark (List.replicate length mark ++ info) later = some code) :
    length < code.length := by
  obtain ⟨more, rfl⟩ := List.head?_eq_some_iff.mp goesOn
  have fence : length <
      ((List.replicate length mark ++ mark :: more).takeWhile (· == mark)).length := by
    rw [List.takeWhile_append_of_pos fun c m => by simp [List.eq_of_mem_replicate m]]
    simp
  unfold readFrom? at h
  dsimp only at h
  split at h
  · cases h
  · split at h
    · cases h
      exact fence
    · cases h

end FencedCode

theorem Text.mem_page_infix {lines : List (List Char)} {line : List Char} (m : line ∈ lines) :
    line <:+: page lines [] := by
  obtain ⟨before, after, rfl⟩ := List.append_of_mem m
  exact ⟨page before [], '\n' :: page after [], by simp [page]⟩

theorem Writer.write_fresh {text : List Char} (shown : text ≠ []) :
    (({} : Writer).write text).out = String.ofList text := by
  rw [← String.toList_inj, (write_bare rfl shown).1, String.toList_ofList]
  simp

theorem RendererSettings.render_codeBlock (settings : RendererSettings) (block : CodeBlock) :
    (settings.render (.document [.codeBlock block])).1 = .ok (String.ofList
      (Render.codeBlockText settings.formatters block ++ ['\n'])) := by
  have run : Render.allBlocks settings [.codeBlock block] {} = .ok ()
      { journal := {} ++ Render.formattingTrace settings.formatters block
        writer := ({} : Writer).write (Render.codeBlockText settings.formatters block) } := by
    rw [Render.allBlocks_single ⟨rfl, rfl, rfl, rfl⟩, Render.node]
    rfl
  obtain ⟨tail, fenced, -⟩ := Render.codeBlockText_fences settings.formatters block
  have shown : ¬ (Render.codeBlockText settings.formatters block ++
      ['\n']).all Text.isNewline = true := by
    rw [fenced]
    simp [Text.isNewline, Render.fenceChar_line block]
  rw [render_of_ok run, ← Writer.write_append, Writer.write_fresh (by simp), String.toList_ofList,
    if_neg shown]

namespace Render

theorem fenceLength_ge (formatters : FormatterMap) (block : CodeBlock) :
    3 ≤ fenceLength formatters block :=
  Nat.le_max_left _ _

theorem longestRun_lt_fenceLength (formatters : FormatterMap) (block : CodeBlock) :
    Text.longestRun (· == fenceChar block)
      (CodeFormatter.endLine (formattedCode formatters block)).toList <
        fenceLength formatters block := by
  unfold fenceLength
  omega

/-- A code block as the lines that a reader meets. -/
theorem read?_codeBlockText (formatters : FormatterMap) {block : CodeBlock}
    (line : '\n' ∉ (infoText block).toList) {lines : List (List Char)}
    (code : (CodeFormatter.endLine (formattedCode formatters block)).toList = Text.page lines [])
    (inside : ∀ l ∈ lines, '\n' ∉ l) :
    FencedCode.read? (codeBlockText formatters block) =
      FencedCode.readFrom? (fenceChar block)
        (List.replicate (fenceLength formatters block) (fenceChar block) ++
          (infoText block).toList)
        (lines ++ [List.replicate (fenceLength formatters block) (fenceChar block)]) := by
  have page : codeBlockText formatters block =
      Text.page ((List.replicate (fenceLength formatters block) (fenceChar block) ++
        (infoText block).toList) :: lines)
        (List.replicate (fenceLength formatters block) (fenceChar block)) := by
    rw [codeBlockText_eq, code]
    simp [Text.page]
  have fence (n : Nat) : '\n' ∉ List.replicate n (fenceChar block) :=
    fun m => fenceChar_line block (List.eq_of_mem_replicate m).symm
  obtain ⟨n, long⟩ : ∃ n, fenceLength formatters block = n + 1 :=
    ⟨_, (Nat.succ_pred_eq_of_pos (Nat.lt_of_lt_of_le (by decide) (fenceLength_ge _ _))).symm⟩
  rw [page, long, List.replicate_succ, List.cons_append]
  apply FencedCode.read?_page
  · intro l m
    obtain rfl | m := List.mem_cons.mp m
    · rw [← List.cons_append, ← List.replicate_succ, List.mem_append]
      rintro (m | m)
      · exact fence _ m
      · exact line m
    · exact inside l m
  · rw [← List.replicate_succ]
    exact fence _

end Render

/-- **Fenced code reads back as itself.** A block of code is printed between two fences; a reader
finds the opening one, of three characters or more, behind it the info string, and behind the lines
of the code the closing one, which is the last line. The one exception is an info string that begins
with the character of the fence, as there is nothing between the two: the reader then takes a longer
fence for the opening one. -/
theorem RendererSettings.render_fence_reads_back (settings : RendererSettings) (block : CodeBlock)
    (line : '\n' ∉ (block.info.getD "").toList) :
    ∃ out lines, (settings.render (.document [.codeBlock block])).1 =
        .ok (String.ofList (out ++ ['\n'])) ∧
      Text.page lines [] =
        (CodeFormatter.endLine (Render.formattedCode settings.formatters block)).toList ∧
      3 ≤ Render.fenceLength settings.formatters block ∧
      (FencedCode.read? out = some
          { mark := Render.fenceChar block
            length := Render.fenceLength settings.formatters block
            info := (Render.infoText block).toList, lines, after := [] } ↔
        (Render.infoText block).toList.head? ≠ some (Render.fenceChar block)) := by
  obtain ⟨lines, code, inside⟩ := Text.exists_lines fun c =>
    Render.endLine_last (Render.formattedCode settings.formatters block)
  refine ⟨_, lines, render_codeBlock settings block, code.symm,
    Render.fenceLength_ge settings.formatters block, ?_⟩
  rw [Render.read?_codeBlockText _ (Render.infoText_line line) code inside]
  constructor
  · intro read goesOn
    have longer := FencedCode.length_of_readFrom? goesOn read
    dsimp only at longer
    omega
  · intro stops
    have short : ∀ l ∈ lines, FencedCode.closes (Render.fenceChar block)
        (Render.fenceLength settings.formatters block) l = false := by
      intro l m
      apply FencedCode.closes_of_short (Text.mem_page_infix m)
      rw [← code]
      exact Render.longestRun_lt_fenceLength settings.formatters block
    have read := FencedCode.readFrom?_eq (Render.fenceChar_ne_space block)
      (Render.fenceChar_opens (Render.fenceLength_ge settings.formatters block) block) stops short
    rwa [Render.infoText_trim] at read

/-- Backticks in the info string turn the fence into one of tildes, longer than the run in the
code. -/
theorem RendererSettings.render_fence_reads_back_ticked :
    ∃ out lines, (RendererSettings.render {} (.document [.codeBlock
          { content := "~~~~\nx", info := some " go \x60a\x60 " }])).1 =
        .ok (String.ofList (out ++ ['\n'])) ∧
      Text.page lines [] = "~~~~\nx\n".toList ∧
      FencedCode.read? out = some ⟨'~', 5, "go \x60a\x60".toList, lines, []⟩ := by
  obtain ⟨out, lines, printed, code, -, read⟩ := render_fence_reads_back {}
    { content := "~~~~\nx", info := some " go \x60a\x60 " } (by decide)
  exact ⟨out, lines, printed, code, read.mpr (by decide)⟩

/-- An info string that begins with the character of the fence leaves no block of code to read. -/
theorem RendererSettings.render_fence_swallows_info :
    (RendererSettings.render {} (.document [.codeBlock
        { content := "a\n", info := some "~x", fence := .tilde }])).1 = .ok "~~~~x\na\n~~~\n" ∧
      FencedCode.read? "~~~~x\na\n~~~".toList = none := by
  constructor
  · rfl
  · decide

end MarkdownCanon
