import MarkdownCanon.Proofs.FencedCode
import MarkdownCanon.Proofs.HeadingIdentifiers

/-! Headings as a reader takes them apart. A heading of plain text is read back with its level; its
text and its identifier come back if the text does not end in what a reader takes off, and if the
identifier has nothing to unescape. -/

namespace MarkdownCanon

namespace Text

theorem trimEnd_eq_self {p : Char → Bool} {cs : List Char}
    (h : ∀ c, cs.getLast? = some c → p c = false) : trimEnd p cs = cs := by
  cases cs using List.reverseRecOn with
  | nil => rfl
  | append_singleton cs c => simp [trimEnd, h c (by simp)]

theorem trimEnd_append_all {p : Char → Bool} {cs cut : List Char} (h : ∀ c ∈ cut, p c = true) :
    trimEnd p (cs ++ cut) = trimEnd p cs := by
  unfold trimEnd
  rw [List.reverse_append, List.dropWhile_append_of_pos (by simpa using h)]

theorem getLast?_of_dropWhile {p : Char → Bool} {cs : List Char} {c : Char}
    (h : (cs.dropWhile p).getLast? = some c) : cs.getLast? = some c := by
  obtain ⟨front, whole⟩ := List.dropWhile_suffix p (l := cs)
  have shown : cs.dropWhile p ≠ [] := by
    intro none_
    rw [none_] at h
    cases h
  rw [← whole, List.getLast?_append_of_ne_nil _ shown, h]

theorem trim_of_getLast? {cs : List Char} (h : cs.getLast? ≠ some ' ') :
    trim isSpace cs = cs.dropWhile isSpace :=
  trimEnd_of_getLast? fun space => h (getLast?_of_dropWhile space)

theorem trim_getLast? (p : Char → Bool) {cs : List Char} {c : Char}
    (h : (trim p cs).getLast? = some c) : p c = false :=
  trimEnd_last p (cs.dropWhile p) h

theorem trim_head? (p : Char → Bool) (cs : List Char) {c : Char}
    (h : (trim p cs).head? = some c) : p c = false := by
  obtain ⟨cut, whole, -⟩ := trimEnd_eq_append p (cs.dropWhile p)
  have first := List.head?_dropWhile_not p cs
  rw [whole, List.head?_append, ← trim, h] at first
  simpa using first

/-- A text is what trimming leaves of it, between spaces. -/
theorem trim_parts (p : Char → Bool) (cs : List Char) :
    ∃ lead cut, cs = lead ++ (trim p cs ++ cut) ∧ (∀ c ∈ lead, p c = true) ∧
      ∀ c ∈ cut, p c = true := by
  obtain ⟨cut, whole, spaces⟩ := trimEnd_eq_append p (cs.dropWhile p)
  refine ⟨cs.takeWhile p, cut, ?_, fun c m => List.mem_takeWhile_imp m, spaces⟩
  rw [trim, ← whole, List.takeWhile_append_dropWhile]

theorem dropWhile_append_left {p : Char → Bool} {a b : List Char}
    (h : ∀ c, b.head? = some c → p c = false) :
    (a ++ b).dropWhile p = a.dropWhile p ++ b := by
  rw [List.dropWhile_append]
  split
  · rename_i empty
    rw [List.isEmpty_iff.mp empty]
    cases b with
    | nil => rfl
    | cons c b => simp [h c rfl]
  · rfl

end Text

namespace Markup

theorem isSpace_of_isPunctuation {c : Char} (h : isPunctuation c = true) :
    Text.isSpace c = false := by
  cases space : Text.isSpace c with
  | false => rfl
  | true =>
    obtain rfl : c = ' ' := by simpa [Text.isSpace] using space
    cases h

namespace Escaped

variable {out text : List Char}

theorem dropWhile (h : Escaped out text) :
    Escaped (out.dropWhile Text.isSpace) (text.dropWhile Text.isSpace) := by
  induction h with
  | nil => exact .nil
  | @plain c out text other rest ih =>
    rw [List.dropWhile_cons, List.dropWhile_cons]
    by_cases space : Text.isSpace c = true
    · rw [if_pos space, if_pos space]
      exact ih
    · rw [if_neg space, if_neg space]
      exact .plain other rest
  | guarded punctuation rest ih =>
    have shown := isSpace_of_isPunctuation punctuation
    rw [List.dropWhile_cons, if_neg (by decide), List.dropWhile_cons, if_neg (by simp [shown])]
    exact .guarded punctuation rest

theorem trimEnd (h : Escaped out text) :
    Escaped (Text.trimEnd Text.isSpace out) (Text.trimEnd Text.isSpace text) := by
  induction h with
  | nil => exact .nil
  | @plain c out text other rest ih =>
    rw [← List.singleton_append, Text.trimEnd_append, ← List.singleton_append (l := text),
      Text.trimEnd_append]
    by_cases blank : Text.trimEnd Text.isSpace text = []
    · rw [blank, ih.eq_nil.mpr blank, Text.inMargin_nil]
      by_cases space : Text.isSpace c = true
      · rw [Text.trimEnd_spaces (by simpa using space)]
        exact .nil
      · rw [Text.trimEnd_eq_self (by simpa using space)]
        exact .plain other .nil
    · have shown := fun none_ => blank (ih.eq_nil.mp none_)
      rw [Text.inMargin_of_ne_nil blank, Text.inMargin_of_ne_nil shown]
      exact .plain other ih
  | @guarded c out text punctuation rest ih =>
    have solid := isSpace_of_isPunctuation punctuation
    have front : '\\' :: c :: out = ['\\', c] ++ out := rfl
    rw [front, Text.trimEnd_append, ← List.singleton_append (l := text), Text.trimEnd_append]
    by_cases blank : Text.trimEnd Text.isSpace text = []
    · rw [blank, ih.eq_nil.mpr blank, Text.inMargin_nil, Text.inMargin_nil,
        Text.trimEnd_eq_self (by simpa using solid), Text.trimEnd_eq_self (by simpa using solid)]
      exact .guarded punctuation .nil
    · have shown := fun none_ => blank (ih.eq_nil.mp none_)
      rw [Text.inMargin_of_ne_nil blank, Text.inMargin_of_ne_nil shown]
      exact .guarded punctuation ih

theorem trim (h : Escaped out text) :
    Escaped (Text.trim Text.isSpace out) (Text.trim Text.isSpace text) :=
  h.dropWhile.trimEnd

theorem of_plain (h : ∀ c ∈ text, c ≠ '\\') : Escaped text text := by
  induction text with
  | nil => exact .nil
  | cons c text ih =>
    exact .plain (h c List.mem_cons_self) (ih fun c m => h c (List.mem_cons_of_mem _ m))

theorem unescape_append (h : Escaped out text) (rest : List Char) :
    unescape (out ++ rest) = text ++ unescape rest := by
  induction h with
  | nil => rfl
  | plain other _ ih =>
    rw [List.cons_append, unescape, ih]
    · rfl
    · rintro c rest rfl
      exact absurd rfl other
  | guarded punctuation _ ih =>
    rw [List.cons_append, List.cons_append, unescape, if_pos punctuation, ih]
    rfl

end Escaped

theorem unescape_sublist (text : List Char) : (unescape text).Sublist text := by
  fun_induction unescape text with
  | case1 => exact .slnil
  | case2 c rest punctuation ih => exact (ih.cons_cons c).cons _
  | case3 c rest plain ih => exact (ih.cons_cons c).cons_cons _
  | case4 c rest other ih => exact ih.cons_cons c

theorem unescape_getLast? (text : List Char) : (unescape text).getLast? = text.getLast? := by
  fun_induction unescape text with
  | case1 => rfl
  | case2 c rest punctuation ih =>
    rw [List.getLast?_cons_cons, List.getLast?_cons, List.getLast?_cons, ih]
  | case3 c rest plain ih =>
    rw [List.getLast?_cons_cons, List.getLast?_cons_cons, List.getLast?_cons, List.getLast?_cons,
      ih]
  | case4 c rest other ih => rw [List.getLast?_cons, List.getLast?_cons, ih]

/-- What is escaped first does not change how the rest is. -/
theorem escapeFrom_append (place : Place) (seen tail first rest : List Char) :
    ∃ out, Escaped out first ∧ (escapeFrom place seen tail (first ++ rest)).1 =
      out ++ (escapeFrom place (first.reverse ++ seen) (first.foldl extendTail tail) rest).1 := by
  induction first generalizing seen tail with
  | nil => exact ⟨[], .nil, rfl⟩
  | cons c first ih =>
    obtain ⟨out, escaped, whole⟩ := ih (c :: seen) (extendTail tail c)
    rw [List.cons_append, escapeFrom, whole]
    have same : (c :: first).reverse ++ seen = first.reverse ++ c :: seen := by simp
    rw [same, List.foldl_cons, ← List.append_assoc]
    refine ⟨_, ?_, rfl⟩
    split
    · rename_i must
      exact .guarded (mustEscape_punctuation must) escaped
    · rename_i plain
      refine .plain ?_ escaped
      rintro rfl
      exact plain rfl

/-- The text of a heading without the number signs that may close it, which stand behind a space or
are all there is. -/
def dropClosing (text : List Char) : List Char :=
  let body := Text.trimEnd (· == '#') text
  if body.isEmpty || body.getLast? == some ' ' then body else text

/-- A line that is a heading, taken apart: its level and its text. -/
def readHeading (line : List Char) : Nat × List Char :=
  let marks := line.takeWhile (· == '#')
  let text := dropClosing (Text.trim Text.isSpace (line.drop marks.length))
  (marks.length, unescape (Text.trim Text.isSpace text))

theorem dropClosing_sublist (text : List Char) : (dropClosing text).Sublist text := by
  obtain ⟨run, whole, -⟩ := Text.trimEnd_eq_append (· == '#') text
  have body := List.sublist_append_left (Text.trimEnd (· == '#') text) run
  rw [← whole] at body
  rw [dropClosing]
  split
  · exact body
  · exact .refl text

/-- What is read stands in the line. -/
theorem readHeading_sublist (line : List Char) : (readHeading line).2.Sublist line := by
  have text := Text.trim_sublist Text.isSpace
  exact (unescape_sublist _).trans ((text _).trans ((dropClosing_sublist _).trans
    ((text _).trans (List.drop_sublist _ line))))

/-- Text that does not end in a number sign has no closing run. -/
theorem dropClosing_eq_self {text : List Char} (shown : text ≠ [])
    (body : (Text.trimEnd (· == '#') text) = text) (last : text.getLast? ≠ some ' ') :
    dropClosing text = text := by
  rw [dropClosing, body, if_neg (by simp [shown, last])]

/-- A text up to the number signs that it ends in. -/
theorem hashes_parts (text : List Char) : ∃ body run, text = body ++ run ∧ (∀ c ∈ run, c = '#') ∧
    body.getLast? ≠ some '#' := by
  obtain ⟨run, whole, hashes⟩ := Text.trimEnd_eq_append (· == '#') text
  refine ⟨_, run, whole, fun c m => by simpa using hashes c m, fun hash => ?_⟩
  simpa using Text.trimEnd_last (· == '#') text hash

/-- A closing run is told from what stands before it. -/
theorem dropClosing_append {body run : List Char} (hashes : ∀ c ∈ run, c = '#')
    (last : body.getLast? ≠ some '#') :
    dropClosing (body ++ run) =
      if body.isEmpty || body.getLast? == some ' ' then body else body ++ run := by
  have cut : Text.trimEnd (· == '#') (body ++ run) = body := by
    rw [Text.trimEnd_append_all (by simpa using hashes), Text.trimEnd_eq_self]
    rintro c ends
    rw [ends] at last
    simpa using last
  rw [dropClosing, cut]

theorem escapeFrom_spaces (place : Place) {cut : List Char}
    (spaces : ∀ c ∈ cut, Text.isSpace c = true) (seen tail : List Char) :
    (escapeFrom place seen tail cut).1 = cut := by
  induction cut generalizing seen tail with
  | nil => rfl
  | cons c cut ih =>
    obtain rfl : c = ' ' := by simpa [Text.isSpace] using spaces c List.mem_cons_self
    have plain : mustEscape place seen tail ' ' cut = false := rfl
    rw [escapeFrom, plain, ih fun c m => spaces c (List.mem_cons_of_mem _ m)]
    rfl

/-- Number signs within a line are not escaped. -/
theorem escapeFrom_hashes {place : Place} (within : place.atLineStart = false)
    {run cut : List Char} (hashes : ∀ c ∈ run, c = '#') (spaces : ∀ c ∈ cut, Text.isSpace c = true)
    (shown : cut ≠ []) (seen tail : List Char) :
    (escapeFrom place seen tail (run ++ cut)).1 = run ++ cut := by
  induction run generalizing seen tail with
  | nil =>
    exact escapeFrom_spaces place spaces seen tail
  | cons c run ih =>
    obtain rfl : c = '#' := hashes c List.mem_cons_self
    have plain : mustEscape place seen tail '#' (run ++ cut) = false := by
      rw [mustEscape, if_neg (by decide), if_neg (by decide), if_pos (by decide)]
      simp [within, shown]
    rw [List.cons_append, escapeFrom, plain]
    rw [ih fun c m => hashes c (List.mem_cons_of_mem _ m)]
    rfl

section Body

variable {text : List Char}

/-- A number sign that text ends in is escaped. -/
theorem escape_closed (place : Place) (tail first : List Char) :
    ∃ out, Escaped out first ∧ (escape place tail (first ++ ['#'])).1 = out ++ ['\\', '#'] := by
  rw [escape_text]
  split
  · rename_i alone
    obtain ⟨c, whole, -⟩ := isLone_iff.mp alone
    obtain rfl : first = [] := by simpa using congrArg List.length whole
    exact ⟨[], .nil, rfl⟩
  · obtain ⟨out, escaped, whole⟩ := escapeFrom_append place [] tail.reverse first ['#']
    have must (seen plain : List Char) : mustEscape place seen plain '#' [] = true := by
      rw [mustEscape, if_neg (by decide), if_neg (by decide), if_pos (by decide)]
      simp
    refine ⟨out, escaped, whole.trans ?_⟩
    rw [escapeFrom, must]
    rfl

/-- Number signs that something follows are not. -/
theorem escape_spaced (first : List Char) {run cut : List Char} (hashes : ∀ c ∈ run, c = '#')
    (spaces : ∀ c ∈ cut, Text.isSpace c = true) (shown : cut ≠ []) (some_ : run ≠ []) :
    ∃ out, Escaped out first ∧ (escape {} [] (first ++ (run ++ cut))).1 = out ++ (run ++ cut) := by
  have long : isLone (first ++ (run ++ cut)) = false := by
    rw [← Bool.not_eq_true]
    intro alone
    obtain ⟨c, whole, -⟩ := isLone_iff.mp alone
    have one := congrArg List.length whole
    have more := List.length_pos_iff.mpr shown
    have more' := List.length_pos_iff.mpr some_
    simp only [List.length_append, List.length_singleton] at one
    omega
  rw [escape_text, long]
  obtain ⟨out, escaped, whole⟩ := escapeFrom_append {} [] [] first (run ++ cut)
  refine ⟨out, escaped, whole.trans ?_⟩
  rw [escapeFrom_hashes rfl hashes spaces shown]

/-- Number signs at the end of a text that a space follows stay there as they are. -/
theorem trim_escape_spaced {body run : List Char} (spaced : text.getLast? = some ' ')
    (trimmed : Text.trim Text.isSpace text = body ++ run) (hashes : ∀ c ∈ run, c = '#') :
    ∃ out, Escaped out body ∧ Text.trim Text.isSpace (escape {} [] text).1 = out ++ run := by
  by_cases none_ : run = []
  · subst none_
    rw [List.append_nil] at trimmed
    exact ⟨_, trimmed ▸ (escape_escaped {} [] text).trim, (List.append_nil _).symm⟩
  · obtain ⟨lead, cut, whole, leading, spaces⟩ := Text.trim_parts Text.isSpace text
    have ends (last : List Char) : (last ++ run).getLast? = some '#' := by
      rw [List.getLast?_append_of_ne_nil _ none_, List.getLast?_eq_some_getLast none_,
        hashes _ (List.getLast_mem none_)]
    have shown : cut ≠ [] := by
      rintro rfl
      rw [whole, List.append_nil, trimmed, ← List.append_assoc, ends] at spaced
      cases spaced
    rw [trimmed, List.append_assoc, ← List.append_assoc] at whole
    obtain ⟨out, escaped, printed⟩ := escape_spaced (lead ++ body) hashes spaces shown none_
    refine ⟨out.dropWhile Text.isSpace, ?_, ?_⟩
    · have front : (lead ++ body).dropWhile Text.isSpace = body := by
        rw [List.dropWhile_append_of_pos leading]
        cases body with
        | nil => rfl
        | cons c body =>
          have first := Text.trim_head? Text.isSpace text (by rw [trimmed]; rfl)
          simp [first]
      exact front ▸ escaped.dropWhile
    · rw [whole, printed, Text.trim, Text.dropWhile_append_left, ← List.append_assoc,
        Text.trimEnd_append_all spaces, Text.trimEnd_of_getLast? (by simp [ends])]
      intro c first
      obtain ⟨d, rest, rfl⟩ := List.exists_cons_of_ne_nil none_
      obtain rfl : d = c := by simpa using first
      rw [hashes d List.mem_cons_self]
      rfl

/-- Text that a space follows closes a heading if it does so as it stands: the number signs at its
end are not the last of the text. -/
theorem dropClosing_spaced (spaced : text.getLast? = some ' ') :
    Escaped (dropClosing (Text.trim Text.isSpace (escape {} [] text).1))
      (dropClosing (Text.trim Text.isSpace text)) := by
  obtain ⟨body, run, trimmed, hashes, last⟩ := hashes_parts (Text.trim Text.isSpace text)
  obtain ⟨out, escaped, printed⟩ := trim_escape_spaced spaced trimmed hashes
  have last' : out.getLast? ≠ some '#' := by rwa [escaped.getLast?]
  have empty : out.isEmpty = body.isEmpty := by
    rw [Bool.eq_iff_iff, List.isEmpty_iff, List.isEmpty_iff, escaped.eq_nil]
  have plain : Escaped run run := .of_plain fun c m => by rw [hashes c m]; decide
  rw [printed, trimmed, dropClosing_append hashes last', dropClosing_append hashes last, empty,
    escaped.getLast?]
  split
  · exact escaped
  · exact escaped.append plain

/-- Text that ends in a number sign does not close a heading, as this last one is escaped. -/
theorem dropClosing_unspaced (shown : Text.trim Text.isSpace text ≠ [])
    (unspaced : text.getLast? ≠ some ' ') :
    dropClosing (Text.trim Text.isSpace (escape {} [] text).1) =
      Text.trim Text.isSpace (escape {} [] text).1 := by
  have escaped := escape_escaped {} [] text
  have ends : (escape {} [] text).1.getLast? ≠ some ' ' := by
    rw [escaped.getLast?]
    exact unspaced
  by_cases hash : text.getLast? = some '#'
  · obtain ⟨first, rfl⟩ := List.getLast?_eq_some_iff.mp hash
    obtain ⟨out, -, closed⟩ := escape_closed {} [] first
    have body : Text.trim Text.isSpace (escape {} [] (first ++ ['#'])).1 =
        (out.dropWhile Text.isSpace ++ ['\\']) ++ ['#'] := by
      rw [Text.trim_of_getLast? ends, closed, Text.dropWhile_append_left (by simp [Text.isSpace])]
      simp
    rw [body, dropClosing_append (by simp) (by simp), if_neg (by simp)]
  · refine dropClosing_eq_self (fun none_ => shown (escaped.trim.eq_nil.mp none_)) ?_ ?_
    · refine Text.trimEnd_eq_self fun c last => ?_
      rw [Text.trim_of_getLast? ends] at last
      have same := Text.getLast?_of_dropWhile last
      rw [escaped.getLast?] at same
      rw [same] at hash
      simpa using hash
    · intro space
      simpa [Text.isSpace] using Text.trim_getLast? Text.isSpace space

/-- What is read of a text that a heading is printed with: all of it, or what stands before a
closing run. -/
theorem unescape_dropClosing (shown : Text.trim Text.isSpace text ≠ []) :
    unescape (Text.trim Text.isSpace (dropClosing (Text.trim Text.isSpace (escape {} [] text).1))) =
      Text.trim Text.isSpace (if text.getLast? = some ' ' then
        dropClosing (Text.trim Text.isSpace text) else Text.trim Text.isSpace text) := by
  split
  · rename_i spaced
    exact (dropClosing_spaced spaced).trim.unescape_eq
  · rename_i unspaced
    rw [dropClosing_unspaced shown unspaced]
    exact (escape_escaped {} [] text).trim.trim.unescape_eq

/-- A closing run is lost. -/
theorem trim_dropClosing (text : List Char) :
    Text.trim Text.isSpace (dropClosing text) = text → dropClosing text = text := by
  intro whole
  obtain ⟨body, run, rfl, hashes, last⟩ := hashes_parts text
  rw [dropClosing_append hashes last] at whole ⊢
  split at whole
  · have short := (Text.trim_sublist Text.isSpace body).length_le
    have long := congrArg List.length whole
    rw [List.length_append] at long
    obtain rfl : run = [] := List.length_eq_zero_iff.mp (by omega)
    simp
  · rename_i kept
    rw [if_neg kept]

theorem readHeading_line (level : Nat) (text : List Char) :
    readHeading (List.replicate level '#' ++ ' ' :: text) =
      (level, unescape (Text.trim Text.isSpace (dropClosing (Text.trim Text.isSpace text)))) := by
  have marks : (List.replicate level '#' ++ ' ' :: text).takeWhile (· == '#') =
      List.replicate level '#' := by
    refine Text.takeWhile_run (fun c m => ?_) (by simp)
    simpa using (List.mem_replicate.mp m).2
  have rest : (List.replicate level '#' ++ ' ' :: text).drop (List.replicate level '#').length =
      ' ' :: text := List.drop_left
  have spaced : Text.trim Text.isSpace (' ' :: text) = Text.trim Text.isSpace text := rfl
  rw [readHeading, marks, rest, spaced, List.length_replicate]

/-- An identifier stands behind the text of a heading as it was printed, less its backslashes. -/
theorem readHeading_named (level : Nat) {out name : List Char} (escaped : Escaped out text)
    (shown : out ≠ []) (first : ∀ c, out.head? = some c → Text.isSpace c = false) :
    readHeading (List.replicate level '#' ++ ' ' :: (out ++ ' ' :: '{' :: '#' :: (name ++ ['}']))) =
      (level, text ++ ' ' :: '{' :: '#' :: unescape (name ++ ['}'])) := by
  obtain ⟨line, whole⟩ : ∃ line, out ++ ' ' :: '{' :: '#' :: (name ++ ['}']) = line ++ ['}'] :=
    ⟨out ++ ' ' :: '{' :: '#' :: name, by simp⟩
  have starts : ∀ c, (line ++ ['}']).head? = some c → Text.isSpace c = false := by
    intro c h
    rw [← whole, List.head?_append_of_ne_nil _ shown] at h
    exact first c h
  have trimmed : Text.trim Text.isSpace (line ++ ['}']) = line ++ ['}'] := by
    rw [Text.trim_of_getLast? (by simp)]
    exact Text.dropWhile_append_left (a := []) starts
  have open_ : dropClosing (line ++ ['}']) = line ++ ['}'] :=
    dropClosing_eq_self (by simp) (Text.trimEnd_eq_self (by simp)) (by simp)
  rw [readHeading_line, whole, trimmed, open_, trimmed, ← whole, escaped.unescape_append]
  rfl

end Body

end Markup

namespace Token

/-- The token of a heading of plain text, from its level and its text. -/
def ofHeading (heading : Nat × List Char) : Token :=
  .mk { tag := some (.text "heading"), attributes := some { level := some heading.1 } }
    [.ofText (String.ofList heading.2)]

theorem textNodes_line {text : List Char} (line : '\n' ∉ text) :
    textNodes (String.ofList text) = lineNodes text := by
  have cut : Text.segments text = [text] := by
    have whole : Text.joinSegments [text] = text := List.intercalate_singleton
    rw [← whole, Text.segments_joinSegments (by simpa using line) (by simp), whole]
  rw [textNodes, String.toList_ofList, softLines, cut]
  exact List.append_nil _

theorem readInlines_text (data : TokenData) (there : data.hasChildren = true) (text : String) :
    readInlines data [.ofText text] = pure (textNodes text) := by
  have joins : joinFault? [.ofText text] = none := rfl
  have tag : hasTag { tag := some (.text "text"), raw := some text } "text" = true := by
    dsimp only [hasTag]
    decide
  unfold readInlines requireInlines requireChildren
  rw [if_pos there, joins, ofText, readInlinesFrom, if_pos tag]
  simp only [require, pure_bind, readInlinesFrom, String.empty_append]

theorem readBlock_heading (level : HeadingLevel) {text : List Char} (line : '\n' ∉ text) :
    readBlock false (.ofHeading (level.val, text)) {} =
      .ok (some (.heading level (takeIdentifier (lineNodes text)).1
        (takeIdentifier (lineNodes text)).2)) {} := by
  rw [← textNodes_line line]
  have built : HeadingLevel.build (some (level.val : Int)) = .ok level := by
    simp [HeadingLevel.build, level.property]
  have tag : hasTag
      { tag := some (.text "heading"), attributes := some { level := some level.val } }
      "heading" = true := by
    dsimp only [hasTag]
    decide
  rw [ofHeading, readBlock, if_pos tag, readInlines_text _ rfl]
  simp only [requireAttributes, require, build, built, pure_bind]
  rfl

/-- The line of a heading as a reader and the tokens make a node of it. -/
theorem readBlock_heading_iff {level : HeadingLevel} {line : List Char}
    (read : (Markup.readHeading line).1 = level.val) (open_ : '\n' ∉ line) (content : List Node)
    (identifier : Option String) :
    readBlock false (.ofHeading (Markup.readHeading line)) {} =
        .ok (some (.heading level content identifier)) {} ↔
      takeIdentifier (lineNodes (Markup.readHeading line).2) = (content, identifier) := by
  have parts : Markup.readHeading line = (level.val, (Markup.readHeading line).2) := by
    rw [← read]
  have inside : '\n' ∉ (Markup.readHeading line).2 :=
    fun m => open_ ((Markup.readHeading_sublist line).subset m)
  have made := readBlock_heading level inside
  rw [← parts] at made
  rw [made, Prod.ext_iff]
  simp

end Token

namespace Render

variable {settings : RendererSettings}

/-- Plain text in a heading that is not underlined is escaped as it is within a line. -/
theorem spacedText_fresh (content : String) :
    spacedText content {} = Text.collapse content.toList := by
  unfold spacedText
  split
  · rename_i rest cleaned
    rw [cleaned]
    rfl
  · rfl

theorem scratch_heading (start : Bool) {content : String}
    (shown : Text.collapse content.toList ≠ []) :
    ∃ t, scratch { atLineStart := start, inHeading := some true } (inlines settings [.text content])
        {} = .ok (Markup.escape ⟨start, false⟩ [] (Text.collapse content.toList)).1 t ∧
      t.writer = {} := by
  have escaped := Markup.escape_escaped ⟨start, false⟩ [] (Text.collapse content.toList)
  have literal : literalText ⟨start, false⟩ [] (Text.collapse content.toList) none =
      (Markup.escape ⟨start, false⟩ [] (Text.collapse content.toList)).1 := by
    rw [literalText, guardBang, if_neg (by simp)]
  have run : inlines settings [.text content]
      (RenderState.enter {} { atLineStart := start, inHeading := some true }) = .ok ()
        { inHeading := true
          normalTail := (Markup.escape ⟨start, false⟩ [] (Text.collapse content.toList)).2
          writer := ({} : Writer).write
            (Markup.escape ⟨start, false⟩ [] (Text.collapse content.toList)).1 } := by
    have ran := text_run content
      (RenderState.enter {} { atLineStart := start, inHeading := some true })
    rw [show (RenderState.enter {} { atLineStart := start, inHeading := some true }).writer = {}
      from rfl, spacedText_fresh, if_neg (by simpa using shown)] at ran
    dsimp only at ran
    rw [inlines, modify_bind, node, inlines]
    refine (bind_of_ok ran _).trans ?_
    rw [← literal]
    rfl
  refine ⟨_, scratch_eq_ok.mpr ⟨_, run, ?_, rfl⟩, rfl⟩
  rw [Writer.write_fresh fun none_ => shown (escaped.eq_nil.mp none_), String.toList_ofList]

theorem headingText_atx (atx : settings.headingStyle = .atx) (level : HeadingLevel)
    (identifier : Option String) {text : List Char} (shown : text ≠ []) :
    headingText settings level identifier text = List.replicate level.val '#' ++
      ' ' :: (text ++ if (identifierSuffix identifier).isEmpty then []
        else ' ' :: identifierSuffix identifier) := by
  have none_ : underline? settings level = none := by
    rw [underline?, atx]
    rfl
  rw [headingText, none_]
  simp [shown]

theorem identifierSuffix_some {name : String} (some_ : name ≠ "") :
    identifierSuffix (some name) = '{' :: '#' :: (name.toList ++ ['}']) := by
  have shown : name.toList ≠ [] := by simpa using some_
  simp [identifierSuffix, shown]

theorem headingText_line (atx : settings.headingStyle = .atx) (level : HeadingLevel)
    {identifier : Option String} {text : List Char} (shown : text ≠ []) (line : '\n' ∉ text)
    (named : '\n' ∉ (identifier.getD "").toList) :
    '\n' ∉ headingText settings level identifier text := by
  have suffix : '\n' ∉ identifierSuffix identifier := by
    rw [identifierSuffix]
    split
    · exact List.not_mem_nil
    · simpa using named
  rw [headingText_atx atx level identifier shown]
  split <;> simp [line, suffix]

/-- The text that a heading is meant to have. -/
def cleanText (content : String) : List Char :=
  Text.trim Text.isSpace (Text.collapse content.toList)

/-- The text of a heading as it is printed in its place; `start` tells that it begins its line. -/
def placedText (start : Bool) (content : String) : List Char :=
  Text.trim Text.isSpace (Markup.escape ⟨start, false⟩ [] (Text.collapse content.toList)).1

theorem placedText_escaped (start : Bool) (content : String) :
    Markup.Escaped (placedText start content) (cleanText content) :=
  (Markup.escape_escaped ⟨start, false⟩ [] _).trim

theorem placedText_line (start : Bool) (content : String) : '\n' ∉ placedText start content := by
  intro m
  have m := (Text.trim_sublist Text.isSpace _).subset m
  exact (Markup.mem_escape m).elim (by decide) (Text.collapse_line content.toList)

/-- The text of a heading as it is printed behind its marks. -/
def printedText (content : String) : List Char :=
  Text.trim Text.isSpace (Markup.escape {} [] (Text.collapse content.toList)).1

theorem printedText_escaped (content : String) :
    Markup.Escaped (printedText content) (cleanText content) :=
  placedText_escaped false content

theorem printedText_line (content : String) : '\n' ∉ printedText content :=
  placedText_line false content

/-- What is read of a heading without an identifier: all of its text, or what stands before a
closing run. -/
theorem readHeading_plain (level : Nat) {content : String} (shown : cleanText content ≠ []) :
    Markup.readHeading (List.replicate level '#' ++ ' ' :: printedText content) =
      (level, Text.trim Text.isSpace (if (Text.collapse content.toList).getLast? = some ' ' then
        Markup.dropClosing (cleanText content) else cleanText content)) := by
  rw [Markup.readHeading_line, printedText, Text.trim_trim, Markup.unescape_dropClosing shown,
    cleanText]

theorem node_heading (level : HeadingLevel) {content : String} (shown : cleanText content ≠ [])
    (identifier : Option String) :
    ∃ t, node settings (.heading level [.text content] identifier) {} = .ok () t ∧
      t.writer = ({} : Writer).write (headingText settings level identifier
        (placedText (underline? settings level).isSome content)) := by
  have some_ : Text.collapse content.toList ≠ [] := by
    intro none_
    rw [cleanText, none_] at shown
    exact shown rfl
  obtain ⟨t, ran, fresh⟩ := @scratch_heading settings (underline? settings level).isSome _ some_
  rw [node, bind_of_ok ran]
  refine ⟨_, rfl, ?_⟩
  rw [← fresh]
  rfl

/-- A heading begins with a number sign, or with its text. -/
theorem headingText_visible (level : HeadingLevel) (identifier : Option String) {text : List Char}
    (shown : text ≠ []) (line : '\n' ∉ text) :
    ¬ (headingText settings level identifier text).all Text.isNewline = true := by
  obtain ⟨n, marks⟩ : ∃ n, level.val = n + 1 := ⟨level.val - 1, by have := level.property; omega⟩
  obtain ⟨c, rest, rfl⟩ := List.exists_cons_of_ne_nil shown
  have first : Text.isNewline c = false := by
    rw [Text.isNewline, beq_eq_false_iff_ne]
    rintro rfl
    exact line List.mem_cons_self
  unfold headingText
  cases underline? settings level with
  | none => simp [marks, List.replicate_succ, Text.isNewline]
  | some mark => simp [first]

end Render

namespace RendererSettings

variable {settings : RendererSettings}

theorem render_placed (level : HeadingLevel) {content : String}
    (shown : Render.cleanText content ≠ []) (identifier : Option String) :
    (settings.render (.document [.heading level [.text content] identifier])).1 = .ok (String.ofList
      (Render.headingText settings level identifier
        (Render.placedText (Render.underline? settings level).isSome content) ++ ['\n'])) := by
  obtain ⟨t, ran, printed⟩ := @Render.node_heading settings level content shown identifier
  have run : Render.allBlocks settings [.heading level [.text content] identifier] {} =
      .ok () t := by
    rw [← ran]
    simp [Render.allBlocks, Render.checkTexts, Render.blocks, Node.isTextlessHtml,
      Node.isBlankBlock]
  have visible := @Render.headingText_visible settings level identifier _
    (fun none_ => shown ((Render.placedText_escaped _ content).eq_nil.mp none_))
    (Render.placedText_line (Render.underline? settings level).isSome content)
  rw [render_of_ok run, printed, ← Writer.write_append, Writer.write_fresh (by simp),
    String.toList_ofList, if_neg]
  rw [List.all_append, Bool.and_eq_true]
  exact fun all => visible all.1

theorem render_heading (atx : settings.headingStyle = .atx) (level : HeadingLevel)
    {content : String} (shown : Render.cleanText content ≠ []) (identifier : Option String) :
    (settings.render (.document [.heading level [.text content] identifier])).1 = .ok (String.ofList
      (Render.headingText settings level identifier (Render.printedText content) ++ ['\n'])) := by
  have within : (Render.underline? settings level).isSome = false := by
    rw [Render.underline?, atx]
    rfl
  rw [render_placed level shown identifier, within]
  rfl

/-- What keeps a heading of plain text as it is. Without an identifier its text is not to look like
one that ends in an identifier or, before a space, in a closing run. Before an identifier it is not
to end in white space, and the identifier is to hold no escapes. -/
def KeepsHeading (content : String) : Option String → Prop
  | none => Token.splitIdentifier? (Render.cleanText content) = none ∧
    ((Text.collapse content.toList).getLast? = some ' ' →
      Markup.dropClosing (Render.cleanText content) = Render.cleanText content)
  | some name => Text.trimEnd Text.isBlank (Render.cleanText content) = Render.cleanText content ∧
    Markup.unescape (name.toList ++ ['}']) = name.toList ++ ['}']

section ReadBack

variable (level : Nat) {content : String} (shown : Render.cleanText content ≠ [])

include shown

theorem reads_plain_iff :
    Token.takeIdentifier (Token.lineNodes
        (Markup.readHeading (List.replicate level '#' ++ ' ' :: Render.printedText content)).2) =
        ([.text (String.ofList (Render.cleanText content))], none) ↔
      KeepsHeading content none := by
  have read := Render.readHeading_plain level shown
  rw [read, Token.takeIdentifier_plain shown, and_comm]
  refine and_congr Iff.rfl ?_
  dsimp only
  split
  · rename_i spaced
    constructor
    · exact fun same _ => Markup.trim_dropClosing _ same
    · intro kept
      rw [kept spaced, Render.cleanText, Text.trim_trim]
  · rename_i unspaced
    rw [Render.cleanText, Text.trim_trim]
    exact ⟨fun _ spaced => absurd spaced unspaced, fun _ => rfl⟩

theorem reads_named_iff {name : String} (some_ : name ≠ "")
    (clean : ∀ c ∈ name.toList, c ≠ '}' ∧ Text.isBlank c = false) :
    Token.takeIdentifier (Token.lineNodes (Markup.readHeading (List.replicate level '#' ++
        ' ' :: (Render.printedText content ++ ' ' :: Render.identifierSuffix (some name)))).2) =
        ([.text (String.ofList (Render.cleanText content))], some name) ↔
      KeepsHeading content (some name) := by
  have escaped := Render.printedText_escaped content
  have printed : Render.printedText content ≠ [] := fun none_ => shown (escaped.eq_nil.mp none_)
  have whole : String.ofList name.toList = name := String.ofList_toList
  have letters : ∀ c ∈ name.toList, Token.isNameChar c = true := by
    intro c m
    simpa [Token.isNameChar] using clean c m
  rw [Render.identifierSuffix_some some_,
    Markup.readHeading_named level escaped printed fun c => Text.trim_head? Text.isSpace _]
  conv_lhs => rw [← whole]
  have ends : (Markup.unescape (name.toList ++ ['}'])).getLast? = some '}' := by
    rw [Markup.unescape_getLast?]
    simp
  have short := (Markup.unescape_sublist (name.toList ++ ['}'])).length_le
  rw [List.length_append] at short
  rw [String.toList_ofList,
    Token.takeIdentifier_mark shown (by simpa using some_) letters ends short]
  rfl

end ReadBack

/-- A heading of plain text is printed on a line from which its level is read back, and its text and
its identifier just if these keep it. -/
theorem render_heading_reads_back (atx : settings.headingStyle = .atx) (level : HeadingLevel)
    {content : String} (shown : Render.cleanText content ≠ []) (identifier : Option String)
    (named : ∀ name, identifier = some name → name ≠ "" ∧
      ∀ c ∈ name.toList, c ≠ '}' ∧ Text.isBlank c = false) :
    ∃ line, (settings.render (.document [.heading level [.text content] identifier])).1 =
        .ok (String.ofList (line ++ ['\n'])) ∧
      '\n' ∉ line ∧ (Markup.readHeading line).1 = level.val ∧
      (Token.readBlock false (.ofHeading (Markup.readHeading line)) {} = .ok (some (.heading level
          [.text (String.ofList (Render.cleanText content))] identifier)) {} ↔
        KeepsHeading content identifier) := by
  have escaped := Render.printedText_escaped content
  have some_ : Render.printedText content ≠ [] := fun none_ => shown (escaped.eq_nil.mp none_)
  have line :
      '\n' ∉ Render.headingText settings level identifier (Render.printedText content) := by
    refine Render.headingText_line atx level some_ (Render.printedText_line content) fun m => ?_
    cases identifier with
    | none => cases m
    | some name => cases ((named name rfl).2 _ m).2
  have read : (Markup.readHeading (Render.headingText settings level identifier
      (Render.printedText content))).1 = level.val := by
    rw [Render.headingText_atx atx level identifier some_, Markup.readHeading_line]
  refine ⟨_, render_heading atx level shown identifier, line, read, ?_⟩
  rw [Token.readBlock_heading_iff read line, Render.headingText_atx atx level identifier some_]
  cases identifier with
  | none => simpa [Render.identifierSuffix] using reads_plain_iff level.val shown
  | some name =>
    obtain ⟨nonempty, clean⟩ := named name rfl
    rw [if_neg (by simp [Render.identifierSuffix_some nonempty])]
    exact reads_named_iff level.val shown nonempty clean

/-- Escapes keep a text that ends in a number sign apart from the identifier behind it. -/
theorem render_heading_reads_back_named :
    ∃ line, (RendererSettings.render {} (.document
        [.heading ⟨2, by decide⟩ [.text " \x7b#a\x7d  1. #"] (some "b-1")])).1 =
          .ok (String.ofList (line ++ ['\n'])) ∧
      Token.readBlock false (.ofHeading (Markup.readHeading line)) {} = .ok (some
        (.heading ⟨2, by decide⟩ [.text (String.ofList (Render.cleanText " \x7b#a\x7d  1. #"))]
          (some "b-1"))) {} := by
  have named : ∀ name, some "b-1" = some name → name ≠ "" ∧
      ∀ c ∈ name.toList, c ≠ '}' ∧ Text.isBlank c = false := by
    rintro name ⟨⟩
    have clean : "b-1".toList.all Token.isNameChar = true := by decide
    refine ⟨by decide, fun c m => ?_⟩
    simpa [Token.isNameChar] using List.all_eq_true.mp clean c m
  obtain ⟨line, printed, -, -, read⟩ := @render_heading_reads_back {} rfl ⟨2, by decide⟩
    " \x7b#a\x7d  1. #" (by decide) (some "b-1") named
  exact ⟨line, printed, read.mpr ⟨by decide, by decide⟩⟩

/-- The space behind a number sign keeps it from being escaped, and is trimmed off; the braces of a
text are escaped, but an identifier is looked for in what has lost its escapes. -/
theorem render_heading_reads_other :
    (RendererSettings.render {}
        (.document [.heading ⟨1, by decide⟩ [.text "foo # "] none])).1 = .ok "# foo #\n" ∧
      Token.readBlock false (.ofHeading (Markup.readHeading "# foo #".toList)) {} =
        .ok (some (.heading ⟨1, by decide⟩ [.text "foo"] none)) {} ∧
    (RendererSettings.render {}
        (.document [.heading ⟨1, by decide⟩ [.text "a \x7b#b\x7d"] none])).1 =
          .ok "# a \\\x7b#b\\\x7d\n" ∧
      Token.readBlock false (.ofHeading (Markup.readHeading "# a \\\x7b#b\\\x7d".toList)) {} =
        .ok (some (.heading ⟨1, by decide⟩ [.text "a"] (some "b"))) {} := by
  refine ⟨by decide +kernel, ?_, by decide +kernel, ?_⟩
  · refine (Token.readBlock_heading_iff (by decide) (by decide) _ _).mpr ?_
    have read : (Markup.readHeading "# foo #".toList).2 = "foo".toList := by decide
    rw [read]
    exact (Token.takeIdentifier_plain (by decide)).mpr ⟨rfl, by decide⟩
  · refine (Token.readBlock_heading_iff (by decide) (by decide) _ _).mpr ?_
    have read : (Markup.readHeading "# a \\\x7b#b\\\x7d".toList).2 = "a \x7b#b\x7d".toList := by
      decide
    rw [read]
    exact Token.takeIdentifier_split
      (@Token.splitIdentifier?_suffix ['b'] (by decide) (List.all_eq_true.mp (by decide)) ['a'])

end RendererSettings

end MarkdownCanon
