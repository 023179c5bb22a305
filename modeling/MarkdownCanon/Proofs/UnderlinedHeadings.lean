import MarkdownCanon.Proofs.HeadingReading

/-! Headings that are underlined. The line above the underline is not to open a block, and the
underline is not to be empty. Text that begins with spacing can break the first, as it is escaped for
a place within a line and then trimmed; text that takes no cells breaks the second. -/

namespace MarkdownCanon

namespace Text

/-- A text up to where its first run of members of `p` ends. -/
theorem run_parts (p : Char → Bool) (cs : List Char) : ∃ run rest, cs = run ++ rest ∧
    (∀ c ∈ run, p c = true) ∧ ∀ c, rest.head? = some c → p c = false := by
  refine ⟨cs.takeWhile p, cs.dropWhile p, List.takeWhile_append_dropWhile.symm,
    fun c m => List.mem_takeWhile_imp m, fun c first => ?_⟩
  have other := List.head?_dropWhile_not p cs
  rw [first] at other
  simpa using other

section Cells

variable {c d : Char} (first : cellWidth c ≠ 0) (second : cellWidth d ≠ 0) (rest : List Char)

include first second

theorem plainCells_pos (before : List Char) : 0 < plainCells (before ++ c :: d :: rest) := by
  induction before with
  | nil =>
    rw [List.nil_append, plainCells]
    omega
  | cons x before ih =>
    rw [List.cons_append, plainCells]
    omega

theorem joinedCells_pos (hidden : Bool) (measured : Option Char) (before : List Char) :
    0 < joinedCells hidden measured (before ++ c :: d :: rest) := by
  have shown {x : Char} (wide : cellWidth x ≠ 0) (measured : Option Char) (rest : List Char) :
      0 < joinedCells false measured (x :: rest) := by
    have noJoiner : (x == zeroWidthJoiner) = false := by
      rw [beq_eq_false_iff_ne]
      rintro rfl
      exact wide (by decide +kernel)
    have noSelector : (x == emojiSelector) = false := by
      rw [beq_eq_false_iff_ne]
      rintro rfl
      exact wide (by decide +kernel)
    simp [joinedCells, noJoiner, noSelector, wide]
    omega
  induction before generalizing hidden measured with
  | nil =>
    cases hidden with
    | false => exact shown first measured (d :: rest)
    | true =>
      -- a joiner hides one character only
      rw [List.nil_append, joinedCells, if_pos rfl]
      exact shown second measured rest
  | cons x before ih =>
    have selected := ih false none
    have counted := ih false (some x)
    rw [List.cons_append, joinedCells]
    split
    · exact ih false measured
    · split
      · exact ih true measured
      · split
        · omega
        · split
          · exact ih false measured
          · omega

/-- Of two characters in a row that take cells, one is seen. -/
theorem cells_pos (before : List Char) : 0 < cells (before ++ c :: d :: rest) := by
  unfold cells
  split
  · exact joinedCells_pos first second rest false none before
  · exact plainCells_pos first second rest before

end Cells

end Text

namespace Markup

theorem cellWidth_of_isPunctuation {c : Char} (h : isPunctuation c = true) :
    Text.cellWidth c ≠ 0 := by
  simp only [isPunctuation, Bool.and_eq_true, Bool.or_eq_true, decide_eq_true_eq] at h
  have ascii : c.toNat < 0x80 := by omega
  have shown : ¬ (c.toNat < 0x20 ∨ c.toNat = 0x7F) := by omega
  simp [Text.cellWidth, ascii, shown]

namespace Escaped

variable {out text : List Char}

/-- What has been escaped has a backslash to show for it. -/
theorem eq_or_guarded (h : Escaped out text) :
    out = text ∨ ∃ before c rest, isPunctuation c = true ∧ out = before ++ '\\' :: c :: rest := by
  induction h with
  | nil => exact .inl rfl
  | @plain c out text other rest ih =>
    obtain rfl | ⟨before, d, more, punctuation, rfl⟩ := ih
    · exact .inl rfl
    · exact .inr ⟨c :: before, d, more, punctuation, rfl⟩
  | @guarded c out text punctuation rest ih => exact .inr ⟨[], c, out, punctuation, rfl⟩

/-- What does not begin with a space does not do so when it is escaped. -/
theorem dropWhile_solid {c : Char} (h : Escaped out (c :: text))
    (solid : Text.isSpace c = false) : out.dropWhile Text.isSpace = out := by
  cases h with
  | plain _ _ => simp [solid]
  | guarded _ _ => rfl

/-- A backslash is no space. -/
theorem endsMarker_append (h : Escaped out text) (rest : List Char) :
    endsMarker (out ++ rest) = endsMarker (text ++ rest) := by
  cases h with
  | nil => rfl
  | plain other more => rfl
  | @guarded c out text punctuation more =>
    have solid := isSpace_of_isPunctuation punctuation
    have backslash : Text.isSpace '\\' = false := rfl
    simp [endsMarker, solid, backslash]

end Escaped

/-! Text behind a space, as a heading that begins with spacing has it. -/

/-- Behind a space nothing stands at the start of its line. -/
theorem escapeFrom_behind (inTable : Bool) {seen : List Char} (behind : ' ' ∈ seen)
    (tail text : List Char) :
    escapeFrom ⟨true, inTable⟩ seen tail text = escapeFrom ⟨false, inTable⟩ seen tail text := by
  induction text generalizing seen tail with
  | nil => rfl
  | cons c rest ih =>
    have begun : seen.isEmpty = false := by
      cases seen with
      | nil => cases behind
      | cons _ _ => rfl
    have number : isNumeral seen = false := by
      cases numeral : isNumeral seen with
      | false => rfl
      | true => cases (isNumeral_iff.mp numeral).2 ' ' behind
    have same : mustEscape ⟨true, inTable⟩ seen tail c rest =
        mustEscape ⟨false, inTable⟩ seen tail c rest := by
      simp [mustEscape, begun, number]
    rw [escapeFrom, escapeFrom, same, ih (List.mem_cons_of_mem _ behind)]

theorem escape_space (place : Place) {rest : List Char} (shown : rest ≠ []) :
    (escape place [] (' ' :: rest)).1 = ' ' :: (escapeFrom place [' '] [' '] rest).1 := by
  have long : isLone (' ' :: rest) = false := by
    rw [← Bool.not_eq_true]
    intro alone
    obtain ⟨c, whole, -⟩ := isLone_iff.mp alone
    exact shown (List.cons.inj whole).2
  rw [escape_text, long]
  rfl

/-- `run` is kept as it is before `rest`, behind a space. -/
def Keeps (run rest : List Char) : Prop :=
  ∃ out, Escaped out rest ∧ (escapeFrom {} [' '] [' '] (run ++ rest)).1 = run ++ out

/-- Characters that a place within a line is enough to keep. -/
def isPlain (c : Char) : Bool := !('_' :: '.' :: alwaysEscaped).contains c

theorem mustEscape_plain {c : Char} (plain : isPlain c = true) {rest : List Char}
    (goesOn : rest ≠ [] ∨ c ≠ '#') (seen tail : List Char) :
    mustEscape {} seen tail c rest = false := by
  simp only [isPlain, List.contains_cons, Bool.not_eq_true', Bool.or_eq_false_iff] at plain
  obtain ⟨noUnderscore, noDot, noMarkup⟩ := plain
  have hash : c = '#' → rest.isEmpty = false := by
    rintro rfl
    simpa using goesOn.resolve_right (by simp)
  unfold mustEscape
  rw [noMarkup, noUnderscore, noDot]
  repeat' split
  all_goals simp_all

theorem escapeFrom_plain {run rest : List Char} (plain : ∀ c ∈ run, isPlain c = true)
    (goesOn : rest ≠ [] ∨ '#' ∉ run) (seen tail : List Char) :
    (escapeFrom {} seen tail (run ++ rest)).1 =
      run ++ (escapeFrom {} (run.reverse ++ seen) (run.foldl extendTail tail) rest).1 := by
  induction run generalizing seen tail with
  | nil => rfl
  | cons c run ih =>
    have kept : mustEscape {} seen tail c (run ++ rest) = false := by
      apply mustEscape_plain (plain c List.mem_cons_self)
      obtain shown | noHash := goesOn
      · exact .inl (by simp [shown])
      · exact .inr fun hash => noHash (hash ▸ List.mem_cons_self)
    have later : rest ≠ [] ∨ '#' ∉ run :=
      goesOn.imp_right fun noHash m => noHash (List.mem_cons_of_mem _ m)
    rw [List.cons_append, escapeFrom, kept,
      ih (fun c m => plain c (List.mem_cons_of_mem _ m)) later]
    simp

theorem Keeps.of_plain {run rest : List Char} (plain : ∀ c ∈ run, isPlain c = true)
    (goesOn : rest ≠ [] ∨ '#' ∉ run) : Keeps run rest :=
  ⟨_, escapeFrom_escaped .., escapeFrom_plain plain goesOn [' '] [' ']⟩

theorem isPlain_of_isDigit {c : Char} (digit : c.isDigit = true) : isPlain c = true := by
  have table : ('_' :: '.' :: alwaysEscaped).all (!·.isDigit) = true := by decide
  cases plain : isPlain c with
  | true => rfl
  | false =>
    have m : c ∈ '_' :: '.' :: alwaysEscaped := by
      rw [isPlain, Bool.not_eq_false'] at plain
      exact List.contains_iff_mem.mp plain
    simpa [digit] using List.all_eq_true.mp table c m

/-- A number behind a space is not taken for the number of an item. -/
theorem Keeps.of_number {digits rest : List Char} (numeral : ∀ c ∈ digits, c.isDigit = true)
    {mark : Char} (marks : mark = '.' ∨ mark = ')') : Keeps (digits ++ [mark]) rest := by
  have plain : ∀ c ∈ digits, isPlain c = true := fun c m => isPlain_of_isDigit (numeral c m)
  have tail (start : List Char) (behind : ' ' ∈ start) : ' ' ∈ digits.foldl extendTail start := by
    clear plain
    induction digits generalizing start with
    | nil => exact behind
    | cons c digits ih =>
      rw [List.foldl_cons, extendTail_digit (numeral c List.mem_cons_self)]
      exact ih (fun c m => numeral c (List.mem_cons_of_mem _ m)) _ (List.mem_cons_of_mem _ behind)
  have space := tail [' '] (by simp)
  have kept (seen : List Char) :
      mustEscape {} seen (digits.foldl extendTail [' ']) mark rest = false := by
    obtain rfl | rfl := marks
    · rw [mustEscape_dot]
      cases number : isNumeral (digits.foldl extendTail [' ']) with
      | false => rfl
      | true => cases (isNumeral_iff.mp number).2 ' ' space
    · rfl
  have run := escapeFrom_plain plain (.inl (List.cons_ne_nil mark rest)) [' '] [' ']
  rw [escapeFrom, kept] at run
  refine ⟨(escapeFrom {} (mark :: (digits.reverse ++ [' ']))
    (extendTail (digits.foldl extendTail [' ']) mark) rest).1, escapeFrom_escaped .., ?_⟩
  rw [List.append_assoc, List.singleton_append, run, List.append_assoc]
  rfl

theorem opensBlock_quote (rest : List Char) : opensBlock ('>' :: rest) = true := by
  simp [opensBlock, unindented, Text.isSpace, isQuoteOrTag, isAngle]

theorem opensBlock_hash (rest : List Char) :
    opensBlock ('#' :: rest) = isHeadingMarker ('#' :: rest) := by
  have body : unindented ('#' :: rest) = '#' :: rest := by simp [unindented, Text.isSpace]
  have number : isNumberMarker ('#' :: rest) = false := by
    simp [isNumberMarker, show Char.isDigit '#' = false from rfl]
  simp [opensBlock, body, number, isQuoteOrTag, isAngle, isBulletMarker, isFenceMarker,
    List.replicate_succ, List.isPrefixOf, isUnderline, isRule]

/-- A line that is not one of marks only is at most an item. -/
theorem opensBlock_mark {c x : Char} (mark : c ∈ ['-', '+', '=']) {rest : List Char} (m : x ∈ rest)
    (odd : x ∉ ['-', '+', '=', ' ']) :
    opensBlock (c :: rest) = (c != '=' && endsMarker rest) := by
  have uneven (p : Char → Bool) (other : p x = false) : rest.all p = false := by
    rw [List.all_eq_false]
    exact ⟨x, m, by simp [other]⟩
  simp only [List.mem_cons, List.not_mem_nil, or_false, not_or] at odd mark
  have underline (d : Char) (mark : d = '-' ∨ d = '=') : rest.all (· == d) = false := by
    apply uneven
    obtain rfl | rfl := mark
    · simp [odd.1]
    · simp [odd.2.2.1]
  have rule : (rest.all fun c => c == '-' || c == ' ') = false :=
    uneven _ (by simp [odd.1, odd.2.2.2])
  have digits : Char.isDigit c = false := by
    obtain rfl | rfl | rfl := mark <;> rfl
  have number : isNumberMarker (c :: rest) = false := by simp [isNumberMarker, digits]
  obtain rfl | rfl | rfl := mark
  all_goals simp [opensBlock, unindented, Text.isSpace, number, isQuoteOrTag, isAngle,
    isHeadingMarker, isBulletMarker, isFenceMarker, List.replicate_succ, List.isPrefixOf,
    isUnderline, isRule, underline, rule]

theorem isHeadingMarker_append {run rest : List Char} (hashes : ∀ c ∈ run, c = '#')
    (beyond : rest.head? ≠ some '#') : isHeadingMarker (run ++ rest) =
      (decide (1 ≤ run.length) && decide (run.length ≤ 6) && endsMarker rest) := by
  have marks : (run ++ rest).takeWhile (· == '#') = run := by
    apply Text.takeWhile_run
    · intro c m
      simp [hashes c m]
    · intro c first
      rw [first] at beyond
      simpa using beyond
  rw [isHeadingMarker, marks, List.drop_left]

/-- Text that stands between a space and `cut`, more of them, as it is printed by itself. -/
def spacedOut (text cut : List Char) : List Char :=
  Text.trimEnd Text.isSpace (escapeFrom {} [' '] [' '] (text ++ cut)).1

section Spaced

variable {text cut : List Char} (spaces : ∀ c ∈ cut, Text.isSpace c = true)
  (ends : text.getLast? ≠ some ' ')

include spaces ends

theorem spacedOut_escaped : Escaped (spacedOut text cut) text := by
  have escaped := (escapeFrom_escaped {} [' '] [' '] (text ++ cut)).trimEnd
  rwa [Text.trimEnd_append_all spaces, Text.trimEnd_of_getLast? ends] at escaped

/-- What is kept of a text is kept when it is trimmed. -/
theorem spacedOut_keeps {run more : List Char} (whole : text = run ++ more)
    (solid : run.getLast? ≠ some ' ') (keeps : Keeps run (more ++ cut)) :
    ∃ out, Escaped out more ∧ spacedOut text cut = run ++ out := by
  obtain ⟨out, escaped, printed⟩ := keeps
  have trimmed := escaped.trimEnd
  have rest : Text.trimEnd Text.isSpace (more ++ cut) = more := by
    rw [Text.trimEnd_append_all spaces]
    apply Text.trimEnd_of_getLast?
    intro space
    apply ends
    rw [whole, List.getLast?_append, space]
    rfl
  rw [rest] at trimmed
  refine ⟨_, trimmed, ?_⟩
  rw [spacedOut, whole, List.append_assoc, printed, Text.trimEnd_append]
  by_cases none_ : Text.trimEnd Text.isSpace out = []
  · rw [none_, Text.inMargin_nil, Text.trimEnd_of_getLast? solid, List.append_nil]
  · rw [Text.inMargin_of_ne_nil none_]

/-- What is kept as it is: plain characters, if number signs are not the last of them. -/
theorem spacedOut_plain (plain : ∀ c ∈ text, isPlain c = true) (goesOn : cut ≠ [] ∨ '#' ∉ text) :
    spacedOut text cut = text := by
  have keeps : Keeps text ([] ++ cut) := .of_plain plain goesOn
  obtain ⟨out, escaped, whole⟩ := spacedOut_keeps spaces ends (List.append_nil text).symm ends keeps
  cases escaped
  rwa [List.append_nil] at whole

end Spaced

section Begins

variable {d : Char} {more cut : List Char}

/-- What is escaped anywhere is escaped behind a space. -/
theorem opensBlock_spacedOut_guarded (always : d ∈ '_' :: alwaysEscaped) (suffix : List Char) :
    opensBlock (spacedOut (d :: more) cut ++ suffix) = false := by
  have must : mustEscape {} [' '] [' '] d (more ++ cut) = true := by
    obtain rfl | m := List.mem_cons.mp always
    · have space : Text.isAlphanumeric ' ' = false := by decide +kernel
      simp [mustEscape, space]
    · rw [mustEscape, if_pos (List.contains_iff_mem.mpr m)]
  obtain ⟨rest, printed⟩ : ∃ rest, spacedOut (d :: more) cut = '\\' :: rest := by
    rw [spacedOut, List.cons_append, escapeFrom, must]
    exact Text.trimEnd_cons rfl _
  rw [printed]
  exact (Inert.word (by decide) (by decide) _).opensBlock

/-- A number sign that ends its text is escaped, which keeps the others from being a marker. -/
theorem opensBlock_spacedOut_hashes {run : List Char} (hashes : ∀ c ∈ run, c = '#')
    (suffix : List Char) : opensBlock (spacedOut (run ++ ['#']) [] ++ suffix) = false := by
  have plain : ∀ c ∈ run, isPlain c = true := by
    intro c m
    rw [hashes c m]
    rfl
  have must (seen tail : List Char) : (escapeFrom {} seen tail ['#']).1 = ['\\', '#'] := by
    have last : mustEscape {} seen tail '#' [] = true := by
      rw [mustEscape, if_neg (by decide), if_neg (by decide), if_pos (by decide)]
      simp
    rw [escapeFrom, last]
    rfl
  have printed : spacedOut (run ++ ['#']) [] = run ++ ['\\', '#'] := by
    rw [spacedOut, List.append_nil, escapeFrom_plain plain (.inl (by simp)), must]
    exact Text.trimEnd_of_getLast? (by simp)
  rw [printed, List.append_assoc]
  cases run with
  | nil => exact (Inert.word (by decide) (by decide) _).opensBlock
  | cons c run =>
    obtain rfl : c = '#' := hashes c List.mem_cons_self
    rw [List.cons_append, opensBlock_hash, ← List.cons_append,
      isHeadingMarker_append hashes (by simp)]
    simp [endsMarker, Text.isSpace]

variable (spaces : ∀ c ∈ cut, Text.isSpace c = true) (ends : (d :: more).getLast? ≠ some ' ')

include spaces ends

/-- A mark that begins a list or an underline is kept behind a space, and what follows it is a space
or the end as it was. -/
theorem opensBlock_spacedOut_mark (mark : d ∈ ['-', '+', '=']) (suffix : List Char)
    (changed : spacedOut (d :: more) cut ≠ d :: more) :
    opensBlock (spacedOut (d :: more) cut ++ suffix) = opensBlock (d :: more ++ suffix) := by
  have table : ['-', '+', '=', ' '].all (fun c => isPlain c && c != '#') = true := by decide
  have marks : ∀ c ∈ ['-', '+', '=', ' '], isPlain c = true ∧ c ≠ '#' := by
    intro c m
    simpa using List.all_eq_true.mp table c m
  have among : d ∈ ['-', '+', '=', ' '] := List.mem_append_left [' '] mark
  obtain ⟨plain, noHash⟩ := marks d among
  obtain ⟨x, m, odd⟩ : ∃ x ∈ d :: more, x ∉ ['-', '+', '=', ' '] := by
    by_contra! none_
    apply changed
    apply spacedOut_plain spaces ends fun c m => (marks c (none_ c m)).1
    exact .inr fun hash => (marks '#' (none_ '#' hash)).2 rfl
  have solid : [d].getLast? ≠ some ' ' := by
    intro space
    obtain rfl : d = ' ' := by simpa using space
    exact absurd mark (by decide)
  have keeps : Keeps [d] (more ++ cut) :=
    .of_plain (by simpa using plain) (.inr (by simpa using noHash.symm))
  obtain ⟨out, escaped, printed⟩ :=
    spacedOut_keeps spaces ends (List.singleton_append).symm solid keeps
  have behind : x ∈ more := by
    obtain rfl | m := List.mem_cons.mp m
    · exact absurd among odd
    · exact m
  obtain same | ⟨before, c, rest, -, backslash⟩ := escaped.eq_or_guarded
  · rw [printed, same]
    rfl
  · have slash : '\\' ∈ out := by simp [backslash]
    rw [printed, List.append_assoc, List.singleton_append, List.cons_append,
      opensBlock_mark mark (List.mem_append_left suffix slash) (by decide),
      opensBlock_mark mark (List.mem_append_left suffix behind) odd, escaped.endsMarker_append]

/-- A run of number signs is kept before what follows it. -/
theorem opensBlock_spacedOut_hash (hash : d = '#') (suffix : List Char)
    (goesOn : (∀ c ∈ d :: more, c = '#') → cut ≠ []) :
    opensBlock (spacedOut (d :: more) cut ++ suffix) = opensBlock (d :: more ++ suffix) := by
  obtain ⟨run, rest, whole, hashes, beyond⟩ := Text.run_parts (· == '#') (d :: more)
  simp only [beq_iff_eq, beq_eq_false_iff_ne] at hashes beyond
  have plain : ∀ c ∈ run, isPlain c = true := by
    intro c m
    rw [hashes c m]
    rfl
  have marker (x : List Char) (shown : run ≠ []) (other : x.head? ≠ some '#') :
      opensBlock (run ++ x) =
        (decide (1 ≤ run.length) && decide (run.length ≤ 6) && endsMarker x) := by
    obtain ⟨c, run, rfl⟩ := List.exists_cons_of_ne_nil shown
    obtain rfl : c = '#' := hashes c List.mem_cons_self
    rw [List.cons_append, opensBlock_hash, ← List.cons_append, isHeadingMarker_append hashes other]
  cases rest with
  | nil =>
    rw [List.append_nil] at whole
    rw [spacedOut_plain spaces ends (whole ▸ plain) (.inl (goesOn (whole ▸ hashes)))]
  | cons e rest =>
    have some_ : run ≠ [] := by
      rintro rfl
      exact beyond d (by rw [← List.nil_append (e :: rest), ← whole]; rfl) hash
    have solid : run.getLast? ≠ some ' ' :=
      fun space => by cases hashes ' ' (List.mem_of_getLast? space)
    obtain ⟨out, escaped, printed⟩ := spacedOut_keeps spaces ends whole solid
      (.of_plain plain (.inl (by simp)))
    have other : (out ++ suffix).head? ≠ some '#' := by
      cases escaped with
      | plain _ _ => simpa using beyond e rfl
      | guarded _ _ => simp
    rw [printed, whole, List.append_assoc, List.append_assoc, marker _ some_ other,
      marker _ some_ (by simpa using beyond e rfl), escaped.endsMarker_append]

/-- A number is kept, with the mark that makes it an item. -/
theorem opensBlock_spacedOut_number (digit : d.isDigit = true) (suffix : List Char) :
    opensBlock (spacedOut (d :: more) cut ++ suffix) = opensBlock (d :: more ++ suffix) := by
  obtain ⟨run, rest, whole, digits, beyond⟩ := Text.run_parts Char.isDigit (d :: more)
  have plain : ∀ c ∈ run, isPlain c = true := fun c m => isPlain_of_isDigit (digits c m)
  have noHash : '#' ∉ run := fun m => by cases digits '#' m
  cases rest with
  | nil =>
    rw [List.append_nil] at whole
    rw [spacedOut_plain spaces ends (whole ▸ plain) (.inr (whole ▸ noHash))]
  | cons e rest =>
    have some_ : run ≠ [] := by
      rintro rfl
      have first := beyond d (by rw [← List.nil_append (e :: rest), ← whole]; rfl)
      rw [digit] at first
      cases first
    have numeral : isNumeral run = true := isNumeral_iff.mpr ⟨some_, digits⟩
    have marker (c : Char) (x : List Char) (other : c.isDigit = false) :
        opensBlock (run ++ c :: x) = ((c == '.' || c == ')') && endsMarker x) := by
      obtain ⟨first, others, rfl⟩ := List.exists_cons_of_ne_nil some_
      rw [List.cons_append,
        opensBlock_cons (not_mem_openers_of_isDigit (digits first List.mem_cons_self)),
        ← List.cons_append, isNumberMarker_append numeral (by simpa using other)]
    have other := beyond e rfl
    by_cases item : e = '.' ∨ e = ')'
    · have solid : (run ++ [e]).getLast? ≠ some ' ' := by
        rw [List.getLast?_concat]
        rintro ⟨⟩
        obtain item | item := item <;> cases item
      obtain ⟨out, escaped, printed⟩ := spacedOut_keeps spaces ends
        (whole.trans (List.append_cons run e rest)) solid (.of_number digits item)
      rw [printed, whole, List.append_assoc, List.append_assoc, List.append_assoc,
        List.singleton_append, List.cons_append, marker e _ other, marker e _ other,
        escaped.endsMarker_append]
    · have unmarked : (e == '.' || e == ')') = false := by simpa using item
      have solid : run.getLast? ≠ some ' ' :=
        fun space => by cases digits ' ' (List.mem_of_getLast? space)
      obtain ⟨out, escaped, printed⟩ := spacedOut_keeps spaces ends whole solid
        (.of_plain plain (.inr noHash))
      rw [printed, whole, List.append_assoc, List.append_assoc, List.cons_append,
        marker e _ other, unmarked]
      cases escaped with
      | plain _ _ => rw [List.cons_append, marker e _ other, unmarked]; rfl
      | guarded _ _ => rw [List.cons_append, marker '\\' _ rfl]; rfl

/-- **Text behind a space opens a block as it stands**, unless it begins with what is escaped
anywhere or is all number signs up to its end. -/
theorem opensBlock_spacedOut_iff (solid : d ≠ ' ') (suffix : List Char) :
    opensBlock (spacedOut (d :: more) cut ++ suffix) = true ↔
      (d ∉ '_' :: alwaysEscaped ∧ ((∀ c ∈ d :: more, c = '#') → cut ≠ [])) ∧
        opensBlock (d :: more ++ suffix) = true := by
  by_cases always : d ∈ '_' :: alwaysEscaped
  · rw [opensBlock_spacedOut_guarded always]
    simp [always]
  by_cases closed : (∀ c ∈ d :: more, c = '#') ∧ cut = []
  · obtain ⟨hashes, rfl⟩ := closed
    obtain ⟨run, whole⟩ : ∃ run, d :: more = run ++ ['#'] := by
      obtain ⟨run, c, whole⟩ := List.eq_nil_or_concat' (d :: more) |>.resolve_left (by simp)
      rw [hashes c (whole ▸ by simp)] at whole
      exact ⟨run, whole⟩
    have closed : opensBlock (spacedOut (d :: more) [] ++ suffix) = false := by
      rw [whole]
      exact opensBlock_spacedOut_hashes (fun c m => hashes c (whole ▸ List.mem_append_left _ m)) _
    rw [closed]
    constructor
    · intro opens
      cases opens
    · rintro ⟨⟨-, goesOn⟩, -⟩
      exact absurd rfl (goesOn hashes)
  have goesOn : (∀ c ∈ d :: more, c = '#') → cut ≠ [] :=
    fun hashes none_ => closed ⟨hashes, none_⟩
  have same : opensBlock (spacedOut (d :: more) cut ++ suffix) =
      opensBlock (d :: more ++ suffix) := by
    by_cases kept : spacedOut (d :: more) cut = d :: more
    · rw [kept]
    by_cases mark : d ∈ ['-', '+', '=']
    · exact opensBlock_spacedOut_mark spaces ends mark suffix kept
    by_cases hash : d = '#'
    · exact opensBlock_spacedOut_hash spaces ends hash suffix goesOn
    by_cases digit : d.isDigit = true
    · exact opensBlock_spacedOut_number spaces ends digit suffix
    by_cases quote : d = '>'
    · subst quote
      obtain ⟨out, -, printed⟩ := spacedOut_keeps spaces ends (List.singleton_append).symm
        (by decide) (.of_plain (List.all_eq_true.mp (by decide)) (.inr (by decide)))
      rw [printed, List.append_assoc, List.singleton_append, opensBlock_quote, List.cons_append,
        opensBlock_quote]
    · have other : d.isDigit = false := by simpa using digit
      have table : openers.all (fun c => c == ' ' || ('_' :: alwaysEscaped).contains c ||
          ['-', '+', '='].contains c || c == '#' || c == '>') = true := by decide
      have plain : d ∉ openers := by
        intro m
        have listed := List.all_eq_true.mp table d m
        simp only [Bool.or_eq_true, beq_iff_eq, List.contains_iff_mem] at listed
        obtain (((space | markup) | sign) | sharp) | angle := listed
        · exact solid space
        · exact always markup
        · exact mark sign
        · exact hash sharp
        · exact quote angle
      obtain ⟨out, printed, escaped⟩ : ∃ out, spacedOut (d :: more) cut = out ∧
          Escaped out (d :: more) := ⟨_, rfl, spacedOut_escaped spaces ends⟩
      rw [printed, List.cons_append, (Inert.word plain other _).opensBlock]
      cases escaped with
      | plain _ _ => exact (Inert.word plain other _).opensBlock
      | guarded _ _ => exact (Inert.word (by decide) (by decide) _).opensBlock
  rw [same, and_iff_right ⟨always, goesOn⟩]

end Begins

/-- A line that is begun safely stays so when its last spaces are taken off. -/
theorem Inert.trimEnd {line : List Char} (h : Inert line) :
    Inert (Text.trimEnd Text.isSpace line) ∨
      isNumeral (Text.trimEnd Text.isSpace line) = true := by
  cases h with
  | @word c plain other rest =>
    have solid : Text.isSpace c = false := by
      rw [Text.isSpace, beq_eq_false_iff_ne]
      rintro rfl
      exact plain (by decide)
    obtain ⟨kept, trimmed⟩ := Text.trimEnd_cons solid rest
    rw [trimmed]
    exact .inl (.word plain other kept)
  | @number digits c numeral beyond unmarked rest =>
    have whole : Text.trimEnd Text.isSpace digits = digits := by
      apply Text.trimEnd_of_getLast?
      intro space
      cases (isNumeral_iff.mp numeral).2 ' ' (List.mem_of_getLast? space)
    rw [Text.trimEnd_append]
    by_cases none_ : Text.trimEnd Text.isSpace (c :: rest) = []
    · rw [none_, Text.inMargin_nil, whole]
      exact .inr numeral
    · obtain ⟨d, kept, trimmed⟩ := List.exists_cons_of_ne_nil none_
      obtain ⟨cut, parts, -⟩ := Text.trimEnd_eq_append Text.isSpace (c :: rest)
      rw [trimmed, List.cons_append] at parts
      obtain rfl : c = d := (List.cons.inj parts).1
      rw [Text.inMargin_of_ne_nil none_, trimmed]
      exact .inl (.number numeral beyond unmarked kept)

end Markup

namespace Render

open Text (isSpace isSpacing)

/-- The identifier of a heading as it stands behind its text. -/
def spacedIdentifier (identifier : Option String) : List Char :=
  if (identifierSuffix identifier).isEmpty then [] else ' ' :: identifierSuffix identifier

theorem spacedIdentifier_cases (identifier : Option String) :
    spacedIdentifier identifier = [] ∨ ∃ more, spacedIdentifier identifier = ' ' :: '{' :: more := by
  by_cases none_ : (identifier.getD "").toList = []
  · simp [spacedIdentifier, identifierSuffix, none_]
  · exact .inr ⟨'#' :: (identifier.getD "").toList ++ ['}'],
      by simp [spacedIdentifier, identifierSuffix, none_]⟩

/-- A text that spacing begins is not taken to stand at the start of its line. It is as open to be
read as a block as it was written, if it does not begin with what is escaped anywhere, and if it is
not all number signs up to its end. -/
def isUnguarded (content : String) : Bool :=
  content.toList.head?.any isSpacing &&
    (cleanText content).head?.all (!('_' :: Markup.alwaysEscaped).contains ·) &&
    (!(cleanText content).all (· == '#') || content.toList.getLast?.any isSpacing)

variable {content : String}

theorem cleanText_ne_nil (visible : ∃ c ∈ content.toList, Text.isBlank c = false) :
    cleanText content ≠ [] := by
  intro none_
  have ink : Text.ink (cleanText content) = Text.ink content.toList := by
    rw [cleanText, Text.ink_trim fun c => Text.isBlank_of_isSpace, Text.ink_collapse]
  rw [none_, Text.ink_nil] at ink
  obtain ⟨c, m, solid⟩ := visible
  rw [Text.ink_eq_nil_iff.mp ink.symm c m] at solid
  cases solid

theorem cleanText_last {c : Char} (last : (cleanText content).getLast? = some c) :
    isSpacing c = false := by
  have solid := Text.trim_getLast? isSpace last
  have m := (Text.trim_sublist isSpace _).subset (List.mem_of_getLast? last)
  cases spacing : isSpacing c with
  | false => rfl
  | true =>
    rw [Text.eq_space_of_mem m spacing] at solid
    cases solid

/-- A text that spacing begins, in its normal form. -/
theorem collapse_spaced (spaced : content.toList.head?.any isSpacing = true)
    (shown : cleanText content ≠ []) :
    ∃ cut, Text.collapse content.toList = ' ' :: (cleanText content ++ cut) ∧
      ∀ c ∈ cut, isSpace c = true := by
  cases text : content.toList with
  | nil => exact absurd (by rw [cleanText, text]; rfl) shown
  | cons c rest =>
    have spacing : isSpacing c = true := by simpa [text] using spaced
    have normal : Text.collapse content.toList =
        ' ' :: Text.collapseRuns isSpacing ' ' true rest := by
      rw [text, Text.collapse, Text.collapseRuns, if_pos spacing, if_neg (by simp)]
    have solid : (Text.collapseRuns isSpacing ' ' true rest).dropWhile isSpace =
        Text.collapseRuns isSpacing ' ' true rest := by
      apply Text.dropWhile_append_left (a := [])
      intro d first
      have other := Text.collapseRuns_head rest
      rw [first] at other
      simpa [isSpace] using other
    have clean : cleanText content =
        Text.trimEnd isSpace (Text.collapseRuns isSpacing ' ' true rest) := by
      rw [cleanText, normal]
      exact congrArg (Text.trimEnd isSpace) solid
    obtain ⟨cut, parts, spaces⟩ :=
      Text.trimEnd_eq_append isSpace (Text.collapseRuns isSpacing ' ' true rest)
    rw [← clean] at parts
    exact ⟨cut, by rw [← text, normal, ← parts], spaces⟩

/-- Spacing that ends a text is what is trimmed off it. -/
theorem endsSpaced_iff {cut : List Char} (shown : cleanText content ≠ [])
    (whole : Text.collapse content.toList = ' ' :: (cleanText content ++ cut))
    (spaces : ∀ c ∈ cut, isSpace c = true) :
    content.toList.getLast?.any isSpacing = true ↔ cut ≠ [] := by
  have last (cs : List Char) : Text.endsSpaced false cs = cs.getLast?.any isSpacing := by
    rw [Text.endsSpaced_eq]
    cases cs.getLast? <;> rfl
  have same := Text.endsSpaced_collapseRuns false content.toList
  rw [← Text.collapse, last, last, whole, ← List.cons_append] at same
  rw [← same]
  cases cut using List.reverseRecOn with
  | nil =>
    obtain ⟨c, ends⟩ := Option.ne_none_iff_exists'.mp (mt List.getLast?_eq_none_iff.mp shown)
    rw [List.append_nil, List.getLast?_cons, ends]
    simp [cleanText_last ends]
  | append_singleton cut c =>
    have space : c = ' ' := by simpa [isSpace] using spaces c (by simp)
    rw [← List.append_assoc, List.getLast?_concat, space]
    simp [isSpacing]

theorem placedText_spaced {cut : List Char} (shown : cleanText content ≠ [])
    (whole : Text.collapse content.toList = ' ' :: (cleanText content ++ cut)) :
    placedText true content = Markup.spacedOut (cleanText content) cut := by
  obtain ⟨d, more, text⟩ := List.exists_cons_of_ne_nil shown
  have solid : isSpace d = false := Text.trim_head? isSpace _ (by rw [← cleanText, text]; rfl)
  have escaped := Markup.escapeFrom_escaped {} [' '] [' '] (cleanText content ++ cut)
  rw [placedText, whole, Markup.escape_space _ (by simp [shown]),
    Markup.escapeFrom_behind false (by simp)]
  have trimmed (out : List Char) :
      Text.trim isSpace (' ' :: out) = Text.trimEnd isSpace (out.dropWhile isSpace) := rfl
  rw [trimmed]
  rw [text, List.cons_append] at escaped ⊢
  rw [escaped.dropWhile_solid solid]
  rfl

theorem placedText_begins (solid : content.toList.head?.any isSpacing = false)
    (shown : cleanText content ≠ []) :
    Markup.Inert (placedText true content) ∨ Markup.isNumeral (placedText true content) = true := by
  cases text : content.toList with
  | nil => exact absurd (by rw [cleanText, text]; rfl) shown
  | cons c rest =>
    have spacing : isSpacing c = false := by simpa [text] using solid
    have other : c ≠ ' ' := by
      rintro rfl
      cases spacing
    have normal : Text.collapse content.toList = c :: Text.collapseRuns isSpacing ' ' false rest := by
      rw [text, Text.collapse, Text.collapseRuns, if_neg (by simp [spacing])]
    have escaped := Markup.escape_escaped ⟨true, false⟩ [] (Text.collapse content.toList)
    rw [normal] at escaped
    rw [placedText, normal, Text.trim, escaped.dropWhile_solid (by simpa [isSpace] using other)]
    have start : (⟨true, false⟩ : Markup.Place).atLineStart = true := rfl
    obtain inert | numeral :=
      Markup.escape_begins start other (Text.collapseRuns isSpacing ' ' false rest)
    · exact inert.trimEnd
    · rw [Text.trimEnd_of_getLast?]
      · exact .inr numeral
      · intro space
        cases (Markup.isNumeral_iff.mp numeral).2 ' ' (List.mem_of_getLast? space)

/-- The line of a heading opens a block just if its text does, and is not guarded against it. -/
theorem opensBlock_placedText (shown : cleanText content ≠ []) (identifier : Option String) :
    Markup.opensBlock (placedText true content ++ spacedIdentifier identifier) =
      (isUnguarded content &&
        Markup.opensBlock (cleanText content ++ spacedIdentifier identifier)) := by
  cases spaced : content.toList.head?.any isSpacing with
  | false =>
    have safe : Markup.opensBlock (placedText true content ++ spacedIdentifier identifier) =
        false := by
      obtain inert | numeral := placedText_begins spaced shown
      · exact (inert.append _).opensBlock
      · obtain none_ | ⟨more, named⟩ := spacedIdentifier_cases identifier
        · rw [none_, List.append_nil]
          exact Markup.opensBlock_numeral numeral
        · rw [named]
          exact (Markup.Inert.number numeral (by decide) (by decide) _).opensBlock
    rw [safe, isUnguarded, spaced]
    rfl
  | true =>
    obtain ⟨cut, whole, spaces⟩ := collapse_spaced spaced shown
    have ended := endsSpaced_iff shown whole spaces
    rw [placedText_spaced shown whole]
    obtain ⟨d, more, text⟩ := List.exists_cons_of_ne_nil shown
    have solid : isSpace d = false := Text.trim_head? isSpace _ (by rw [← cleanText, text]; rfl)
    have ends : (d :: more).getLast? ≠ some ' ' := by
      rw [← text]
      intro space
      cases cleanText_last space
    have opens := Markup.opensBlock_spacedOut_iff spaces ends (by rintro rfl; cases solid)
      (spacedIdentifier identifier)
    rw [text, Bool.eq_iff_iff, opens, Bool.and_eq_true]
    refine and_congr ?_ Iff.rfl
    rw [isUnguarded, spaced, text, Bool.true_and, Bool.and_eq_true, Bool.or_eq_true, ended]
    refine and_congr ?_ ?_
    · simp
    · simp [imp_iff_not_or]

/-- A line that takes no cells has nothing but the text in it. -/
theorem cells_placedText (content : String) (identifier : Option String) :
    Text.cells (placedText true content ++ spacedIdentifier identifier) = 0 →
      placedText true content ++ spacedIdentifier identifier = cleanText content := by
  intro none_
  have suffix : spacedIdentifier identifier = [] := by
    obtain absent | ⟨more, named⟩ := spacedIdentifier_cases identifier
    · exact absent
    · rw [named] at none_
      have seen := Text.cells_pos (c := ' ') (d := '{') (by decide) (by decide) more
        (placedText true content)
      omega
  rw [suffix, List.append_nil] at none_ ⊢
  obtain same | ⟨before, c, rest, punctuation, whole⟩ :=
    (placedText_escaped true content).eq_or_guarded
  · exact same
  · rw [whole] at none_
    have shown := Markup.cellWidth_of_isPunctuation punctuation
    have seen := Text.cells_pos (c := '\\') (by decide) shown rest before
    omega

theorem underline?_setext {settings : RendererSettings} (setext : settings.headingStyle = .setext)
    {level : HeadingLevel} (low : level.val ≤ 2) :
    underline? settings level = some (if level.val = 1 then '=' else '-') := by
  have positive := level.property.1
  rw [underline?, setext]
  obtain one | two : level.val = 1 ∨ level.val = 2 := by omega
  · simp [one]
  · simp [two]

theorem headingText_setext {settings : RendererSettings} (setext : settings.headingStyle = .setext)
    {level : HeadingLevel} (low : level.val ≤ 2) (identifier : Option String) {text : List Char}
    (shown : text ≠ []) :
    headingText settings level identifier text =
      text ++ spacedIdentifier identifier ++ '\n' :: List.replicate
        (Text.cells (text ++ spacedIdentifier identifier)) (if level.val = 1 then '=' else '-') := by
  have some_ : text.isEmpty = false := by simpa using shown
  rw [headingText, underline?_setext setext low]
  simp only [some_, Bool.false_eq_true, ↓reduceIte]
  rfl

end Render

namespace RendererSettings

variable {settings : RendererSettings}

/-- **An underlined heading is two lines**, the second as long as the first is wide. The first opens
a block only if its text does and is not guarded against it; the second is empty only if the first
is a text that takes no cells. -/
theorem render_underlined (setext : settings.headingStyle = .setext) {level : HeadingLevel}
    (low : level.val ≤ 2) {content : String}
    (visible : ∃ c ∈ content.toList, Text.isBlank c = false) {identifier : Option String}
    (named : '\n' ∉ (identifier.getD "").toList) :
    ∃ line, (settings.render (.document [.heading level [.text content] identifier])).1 =
        .ok (String.ofList (line ++ '\n' ::
          List.replicate (Text.cells line) (if level.val = 1 then '=' else '-') ++ ['\n'])) ∧
      '\n' ∉ line ∧
      Markup.opensBlock line = (Render.isUnguarded content &&
        Markup.opensBlock (Render.cleanText content ++ Render.spacedIdentifier identifier)) ∧
      (Text.cells line = 0 ↔
        line = Render.cleanText content ∧ Text.cells (Render.cleanText content) = 0) := by
  have shown := Render.cleanText_ne_nil visible
  have some_ : Render.placedText true content ≠ [] :=
    fun none_ => shown ((Render.placedText_escaped true content).eq_nil.mp none_)
  refine ⟨Render.placedText true content ++ Render.spacedIdentifier identifier, ?_, ?_,
    Render.opensBlock_placedText shown identifier, ?_⟩
  · rw [render_placed level shown identifier, Render.underline?_setext setext low,
      Option.isSome_some, Render.headingText_setext setext low identifier some_]
  · have suffix : '\n' ∉ Render.spacedIdentifier identifier := by
      have line := Render.identifierSuffix_line named
      unfold Render.spacedIdentifier
      split <;> simp [line]
    simp [Render.placedText_line true content, suffix]
  · constructor
    · intro none_
      have same := Render.cells_placedText content identifier none_
      exact ⟨same, same ▸ none_⟩
    · rintro ⟨same, none_⟩
      rwa [same]

/-- A star is escaped behind a space too, and wide characters are counted twice. -/
theorem render_underlined_guarded :
    Markup.opensBlock (Render.cleanText " * 日本") = true ∧
    ∃ line, (RendererSettings.render { headingStyle := .setext }
        (.document [.heading ⟨2, by decide⟩ [.text " * 日本"] (some "x y")])).1 =
          .ok (String.ofList (line ++ '\n' :: List.replicate (Text.cells line) '-' ++ ['\n'])) ∧
      '\n' ∉ line ∧ Markup.opensBlock line = false ∧ Text.cells line ≠ 0 := by
  obtain ⟨line, printed, oneLine, opens, wide⟩ := @render_underlined { headingStyle := .setext } rfl
    ⟨2, by decide⟩ (by decide) " * 日本" ⟨'*', by decide, by decide⟩ (some "x y") (by decide)
  refine ⟨by decide, line, printed, oneLine, ?_, ?_⟩
  · rw [opens]
    decide
  · rw [ne_eq, wide]
    intro none_
    exact absurd none_.2 (by decide +kernel)

/-- Text is escaped before its first space is trimmed off, and a text that is not blank may take no
cells. -/
theorem render_underlined_breaks :
    (RendererSettings.render { headingStyle := .setext }
        (.document [.heading ⟨1, by decide⟩ [.text " - a"] none])).1 = .ok "- a\n===\n" ∧
      Markup.opensBlock "- a".toList = true ∧
    (RendererSettings.render { headingStyle := .setext }
        (.document [.heading ⟨1, by decide⟩ [.text "\u200b"] none])).1 = .ok "\u200b\n\n" ∧
      Text.isBlank '\u200b' = false := by
  refine ⟨by decide +kernel, by decide, by decide +kernel, by decide⟩

end RendererSettings

end MarkdownCanon
