import MarkdownCanon.Proofs.HeadingReading

/-! Code spans and the tails of links as a reader takes them apart. Every code span is read back. A
link's tail is read back too, unless it has a title and no destination, which lets the title be
taken for one. -/

namespace MarkdownCanon

namespace Text

theorem longestRunFrom_concat {p : Char → Bool} {c : Char} (other : p c = false)
    (current best : Nat) (cs : List Char) :
    longestRunFrom p current best (cs ++ [c]) = longestRunFrom p current best cs := by
  induction cs generalizing current best with
  | nil => simp [longestRunFrom, other]
  | cons d cs ih =>
    rw [List.cons_append, longestRunFrom, longestRunFrom, ih, ih]

/-- Spaces around a text add to no run in it. -/
theorem longestRun_padded {p : Char → Bool} (other : p ' ' = false) (cs : List Char) :
    longestRun p (' ' :: cs ++ [' ']) = longestRun p cs := by
  unfold longestRun
  rw [longestRunFrom_concat other, longestRunFrom, other]
  rfl

/-- A run stops within a text that does not end in a member of it. -/
theorem takeWhile_append_of_last {p : Char → Bool} {cs : List Char} (some_ : cs ≠ [])
    (last : ∀ c, cs.getLast? = some c → p c = false) (more : List Char) :
    (cs ++ more).takeWhile p = cs.takeWhile p := by
  rw [List.takeWhile_append, if_neg]
  intro whole
  have all := List.takeWhile_eq_self_iff.mp ((List.takeWhile_prefix p).eq_of_length whole)
  have ends := all _ (List.getLast_mem some_)
  rw [last _ (List.getLast?_eq_some_getLast some_)] at ends
  cases ends

theorem trim_eq_nil_iff {p : Char → Bool} {cs : List Char} :
    trim p cs = [] ↔ ∀ c ∈ cs, p c = true := by
  constructor
  · intro none_ c m
    obtain ⟨lead, cut, whole, leading, spaces⟩ := trim_parts p cs
    rw [none_, List.nil_append] at whole
    rw [whole] at m
    exact (List.mem_append.mp m).elim (leading c) (spaces c)
  · intro all
    rw [trim, List.dropWhile_eq_nil_iff.mpr all]
    rfl

end Text

namespace Markup

section CodeSpans

def isTick (c : Char) : Bool := c == '\x60'

/-- Cuts a text at its first run of exactly `length` backticks. `within` tells whether a backtick
stands just before the text, which then goes on with a run and does not begin one. -/
def closeSpan? (length : Nat) (within : Bool) : List Char → Option (List Char × List Char)
  | [] => none
  | c :: rest =>
    if !within && ((c :: rest).takeWhile isTick).length == length then
      some ([], (c :: rest).drop length)
    else (closeSpan? length (isTick c) rest).map fun (code, after) => (c :: code, after)

/-- The inside of a code span without the spaces that keep it off its delimiters. -/
def unpadded (inside : List Char) : List Char :=
  if inside.head? == some ' ' && inside.getLast? == some ' ' && !inside.all Text.isSpace then
    inside.tail.dropLast
  else inside

/-- The code span that a text begins with: its code, and what follows it. -/
def readCodeSpan? (text : List Char) : Option (List Char × List Char) :=
  let length := (text.takeWhile isTick).length
  if length == 0 then none
  else (closeSpan? length true (text.drop length)).map fun (inside, after) =>
    (unpadded inside, after)

example : readCodeSpan? "\x60\x60 a\x60\x60\x60\x60b \x60\x60c".toList =
    some ("a\x60\x60\x60\x60b".toList, "c".toList) := by decide

/-- What is cut off stands before a run of backticks as long as asked for, if each run in it is
shorter. -/
theorem closeSpan?_append {length : Nat} {inside rest : List Char} (some_ : 0 < length)
    (short : ∀ run, run <:+: inside → (∀ c ∈ run, isTick c = true) → run.length < length)
    (last : inside.getLast? ≠ some '\x60') (apart : rest.head? ≠ some '\x60') {within : Bool}
    (begun : inside = [] → within = false) :
    closeSpan? length within (inside ++ (List.replicate length '\x60' ++ rest)) =
      some (inside, rest) := by
  induction inside generalizing within with
  | nil =>
    have run : (List.replicate length '\x60' ++ rest).takeWhile isTick =
        List.replicate length '\x60' := by
      apply Text.takeWhile_run
      · intro c m
        rw [List.eq_of_mem_replicate m]
        rfl
      · intro c first
        rw [first] at apart
        simpa [isTick] using apart
    obtain ⟨n, rfl⟩ := Nat.exists_eq_add_of_lt some_
    rw [List.nil_append]
    rw [Nat.zero_add, List.replicate_succ, List.cons_append] at run ⊢
    rw [closeSpan?, run, begun rfl]
    simp
  | cons c inside ih =>
    have ends : ∀ d, (c :: inside).getLast? = some d → isTick d = false := by
      intro d ends
      rw [ends] at last
      simpa [isTick] using last
    have other : ((c :: inside ++ (List.replicate length '\x60' ++ rest)).takeWhile
        isTick).length ≠ length := by
      rw [Text.takeWhile_append_of_last (by simp) ends]
      apply Nat.ne_of_lt
      apply short
      · exact (List.takeWhile_prefix isTick).isInfix
      · intro d m
        exact List.mem_takeWhile_imp m
    rw [List.cons_append] at other ⊢
    rw [closeSpan?, if_neg (by simp [other]), ih]
    · rfl
    · intro run part
      exact short run (List.infix_cons part)
    · intro tick
      apply last
      rw [List.getLast?_cons, tick]
      rfl
    · rintro rfl
      exact ends c rfl

/-- The code of a span on one line. -/
def unbroken (code : List Char) : List Char := code.map fun c => if c == '\n' then ' ' else c

/-- Whether the content of a code span has a space put on each side. -/
def isPadded (line : List Char) : Bool :=
  line.head? == some '\x60' || line.getLast? == some '\x60' ||
    !(Text.trim Text.isSpace line).isEmpty && line.head? == some ' ' && line.getLast? == some ' '

theorem codeSpan_eq (code : List Char) : codeSpan ['\x60'] code =
    { content := if isPadded (unbroken code) then ' ' :: unbroken code ++ [' '] else unbroken code
      fence := List.replicate (Text.longestRun isTick (unbroken code) + 1) '\x60' } := by
  have start (line : List Char) :
      List.isPrefixOf ['\x60'] line = (line.head? == some '\x60') := by
    cases line with
    | nil => rfl
    | cons c line => simp [List.isPrefixOf, Bool.beq_comm]
  have finish (line : List Char) :
      List.isSuffixOf ['\x60'] line = (line.getLast? == some '\x60') := by
    rw [List.isSuffixOf, List.reverse_singleton, start, List.head?_reverse]
  have ticks : (fun c => c == '\x60') = isTick := rfl
  simp [codeSpan, isPadded, unbroken, start, finish, ticks]

/-- The reader takes off the spaces that were put on, and no others. -/
theorem unpadded_content (line : List Char) :
    unpadded (if isPadded line then ' ' :: line ++ [' '] else line) = line := by
  have blank : (Text.trim Text.isSpace line).isEmpty = line.all Text.isSpace := by
    rw [Bool.eq_iff_iff, List.isEmpty_iff, Text.trim_eq_nil_iff, List.all_eq_true]
  by_cases padded : isPadded line = true
  · have shown : line.all Text.isSpace = false := by
      rw [← Bool.not_eq_true, List.all_eq_true]
      intro spaces
      have tick : '\x60' ∉ line := fun m => Bool.noConfusion (spaces _ m)
      rw [isPadded, blank, List.all_eq_true.mpr spaces] at padded
      simp only [Bool.not_true, Bool.false_and, Bool.or_false, Bool.or_eq_true, beq_iff_eq] at padded
      exact tick (padded.elim List.mem_of_head? List.mem_of_getLast?)
    have last : (' ' :: line ++ [' ']).getLast? = some ' ' := List.getLast?_concat
    rw [if_pos padded, unpadded, last, if_pos (by simp [shown])]
    simp
  · rw [if_neg padded, unpadded, if_neg]
    intro lost
    apply padded
    rw [isPadded, blank]
    simp only [Bool.and_eq_true] at lost
    simp [lost]

theorem codeSpan_fence (code : List Char) : ∃ length, 0 < length ∧
    (codeSpan ['\x60'] code).fence = List.replicate length '\x60' ∧
    ∀ run, run <:+: (codeSpan ['\x60'] code).content → (∀ c ∈ run, isTick c = true) →
      run.length < length := by
  rw [codeSpan_eq]
  refine ⟨_, Nat.succ_pos _, rfl, ?_⟩
  intro run part ticks
  have longest := Text.run_le_longestRun ticks part
  dsimp only at longest
  split at longest
  · rw [Text.longestRun_padded rfl] at longest
    omega
  · omega

/-- No backtick of the content stands at a delimiter. -/
theorem codeSpan_ends {code : List Char} (some_ : code ≠ []) :
    ∃ c rest, (codeSpan ['\x60'] code).content = c :: rest ∧ isTick c = false ∧
      (c :: rest).getLast? ≠ some '\x60' := by
  rw [codeSpan_eq]
  dsimp only
  by_cases padded : isPadded (unbroken code) = true
  · rw [if_pos padded]
    refine ⟨' ', unbroken code ++ [' '], rfl, rfl, ?_⟩
    rw [← List.cons_append, List.getLast?_concat]
    decide
  · rw [if_neg padded]
    obtain ⟨c, rest, line⟩ := List.exists_cons_of_ne_nil
      (show unbroken code ≠ [] by simpa [unbroken] using some_)
    rw [isPadded, line] at padded
    simp only [Bool.or_eq_true, not_or, beq_iff_eq] at padded
    refine ⟨c, rest, line, ?_, padded.1.2⟩
    simpa [isTick] using padded.1.1

/-- **Code spans are read back.** Before anything but a backtick, the span of a code is read to its
end, and what is read is the code, its line ends being spaces. -/
theorem readCodeSpan?_codeSpan {code : List Char} (some_ : code ≠ []) {rest : List Char}
    (apart : rest.head? ≠ some '\x60') :
    readCodeSpan? ((codeSpan ['\x60'] code).text ++ rest) =
      some (code.map fun c => if c == '\n' then ' ' else c, rest) := by
  obtain ⟨length, pos, fence, short⟩ := codeSpan_fence code
  obtain ⟨c, more, content, first, last⟩ := codeSpan_ends some_
  have whole : (codeSpan ['\x60'] code).text ++ rest = List.replicate length '\x60' ++
      ((codeSpan ['\x60'] code).content ++ (List.replicate length '\x60' ++ rest)) := by
    simp [CodeSpan.text, fence]
  have run : ((codeSpan ['\x60'] code).text ++ rest).takeWhile isTick =
      List.replicate length '\x60' := by
    rw [whole]
    apply Text.takeWhile_run
    · intro d m
      rw [List.eq_of_mem_replicate m]
      rfl
    · intro d head
      rw [content] at head
      cases head
      exact first
  have shown : (codeSpan ['\x60'] code).content ≠ [] := by simp [content]
  have cut : closeSpan? length true ((codeSpan ['\x60'] code).content ++
      (List.replicate length '\x60' ++ rest)) = some ((codeSpan ['\x60'] code).content, rest) :=
    closeSpan?_append pos short (content ▸ last) apart fun none_ => absurd none_ shown
  have inside : unpadded (codeSpan ['\x60'] code).content = unbroken code := by
    rw [codeSpan_eq]
    exact unpadded_content _
  have opened : ((codeSpan ['\x60'] code).text ++ rest).drop length =
      (codeSpan ['\x60'] code).content ++ (List.replicate length '\x60' ++ rest) := by
    rw [whole]
    exact List.drop_left' List.length_replicate
  rw [readCodeSpan?, run, List.length_replicate, opened, cut, if_neg (by simpa using pos.ne')]
  rw [Option.map_some]
  dsimp only
  rw [inside]
  rfl

theorem readCodeSpan?_codeSpan_ticked :
    ("\x60 \n\x60\x60".toList ≠ [] ∧ "\\\x60".toList.head? ≠ some '\x60') ∧
    readCodeSpan? ((codeSpan ['\x60'] "\x60 \n\x60\x60".toList).text ++ "\\\x60".toList) =
      some ("\x60  \x60\x60".toList, "\\\x60".toList) := by
  have some_ : "\x60 \n\x60\x60".toList ≠ [] := by decide
  have apart : "\\\x60".toList.head? ≠ some '\x60' := by decide
  exact ⟨⟨some_, apart⟩, readCodeSpan?_codeSpan some_ apart⟩

end CodeSpans

section LinkTails

/-- What is read of a link behind its text. -/
structure LinkTail where
  url : List Char
  title : Option (List Char)
  rest : List Char
  deriving DecidableEq, Repr

/-- The text up to the first `stop` that is not escaped, without its escapes. None of `barred` may
stand in it, unless escaped. -/
def readUntil? (stop : Char) (barred : List Char) : List Char → Option (List Char × List Char)
  | [] => none
  | '\\' :: c :: rest =>
    if isPunctuation c then (readUntil? stop barred rest).map fun (text, after) => (c :: text, after)
    else (readUntil? stop barred (c :: rest)).map fun (text, after) => ('\\' :: text, after)
  | c :: rest =>
    if c == stop then some ([], rest)
    else if barred.contains c then none
    else (readUntil? stop barred rest).map fun (text, after) => (c :: text, after)

def isControl (c : Char) : Bool := c.toNat < 0x20 || c.toNat == 0x7F

/-- A destination without brackets, up to a space, a control character or a parenthesis that closes
none in it. `depth` of its parentheses are open. -/
def readBare? (depth : Nat) : List Char → Option (List Char × List Char)
  | [] => if depth == 0 then some ([], []) else none
  | '\\' :: c :: rest =>
    if isPunctuation c then (readBare? depth rest).map fun (url, after) => (c :: url, after)
    else (readBare? depth (c :: rest)).map fun (url, after) => ('\\' :: url, after)
  | c :: rest =>
    if c == ' ' || isControl c then if depth == 0 then some ([], c :: rest) else none
    else if c == '(' then
      (readBare? (depth + 1) rest).map fun (url, after) => (c :: url, after)
    else if c == ')' then
      if depth == 0 then some ([], c :: rest)
      else (readBare? (depth - 1) rest).map fun (url, after) => (c :: url, after)
    else (readBare? depth rest).map fun (url, after) => (c :: url, after)

def readDestination? : List Char → Option (List Char × List Char)
  | '<' :: rest => readUntil? '>' ['<', '\n'] rest
  | text => (readBare? 0 text).filter fun (url, _) => !url.isEmpty

/-- The rest of a tail behind its destination: a title, if there is one, and the parenthesis. -/
def readEnd? (url : List Char) (text : List Char) : Option LinkTail :=
  match text with
  | ')' :: rest => some ⟨url, none, rest⟩
  | text =>
    match text.dropWhile Text.isSpace with
    | '"' :: quoted =>
      match readUntil? '"' [] quoted with
      | some (title, ')' :: rest) => some ⟨url, title, rest⟩
      | _ => none
    | _ => none

/-- The tail of a link, from its opening parenthesis on. What can be read as a destination is one,
if a title or nothing but the closing parenthesis follows; only otherwise there is none. -/
def readLinkTail? : List Char → Option LinkTail
  | '(' :: text =>
    let inner := text.dropWhile Text.isSpace
    let tried := do
      let (url, after) ← readDestination? inner
      -- A title has to stand apart from the destination.
      if after.head? == some '"' then none else readEnd? url after
    tried.or (readEnd? [] inner)
  | _ => none

example : readLinkTail? "( <a b\\>> \"\\\"c\\d\")e".toList =
    some ⟨"a b>".toList, some "\"c\\d".toList, "e".toList⟩ := by decide

example : readLinkTail? "(\"a(b)\")".toList = some ⟨"\"a(b)\"".toList, none, []⟩ := by decide

example : readLinkTail? "( \"a b\")".toList = some ⟨[], some "a b".toList, []⟩ := by decide

theorem backslashBefore_guarded {p : Char → Bool} {c : Char} (must : p c = true)
    (cs : List Char) : backslashBefore p (c :: cs) = '\\' :: c :: backslashBefore p cs := by
  simp [backslashBefore, must]

theorem backslashBefore_plain {p : Char → Bool} {c : Char} (plain : p c = false)
    (cs : List Char) : backslashBefore p (c :: cs) = c :: backslashBefore p cs := by
  simp [backslashBefore, plain]

theorem readUntil?_guarded (stop : Char) (barred : List Char) {c : Char}
    (punctuation : isPunctuation c = true) (rest : List Char) :
    readUntil? stop barred ('\\' :: c :: rest) =
      (readUntil? stop barred rest).map fun (text, after) => (c :: text, after) := by
  rw [readUntil?, if_pos punctuation]

theorem readUntil?_plain {stop : Char} {barred : List Char} {c : Char} (plain : c ≠ '\\')
    (other : c ≠ stop) (allowed : c ∉ barred) (rest : List Char) :
    readUntil? stop barred (c :: rest) =
      (readUntil? stop barred rest).map fun (text, after) => (c :: text, after) := by
  rw [readUntil?, if_neg (by simpa using other), if_neg (by simpa using allowed)]
  rintro d rest rfl
  exact absurd rfl plain

theorem readUntil?_stop {stop : Char} (barred : List Char) (other : stop ≠ '\\')
    (rest : List Char) : readUntil? stop barred (stop :: rest) = some ([], rest) := by
  rw [readUntil?, if_pos (beq_self_eq_true stop)]
  rintro d rest rfl
  exact absurd rfl other

/-- What has been escaped where it would end is read to its end. -/
theorem readUntil?_escaped {stop : Char} {barred : List Char} (other : stop ≠ '\\')
    {p : Char → Bool} (guards : ∀ c, p c = true → isPunctuation c = true) {cs : List Char}
    (free : ∀ c ∈ cs, p c = false → c ≠ '\\' ∧ c ≠ stop ∧ c ∉ barred) (rest : List Char) :
    readUntil? stop barred (backslashBefore p cs ++ stop :: rest) = some (cs, rest) := by
  induction cs with
  | nil => exact readUntil?_stop barred other rest
  | cons c cs ih =>
    have later := ih fun d m => free d (List.mem_cons_of_mem _ m)
    by_cases must : p c = true
    · rw [backslashBefore_guarded must, List.cons_append, List.cons_append,
        readUntil?_guarded _ _ (guards c must), later]
      rfl
    · have plain : p c = false := by simpa using must
      obtain ⟨solid, open_, allowed⟩ := free c List.mem_cons_self plain
      rw [backslashBefore_plain plain, List.cons_append, readUntil?_plain solid open_ allowed, later]
      rfl

theorem readBare?_guarded (depth : Nat) {c : Char} (punctuation : isPunctuation c = true)
    (rest : List Char) : readBare? depth ('\\' :: c :: rest) =
      (readBare? depth rest).map fun (url, after) => (c :: url, after) := by
  rw [readBare?, if_pos punctuation]

/-- A character that is no backslash ends a destination, or changes how many parentheses are open
in it. -/
theorem readBare?_cons (depth : Nat) {c : Char} (plain : c ≠ '\\') (rest : List Char) :
    readBare? depth (c :: rest) =
      if c == ' ' || isControl c then if depth == 0 then some ([], c :: rest) else none
      else if c == ')' && depth == 0 then some ([], c :: rest)
      else
        let depth := if c == '(' then depth + 1 else if c == ')' then depth - 1 else depth
        (readBare? depth rest).map fun (url, after) => (c :: url, after) := by
  rw [readBare?]
  · by_cases opens : c = '('
    · subst opens
      rfl
    · by_cases closes : c = ')'
      · subst closes
        by_cases outermost : depth = 0 <;> simp [outermost]
      · simp [opens, closes]
  · rintro d rest rfl
    exact absurd rfl plain

/-- A destination whose parentheses are paired is read up to a space or the parenthesis behind. -/
theorem readBare?_balanced {depth : Nat} {url : List Char}
    (balanced : parensBalancedFrom depth false url = true)
    (plain : ∀ c ∈ url, c ≠ '\\' ∧ c ≠ ' ' ∧ isControl c = false) {c : Char}
    (stop : c = ' ' ∨ c = ')') (rest : List Char) :
    readBare? depth (url ++ c :: rest) = some (url, c :: rest) := by
  induction url generalizing depth with
  | nil =>
    obtain rfl : depth = 0 := by simpa [parensBalancedFrom] using balanced
    obtain rfl | rfl := stop <;> rfl
  | cons d url ih =>
    obtain ⟨solid, apart, visible⟩ := plain d List.mem_cons_self
    have later {depth : Nat} (balanced : parensBalancedFrom depth false url = true) :=
      ih balanced fun c m => plain c (List.mem_cons_of_mem _ m)
    rw [List.cons_append, readBare?_cons depth solid, if_neg (by simp [apart, visible])]
    by_cases opens : d = '('
    · subst opens
      have read := later (by simpa [parensBalancedFrom] using balanced)
      simp [read]
    · by_cases closes : d = ')'
      · subst closes
        cases depth with
        | zero => simp [parensBalancedFrom] at balanced
        | succ depth =>
          have read := later (by simpa [parensBalancedFrom] using balanced)
          simp [read]
      · have read := later (by simpa [parensBalancedFrom, solid, opens, closes] using balanced)
        simp [opens, closes, read]

/-- A destination is read, in whichever form it stands, up to a space or a parenthesis. -/
theorem readDestination?_destination {url : List Char}
    (plain : ∀ c ∈ url, c ≠ '\\' ∧ isControl c = false) (some_ : url ≠ []) {c : Char}
    (stop : c = ' ' ∨ c = ')') (rest : List Char) :
    readDestination? (destination url ++ c :: rest) = some (url, c :: rest) := by
  unfold destination
  by_cases bracketed : (url.any Text.isBlank || url.any isAngle || !parensBalanced url) = true
  · rw [if_pos bracketed, List.append_assoc]
    change readUntil? '>' ['<', '\n'] (backslashBefore isAngle url ++ '>' :: c :: rest) = _
    apply readUntil?_escaped (by decide)
    · intro d angle
      obtain rfl | rfl : d = '<' ∨ d = '>' := by simpa [isAngle] using angle
      all_goals rfl
    · intro d m other
      obtain ⟨solid, visible⟩ := plain d m
      have line : d ≠ '\n' := by
        rintro rfl
        cases visible
      simp_all [isAngle]
  · rw [if_neg bracketed]
    simp only [Bool.or_eq_true, not_or, Bool.not_eq_true, Bool.not_eq_false',
      List.any_eq_false] at bracketed
    obtain ⟨⟨blank, angle⟩, balanced⟩ := bracketed
    have apart : ' ' ∉ url := fun m => Bool.noConfusion (blank ' ' m)
    have bare := readBare?_balanced balanced
      (fun d m => ⟨(plain d m).1, fun space => apart (space ▸ m), (plain d m).2⟩) stop rest
    obtain ⟨d, more, rfl⟩ := List.exists_cons_of_ne_nil some_
    have first : d ≠ '<' := by
      rintro rfl
      cases angle '<' List.mem_cons_self
    rw [readDestination?, bare]
    · rfl
    · rintro rest same
      cases same
      exact first rfl

theorem destination_head {url : List Char} (some_ : url ≠ []) :
    ∃ c rest, destination url = c :: rest ∧ Text.isSpace c = false := by
  unfold destination
  split
  · exact ⟨'<', _, rfl, rfl⟩
  · rename_i bare
    simp only [Bool.or_eq_true, not_or, Bool.not_eq_true, List.any_eq_false] at bare
    obtain ⟨c, rest, rfl⟩ := List.exists_cons_of_ne_nil some_
    have solid := bare.1.1 c List.mem_cons_self
    refine ⟨c, rest, rfl, ?_⟩
    cases space : Text.isSpace c with
    | false => rfl
    | true =>
      rw [Text.isBlank_of_isSpace space] at solid
      cases solid

/-- What is written behind a destination. -/
def tailEnd (text : List Char) : List Char :=
  (if text.isEmpty then [] else ' ' :: title text) ++ [')']

theorem linkTail_eq (url text : List Char) :
    linkTail url text = ']' :: '(' :: (destination url ++ tailEnd text) := by
  simp [linkTail, tailEnd]

theorem tailEnd_head (text : List Char) :
    ∃ c rest, tailEnd text = c :: rest ∧ (c = ' ' ∨ c = ')') := by
  unfold tailEnd
  split
  · exact ⟨')', [], rfl, .inr rfl⟩
  · exact ⟨' ', _, rfl, .inl rfl⟩

/-- The characters that are escaped in a title. -/
def isTitleMark (c : Char) : Bool := c == '\\' || c == '"'

theorem isTitleMark_iff {c : Char} : isTitleMark c = true ↔ c = '\\' ∨ c = '"' := by
  simp [isTitleMark]

theorem isPunctuation_of_isTitleMark (c : Char) (mark : isTitleMark c = true) :
    isPunctuation c = true := by
  obtain rfl | rfl := isTitleMark_iff.mp mark <;> rfl

theorem title_eq (text : List Char) :
    title text = '"' :: (backslashBefore isTitleMark text ++ ['"']) := rfl

theorem readUntil?_title (text rest : List Char) :
    readUntil? '"' [] (backslashBefore isTitleMark text ++ '"' :: rest) = some (text, rest) := by
  apply readUntil?_escaped (by decide) isPunctuation_of_isTitleMark
  intro c _ plain
  simpa [isTitleMark] using plain

theorem readEnd?_quoted (url text : List Char) :
    readEnd? url ('"' :: (backslashBefore isTitleMark text ++ ['"', ')'])) =
      some ⟨url, some text, []⟩ := by
  have read := readUntil?_title text [')']
  simp [readEnd?, Text.isSpace, read]

theorem readEnd?_tailEnd (url text : List Char) :
    readEnd? url (tailEnd text) =
      some ⟨url, if text.isEmpty then none else some text, []⟩ := by
  unfold tailEnd
  split
  · rfl
  · have quoted := readEnd?_quoted url text
    rw [title_eq]
    simpa [readEnd?, Text.isSpace] using quoted

/-- Whether a title is taken for a destination where there is none: before its first space, some
parenthesis closes none in it, be it the one that ends the tail. -/
def passesForUrl (depth : Nat) : List Char → Bool
  | [] => depth == 0
  | c :: rest =>
    if c == ' ' || isControl c then false
    else if c == ')' && depth == 0 then true
    else passesForUrl (if c == '(' then depth + 1 else if c == ')' then depth - 1 else depth) rest

/-- Within a title no quote stands that could begin another one. -/
theorem readUntil?_inside {text quoted : List Char}
    (rest : (backslashBefore isTitleMark text ++ ['"', ')']).dropWhile Text.isSpace =
      '"' :: quoted) : readUntil? '"' [] quoted = none := by
  induction text with
  | nil =>
    obtain rfl : [')'] = quoted := by simpa [backslashBefore, Text.isSpace] using rest
    rfl
  | cons c text ih =>
    by_cases mark : isTitleMark c = true
    · rw [backslashBefore_guarded mark] at rest
      simp [Text.isSpace] at rest
    · have plain : isTitleMark c = false := by simpa using mark
      rw [backslashBefore_plain plain, List.cons_append, List.dropWhile_cons] at rest
      split at rest
      · exact ih rest
      · cases rest
        exact absurd rfl mark

theorem readEnd?_inside (url : List Char) {c : Char} (ends : (c == ' ' || isControl c) = true)
    (text : List Char) :
    readEnd? url (c :: (backslashBefore isTitleMark text ++ ['"', ')'])) = none := by
  rw [readEnd?]
  · split
    · rename_i quoted rest
      rw [List.dropWhile_cons] at rest
      split at rest
      · rw [readUntil?_inside rest]
      · cases rest
        cases ends
    · rfl
  · intro rest same
    cases same
    cases ends

/-- What becomes of a title that is tried as a destination: this ends at a parenthesis, or else
nothing can be read behind it. -/
def Tried (ends : Bool) (read : Option (List Char × List Char)) : Prop :=
  match ends with
  | true => ∃ url rest, read = some (url, ')' :: rest)
  | false => ∀ url after, read = some (url, after) → ∀ url, readEnd? url after = none

theorem Tried.cons {ends : Bool} {read : Option (List Char × List Char)} (h : Tried ends read)
    (c : Char) : Tried ends (read.map fun (url, after) => (c :: url, after)) := by
  cases ends with
  | true =>
    obtain ⟨url, rest, rfl⟩ := h
    exact ⟨c :: url, rest, rfl⟩
  | false =>
    intro url after read
    obtain ⟨⟨url, after⟩, read, same⟩ := Option.map_eq_some_iff.mp read
    cases same
    exact h url after read

theorem readBare?_title (depth : Nat) (text : List Char) :
    Tried (passesForUrl depth text)
      (readBare? depth (backslashBefore isTitleMark text ++ ['"', ')'])) := by
  induction text generalizing depth with
  | nil =>
    match depth with
    | 0 => exact ⟨['"'], [], rfl⟩
    | 1 =>
      rintro url after ⟨⟩ url
      rfl
    | depth + 2 => rintro url after ⟨⟩
  | cons c text ih =>
    by_cases mark : isTitleMark c = true
    · have same : passesForUrl depth (c :: text) = passesForUrl depth text := by
        obtain rfl | rfl := isTitleMark_iff.mp mark <;> rfl
      rw [same, backslashBefore_guarded mark, List.cons_append, List.cons_append,
        readBare?_guarded depth (isPunctuation_of_isTitleMark c mark)]
      exact (ih depth).cons c
    · have plain : isTitleMark c = false := by simpa using mark
      have solid : c ≠ '\\' := fun backslash => mark (isTitleMark_iff.mpr (.inl backslash))
      rw [backslashBefore_plain plain, List.cons_append, readBare?_cons depth solid, passesForUrl]
      by_cases ends : (c == ' ' || isControl c) = true
      · rw [if_pos ends, if_pos ends]
        intro url after read
        split at read
        · cases read
          exact fun url => readEnd?_inside url ends text
        · cases read
      · rw [if_neg ends, if_neg ends]
        by_cases closes : (c == ')' && depth == 0) = true
        · obtain ⟨rfl, -⟩ : c = ')' ∧ depth = 0 := by simpa using closes
          rw [if_pos closes, if_pos closes]
          exact ⟨[], _, rfl⟩
        · rw [if_neg closes, if_neg closes]
          exact (ih _).cons c

/-- A tail with a destination is read back. -/
theorem readLinkTail?_of_url {url : List Char}
    (plain : ∀ c ∈ url, c ≠ '\\' ∧ isControl c = false) (some_ : url ≠ []) (text : List Char) :
    readLinkTail? ('(' :: (destination url ++ tailEnd text)) =
      some ⟨url, if text.isEmpty then none else some text, []⟩ := by
  obtain ⟨c, more, shape, solid⟩ := destination_head some_
  have start : (destination url ++ tailEnd text).dropWhile Text.isSpace =
      destination url ++ tailEnd text := by
    rw [shape, List.cons_append, List.dropWhile_cons_of_neg (by simp [solid])]
  have ended := readEnd?_tailEnd url text
  obtain ⟨d, rest, behind, stop⟩ := tailEnd_head text
  have apart : d ≠ '"' := by
    obtain rfl | rfl := stop <;> decide
  have read := readDestination?_destination plain some_ stop rest
  rw [readLinkTail?, start]
  rw [behind] at ended ⊢
  simp [read, apart, ended]

/-- A tail without one is, unless its title passes for one. -/
theorem readLinkTail?_of_title {text : List Char} (some_ : text ≠ []) :
    readLinkTail? ('(' :: tailEnd text) = some ⟨[], some text, []⟩ ↔
      passesForUrl 0 text = false := by
  have inner : (tailEnd text).dropWhile Text.isSpace =
      '"' :: (backslashBefore isTitleMark text ++ ['"', ')']) := by
    simp [tailEnd, title_eq, some_, Text.isSpace]
  have first : readDestination? ('"' :: (backslashBefore isTitleMark text ++ ['"', ')'])) =
      (readBare? 0 (backslashBefore isTitleMark text ++ ['"', ')'])).map
        fun (url, after) => ('"' :: url, after) := by
    rw [readDestination?, readBare?_cons 0 (by decide), if_neg (by decide), if_neg (by decide)]
    · change ((readBare? 0 _).map _).filter _ = _
      cases readBare? 0 (backslashBefore isTitleMark text ++ ['"', ')']) <;> rfl
    · rintro rest ⟨⟩
  have tried := readBare?_title 0 text
  rw [readLinkTail?, inner, first, readEnd?_quoted]
  cases passes : passesForUrl 0 text with
  | true =>
    rw [passes] at tried
    obtain ⟨url, rest, read⟩ := tried
    simp [read, readEnd?]
  | false =>
    rw [passes] at tried
    cases read : readBare? 0 (backslashBefore isTitleMark text ++ ['"', ')']) with
    | none => simp
    | some cut =>
      have none_ := tried cut.1 cut.2 read ('"' :: cut.1)
      simp [none_]

/-- **Tails of links are read back**, in whichever form the destination stands, and with their
title. Where there is a title and no destination, this holds just if the title does not pass for
one. -/
theorem linkTail_reads_back {url : List Char}
    (plain : ∀ c ∈ url, c ≠ '\\' ∧ isControl c = false) {title : Option String}
    (some_ : title ≠ some "") :
    ∃ tail, linkTail url (title.getD "").toList = ']' :: tail ∧
      (readLinkTail? tail = some ⟨url, title.map String.toList, []⟩ ↔
        (url = [] → ∀ text, title = some text → passesForUrl 0 text.toList = false)) := by
  refine ⟨_, linkTail_eq url _, ?_⟩
  by_cases named : url = []
  · subst named
    cases title with
    | none => exact iff_of_true (by decide) (by simp)
    | some text =>
      have shown : text.toList ≠ [] := by simpa using some_
      exact (readLinkTail?_of_title shown).trans (by simp)
  · have read := readLinkTail?_of_url plain named (title.getD "").toList
    rw [read]
    cases title with
    | none => simp [named]
    | some text =>
      have shown : text.toList ≠ [] := by simpa using some_
      simp [named, shown]

theorem linkTail_reads_back_bracketed :
    ((∀ c ∈ "a <b".toList, c ≠ '\\' ∧ isControl c = false) ∧ some "\\\"(" ≠ some "") ∧
    ∃ tail, linkTail "a <b".toList "\\\"(".toList = ']' :: tail ∧
      readLinkTail? tail = some ⟨"a <b".toList, some "\\\"(".toList, []⟩ := by
  have plain : ∀ c ∈ "a <b".toList, c ≠ '\\' ∧ isControl c = false := by simp [isControl]
  have some_ : some "\\\"(" ≠ some "" := by decide
  obtain ⟨tail, written, read⟩ := linkTail_reads_back plain some_
  exact ⟨⟨plain, some_⟩, tail, written, read.mpr fun none_ => absurd none_ (by decide)⟩

/-- With no destination before it, a title is read as one. -/
theorem linkTail_reads_title_as_url :
    (RendererSettings.renderInlines {} {} [.link "" [.text "x"] (some "t")]).1 =
        .ok "[x]( \"t\")" ∧
      linkTail [] "t".toList = "]( \"t\")".toList ∧
      readLinkTail? "( \"t\")".toList = some ⟨"\"t\"".toList, none, []⟩ := by
  decide +kernel

end LinkTails

end Markup

end MarkdownCanon
