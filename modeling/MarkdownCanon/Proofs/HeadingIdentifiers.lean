import Mathlib.Data.List.DropRight
import MarkdownCanon.Proofs.BlockOpeners
import MarkdownCanon.Token.Block

/-! Identifiers at the end of a heading. One is found where nothing but white space is left behind
it, and it is split off with the white space before it. -/

namespace MarkdownCanon

theorem Text.trimEnd_cons_of_mem {p : Char → Bool} {c d : Char} {cs : List Char} (m : d ∈ c :: cs)
    (kept : p d = false) : trimEnd p (c :: cs) = c :: trimEnd p cs := by
  unfold trimEnd
  rw [List.reverse_cons, List.dropWhile_append]
  split
  · rename_i empty
    have all := List.dropWhile_eq_nil_iff.mp (List.isEmpty_iff.mp empty)
    have stays : p c = false := by
      obtain rfl | m := List.mem_cons.mp m
      · exact kept
      · rw [all d (List.mem_reverse.mpr m)] at kept
        cases kept
    rw [List.isEmpty_iff.mp empty, List.dropWhile_cons_of_neg (by simp [stays])]
    rfl
  · simp

namespace Token

/-- The characters that an identifier is made of. -/
def isNameChar (c : Char) : Bool := c != '}' && !Text.isBlank c

section Here

variable {gap name : List Char} (blank : ∀ c ∈ gap, Text.isBlank c = true)
  (clean : ∀ c ∈ name, isNameChar c = true)

include blank clean

theorem identifierHere?_closed (after : List Char) :
    identifierHere? (gap ++ '{' :: '#' :: (name ++ '}' :: after)) =
      if !name.isEmpty && after.all Text.isBlank then some name else none := by
  have run : (name ++ '}' :: after).takeWhile (fun c => c != '}' && !Text.isBlank c) = name :=
    Text.takeWhile_run clean (by simp)
  unfold identifierHere?
  rw [List.dropWhile_append_of_pos blank, List.dropWhile_cons_of_neg (by decide)]
  simp only [run, List.drop_left]

theorem identifierHere?_open {rest : List Char}
    (beyond : ∀ c, rest.head? = some c → isNameChar c = false ∧ c ≠ '}') :
    identifierHere? (gap ++ '{' :: '#' :: (name ++ rest)) = none := by
  have run : (name ++ rest).takeWhile (fun c => c != '}' && !Text.isBlank c) = name :=
    Text.takeWhile_run clean fun c first => (beyond c first).1
  unfold identifierHere?
  rw [List.dropWhile_append_of_pos blank, List.dropWhile_cons_of_neg (by decide)]
  simp only [run, List.drop_left]
  split
  · exact absurd rfl (beyond _ rfl).2
  · rfl

omit blank clean in
theorem identifierHere?_other {cs : List Char}
    (h : ∀ rest, cs.dropWhile Text.isBlank ≠ '{' :: '#' :: rest) : identifierHere? cs = none := by
  unfold identifierHere?
  split
  · exact absurd ‹_› (h _)
  · rfl

end Here

/-- Where an identifier is found, it ends the text. -/
theorem identifierHere?_eq_some {cs name : List Char} (h : identifierHere? cs = some name) :
    ∃ gap after, cs = gap ++ '{' :: '#' :: (name ++ '}' :: after) ∧
      ∀ c ∈ after, Text.isBlank c = true := by
  by_cases opens : ∃ rest, cs.dropWhile Text.isBlank = '{' :: '#' :: rest
  · obtain ⟨rest, opens⟩ := opens
    have whole : cs = cs.takeWhile Text.isBlank ++
        '{' :: '#' :: (rest.takeWhile isNameChar ++ rest.dropWhile isNameChar) := by
      rw [List.takeWhile_append_dropWhile, ← opens, List.takeWhile_append_dropWhile]
    have blank : ∀ c ∈ cs.takeWhile Text.isBlank, Text.isBlank c = true :=
      fun c m => List.mem_takeWhile_imp m
    have clean : ∀ c ∈ rest.takeWhile isNameChar, isNameChar c = true :=
      fun c m => List.mem_takeWhile_imp m
    have beyond := List.head?_dropWhile_not isNameChar rest
    cases behind : rest.dropWhile isNameChar with
    | nil =>
      rw [whole, identifierHere?_open blank clean (by simp [behind])] at h
      cases h
    | cons c after =>
      rw [behind] at beyond
      by_cases closed : c = '}'
      · subst closed
        rw [behind] at whole
        rw [whole, identifierHere?_closed blank clean] at h
        split at h
        · rename_i ends
          cases h
          rw [Bool.and_eq_true] at ends
          exact ⟨_, after, whole, List.all_eq_true.mp ends.2⟩
        · cases h
      · rw [whole, identifierHere?_open blank clean (by simpa [behind, closed] using beyond)] at h
        cases h
  · rw [identifierHere?_other fun rest same => opens ⟨rest, same⟩] at h
    cases h

theorem splitIdentifier?_here {c : Char} {cs name : List Char}
    (h : identifierHere? (c :: cs) = some name) : splitIdentifier? (c :: cs) = some ([], name) := by
  unfold splitIdentifier?
  rw [h]

theorem splitIdentifier?_later {c : Char} {cs : List Char} (h : identifierHere? (c :: cs) = none) :
    splitIdentifier? (c :: cs) =
      (splitIdentifier? cs).map fun (before, name) => (c :: before, name) := by
  conv => lhs; unfold splitIdentifier?
  rw [h]

/-- An identifier that is split off stood at the end. -/
theorem splitIdentifier?_eq_some {cs before name : List Char}
    (h : splitIdentifier? cs = some (before, name)) :
    ∃ gap after, cs = before ++ (gap ++ '{' :: '#' :: (name ++ '}' :: after)) ∧
      ∀ c ∈ after, Text.isBlank c = true := by
  induction cs generalizing before with
  | nil =>
    have none_ : splitIdentifier? [] = none := rfl
    rw [none_] at h
    cases h
  | cons c cs ih =>
    cases here : identifierHere? (c :: cs) with
    | some found =>
      rw [splitIdentifier?_here here] at h
      obtain ⟨rfl, rfl⟩ : [] = before ∧ found = name := by simpa using h
      simpa using identifierHere?_eq_some here
    | none =>
      rw [splitIdentifier?_later here] at h
      obtain ⟨⟨before', name'⟩, later, same⟩ := Option.map_eq_some_iff.mp h
      obtain ⟨rfl, rfl⟩ : c :: before' = before ∧ name' = name := by simpa using same
      obtain ⟨gap, after, whole, blank⟩ := ih later
      refine ⟨gap, after, ?_, blank⟩
      rw [List.cons_append, ← whole]

section Suffix

variable {name : List Char} (some_ : name ≠ []) (clean : ∀ c ∈ name, isNameChar c = true)

include some_ clean

theorem identifierHere?_gap (gap : List Char) (blank : ∀ c ∈ gap, Text.isBlank c = true) :
    identifierHere? (gap ++ '{' :: '#' :: (name ++ ['}'])) = some name := by
  rw [identifierHere?_closed blank clean, if_pos (by simpa using some_)]

omit some_ clean in
/-- What is visible keeps an identifier that comes later from being found. -/
theorem identifierHere?_visible {text : List Char} (more : List Char) {d : Char} (m : d ∈ text)
    (visible : Text.isBlank d = false) : identifierHere? (text ++ ' ' :: '{' :: more) = none := by
  have whole := List.takeWhile_append_dropWhile (p := Text.isBlank) (l := text)
  have blank : ∀ c ∈ text.takeWhile Text.isBlank, Text.isBlank c = true :=
    fun c m => List.mem_takeWhile_imp m
  have first := List.head?_dropWhile_not Text.isBlank text
  cases shown : text.dropWhile Text.isBlank with
  | nil =>
    rw [List.dropWhile_eq_nil_iff.mp shown d m] at visible
    cases visible
  | cons c rest =>
    rw [shown] at first whole
    by_cases opens : c = '{' ∧ ∃ inner, rest = '#' :: inner
    · obtain ⟨rfl, inner, rfl⟩ := opens
      rw [← List.takeWhile_append_dropWhile (p := isNameChar) (l := inner)] at whole
      have clean : ∀ c ∈ inner.takeWhile isNameChar, isNameChar c = true :=
        fun c m => List.mem_takeWhile_imp m
      have beyond := List.head?_dropWhile_not isNameChar inner
      rw [← whole, List.append_assoc, List.cons_append, List.cons_append, List.append_assoc]
      cases behind : inner.dropWhile isNameChar with
      | nil =>
        exact identifierHere?_open blank clean (by simp [isNameChar, Text.isBlank])
      | cons e after =>
        rw [behind] at beyond
        by_cases closed : e = '}'
        · subst closed
          rw [List.cons_append, identifierHere?_closed blank clean, if_neg (by simp [Text.isBlank])]
        · exact identifierHere?_open blank clean (by simpa [closed] using beyond)
    · refine identifierHere?_other fun after same => opens ?_
      rw [← whole, List.append_assoc, List.dropWhile_append_of_pos blank, List.cons_append,
        List.dropWhile_cons_of_neg (by simpa using first)] at same
      obtain ⟨rfl, sign⟩ := List.cons.inj same
      cases rest with
      | nil => simp at sign
      | cons e rest =>
        obtain ⟨rfl, -⟩ := List.cons.inj sign
        exact ⟨rfl, rest, rfl⟩

/-- An identifier behind a text is split off, and with it the white space before it. -/
theorem splitIdentifier?_suffix (text : List Char) :
    splitIdentifier? (text ++ ' ' :: '{' :: '#' :: (name ++ ['}'])) =
      some (Text.trimEnd Text.isBlank text, name) := by
  induction text with
  | nil =>
    have here := identifierHere?_gap some_ clean [' '] (List.all_eq_true.mp (by decide))
    exact splitIdentifier?_here here
  | cons c text ih =>
    by_cases blank : ∀ d ∈ c :: text, Text.isBlank d = true
    · have spaces : ∀ d ∈ c :: text ++ [' '], Text.isBlank d = true := by
        intro d m
        obtain m | m := List.mem_append.mp m
        · exact blank d m
        · rw [List.mem_singleton.mp m]
          decide
      have here := identifierHere?_gap some_ clean _ spaces
      rw [List.append_assoc] at here
      have none_ : Text.trimEnd Text.isBlank (c :: text) = [] :=
        List.rdropWhile_eq_nil_iff.mpr blank
      rw [none_]
      exact splitIdentifier?_here here
    · simp only [not_forall, Bool.not_eq_true] at blank
      obtain ⟨d, m, visible⟩ := blank
      have here := identifierHere?_visible ('#' :: (name ++ ['}'])) m visible
      rw [List.cons_append] at here ⊢
      rw [splitIdentifier?_later here, ih, Text.trimEnd_cons_of_mem m visible]
      rfl

omit some_ in
/-- An identifier that is found where another text was printed is this text. -/
theorem splitIdentifier?_mark {text mark before : List Char}
    (h : splitIdentifier? (text ++ ' ' :: '{' :: '#' :: mark) = some (before, name))
    (ends : mark.getLast? = some '}') (short : mark.length ≤ name.length + 1) :
    mark = name ++ ['}'] := by
  obtain ⟨gap, after, whole, blank⟩ := splitIdentifier?_eq_some h
  obtain rfl : after = [] := by
    cases after using List.reverseRecOn with
    | nil => rfl
    | append_singleton after c =>
      obtain ⟨front, rfl⟩ := List.getLast?_eq_some_iff.mp ends
      have last : (text ++ ' ' :: '{' :: '#' :: front) ++ ['}'] =
          (before ++ (gap ++ '{' :: '#' :: (name ++ '}' :: after))) ++ [c] := by simpa using whole
      obtain rfl : '}' = c := by simpa using (List.append_inj' last rfl).2
      cases blank '}' (by simp)
  have parted : (text ++ [' ']) ++ '{' :: '#' :: mark =
      (before ++ gap) ++ '{' :: '#' :: (name ++ ['}']) := by simpa using whole
  obtain ⟨more, -, longer⟩ | ⟨cut, spaced, longer⟩ := List.append_eq_append_iff.mp parted
  · have lengths := congrArg List.length longer
    simp only [List.length_append, List.length_cons, List.length_nil] at lengths
    obtain rfl : more = [] := List.length_eq_zero_iff.mp (by omega)
    simpa using longer
  · by_cases none_ : cut = []
    · subst none_
      simpa using longer.symm
    · -- the cut would end in the space before the mark, but no identifier holds one
      have space : ' ' ∈ cut := by
        have last := congrArg List.getLast? spaced
        rw [List.getLast?_append_of_ne_nil _ none_] at last
        exact List.mem_of_getLast? (by simpa using last.symm)
      have inside : ' ' ∈ '{' :: '#' :: (name ++ ['}']) := by
        rw [longer]
        exact List.mem_append_left _ space
      have named : ' ' ∈ name := by simpa using inside
      cases clean ' ' named

end Suffix

theorem lineNodes_of_ne_nil {text : List Char} (shown : text ≠ []) :
    lineNodes text = [.text (String.ofList text)] := by
  rw [lineNodes, if_neg (by simpa using shown)]

theorem lineNodes_inj {text text' : List Char}
    (h : lineNodes text = [.text (String.ofList text')]) : text = text' := by
  by_cases empty : text = []
  · rw [empty] at h
    cases h
  · rw [lineNodes_of_ne_nil empty] at h
    exact String.ofList_injective (by simpa using h)

theorem takeIdentifier_split {text before name : List Char}
    (h : splitIdentifier? text = some (before, name)) :
    takeIdentifier [.text (String.ofList text)] =
      (lineNodes before, some (String.ofList name)) := by
  rw [← String.toList_ofList (l := text)] at h
  rw [takeIdentifier, h]

theorem takeIdentifier_whole {text : List Char} (h : splitIdentifier? text = none) :
    takeIdentifier [.text (String.ofList text)] = ([.text (String.ofList text)], none) := by
  rw [← String.toList_ofList (l := text)] at h
  rw [takeIdentifier, h]

/-- A text is taken for the whole content if it does not look as if it ended in an identifier. -/
theorem takeIdentifier_plain {text read : List Char} (shown : text ≠ []) :
    takeIdentifier (lineNodes read) = ([.text (String.ofList text)], none) ↔
      read = text ∧ splitIdentifier? text = none := by
  constructor
  · intro h
    by_cases empty : read = []
    · rw [empty] at h
      cases h
    · rw [lineNodes_of_ne_nil empty] at h
      cases split_ : splitIdentifier? read with
      | some found =>
        rw [takeIdentifier_split split_] at h
        exact absurd (Prod.mk.inj h).2 (by simp)
      | none =>
        rw [takeIdentifier_whole split_] at h
        obtain rfl : read = text := String.ofList_injective (by simpa using h)
        exact ⟨rfl, split_⟩
  · rintro ⟨rfl, plain⟩
    rw [lineNodes_of_ne_nil shown, takeIdentifier_whole plain]

/-- An identifier is taken off a text if the mark behind the text is this identifier, and with it
all white space. -/
theorem takeIdentifier_mark {text name mark : List Char} (shown : text ≠ []) (some_ : name ≠ [])
    (clean : ∀ c ∈ name, isNameChar c = true) (ends : mark.getLast? = some '}')
    (short : mark.length ≤ name.length + 1) :
    takeIdentifier (lineNodes (text ++ ' ' :: '{' :: '#' :: mark)) =
        ([.text (String.ofList text)], some (String.ofList name)) ↔
      Text.trimEnd Text.isBlank text = text ∧ mark = name ++ ['}'] := by
  rw [lineNodes_of_ne_nil (by simp)]
  constructor
  · intro h
    cases found : splitIdentifier? (text ++ ' ' :: '{' :: '#' :: mark) with
    | none =>
      rw [takeIdentifier_whole found] at h
      exact absurd (Prod.mk.inj h).2 (by simp)
    | some pair =>
      obtain ⟨before, name'⟩ := pair
      rw [takeIdentifier_split found] at h
      obtain ⟨content, identifier⟩ := Prod.mk.inj h
      obtain rfl : before = text := lineNodes_inj content
      obtain rfl : name' = name := String.ofList_injective (by simpa using identifier)
      obtain rfl := splitIdentifier?_mark clean found ends short
      rw [splitIdentifier?_suffix some_ clean] at found
      exact ⟨by simpa using found, rfl⟩
  · rintro ⟨solid, rfl⟩
    rw [takeIdentifier_split (splitIdentifier?_suffix some_ clean text), solid,
      lineNodes_of_ne_nil shown]

end Token

end MarkdownCanon
