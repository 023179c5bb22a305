import MarkdownCanon.Proofs.LiteralText
import MarkdownCanon.Proofs.PrintedTree
import Mathlib.Data.List.Chain

/-! Spaces in inline content. Text brings single ones, breaks bring one, and neither brings one
behind another. Nothing else has a space to bring, so that no two ever stand side by side. -/

namespace MarkdownCanon

namespace Text

/-- No two spaces side by side. -/
def Single (cs : List Char) : Prop := cs.IsChain fun a b => ¬ (a = ' ' ∧ b = ' ')

namespace Single

variable {a b cs : List Char}

theorem not_infix (h : Single cs) : ¬ [' ', ' '] <:+: cs := by
  intro double
  have pair := List.IsChain.infix h double
  simp at pair

theorem append (ha : Single a) (hb : Single b)
    (meet : a.getLast? = some ' ' → b.head? ≠ some ' ') : Single (a ++ b) := by
  refine List.isChain_append.mpr ⟨ha, hb, fun x last y first both => ?_⟩
  obtain ⟨rfl, rfl⟩ := both
  exact meet last first

theorem of_notMem (free : ' ' ∉ cs) : Single cs := by
  induction cs with
  | nil => exact .nil
  | cons c cs ih =>
    refine List.isChain_cons.mpr ⟨fun d _ both => ?_, ih fun m => free (List.mem_cons_of_mem c m)⟩
    exact free (both.1 ▸ List.mem_cons_self)

theorem append_notMem (ha : Single a) (free : ' ' ∉ b) : Single (a ++ b) :=
  ha.append (of_notMem free) fun _ first => free (List.mem_of_head? first)

end Single

theorem collapseRuns_single (inRun : Bool) (cs : List Char) :
    Single (collapseRuns isSpacing ' ' inRun cs) ∧
      (inRun = true → (collapseRuns isSpacing ' ' inRun cs).head? ≠ some ' ') := by
  induction cs generalizing inRun with
  | nil => exact ⟨.nil, by simp [collapseRuns]⟩
  | cons c cs ih =>
    rw [collapseRuns]
    cases spacing : isSpacing c with
    | true =>
      obtain ⟨single, other⟩ := ih true
      cases inRun with
      | true => exact ⟨single, other⟩
      | false =>
        refine ⟨List.isChain_cons.mpr ⟨fun d first both => ?_, single⟩, by simp⟩
        exact other rfl (both.2 ▸ first)
    | false =>
      have solid : c ≠ ' ' := by
        rintro rfl
        cases spacing
      exact ⟨List.isChain_cons.mpr ⟨fun _ _ both => solid both.1, (ih false).1⟩, by simp [solid]⟩

end Text

namespace Markup

/-- Whether a text ends in a backslash that escapes what follows. -/
def escaping (cs : List Char) : Bool := cs.foldl (fun escapes c => c == '\\' && !escapes) false

theorem escaping_concat (cs : List Char) (c : Char) :
    escaping (cs ++ [c]) = (c == '\\' && !escaping cs) := by
  simp [escaping]

theorem escaping_append {a b : List Char} (ha : escaping a = false)
    (last : b.getLast? ≠ some '\\') : escaping (a ++ b) = false := by
  cases b using List.reverseRecOn with
  | nil => simpa using ha
  | append_singleton b c =>
    have other : c ≠ '\\' := by simpa using last
    rw [← List.append_assoc, escaping_concat]
    simp [other]

theorem Escaped.escaping_append {out text : List Char} (h : Escaped out text) {a : List Char}
    (ha : escaping a = false) : escaping (a ++ out) = false := by
  induction h generalizing a with
  | nil => simpa using ha
  | @plain c out _ other _ ih =>
    have step : escaping (a ++ [c]) = false := by simp [escaping_concat, other]
    simpa using ih step
  | @guarded c out _ _ _ ih =>
    have step : escaping (a ++ ['\\'] ++ [c]) = false := by
      rw [escaping_concat, escaping_concat, ha]
      simp
    simpa using ih step

theorem Escaped.single {out text : List Char} (h : Escaped out text) (single : Text.Single text) :
    Text.Single out ∧ (out.head? = some ' ' → text.head? = some ' ') := by
  induction h with
  | nil => exact ⟨.nil, by simp⟩
  | plain other rest ih =>
    obtain ⟨meet, inner⟩ := List.isChain_cons.mp single
    obtain ⟨single', head⟩ := ih inner
    refine ⟨List.isChain_cons.mpr ⟨fun d first both => ?_, single'⟩, fun same => same⟩
    exact meet ' ' (head (both.2 ▸ first)) ⟨both.1, rfl⟩
  | @guarded c _ _ punctuation rest ih =>
    obtain ⟨single', -⟩ := ih (List.isChain_cons.mp single).2
    have solid : c ≠ ' ' := by
      rintro rfl
      cases punctuation
    refine ⟨List.isChain_cons.mpr ⟨fun _ _ both => ?_, ?_⟩, by simp⟩
    · cases both.1
    · exact List.isChain_cons.mpr ⟨fun _ _ both => solid both.1, single'⟩

theorem linkTail_single {url text : List Char} (hu : ' ' ∉ url) (ht : ' ' ∉ text) :
    Text.Single (linkTail url text) := by
  have escaped {p : Char → Bool} {cs : List Char} (free : ' ' ∉ cs) : ' ' ∉ backslashBefore p cs :=
    fun m => (mem_backslashBefore m).elim (by decide) free
  have front : ' ' ∉ "](".toList ++ destination url := by
    unfold destination
    split
    · simp [escaped hu]
    · simp [hu]
  have quoted : ' ' ∉ title text ++ [')'] := by simp [title, escaped ht]
  rw [linkTail, List.append_assoc]
  refine .append (.of_notMem front) ?_ fun last => absurd (List.mem_of_getLast? last) front
  split
  · exact .of_notMem (by simp)
  · refine List.isChain_cons.mpr ⟨fun d first both => ?_, Text.Single.of_notMem quoted⟩
    exact quoted (List.mem_of_head? (both.2 ▸ first))

/-- A text without two spaces side by side that does not end in a backslash which escapes. -/
structure Neat (cs : List Char) : Prop where
  single : Text.Single cs
  closed : escaping cs = false

theorem isDelimiter_ne {c : Char} (h : isDelimiter c = true) : c ≠ ' ' ∧ c ≠ '\\' := by
  constructor <;> (rintro rfl; cases h)

theorem Neat.append_delimiters {a b : List Char} (h : Neat a)
    (delimiters : ∀ c ∈ b, isDelimiter c = true) : Neat (a ++ b) where
  single := h.single.append_notMem fun m => (isDelimiter_ne (delimiters _ m)).1 rfl
  closed := escaping_append h.closed fun last =>
    (isDelimiter_ne (delimiters _ (List.mem_of_getLast? last))).2 rfl

theorem Neat.append_linkTail {a url text : List Char} (h : Neat a) (hu : ' ' ∉ url)
    (ht : ' ' ∉ text) : Neat (a ++ linkTail url text) where
  single := h.single.append (linkTail_single hu ht) (by simp [linkTail])
  closed := by
    refine escaping_append h.closed ?_
    rw [linkTail, List.getLast?_concat]
    decide

end Markup

namespace Render

theorem spacedText_single (content : String) (w : Writer) :
    Text.Single (spacedText content w) ∧
      (w.last = some ' ' → w.pending = [] → (spacedText content w).head? ≠ some ' ') := by
  have single := (Text.collapseRuns_single false content.toList).1
  unfold spacedText
  split
  · rename_i rest cleaned
    rw [Text.collapse] at cleaned
    rw [cleaned] at single
    obtain ⟨meet, inner⟩ := List.isChain_cons.mp single
    split
    · exact ⟨inner, fun _ _ first => meet ' ' first ⟨rfl, rfl⟩⟩
    · rename_i kept
      refine ⟨single, fun last clear => absurd ?_ kept⟩
      simp [last, Writer.committed, clear]
  · rename_i other
    refine ⟨single, fun _ _ first => ?_⟩
    obtain ⟨rest, cleaned⟩ := List.head?_eq_some_iff.mp first
    exact other rest cleaned

theorem literalText_single (place : Markup.Place) (tail : List Char) {cs : List Char}
    (next : Option Node) (single : Text.Single cs) :
    Text.Single (literalText place tail cs next) ∧
      ((literalText place tail cs next).head? = some ' ' → cs.head? = some ' ') := by
  obtain ⟨out, head⟩ := (Markup.escape_escaped place tail cs).single single
  obtain same | ⟨front, escaped, guarded⟩ := literalText_cases place tail cs next
  · rw [same]
    exact ⟨out, head⟩
  · rw [escaped] at out head
    rw [guarded]
    have front_ : Text.Single front := (List.isChain_append.mp out).1
    refine ⟨front_.append_notMem (by decide), fun first => head ?_⟩
    cases front with
    | nil => cases first
    | cons c front => exact first

theorem escaping_literalText (place : Markup.Place) (tail cs : List Char) (next : Option Node)
    {a : List Char} (ha : Markup.escaping a = false) :
    Markup.escaping (a ++ literalText place tail cs next) = false := by
  obtain same | ⟨front, -, guarded⟩ := literalText_cases place tail cs next
  · rw [same]
    exact (Markup.escape_escaped place tail cs).escaping_append ha
  · rw [guarded]
    exact Markup.escaping_append ha (by simp)

theorem softBreak_text (settings : RendererSettings) (oneLine : Bool) (last : Option Char) :
    breakText settings oneLine true last = ['\n'] ∨
      breakText settings oneLine true last = if last = some ' ' then [] else [' '] := by
  unfold breakText
  split
  · exact .inl rfl
  · exact .inr (by simp)

end Render

namespace Node

/-- Text, spans, soft breaks, and links and images with no space in their destination or title. -/
def isWording : Node → Bool
  | text _ | emphasis _ | strong _ | strikethrough _ => true
  | lineBreak soft => soft
  | link url _ title | image url _ title =>
    !(url.getD "").toList.contains ' ' && !(title.getD "").toList.contains ' '
  | _ => false

theorem isSolid_of_isWording (n : Node) (wording : n.isWording = true) : n.isSolid = true := by
  cases n with
  | _ => first | rfl | cases wording

end Node

namespace Spot

open Markup

/-- A place whose text is neat and that has nothing but delimiters staged. -/
structure Tidy (spot : Spot) : Prop where
  front : Neat spot.front
  staged : ∀ c ∈ spot.staged, isDelimiter c = true

variable {spot : Spot}

theorem Tidy.last (h : spot.Tidy) (space : spot.front.getLast? = some ' ') :
    spot.written.getLast? = some ' ' ∧ spot.staged = [] := by
  cases last : spot.staged.getLast? with
  | none =>
    have none_ := List.getLast?_eq_none_iff.mp last
    exact ⟨by simpa [Spot.front, none_] using space, none_⟩
  | some c =>
    rw [Spot.front, List.getLast?_append, last] at space
    have solid := (isDelimiter_ne (h.staged c (List.mem_of_getLast? last))).1
    exact absurd (by simpa using space) solid

theorem Tidy.append_break (h : spot.Tidy) {text : List Char}
    (break_ : text = ['\n'] ∨ text = if spot.written.getLast? = some ' ' then [] else [' ']) :
    Neat (spot.front ++ text) := by
  obtain rfl | rfl := break_
  · exact ⟨h.front.single.append_notMem (by decide), escaping_append h.front.closed (by decide)⟩
  · split
    · simpa using h.front
    · rename_i other
      refine ⟨h.front.single.append (.singleton _) fun space => absurd (h.last space).1 other, ?_⟩
      exact escaping_append h.front.closed (by decide)

theorem Tidy.opened (h : spot.Tidy) {opening : List Char}
    (delimiters : ∀ c ∈ opening, isDelimiter c = true) : (spot.opened opening).Tidy where
  front := by
    rw [front_opened]
    exact h.front.append_delimiters delimiters
  staged c m := (List.mem_append.mp m).elim (h.staged c) (delimiters c)

theorem Tidy.past (h : spot.Tidy) {text : List Char} (neat : Neat (spot.front ++ text)) :
    (spot.past text).Tidy where
  front := by rwa [front_past]
  staged c m := h.staged c (spot.staged_past text m)

end Spot

namespace Printed

variable {settings : RendererSettings} {cell heading : Bool} {spot : Spot} {next : Option Node}

open Markup

/-- Text and breaks leave out a space where one stands already. -/
theorem Brings.neat_opening {n : Node} {opening closing : List Char}
    (brings : Brings settings cell heading spot next n opening closing)
    (wording : n.isWording = true) (leaf : n.encloses = false) (tidy : spot.Tidy) :
    closing = [] ∧ Neat (spot.front ++ opening) := by
  cases n with
  | text content =>
    obtain ⟨rfl, start, tail, rfl⟩ := brings
    obtain ⟨single, drops⟩ := Render.spacedText_single content
      { last := spot.written.getLast?, pending := spot.staged }
    obtain ⟨single', head⟩ := Render.literalText_single ⟨start, cell⟩ tail next single
    refine ⟨rfl, tidy.front.single.append single' fun space first => ?_, ?_⟩
    · obtain ⟨last, clear⟩ := tidy.last space
      exact drops last clear (head first)
    · exact Render.escaping_literalText _ _ _ _ tidy.front.closed
  | lineBreak soft =>
    obtain ⟨rfl, rfl⟩ := brings
    obtain rfl : soft = true := wording
    refine ⟨rfl, tidy.append_break ?_⟩
    exact Render.softBreak_text settings (heading || cell) spot.written.getLast?
  | emphasis _ | strong _ | strikethrough _ | link _ _ _ | image _ _ _ => cases leaf
  | _ => cases wording

/-- What closes a node brings no space beside another one. -/
theorem Brings.neat_closing {n : Node} {opening closing : List Char}
    (brings : Brings settings cell heading spot next n opening closing)
    (wording : n.isWording = true) (encloses : n.encloses = true) {a : List Char} (neat : Neat a) :
    Neat (a ++ closing) := by
  cases span : n.isSpan with
  | true =>
    have delimiters := brings.delimiters encloses
    obtain ⟨-, rfl⟩ := (brings_span span).mp brings
    exact neat.append_delimiters delimiters
  | false =>
    cases n with
    | link url _ title | image url _ title =>
      obtain ⟨-, rfl⟩ := brings
      have free : ' ' ∉ (url.getD "").toList ∧ ' ' ∉ (title.getD "").toList := by
        simpa [Node.isWording] using wording
      exact neat.append_linkTail free.1 free.2
    | emphasis _ | strong _ | strikethrough _ => cases span
    | _ => cases encloses

variable (settings cell heading) in
/-- What holds at a node: the text before it is neat, and a soft break that is to be kept is a line
end. -/
def NeatAt (front : List Char) (p : Printed) (_ : List Char) : Prop :=
  Neat front ∧ (p.node = .lineBreak true → settings.softWraps = .preserve →
    (heading || cell) = false → p.text = ['\n'])

theorem Faithful.neatAt {p : Printed} (faithful : Faithful settings cell heading spot next p)
    (tidy : spot.Tidy) (back : List Char) : NeatAt settings cell heading spot.front p back := by
  refine ⟨tidy.front, fun break_ wraps lines => ?_⟩
  obtain ⟨n, opening, inside, closing⟩ := p
  obtain rfl : n = .lineBreak true := break_
  obtain ⟨⟨rfl, rfl⟩, nodes, -⟩ := faithful
  obtain rfl : inside = [] := List.map_eq_nil_iff.mp nodes
  simp [Printed.text, textOf, Render.breakText, wraps, lines]

mutual

theorem neat_text : (p : Printed) → {spot : Spot} → {next : Option Node} → {back : List Char} →
    Faithful settings cell heading spot next p → p.node.every Node.isWording = true →
    spot.Tidy →
    Neat (spot.front ++ p.text) ∧
      Everywhere (NeatAt settings cell heading) spot.front p back
  | mk n opening inside closing, spot, next, back, ⟨brings, nodes, faithful⟩, wording, tidy => by
    have wording' : n.isWording = true := Node.every_self wording
    have here : NeatAt settings cell heading spot.front (mk n opening inside closing) back :=
      Faithful.neatAt (p := mk n opening inside closing) ⟨brings, nodes, faithful⟩ tidy back
    -- By the tree. What a node with content opens is staged, so that its first text still sees the
    -- space that was written before it; only then it may bring another, behind the delimiter.
    cases encloses : n.encloses with
    | false =>
      obtain ⟨rfl, neat⟩ := brings.neat_opening wording' encloses tidy
      have childless : n.children = [] := by
        by_contra parent
        rw [Node.encloses_of_isSolid (Node.isSolid_of_isWording n wording') parent] at encloses
        cases encloses
      rw [childless] at nodes
      obtain rfl : inside = [] := List.map_eq_nil_iff.mp nodes
      exact ⟨by simpa [Printed.text, textOf] using neat, here, trivial⟩
    | true =>
      obtain ⟨neat, everywhere⟩ := neat_textOf inside faithful
        (nodes ▸ Node.everyOf_below wording) (tidy.opened (brings.delimiters encloses))
      rw [Spot.front_opened] at neat everywhere
      refine ⟨?_, here, everywhere⟩
      simpa [Printed.text] using brings.neat_closing wording' encloses neat

theorem neat_textOf : (pieces : List Printed) → {spot : Spot} → {back : List Char} →
    FaithfulAll settings cell heading spot pieces →
    Node.everyOf Node.isWording (pieces.map node) = true → spot.Tidy →
    Neat (spot.front ++ textOf pieces) ∧
      EverywhereOf (NeatAt settings cell heading) spot.front pieces back
  | [], spot, _, _, _, tidy => ⟨by simpa [textOf] using tidy.front, trivial⟩
  | p :: rest, spot, back, faithful, wording, tidy => by
    rw [List.map_cons, Node.everyOf, Bool.and_eq_true] at wording
    obtain ⟨neat, everywhere⟩ := neat_text p faithful.1 wording.1 tidy
    obtain ⟨neat', everywhere'⟩ := neat_textOf rest faithful.2 wording.2 (tidy.past neat)
    rw [Spot.front_past] at neat' everywhere'
    rw [textOf, ← List.append_assoc]
    exact ⟨neat', everywhere, everywhere'⟩

end

end Printed

/-- **Spaces never double.** Text, spans, soft breaks, and links and images without a space in their
destination and title are printed without two spaces side by side, whatever the settings and the
flags. In particular, no break among them is made a hard one by what stands before it, be it two
spaces or a backslash. Where soft breaks are kept, each of them is a line end and nothing else. -/
theorem RendererSettings.renderInlines_single_spaces (settings : RendererSettings)
    (flags : ScratchFlags) {content : List Node}
    (wording : Node.everyOf Node.isWording content = true) :
    ∃ out pieces, (settings.renderInlines flags content).1 = .ok out ∧
      ¬ [' ', ' '] <:+: out.toList ∧
      out.toList = Printed.textOf pieces ∧ pieces.map Printed.node = content ∧
      Printed.FaithfulAll settings (flags.inTableCell.getD false) (flags.inHeading.getD false)
        ⟨[], []⟩ pieces ∧
      Printed.EverywhereOf (fun front p back => out.toList = front ++ (p.text ++ back) ∧
        (p.node = .lineBreak true →
          ¬ [' ', ' '] <:+ front ∧ Markup.escaping front = false ∧
          (settings.softWraps = .preserve → flags.inHeading ≠ some true →
            flags.inTableCell ≠ some true → p.text = ['\n']))) [] pieces [] := by
  obtain ⟨out, pieces, run, text, rfl, faithful⟩ := settings.renderInlines_printed flags
    (Node.everyOf_mono Node.isSolid_of_isWording content wording)
  have start : Spot.Tidy ⟨[], []⟩ := ⟨⟨.nil, rfl⟩, by simp⟩
  obtain ⟨neat, everywhere⟩ := Printed.neat_textOf pieces faithful wording start
  rw [Spot.front, List.append_nil, List.nil_append] at neat
  refine ⟨out, pieces, run, text ▸ neat.single.not_infix, text, rfl, faithful, ?_⟩
  have whole : out.toList = [] ++ (Printed.textOf pieces ++ []) := by simpa using text
  have places := Printed.everywhereOf_text pieces whole
  refine places.join (fun front p back place neatAt => ⟨place, fun break_ => ?_⟩) everywhere
  obtain ⟨front_, kept⟩ := neatAt
  refine ⟨fun spaces => front_.single.not_infix spaces.isInfix, front_.closed, ?_⟩
  intro wraps noHeading noCell
  refine kept break_ wraps ?_
  have off {flag : Option Bool} (other : flag ≠ some true) : flag.getD false = false := by
    cases flag with
    | none => rfl
    | some b => cases b <;> simp_all
  rw [off noHeading, off noCell, Bool.or_false]

/-- Spaces on both sides of a delimiter and of a break, and a backslash before a break. -/
theorem RendererSettings.renderInlines_single_spaces_nested :
    let settings : RendererSettings := { softWraps := .preserve }
    let content : List Node := [.text "a ", .emphasis [.text " b  c ", .lineBreak true, .text " d"],
      .text " e\\", .lineBreak true, .link (some "u") [.text "f "] (some "t"), .text " "]
    ∃ out, (settings.renderInlines {} content).1 = .ok out ∧
      out = "a * b c \nd* e\\\\\n[f ](u \"t\") " ∧ ¬ [' ', ' '] <:+: out.toList := by
  intro settings content
  have wording : Node.everyOf Node.isWording content = true := by decide
  have printed : (settings.renderInlines {} content).1 =
      .ok "a * b c \nd* e\\\\\n[f ](u \"t\") " := by decide +kernel
  obtain ⟨out, pieces, run, single, -⟩ := settings.renderInlines_single_spaces {} wording
  exact ⟨out, run, Except.ok.inj (run.symm.trans printed), single⟩

end MarkdownCanon
