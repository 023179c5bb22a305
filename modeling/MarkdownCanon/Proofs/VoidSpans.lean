import MarkdownCanon.Proofs.Delimiters
import MarkdownCanon.Proofs.LiteralText

/-! Spans without content. A node that prints nothing leaves the state of printing as it found it,
raw HTML apart, which still ends the start of a line; but it stands between its neighbours, which
then do not see each other. Where none of this matters, content prints as it does without such
nodes. -/

namespace MarkdownCanon

namespace Node

mutual

/-- Whether an inline node has no content at all. -/
def isVoid : Node → Bool
  | text content | code content | htmlInline content => content.isEmpty
  | emphasis content | strong content | strikethrough content => allVoid content
  | _ => false

def allVoid : List Node → Bool
  | [] => true
  | node :: rest => isVoid node && allVoid rest

end

mutual

/-- An inline node without the void nodes in it. -/
def pruned : Node → Node
  | emphasis content => emphasis (prune content)
  | strong content => strong (prune content)
  | strikethrough content => strikethrough (prune content)
  | link url content title => link url (prune content) title
  | image url content title => image url (prune content) title
  | node => node

/-- Inline content without void nodes at any depth. -/
def prune : List Node → List Node
  | [] => []
  | node :: rest => if isVoid node then prune rest else pruned node :: prune rest

end

theorem pruned_of_childless {n : Node} (h : n.children = []) : n.pruned = n := by
  cases n with
  | emphasis content | strong content | strikethrough content =>
    obtain rfl : content = [] := h
    rfl
  | link url content title | image url content title =>
    obtain rfl : content = [] := h
    rfl
  | _ => rfl

/-- Whether a node is printed in the same way wherever it stands in a line. -/
def startsAfresh : Node → Bool
  | code content | htmlInline content => !content.isEmpty
  | emphasis content | strong content | strikethrough content => !allBlankInline content
  | link .. | image .. | autolink .. => true
  | _ => false

/-- Whether a node is printed differently because of the one that follows it. -/
def minds (settings : RendererSettings) (next : Option Node) : Node → Bool
  | text content => (Text.collapse content.toList).getLast? == some '!' && next.any isLink
  | emphasis content =>
    !allBlankInline content && settings.emphasisToken.contains '_' && next.any startsAlphanumeric
  | strong content =>
    !allBlankInline content && settings.strongToken.contains '_' && next.any startsAlphanumeric
  | _ => false

/-- Whether a node and the content behind it go together as they do when pruned. A void node that is
not blank holds raw HTML, and needs a node behind it that starts afresh. -/
def meets (settings : RendererSettings) (rest : List Node) (node : Node) : Bool :=
  if node.isVoid then node.isBlankInline || (prune rest).head?.any startsAfresh
  else node.minds settings rest.head? == node.minds settings (prune rest).head?

mutual

/-- Whether void nodes keep no neighbours apart in a node. -/
def joined (settings : RendererSettings) : Node → Bool
  | emphasis content | strong content | strikethrough content => allJoined settings content
  | link _ content _ | image _ content _ => allJoined settings content
  | _ => true

def allJoined (settings : RendererSettings) : List Node → Bool
  | [] => true
  | node :: rest =>
    node.meets settings rest && (isVoid node || joined settings node) && allJoined settings rest

end

theorem isBlankInline_of_startsAfresh {n : Node} (h : n.startsAfresh = true) :
    n.isBlankInline = false := by
  cases n with
  | code _ | emphasis _ | strong _ | strikethrough _ => simpa [startsAfresh, isBlankInline] using h
  | htmlInline _ | link _ _ _ | image _ _ _ | autolink _ _ => rfl
  | _ => cases h

theorem allBlankInline_of_head {content : List Node}
    (h : content.head?.any startsAfresh = true) : allBlankInline content = false := by
  cases content with
  | nil => cases h
  | cons n rest =>
    rw [allBlankInline, isBlankInline_of_startsAfresh (by simpa using h), Bool.false_and]

variable {settings : RendererSettings}

mutual

/-- Void nodes are not what makes content blank or not. -/
theorem isBlankInline_pruned : (n : Node) → n.joined settings = true →
    n.pruned.isBlankInline = n.isBlankInline
  | emphasis content, h => by
    rw [pruned, isBlankInline, isBlankInline, allBlankInline_prune content h]
  | strong content, h => by
    rw [pruned, isBlankInline, isBlankInline, allBlankInline_prune content h]
  | strikethrough content, h => by
    rw [pruned, isBlankInline, isBlankInline, allBlankInline_prune content h]
  | link .., _ | image .., _ | text _, _ | code _, _ | autolink .., _ | htmlInline _, _ => rfl
  | lineBreak _, _ | document _, _ | heading .., _ | paragraph _, _ | codeBlock _, _ => rfl
  | blockQuote _, _ | list .., _ | listItem .., _ | table .., _ | tableRow .., _ => rfl
  | tableCell .., _ | thematicBreak, _ | htmlBlock .., _ | textless _, _ | foreign _, _ => rfl
  | missing, _ => rfl

theorem allBlankInline_prune : (content : List Node) → allJoined settings content = true →
    allBlankInline (prune content) = allBlankInline content
  | [], _ => by rw [prune]
  | n :: rest, h => by
    simp only [allJoined, Bool.and_eq_true] at h
    obtain ⟨⟨here, inside⟩, later⟩ := h
    have ih := allBlankInline_prune rest later
    unfold meets at here
    rw [prune]
    by_cases void : n.isVoid = true
    · rw [if_pos void] at here ⊢
      rw [ih, allBlankInline]
      cases blank : n.isBlankInline with
      | true => simp
      | false =>
        have afresh : (prune rest).head?.any startsAfresh = true := by simpa [blank] using here
        rw [← ih, allBlankInline_of_head afresh, Bool.false_and]
    · have joined_ : n.joined settings = true := by simpa [void] using inside
      rw [if_neg void, allBlankInline, allBlankInline, ih, isBlankInline_pruned n joined_]

end

end Node

/-- States that differ in what follows and, unless `same`, in how far the line has come. -/
def RenderState.Near (same : Prop) (s s' : RenderState) : Prop :=
  ∃ next start tail, s' = { s with nextInline := next, atLineStart := start, normalTail := tail } ∧
    (same → start = s.atLineStart ∧ tail = s.normalTail)

namespace RenderState.Near

variable {p q : Prop} {s t u : RenderState}

theorem refl (s : RenderState) : s.Near p s := ⟨_, _, _, rfl, fun _ => ⟨rfl, rfl⟩⟩

theorem mono (h : s.Near p t) (imp : q → p) : s.Near q t := by
  obtain ⟨next, start, tail, rfl, line⟩ := h
  exact ⟨next, start, tail, rfl, fun hq => line (imp hq)⟩

theorem symm (h : s.Near p t) : t.Near p s := by
  obtain ⟨next, start, tail, rfl, line⟩ := h
  refine ⟨s.nextInline, s.atLineStart, s.normalTail, rfl, fun hp => ?_⟩
  exact ⟨(line hp).1.symm, (line hp).2.symm⟩

theorem trans (h : s.Near p t) (h' : t.Near p u) : s.Near p u := by
  obtain ⟨next, start, tail, rfl, line⟩ := h
  obtain ⟨next', start', tail', rfl, line'⟩ := h'
  refine ⟨next', start', tail', rfl, fun hp => ?_⟩
  exact ⟨(line' hp).1.trans (line hp).1, (line' hp).2.trans (line hp).2⟩

theorem next (s : RenderState) (node : Option Node) : s.Near p { s with nextInline := node } :=
  ⟨node, _, _, rfl, fun _ => ⟨rfl, rfl⟩⟩

/-- Past the start of the line, states are the same. -/
theorem leaveLineStart (h : s.Near p t) :
    RenderState.Near q { s with atLineStart := false, normalTail := [] }
      { t with atLineStart := false, normalTail := [] } := by
  obtain ⟨next, start, tail, rfl, -⟩ := h
  exact ⟨next, false, [], rfl, fun _ => ⟨rfl, rfl⟩⟩

theorem stage (h : s.Near p t) (token : List Char) :
    RenderState.Near p { s with writer := s.writer.stage token }
      { t with writer := t.writer.stage token } := by
  obtain ⟨next, start, tail, rfl, line⟩ := h
  exact ⟨next, start, tail, rfl, line⟩

end RenderState.Near

namespace Render

variable {settings : RendererSettings}

/-- A delimiter that nothing has followed is taken back. -/
theorem closeSpan_staged {token : List Char} (some_ : token ≠ []) {w : Writer} {s : RenderState}
    (staged : s.writer = w.stage token) : closeSpan token s = .ok () { s with writer := w } := by
  have pending : ¬ (w.stage token).committed = true := by
    simp [Writer.committed, Writer.stage, some_]
  have discard : (w.stage token).discard token = .ok w := by
    simp [Writer.discard, Writer.stage]
  unfold closeSpan
  rw [get_bind, staged, if_neg pending, get_bind, staged, discard]
  rfl

/-- A step that prints nothing. -/
def Vanishes (blank : Bool) (x : Render Unit) : Prop :=
  ∀ s, ∃ t, x s = .ok () t ∧ s.Near (blank = true) t

/-- So does a span around it, whether or not it stages its delimiter. -/
theorem Vanishes.span {blank : Bool} {x : Render Unit} (hx : Vanishes blank x) {token : List Char}
    (some_ : token ≠ []) : Vanishes blank (span token blank x) := by
  intro s
  unfold Render.span
  cases blank with
  | true => exact hx s
  | false =>
    rw [if_neg (by simp), get_bind, leaveLineStart_bind, stage_bind]
    obtain ⟨t, run, near⟩ := hx _
    rw [bind_of_ok run]
    obtain ⟨next, start, tail, rfl, -⟩ := near
    rw [closeSpan_staged (delimiterFor_ne_nil some_ _ _) rfl]
    exact ⟨_, rfl, next, start, tail, rfl, by simp⟩

section

variable (settings : RendererSettings)

mutual

theorem node_vanishes : (n : Node) → n.isVoid = true → Vanishes n.isBlankInline (node settings n)
  | .text content, void => by
    intro s
    obtain rfl : content = "" := by simpa [Node.isVoid] using void
    have nothing : spacedText "" s.writer = [] := rfl
    rw [node, text_run, nothing]
    exact ⟨s, rfl, .refl s⟩
  | .code content, void => by
    intro s
    rw [node, code_run, if_pos (by simpa [Node.isVoid] using void)]
    exact ⟨s, rfl, .refl s⟩
  | .htmlInline content, void => by
    intro s
    obtain rfl : content = "" := by simpa [Node.isVoid] using void
    rw [node]
    exact ⟨_, rfl, s.nextInline, false, [], rfl, by simp [Node.isBlankInline]⟩
  | .emphasis content, void => by
    rw [node]
    exact (inlines_vanishes content void).span (by simp [RendererSettings.emphasisToken])
  | .strong content, void => by
    rw [node]
    exact (inlines_vanishes content void).span (by simp [RendererSettings.strongToken])
  | .strikethrough content, void => by
    rw [node]
    exact (inlines_vanishes content void).span (by simp)

theorem inlines_vanishes : (content : List Node) → Node.allVoid content = true →
    Vanishes (Node.allBlankInline content) (inlines settings content)
  | [], _ => fun s => by
    rw [inlines]
    exact ⟨s, rfl, .refl s⟩
  | n :: rest, void => fun s => by
    rw [Node.allVoid, Bool.and_eq_true] at void
    obtain ⟨t, run, near⟩ := node_vanishes n void.1 { s with nextInline := rest.head? }
    obtain ⟨u, run', near'⟩ := inlines_vanishes rest void.2 t
    rw [inlines, modify_bind, bind_of_ok run, run', Node.allBlankInline]
    refine ⟨u, rfl, (RenderState.Near.next s _).trans (.trans (near.mono ?_) (near'.mono ?_))⟩
    · simp +contextual
    · simp +contextual

end

end

/-- Two runs that end alike, in states that differ at most in what follows. -/
inductive Concur : EStateM.Result RenderFailure RenderState Unit →
    EStateM.Result RenderFailure RenderState Unit → Prop
  | done {t t' : RenderState} (near : t.Near True t') : Concur (.ok () t) (.ok () t')
  | failed (e : RenderFailure) {t t' : RenderState} (near : t.Near True t') :
    Concur (.error e t) (.error e t')

theorem spacedText_getLast? {content : String} {w : Writer} (shown : spacedText content w ≠ []) :
    (spacedText content w).getLast? = (Text.collapse content.toList).getLast? := by
  unfold spacedText at shown ⊢
  split at shown
  · rename_i rest cleaned
    rw [cleaned]
    split at shown
    · rename_i dropped
      rw [if_pos dropped, List.getLast?_cons_of_ne_nil shown]
    · rename_i kept
      rw [if_neg kept]
  · rfl

/-- A text sees no more of what follows it than whether this is a link, and does so only if it ends
in an exclamation mark. -/
theorem literalText_sight {content : String} {w : Writer} (shown : spacedText content w ≠ [])
    {next next' : Option Node} (sight : (Node.text content).minds settings next =
      (Node.text content).minds settings next') (place : Markup.Place) (tail : List Char) :
    literalText place tail (spacedText content w) next =
      literalText place tail (spacedText content w) next' := by
  rw [Node.minds, Node.minds, ← spacedText_getLast? shown,
    ← (Markup.escape_escaped place tail (spacedText content w)).getLast?] at sight
  unfold literalText guardBang
  rw [sight]

/-- A delimiter is chosen with no more regard to what follows than whether this starts a word, and
to that only if it holds an underscore. -/
theorem delimiterFor_sight {token : List Char} {next next' : Option Node}
    (sight : (token.contains '_' && next.any Node.startsAlphanumeric) =
      (token.contains '_' && next'.any Node.startsAlphanumeric)) (before : Option Char) :
    delimiterFor token before next = delimiterFor token before next' := by
  unfold delimiterFor
  cases underscore : token.contains '_' with
  | true =>
    rw [underscore, Bool.true_and, Bool.true_and] at sight
    rw [sight]
  | false =>
    have none_ : (token.map fun c => if c == '_' then '*' else c) = token := by
      refine (List.map_congr_left fun c m => ?_).trans (List.map_id token)
      have other : c ≠ '_' := by
        rintro rfl
        simp [m] at underscore
      simp [other]
    rw [none_, ite_self, ite_self]

namespace Concur

variable {x x' : Render Unit} {s s' : RenderState} {p : Prop}

theorem bind {f f' : Unit → Render Unit} (hx : Concur (x s) (x' s'))
    (hf : ∀ ⦃t t' : RenderState⦄, t.Near True t' → Concur (f () t) (f' () t')) :
    Concur ((x >>= f) s) ((x' >>= f') s') := by
  generalize run : x s = r at hx
  generalize run' : x' s' = r' at hx
  cases hx with
  | done near =>
    rw [bind_of_ok run, bind_of_ok run']
    exact hf near
  | failed e near =>
    rw [bind_of_error run, bind_of_error run']
    exact .failed e near

theorem write (h : s.Near True s') (text : List Char) :
    Concur (Render.write text s) (Render.write text s') := by
  obtain ⟨next, start, tail, rfl, line⟩ := h
  exact .done ⟨next, start, tail, rfl, line⟩

theorem verbatim (h : s.Near p s') (content : List Char) :
    Concur (verbatim content s) (verbatim content s') :=
  write h.leaveLineStart content

theorem text {content : String} (h : s.Near True s')
    (sight : (Node.text content).minds settings s.nextInline =
      (Node.text content).minds settings s'.nextInline) :
    Concur (text content s) (text content s') := by
  obtain ⟨next, start, tail, rfl, line⟩ := h
  obtain ⟨rfl, rfl⟩ := line trivial
  rw [text_run, text_run]
  dsimp only
  by_cases empty : (spacedText content s.writer).isEmpty = true
  · rw [if_pos empty, if_pos empty]
    exact .done ⟨next, s.atLineStart, s.normalTail, rfl, fun _ => ⟨rfl, rfl⟩⟩
  · rw [if_neg empty, if_neg empty, literalText_sight (by simpa using empty) sight]
    exact .done (.next _ next)

theorem code {content : String} (h : s.Near (content.isEmpty = true) s') :
    Concur (code content s) (code content s') := by
  obtain ⟨next, start, tail, rfl, line⟩ := h
  rw [code_run, code_run]
  by_cases empty : content.isEmpty = true
  · rw [if_pos empty, if_pos empty]
    exact .done ⟨next, start, tail, rfl, fun _ => line empty⟩
  · rw [if_neg empty, if_neg empty]
    exact .done ⟨next, false, [], rfl, fun _ => ⟨rfl, rfl⟩⟩

theorem lineBreak (h : s.Near True s') (soft : Bool) :
    Concur (lineBreak settings soft s) (lineBreak settings soft s') := by
  obtain ⟨next, start, tail, rfl, line⟩ := h
  obtain ⟨rfl, rfl⟩ := line trivial
  unfold Render.lineBreak
  rw [get_bind, get_bind]
  dsimp only
  split
  · exact .done (.next _ next)
  · split
    · split
      · exact .done (.next _ next)
      · exact .done (.next _ next)
    · exact .done (.next _ next)

theorem closeSpan (h : s.Near True s') (token : List Char) :
    Concur (closeSpan token s) (closeSpan token s') := by
  obtain ⟨next, start, tail, rfl, line⟩ := h
  unfold Render.closeSpan
  rw [get_bind, get_bind]
  dsimp only
  split
  · exact .done ⟨next, start, tail, rfl, line⟩
  · rw [get_bind, get_bind]
    dsimp only
    cases s.writer.discard token with
    | ok w => exact .done ⟨next, start, tail, rfl, line⟩
    | error e => exact .failed _ ⟨next, start, tail, rfl, line⟩

theorem span {token : List Char} {blank : Bool}
    (hx : ∀ ⦃s s' : RenderState⦄, s.Near True s' → Concur (x s) (x' s'))
    (h : s.Near (blank = true) s')
    (sight : blank = false → delimiterFor token s.writer.last s.nextInline =
      delimiterFor token s.writer.last s'.nextInline) :
    Concur (span token blank x s) (span token blank x' s') := by
  unfold Render.span
  cases blank with
  | true => exact hx (h.mono fun _ => rfl)
  | false =>
    have last : s'.writer = s.writer := by
      obtain ⟨next, start, tail, rfl, -⟩ := h
      rfl
    rw [if_neg (by simp), if_neg (by simp), get_bind, get_bind, last, ← sight rfl,
      leaveLineStart_bind, leaveLineStart_bind, stage_bind, stage_bind]
    refine .bind (hx (h.leaveLineStart.stage _)) fun t t' near => ?_
    exact closeSpan near _

/-- The content of a span, pruned and not. -/
theorem emphasized {content : List Node} {token : List Char}
    (joined : Node.allJoined settings content = true)
    (hx : ∀ ⦃s s' : RenderState⦄, s.Near True s' →
      Concur (inlines settings content s) (inlines settings (Node.prune content) s'))
    (h : s.Near (Node.allBlankInline (Node.prune content) = true) s')
    (sight : Node.allBlankInline content = false →
      (token.contains '_' && s.nextInline.any Node.startsAlphanumeric) =
        (token.contains '_' && s'.nextInline.any Node.startsAlphanumeric)) :
    Concur (Render.span token (Node.allBlankInline content) (inlines settings content) s)
      (Render.span token (Node.allBlankInline (Node.prune content))
        (inlines settings (Node.prune content)) s') := by
  rw [Node.allBlankInline_prune content joined] at h ⊢
  exact span hx h fun shown => delimiterFor_sight (sight shown) _

theorem reference (hx : ∀ ⦃s s' : RenderState⦄, s.Near True s' → Concur (x s) (x' s'))
    (h : s.Near p s') (opening : List Char) (url title : Option String) :
    Concur (reference opening url title x s) (reference opening url title x' s') := by
  unfold Render.reference
  rw [leaveLineStart_bind, leaveLineStart_bind, stage_bind, stage_bind]
  refine .bind (hx (h.leaveLineStart.stage _)) fun t t' near => ?_
  exact write near _

end Concur

mutual

/-- An inline node and its pruned form print the same where they see the same. -/
theorem node_concurs : (n : Node) → n.every Node.isInline = true → n.joined settings = true →
    ∀ ⦃s s' : RenderState⦄, s.Near (n.pruned.startsAfresh = false) s' →
      n.minds settings s.nextInline = n.minds settings s'.nextInline →
      Concur (node settings n s) (node settings n.pruned s')
  | .text content, _, _, s, s', h, sight => by
    rw [Node.pruned_of_childless rfl, node]
    exact .text (h.mono fun _ => rfl) sight
  | .emphasis content, inline, joined, s, s', h, sight => by
    rw [Node.every, Bool.and_eq_true] at inline
    rw [Node.pruned] at h ⊢
    rw [node, node]
    refine .emphasized joined (fun t t' near => ?_) (h.mono fun blank => ?_) fun shown => ?_
    · exact inlines_concurs content inline.2 joined (near.mono fun _ => trivial)
    · rw [Node.startsAfresh, blank, Bool.not_true]
    · simpa [Node.minds, shown] using sight
  | .strong content, inline, joined, s, s', h, sight => by
    rw [Node.every, Bool.and_eq_true] at inline
    rw [Node.pruned] at h ⊢
    rw [node, node]
    refine .emphasized joined (fun t t' near => ?_) (h.mono fun blank => ?_) fun shown => ?_
    · exact inlines_concurs content inline.2 joined (near.mono fun _ => trivial)
    · rw [Node.startsAfresh, blank, Bool.not_true]
    · simpa [Node.minds, shown] using sight
  | .strikethrough content, inline, joined, s, s', h, _ => by
    rw [Node.every, Bool.and_eq_true] at inline
    rw [Node.pruned] at h ⊢
    rw [node, node]
    refine .emphasized joined (fun t t' near => ?_) (h.mono fun blank => ?_) fun _ => by simp
    · exact inlines_concurs content inline.2 joined (near.mono fun _ => trivial)
    · rw [Node.startsAfresh, blank, Bool.not_true]
  | .code content, _, _, s, s', h, _ => by
    rw [Node.pruned_of_childless rfl] at h ⊢
    rw [node]
    exact .code (h.mono fun empty => by simp [Node.startsAfresh, empty])
  | .link url content title, inline, joined, s, s', h, _ => by
    rw [Node.every, Bool.and_eq_true] at inline
    rw [Node.pruned, node, node]
    refine .reference (fun t t' near => ?_) h _ _ _
    exact inlines_concurs content inline.2 joined (near.mono fun _ => trivial)
  | .image url content title, inline, joined, s, s', h, _ => by
    rw [Node.every, Bool.and_eq_true] at inline
    rw [Node.pruned, node, node]
    refine .reference (fun t t' near => ?_) h _ _ _
    exact inlines_concurs content inline.2 joined (near.mono fun _ => trivial)
  | .autolink url label, _, _, s, s', h, _ => by
    rw [Node.pruned_of_childless rfl, node]
    exact .verbatim h _
  | .htmlInline content, _, _, s, s', h, _ => by
    rw [Node.pruned_of_childless rfl, node]
    exact .verbatim h _
  | .lineBreak soft, _, _, s, s', h, _ => by
    rw [Node.pruned_of_childless rfl, node]
    exact .lineBreak (h.mono fun _ => rfl) soft
  | .textless .code, _, _, s, s', h, _ => by
    rw [Node.pruned_of_childless rfl, node]
    exact .done (h.mono fun _ => rfl)
  | .textless .htmlInline, _, _, s, s', h, _ => by
    rw [Node.pruned_of_childless rfl, node]
    exact .done h.leaveLineStart

/-- So does inline content, if what stands first in it does. -/
theorem inlines_concurs : (content : List Node) → Node.everyOf Node.isInline content = true →
    Node.allJoined settings content = true → ∀ ⦃s s' : RenderState⦄,
      s.Near ((Node.prune content).head?.any Node.startsAfresh = false) s' →
      Concur (inlines settings content s) (inlines settings (Node.prune content) s')
  | [], _, _, s, s', h => by
    rw [Node.prune, inlines]
    exact .done (h.mono fun _ => rfl)
  | n :: rest, inline, joined, s, s', h => by
    rw [Node.everyOf, Bool.and_eq_true] at inline
    simp only [Node.allJoined, Bool.and_eq_true] at joined
    obtain ⟨⟨here, inside⟩, later⟩ := joined
    unfold Node.meets at here
    rw [Node.prune] at h ⊢
    rw [inlines, modify_bind]
    by_cases void : n.isVoid = true
    · rw [if_pos void] at here h ⊢
      obtain ⟨t, run, near⟩ := node_vanishes settings n void
        { s with nextInline := rest.head? }
      rw [bind_of_ok run]
      refine inlines_concurs rest inline.2 later ?_
      have same (first : (Node.prune rest).head?.any Node.startsAfresh = false) :
          n.isBlankInline = true := by simpa [first] using here
      exact (near.mono same).symm.trans ((RenderState.Near.next s _).symm.trans h)
    · rw [if_neg void] at here h ⊢
      have joined_ : n.joined settings = true := by simpa [void] using inside
      rw [inlines, modify_bind]
      refine .bind (node_concurs n inline.1 joined_ ?_ ?_) fun t t' near => ?_
      · exact (RenderState.Near.next s _).symm.trans (h.trans (.next s' _))
      · simpa using here
      · exact inlines_concurs rest inline.2 later (near.mono fun _ => trivial)

end

end Render

namespace RendererSettings

/-- Void nodes leave no trace, neither delimiters nor another choice of escapes or delimiters, where
they keep no neighbours apart. -/
theorem renderInlines_prune (settings : RendererSettings) (flags : ScratchFlags)
    (content : List Node) (inline : Node.everyOf Node.isInline content = true)
    (joined : Node.allJoined settings content = true) :
    settings.renderInlines flags (Node.prune content) = settings.renderInlines flags content := by
  have concur := Render.inlines_concurs content inline joined (.refl (RenderState.enter {} flags))
  generalize run : Render.inlines settings content (RenderState.enter {} flags) = r at concur
  generalize run' : Render.inlines settings (Node.prune content) (RenderState.enter {} flags) = r'
    at concur
  unfold renderInlines
  cases concur with
  | done near =>
    rw [Render.scratch_eq_ok.mpr ⟨_, run, rfl, rfl⟩, Render.scratch_eq_ok.mpr ⟨_, run', rfl, rfl⟩]
    obtain ⟨next, start, tail, rfl, -⟩ := near
    rfl
  | failed e near =>
    rw [Render.scratch_eq_error.mpr ⟨_, run, rfl⟩, Render.scratch_eq_error.mpr ⟨_, run', rfl⟩]
    obtain ⟨next, start, tail, rfl, -⟩ := near
    rfl

/-- Void nodes of every kind, between nodes that have nothing to do with each other. -/
theorem renderInlines_prune_nested :
    let settings : RendererSettings := { emphasis := .underscore }
    let content : List Node :=
      [.text "a", .emphasis [.strong [], .text "", .code ""], .text "b ", .htmlInline "",
        .link (some "u") [.text "", .text "t!", .strikethrough [.text ""]] none, .text "",
        .emphasis [.text "x", .code ""], .code "", .text " y"]
    Node.everyOf Node.isInline content = true ∧ Node.allJoined settings content = true ∧
      Node.prune content = [.text "a", .text "b ", .link (some "u") [.text "t!"] none,
        .emphasis [.text "x"], .text " y"] ∧
      (settings.renderInlines {} (Node.prune content)).1 = .ok "ab [t!](u)_x_ y" ∧
      settings.renderInlines {} (Node.prune content) = settings.renderInlines {} content := by
  intro settings content
  have inline : Node.everyOf Node.isInline content = true := by decide +kernel
  have joined : Node.allJoined settings content = true := by decide +kernel
  refine ⟨inline, joined, rfl, by decide +kernel, ?_⟩
  exact settings.renderInlines_prune {} content inline joined

/-- An empty text keeps an exclamation mark from seeing that a link follows, and underscores from
seeing that a word does; raw HTML without a text ends the start of a line, and delimits a space. -/
theorem renderInlines_shows_void :
    let settings : RendererSettings := {}
    let underlined : RendererSettings := { emphasis := .underscore }
    let bang : List Node := [.text "a!", .text "", .link (some "u") [.text "t"] none]
    let word : List Node := [.emphasis [.text "x"], .text "", .text "a"]
    let html : List Node := [.htmlInline "", .text "# a"]
    let space : List Node := [.emphasis [.text " ", .htmlInline ""]]
    (settings.renderInlines {} bang).1 = .ok "a![t](u)" ∧
    (settings.renderInlines {} (Node.prune bang)).1 = .ok "a\\![t](u)" ∧
    (underlined.renderInlines {} word).1 = .ok "_x_a" ∧
    (underlined.renderInlines {} (Node.prune word)).1 = .ok "*x*a" ∧
    (settings.renderInlines { atLineStart := true } html).1 = .ok "# a" ∧
    (settings.renderInlines { atLineStart := true } (Node.prune html)).1 = .ok "\\# a" ∧
    (settings.renderInlines {} space).1 = .ok "* *" ∧
    (settings.renderInlines {} (Node.prune space)).1 = .ok " " := by
  decide +kernel

end RendererSettings

end MarkdownCanon
