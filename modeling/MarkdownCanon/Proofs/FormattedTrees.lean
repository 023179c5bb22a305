import MarkdownCanon.Proofs.Trees
import MarkdownCanon.Render.Block
import MarkdownCanon.Render.Table

/-! Trees whose code has been formatted. Formatting changes the texts of code blocks and nothing
else that can be seen of a node, and nothing at all where every formatter refuses. -/

namespace MarkdownCanon

/-- A node without a text. A code block may get one from the formatter for its language. -/
def Textless.formatted (formatters : FormatterMap) : Textless → Node
  | .codeBlock info fence fenced =>
    let block : CodeBlock := { content := "", info, fence, fenced }
    match (Render.replyWithoutCode? formatters block).bind CodeFormatter.replyCode? with
    | some content => .codeBlock { block with content }
    | none => .textless (.codeBlock info fence fenced)
  | kind => .textless kind

namespace Node

/-- Two nodes that look the same from outside: all that printing asks of a node, apart from printing
it, has the same answer. -/
structure LooksLike (m n : Node) : Prop where
  kind : m.kind = n.kind
  isLineBreak : m.isLineBreak = n.isLineBreak
  isLink : m.isLink = n.isLink
  isParagraph : m.isParagraph = n.isParagraph
  isHeading : m.isHeading = n.isHeading
  isListItem : m.isListItem = n.isListItem
  isTableCell : m.isTableCell = n.isTableCell
  startsAlphanumeric : m.startsAlphanumeric = n.startsAlphanumeric
  isTextlessHtml : m.isTextlessHtml = n.isTextlessHtml
  isBlankInline : m.isBlankInline = n.isBlankInline
  isBlankBlock : m.isBlankBlock = n.isBlankBlock
  isRow : Render.isRow m = Render.isRow n
  alignmentOf : Render.alignmentOf m = Render.alignmentOf n
  separator : ∀ tight, Render.separator tight m = Render.separator tight n

mutual

/-- The tree in which every fenced block that names a language has its code formatted. -/
def formatted (formatters : FormatterMap) : Node → Node
  | document children => document (allFormatted formatters children)
  | heading level content identifier => heading level (allFormatted formatters content) identifier
  | paragraph content => paragraph (allFormatted formatters content)
  | codeBlock block => codeBlock { block with content := Render.formattedCode formatters block }
  | blockQuote children => blockQuote (allFormatted formatters children)
  | list style items => list style (allFormatted formatters items)
  | listItem children task blankBefore =>
    listItem (allFormatted formatters children) task blankBefore
  | table header rows => table (headerFormatted formatters header) (allFormatted formatters rows)
  | tableRow cells isHeader => tableRow (allFormatted formatters cells) isHeader
  | tableCell content alignment => tableCell (allFormatted formatters content) alignment
  | thematicBreak => thematicBreak
  | htmlBlock content blankBefore => htmlBlock content blankBefore
  | text content => text content
  | emphasis content => emphasis (allFormatted formatters content)
  | strong content => strong (allFormatted formatters content)
  | code content => code content
  | link url content title => link url (allFormatted formatters content) title
  | image url content title => image url (allFormatted formatters content) title
  | autolink url label => autolink url label
  | lineBreak soft => lineBreak soft
  | strikethrough content => strikethrough (allFormatted formatters content)
  | htmlInline content => htmlInline content
  | textless kind => kind.formatted formatters
  | foreign kind => foreign kind
  | missing => missing

def allFormatted (formatters : FormatterMap) : List Node → List Node
  | [] => []
  | node :: rest => formatted formatters node :: allFormatted formatters rest

def headerFormatted (formatters : FormatterMap) : Option Node → Option Node
  | none => none
  | some header => some (formatted formatters header)

end

section

variable (formatters : FormatterMap)

theorem allFormatted_eq_map (nodes : List Node) :
    allFormatted formatters nodes = nodes.map (formatted formatters) := by
  induction nodes with
  | nil => rw [allFormatted, List.map_nil]
  | cons node rest ih => rw [allFormatted, ih, List.map_cons]

theorem head?_allFormatted (nodes : List Node) :
    (allFormatted formatters nodes).head? = nodes.head?.map (formatted formatters) := by
  rw [allFormatted_eq_map, List.head?_map]

theorem headerFormatted_eq_map (header : Option Node) :
    headerFormatted formatters header = header.map (formatted formatters) := by
  cases header <;> rw [headerFormatted] <;> rfl

/-- A node without a text stays one, or becomes a code block. -/
theorem textless_formatted (kind : Textless) :
    (textless kind).formatted formatters = textless kind ∨
      ∃ info fence fenced content, kind = .codeBlock info fence fenced ∧
        (Render.replyWithoutCode? formatters { content := "", info, fence, fenced }).bind
          CodeFormatter.replyCode? = some content ∧
        (textless kind).formatted formatters = codeBlock { content, info, fence, fenced } := by
  rw [formatted]
  cases kind with
  | codeBlock info fence fenced =>
    rw [Textless.formatted]
    dsimp only
    split
    · rename_i content given
      exact .inr ⟨info, fence, fenced, content, rfl, given, rfl⟩
    · exact .inl rfl
  | _ => exact .inl rfl

mutual

theorem isBlankInline_formatted :
    (n : Node) → (n.formatted formatters).isBlankInline = n.isBlankInline
  | textless kind => by
    obtain kept | ⟨info, fence, fenced, content, rfl, _, given⟩ :=
      textless_formatted formatters kind
    · rw [kept]
    · rw [given]
      simp [isBlankInline]
  | emphasis content => by
    rw [formatted, isBlankInline, isBlankInline, allBlankInline_formatted content]
  | strong content => by
    rw [formatted, isBlankInline, isBlankInline, allBlankInline_formatted content]
  | strikethrough content => by
    rw [formatted, isBlankInline, isBlankInline, allBlankInline_formatted content]
  | document _ | heading .. | paragraph _ | codeBlock _ | blockQuote _ | list .. | listItem ..
  | table .. | tableRow .. | tableCell .. | thematicBreak | htmlBlock .. | text _ | code _
  | link .. | image .. | autolink .. | lineBreak _ | htmlInline _ | foreign _ | missing => by
    simp only [formatted, isBlankInline]

theorem allBlankInline_formatted :
    (nodes : List Node) → allBlankInline (allFormatted formatters nodes) = allBlankInline nodes
  | [] => by rw [allFormatted]
  | node :: rest => by
    rw [allFormatted, allBlankInline, allBlankInline, isBlankInline_formatted node,
      allBlankInline_formatted rest]

end

theorem isBlankBlock_formatted (n : Node) :
    (n.formatted formatters).isBlankBlock = n.isBlankBlock := by
  cases n with
  | textless kind =>
    obtain kept | ⟨_, _, _, _, rfl, _, given⟩ := textless_formatted formatters kind
    · rw [kept]
    · rw [given]
      rfl
  | paragraph content => simp only [formatted, isBlankBlock, allBlankInline_formatted]
  | list style items => cases items <;> simp [formatted, isBlankBlock, allFormatted]
  | _ => simp only [formatted, isBlankBlock]

/-- Formatting shows in the text of a code block only. -/
theorem formatted_looksLike (n : Node) : LooksLike (n.formatted formatters) n := by
  have inside := isBlankInline_formatted formatters n
  have block := isBlankBlock_formatted formatters n
  cases n with
  | textless kind =>
    obtain kept | ⟨_, _, _, _, rfl, _, given⟩ := textless_formatted formatters kind
    · rw [kept]
      exact ⟨rfl, rfl, rfl, rfl, rfl, rfl, rfl, rfl, rfl, rfl, rfl, rfl, rfl, fun _ => rfl⟩
    · rw [given] at inside ⊢
      exact ⟨rfl, rfl, rfl, rfl, rfl, rfl, rfl, rfl, rfl, inside, rfl, rfl, rfl, fun _ => rfl⟩
  | _ =>
    rw [formatted] at inside block ⊢
    exact ⟨rfl, rfl, rfl, rfl, rfl, rfl, rfl, rfl, rfl, inside, block, rfl, rfl, fun _ => rfl⟩

theorem children_formatted (n : Node) :
    (n.formatted formatters).children = n.children.map (formatted formatters) := by
  cases n with
  | textless kind =>
    obtain kept | ⟨_, _, _, _, rfl, _, given⟩ := textless_formatted formatters kind
    · rw [kept]
      rfl
    · rw [given]
      rfl
  | table header rows =>
    rw [formatted, headerFormatted_eq_map, allFormatted_eq_map]
    cases header <;> simp [children]
  | _ => simp only [formatted, children, allFormatted_eq_map, List.map_nil]

theorem all_isLineBreak_formatted (nodes : List Node) :
    (allFormatted formatters nodes).all isLineBreak = nodes.all isLineBreak := by
  rw [allFormatted_eq_map, List.all_map]
  congr 1
  exact funext fun n => (formatted_looksLike formatters n).isLineBreak

/-- A table is refused for its formatted rows as it is for its rows. -/
theorem checkRows_formatted (header : Option Node) (rows : List Node) :
    Render.checkRows (headerFormatted formatters header) (allFormatted formatters rows) =
      Render.checkRows header rows := by
  cases header with
  | none => rfl
  | some header =>
    have found : (header.formatted formatters :: rows.map (formatted formatters)).find?
        (!Render.isRow ·) =
        ((header :: rows).find? (!Render.isRow ·)).map (formatted formatters) := by
      rw [← List.map_cons, List.find?_map]
      congr 2
      exact funext fun n => by simp [(formatted_looksLike formatters n).isRow]
    rw [headerFormatted, allFormatted_eq_map]
    simp only [Render.checkRows, found]
    cases (header :: rows).find? (!Render.isRow ·) with
    | none => rfl
    | some other => simp [(formatted_looksLike formatters other).kind]

end

/-- Whether a node is left alone by the formatter for its language: there is none, or it fails on
the code that it is given, or gives back something that is no text. -/
def keepsCode (formatters : FormatterMap) : Node → Bool
  | codeBlock block =>
    !block.fenced || (Render.infoText block).isEmpty ||
      (CodeFormatter.find? formatters (Render.infoText block)).all fun formatter =>
        (CodeFormatter.replyCode? (formatter.run block.content)).isNone
  | textless (.codeBlock info fence fenced) =>
    (Render.replyWithoutCode? formatters { content := "", info, fence, fenced }).all fun reply =>
      (CodeFormatter.replyCode? reply).isNone
  | _ => true

/-- Every formatter refuses the codes that it is given in a tree. -/
def Refused (formatters : FormatterMap) (n : Node) : Prop :=
  ∀ m, Within m n → m.keepsCode formatters = true

section

variable {formatters : FormatterMap}

theorem Refused.of_every {n : Node} (h : n.every (keepsCode formatters) = true) :
    n.Refused formatters :=
  fun _ inside => every_within h inside

theorem Refused.child {n c : Node} (h : n.Refused formatters) (hc : c ∈ n.children) :
    c.Refused formatters :=
  fun m inside => h m (.under hc inside)

theorem formattedCode_of_kept {block : CodeBlock}
    (kept : (codeBlock block).keepsCode formatters = true) :
    Render.formattedCode formatters block = block.content := by
  rw [keepsCode] at kept
  unfold Render.formattedCode
  split
  · rename_i named
    have refused : (CodeFormatter.find? formatters (Render.infoText block)).all (fun formatter =>
        (CodeFormatter.replyCode? (formatter.run block.content)).isNone) = true := by
      simp_all
    unfold CodeFormatter.apply
    split
    · rfl
    · rename_i formatter found
      rw [found, Option.all_some, Option.isNone_iff_eq_none] at refused
      rw [refused, Option.getD_none]
  · rfl

theorem textless_of_kept {kind : Textless} (kept : (textless kind).keepsCode formatters = true) :
    (textless kind).formatted formatters = textless kind := by
  obtain same | ⟨info, fence, fenced, content, rfl, given, _⟩ := textless_formatted formatters kind
  · exact same
  · obtain ⟨reply, asked, text⟩ := Option.bind_eq_some_iff.mp given
    simp [keepsCode, asked, text] at kept

mutual

/-- A tree of which no code is changed is its own formatted form. -/
theorem formatted_of_refused : (n : Node) → n.Refused formatters → n.formatted formatters = n
  | document children, h => by
    rw [formatted, allFormatted_of_refused children fun c m => h.child m]
  | heading level content identifier, h => by
    rw [formatted, allFormatted_of_refused content fun c m => h.child m]
  | paragraph content, h => by
    rw [formatted, allFormatted_of_refused content fun c m => h.child m]
  | codeBlock block, h => by rw [formatted, formattedCode_of_kept (h _ (.self _))]
  | blockQuote children, h => by
    rw [formatted, allFormatted_of_refused children fun c m => h.child m]
  | list style items, h => by
    rw [formatted, allFormatted_of_refused items fun c m => h.child m]
  | listItem children task blankBefore, h => by
    rw [formatted, allFormatted_of_refused children fun c m => h.child m]
  | table header rows, h => by
    rw [formatted, allFormatted_of_refused rows fun c m => h.child (by simp [children, m]),
      headerFormatted_of_refused header fun c m =>
        h.child (by simp [children, Option.mem_def.mp m])]
  | tableRow cells isHeader, h => by
    rw [formatted, allFormatted_of_refused cells fun c m => h.child m]
  | tableCell content alignment, h => by
    rw [formatted, allFormatted_of_refused content fun c m => h.child m]
  | emphasis content, h => by
    rw [formatted, allFormatted_of_refused content fun c m => h.child m]
  | strong content, h => by
    rw [formatted, allFormatted_of_refused content fun c m => h.child m]
  | strikethrough content, h => by
    rw [formatted, allFormatted_of_refused content fun c m => h.child m]
  | link url content title, h => by
    rw [formatted, allFormatted_of_refused content fun c m => h.child m]
  | image url content title, h => by
    rw [formatted, allFormatted_of_refused content fun c m => h.child m]
  | textless kind, h => textless_of_kept (h _ (.self _))
  | thematicBreak, _ | htmlBlock .., _ | text _, _ | code _, _ | autolink .., _ | lineBreak _, _
  | htmlInline _, _ | foreign _, _ | missing, _ => by rw [formatted]

theorem allFormatted_of_refused : (nodes : List Node) →
    (∀ c ∈ nodes, c.Refused formatters) → allFormatted formatters nodes = nodes
  | [], _ => by rw [allFormatted]
  | node :: rest, h => by
    rw [allFormatted, formatted_of_refused node (h node List.mem_cons_self),
      allFormatted_of_refused rest fun c m => h c (List.mem_cons_of_mem _ m)]

theorem headerFormatted_of_refused : (header : Option Node) →
    (∀ c ∈ header, c.Refused formatters) → headerFormatted formatters header = header
  | none, _ => by rw [headerFormatted]
  | some header, h => by rw [headerFormatted, formatted_of_refused header (h header rfl)]

end

end

end Node

end MarkdownCanon
