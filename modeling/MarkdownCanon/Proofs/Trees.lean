import MarkdownCanon.Document.Node

/-! Trees seen from outside: which nodes a tree holds, and where list items stand in it. -/

namespace MarkdownCanon.Node

/-- A node of the tree below another one, which itself counts. -/
inductive Within : Node → Node → Prop where
  | self (n : Node) : Within n n
  | under {m c n : Node} (child : c ∈ n.children) (inside : Within m c) : Within m n

mutual

/-- Whether `p` holds all over a tree. -/
def every (p : Node → Bool) : Node → Bool
  | document children => p (document children) && everyOf p children
  | heading level content identifier => p (heading level content identifier) && everyOf p content
  | paragraph content => p (paragraph content) && everyOf p content
  | blockQuote children => p (blockQuote children) && everyOf p children
  | list style items => p (list style items) && everyOf p items
  | listItem children task blankBefore =>
    p (listItem children task blankBefore) && everyOf p children
  | table (some header) rows => p (table header rows) && (every p header && everyOf p rows)
  | table none rows => p (table none rows) && everyOf p rows
  | tableRow cells isHeader => p (tableRow cells isHeader) && everyOf p cells
  | tableCell content alignment => p (tableCell content alignment) && everyOf p content
  | emphasis content => p (emphasis content) && everyOf p content
  | strong content => p (strong content) && everyOf p content
  | strikethrough content => p (strikethrough content) && everyOf p content
  | link url content title => p (link url content title) && everyOf p content
  | image url content title => p (image url content title) && everyOf p content
  | leaf => p leaf

def everyOf (p : Node → Bool) : List Node → Bool
  | [] => true
  | node :: rest => every p node && everyOf p rest

end

theorem everyOf_mem {p : Node → Bool} {nodes : List Node} (h : everyOf p nodes = true) {n : Node}
    (m : n ∈ nodes) : n.every p = true := by
  induction nodes with
  | nil => simp at m
  | cons first rest ih =>
    rw [everyOf, Bool.and_eq_true] at h
    obtain rfl | m := List.mem_cons.mp m
    · exact h.1
    · exact ih h.2 m

theorem every_self {p : Node → Bool} {n : Node} (h : n.every p = true) : p n = true := by
  cases n with
  | table header rows => cases header <;> simp_all [every]
  | _ => simp_all [every]

theorem every_child {p : Node → Bool} {n c : Node} (h : n.every p = true) (hc : c ∈ n.children) :
    c.every p = true := by
  cases n with
  | table header rows =>
    cases header with
    | none =>
      rw [every, Bool.and_eq_true] at h
      exact everyOf_mem h.2 (by simpa [children] using hc)
    | some header =>
      rw [every, Bool.and_eq_true, Bool.and_eq_true] at h
      obtain rfl | m := List.mem_cons.mp hc
      · exact h.2.1
      · exact everyOf_mem h.2.2 m
  | _ =>
    simp only [children, List.not_mem_nil] at hc
    try
      rw [every, Bool.and_eq_true] at h
      exact everyOf_mem h.2 hc

theorem every_within {p : Node → Bool} {m n : Node} (h : n.every p = true) (inside : Within m n) :
    p m = true := by
  induction inside with
  | self => exact every_self h
  | under child _ ih => exact ih (every_child h child)

def isList : Node → Bool
  | list .. => true
  | _ => false

def isListItem : Node → Bool
  | listItem .. => true
  | _ => false

/-- Below a node, list items stand in lists only. -/
def ItemsBelow (n : Node) : Prop :=
  ∀ m, Within m n → m.isList = false → ∀ c ∈ m.children, c.isListItem = false

/-- List items stand in lists only, and the node itself is none. -/
def ItemsInLists (n : Node) : Prop := n.isListItem = false ∧ n.ItemsBelow

theorem ItemsBelow.child {n c : Node} (h : n.ItemsBelow) (hc : c ∈ n.children) : c.ItemsBelow :=
  fun m inside => h m (.under hc inside)

theorem ItemsBelow.inLists {n c : Node} (h : n.ItemsBelow) (other : n.isList = false)
    (hc : c ∈ n.children) : c.ItemsInLists :=
  ⟨h n (.self n) other c hc, h.child hc⟩

theorem ItemsBelow.within {m n : Node} (h : n.ItemsBelow) (inside : Within m n) : m.ItemsBelow := by
  induction inside with
  | self => exact h
  | under child _ ih => exact ih (h.child child)

/-- An item of a list, whose own children are no items. -/
theorem ItemsBelow.item {style : ListStyle} {items : List Node} {item c : Node}
    (h : (list style items).ItemsBelow) (hi : item ∈ items) (other : item.isList = false)
    (hc : c ∈ item.children) : c.ItemsInLists :=
  (h.child hi).inLists other hc

def isBlock : Node → Bool
  | heading .. | paragraph _ | codeBlock _ | blockQuote _ | list .. | table .. => true
  | thematicBreak | htmlBlock .. => true
  | textless (.codeBlock ..) | textless (.htmlBlock _) => true
  | _ => false

def isInline : Node → Bool
  | text _ | emphasis _ | strong _ | strikethrough _ | code _ | link .. | image .. => true
  | autolink .. | lineBreak _ | htmlInline _ => true
  | textless .code | textless .htmlInline => true
  | _ => false

def isTableRow : Node → Bool
  | tableRow .. => true
  | _ => false

def isTableCell : Node → Bool
  | tableCell .. => true
  | _ => false

/-- Whether the children of a node are of the kind that belongs there. -/
def wellPlaced : Node → Bool
  | document children | blockQuote children | listItem children _ _ => children.all isBlock
  | list _ items => items.all isListItem
  | table header rows => header.all isTableRow && rows.all isTableRow
  | tableRow cells _ => cells.all isTableCell
  | heading _ content _ | paragraph content | tableCell content _ => content.all isInline
  | emphasis content | strong content | strikethrough content => content.all isInline
  | link _ content _ | image _ content _ => content.all isInline
  | _ => true

/-- A tree with blocks where blocks belong and inline nodes where those belong. -/
def WellPlaced (n : Node) : Prop := ∀ m, Within m n → m.wellPlaced = true

theorem WellPlaced.child {n c : Node} (h : n.WellPlaced) (hc : c ∈ n.children) : c.WellPlaced :=
  fun m inside => h m (.under hc inside)

end MarkdownCanon.Node
