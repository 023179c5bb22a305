import MarkdownCanon.Proofs.Acceptance
import MarkdownCanon.Token.Block

/-! Reading builds only trees that can be printed: items stand in lists, rows in tables, cells in
rows and nothing but inline nodes in cells, and no node lacks its text. -/

namespace MarkdownCanon

namespace Node

/-- A node with all its texts that can be printed in any list, given whether a table is open. -/
structure Fits (inTable : Bool) (n : Node) : Prop where
  texts : n.HoldsTexts
  shape : ∀ inList, n.wellShaped inList inTable = true

theorem HoldsTexts.of_children {n : Node} (other : n.isTextless = false)
    (h : ∀ c ∈ n.children, c.HoldsTexts) : n.HoldsTexts := by
  intro kind inside
  cases inside with
  | self => simp [isTextless] at other
  | under child inside => exact h _ child kind inside

theorem allWellShaped_iff {inList inTable : Bool} {nodes : List Node} :
    allWellShaped inList inTable nodes = true ↔
      ∀ n ∈ nodes, n.wellShaped inList inTable = true := by
  induction nodes with
  | nil => simp [allWellShaped]
  | cons n rest ih => simp [allWellShaped, ih]

theorem itemsWellShaped_iff {inList inTable : Bool} {items : List Node} :
    itemsWellShaped inList inTable items = true ↔
      ∀ n ∈ items, n.isListItem = true ∧ n.wellShaped inList inTable = true := by
  induction items with
  | nil => simp [itemsWellShaped]
  | cons n rest ih => simp [itemsWellShaped, ih]

/-- A node that is printed through its children. -/
theorem Fits.of_content {inTable : Bool} {n : Node} (other : n.isTextless = false)
    (through : ∀ inList, n.wellShaped inList inTable = allWellShaped inList inTable n.children)
    (h : ∀ c ∈ n.children, c.Fits inTable) : n.Fits inTable where
  texts := .of_children other fun c m => (h c m).texts
  shape inList := by
    rw [through, allWellShaped_iff]
    intro c m
    exact (h c m).shape inList

/-- A node that nothing can be wrong with. -/
theorem Fits.of_leaf {inTable : Bool} {n : Node} (other : n.isTextless = false)
    (leaf : n.children = []) (shape : ∀ inList, n.wellShaped inList inTable = true) :
    n.Fits inTable :=
  ⟨.of_children other (by simp [leaf]), shape⟩

theorem fits_text (inTable : Bool) (content : String) : (text content).Fits inTable :=
  .of_leaf rfl rfl fun _ => by rw [wellShaped]

theorem fits_lineBreak (inTable : Bool) (soft : Bool) : (lineBreak soft).Fits inTable :=
  .of_leaf rfl rfl fun _ => by rw [wellShaped]

/-- An item, which takes a list to be printed in. -/
structure FitsList (n : Node) : Prop where
  item : n.isListItem = true
  texts : n.HoldsTexts
  shape : n.wellShaped true false = true

theorem FitsList.of_blocks {blocks : List Node} (h : ∀ n ∈ blocks, n.Fits false)
    (task : Option TaskStatus) (blankBefore : Bool) :
    (listItem blocks task blankBefore).FitsList where
  item := rfl
  texts := .of_children rfl fun c m => (h c m).texts
  shape := by
    rw [wellShaped, Bool.true_and, allWellShaped_iff]
    intro c m
    exact (h c m).shape true

theorem fits_list {items : List Node} (h : ∀ n ∈ items, n.FitsList) (style : ListStyle) :
    (list style items).Fits false where
  texts := .of_children rfl fun c m => (h c m).texts
  shape inList := by
    rw [wellShaped, itemsWellShaped_iff]
    intro n m
    exact ⟨(h n m).item, (h n m).shape⟩

/-- A row of cells that hold what fits in a table. -/
def FitsTable (n : Node) : Prop :=
  ∃ cells isHeader, n = tableRow cells isHeader ∧
    ∀ cell ∈ cells, ∃ content alignment, cell = tableCell content alignment ∧
      ∀ c ∈ content, c.Fits true

theorem cellsWellShaped_of_fits {inList : Bool} {cells : List Node}
    (h : ∀ cell ∈ cells, ∃ content alignment, cell = tableCell content alignment ∧
      ∀ c ∈ content, c.Fits true) : cellsWellShaped inList true cells = true := by
  induction cells with
  | nil => rw [cellsWellShaped]
  | cons cell rest ih =>
    obtain ⟨content, alignment, rfl, fits⟩ := h cell List.mem_cons_self
    have content : allWellShaped inList true content = true := by
      rw [allWellShaped_iff]
      intro c m
      exact (fits c m).shape inList
    rw [cellsWellShaped, content, Bool.true_and]
    exact ih fun cell m => h cell (List.mem_cons_of_mem _ m)

theorem FitsTable.texts {n : Node} (h : n.FitsTable) : n.HoldsTexts := by
  obtain ⟨cells, isHeader, rfl, fits⟩ := h
  refine .of_children rfl fun cell m => ?_
  obtain ⟨content, alignment, rfl, inside⟩ := fits cell m
  exact .of_children rfl fun c hc => (inside c hc).texts

theorem rowsWellShaped_of_fits {inList : Bool} {rows : List Node} (h : ∀ n ∈ rows, n.FitsTable) :
    rowsWellShaped inList rows = true := by
  induction rows with
  | nil => rw [rowsWellShaped]
  | cons row rest ih =>
    obtain ⟨cells, isHeader, rfl, fits⟩ := h row List.mem_cons_self
    rw [rowsWellShaped, cellsWellShaped_of_fits fits, Bool.true_and]
    exact ih fun row m => h row (List.mem_cons_of_mem _ m)

theorem fits_table {header : Node} {rows : List Node} (hh : header.FitsTable)
    (hr : ∀ row ∈ rows, row.FitsTable) : (table (some header) rows).Fits false where
  texts := by
    refine .of_children rfl fun row m => ?_
    obtain rfl | m := List.mem_cons.mp m
    · exact hh.texts
    · exact (hr row m).texts
  shape inList := by
    obtain ⟨cells, isHeader, rfl, fits⟩ := hh
    rw [wellShaped, headerWellShaped, cellsWellShaped_of_fits fits, rowsWellShaped_of_fits hr]
    rfl

end Node

namespace Token

/-- A token of the tree below another one, which itself counts. -/
inductive Within : Token → Token → Prop where
  | self (t : Token) : Within t t
  | under {m c t : Token} (child : c ∈ t.children) (inside : Within m c) : Within m t

/-- What a parser promises of a token: all over its tree the raw texts are there, and every table
has a head. -/
def Proper (t : Token) : Prop :=
  ∀ m, Within m t → m.raw.isSome = true ∧
    (m.isA "table" = true → ∃ part ∈ m.children, part.isA "table_head" = true)

theorem Proper.child {t c : Token} (h : t.Proper) (hc : c ∈ t.children) : c.Proper :=
  fun m inside => h m (.under hc inside)

theorem Proper.of_children {t : Token} (raw : t.raw.isSome = true)
    (headed : t.isA "table" = true → ∃ part ∈ t.children, part.isA "table_head" = true)
    (h : ∀ c ∈ t.children, c.Proper) : t.Proper := by
  intro m inside
  cases inside with
  | self => exact ⟨raw, headed⟩
  | under child inside => exact h _ child m inside

theorem Proper.of_other {t : Token} (raw : t.raw.isSome = true) (other : t.isA "table" = false)
    (h : ∀ c ∈ t.children, c.Proper) : t.Proper :=
  .of_children raw (by simp [other]) h

theorem Proper.raw {data : TokenData} {children : List Token} (h : (mk data children).Proper) :
    ∃ raw, data.raw = some raw :=
  Option.isSome_iff_exists.mp (h _ (.self _)).1

section Gives

variable {α β : Type} {P Q : α → Prop}

/-- What a step of reading gives, if it gives anything. -/
def Gives (P : α → Prop) (x : Reading α) : Prop :=
  ∀ ⦃before a after⦄, x before = .ok a after → P a

theorem Gives.pure {a : α} (h : P a) : Gives P (pure a) := by
  intro before b after run
  cases run
  exact h

theorem Gives.throw (e : ReadingError) : Gives P (throw e : Reading α) := by
  intro before a after run
  cases run

theorem Gives.bind {x : Reading α} {f : α → Reading β} {Q : β → Prop} (hx : Gives P x)
    (hf : ∀ a, P a → Gives Q (f a)) : Gives Q (x >>= f) := by
  intro before b after run
  change EStateM.bind x f before = _ at run
  unfold EStateM.bind at run
  cases first : x before with
  | ok a between =>
    rw [first] at run
    exact hf a (hx first) run
  | error e between =>
    rw [first] at run
    cases run

theorem Gives.any (x : Reading α) : Gives (fun _ => True) x := fun _ _ _ _ => trivial

/-- A step whose value does not matter. -/
theorem Gives.after {x : Reading α} {f : α → Reading β} {Q : β → Prop} (hf : ∀ a, Gives Q (f a)) :
    Gives Q (x >>= f) :=
  (Gives.any x).bind fun a _ => hf a

theorem Gives.ite {c : Prop} [Decidable c] {x y : Reading α} (hx : c → Gives P x)
    (hy : ¬ c → Gives P y) : Gives P (if c then x else y) := by
  split
  · exact hx ‹_›
  · exact hy ‹_›

end Gives

/-- What becomes of a text: texts and breaks. -/
theorem textNodes_fits (inTable : Bool) (raw : String) : ∀ n ∈ textNodes raw, n.Fits inTable := by
  have line (cs : List Char) : ∀ n ∈ lineNodes cs, n.Fits inTable := by
    intro n m
    unfold lineNodes at m
    split at m
    · simp at m
    · rw [List.mem_singleton.mp m]
      exact Node.fits_text inTable _
  intro n m
  unfold textNodes at m
  split at m
  · simp at m
  · simp only [List.mem_append, List.mem_flatMap, List.mem_cons] at m
    obtain m | ⟨cs, _, rfl | m⟩ := m
    · exact line _ n m
    · exact Node.fits_lineBreak inTable true
    · exact line cs n m

theorem readUnknown_fits (inTable : Bool) (data : TokenData) :
    Gives (fun nodes => ∀ n ∈ nodes, n.Fits inTable) (readUnknown data) := by
  unfold readUnknown
  split
  · exact .throw _
  · exact .throw _
  · dsimp only
    refine .ite (fun _ => .pure (by simp)) fun _ => .after fun _ => .pure ?_
    intro n m
    rw [List.mem_singleton.mp m]
    exact Node.fits_text inTable _

/-- Reading inline tokens gives one node per span, around what its children give. -/
theorem fits_span {inTable : Bool} {x : Reading (List Node)} {f : List Node → Node}
    (hx : Gives (fun nodes => ∀ n ∈ nodes, n.Fits inTable) x)
    (other : ∀ content, (f content).isTextless = false)
    (children : ∀ content, (f content).children = content)
    (through : ∀ content inList, (f content).wellShaped inList inTable =
      Node.allWellShaped inList inTable content) :
    Gives (fun nodes => ∀ n ∈ nodes, n.Fits inTable) (do return [f (← x)]) := by
  refine hx.bind fun content fits => .pure ?_
  intro n m
  rw [List.mem_singleton.mp m]
  refine .of_content (other content) (fun inList => ?_) ?_
  · rw [children, through]
  · rw [children]
    exact fits

mutual

theorem readInlinesFrom_fits (inTable : Bool) (pending : String) :
    (tokens : List Token) → (∀ t ∈ tokens, t.Proper) →
      Gives (fun nodes => ∀ n ∈ nodes, n.Fits inTable) (readInlinesFrom pending tokens)
  | [], _ => by
    rw [readInlinesFrom]
    exact .pure (textNodes_fits inTable pending)
  | .mk data children :: rest, proper => by
    have later (pending : String) := readInlinesFrom_fits inTable pending rest
      fun t m => proper t (List.mem_cons_of_mem _ m)
    have here := readInline_fits inTable (.mk data children) (proper _ List.mem_cons_self)
    rw [readInlinesFrom]
    refine .ite (fun _ => .after fun raw => later _) fun _ => ?_
    refine here.bind fun nodes fits => (later "").bind fun more fits' => .pure ?_
    intro n m
    simp only [List.mem_append] at m
    obtain (m | m) | m := m
    · exact textNodes_fits inTable pending n m
    · exact fits n m
    · exact fits' n m

theorem readInline_fits (inTable : Bool) :
    (t : Token) → t.Proper →
      Gives (fun nodes => ∀ n ∈ nodes, n.Fits inTable) (readInline t)
  | .mk data children, proper => by
    have inside := readInlinesFrom_fits inTable "" children fun t m => proper.child m
    obtain ⟨raw, hraw⟩ := proper.raw
    have single {n : Node} (h : n.Fits inTable) : ∀ m ∈ [n], m.Fits inTable := by simp [h]
    rw [readInline]
    refine .ite (fun _ => .after fun _ => ?_) fun _ => ?_
    · exact fits_span inside (fun _ => rfl) (fun _ => rfl) fun _ _ => by rw [Node.wellShaped]
    refine .ite (fun _ => .after fun _ => ?_) fun _ => ?_
    · exact fits_span inside (fun _ => rfl) (fun _ => rfl) fun _ _ => by rw [Node.wellShaped]
    refine .ite (fun _ => .pure ?_) fun _ => ?_
    · rw [hraw]
      exact single (.of_leaf rfl rfl fun _ => by rw [Node.ofCode, Node.wellShaped])
    refine .ite (fun _ => .after fun attributes => .after fun label => ?_) fun _ => ?_
    · split
      · exact .pure (single (.of_leaf rfl rfl fun _ => by rw [Node.wellShaped]))
      · refine .after fun _ => fits_span (f := fun content => .link _ content _) inside
          (fun _ => rfl) (fun _ => rfl) fun _ _ => by rw [Node.wellShaped]
    refine .ite (fun _ => .after fun attributes => .after fun _ => ?_) fun _ => ?_
    · exact fits_span (f := fun content => .image _ content _) inside (fun _ => rfl)
        (fun _ => rfl) fun _ _ => by rw [Node.wellShaped]
    refine .ite (fun _ => .pure (single (Node.fits_lineBreak inTable false))) fun _ => ?_
    refine .ite (fun _ => .pure (single (Node.fits_lineBreak inTable true))) fun _ => ?_
    refine .ite (fun _ => .after fun _ => ?_) fun _ => ?_
    · exact fits_span inside (fun _ => rfl) (fun _ => rfl) fun _ _ => by rw [Node.wellShaped]
    refine .ite (fun _ => .pure ?_) fun _ => readUnknown_fits inTable data
    rw [hraw]
    exact single (.of_leaf rfl rfl fun _ => by rw [Node.ofHtmlInline, Node.wellShaped])

end

theorem readInlines_fits (inTable : Bool) {t : Token} (proper : t.Proper) :
    Gives (fun nodes => ∀ n ∈ nodes, n.Fits inTable) (readInlines t.data t.children) :=
  .after fun _ => readInlinesFrom_fits inTable "" t.children fun _ m => proper.child m

/-- Taking off an identifier shortens the last text or leaves it out. -/
theorem takeIdentifier_fits {inTable : Bool} {content : List Node}
    (h : ∀ n ∈ content, n.Fits inTable) : ∀ n ∈ (takeIdentifier content).1, n.Fits inTable := by
  fun_induction takeIdentifier content with
  | case1 => exact h
  | case2 content before name found =>
    intro n m
    unfold lineNodes at m
    split at m
    · simp at m
    · rw [List.mem_singleton.mp m]
      exact Node.fits_text inTable _
  | case3 => exact h
  | case4 node rest _ rest' identifier taken ih =>
    rw [taken] at ih
    intro n m
    obtain rfl | m := List.mem_cons.mp m
    · exact h _ List.mem_cons_self
    · exact ih (fun n m => h n (List.mem_cons_of_mem _ m)) n m

theorem readCells_fits : (cells : List Token) → (∀ t ∈ cells, t.Proper) →
    Gives (fun nodes => ∀ n ∈ nodes, ∃ content alignment, n = Node.tableCell content alignment ∧
      ∀ c ∈ content, c.Fits true) (readCells cells)
  | [], _ => by
    rw [readCells]
    exact .pure (by simp)
  | cell :: rest, proper => by
    have later := readCells_fits rest fun t m => proper t (List.mem_cons_of_mem _ m)
    rw [readCells]
    refine .after fun attributes => ?_
    refine (readInlines_fits true (proper cell List.mem_cons_self)).bind fun content fits => ?_
    refine later.bind fun cells others => .pure ?_
    intro n m
    obtain rfl | m := List.mem_cons.mp m
    · exact ⟨content, _, rfl, fits⟩
    · exact others n m

theorem readRows_fits : (rows : List Token) → (∀ t ∈ rows, t.Proper) →
    Gives (fun nodes => ∀ n ∈ nodes, n.FitsTable) (readRows rows)
  | [], _ => by
    rw [readRows]
    exact .pure (by simp)
  | row :: rest, proper => by
    have later := readRows_fits rest fun t m => proper t (List.mem_cons_of_mem _ m)
    have cells := readCells_fits row.children fun _ m => (proper row List.mem_cons_self).child m
    rw [readRows]
    refine .after fun _ => cells.bind fun cells fits => later.bind fun rows others => .pure ?_
    intro n m
    obtain rfl | m := List.mem_cons.mp m
    · exact ⟨cells, false, rfl, fits⟩
    · exact others n m

/-- A table comes out whole once a header has been read or is still to come. -/
theorem readTable_fits : (parts : List Token) → (∀ t ∈ parts, t.Proper) →
    ∀ {header : Option Node} {rows : List Node}, (∀ row ∈ header, row.FitsTable) →
      (∀ row ∈ rows, row.FitsTable) →
      (header.isSome = true ∨ ∃ part ∈ parts, part.isA "table_head" = true) →
      Gives (fun n => n.Fits false) (readTable header rows parts)
  | [], _, header, rows, hh, hr, headed => by
    rw [readTable]
    obtain some_ | ⟨part, m, _⟩ := headed
    · obtain ⟨row, rfl⟩ := Option.isSome_iff_exists.mp some_
      exact .pure (Node.fits_table (hh row rfl) hr)
    · simp at m
  | part :: rest, proper, header, rows, hh, hr, headed => by
    have inside : ∀ t ∈ part.children, t.Proper :=
      fun _ m => (proper part List.mem_cons_self).child m
    have later : ∀ t ∈ rest, t.Proper := fun t m => proper t (List.mem_cons_of_mem _ m)
    rw [readTable]
    refine .ite (fun _ => ?_) fun other => .ite (fun _ => ?_) fun _ => ?_
    · refine .after fun _ => (readCells_fits _ inside).bind fun cells fits => ?_
      refine readTable_fits rest later ?_ hr (.inl rfl)
      intro row m
      cases m
      exact ⟨cells, true, rfl, fits⟩
    · have ahead : header.isSome = true ∨ ∃ part ∈ rest, part.isA "table_head" = true := by
        simpa [other] using headed
      refine .after fun _ => (readRows_fits _ inside).bind fun more fits => ?_
      refine readTable_fits rest later hh ?_ ahead
      intro row m
      obtain m | m := List.mem_append.mp m
      · exact hr row m
      · exact fits row m
    · have ahead : header.isSome = true ∨ ∃ part ∈ rest, part.isA "table_head" = true := by
        simpa [other] using headed
      exact readTable_fits rest later hh hr ahead

theorem readCodeBlock_fits {data : TokenData} {raw : String} (hraw : data.raw = some raw) :
    Gives (fun n => n.Fits false) (readCodeBlock data) := by
  unfold readCodeBlock
  rw [hraw]
  refine .ite (fun _ => .pure ?_) fun _ => .after fun fence => .pure ?_
  · exact .of_leaf rfl rfl fun _ => by rw [Node.ofCodeBlock, Node.wellShaped]
  · exact .of_leaf rfl rfl fun _ => by rw [Node.ofCodeBlock, Node.wellShaped]

theorem dedentNode_fits {n : Node} (h : n.Fits false) :
    Gives (fun n => n.Fits false) (dedentNode n) := by
  cases n with
  | htmlBlock content blankBefore =>
    exact .pure (.of_leaf rfl rfl fun _ => by rw [Node.wellShaped])
  | textless kind => exact absurd (.self _) (h.texts kind)
  | _ => exact .pure h

mutual

theorem readBlocks_fits (inItem blankBefore : Bool) :
    (tokens : List Token) → (∀ t ∈ tokens, t.Proper) →
      Gives (fun nodes => ∀ n ∈ nodes, n.Fits false) (readBlocks inItem blankBefore tokens)
  | [], _ => by
    rw [readBlocks]
    exact .pure (by simp)
  | .mk data children :: rest, proper => by
    have later (blankBefore : Bool) := readBlocks_fits inItem blankBefore rest
      fun t m => proper t (List.mem_cons_of_mem _ m)
    have here := readBlock_fits blankBefore (.mk data children) (proper _ List.mem_cons_self)
    rw [readBlocks]
    refine .ite (fun _ => later true) fun _ => here.bind fun node? fits => ?_
    have dedented : Gives (fun nodes => ∀ n ∈ nodes, n.Fits false) (node?.toList.mapM fun node =>
        if inItem then dedentNode node else return node) := by
      cases node? with
      | none => exact .pure (by simp)
      | some node =>
        have fits := fits node rfl
        rw [Option.toList_some, List.mapM_cons]
        refine .bind (.ite (fun _ => dedentNode_fits fits) fun _ => .pure fits) fun n fits => ?_
        exact .pure (by simpa using fits)
    refine dedented.bind fun here fits => (later _).bind fun nodes others => .pure ?_
    intro n m
    obtain m | m := List.mem_append.mp m
    · exact fits n m
    · exact others n m

theorem readBlock_fits (blankBefore : Bool) :
    (t : Token) → t.Proper →
      Gives (fun node? => ∀ n ∈ node?, n.Fits false) (readBlock blankBefore t)
  | .mk data children, proper => by
    have blocks := readBlocks_fits false false children fun _ m => proper.child m
    have items := readItems_fits data.tight true children fun _ m => proper.child m
    have content := readInlines_fits false proper
    obtain ⟨raw, hraw⟩ := proper.raw
    have single {n : Node} (h : n.Fits false) : ∀ m ∈ some n, m.Fits false := by
      intro m same
      cases same
      exact h
    rw [readBlock]
    refine .ite (fun _ => .after fun attributes => content.bind fun content fits => ?_) fun _ => ?_
    · dsimp only
      refine .after fun level => .pure (single (.of_content rfl (fun _ => ?_) ?_))
      · rw [Node.wellShaped, Node.children]
      · exact takeIdentifier_fits fits
    refine .ite (fun _ => content.bind fun content fits => .pure ?_) fun _ => ?_
    · split
      · simp
      · exact single (.of_content rfl (fun _ => by rw [Node.wellShaped, Node.children]) fits)
    refine .ite (fun _ => (readCodeBlock_fits hraw).bind fun n fits => .pure (single fits)) ?_
    intro _
    refine .ite (fun _ => .after fun _ => blocks.bind fun nodes fits => .pure ?_) fun _ => ?_
    · exact single (.of_content rfl (fun _ => by rw [Node.wellShaped, Node.children]) fits)
    refine .ite (fun _ => .after fun attributes => .after fun _ => ?_) fun _ => ?_
    · refine items.bind fun items fits => .after fun marker => .after fun style => .pure ?_
      exact single (Node.fits_list fits style)
    refine .ite (fun isTable => .after fun _ => ?_) fun _ => ?_
    · have headed := (proper _ (.self _)).2 isTable
      refine .bind (readTable_fits children (fun _ m => proper.child m) ?_ ?_ (.inr headed)) ?_
      · simp
      · simp
      · exact fun n fits => .pure (single fits)
    refine .ite (fun _ => .pure (single ?_)) fun _ => .ite (fun _ => .pure ?_) fun _ => .throw _
    · exact .of_leaf rfl rfl fun _ => by rw [Node.wellShaped]
    · rw [hraw]
      exact single (.of_leaf rfl rfl fun _ => by rw [Node.ofHtmlBlock, Node.wellShaped])

theorem readItems_fits (tight first : Bool) :
    (tokens : List Token) → (∀ t ∈ tokens, t.Proper) →
      Gives (fun nodes => ∀ n ∈ nodes, n.FitsList) (readItems tight first tokens)
  | [], _ => by
    rw [readItems]
    exact .pure (by simp)
  | .mk data children :: rest, proper => by
    have blocks := readBlocks_fits true false children
      fun _ m => (proper _ List.mem_cons_self).child m
    have later := readItems_fits tight false rest fun t m => proper t (List.mem_cons_of_mem _ m)
    have item (status : Option TaskStatus) : Gives (fun nodes => ∀ n ∈ nodes, n.FitsList) (do
        requireChildren data
        let blocks ← readBlocks true false children
        let items ← readItems tight false rest
        return .listItem blocks status (!tight && !first) :: items) := by
      refine .after fun _ => blocks.bind fun blocks fits => later.bind fun items others => .pure ?_
      intro n m
      obtain rfl | m := List.mem_cons.mp m
      · exact .of_blocks fits status _
      · exact others n m
    rw [readItems]
    dsimp only
    refine .ite (fun _ => .after fun _ => ?_) fun _ => ?_
    · exact .ite (fun _ => .after fun _ => .after item) fun _ => .after item
    · exact .ite (fun _ => .after fun _ => .after item) fun _ => .after item

end

/-- **What is read can be printed.** However deep the tokens are nested and whatever the settings
and the formatters, the document of the nodes that they become has a text. -/
theorem readBlocks_rendered {tokens : List Token} (proper : ∀ t ∈ tokens, t.Proper)
    (inItem blankBefore : Bool) {before after : Journal} {nodes : List Node}
    (read : readBlocks inItem blankBefore tokens before = .ok nodes after)
    (settings : RendererSettings) :
    ∃ out, (settings.render (.document nodes)).1 = .ok out := by
  have fits : ∀ n ∈ nodes, n.Fits false := readBlocks_fits inItem blankBefore tokens proper read
  apply settings.render_of_printable
  · exact .of_children rfl fun n m => (fits n m).texts
  · rw [Node.printable, Node.allWellShaped_iff]
    intro n m
    exact (fits n m).shape false

theorem readBlocks_rendered_nested :
    let tag (name : String) : TokenData := { tag := some (.text name) }
    let cell := Token.mk (tag "table_cell") [ofText "a"]
    let table := Token.mk (tag "table") [.mk (tag "table_head") [cell]]
    let go : TokenData := { raw := some "x", attributes := some { info := "go" } }
    let code := Token.mk { go with tag := some (.text "block_code") } []
    let item := Token.mk (tag "list_item") [.mk (tag "block_quote") [table], code]
    let tokens := [Token.mk { tag "list" with attributes := some { ordered := true } } [item]]
    let formatter : CodeFormatter := { name := "go", run := fun _ => .failed "boom" }
    let settings : RendererSettings := { formatters := [("go", formatter)] }
    (∀ t ∈ tokens, t.Proper) ∧ ∃ nodes after, readBlocks false false tokens {} = .ok nodes after ∧
      ∃ out, (settings.render (.document nodes)).1 = .ok out := by
  intro tag cell table go code item tokens formatter settings
  have cell_ : cell.Proper := .of_other rfl rfl (by
    simp only [cell, children, List.mem_singleton, forall_eq]
    exact .of_other rfl rfl (by simp [ofText, children]))
  have table_ : table.Proper := .of_children rfl (fun _ => ⟨_, List.mem_cons_self, by decide⟩) (by
    simp only [table, children, List.mem_singleton, forall_eq]
    exact .of_other rfl rfl (by simpa [children] using cell_))
  have code_ : code.Proper := .of_other rfl rfl (by simp [children, code])
  have item_ : item.Proper := .of_other rfl rfl (by
    simp only [item, children, List.mem_cons, List.not_mem_nil, or_false, forall_eq_or_imp,
      forall_eq]
    exact ⟨.of_other rfl rfl (by simpa [children] using table_), code_⟩)
  have proper : ∀ t ∈ tokens, t.Proper := by
    simp only [tokens, List.mem_singleton, forall_eq]
    exact .of_other rfl rfl (by simpa [children] using item_)
  have run : ∃ nodes after, readBlocks false false tokens {} = .ok nodes after := ⟨_, _, rfl⟩
  obtain ⟨nodes, after, read⟩ := run
  exact ⟨proper, nodes, after, read, readBlocks_rendered proper false false read settings⟩

end Token

end MarkdownCanon
