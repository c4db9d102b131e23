import DocSite.Browser.Move
import DocSite.Proofs.Nav.Place

/-! # Moves among relatives

The moves to the parent, to the first child and to the siblings lead to the rows of these entries,
and nowhere if there is no such entry (`State.FollowsEntries`); plain links are entries at the top
with nothing below them. Siblings are looked for by depth alone. This finds them because what is
below an entry is deeper (`siblingOffset?_append`) and because the row in front of the entries below
a parent and the one behind them are less deep (`Around`). The main statement is
`moves_follow_entries`. -/

namespace DocSite

open DocSite.Nav

/-- The entry that a plain link stands for: there is nothing below it. -/
def Nav.Link.entry (link : Link) : Node :=
  .leaf link.label link.link

/-- The entries that the rows of a browser stand for. -/
def Navigation.entries : Navigation → List Node
  | .tree shown => shown.roots
  | .links plain => plain.map Link.entry

namespace Browser

/-- Whether the moves from a state's current row lead to the rows of its relatives. -/
structure State.FollowsEntries (state : State) (entries : List Node) : Prop where
  /-- The current row is that of one entry. -/
  existsUnique_path : state.row < state.rows.length →
    ∃! path, rowOf? entries path = some state.row
  /-- Only where there is no entry, there is no row. -/
  row_eq_none_iff : ∀ path, rowOf? entries path = none ↔ nodeAt? entries path = none
  /-- The move to the parent leads to the entry that the current one is below, and nowhere from the
  top. -/
  parent_eq : ∀ path i, rowOf? entries (path ++ [i]) = some state.row →
    state.parentRow? = rowOf? entries path
  /-- The move to the first child leads to the first of the entries below. -/
  firstChild_eq : ∀ path i, rowOf? entries (path ++ [i]) = some state.row →
    state.firstChild? = rowOf? entries (path ++ [i, 0])
  /-- The move to the next sibling leads to the entry that follows below the same one. -/
  next_eq : ∀ path i, rowOf? entries (path ++ [i]) = some state.row →
    state.nextSibling? = rowOf? entries (path ++ [i + 1])
  /-- The move to the previous sibling leads back from there, and nowhere from the first one. -/
  prev_eq : ∀ path i, rowOf? entries (path ++ [i]) = some state.row →
    state.prevSibling? = if i = 0 then none else rowOf? entries (path ++ [i - 1])

/-! ## The rows at the start -/

/-- The rows of plain links are those of entries at the top. -/
theorem forestRows_links (index : Nat) (links : List Link) :
    forestRows none 0 index (links.map Link.entry) = linkRows links := by
  induction links generalizing index with
  | nil => rfl
  | cons link rest ih =>
      rw [List.map_cons, forestRows, ih]
      rfl

/-- The rows at the start are those of the entries. -/
theorem State.rows_ofNavigation (navigation : Navigation) :
    (State.ofNavigation navigation).rows = forestRows none 0 0 navigation.entries := by
  cases navigation with
  | tree shown => exact shown.rows_eq
  | links links => exact (forestRows_links 0 links).symm

/-! ## Looking for siblings -/

/-- Rows that are deeper are passed over. -/
theorem siblingOffset?_append {depth : Nat} {deeper : List Row}
    (h : ∀ row ∈ deeper, depth < row.depth) (rows : List Row) :
    siblingOffset? depth (deeper ++ rows)
      = (siblingOffset? depth rows).map (deeper.length + ·) := by
  induction deeper with
  | nil => simp
  | cons row rest ih =>
      have hrow : depth < row.depth := h row List.mem_cons_self
      rw [List.cons_append, siblingOffset?, if_neg (Nat.ne_of_gt hrow),
        if_neg (Nat.not_lt_of_gt hrow), ih fun x hx => h x (List.mem_cons_of_mem row hx),
        Option.map_map]
      congr 1
      funext n
      simp only [Function.comp_def, List.length_cons]
      omega

/-- An entry of the same depth is found. -/
theorem siblingOffset?_row (parent : Option Nat) (depth index : Nat) (node : Node)
    (rows : List Row) : siblingOffset? depth (node.row parent depth index :: rows) = some 0 := by
  rw [siblingOffset?, Node.row, if_pos rfl]

/-- A row that is less deep ends the search. -/
theorem siblingOffset?_eq_none {depth : Nat} {rows : List Row}
    (h : ∀ row ∈ rows.head?, row.depth < depth) : siblingOffset? depth rows = none := by
  cases rows with
  | nil => rfl
  | cons row rest =>
      have hrow : row.depth < depth := h row rfl
      rw [siblingOffset?, if_neg (Nat.ne_of_lt hrow), if_pos hrow]

/-! ## Relatives -/

namespace State

/-- Where the current entry stands: its number among the entries below a path, and the rows around
these. -/
structure StandsAt (state : State) (entries : List Node) (path : List Nat) (i : Nat)
    (siblings : List Node) (node : Node) (front back : List Row) : Prop where
  /-- The rows are those of the entries. -/
  rows_eq : state.rows = forestRows none 0 0 entries
  /-- The path leads to the current row. -/
  row_eq : rowOf? entries (path ++ [i]) = some state.row
  /-- The entries below the path stand between these rows. -/
  around : Around entries path siblings front back
  /-- The current entry is one of them. -/
  getElem?_eq : siblings[i]? = some node
  /-- What is below the current entry is what is below its path. -/
  below : forestAt? entries (path ++ [i]) = some node.children

variable {state : State} {entries : List Node} {path : List Nat} {i : Nat}

/-- Where a path leads to the current row, its entry stands somewhere. -/
theorem exists_standsAt (hrows : state.rows = forestRows none 0 0 entries)
    (hk : rowOf? entries (path ++ [i]) = some state.row) :
    ∃ siblings node front back, state.StandsAt entries path i siblings node front back := by
  obtain ⟨node, hnode⟩ := exists_nodeAt? hk
  obtain ⟨siblings, hsiblings, hi⟩ := exists_siblings hnode
  obtain ⟨front, back, haround⟩ := exists_around hsiblings
  refine ⟨siblings, node, front, back, hrows, hk, haround, hi, ?_⟩
  rw [forestAt?_concat, hnode]
  rfl

namespace StandsAt

variable {siblings : List Node} {node : Node} {front back : List Row}
  (h : state.StandsAt entries path i siblings node front back)

include h

/-- The current entry's number is in range. -/
theorem lt_length : i < siblings.length :=
  (List.getElem?_eq_some_iff.1 h.getElem?_eq).1

/-- The current row is counted from the rows in front. -/
theorem row_eq_add : state.row = front.length + Node.sizes (siblings.take i) := by
  have hk := h.row_eq
  rw [h.around.rowOf?_eq, if_pos h.lt_length] at hk
  exact (Option.some.inj hk).symm

/-- The current row shows the current entry. -/
theorem currentRow_eq :
    state.currentRow = some (node.row (rowOf? entries path) path.length state.row) := by
  rw [currentRow, h.rows_eq, h.around.rows_split h.getElem?_eq h.row_eq]
  conv => lhs; rw [← h.around.length_rowsBefore h.row_eq]
  rw [List.getElem?_append_right (Nat.le_refl _), Nat.sub_self, List.getElem?_cons_zero,
    h.around.length_rowsBefore h.row_eq]

/-- Behind the current row are the rows of the entries below it, then those of the siblings that
follow. -/
theorem drop_rows : state.rows.drop (state.row + 1)
    = forestRows (some state.row) (path.length + 1) (state.row + 1) node.children
      ++ (forestRows (rowOf? entries path) path.length (state.row + node.size)
        (siblings.drop (i + 1)) ++ back) := by
  have hlength := h.around.length_rowsBefore h.row_eq
  rw [h.rows_eq, h.around.rows_split h.getElem?_eq h.row_eq, List.drop_append,
    List.drop_of_length_le (by omega), hlength, Nat.add_sub_cancel_left, List.nil_append]
  rfl

/-- In front of the current row are the rows of the siblings that it follows. -/
theorem take_rows : state.rows.take state.row
    = front ++ forestRows (rowOf? entries path) path.length front.length (siblings.take i) := by
  rw [h.rows_eq, h.around.rows_split h.getElem?_eq h.row_eq,
    List.take_left' (h.around.length_rowsBefore h.row_eq)]
  rfl

/-- The move to the parent. -/
theorem parentRow?_eq : state.parentRow? = rowOf? entries path := by
  rw [parentRow?, h.currentRow_eq]
  rfl

/-- The move to the first child. -/
theorem firstChild?_eq : state.firstChild? = rowOf? entries (path ++ [i, 0]) := by
  have hpath : path ++ [i, 0] = path ++ [i] ++ [0] := by simp
  rw [firstChild?, h.currentRow_eq, hpath, rowOf?_concat (by simp) h.below h.row_eq]
  change (rootPositions (state.row + 1) node.children).head? = _
  cases node.children with
  | nil => rfl
  | cons child rest => simp [rootPositions, Node.sizes]

/-- The move to the next sibling: the rows of the entries below the current one are deeper, and
behind its last sibling a row is less deep. -/
theorem nextSibling?_eq : state.nextSibling? = rowOf? entries (path ++ [i + 1]) := by
  have hdeeper : ∀ row ∈ forestRows (some state.row) (path.length + 1) (state.row + 1)
      node.children, path.length < row.depth :=
    fun row hrow => le_depth_of_mem_forestRows node.children hrow
  have hdepth : (node.row (rowOf? entries path) path.length state.row).depth = path.length := rfl
  rw [nextSibling?, h.currentRow_eq, Option.bind_some, h.drop_rows, hdepth,
    siblingOffset?_append hdeeper, length_forestRows, h.around.rowOf?_eq]
  -- What comes behind them is the next sibling's row or, behind the last one, a row less deep.
  by_cases hnext : i + 1 < siblings.length
  · rw [if_pos hnext, List.drop_eq_getElem_cons hnext, forestRows, Node.rows_eq,
      List.cons_append, List.cons_append, siblingOffset?_row, sizes_take_succ h.getElem?_eq,
      node.size_eq, h.row_eq_add]
    simp only [Option.map_some, Option.some.injEq]
    omega
  · rw [if_neg hnext, List.drop_of_length_le (Nat.le_of_not_lt hnext), forestRows, List.nil_append,
      siblingOffset?_eq_none h.around.back_lt]
    rfl

/-- The move to the previous sibling: the rows of the entries below that one are deeper, and in
front of the first sibling a row is less deep. -/
theorem prevSibling?_eq :
    state.prevSibling? = if i = 0 then none else rowOf? entries (path ++ [i - 1]) := by
  have hdepth : (node.row (rowOf? entries path) path.length state.row).depth = path.length := rfl
  rw [prevSibling?, h.currentRow_eq, Option.bind_some, h.take_rows, hdepth]
  cases i with
  | zero =>
      rw [if_pos rfl, List.take_zero, forestRows, List.append_nil, siblingOffset?_eq_none]
      · rfl
      · rw [List.head?_reverse]
        exact h.around.front_lt
  | succ i =>
      have hi : i < siblings.length := Nat.lt_of_succ_lt h.lt_length
      have hprev : siblings[i]? = some siblings[i] := List.getElem?_eq_getElem hi
      -- Read backwards, the rows below the previous sibling come first, and its own behind them.
      have hdeeper : ∀ row ∈ (forestRows
          (some (front.length + Node.sizes (siblings.take i))) (path.length + 1)
          (front.length + Node.sizes (siblings.take i) + 1) siblings[i].children).reverse,
          path.length < row.depth :=
        fun row hrow => le_depth_of_mem_forestRows siblings[i].children (List.mem_reverse.1 hrow)
      rw [if_neg (Nat.succ_ne_zero i), Nat.add_sub_cancel, h.around.rowOf?_eq, if_pos hi,
        List.take_add_one, hprev, Option.toList_some, forestRows_append, forestRows, forestRows,
        List.append_nil, Node.rows_eq, List.reverse_append, List.reverse_append,
        List.reverse_cons, List.append_assoc, List.append_assoc, siblingOffset?_append hdeeper,
        List.singleton_append, siblingOffset?_row, List.length_reverse, length_forestRows,
        h.row_eq_add, sizes_take_succ hprev, Node.size_eq]
      simp only [Option.map_some, Option.some.injEq]
      omega

end StandsAt

/-- The moves from any row lead to its relatives. -/
theorem followsEntries (hrows : state.rows = forestRows none 0 0 entries) :
    state.FollowsEntries entries where
  existsUnique_path := by
    intro hrow
    rw [hrows, length_forestRows] at hrow
    exact existsUnique_rowOf? hrow
  row_eq_none_iff := by
    intro path
    rw [← Option.isNone_iff_eq_none, ← Option.isNone_iff_eq_none, ← Option.not_isSome,
      ← Option.not_isSome, isSome_rowOf?]
  parent_eq := by
    intro path i hk
    obtain ⟨siblings, node, front, back, h⟩ := exists_standsAt hrows hk
    exact h.parentRow?_eq
  firstChild_eq := by
    intro path i hk
    obtain ⟨siblings, node, front, back, h⟩ := exists_standsAt hrows hk
    exact h.firstChild?_eq
  next_eq := by
    intro path i hk
    obtain ⟨siblings, node, front, back, h⟩ := exists_standsAt hrows hk
    exact h.nextSibling?_eq
  prev_eq := by
    intro path i hk
    obtain ⟨siblings, node, front, back, h⟩ := exists_standsAt hrows hk
    exact h.prevSibling?_eq

namespace FollowsEntries

/-- The current row, if there is one, is that of an entry with a number. -/
theorem exists_path (h : state.FollowsEntries entries) {row : Row}
    (hrow : state.currentRow = some row) :
    ∃ path i, rowOf? entries (path ++ [i]) = some state.row := by
  obtain ⟨path, hpath, -⟩ := h.existsUnique_path (List.getElem?_eq_some_iff.1 hrow).1
  obtain ⟨above, i, node, rfl, -⟩ := exists_concat_of_rowOf? hpath
  exact ⟨above, i, hpath⟩

/-- A move to the next sibling starts at a row. -/
theorem exists_path_of_next {a b : Nat} (h : FollowsEntries { state with row := a } entries)
    (hnext : nextSibling? { state with row := a } = some b) :
    ∃ path i, rowOf? entries (path ++ [i]) = some a ∧
      rowOf? entries (path ++ [i + 1]) = some b := by
  obtain ⟨row, hrow, -⟩ := Option.bind_eq_some_iff.1 hnext
  obtain ⟨path, i, ha⟩ := h.exists_path hrow
  exact ⟨path, i, ha, (h.next_eq path i ha).symm.trans hnext⟩

/-- A move to the previous sibling starts at a row. -/
theorem exists_path_of_prev {a b : Nat} (h : FollowsEntries { state with row := b } entries)
    (hprev : prevSibling? { state with row := b } = some a) :
    ∃ path i, rowOf? entries (path ++ [i]) = some a ∧
      rowOf? entries (path ++ [i + 1]) = some b := by
  obtain ⟨row, hrow, -⟩ := Option.bind_eq_some_iff.1 hprev
  obtain ⟨path, i, hb⟩ := h.exists_path hrow
  have ha := (h.prev_eq path i hb).symm.trans hprev
  cases i with
  | zero => cases ha
  | succ i => exact ⟨path, i, ha, hb⟩

end FollowsEntries

/-- **The moves follow the entries**: those among siblings lead back to where they came from, and
siblings have the same parent. -/
theorem moves_follow_entries (navigation : Navigation) (state : State)
    (h : state.rows = (State.ofNavigation navigation).rows) :
    state.FollowsEntries navigation.entries ∧
      (∀ a b, nextSibling? { state with row := a } = some b ↔
        prevSibling? { state with row := b } = some a) ∧
      ∀ a b, nextSibling? { state with row := a } = some b →
        ∃ parent, state.rows[a]?.map Row.parent = some parent ∧
          state.rows[b]?.map Row.parent = some parent := by
  have hrows := h.trans (rows_ofNavigation navigation)
  -- The moves look at the rows and the current one only, so any row may be made the current one.
  have hfollows (row : Nat) : FollowsEntries { state with row } navigation.entries :=
    followsEntries hrows
  refine ⟨followsEntries hrows, fun a b => ⟨fun hnext => ?_, fun hprev => ?_⟩,
    fun a b hnext => ?_⟩
  · obtain ⟨path, i, ha, hb⟩ := (hfollows a).exists_path_of_next hnext
    exact ((hfollows b).prev_eq path (i + 1) hb).trans ha
  · obtain ⟨path, i, ha, hb⟩ := (hfollows b).exists_path_of_prev hprev
    exact ((hfollows a).next_eq path i ha).trans hb
  · obtain ⟨path, i, ha, hb⟩ := (hfollows a).exists_path_of_next hnext
    obtain ⟨_, _, _, _, hstands⟩ := @exists_standsAt { state with row := a } _ _ _ hrows ha
    obtain ⟨_, _, _, _, hstands'⟩ := @exists_standsAt { state with row := b } _ _ _ hrows hb
    refine ⟨rowOf? navigation.entries path, ?_, ?_⟩
    · exact congrArg (Option.map Row.parent) hstands.currentRow_eq
    · exact congrArg (Option.map Row.parent) hstands'.currentRow_eq

/-- Between the two chapters at the top are the sections of the first one. -/
def bookNavigation : Navigation :=
  .tree (.ofParts
    [.branch "First" "first.html"
        [.branch "One" "one.html" [.leaf "Note" "note.html"], .deferred "Two" "two.html" "two"],
      .leaf "Second" "second.html"] .empty)

/-- From the second section of the first chapter there is no next sibling, although the second
chapter comes right behind it; the previous one is two rows up. -/
theorem moves_follow_entries_book :
    let state : State := { ofNavigation bookNavigation with row := 3, view := .search }
    state.parentRow? = some 0 ∧ state.firstChild? = none ∧ state.nextSibling? = none ∧
      state.prevSibling? = some 1 := by
  intro state
  obtain ⟨hfollows, -, -⟩ := moves_follow_entries bookNavigation state rfl
  have hrow : rowOf? bookNavigation.entries [0, 1] = some state.row := by decide
  refine ⟨?_, ?_, ?_, ?_⟩
  · exact (hfollows.parent_eq [0] 1 hrow).trans (by decide)
  · exact (hfollows.firstChild_eq [0] 1 hrow).trans (by decide)
  · exact (hfollows.next_eq [0] 1 hrow).trans (by decide)
  · exact (hfollows.prev_eq [0] 1 hrow).trans (by decide)

end State

end Browser

end DocSite
