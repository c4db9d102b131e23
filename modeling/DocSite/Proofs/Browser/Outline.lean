import DocSite.Browser.Draw
import DocSite.Proofs.Browser.Invariant
import DocSite.Proofs.Browser.Relative
import Mathlib.Data.List.Range

/-! # The outline shows the tree

The lines in front of a row are made from the depths of the rows alone: while the rows are drawn one
after another, it is kept for each level whether siblings are to come. They show where the entry
stands all the same (`State.DrawsTree`): a line down for each entry around it that has a sibling to
come, and a branch that bends at the last sibling (`linesTo`).

What carries this from row to row is that the levels of an entry are at the beginning of those of
every deeper row behind it (`exists_latest`). So at the row of a child the levels of its parent are
still there (`State.getElem?_levelsFrom`). The main statement is `outline_shows_tree`. -/

namespace DocSite.Browser

open DocSite.Nav
open DocSite.Screen

/-! ## Siblings to come -/

/-- Whether the entry that a path leads to has a sibling behind it. -/
def HasLaterSibling (forest : List Node) (path : List Nat) : Prop :=
  ∃ above i j, path = above ++ [i] ∧ i < j ∧ (nodeAt? forest (above ++ [j])).isSome = true

/-- A later sibling is there if the next one is. -/
theorem hasLaterSibling_concat_iff {forest : List Node} {above : List Nat} {i : Nat} :
    HasLaterSibling forest (above ++ [i]) ↔ (nodeAt? forest (above ++ [i + 1])).isSome = true := by
  constructor
  · rintro ⟨above', i', j, hpath, hij, hj⟩
    obtain ⟨rfl, hi⟩ := List.append_inj' hpath rfl
    obtain rfl : i = i' := List.singleton_inj.1 hi
    rw [nodeAt?_concat] at hj ⊢
    cases hbelow : forestAt? forest above with
    | none =>
        rw [hbelow] at hj
        cases hj
    | some siblings =>
        rw [hbelow, Option.bind_some, isSome_getElem?] at hj
        rw [Option.bind_some, isSome_getElem?]
        omega
  · intro h
    exact ⟨above, i, i + 1, rfl, Nat.lt_succ_self i, h⟩

instance (forest : List Node) (path : List Nat) : Decidable (HasLaterSibling forest path) :=
  match hpath : path.reverse with
  | [] => isFalse <| by
      rintro ⟨above, i, j, rfl, -⟩
      simp at hpath
  | i :: above => decidable_of_iff ((nodeAt? forest (above.reverse ++ [i + 1])).isSome = true) <| by
      rw [← List.reverse_reverse path, hpath, List.reverse_cons, hasLaterSibling_concat_iff]

/-! ## Lines -/

/-- Whether siblings are to come, for each entry below the top on the way to the one that a path
leads to. -/
def levelsTo (forest : List Node) (path : List Nat) : List Bool :=
  (List.range' 1 (path.length - 1)).map fun depth =>
    decide (HasLaterSibling forest (path.take (depth + 1)))

/-- The lines that show the place of the entry that a path leads to: for each entry around it that
is below the top, a line down if that entry has a later sibling and blanks if not, then a branch,
which bends if the entry itself has none. An entry at the top has no lines. -/
def linesTo (forest : List Node) (path : List Nat) : String :=
  match path.length - 1 with
  | 0 => ""
  | around + 1 =>
      String.join ((List.range' 1 around).map fun depth =>
          if HasLaterSibling forest (path.take (depth + 1)) then "│   " else "    ")
        ++ if HasLaterSibling forest path then "├── " else "└── "

/-- Lines end in a branch. -/
theorem guides_concat (around : List Bool) (more : Bool) :
    guides (around ++ [more])
      = String.join (around.map fun more => if more then "│   " else "    ")
        ++ if more then "├── " else "└── " := by
  induction around with
  | nil => simp [guides]
  | cons first rest ih =>
      have hrest : rest ++ [more] ≠ [] := by simp
      obtain ⟨next, others, hnext⟩ := List.exists_cons_of_ne_nil hrest
      rw [List.cons_append, hnext, guides.eq_3, ← hnext, ih, List.map_cons, String.join_cons,
        String.append_assoc]
      exact fun h => nomatch h

/-- The lines in front of an entry show its levels. -/
theorem guides_levelsTo (forest : List Node) (path : List Nat) :
    guides (levelsTo forest path) = linesTo forest path := by
  rw [levelsTo, linesTo]
  cases hdepth : path.length - 1 with
  | zero => rfl
  | succ around =>
      have hpath : path.take (1 + around + 1) = path := List.take_of_length_le (by omega)
      rw [List.range'_1_concat, List.map_append, List.map_singleton, guides_concat, List.map_map,
        hpath]
      simp only [Function.comp_def, decide_eq_true_eq]

/-- A bend is drawn only at a last sibling. -/
theorem getLast?_of_mem_guides {levels : List Bool} (h : '└' ∈ (guides levels).toList) :
    levels.getLast? = some false := by
  cases levels using List.reverseRecOn with
  | nil => cases h
  | append_singleton around more =>
      rw [List.getLast?_concat]
      cases more with
      | false => rfl
      | true =>
          rw [guides_concat, String.toList_append, List.mem_append] at h
          rcases h with h | h
          · rw [String.toList_join, List.flatMap_map] at h
            obtain ⟨more, -, hmore⟩ := List.mem_flatMap.1 h
            cases more <;> exact absurd hmore (by decide)
          · exact absurd h (by decide)

/-- **The branch bends exactly at a last sibling.** -/
theorem bend_isInfix_guides_iff {levels : List Bool} :
    "└── ".toList <:+: (guides levels).toList ↔ levels.getLast? = some false := by
  constructor
  · intro h
    exact getLast?_of_mem_guides (h.subset (by decide))
  · intro h
    obtain ⟨around, rfl⟩ := List.getLast?_eq_some_iff.1 h
    rw [guides_concat, String.toList_append]
    exact (List.suffix_append _ _).isInfix

/-! ## Levels from row to row -/

variable {above outer levels : List Bool} {rows : List Row} {k m : Nat}

/-- The levels above a deeper row are kept. -/
theorem isPrefix_levelsBelow (h : outer <+: above) {depth : Nat} (hdepth : outer.length < depth)
    (more : Bool) : outer <+: levelsBelow above depth more := by
  obtain ⟨around, rfl⟩ : ∃ around, depth = around + 1 := ⟨depth - 1, by omega⟩
  have hkept : outer <+: (above ++ List.replicate around false).take around :=
    List.prefix_take_iff.2 ⟨h.trans (List.prefix_append _ _), Nat.le_of_lt_succ hdepth⟩
  exact hkept.trans (List.prefix_append _ _)

/-- A row one level deeper adds its own level to those above it. -/
theorem levelsBelow_of_isPrefix (h : outer <+: above) (more : Bool) :
    levelsBelow above (outer.length + 1) more = outer ++ [more] := by
  obtain ⟨deeper, rfl⟩ := h
  rw [levelsBelow, List.append_assoc, List.take_left]

/-- Of what is in front of a row, the levels of the latest row are all that counts. These begin with
whatever the levels in front begin with, as long as all rows in between are deeper. -/
theorem exists_drop_levelsFrom (above : List Bool) (rows : List Row) (k : Nat) :
    ∃ latest, (levelsFrom above rows).drop k = levelsFrom latest (rows.drop k) ∧
      ∀ outer, outer <+: above → (∀ row ∈ rows.take k, outer.length < row.depth) →
        outer <+: latest := by
  induction k generalizing above rows with
  | zero => exact ⟨above, rfl, fun outer houter _ => houter⟩
  | succ k ih =>
      cases rows with
      | nil => exact ⟨above, rfl, fun outer houter _ => houter⟩
      | cons row rest =>
          obtain ⟨latest, hdrop, hkept⟩ :=
            ih (levelsBelow above row.depth (siblingOffset? row.depth rest).isSome) rest
          refine ⟨latest, hdrop, fun outer houter hdeeper => hkept outer ?_ ?_⟩
          · exact isPrefix_levelsBelow houter (hdeeper row List.mem_cons_self) _
          · exact fun x hx => hdeeper x (List.mem_cons_of_mem row hx)

/-- Behind a row come the levels of the rows behind it. -/
theorem drop_levelsFrom_succ (h : (levelsFrom above rows)[m]? = some levels) :
    (levelsFrom above rows).drop (m + 1) = levelsFrom levels (rows.drop (m + 1)) := by
  obtain ⟨latest, hdrop, -⟩ := exists_drop_levelsFrom above rows m
  rw [← List.head?_drop, hdrop] at h
  rw [← List.drop_drop, ← List.drop_drop, hdrop]
  cases hrows : rows.drop m with
  | nil =>
      rw [hrows] at h
      cases h
  | cons row rest =>
      rw [hrows] at h
      cases h
      rfl

/-- **Behind a row its levels are kept as long as the rows are deeper.** -/
theorem exists_latest (h : (levelsFrom above rows)[m]? = some levels) (hmk : m < k)
    (hdeeper : ∀ row ∈ (rows.take k).drop (m + 1), levels.length < row.depth) :
    ∃ latest, (levelsFrom above rows).drop k = levelsFrom latest (rows.drop k) ∧
      levels <+: latest := by
  obtain ⟨latest, hdrop, hkept⟩ :=
    exists_drop_levelsFrom levels (rows.drop (m + 1)) (k - (m + 1))
  have hk : m + 1 + (k - (m + 1)) = k := by omega
  refine ⟨latest, ?_, hkept levels List.prefix_rfl fun row hrow => hdeeper row ?_⟩
  · rw [← drop_levelsFrom_succ h, List.drop_drop, List.drop_drop, hk] at hdrop
    exact hdrop
  · rwa [List.take_drop, hk] at hrow

/-! ## The levels of an entry -/

namespace State

variable {state : State} {entries siblings : List Node} {node : Node} {front back : List Row}
  {path : List Nat} {i : Nat}

/-- A sibling of the current row is to come exactly if its entry has a later one. -/
theorem StandsAt.isSome_siblingOffset?
    (h : state.StandsAt entries path i siblings node front back) :
    (siblingOffset? path.length (state.rows.drop (state.row + 1))).isSome
      = decide (HasLaterSibling entries (path ++ [i])) := by
  have hnext := h.nextSibling?_eq
  have hdepth : (node.row (rowOf? entries path) path.length state.row).depth = path.length := rfl
  rw [nextSibling?, h.currentRow_eq, Option.bind_some, hdepth] at hnext
  rw [Bool.eq_iff_iff, decide_eq_true_iff, hasLaterSibling_concat_iff, ← isSome_rowOf?, ← hnext,
    Option.isSome_map]

/-- From the current row on, the levels begin with those of its entry if the levels above are
known. -/
theorem StandsAt.getElem?_levelsFrom (h : state.StandsAt entries path i siblings node front back)
    {latest : List Bool}
    (hdrop : (levelsFrom [] state.rows).drop state.row
      = levelsFrom latest (state.rows.drop state.row)) :
    (levelsFrom [] state.rows)[state.row]? = some (levelsBelow latest path.length
      (decide (HasLaterSibling entries (path ++ [i])))) := by
  have hrow := h.currentRow_eq
  rw [currentRow, ← List.head?_drop] at hrow
  obtain ⟨rest, hrest⟩ := List.head?_eq_some_iff.1 hrow
  have hbehind : state.rows.drop (state.row + 1) = rest := by
    rw [← List.drop_drop, hrest, List.drop_one, List.tail_cons]
  rw [← List.head?_drop, hdrop, hrest, levelsFrom, List.head?_cons, ← h.isSome_siblingOffset?,
    hbehind]
  rfl

/-- The levels of an entry are those of its parent and its own. -/
theorem levelsTo_concat (entries : List Node) (hpath : path ≠ []) (i : Nat) :
    levelsTo entries (path ++ [i])
      = levelsTo entries path ++ [decide (HasLaterSibling entries (path ++ [i]))] := by
  obtain ⟨depth, hdepth⟩ : ∃ depth, path.length = depth + 1 :=
    Nat.exists_eq_succ_of_ne_zero (fun h => hpath (List.length_eq_zero_iff.1 h))
  have hwhole : (path ++ [i]).take (1 + depth + 1) = path ++ [i] :=
    List.take_of_length_le (by simp; omega)
  have hlength : (path ++ [i]).length - 1 = depth + 1 := by simp [hdepth]
  rw [levelsTo, levelsTo, hlength, hdepth, Nat.add_sub_cancel, List.range'_1_concat,
    List.map_append, List.map_singleton, hwhole]
  congr 1
  refine List.map_congr_left fun d hd => ?_
  rw [List.mem_range'_1] at hd
  rw [List.take_append_of_le_length (by omega)]

/-- The rows below a parent stand right behind the parent's own. -/
theorem length_front (h : Around entries path siblings front back) (hsome : siblings ≠ [])
    (hm : rowOf? entries path = some m) : front.length = m + 1 := by
  have hpath : path ≠ [] := by
    rintro rfl
    cases hm
  have hfirst := h.rowOf?_eq 0
  rw [if_pos (List.length_pos_iff.2 hsome), List.take_zero, Node.sizes, Nat.add_zero] at hfirst
  obtain ⟨node, hnode⟩ := exists_nodeAt? hfirst
  obtain ⟨below, hbelow, h0⟩ := exists_siblings hnode
  rw [rowOf?_concat hpath hbelow hm, if_pos (List.getElem?_eq_some_iff.1 h0).1, List.take_zero,
    Node.sizes, Nat.add_zero] at hfirst
  exact (Option.some.inj hfirst).symm

/-- **The levels at a row are those of its entry.** -/
theorem getElem?_levelsFrom (hrows : state.rows = forestRows none 0 0 entries)
    (hk : rowOf? entries path = some k) :
    (levelsFrom [] state.rows)[k]? = some (levelsTo entries path) := by
  induction path using List.reverseRecOn generalizing k with
  | nil => cases hk
  | append_singleton path i ih =>
      obtain ⟨siblings, node, front, back, h⟩ :=
        @exists_standsAt { state with row := k } _ _ _ hrows hk
      cases hm : rowOf? entries path with
      | none =>
          obtain ⟨_, hnode⟩ := exists_nodeAt? hk
          obtain ⟨_, hsiblings, -⟩ := exists_siblings hnode
          obtain rfl := eq_nil_of_rowOf?_eq_none hsiblings hm
          obtain ⟨latest, hdrop, -⟩ := exists_drop_levelsFrom [] state.rows k
          exact h.getElem?_levelsFrom hdrop
      | some m =>
          have hpath : path ≠ [] := by
            rintro rfl
            cases hm
          have hdepth : (levelsTo entries path).length + 1 = path.length := by
            have hpos := List.length_pos_iff.2 hpath
            rw [levelsTo, List.length_map, List.length_range']
            omega
          have hfront : front.length = m + 1 :=
            length_front h.around (List.ne_nil_of_mem (List.mem_of_getElem? h.getElem?_eq)) hm
          have hmk : m < k := by
            have hrow : k = _ := h.row_eq_add
            omega
          -- Between the rows of a parent and its child are those of the siblings in front.
          have hdeeper : ∀ row ∈ (state.rows.take k).drop (m + 1),
              (levelsTo entries path).length < row.depth := by
            intro row hrow
            have htake : state.rows.take k = _ := h.take_rows
            rw [htake, ← hfront, List.drop_left] at hrow
            have hle := le_depth_of_mem_forestRows _ hrow
            omega
          obtain ⟨latest, hdrop, hlatest⟩ := exists_latest (ih hm) hmk hdeeper
          rw [levelsTo_concat entries hpath, ← levelsBelow_of_isPrefix hlatest, hdepth]
          exact h.getElem?_levelsFrom hdrop

/-- The branch to an entry bends exactly if the entry is below the top and there is no next one. -/
theorem bend_isInfix_linesTo_iff :
    "└── ".toList <:+: (linesTo entries (path ++ [i])).toList ↔
      path.length ≠ 0 ∧ rowOf? entries (path ++ [i + 1]) = none := by
  rw [← guides_levelsTo, bend_isInfix_guides_iff, ← Option.not_isSome_iff_eq_none, isSome_rowOf?]
  cases path with
  | nil =>
      constructor
      · intro h
        cases h
      · intro h
        exact absurd rfl h.1
  | cons j rest =>
      rw [levelsTo_concat entries (List.cons_ne_nil j rest), List.getLast?_concat,
        Option.some.injEq, decide_eq_false_iff_not, hasLaterSibling_concat_iff]
      exact ⟨fun h => ⟨Nat.succ_ne_zero _, h⟩, And.right⟩

/-! ## The outline -/

/-- Whether the rows of a state are drawn so as to show the entries of a tree. -/
structure DrawsTree (state : State) (roots : List Node) : Prop where
  /-- What is drawn is a list with an item for each row. -/
  drawTree_eq : ∀ width height, state.drawTree width height
    = listBox state.treeHeading width height (state.currentRow.map fun _ => state.row)
      (outlineItems treeLabel state.rows)
  /-- Each row is that of one entry. -/
  existsUnique_path : ∀ k < state.rows.length, ∃! path, rowOf? roots path = some k
  /-- In front of a row's label are the lines that show the place of its entry. They bend exactly if
  the row is below the top and there is no next sibling to move to. -/
  item_of_path : ∀ path k, rowOf? roots path = some k → ∃ row, state.rows[k]? = some row ∧
    path.length = row.depth + 1 ∧
    (outlineItems treeLabel state.rows)[k]? = some (.plain (linesTo roots path) :: treeLabel row) ∧
    ("└── ".toList <:+: (linesTo roots path).toList ↔
      row.depth ≠ 0 ∧ nextSibling? { state with row := k } = none)

/-- Where a row is, the lines in front of it are those of its entry. -/
theorem getElem?_outline (hrows : state.rows = forestRows none 0 0 entries)
    (hk : rowOf? entries path = some k) :
    (outline state.rows)[k]? = some (linesTo entries path) := by
  rw [outline, List.getElem?_map, getElem?_levelsFrom hrows hk, Option.map_some, guides_levelsTo]

/-- Rows of a tree are drawn so as to show it. -/
theorem drawsTree (hrows : state.rows = forestRows none 0 0 entries) (hmode : state.mode = .tree) :
    state.DrawsTree entries where
  drawTree_eq := by
    intro width height
    rw [drawTree, hmode]
    rfl
  existsUnique_path := by
    intro k hk
    rw [hrows, length_forestRows] at hk
    exact existsUnique_rowOf? hk
  item_of_path := by
    intro path k hk
    obtain ⟨above, i, node, rfl, hnode⟩ := exists_concat_of_rowOf? hk
    obtain ⟨siblings, node, front, back, h⟩ :=
      @exists_standsAt { state with row := k } _ _ _ hrows hk
    have hrow : state.rows[k]? = _ := h.currentRow_eq
    refine ⟨_, hrow, List.length_append, ?_, ?_⟩
    · rw [outlineItems, List.getElem?_zipWith, getElem?_outline hrows hk, hrow]
    · rw [h.nextSibling?_eq]
      exact bend_isInfix_linesTo_iff

end State

/-- **The outline shows the tree**: whatever keys are pressed. -/
theorem outline_shows_tree (tree : Tree) (index : Search.Index) (files : Files)
    (keys : List Key) :
    ((Session.start (.tree tree) index).run files keys).state.DrawsTree tree.roots := by
  have hstart : (Session.start (.tree tree) index).Sound (Session.start (.tree tree) index) files :=
    ⟨State.sound_ofNavigation (.tree tree) _, rfl, rfl⟩
  have hsound := hstart.run (State.pointsToRows_ofNavigation (.tree tree)) keys
  refine State.drawsTree ?_ hsound.state.mode
  rw [hsound.state.rows]
  exact State.rows_ofNavigation (.tree tree)

/-- The second section of the first chapter is its last one, so nothing leads down beside it. -/
example : outline (State.ofNavigation State.bookNavigation).rows
    = ["", "├── ", "│   └── ", "└── ", ""] := by decide

end DocSite.Browser
