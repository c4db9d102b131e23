import DocSite.Proofs.Nav.Place
import Mathlib.Data.List.Nodup

/-! # Rows represent the tree

The rows of a tree are made from a walk, yet they know the structure: each row is that of one entry,
it names the row of the entry's parent and lists those of the entry's children, and each row that is
not at the top is listed once (`Represents`). The main statement is `rows_represent_tree`. -/

namespace DocSite.Nav

/-- Whether rows represent a tree. -/
structure Represents (rows : List Row) (tree : Tree) : Prop where
  /-- There is one row for each step of a walk, in the same order, and it shows the step. -/
  shows_steps : rows.map (fun row => (row.label, row.link, row.depth, row.deferred))
    = tree.walk.map fun step => (step.label, step.link, step.depth, step.deferred.isSome)
  /-- Each row is that of one entry. -/
  existsUnique_path : ∀ k < rows.length, ∃! path, rowOf? tree.roots path = some k
  /-- The row of an entry shows the entry, names the row of its parent, which there is none of at
  the top, and lists the rows of its children in order. -/
  row_of_node : ∀ (path : List Nat) (i : Nat) (node : Node),
    nodeAt? tree.roots (path ++ [i]) = some node →
    ∃ (k : Nat) (row : Row), rowOf? tree.roots (path ++ [i]) = some k ∧ rows[k]? = some row ∧
      (row.label = node.label ∧ row.link = node.link ∧ row.deferred = node.deferred?.isSome) ∧
      row.depth = path.length ∧ row.parent = rowOf? tree.roots path ∧
      row.children.map some
        = (List.range node.children.length).map fun j => rowOf? tree.roots (path ++ [i, j])
  /-- Only rows at the top have no parent. -/
  parent_eq_none_iff : ∀ row ∈ rows, row.parent = none ↔ row.depth = 0
  /-- A parent stands in front of its child and is less deep by one. -/
  above_of_parent : ∀ (i j : Nat) (below : Row), rows[j]? = some below → below.parent = some i →
    i < j ∧ ∃ above : Row, rows[i]? = some above ∧ below.depth = above.depth + 1
  /-- The parent of a row is the one that lists it. -/
  mem_children_iff : ∀ i j : Nat, (∃ above : Row, rows[i]? = some above ∧ j ∈ above.children) ↔
    ∃ below : Row, rows[j]? = some below ∧ below.parent = some i
  /-- The rows that are listed are those that are not at the top. -/
  listed_iff : ∀ j : Nat, j ∈ rows.flatMap Row.children ↔
    ∃ row : Row, rows[j]? = some row ∧ row.depth ≠ 0
  /-- No row is listed twice. -/
  nodup_listed : (rows.flatMap Row.children).Nodup

/-! ## Steps -/

mutual

/-- The rows from an entry down show the steps of a walk. -/
theorem Node.map_rows (parent : Option Nat) (depth index : Nat) : (node : Node) →
    (node.rows parent depth index).map
        (fun row => (row.label, row.link, row.depth, row.deferred))
      = (node.preorder depth).map
        fun step => (step.label, step.link, step.depth, step.deferred.isSome)
  | .leaf label link => rfl
  | .deferred label link name => rfl
  | .branch label link children => by
      rw [Node.rows, Node.preorder, List.map_cons, List.map_cons,
        map_forestRows (some index) (depth + 1) (index + 1) children]
      rfl

/-- The rows of a forest show the steps of a walk. -/
theorem map_forestRows (parent : Option Nat) (depth index : Nat) : (forest : List Node) →
    (forestRows parent depth index forest).map
        (fun row => (row.label, row.link, row.depth, row.deferred))
      = (forestPreorder depth forest).map
        fun step => (step.label, step.link, step.depth, step.deferred.isSome)
  | [] => rfl
  | node :: rest => by
      rw [forestRows, forestPreorder, List.map_append, List.map_append,
        node.map_rows parent depth index, map_forestRows parent depth _ rest]

end

/-! ## Relatives -/

namespace Tree

variable (tree : Tree) {i j k : Nat}

/-- The row of an entry. -/
theorem getElem?_rows {path : List Nat} {node : Node}
    (h : nodeAt? tree.roots (path ++ [i]) = some node)
    (hk : rowOf? tree.roots (path ++ [i]) = some k) :
    tree.rows[k]? = some (node.row (rowOf? tree.roots path) path.length k) := by
  obtain ⟨m, hm, hrow, -⟩ := exists_row_of_nodeAt? h
  cases hk.symm.trans hm
  rwa [tree.rows_eq]

/-- Every row is that of an entry. -/
theorem exists_node_of_row {row : Row} (h : tree.rows[k]? = some row) : ∃ path i node,
    nodeAt? tree.roots (path ++ [i]) = some node ∧ rowOf? tree.roots (path ++ [i]) = some k ∧
      row = node.row (rowOf? tree.roots path) path.length k := by
  have hk : k < tree.rows.length := (List.getElem?_eq_some_iff.1 h).1
  rw [tree.rows_eq, length_forestRows] at hk
  obtain ⟨path, hpath⟩ := exists_rowOf? hk
  obtain ⟨above, i, node, rfl, hnode⟩ := exists_concat_of_rowOf? hpath
  exact ⟨above, i, node, hnode, hpath,
    Option.some.inj (h.symm.trans (tree.getElem?_rows hnode hpath))⟩

/-- An entry at a path has as a parent the entry that the path leads to without its last number,
unless it is at the top. -/
theorem rowOf?_eq_none_iff {path : List Nat} {node : Node}
    (h : nodeAt? tree.roots (path ++ [i]) = some node) :
    rowOf? tree.roots path = none ↔ path = [] := by
  obtain ⟨siblings, hsiblings, -⟩ := exists_siblings h
  refine ⟨eq_nil_of_rowOf?_eq_none hsiblings, ?_⟩
  rintro rfl
  rfl

/-- A row is listed by its parent, and only rows that have it as a parent are listed by a row. -/
theorem mem_children_iff (i j : Nat) :
    (∃ above, tree.rows[i]? = some above ∧ j ∈ above.children) ↔
      ∃ below, tree.rows[j]? = some below ∧ below.parent = some i := by
  constructor
  · rintro ⟨above, habove, hj⟩
    obtain ⟨path, l, node, hnode, hi, rfl⟩ := tree.exists_node_of_row habove
    obtain ⟨k, hk, -, hchildren⟩ := exists_row_of_nodeAt? hnode
    cases hi.symm.trans hk
    have hmem := List.mem_map_of_mem (f := some) hj
    rw [hchildren] at hmem
    obtain ⟨m, -, hm⟩ := List.mem_map.1 hmem
    have hpath : path ++ [l, m] = path ++ [l] ++ [m] := by simp
    rw [hpath] at hm
    obtain ⟨child, hchild⟩ := exists_nodeAt? hm
    exact ⟨_, tree.getElem?_rows hchild hm, hi⟩
  · rintro ⟨below, hbelow, hparent⟩
    obtain ⟨path, m, child, hchild, hj, rfl⟩ := tree.exists_node_of_row hbelow
    have hi : rowOf? tree.roots path = some i := hparent
    obtain ⟨above, l, node, rfl, hnode⟩ := exists_concat_of_rowOf? hi
    obtain ⟨k, hk, -, hchildren⟩ := exists_row_of_nodeAt? hnode
    cases hi.symm.trans hk
    refine ⟨_, tree.getElem?_rows hnode hi, ?_⟩
    obtain ⟨siblings, hsiblings, hm⟩ := exists_siblings hchild
    rw [forestAt?_concat, hnode, Option.map_some, Option.some.injEq] at hsiblings
    subst hsiblings
    have hmem : some j ∈ (List.range node.children.length).map
        fun m => rowOf? tree.roots (above ++ [l, m]) := by
      refine List.mem_map.2 ⟨m, List.mem_range.2 (List.getElem?_eq_some_iff.1 hm).1, ?_⟩
      rw [← hj]
      simp
    rw [← hchildren] at hmem
    obtain ⟨j', hj', hsame⟩ := List.mem_map.1 hmem
    cases hsame
    exact hj'

/-- A parent stands in front of its child and is less deep by one. -/
theorem above_of_parent {below : Row} (h : tree.rows[j]? = some below)
    (hparent : below.parent = some i) :
    i < j ∧ ∃ above, tree.rows[i]? = some above ∧ below.depth = above.depth + 1 := by
  obtain ⟨path, m, child, hchild, hj, rfl⟩ := tree.exists_node_of_row h
  have hi : rowOf? tree.roots path = some i := hparent
  obtain ⟨siblings, hsiblings, hm⟩ := exists_siblings hchild
  obtain ⟨above, l, node, rfl, hnode⟩ := exists_concat_of_rowOf? hi
  rw [rowOf?_concat (by simp) hsiblings hi, if_pos (List.getElem?_eq_some_iff.1 hm).1] at hj
  refine ⟨?_, _, tree.getElem?_rows hnode hi, ?_⟩
  · cases hj
    omega
  · exact List.length_append

/-- The children of a row are different rows. -/
theorem nodup_children {row : Row} (h : tree.rows[k]? = some row) : row.children.Nodup := by
  obtain ⟨path, i, node, hnode, hk, rfl⟩ := tree.exists_node_of_row h
  obtain ⟨m, hm, -, hchildren⟩ := exists_row_of_nodeAt? hnode
  cases hk.symm.trans hm
  refine List.Nodup.of_map some ?_
  -- Different numbers give different paths, and these lead to different rows.
  rw [hchildren]
  refine List.Nodup.map_on (fun a ha b _ hab => ?_) List.nodup_range
  obtain ⟨j, hj⟩ : ∃ j, rowOf? tree.roots (path ++ [i, a]) = some j := by
    have hmem := List.mem_map_of_mem (f := fun j => rowOf? tree.roots (path ++ [i, j])) ha
    rw [← hchildren] at hmem
    obtain ⟨j, -, hj⟩ := List.mem_map.1 hmem
    exact ⟨j, hj.symm⟩
  have hpaths := rowOf?_inj hj (hab.symm.trans hj)
  simpa using hpaths

end Tree

/-- **The rows of a tree represent it.** -/
theorem rows_represent_tree (tree : Tree) : Represents tree.rows tree where
  shows_steps := by
    rw [tree.rows_eq, tree.walk_eq]
    exact map_forestRows none 0 0 tree.roots
  existsUnique_path := by
    intro k hk
    rw [tree.rows_eq, length_forestRows] at hk
    exact existsUnique_rowOf? hk
  row_of_node := by
    intro path i node hnode
    obtain ⟨k, hk, hrow, hchildren⟩ := exists_row_of_nodeAt? hnode
    rw [← tree.rows_eq] at hrow
    exact ⟨k, _, hk, hrow, ⟨rfl, rfl, rfl⟩, rfl, rfl, hchildren⟩
  parent_eq_none_iff := by
    intro row hrow
    obtain ⟨k, hk⟩ := List.mem_iff_getElem?.1 hrow
    obtain ⟨path, i, node, hnode, -, rfl⟩ := tree.exists_node_of_row hk
    exact (tree.rowOf?_eq_none_iff hnode).trans List.length_eq_zero_iff.symm
  above_of_parent := fun i j below h hparent => tree.above_of_parent h hparent
  mem_children_iff := tree.mem_children_iff
  listed_iff := by
    intro j
    rw [List.mem_flatMap]
    constructor
    · rintro ⟨above, habove, hj⟩
      obtain ⟨i, hi⟩ := List.mem_iff_getElem?.1 habove
      obtain ⟨below, hbelow, hparent⟩ := (tree.mem_children_iff i j).1 ⟨above, hi, hj⟩
      obtain ⟨-, _, -, hdepth⟩ := tree.above_of_parent hbelow hparent
      exact ⟨below, hbelow, by omega⟩
    · rintro ⟨row, hrow, hdepth⟩
      obtain ⟨path, m, node, hnode, hj, rfl⟩ := tree.exists_node_of_row hrow
      have hpath : path ≠ [] := fun hnil => hdepth (List.length_eq_zero_iff.2 hnil)
      obtain ⟨i, hi⟩ := Option.ne_none_iff_exists'.1
        fun hnone => hpath ((tree.rowOf?_eq_none_iff hnode).1 hnone)
      obtain ⟨above, habove, hj⟩ := (tree.mem_children_iff i j).2 ⟨_, hrow, hi⟩
      exact ⟨above, List.mem_of_getElem? habove, hj⟩
  nodup_listed := by
    rw [List.nodup_flatMap]
    refine ⟨fun row hrow => ?_, List.pairwise_iff_getElem.2 fun a b ha hb hab x hxa hxb => ?_⟩
    · obtain ⟨k, hk⟩ := List.mem_iff_getElem?.1 hrow
      exact tree.nodup_children hk
    · -- A row that is listed twice would have two parents.
      obtain ⟨below, hbelow, hparent⟩ :=
        (tree.mem_children_iff a x).1 ⟨_, List.getElem?_eq_getElem ha, hxa⟩
      obtain ⟨below', hbelow', hparent'⟩ :=
        (tree.mem_children_iff b x).1 ⟨_, List.getElem?_eq_getElem hb, hxb⟩
      cases hbelow.symm.trans hbelow'
      cases hparent.symm.trans hparent'
      exact Nat.lt_irrefl _ hab

end DocSite.Nav
