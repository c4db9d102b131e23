import DocSite.Proofs.Nav.Listing
import Mathlib.Data.List.Induction

/-! # Places in a forest

An entry of a forest is reached by a path, the numbers of the entries on the way to it
(`nodeAt?`), and its row is the number of entries in front of it in document order (`rowOf?`).

The entries below a path stand in the list of all rows between rows that are less deep
(`Around`, `exists_around`), so it can be read off there what row an entry has
(`exists_row_of_nodeAt?`) and what is behind and in front of it. Every row is that of one entry
(`existsUnique_rowOf?`). -/

namespace DocSite.Nav

/-! ## Paths -/

/-- The forest below a path. -/
def forestAt? (forest : List Node) : List Nat → Option (List Node)
  | [] => some forest
  | i :: path => forest[i]?.bind fun node => forestAt? node.children path

/-- The entry that a path leads to: its numbers count the entries of a forest, then those below the
entry reached so far. -/
def nodeAt? (forest : List Node) : List Nat → Option Node
  | [] => none
  | [i] => forest[i]?
  | i :: path => forest[i]?.bind fun node => nodeAt? node.children path

/-- The row of the entry that a path leads to: the number of entries in front of it. -/
def rowOf? (forest : List Node) : List Nat → Option Nat
  | [] => none
  | i :: path => forest[i]?.bind fun node =>
      let before := Node.sizes (forest.take i)
      match path with
      | [] => some before
      | _ :: _ => (rowOf? node.children path).map (before + 1 + ·)

variable {forest siblings : List Node} {node : Node} {path : List Nat} {i k : Nat}

/-- A path with one number more leads to one of the entries below it. -/
theorem nodeAt?_concat (forest : List Node) (path : List Nat) (i : Nat) :
    nodeAt? forest (path ++ [i]) = (forestAt? forest path).bind (·[i]?) := by
  induction path generalizing forest with
  | nil => rfl
  | cons j rest ih =>
      cases hrest : rest ++ [i] with
      | nil => simp at hrest
      | cons l more =>
          rw [List.cons_append, hrest, nodeAt?, forestAt?, Option.bind_assoc, ← hrest]
          simp only [ih]
          exact fun h => nomatch h

/-- Below a path with one number more is what is below the entry that it leads to. -/
theorem forestAt?_concat (forest : List Node) (path : List Nat) (i : Nat) :
    forestAt? forest (path ++ [i]) = (nodeAt? forest (path ++ [i])).map Node.children := by
  rw [nodeAt?_concat]
  induction path generalizing forest with
  | nil =>
      rw [List.nil_append, forestAt?, forestAt?, Option.bind_some]
      cases forest[i]? with
      | none => rfl
      | some node => rfl
  | cons j rest ih =>
      rw [List.cons_append, forestAt?, forestAt?]
      cases forest[j]? with
      | none => rfl
      | some node => exact ih node.children

/-- Rows are counted below the row of the entry above. -/
theorem rowOf?_cons (forest : List Node) (i : Nat) (hpath : path ≠ []) :
    rowOf? forest (i :: path) = forest[i]?.bind fun node =>
      (rowOf? node.children path).map (Node.sizes (forest.take i) + 1 + ·) := by
  cases path with
  | nil => exact absurd rfl hpath
  | cons j rest => rfl

theorem rowOf?_singleton (forest : List Node) (i : Nat) :
    rowOf? forest [i]
      = if i < forest.length then some (Node.sizes (forest.take i)) else none := by
  rw [rowOf?]
  by_cases hi : i < forest.length
  · rw [if_pos hi, List.getElem?_eq_getElem hi]
    rfl
  · rw [if_neg hi, List.getElem?_eq_none (Nat.le_of_not_lt hi)]
    rfl

/-- Behind an entry's row are those of the entries below it. -/
theorem rowOf?_concat (hpath : path ≠ []) (hsiblings : forestAt? forest path = some siblings)
    (hk : rowOf? forest path = some k) (i : Nat) :
    rowOf? forest (path ++ [i])
      = if i < siblings.length then some (k + 1 + Node.sizes (siblings.take i)) else none := by
  induction path generalizing forest k with
  | nil => exact absurd rfl hpath
  | cons j rest ih =>
      rw [forestAt?] at hsiblings
      obtain ⟨node, hnode, hbelow⟩ := Option.bind_eq_some_iff.1 hsiblings
      rw [List.cons_append, rowOf?_cons forest j (by simp), hnode, Option.bind_some]
      cases rest with
      | nil =>
          cases hbelow
          rw [rowOf?, hnode] at hk
          cases hk
          rw [List.nil_append, rowOf?_singleton]
          split <;> rfl
      | cons l more =>
          rw [rowOf?_cons forest j (by simp), hnode, Option.bind_some] at hk
          obtain ⟨m, hm, rfl⟩ := Option.map_eq_some_iff.1 hk
          rw [ih (by simp) hbelow hm]
          split
          · simp [Nat.add_assoc]
          · rfl

/-! ## Sizes -/

/-- An entry takes up a row, and those below it the rest. -/
theorem Node.size_eq (node : Node) : node.size = Node.sizes node.children + 1 := by
  cases node with
  | leaf => rfl
  | branch => rfl
  | deferred => rfl

/-- A forest around an entry takes up the rows of the entries in front of it, its own and those of
the entries behind it. -/
theorem eq_append_of_getElem? (h : siblings[i]? = some node) :
    siblings = siblings.take i ++ node :: siblings.drop (i + 1) := by
  obtain ⟨hi, rfl⟩ := List.getElem?_eq_some_iff.1 h
  exact (List.take_append_drop i siblings).symm.trans (by rw [List.drop_eq_getElem_cons hi])

/-- One entry more in front. -/
theorem sizes_take_succ (h : siblings[i]? = some node) :
    Node.sizes (siblings.take (i + 1)) = Node.sizes (siblings.take i) + node.size := by
  rw [List.take_add_one, h, Node.sizes_append]
  rfl

/-- The more entries in front, the more rows. -/
theorem sizes_take_lt {j : Nat} (hij : i < j) (hj : j ≤ siblings.length) :
    Node.sizes (siblings.take i) < Node.sizes (siblings.take j) := by
  induction j with
  | zero => cases hij
  | succ j ih =>
      have hstep := sizes_take_succ (List.getElem?_eq_getElem (Nat.lt_of_succ_le hj))
      have hpos : 0 < siblings[j].size := by
        rw [Node.size_eq]
        exact Nat.succ_pos _
      rcases Nat.lt_succ_iff_lt_or_eq.1 hij with hlt | rfl
      · have hbefore := ih hlt (Nat.le_of_succ_le hj)
        omega
      · omega

/-- The rows of a forest in front of another are in front of the other's. -/
theorem forestRows_append (parent : Option Nat) (depth index : Nat) (first more : List Node) :
    forestRows parent depth index (first ++ more)
      = forestRows parent depth index first
        ++ forestRows parent depth (index + Node.sizes first) more := by
  induction first generalizing index with
  | nil => rfl
  | cons node rest ih =>
      rw [List.cons_append, forestRows, forestRows, ih, Node.sizes, List.append_assoc,
        Nat.add_assoc]

/-- The children of an entry stand behind those in front of them. -/
theorem rootPositions_eq (index : Nat) (forest : List Node) :
    rootPositions index forest
      = (List.range forest.length).map fun j => index + Node.sizes (forest.take j) := by
  induction forest generalizing index with
  | nil => rfl
  | cons node rest ih =>
      rw [rootPositions, ih, List.length_cons, List.range_succ_eq_map, List.map_cons, List.map_map]
      simp [Function.comp_def, Node.sizes, Nat.add_assoc]

/-! ## The rows around -/

/-- The first row of a forest has the forest's depth. -/
theorem depth_of_mem_head?_forestRows {parent : Option Nat} {depth index : Nat} {row : Row}
    (h : row ∈ (forestRows parent depth index forest).head?) : row.depth = depth := by
  cases forest with
  | nil => cases h
  | cons node rest =>
      rw [forestRows, node.rows_eq] at h
      cases h
      rfl

mutual

/-- The rows from an entry down are as deep as the entry at least. -/
theorem Node.le_depth_of_mem_rows {parent : Option Nat} {depth index : Nat} {row : Row} :
    (node : Node) → row ∈ node.rows parent depth index → depth ≤ row.depth
  | .leaf label link, h => Nat.le_of_eq (congrArg Row.depth (List.mem_singleton.1 h)).symm
  | .deferred label link name, h =>
      Nat.le_of_eq (congrArg Row.depth (List.mem_singleton.1 h)).symm
  | .branch label link children, h => by
      rw [Node.rows] at h
      rcases List.mem_cons.1 h with rfl | h
      · exact Nat.le_refl depth
      · exact Nat.le_of_succ_le (le_depth_of_mem_forestRows children h)

/-- The rows of a forest are as deep as the forest at least. -/
theorem le_depth_of_mem_forestRows {parent : Option Nat} {depth index : Nat} {row : Row} :
    (forest : List Node) → row ∈ forestRows parent depth index forest → depth ≤ row.depth
  | [], h => nomatch h
  | node :: rest, h => by
      rw [forestRows] at h
      rcases List.mem_append.1 h with h | h
      · exact node.le_depth_of_mem_rows h
      · exact le_depth_of_mem_forestRows rest h

end

/-- How the entries below a path stand in the list of all rows: between `front` and `back`. -/
structure Around (roots : List Node) (path : List Nat) (siblings : List Node)
    (front back : List Row) : Prop where
  /-- They stand between these rows. -/
  rows_eq : forestRows none 0 0 roots = front
    ++ forestRows (rowOf? roots path) path.length front.length siblings ++ back
  /-- The row in front of them is less deep. -/
  front_lt : ∀ row ∈ front.getLast?, row.depth < path.length
  /-- So is the row behind them. -/
  back_lt : ∀ row ∈ back.head?, row.depth < path.length
  /-- Their rows are counted from there. -/
  rowOf?_eq : ∀ i, rowOf? roots (path ++ [i])
    = if i < siblings.length then some (front.length + Node.sizes (siblings.take i)) else none

/-- The rows in front of the entry of number `i` among those below a parent, which stand behind
`front`. -/
def rowsBefore (parent : Option Nat) (depth : Nat) (front : List Row) (siblings : List Node)
    (i : Nat) : List Row :=
  front ++ forestRows parent depth front.length (siblings.take i)

namespace Around

variable {roots : List Node} {front back : List Row}

/-- The entries at the top are all there is. -/
theorem nil (roots : List Node) : Around roots [] roots [] [] where
  rows_eq := by simp [rowOf?]
  front_lt := fun _ h => nomatch h
  back_lt := fun _ h => nomatch h
  rowOf?_eq := by
    intro i
    rw [List.nil_append, rowOf?_singleton, List.length_nil, Nat.zero_add]

/-- An entry's row is the number of rows in front of it. -/
theorem length_rowsBefore (h : Around roots path siblings front back)
    (hk : rowOf? roots (path ++ [i]) = some k) :
    (rowsBefore (rowOf? roots path) path.length front siblings i).length = k := by
  rw [h.rowOf?_eq] at hk
  split at hk
  · cases hk
    rw [rowsBefore, List.length_append, length_forestRows]
  · cases hk

/-- One of the entries stands between those in front of it and those behind it, with the entries
below it right behind its row. -/
theorem rows_split (h : Around roots path siblings front back) (hnode : siblings[i]? = some node)
    (hk : rowOf? roots (path ++ [i]) = some k) :
    forestRows none 0 0 roots = rowsBefore (rowOf? roots path) path.length front siblings i
      ++ node.row (rowOf? roots path) path.length k
      :: (forestRows (some k) (path.length + 1) (k + 1) node.children
        ++ (forestRows (rowOf? roots path) path.length (k + node.size) (siblings.drop (i + 1))
          ++ back)) := by
  have hlength := h.length_rowsBefore hk
  rw [rowsBefore, List.length_append, length_forestRows] at hlength
  have hrows : forestRows (rowOf? roots path) path.length front.length siblings
      = forestRows (rowOf? roots path) path.length front.length (siblings.take i)
        ++ (node.rows (rowOf? roots path) path.length k
          ++ forestRows (rowOf? roots path) path.length (k + node.size)
            (siblings.drop (i + 1))) := by
    conv => lhs; rw [eq_append_of_getElem? hnode]
    rw [forestRows_append, forestRows, hlength]
  rw [h.rows_eq, hrows, node.rows_eq, rowsBefore]
  simp only [List.append_assoc, List.cons_append]

/-- The entries below one of the entries stand behind its row. -/
theorem concat (h : Around roots path siblings front back)
    (hsiblings : forestAt? roots path = some siblings) (hnode : siblings[i]? = some node) :
    ∃ front back, Around roots (path ++ [i]) node.children front back := by
  have hi : i < siblings.length := (List.getElem?_eq_some_iff.1 hnode).1
  obtain ⟨k, hk⟩ : ∃ k, rowOf? roots (path ++ [i]) = some k := ⟨_, by rw [h.rowOf?_eq, if_pos hi]⟩
  have hbelow : forestAt? roots (path ++ [i]) = some node.children := by
    rw [forestAt?_concat, nodeAt?_concat, hsiblings, Option.bind_some, hnode]
    rfl
  have hrows := h.rows_split hnode hk
  have hlength := h.length_rowsBefore hk
  generalize rowsBefore (rowOf? roots path) path.length front siblings i = before at hrows hlength
  refine ⟨before ++ [node.row (rowOf? roots path) path.length k],
    forestRows (rowOf? roots path) path.length (k + node.size) (siblings.drop (i + 1)) ++ back,
    ?_, ?_, ?_, ?_⟩
  · rw [hrows, hk]
    simp only [List.length_append, List.length_singleton, hlength, List.append_assoc,
      List.cons_append, List.nil_append]
  · intro row hrow
    rw [List.getLast?_concat] at hrow
    cases hrow
    rw [List.length_append]
    exact Nat.lt_succ_self _
  · intro row hrow
    rw [List.length_append, List.length_singleton]
    rw [List.head?_append] at hrow
    rcases Option.or_eq_some_iff.1 hrow with hrow | ⟨-, hrow⟩
    · rw [depth_of_mem_head?_forestRows hrow]
      exact Nat.lt_succ_self _
    · exact Nat.lt_succ_of_lt (h.back_lt row hrow)
  · intro j
    rw [rowOf?_concat (by simp) hbelow hk, List.length_append, hlength, List.length_singleton]

end Around

/-- **The entries below a path stand between rows that are less deep.** -/
theorem exists_around {roots : List Node} (h : forestAt? roots path = some siblings) :
    ∃ front back, Around roots path siblings front back := by
  induction path using List.reverseRecOn generalizing siblings with
  | nil =>
      cases h
      exact ⟨[], [], .nil roots⟩
  | append_singleton path i ih =>
      rw [forestAt?_concat, nodeAt?_concat] at h
      obtain ⟨node, hnode, rfl⟩ := Option.map_eq_some_iff.1 h
      obtain ⟨above, habove, hi⟩ := Option.bind_eq_some_iff.1 hnode
      obtain ⟨front, back, haround⟩ := ih habove
      exact haround.concat habove hi

/-! ## Rows and paths -/

/-- An entry is one of those below the path that leads up to it. -/
theorem exists_siblings {roots : List Node} (h : nodeAt? roots (path ++ [i]) = some node) :
    ∃ siblings, forestAt? roots path = some siblings ∧ siblings[i]? = some node := by
  rw [nodeAt?_concat] at h
  exact Option.bind_eq_some_iff.1 h

/-- Where a path leads to an entry, it leads to a row. -/
theorem isSome_rowOf? (roots : List Node) (path : List Nat) :
    (rowOf? roots path).isSome = (nodeAt? roots path).isSome := by
  induction path generalizing roots with
  | nil => rfl
  | cons i rest ih =>
      cases rest with
      | nil =>
          rw [rowOf?, nodeAt?]
          cases roots[i]? with
          | none => rfl
          | some node => rfl
      | cons j more =>
          rw [rowOf?_cons roots i (by simp), nodeAt?]
          · cases roots[i]? with
            | none => rfl
            | some node =>
                rw [Option.bind_some, Option.bind_some, Option.isSome_map]
                exact ih node.children
          · exact fun h => nomatch h

/-- Where a path leads to a row, it leads to an entry. -/
theorem exists_nodeAt? {roots : List Node} (hk : rowOf? roots path = some k) :
    ∃ node, nodeAt? roots path = some node := by
  have hnode := isSome_rowOf? roots path
  rw [hk] at hnode
  exact Option.isSome_iff_exists.1 hnode.symm

/-- A path to a row has a last number. -/
theorem exists_concat_of_rowOf? {roots : List Node} (hk : rowOf? roots path = some k) :
    ∃ above i node, path = above ++ [i] ∧ nodeAt? roots (above ++ [i]) = some node := by
  cases path using List.reverseRecOn with
  | nil => cases hk
  | append_singleton above i =>
      obtain ⟨node, hnode⟩ := exists_nodeAt? hk
      exact ⟨above, i, node, rfl, hnode⟩

/-- Something is below the path only if it leads to a row, or to the top. -/
theorem eq_nil_of_rowOf?_eq_none {roots : List Node}
    (hsiblings : forestAt? roots path = some siblings) (h : rowOf? roots path = none) :
    path = [] := by
  cases path using List.reverseRecOn with
  | nil => rfl
  | append_singleton path i =>
      rw [forestAt?_concat] at hsiblings
      obtain ⟨node, hnode, -⟩ := Option.map_eq_some_iff.1 hsiblings
      have hrow := isSome_rowOf? roots (path ++ [i])
      rw [h, hnode] at hrow
      cases hrow

/-- **The row of an entry says where the entry stands.** -/
theorem exists_row_of_nodeAt? {roots : List Node} (h : nodeAt? roots (path ++ [i]) = some node) :
    ∃ k, rowOf? roots (path ++ [i]) = some k ∧
      (forestRows none 0 0 roots)[k]? = some (node.row (rowOf? roots path) path.length k) ∧
      (node.row (rowOf? roots path) path.length k).children.map some
        = (List.range node.children.length).map fun j => rowOf? roots (path ++ [i, j]) := by
  obtain ⟨siblings, hsiblings, hnode⟩ := exists_siblings h
  obtain ⟨front, back, haround⟩ := exists_around hsiblings
  have hi : i < siblings.length := (List.getElem?_eq_some_iff.1 hnode).1
  obtain ⟨k, hk⟩ : ∃ k, rowOf? roots (path ++ [i]) = some k :=
    ⟨_, by rw [haround.rowOf?_eq, if_pos hi]⟩
  have hbelow : forestAt? roots (path ++ [i]) = some node.children := by
    rw [forestAt?_concat, h]
    rfl
  refine ⟨k, hk, ?_, ?_⟩
  · rw [haround.rows_split hnode hk, ← haround.length_rowsBefore hk,
      List.getElem?_append_right (Nat.le_refl _), Nat.sub_self]
    rfl
  · have hchildren : (node.row (rowOf? roots path) path.length k).children
        = rootPositions (k + 1) node.children := rfl
    rw [hchildren, rootPositions_eq, List.map_map]
    refine List.map_congr_left fun j hj => ?_
    have hpath : path ++ [i, j] = path ++ [i] ++ [j] := by simp
    rw [hpath, rowOf?_concat (by simp) hbelow hk, if_pos (List.mem_range.1 hj)]
    rfl

/-- A number below the size of a forest counts rows from one of its entries on. -/
theorem exists_getElem?_of_lt_sizes (h : k < Node.sizes forest) :
    ∃ i node, forest[i]? = some node ∧ Node.sizes (forest.take i) ≤ k ∧
      k < Node.sizes (forest.take i) + node.size := by
  induction forest generalizing k with
  | nil => cases h
  | cons first rest ih =>
      rw [Node.sizes] at h
      by_cases hfirst : k < first.size
      · exact ⟨0, first, rfl, Nat.zero_le k, by rwa [List.take_zero, Node.sizes, Nat.zero_add]⟩
      · obtain ⟨i, node, hnode, hle, hlt⟩ := ih (k := k - first.size) (by omega)
        refine ⟨i + 1, node, hnode, ?_, ?_⟩
        · rw [List.take_succ_cons, Node.sizes]
          omega
        · rw [List.take_succ_cons, Node.sizes]
          omega

/-- Every row is that of an entry. -/
theorem exists_rowOf? {roots : List Node} (hk : k < Node.sizes roots) :
    ∃ path, rowOf? roots path = some k := by
  induction k using Nat.strongRecOn generalizing roots with
  | ind k ih =>
      obtain ⟨i, node, hnode, hle, hlt⟩ := exists_getElem?_of_lt_sizes hk
      have hi : i < roots.length := (List.getElem?_eq_some_iff.1 hnode).1
      by_cases hown : k = Node.sizes (roots.take i)
      · exact ⟨[i], by rw [rowOf?_singleton, if_pos hi, hown]⟩
      · -- The row is behind the entry's own, so it is that of an entry below.
        rw [node.size_eq] at hlt
        have hbelow : k - Node.sizes (roots.take i) - 1 < Node.sizes node.children := by omega
        obtain ⟨path, hpath⟩ := ih (k - Node.sizes (roots.take i) - 1) (by omega) hbelow
        have hne : path ≠ [] := by
          rintro rfl
          cases hpath
        refine ⟨i :: path, ?_⟩
        rw [rowOf?_cons roots i hne, hnode, Option.bind_some, hpath, Option.map_some]
        congr 1
        omega

/-- No two entries have the same row. -/
theorem rowOf?_inj {roots : List Node} {path other : List Nat} (h : rowOf? roots path = some k)
    (hother : rowOf? roots other = some k) : path = other := by
  induction path using List.reverseRecOn generalizing other k with
  | nil => cases h
  | append_singleton path i ih =>
      cases other using List.reverseRecOn with
      | nil => cases hother
      | append_singleton other j =>
          obtain ⟨node, hnode⟩ := exists_nodeAt? h
          obtain ⟨node', hnode'⟩ := exists_nodeAt? hother
          obtain ⟨k₁, hk₁, hrow, -⟩ := exists_row_of_nodeAt? hnode
          obtain ⟨k₂, hk₂, hrow', -⟩ := exists_row_of_nodeAt? hnode'
          obtain rfl : k = k₁ := Option.some.inj (h.symm.trans hk₁)
          obtain rfl : k = k₂ := Option.some.inj (hother.symm.trans hk₂)
          -- The row tells the row of the entry above, and that one has one path only.
          have hsame := Option.some.inj (hrow.symm.trans hrow')
          have hparent : rowOf? roots path = rowOf? roots other := congrArg Row.parent hsame
          obtain ⟨siblings, hsiblings, hi⟩ := exists_siblings hnode
          obtain ⟨siblings', hsiblings', hj⟩ := exists_siblings hnode'
          have hpath : path = other := by
            cases habove : rowOf? roots path with
            | some m => exact ih habove (hparent.symm.trans habove)
            | none =>
                rw [eq_nil_of_rowOf?_eq_none hsiblings habove,
                  eq_nil_of_rowOf?_eq_none hsiblings' (hparent.symm.trans habove)]
          subst hpath
          obtain rfl : siblings = siblings' := Option.some.inj (hsiblings.symm.trans hsiblings')
          have hi : i < siblings.length := (List.getElem?_eq_some_iff.1 hi).1
          have hj : j < siblings.length := (List.getElem?_eq_some_iff.1 hj).1
          obtain ⟨front, back, haround⟩ := exists_around hsiblings
          rw [haround.rowOf?_eq, if_pos hi] at h
          rw [haround.rowOf?_eq, if_pos hj, ← h] at hother
          have hsizes := Nat.add_left_cancel (Option.some.inj hother)
          rcases Nat.lt_trichotomy i j with hlt | rfl | hlt
          · exact absurd hsizes (Nat.ne_of_gt (sizes_take_lt hlt (Nat.le_of_lt hj)))
          · rfl
          · exact absurd hsizes (Nat.ne_of_lt (sizes_take_lt hlt (Nat.le_of_lt hi)))

/-- **Every row is that of one entry.** -/
theorem existsUnique_rowOf? {roots : List Node} (hk : k < Node.sizes roots) :
    ∃! path, rowOf? roots path = some k := by
  obtain ⟨path, hpath⟩ := exists_rowOf? hk
  exact ⟨path, hpath, fun other hother => rowOf?_inj hother hpath⟩

end DocSite.Nav
