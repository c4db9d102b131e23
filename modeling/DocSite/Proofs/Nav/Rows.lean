import DocSite.Proofs.Nav.Listing

/-! # Where rows point

A row points to other rows by their positions: to the row that it is below, and to those of its
children. These positions are positions of rows (`Tree.pointsBelow_rows`, `pointsBelow_linkRows`):
an entry's children stand behind it, one behind the other, within the rows that the entry takes up
(`lt_of_mem_rootPositions`). -/

namespace DocSite.Nav

/-- Whether a row points to positions below `n` only. -/
structure Row.PointsBelow (n : Nat) (row : Row) : Prop where
  /-- The row that it is below stands there. -/
  parent_lt : ∀ p ∈ row.parent, p < n
  /-- The rows of its children stand there. -/
  child_lt : ∀ c ∈ row.children, c < n

/-- An entry takes up a row. -/
theorem Node.size_pos (node : Node) : 0 < node.size := by
  cases node with
  | leaf => exact Nat.one_pos
  | deferred => exact Nat.one_pos
  | branch label link children => exact Nat.succ_pos (Node.sizes children)

/-- The entries of a forest stand within the rows that it takes up. -/
theorem lt_of_mem_rootPositions {index c : Nat} {forest : List Node}
    (h : c ∈ rootPositions index forest) : c < index + Node.sizes forest := by
  induction forest generalizing index with
  | nil => cases h
  | cons node rest ih =>
      have hpos : 0 < node.size := node.size_pos
      rw [rootPositions, List.mem_cons] at h
      rw [Node.sizes]
      rcases h with rfl | h
      · omega
      · have hrest := ih h
        omega

mutual

/-- The rows from an entry down point to the entry's parent and to each other. -/
theorem Node.pointsBelow_rows {n : Nat} {parent : Option Nat} (hparent : ∀ p ∈ parent, p < n)
    (depth index : Nat) : (node : Node) → index + node.size ≤ n →
      ∀ row ∈ node.rows parent depth index, row.PointsBelow n
  | .leaf label link, _ => by
      rw [Node.rows, List.forall_mem_singleton]
      exact ⟨hparent, List.forall_mem_nil _⟩
  | .deferred label link name, _ => by
      rw [Node.rows, List.forall_mem_singleton]
      exact ⟨hparent, List.forall_mem_nil _⟩
  | .branch label link children, hsize => by
      have hbelow : index + 1 + Node.sizes children ≤ n := by
        rw [Node.size] at hsize
        omega
      rw [Node.rows, List.forall_mem_cons]
      refine ⟨⟨hparent, fun c hc => ?_⟩, ?_⟩
      · exact Nat.lt_of_lt_of_le (lt_of_mem_rootPositions hc) hbelow
      · refine pointsBelow_forestRows (fun p hp => ?_) (depth + 1) (index + 1) children hbelow
        cases hp
        omega

/-- The rows of a forest point to the forest's parent and to each other. -/
theorem pointsBelow_forestRows {n : Nat} {parent : Option Nat} (hparent : ∀ p ∈ parent, p < n)
    (depth index : Nat) : (forest : List Node) → index + Node.sizes forest ≤ n →
      ∀ row ∈ forestRows parent depth index forest, row.PointsBelow n
  | [], _ => by
      rw [forestRows]
      exact List.forall_mem_nil _
  | node :: rest, hsize => by
      rw [Node.sizes] at hsize
      rw [forestRows, List.forall_mem_append]
      exact ⟨node.pointsBelow_rows hparent depth index (by omega),
        pointsBelow_forestRows hparent depth (index + node.size) rest (by omega)⟩

end

/-- **The rows of a tree point to each other.** -/
theorem Tree.pointsBelow_rows (tree : Tree) :
    ∀ row ∈ tree.rows, row.PointsBelow tree.rows.length := by
  have hlength : tree.rows.length = Node.sizes tree.roots := by
    rw [tree.rows_eq, length_forestRows]
  have hroots : ∀ p ∈ (none : Option Nat), p < tree.rows.length := fun p hp => nomatch hp
  have hsize : 0 + Node.sizes tree.roots ≤ tree.rows.length := by omega
  have hpoints := pointsBelow_forestRows hroots 0 0 tree.roots hsize
  rwa [← tree.rows_eq] at hpoints

/-- The rows of plain links point nowhere. -/
theorem pointsBelow_linkRows (n : Nat) (links : List Link) :
    ∀ row ∈ linkRows links, row.PointsBelow n := by
  rw [linkRows, List.forall_mem_map]
  intro link _
  exact ⟨fun p hp => (nomatch hp), List.forall_mem_nil _⟩

end DocSite.Nav
