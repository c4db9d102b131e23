import DocSite.Nav.Row
import DocSite.Proofs.Nav.Walk

/-! # Rows by recursion

The rows of a tree are made step by step from a walk. Here the same rows are described by recursion
on the forest (`forestRows`), with the positions of the children counted from the sizes of the
entries in front of them (`rootPositions`). That both are the same is `Tree.rows_eq`.

What is kept while steps are listed is `Listing.IsAt`: as far as the way to the latest row reaches
above the next entries, it is the way to their parent. Entries of one depth and what is below them
leave that part of the way as it is (`Listing.Lists`). -/

namespace DocSite.Nav

/-! ## The recursion -/

/-- The rows at which the entries of a forest stand, if the first one stands at `index`. -/
def rootPositions (index : Nat) : List Node → List Nat
  | [] => []
  | node :: rest => index :: rootPositions (index + node.size) rest

/-- The row of an entry that stands at `index`. -/
def Node.row (parent : Option Nat) (depth index : Nat) (node : Node) : Row :=
  ⟨node.label, node.link, depth, parent, rootPositions (index + 1) node.children,
    node.deferred?.isSome⟩

mutual

/-- The rows from an entry down, of which the entry's own stands at `index`. -/
def Node.rows (parent : Option Nat) (depth index : Nat) : Node → List Row
  | .leaf label link => [⟨label, link, depth, parent, [], false⟩]
  | .deferred label link _ => [⟨label, link, depth, parent, [], true⟩]
  | .branch label link children =>
      ⟨label, link, depth, parent, rootPositions (index + 1) children, false⟩
        :: forestRows (some index) (depth + 1) (index + 1) children

/-- The rows of a forest, from position `index` on. -/
def forestRows (parent : Option Nat) (depth index : Nat) : List Node → List Row
  | [] => []
  | node :: rest =>
      node.rows parent depth index ++ forestRows parent depth (index + node.size) rest

end

/-- An entry's row is in front of those of the entries below it. -/
theorem Node.rows_eq (parent : Option Nat) (depth index : Nat) (node : Node) :
    node.rows parent depth index = node.row parent depth index
      :: forestRows (some index) (depth + 1) (index + 1) node.children := by
  cases node with
  | leaf => rfl
  | branch => rfl
  | deferred => rfl

mutual

/-- There is a row for every entry from this one down. -/
@[simp] theorem Node.length_rows (parent : Option Nat) (depth index : Nat) :
    (node : Node) → (node.rows parent depth index).length = node.size
  | .leaf .. => rfl
  | .deferred .. => rfl
  | .branch _ _ children => by
      simp [Node.rows, Node.size, length_forestRows]

/-- There is a row for every entry of a forest. -/
@[simp] theorem length_forestRows (parent : Option Nat) (depth index : Nat) :
    (forest : List Node) → (forestRows parent depth index forest).length = Node.sizes forest
  | [] => rfl
  | node :: rest => by
      simp [forestRows, Node.sizes, node.length_rows, length_forestRows parent depth _ rest]

end

namespace Listing

/-! ## More children -/

variable {rows : List Row} {parent : Option Nat}

/-- No row comes or goes. -/
@[simp] theorem length_adopt (more : List Nat) : (adopt rows parent more).length = rows.length := by
  cases parent with
  | none => rfl
  | some p => exact List.length_modify _ rows p

/-- No more children change nothing. -/
theorem adopt_nil : adopt rows parent [] = rows := by
  cases parent with
  | none => rfl
  | some p =>
      have hsame : (fun row : Row => { row with children := row.children ++ [] }) = id := by
        funext row
        rw [List.append_nil]
        rfl
      rw [adopt, hsame, List.modify_id]

/-- Children that come one after another come together. -/
theorem adopt_adopt (first more : List Nat) :
    adopt (adopt rows parent first) parent more = adopt rows parent (first ++ more) := by
  cases parent with
  | none => rfl
  | some p => simp [adopt, List.modify_modify_eq, Function.comp_def]

/-- A row keeps its children to itself. -/
theorem adopt_append (hparent : ∀ p ∈ parent, p < rows.length) (behind : List Row)
    (more : List Nat) : adopt (rows ++ behind) parent more = adopt rows parent more ++ behind := by
  cases parent with
  | none => rfl
  | some p =>
      have hp : p < rows.length := hparent p rfl
      rw [adopt, adopt]
      clear hparent
      induction rows generalizing p with
      | nil => cases hp
      | cons row rest ih =>
          cases p with
          | zero => rfl
          | succ p =>
              rw [List.cons_append, List.modify_succ_cons, List.modify_succ_cons,
                ih p (Nat.lt_of_succ_lt_succ hp), List.cons_append]

/-- The last row may have children too. -/
theorem adopt_concat (rows : List Row) (row : Row) (more : List Nat) :
    adopt (rows ++ [row]) (some rows.length) more
      = rows ++ [{ row with children := row.children ++ more }] := by
  rw [adopt]
  induction rows with
  | nil => rfl
  | cons first rest ih =>
      rw [List.cons_append, List.length_cons, List.modify_succ_cons, ih, List.cons_append]

/-! ## Steps -/

/-- Whether entries of a depth below the given parent may be listed next. -/
structure IsAt (listing : Listing) (depth : Nat) (parent : Option Nat) : Prop where
  /-- The way to the latest row is long enough. -/
  le_length : depth ≤ listing.path.length
  /-- As far as it is above the next entries, it leads to their parent. -/
  parent_eq : (listing.path.take depth).getLast? = parent
  /-- It goes over rows that are there. -/
  path_lt : ∀ p ∈ listing.path, p < listing.rows.length

/-- A step adds a row. -/
theorem length_rows_add (listing : Listing) (step : Step) :
    (listing.add step).rows.length = listing.rows.length + 1 := by
  simp [Listing.add]

/-- Whether between two listings entries of a depth below the given parent were listed, with the
given positions, and all that is below them. -/
structure Lists (before after : Listing) (depth : Nat) (parent : Option Nat)
    (positions : List Nat) (rows : List Row) : Prop where
  /-- The parent has the entries as more children, and the rows are behind those before. -/
  rows_eq : after.rows = adopt before.rows parent positions ++ rows
  /-- The way to the latest row is long enough. -/
  le_length : depth ≤ after.path.length
  /-- The way to the parent is the same. -/
  take_eq : after.path.take depth = before.path.take depth
  /-- The way to the latest row goes over rows that are there. -/
  path_lt : ∀ p ∈ after.path, p < after.rows.length

variable {before between after : Listing} {depth : Nat} {positions more : List Nat}
  {behind : List Row}

/-- The parent is there. -/
theorem IsAt.parent_lt (h : before.IsAt depth parent) : ∀ p ∈ parent, p < before.rows.length := by
  intro p hp
  rw [← h.parent_eq] at hp
  exact h.path_lt p (List.mem_of_mem_take (List.mem_of_getLast? hp))

/-- Behind entries with all that is below them, entries of the same depth may be listed. -/
theorem Lists.isAt (h : Lists before after depth parent positions rows)
    (hat : before.IsAt depth parent) : after.IsAt depth parent :=
  ⟨h.le_length, by rw [h.take_eq, hat.parent_eq], h.path_lt⟩

/-- Nothing is listed between a listing and itself. -/
theorem Lists.refl (hat : before.IsAt depth parent) :
    Lists before before depth parent [] [] :=
  ⟨by rw [adopt_nil, List.append_nil], hat.le_length, rfl, hat.path_lt⟩

/-- Entries that are listed one after another are listed together. -/
theorem Lists.trans (hat : before.IsAt depth parent)
    (h : Lists before between depth parent positions rows)
    (hmore : Lists between after depth parent more behind) :
    Lists before after depth parent (positions ++ more) (rows ++ behind) := by
  refine ⟨?_, hmore.le_length, hmore.take_eq.trans h.take_eq, hmore.path_lt⟩
  have hparent : ∀ p ∈ parent, p < (adopt before.rows parent positions).length := by
    rw [length_adopt]
    exact hat.parent_lt
  rw [hmore.rows_eq, h.rows_eq, adopt_append hparent, adopt_adopt, List.append_assoc]

/-- Behind the step of an entry the entries below it may be listed. -/
theorem IsAt.add (hat : before.IsAt depth parent) (node : Node) :
    (before.add (node.step depth)).IsAt (depth + 1) (some before.rows.length) := by
  have hlength : (before.path.take depth).length = depth :=
    List.length_take_of_le hat.le_length
  refine ⟨?_, ?_, ?_⟩
  · simp [Listing.add, Node.step, hlength]
  · simp [Listing.add, Node.step, hlength, List.take_of_length_le]
  · intro p hp
    have hp : p ∈ before.path.take depth ∨ p = before.rows.length := by
      simpa [Listing.add, Node.step] using hp
    rw [length_rows_add]
    rcases hp with hp | rfl
    · exact Nat.lt_succ_of_lt (hat.path_lt p (List.mem_of_mem_take hp))
    · exact Nat.lt_succ_self _

/-- An entry is listed with all that is below it if this is so of what is below it. -/
theorem IsAt.lists_of_children (hat : before.IsAt depth parent) (node : Node)
    (h : Lists (before.add (node.step depth)) after (depth + 1) (some before.rows.length)
      (rootPositions (before.rows.length + 1) node.children)
      (forestRows (some before.rows.length) (depth + 1) (before.rows.length + 1) node.children)) :
    Lists before after depth parent [before.rows.length]
      (node.rows parent depth before.rows.length) := by
  have hlength : (before.path.take depth).length = depth :=
    List.length_take_of_le hat.le_length
  refine ⟨?_, Nat.le_of_succ_le h.le_length, ?_, h.path_lt⟩
  · have hrow : (before.add (node.step depth)).rows
        = adopt before.rows parent [before.rows.length]
          ++ [⟨node.label, node.link, depth, parent, [], node.deferred?.isSome⟩] := by
      rw [Listing.add, Node.step, hat.parent_eq]
    have hconcat := adopt_concat (adopt before.rows parent [before.rows.length])
      ⟨node.label, node.link, depth, parent, [], node.deferred?.isSome⟩
      (rootPositions (before.rows.length + 1) node.children)
    rw [length_adopt] at hconcat
    rw [h.rows_eq, hrow, hconcat, node.rows_eq, List.append_assoc]
    rfl
  · -- The way to the entry is the way to its parent, and one row more.
    have htake : after.path.take (depth + 1) = before.path.take depth ++ [before.rows.length] := by
      rw [h.take_eq]
      simp [Listing.add, Node.step, hlength, List.take_of_length_le]
    have hshort := congrArg (List.take depth) htake
    rw [List.take_take, Nat.min_eq_left (Nat.le_succ depth), List.take_left' hlength] at hshort
    exact hshort

mutual

/-- An entry is listed with all that is below it. -/
theorem IsAt.lists_preorder {before : Listing} {depth : Nat} {parent : Option Nat}
    (hat : before.IsAt depth parent) : (node : Node) →
      Lists before ((node.preorder depth).foldl Listing.add before) depth parent
        [before.rows.length] (node.rows parent depth before.rows.length)
  | .leaf label link => hat.lists_of_children (.leaf label link) (.refl (hat.add _))
  | .deferred label link name =>
      hat.lists_of_children (.deferred label link name) (.refl (hat.add _))
  | .branch label link children => by
      have hchildren := (hat.add (.branch label link children)).lists_forestPreorder children
      rw [length_rows_add] at hchildren
      exact hat.lists_of_children (.branch label link children) hchildren

/-- **A forest is listed as the recursion says.** -/
theorem IsAt.lists_forestPreorder {before : Listing} {depth : Nat} {parent : Option Nat}
    (hat : before.IsAt depth parent) : (forest : List Node) →
      Lists before ((forestPreorder depth forest).foldl Listing.add before) depth parent
        (rootPositions before.rows.length forest)
        (forestRows parent depth before.rows.length forest)
  | [] => .refl hat
  | node :: rest => by
      have hnode := hat.lists_preorder node
      have hrest := (hnode.isAt hat).lists_forestPreorder rest
      have hlength : ((node.preorder depth).foldl Listing.add before).rows.length
          = before.rows.length + node.size := by
        rw [hnode.rows_eq, List.length_append, length_adopt, Node.length_rows]
      rw [hlength] at hrest
      have hboth := hnode.trans hat hrest
      rwa [← List.foldl_append] at hboth

end

end Listing

/-- **The rows of a tree are those of its forest.** -/
theorem Tree.rows_eq (tree : Tree) : tree.rows = forestRows none 0 0 tree.roots := by
  have hat : Listing.empty.IsAt 0 none := ⟨Nat.zero_le _, rfl, List.forall_mem_nil _⟩
  have hrows := (hat.lists_forestPreorder tree.roots).rows_eq
  rw [Tree.rows, tree.walk_eq, hrows]
  rfl

end DocSite.Nav
