import DocSite.Proofs.Nav.Place
import Mathlib.Data.List.Chain

/-! # Walking in document order

The paths to the entries of a forest say what document order is, without a traversal: a path stands
in front of those that go on from it, and in front of those that turn to a sibling further back, so
they are in order as texts in a dictionary are. The entries with their paths are listed by recursion
(`forestPlaces`), and every entry is listed once (`mem_forestPlaces_iff`,
`pairwise_forestPlaces`). A walk through the forest that is taken to its end passes the entries in
this order (`Walk.Passes`, `map_forestPlaces`), and no step goes down by more than one entry
(`isChain_forestPreorder`).

The main statement is `walk_in_document_order`. -/

namespace DocSite.Nav

/-! ## Walking to the end -/

/-- Whether a walk that is taken step by step until there is no next one passes the given steps. -/
inductive Walk.Passes : Walk → List Step → Prop where
  /-- There is no next step. -/
  | done {walk : Walk} (h : walk.next? = none) : Walk.Passes walk []
  /-- There is a next step, and the others are passed behind it. -/
  | step {walk rest : Walk} {step : Step} {steps : List Step}
      (h : walk.next? = some (step, rest)) (hrest : Walk.Passes rest steps) :
      Walk.Passes walk (step :: steps)

/-- **Every walk comes to an end**, and passes the steps to come. -/
theorem Walk.passes_iff {walk : Walk} {steps : List Step} :
    walk.Passes steps ↔ steps = walk.steps := by
  constructor
  · intro h
    induction h with
    | done h => rw [steps_of_next?_eq_none h]
    | step h _ ih => rw [steps_of_next? h, ih]
  · rintro rfl
    -- With every step there is one fewer to come.
    generalize hsteps : walk.steps = steps
    induction steps generalizing walk with
    | nil =>
        cases hnext : walk.next? with
        | none => exact .done hnext
        | some next =>
            obtain ⟨step, rest⟩ := next
            rw [steps_of_next? hnext] at hsteps
            cases hsteps
    | cons step more ih =>
        cases hnext : walk.next? with
        | none =>
            rw [steps_of_next?_eq_none hnext] at hsteps
            cases hsteps
        | some next =>
            obtain ⟨first, rest⟩ := next
            rw [steps_of_next? hnext] at hsteps
            obtain ⟨rfl, hrest⟩ := List.cons.inj hsteps
            exact .step hnext (ih hrest)

/-! ## Places -/

mutual

/-- The entries from one down in document order, with the paths that lead to them from there. -/
def Node.places : Node → List (List Nat × Node)
  | .leaf label link => [([], .leaf label link)]
  | .branch label link children => ([], .branch label link children) :: forestPlaces 0 children
  | .deferred label link name => [([], .deferred label link name)]

/-- The entries of a forest in document order, with the paths to them; the first of the entries at
the top has number `i`. -/
def forestPlaces (i : Nat) : List Node → List (List Nat × Node)
  | [] => []
  | node :: rest =>
      node.places.map (fun place => (i :: place.1, place.2)) ++ forestPlaces (i + 1) rest

end

/-- A path leads to an entry or goes on below it. -/
theorem nodeAt?_cons_eq_some_iff {forest : List Node} {i : Nat} {path : List Nat} {node : Node} :
    nodeAt? forest (i :: path) = some node ↔ ∃ above, forest[i]? = some above ∧
      (path = [] ∧ node = above ∨ nodeAt? above.children path = some node) := by
  cases path with
  | nil => simp [nodeAt?, eq_comm]
  | cons j rest =>
      rw [nodeAt?, Option.bind_eq_some_iff]
      · simp
      · intro h
        cases h

mutual

/-- The places from an entry down are its own and those of the entries below it. -/
theorem Node.mem_places_iff {path : List Nat} {found : Node} : (node : Node) →
    ((path, found) ∈ node.places ↔
      path = [] ∧ found = node ∨ nodeAt? node.children path = some found)
  | .leaf label link => by
      cases path with
      | nil => simp [Node.places, nodeAt?]
      | cons i rest => simp [Node.places, Node.children, nodeAt?_cons_eq_some_iff]
  | .deferred label link name => by
      cases path with
      | nil => simp [Node.places, nodeAt?]
      | cons i rest => simp [Node.places, Node.children, nodeAt?_cons_eq_some_iff]
  | .branch label link children => by
      rw [Node.places, List.mem_cons, Prod.mk.injEq, mem_forestPlaces_iff 0 children]
      refine or_congr Iff.rfl ⟨?_, fun h => ?_⟩
      · rintro ⟨j, rest, rfl, h⟩
        rwa [Nat.zero_add]
      · cases path with
        | nil => cases h
        | cons j rest => exact ⟨j, rest, by rw [Nat.zero_add], h⟩

/-- **The places of a forest are its entries with the paths to them.** -/
theorem mem_forestPlaces_iff {path : List Nat} {found : Node} (i : Nat) : (forest : List Node) →
    ((path, found) ∈ forestPlaces i forest ↔
      ∃ j rest, path = (i + j) :: rest ∧ nodeAt? forest (j :: rest) = some found)
  | [] => by simp [forestPlaces, nodeAt?_cons_eq_some_iff]
  | node :: more => by
      rw [forestPlaces, List.mem_append, mem_forestPlaces_iff (i + 1) more]
      constructor
      · rintro (h | ⟨j, rest, rfl, h⟩)
        · obtain ⟨⟨rest, found⟩, hplace, hsame⟩ := List.mem_map.1 h
          cases hsame
          exact ⟨0, rest, rfl, nodeAt?_cons_eq_some_iff.2
            ⟨node, rfl, (Node.mem_places_iff node).1 hplace⟩⟩
        · refine ⟨j + 1, rest, by rw [Nat.add_right_comm, Nat.add_assoc], ?_⟩
          obtain ⟨above, habove, hrest⟩ := nodeAt?_cons_eq_some_iff.1 h
          exact nodeAt?_cons_eq_some_iff.2 ⟨above, habove, hrest⟩
      · rintro ⟨j, rest, rfl, h⟩
        obtain ⟨above, habove, hrest⟩ := nodeAt?_cons_eq_some_iff.1 h
        cases j with
        | zero =>
            cases habove
            exact .inl (List.mem_map.2 ⟨(rest, found), (Node.mem_places_iff node).2 hrest, rfl⟩)
        | succ j =>
            refine .inr ⟨j, rest, by rw [Nat.add_right_comm, Nat.add_assoc], ?_⟩
            exact nodeAt?_cons_eq_some_iff.2 ⟨above, habove, hrest⟩

end

/-- The paths to the entries of a forest have a first number, which is that of an entry. -/
theorem exists_cons_of_mem_forestPlaces {i : Nat} {forest : List Node} {place : List Nat × Node}
    (h : place ∈ forestPlaces i forest) : ∃ j rest, i ≤ j ∧ place.1 = j :: rest := by
  obtain ⟨path, node⟩ := place
  obtain ⟨j, rest, rfl, -⟩ := (mem_forestPlaces_iff i forest).1 h
  exact ⟨i + j, rest, Nat.le_add_right i j, rfl⟩

mutual

/-- From an entry down, the paths get larger. -/
theorem Node.pairwise_places : (node : Node) → node.places.Pairwise (·.1 < ·.1)
  | .leaf .. => List.pairwise_singleton ..
  | .deferred .. => List.pairwise_singleton ..
  | .branch label link children => by
      rw [Node.places, List.pairwise_cons]
      refine ⟨fun place hplace => ?_, pairwise_forestPlaces 0 children⟩
      obtain ⟨j, rest, -, hpath⟩ := exists_cons_of_mem_forestPlaces hplace
      rw [hpath]
      exact List.nil_lt_cons j rest

/-- **In document order the paths get larger.** -/
theorem pairwise_forestPlaces (i : Nat) :
    (forest : List Node) → (forestPlaces i forest).Pairwise (·.1 < ·.1)
  | [] => .nil
  | node :: more => by
      rw [forestPlaces, List.pairwise_append, List.pairwise_map]
      refine ⟨?_, pairwise_forestPlaces (i + 1) more, fun first hfirst second hsecond => ?_⟩
      · exact node.pairwise_places.imp fun h => List.cons_lt_cons_self.2 h
      · -- Entries behind the first one have larger numbers.
        obtain ⟨place, -, rfl⟩ := List.mem_map.1 hfirst
        obtain ⟨j, rest, hj, hpath⟩ := exists_cons_of_mem_forestPlaces hsecond
        rw [hpath]
        exact List.cons_lt_cons_iff.2 (.inl hj)

end

mutual

/-- The steps from an entry down show the entries. -/
theorem Node.map_places (depth : Nat) : (node : Node) →
    node.places.map (fun place => place.2.step (depth + place.1.length)) = node.preorder depth
  | .leaf .. => rfl
  | .deferred .. => rfl
  | .branch label link children => by
      rw [Node.places, Node.preorder, List.map_cons, ← map_forestPlaces (depth + 1) 0 children]
      refine congrArg (List.cons _) (List.map_congr_left fun place hplace => ?_)
      obtain ⟨j, rest, -, hpath⟩ := exists_cons_of_mem_forestPlaces hplace
      rw [hpath, List.length_cons, Nat.add_sub_cancel, Nat.add_right_comm, Nat.add_assoc]

/-- **The steps through a forest show the entries**, as deep as their paths are long. -/
theorem map_forestPlaces (depth i : Nat) : (forest : List Node) →
    (forestPlaces i forest).map (fun place => place.2.step (depth + (place.1.length - 1)))
      = forestPreorder depth forest
  | [] => rfl
  | node :: more => by
      rw [forestPlaces, forestPreorder, List.map_append, List.map_map, ← node.map_places depth,
        map_forestPlaces depth (i + 1) more]
      rfl

end

/-! ## Steps down -/

/-- Whether a step may be followed by another: that one is below the first one's entry, next to it
or further up, but below it only if its children are at hand. -/
def Step.MayPrecede (step next : Step) : Prop :=
  next.depth ≤ step.depth + if step.deferred.isSome then 0 else 1

/-- The steps through a forest are as deep as it at least. -/
theorem le_depth_of_mem_forestPreorder {depth : Nat} {forest : List Node} {step : Step}
    (h : step ∈ forestPreorder depth forest) : depth ≤ step.depth := by
  rw [← map_forestPlaces depth 0 forest] at h
  obtain ⟨place, -, rfl⟩ := List.mem_map.1 h
  exact Nat.le_add_right depth _

/-- The first one is as deep. -/
theorem depth_of_mem_head?_forestPreorder {depth : Nat} {forest : List Node} {step : Step}
    (h : step ∈ (forestPreorder depth forest).head?) : step.depth = depth := by
  cases forest with
  | nil => cases h
  | cons node more =>
      rw [forestPreorder, node.preorder_eq] at h
      cases h
      rfl

mutual

/-- From an entry down, no step goes too far. -/
theorem Node.isChain_preorder (depth : Nat) :
    (node : Node) → (node.preorder depth).IsChain Step.MayPrecede
  | .leaf .. => .singleton _
  | .deferred .. => .singleton _
  | .branch label link children => by
      rw [Node.preorder, List.isChain_cons]
      refine ⟨fun next hnext => ?_, isChain_forestPreorder (depth + 1) children⟩
      exact Nat.le_of_eq (depth_of_mem_head?_forestPreorder hnext)

/-- **No step through a forest goes too far.** -/
theorem isChain_forestPreorder (depth : Nat) :
    (forest : List Node) → (forestPreorder depth forest).IsChain Step.MayPrecede
  | [] => .nil
  | node :: more => by
      rw [forestPreorder, List.isChain_append]
      refine ⟨node.isChain_preorder depth, isChain_forestPreorder depth more, ?_⟩
      -- The next entry is as deep as the one that all the steps in front are below.
      intro last hlast next hnext
      have hmem : last ∈ forestPreorder depth [node] := by
        rw [forestPreorder, forestPreorder, List.append_nil]
        exact List.mem_of_getLast? hlast
      rw [Step.MayPrecede, depth_of_mem_head?_forestPreorder hnext]
      exact Nat.le_trans (le_depth_of_mem_forestPreorder hmem) (Nat.le_add_right _ _)

end

/-! ## Document order -/

/-- Only entries with children at hand have entries below them. -/
theorem nodeAt?_concat_eq_some_iff {roots : List Node} {path : List Nat} {i : Nat} {node : Node}
    (hpath : path ≠ []) : nodeAt? roots (path ++ [i]) = some node ↔
      ∃ label link children, nodeAt? roots path = some (.branch label link children) ∧
        children[i]? = some node := by
  cases path using List.reverseRecOn with
  | nil => exact absurd rfl hpath
  | append_singleton above j =>
      rw [nodeAt?_concat, forestAt?_concat, Option.bind_map, Option.bind_eq_some_iff]
      constructor
      · rintro ⟨parent, hparent, hchild⟩
        cases parent with
        | leaf => cases hchild
        | branch label link children => exact ⟨label, link, children, hparent, hchild⟩
        | deferred => cases hchild
      · rintro ⟨label, link, children, hparent, hchild⟩
        exact ⟨_, hparent, hchild⟩

/-- Whether steps pass every entry of a forest once, in document order. -/
structure InDocumentOrder (roots : List Node) (steps : List Step) : Prop where
  /-- The steps show entries in the order of their paths, each once, and an entry is as deep as
  there are entries above it on its path. -/
  exists_places : ∃ places : List (List Nat × Node),
    (∀ path node, (path, node) ∈ places ↔ nodeAt? roots path = some node) ∧
    places.Pairwise (·.1 < ·.1) ∧
    steps = places.map fun place => place.2.step (place.1.length - 1)
  /-- The entries below another one are its children at hand, and only a branch has any. -/
  below_iff : ∀ (path : List Nat) (i : Nat) (node : Node), path ≠ [] →
    (nodeAt? roots (path ++ [i]) = some node ↔ ∃ label link children,
      nodeAt? roots path = some (.branch label link children) ∧ children[i]? = some node)
  /-- There is a step for every entry. -/
  length_eq : steps.length = Node.sizes roots
  /-- The first step is at the top. -/
  depth_head : ∀ step ∈ steps.head?, step.depth = 0
  /-- No step goes down by more than one entry, nor below one whose children are not at hand. -/
  isChain : steps.IsChain Step.MayPrecede

/-- Document order is that of the recursion. -/
theorem inDocumentOrder_forestPreorder (roots : List Node) :
    InDocumentOrder roots (forestPreorder 0 roots) where
  exists_places := by
    refine ⟨forestPlaces 0 roots, fun path node => ?_, pairwise_forestPlaces 0 roots, ?_⟩
    · rw [mem_forestPlaces_iff]
      constructor
      · rintro ⟨j, rest, rfl, h⟩
        rwa [Nat.zero_add]
      · intro h
        cases path with
        | nil => cases h
        | cons j rest => exact ⟨j, rest, by rw [Nat.zero_add], h⟩
    · rw [← map_forestPlaces 0 0 roots]
      simp only [Nat.zero_add]
  below_iff := fun _ _ _ hpath => nodeAt?_concat_eq_some_iff hpath
  length_eq := length_forestPreorder 0 roots
  depth_head := fun _ h => depth_of_mem_head?_forestPreorder h
  isChain := isChain_forestPreorder 0 roots

/-- **A walk passes the entries of a forest in document order** and comes to an end there, and it is
as long as there are entries. -/
theorem walk_in_document_order (roots : List Node) :
    (∀ steps, (Walk.start roots).Passes steps ↔ steps = forestPreorder 0 roots) ∧
      InDocumentOrder roots (forestPreorder 0 roots) ∧
      ∀ (index : PageIndex) (sync : Option SyncMessages),
        Tree.walk ⟨roots, index, sync⟩ = forestPreorder 0 roots ∧
          Tree.size ⟨roots, index, sync⟩ = Node.sizes roots := by
  refine ⟨fun steps => ?_, inDocumentOrder_forestPreorder roots, fun index sync => ⟨?_, ?_⟩⟩
  · rw [Walk.passes_iff, ← Walk.toList_eq, Walk.toList_start]
  · exact Tree.walk_eq ⟨roots, index, sync⟩
  · rw [Tree.size, Tree.walk_eq, length_forestPreorder]

end DocSite.Nav
