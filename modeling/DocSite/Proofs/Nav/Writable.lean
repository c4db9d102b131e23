import DocSite.Nav.Resolve

/-! # Trees that can be written

Not every tree can be told by a descriptor: an entry there needs a link, and a deferred entry the
name of its script. `Tree.IsWritable` asks for this at every depth. The main statement is
`Loaded.isWritable`: what comes from descriptors has it, also after any number of subtrees have been
put in place. -/

namespace DocSite.Nav

/-! ## What a descriptor can tell -/

/-- Whether a descriptor can tell an entry: it leads somewhere, and if its children are deferred,
their script has a name. -/
def Step.IsWritable (step : Step) : Prop := step.link ≠ "" ∧ step.deferred ≠ some ""

instance : DecidablePred Step.IsWritable := fun step =>
  inferInstanceAs (Decidable (step.link ≠ "" ∧ step.deferred ≠ some ""))

/-- Whether a descriptor can tell a tree, that is, each of its entries at every depth. -/
def Tree.IsWritable (tree : Tree) : Prop := ∀ step ∈ forestPreorder 0 tree.roots, step.IsWritable

instance : DecidablePred Tree.IsWritable := fun tree =>
  inferInstanceAs (Decidable (∀ step ∈ forestPreorder 0 tree.roots, step.IsWritable))

mutual

/-- `Tree.IsWritable` for the entries from one down, by recursion. -/
def Node.IsWritable : Node → Prop
  | .leaf _ link => link ≠ ""
  | .branch _ link children => link ≠ "" ∧ ForestIsWritable children
  | .deferred _ link name => link ≠ "" ∧ name ≠ ""

/-- `Tree.IsWritable` for the entries of a forest, by recursion. -/
def ForestIsWritable : List Node → Prop
  | [] => True
  | node :: rest => node.IsWritable ∧ ForestIsWritable rest

end

mutual

/-- The recursion reaches every entry from one down. -/
theorem Node.isWritable_iff (depth : Nat) :
    (node : Node) → (node.IsWritable ↔ ∀ step ∈ node.preorder depth, step.IsWritable)
  | .leaf label link => by simp [Node.IsWritable, Node.preorder, Step.IsWritable]
  | .deferred label link name => by simp [Node.IsWritable, Node.preorder, Step.IsWritable]
  | .branch label link children => by
      rw [Node.IsWritable, Node.preorder, List.forall_mem_cons,
        forestIsWritable_iff (depth + 1) children]
      simp [Step.IsWritable]

/-- The recursion reaches every entry of a forest. -/
theorem forestIsWritable_iff (depth : Nat) :
    (forest : List Node) →
      (ForestIsWritable forest ↔ ∀ step ∈ forestPreorder depth forest, step.IsWritable)
  | [] => by simp [ForestIsWritable, forestPreorder]
  | node :: rest => by
      rw [ForestIsWritable, forestPreorder, List.forall_mem_append, node.isWritable_iff depth,
        forestIsWritable_iff depth rest]

end

/-- A tree can be told if its forest can. -/
theorem Tree.isWritable_iff (tree : Tree) : tree.IsWritable ↔ ForestIsWritable tree.roots :=
  (forestIsWritable_iff 0 tree.roots).symm

/-! ## Reading -/

/-- A link that is read is not empty. -/
theorem ne_empty_of_linkOf {location link : String} {literal : Literal}
    (h : linkOf location literal = .ok link) : link ≠ "" := by
  cases literal with
  | string text =>
      rw [linkOf] at h
      by_cases htext : text = ""
      · rw [if_pos htext] at h
        cases h
      · rw [if_neg htext] at h
        cases h
        exact htext
  | _ => cases h

mutual

/-- An entry that is read can be written. -/
theorem isWritable_of_nodeOf {location : String} {node : Node} :
    (literal : Literal) → nodeOf location literal = .ok node → node.IsWritable
  | .array fields, h => isWritable_of_nodeOfFields fields h
  | .null, h => nomatch h
  | .bool _, h => nomatch h
  | .number _, h => nomatch h
  | .string _, h => nomatch h
  | .object _, h => nomatch h

/-- An entry that is read from its fields can be written. -/
theorem isWritable_of_nodeOfFields {location : String} {node : Node} :
    (fields : List Literal) → nodeOfFields location fields = .ok node → node.IsWritable
  | [label, link, children], h => by
      rw [nodeOfFields] at h
      split at h
      · cases h
      next text _ =>
          split at h
          · cases h
          next hlink => exact isWritable_of_nodeAbove children (ne_empty_of_linkOf hlink) h
  | [], h => nomatch h
  | [_], h => nomatch h
  | [_, _], h => nomatch h
  | _ :: _ :: _ :: _ :: _, h => nomatch h

/-- An entry above children that are read can be written, if it has a link. -/
theorem isWritable_of_nodeAbove {location label link : String} {node : Node} :
    (children : Literal) → link ≠ "" → nodeAbove location label link children = .ok node →
      node.IsWritable
  | .null, hlink, h => by
      cases h
      exact hlink
  | .array items, hlink, h => by
      rw [nodeAbove] at h
      split at h
      next hitems =>
          cases h
          exact ⟨hlink, isWritable_of_nodesOf items hitems⟩
      · cases h
  | .string name, hlink, h => by
      rw [nodeAbove] at h
      by_cases hname : name = ""
      · rw [if_pos hname] at h
        cases h
      · rw [if_neg hname] at h
        cases h
        exact ⟨hlink, hname⟩
  | .bool _, _, h => nomatch h
  | .number _, _, h => nomatch h
  | .object _, _, h => nomatch h

/-- Entries that are read can be written. -/
theorem isWritable_of_nodesOf {location : String} {i : Nat} {nodes : List Node} :
    (items : List Literal) → nodesOf location i items = .ok nodes → ForestIsWritable nodes
  | [], h => by
      cases h
      trivial
  | item :: rest, h => by
      rw [nodesOf] at h
      split at h
      · cases h
      next hitem =>
          split at h
          · cases h
          next hrest =>
              cases h
              exact ⟨isWritable_of_nodeOf item hitem, isWritable_of_nodesOf rest hrest⟩

end

/-- A forest that is read can be written. -/
theorem isWritable_of_forestOf {location : String} {forest : List Node} {literal : Literal}
    (h : forestOf location literal = .ok forest) : ForestIsWritable forest := by
  cases literal with
  | array items => exact isWritable_of_nodesOf items h
  | _ => cases h

/-- A tree that is read can be written. -/
theorem Tree.isWritable_of_parse {source : String} {tree : Tree}
    (h : Tree.parse source = .ok tree) : tree.IsWritable := by
  rw [Tree.parse] at h
  split at h
  · cases h
  next script _ =>
      rw [Tree.ofScript] at h
      split at h
      · cases h
      next literal _ =>
          split at h
          · cases h
          next roots hroots =>
              split at h
              · cases h
              next pages _ =>
                  split at h
                  · cases h
                  next index _ =>
                      cases h
                      exact (Tree.isWritable_iff _).2 (isWritable_of_forestOf hroots)

/-! ## Putting subtrees in place -/

/-- Whether all that a loader gives can be written. -/
def Loader.GivesWritable (load : Loader) : Prop :=
  ∀ name forest, load name = .ok forest → ForestIsWritable forest

/-- Whether a resolver keeps what can be written. -/
def Resolver.KeepsWritable (deeper : Resolver) : Prop :=
  ∀ progress forest, ForestIsWritable forest → ForestIsWritable (deeper progress forest).1

mutual

/-- An entry can be written after it is resolved. -/
theorem Node.isWritable_resolve {load : Loader} {deeper : Resolver}
    (hload : Loader.GivesWritable load) (hdeeper : Resolver.KeepsWritable deeper) :
    (node : Node) → ∀ progress, node.IsWritable →
      (node.resolve load deeper progress).1.IsWritable
  | .leaf label link, progress, h => h
  | .branch label link children, progress, h =>
      ⟨h.1, isWritable_resolveForest hload hdeeper children progress h.2⟩
  | .deferred label link name, progress, h => by
      rw [Node.resolve]
      by_cases htried : name ∈ progress.tried
      · rw [if_pos htried]
        exact h
      · rw [if_neg htried]
        split
        next children hname => exact ⟨h.1, hdeeper _ _ (hload name children hname)⟩
        · exact h

/-- The entries of a forest can be written after they are resolved. -/
theorem isWritable_resolveForest {load : Loader} {deeper : Resolver}
    (hload : Loader.GivesWritable load) (hdeeper : Resolver.KeepsWritable deeper) :
    (forest : List Node) → ∀ progress, ForestIsWritable forest →
      ForestIsWritable (resolveForest load deeper progress forest).1
  | [], _, _ => trivial
  | node :: rest, progress, h =>
      ⟨node.isWritable_resolve hload hdeeper progress h.1,
        isWritable_resolveForest hload hdeeper rest _ h.2⟩

end

/-- Resolving keeps what can be written at any depth. -/
theorem keepsWritable_resolveDeep {load : Loader} (hload : Loader.GivesWritable load) (n : Nat) :
    Resolver.KeepsWritable (resolveDeep load n) := by
  induction n with
  | zero => exact fun _ _ h => h
  | succ n ih => exact fun progress forest h => isWritable_resolveForest hload ih forest progress h

/-- The children that a script holds can be written. -/
theorem givesWritable_loadSubtree (files : Files) (dir : Path) :
    Loader.GivesWritable (loadSubtree files dir) := by
  intro name forest h
  rw [loadSubtree] at h
  split at h
  · cases h
  next script _ =>
      split at h
      · cases h
      next literal _ => exact isWritable_of_forestOf h

/-- **Resolving keeps what can be written.** -/
theorem Tree.IsWritable.resolve {tree : Tree} (h : tree.IsWritable) (files : Files) (dir : Path) :
    (tree.resolve files dir).tree.IsWritable := by
  rw [Tree.isWritable_iff] at h ⊢
  exact keepsWritable_resolveDeep (givesWritable_loadSubtree files dir) (files.count + 1) .start _ h

/-! ## Trees from descriptors -/

/-- The trees that come from descriptors: they are read from a text, and subtrees are put in place
any number of times, with whatever files are there at the time. -/
inductive Loaded : Tree → Prop where
  /-- A tree that is read. -/
  | parsed {source : String} {tree : Tree} (h : Tree.parse source = .ok tree) : Loaded tree
  /-- A tree with subtrees put in place. -/
  | resolved {tree : Tree} (h : Loaded tree) (files : Files) (dir : Path) :
      Loaded (tree.resolve files dir).tree

/-- **What comes from descriptors can be written.** -/
theorem Loaded.isWritable {tree : Tree} (h : Loaded tree) : tree.IsWritable := by
  induction h with
  | parsed h => exact Tree.isWritable_of_parse h
  | resolved _ files dir ih => exact ih.resolve files dir

end DocSite.Nav
