import DocSite.Nav.Tree

/-! # What a walk passes

A walk keeps the entries to come, each with its depth. What it still passes is told by recursion
(`Walk.steps`): every entry to come, and those below it behind it. A step takes one off the front
(`Walk.steps_of_next?`), so the walk through a forest passes it in document order
(`Walk.toList_start`). -/

namespace DocSite.Nav

/-- An entry is listed in front of those below it. -/
theorem Node.preorder_eq (depth : Nat) (node : Node) :
    node.preorder depth = node.step depth :: forestPreorder (depth + 1) node.children := by
  cases node with
  | leaf => rfl
  | branch => rfl
  | deferred => rfl

namespace Walk

/-- The steps to come. -/
def steps (walk : Walk) : List Step :=
  walk.pending.flatMap fun entry => entry.1.preorder entry.2

/-- Entries of one depth are passed like a forest. -/
theorem flatMap_preorder (depth : Nat) (forest : List Node) :
    (forest.map (·, depth)).flatMap (fun entry => entry.1.preorder entry.2)
      = forestPreorder depth forest := by
  induction forest with
  | nil => rfl
  | cons node rest ih => rw [List.map_cons, List.flatMap_cons, ih, forestPreorder]

/-- The next step is the first of those to come. -/
theorem steps_of_next? {walk rest : Walk} {step : Step} (h : walk.next? = some (step, rest)) :
    walk.steps = step :: rest.steps := by
  obtain ⟨pending⟩ := walk
  cases pending with
  | nil => cases h
  | cons first more =>
      obtain ⟨node, depth⟩ := first
      cases h
      simp only [steps, List.flatMap_cons, List.flatMap_append, flatMap_preorder, node.preorder_eq,
        List.cons_append]

/-- Without a next step there are none to come. -/
theorem steps_of_next?_eq_none {walk : Walk} (h : walk.next? = none) : walk.steps = [] := by
  obtain ⟨pending⟩ := walk
  cases pending with
  | nil => rfl
  | cons first more => cases h

/-- There are as many steps to come as entries. -/
theorem length_steps (walk : Walk) : walk.steps.length = walk.remaining := by
  obtain ⟨pending⟩ := walk
  induction pending with
  | nil => rfl
  | cons first more ih =>
      rw [steps] at ih
      rw [steps, List.flatMap_cons, List.length_append, ih, Node.length_preorder]
      rfl

/-- The next `n` steps are the first `n` of those to come. -/
theorem take_eq (n : Nat) (walk : Walk) : walk.take n = walk.steps.take n := by
  induction n generalizing walk with
  | zero => rfl
  | succ n ih =>
      rw [take]
      cases hnext : walk.next? with
      | none => rw [steps_of_next?_eq_none hnext, List.take_nil]
      | some next =>
          obtain ⟨step, rest⟩ := next
          rw [steps_of_next? hnext, List.take_succ_cons, ← ih]

/-- **A walk passes the entries to come with all that is below them.** -/
theorem toList_eq (walk : Walk) : walk.toList = walk.steps := by
  rw [toList, take_eq, ← length_steps, List.take_length]

/-- **A walk through a forest passes it in document order.** -/
theorem toList_start (roots : List Node) : (start roots).toList = forestPreorder 0 roots := by
  rw [toList_eq]
  exact flatMap_preorder 0 roots

end Walk

/-- The walk of a tree passes its entries in document order. -/
theorem Tree.walk_eq (tree : Tree) : tree.walk = forestPreorder 0 tree.roots :=
  Walk.toList_start tree.roots

end DocSite.Nav
