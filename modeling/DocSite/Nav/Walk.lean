import DocSite.Nav.Node

/-! # Walking a forest

A walk keeps the entries that are still to come, the nearest first, with their depths. Each step
takes the first one and puts its children in its place, so a walk can stop anywhere without having
looked at the rest. -/

namespace DocSite.Nav

/-- A walk under way. -/
structure Walk where
  /-- The entries to come with their depths, each of them before those below it. -/
  pending : List (Node × Nat)

namespace Walk

/-- The walk through a forest from its beginning. -/
def start (roots : List Node) : Walk :=
  ⟨roots.map (·, 0)⟩

/-- The next step, and the walk behind it. -/
def next? (walk : Walk) : Option (Step × Walk) :=
  match walk.pending with
  | [] => none
  | (node, depth) :: rest =>
      some (node.step depth, ⟨node.children.map (·, depth + 1) ++ rest⟩)

/-- The number of steps to come. -/
def remaining (walk : Walk) : Nat :=
  Node.sizes (walk.pending.map Prod.fst)

/-- The next steps, at most `n`. -/
def take : Nat → Walk → List Step
  | 0, _ => []
  | n + 1, walk =>
      match walk.next? with
      | some (step, rest) => step :: take n rest
      | none => []

/-- All steps to come. -/
def toList (walk : Walk) : List Step :=
  walk.take walk.remaining

end Walk

end DocSite.Nav
