import DocSite.Proofs.Nav.Growth
import DocSite.Proofs.Nav.Writable

/-! # What resolving adds

A tree whose deferred subtrees are resolved still has all that was in it. Its entries are those of a
`Growth`: without the children that were put in place it is the tree as it was, a walk passes the
entries of the tree as it was on the way (`sublist_forestPreorder`), and everything that was put in
place is all that a script gives, never a part of it. This is so whatever the scripts hold and
whichever of them cannot be read. The main statement is `resolve_only_adds`. -/

namespace DocSite.Nav

/-- What a step shows of an entry that stays as it is when children are put in place. -/
def Step.shown (step : Step) : String × String × Nat :=
  (step.label, step.link, step.depth)

mutual

/-- From an entry down, a walk passes what it passed before. -/
theorem Growth.sublist_preorder (depth : Nat) : (growth : Growth) →
    ((growth.before.preorder depth).map Step.shown).Sublist
      ((growth.after.preorder depth).map Step.shown)
  | .leaf label link => .refl _
  | .kept label link name => .refl _
  | .branch label link below => by
      rw [Growth.before, Growth.after, Node.preorder, Node.preorder, List.map_cons, List.map_cons]
      exact (sublist_forestPreorder (depth + 1) below).cons_cons _
  | .spliced label link name below => by
      -- The entry is deferred no more, but that is not shown.
      rw [Growth.before, Growth.after, Node.preorder, Node.preorder, List.map_cons, List.map_cons]
      exact (List.nil_sublist _).cons_cons _

/-- **A walk through a forest that has grown passes what it passed before.** -/
theorem sublist_forestPreorder (depth : Nat) : (grown : List Growth) →
    ((forestPreorder depth (forestBefore grown)).map Step.shown).Sublist
      ((forestPreorder depth (forestAfter grown)).map Step.shown)
  | [] => .refl _
  | growth :: rest => by
      rw [forestBefore, forestAfter, forestPreorder, forestPreorder, List.map_append,
        List.map_append]
      exact (growth.sublist_preorder depth).append (sublist_forestPreorder depth rest)

end

/-- Whether resolving the deferred subtrees of a tree only added entries to it. -/
structure Resolution.OnlyAdds (resolution : Resolution) (tree : Tree) (files : Files) (dir : Path) :
    Prop where
  /-- The order of pages stays as it was. -/
  index_eq : resolution.tree.index = tree.index
  /-- So do the texts for the switch. -/
  sync_eq : resolution.tree.sync = tree.sync
  /-- Where the entries with children put in place are deferred again, the forest is as it was; and
  what was put in place is all that the script of the name gives. -/
  exists_grown : ∃ grown,
    forestAfter grown = resolution.tree.roots ∧ forestBefore grown = tree.roots ∧
      ∀ label link name below, .spliced label link name below ∈ forestAll grown →
        Gives files dir name (forestBefore below)
  /-- A walk passes the entries that there were, in their order and at their depths. -/
  sublist_walk : (tree.walk.map Step.shown).Sublist (resolution.tree.walk.map Step.shown)
  /-- If every entry had a link, and a name if it was deferred, this is still so. -/
  isWritable : tree.IsWritable → resolution.tree.IsWritable

/-- **Resolving deferred subtrees only adds entries.** -/
theorem resolve_only_adds (tree : Tree) (files : Files) (dir : Path) :
    (tree.resolve files dir).OnlyAdds tree files dir := by
  obtain ⟨grown, hbefore, hafter, hfollows⟩ := tree.grows_resolve files dir
  refine ⟨rfl, rfl, ⟨grown, hafter, hbefore, ?_⟩, ?_, fun h => h.resolve files dir⟩
  · intro label link name below hspliced
    have hmark : Mark.mk name (some (forestBefore below)) ∈ forestMarks grown :=
      List.mem_filterMap.2 ⟨_, hspliced, rfl⟩
    have hload := hfollows.load_eq hmark rfl
    exact loadSubtree_eq_ok_iff.1 hload
  · have hroots : forestAfter grown = (tree.resolve files dir).tree.roots := hafter
    rw [Tree.walk_eq, Tree.walk_eq, ← hbefore, ← hroots]
    exact sublist_forestPreorder 0 grown

end DocSite.Nav
