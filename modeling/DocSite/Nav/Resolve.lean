import DocSite.Nav.Descriptor
import DocSite.Notice
import DocSite.Script.Load

/-! # Deferred subtrees

An entry may name a script that holds its children. Resolving a forest reads those scripts and puts
the children in place, then resolves them in turn. Each name is tried once, at its first entry in
document order, so scripts that refer to each other come to an end; a name that fails leaves its
entry as it is and gives a warning. -/

namespace DocSite.Nav

/-- What has been done so far while a forest is resolved. -/
structure Progress where
  /-- The names tried, the latest first. -/
  tried : List String
  /-- The number of entries whose children were put in place. -/
  resolved : Nat
  /-- The warnings, in order. -/
  notices : List Notice

/-- Nothing done yet. -/
def Progress.start : Progress := ⟨[], 0, []⟩

/-- What gives the children that a name stands for. -/
abbrev Loader := String → Except Error (List Node)

/-- What resolves a forest further. -/
abbrev Resolver := Progress → List Node → List Node × Progress

mutual

/-- Resolves the entries from this one down; children put in place are resolved by `deeper`. -/
def Node.resolve (load : Loader) (deeper : Resolver) (progress : Progress) :
    Node → Node × Progress
  | .leaf label link => (.leaf label link, progress)
  | .branch label link children =>
      let (children, progress) := resolveForest load deeper progress children
      (.branch label link children, progress)
  | .deferred label link name =>
      if name ∈ progress.tried then (.deferred label link name, progress)
      else
        let tried := name :: progress.tried
        match load name with
        | .ok children =>
            let (children, progress) :=
              deeper { progress with tried, resolved := progress.resolved + 1 } children
            (.branch label link children, progress)
        -- The name counts as tried although it failed.
        | .error e =>
            (.deferred label link name,
              { progress with
                tried
                notices := progress.notices ++
                  [.warning ("leaving subtree " ++ name ++ " unresolved: " ++ e.message)] })

/-- Resolves the entries of a forest in document order. -/
def resolveForest (load : Loader) (deeper : Resolver) (progress : Progress) :
    List Node → List Node × Progress
  | [] => ([], progress)
  | node :: rest =>
      let (node, progress) := node.resolve load deeper progress
      let (rest, progress) := resolveForest load deeper progress rest
      (node :: rest, progress)

end

/-- Resolves a forest with children put in place inside of each other at most `n` deep. -/
def resolveDeep (load : Loader) : Nat → Resolver
  | 0 => fun progress forest => (forest, progress)
  | n + 1 => fun progress forest => resolveForest load (resolveDeep load n) progress forest

/-- The children in the script of this name in a directory. -/
def loadSubtree (files : Files) (dir : Path) : Loader := fun name =>
  match Script.load files (dir.join (name ++ ".js")) with
  | .error e => .error e
  | .ok script =>
      match script.get? name with
      | none => .error (.malformedNavigation name "declaration missing")
      | some literal => forestOf name literal

/-- What resolving the deferred subtrees of a tree gives. -/
structure Resolution where
  /-- The tree with the children in place. -/
  tree : Tree
  /-- The number of entries whose children were put in place. -/
  resolved : Nat
  /-- A warning for every name that failed. -/
  notices : List Notice

/-- Resolves the deferred subtrees of a tree with the scripts in a directory. There are no more
scripts to put inside of each other than there are files. -/
def Tree.resolve (tree : Tree) (files : Files) (dir : Path) : Resolution :=
  let (roots, progress) :=
    resolveDeep (loadSubtree files dir) (files.count + 1) .start tree.roots
  ⟨{ tree with roots }, progress.resolved, progress.notices⟩

end DocSite.Nav
