import DocSite.Nav.Link
import DocSite.Nav.Resolve
import DocSite.Settings.Basic

/-! # Sites

A generated site is a directory with a navigation descriptor and a search index. A descriptor that
cannot be used is replaced by the plain links in it, so that there always is something to show. -/

namespace DocSite

open DocSite.Nav

/-- Navigation as it can be had. -/
inductive Navigation where
  /-- The tree of a sound descriptor. -/
  | tree (tree : Tree)
  /-- The links of a faulty one. -/
  | links (links : List Link)

/-- Where the parts of a site are. -/
structure Site where
  /-- The navigation descriptor. -/
  navPath : Path
  /-- The directory of the search index. -/
  searchDir : Path

namespace Site

/-- The site in a directory. -/
def ofRoot (root : Path) (settings : Settings) : Site :=
  ⟨root.join settings.navFile, root.join settings.searchDir⟩

/-- The navigation tree with its deferred subtrees in place, and the warnings that came up. -/
def loadTree (site : Site) (files : Files) : Except Error (Tree × List Notice) :=
  match Script.load files site.navPath with
  | .error e => .error e
  | .ok script =>
      match Tree.ofScript script with
      | .error e => .error e
      | .ok tree =>
          match site.navPath.parent? with
          -- A path without a directory leaves nothing to look in.
          | none => .ok (tree, [])
          | some dir =>
              let resolution := tree.resolve files dir
              .ok (resolution.tree, resolution.notices)

/-- The navigation tree, or the plain links if there is no tree to be had. -/
def navigation (site : Site) (files : Files) : Navigation × List Notice :=
  match site.loadTree files with
  | .ok (tree, notices) => (.tree tree, notices)
  | .error e =>
      let notice : Notice :=
        ⟨.error, "navigation unavailable, falling back to plain links: " ++ e.message⟩
      match files.read site.navPath with
      | .ok source =>
          let (links, notices) := fallbackLinks source
          (.links links, notice :: notices)
      | .error _ => (.links [], [notice])

end Site

end DocSite
