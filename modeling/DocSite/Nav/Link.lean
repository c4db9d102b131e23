import DocSite.Nav.Descriptor
import DocSite.Notice

/-! # Plain links

When a descriptor is faulty, its links can still be offered: any array in the table of contents that
begins with two strings, the second not empty, counts as an entry. -/

namespace DocSite.Nav

/-- A label with the link it stands for. -/
structure Link where
  /-- The label. -/
  label : String
  /-- The link. -/
  link : String
  deriving DecidableEq

/-- The link that the beginning of an array gives. -/
def linkOfItems : List Literal → List Link
  | .string label :: .string link :: _ => if link = "" then [] else [⟨label, link⟩]
  | _ => []

mutual

/-- The links in a literal, outer ones first. -/
def linksIn : Literal → List Link
  | .array items => linkOfItems items ++ linksInItems items
  | _ => []

/-- The links in a row of literals. -/
def linksInItems : List Literal → List Link
  | [] => []
  | item :: rest => linksIn item ++ linksInItems rest

end

/-- The links in the table of contents that a script declares, well formed or not. -/
def linksOfScript (script : Script) : List Link :=
  match script.get? treeVariable with
  | some literal => linksIn literal
  | none => []

/-- The links in the text of a descriptor; a text that cannot be read gives none and a warning. -/
def fallbackLinks (source : String) : List Link × List Notice :=
  match Script.parse source with
  | .ok script => (linksOfScript script, [])
  | .error e =>
      ([], [.warning ("navigation fallback unavailable: " ++ (Error.script e).message)])

end DocSite.Nav
