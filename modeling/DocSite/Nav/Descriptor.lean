import DocSite.Nav.Tree
import DocSite.Script

/-! # Reading descriptors

A descriptor declares the table of contents as nested triples of label, link and children, and the
order of pages as a list of names. Both are checked in document order, and the first fault is named
by its place. -/

namespace DocSite.Nav

open DocSite.Text

/-- The declaration that holds the table of contents. -/
def treeVariable : String := "NAVTREE"

/-- The declaration that holds the text for the switch while it is on. -/
def syncOnVariable : String := "SYNCONMSG"

/-- The declaration that holds the text for the switch while it is off. -/
def syncOffVariable : String := "SYNCOFFMSG"

/-- The place of an item in the list at a place. -/
def itemLocation (location : String) (i : Nat) : String :=
  location ++ "[" ++ decimal i ++ "]"

/-- The label that a literal gives. -/
def labelOf (location : String) : Literal → Except Error String
  | .string label => .ok label
  | other => .error (.malformedNavigation (itemLocation location 0)
      ("label must be a string, found " ++ other.kind))

/-- The link that a literal gives. -/
def linkOf (location : String) : Literal → Except Error String
  | .string link =>
      if link = "" then
        .error (.malformedNavigation (itemLocation location 1) "link is empty")
      else .ok link
  | other => .error (.malformedNavigation (itemLocation location 1)
      ("link must be a string, found " ++ other.kind))

/-- Children that are no literal of that kind. -/
def childrenFault (location : String) (found : Literal) : Error :=
  .malformedNavigation (itemLocation location 2)
    ("children must be null, an array or a subtree name, found " ++ found.kind)

mutual

/-- The entry that a literal at this place describes. -/
def nodeOf (location : String) : Literal → Except Error Node
  | .array fields => nodeOfFields location fields
  | other => .error (.malformedNavigation location
      ("expected [label, link, children], found " ++ other.kind))

/-- The entry that three fields describe. -/
def nodeOfFields (location : String) : List Literal → Except Error Node
  | [label, link, children] =>
      match labelOf location label with
      | .error e => .error e
      | .ok label =>
          match linkOf location link with
          | .error e => .error e
          | .ok link => nodeAbove location label link children
  | fields => .error (.malformedNavigation location
      ("expected [label, link, children], found " ++ decimal fields.length ++ " fields"))

/-- The entry of this label and link above the children that a literal describes. -/
def nodeAbove (location label link : String) : Literal → Except Error Node
  | .null => .ok (.leaf label link)
  | .array items =>
      match nodesOf (itemLocation location 2) 0 items with
      | .ok children => .ok (.branch label link children)
      | .error e => .error e
  | .string name =>
      if name = "" then .error (childrenFault location (.string name))
      else .ok (.deferred label link name)
  | other => .error (childrenFault location other)

/-- The entries that literals describe, which stand from position `i` on in the list at this
place. -/
def nodesOf (location : String) (i : Nat) : List Literal → Except Error (List Node)
  | [] => .ok []
  | item :: rest =>
      match nodeOf (itemLocation location i) item with
      | .error e => .error e
      | .ok node =>
          match nodesOf location (i + 1) rest with
          | .error e => .error e
          | .ok nodes => .ok (node :: nodes)

end

/-- The entries that the literal of a declaration describes. -/
def forestOf (location : String) : Literal → Except Error (List Node)
  | .array items => nodesOf location 0 items
  | other => .error (.malformedNavigation location
      ("expected an array of entries, found " ++ other.kind))

/-- The names of pages that literals give, which stand from position `i` on. -/
def pageNamesOf (i : Nat) : List Literal → Except Error (List String)
  | [] => .ok []
  | .string page :: rest =>
      match pageNamesOf (i + 1) rest with
      | .ok pages => .ok (page :: pages)
      | .error e => .error e
  | other :: _ => .error (.malformedNavigation (PageIndex.location i)
      ("expected a string, found " ++ other.kind))

/-- The names of pages that a declaration gives; it may be missing. -/
def pagesOf : Option Literal → Except Error (List String)
  | none => .ok []
  | some (.array items) => pageNamesOf 0 items
  | some other => .error (.malformedNavigation PageIndex.variableName
      ("expected an array, found " ++ other.kind))

namespace Tree

/-- The texts for the switch, if the script declares both. -/
def syncOf (script : Script) : Option SyncMessages :=
  match script.get? syncOnVariable, script.get? syncOffVariable with
  | some (.string on), some (.string off) => some ⟨on, off⟩
  | _, _ => none

/-- The tree that a script declares. -/
def ofScript (script : Script) : Except Error Tree :=
  match script.get? treeVariable with
  | none => .error (.malformedNavigation treeVariable "declaration missing")
  | some literal =>
      match forestOf treeVariable literal with
      | .error e => .error e
      | .ok roots =>
          match pagesOf (script.get? PageIndex.variableName) with
          | .error e => .error e
          | .ok pages =>
              match PageIndex.ofList pages with
              | .error e => .error e
              | .ok index => .ok ⟨roots, index, syncOf script⟩

/-- The tree that the text of a descriptor declares. -/
def parse (source : String) : Except Error Tree :=
  match Script.parse source with
  | .error e => .error (.script e)
  | .ok script => ofScript script

end Tree

end DocSite.Nav
