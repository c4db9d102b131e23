import DocSite.Nav.Descriptor
import DocSite.Script.Quote

/-! # Writing descriptors

A tree is written in the layout of generated sites: an entry a line, children indented by two
spaces, the order of pages a name a line. -/

namespace DocSite.Nav

open DocSite.Script (quote)

/-- The blanks in front of an entry at this depth. -/
def indent (depth : Nat) : String :=
  String.ofList (List.replicate (2 * depth) ' ')

/-- The beginning of an entry, up to its children. -/
def opening (depth : Nat) (label link : String) : String :=
  indent depth ++ "[ " ++ quote '"' label ++ ", " ++ quote '"' link ++ ", "

mutual

/-- An entry without what separates it from the next. -/
def renderNode (depth : Nat) : Node → String
  | .leaf label link => opening depth label link ++ "null ]"
  | .deferred label link name => opening depth label link ++ quote '"' name ++ " ]"
  | .branch label link children =>
      opening depth label link ++ "[\n" ++ renderForest (depth + 1) children
        ++ indent depth ++ "] ]"

/-- Entries, each on lines of its own, with commas between them. -/
def renderForest (depth : Nat) : List Node → String
  | [] => ""
  | node :: rest =>
      renderNode depth node ++ (if rest.isEmpty then "\n" else ",\n") ++ renderForest depth rest

end

/-- Names of pages, each on a line of its own, with commas between them. -/
def renderPages : List String → String
  | [] => ""
  | [page] => quote '"' page ++ "\n"
  | page :: rest => quote '"' page ++ ",\n" ++ renderPages rest

/-- The texts for the switch. -/
def renderSync : Option SyncMessages → String
  | none => ""
  | some sync =>
      "\nvar " ++ syncOnVariable ++ " = " ++ quote '\'' sync.on ++ ";\nvar " ++ syncOffVariable
        ++ " = " ++ quote '\'' sync.off ++ ";\n"

/-- The text of a descriptor for a tree. -/
def Tree.render (tree : Tree) : String :=
  "var " ++ treeVariable ++ " =\n[\n" ++ renderForest 1 tree.roots ++ "];\n\n"
    ++ "var " ++ PageIndex.variableName ++ " =\n[\n" ++ renderPages tree.index.pages ++ "];\n"
    ++ renderSync tree.sync

end DocSite.Nav
