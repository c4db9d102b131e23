import DocSite.Script.Quote
import DocSite.Search.Partition

/-! # Writing partitions

A partition is written in the layout of generated sites: an entry a line, records behind the
name. -/

namespace DocSite.Search

open DocSite.Script (quote)

/-- A record as it stands behind a comma. -/
def Record.render (record : Record) : String :=
  ",[" ++ quote '\'' record.link ++ "," ++ (if record.parentFrame then "1" else "0")
    ++ scope record.scope ++ "]"
where
  /-- The scope, if it is given. -/
  scope : Option String → String
    | none => ""
    | some scope => "," ++ quote '\'' scope

/-- An entry on its line. -/
def Entry.render (entry : Entry) : String :=
  "  [" ++ quote '\'' entry.key ++ ",[" ++ quote '\'' entry.name
    ++ String.join (entry.records.map Record.render) ++ "]]"

/-- Entries, each on a line of its own, with commas between them. -/
def renderEntries : List Entry → String
  | [] => ""
  | [entry] => entry.render ++ "\n"
  | entry :: rest => entry.render ++ ",\n" ++ renderEntries rest

/-- The text of a file for a partition. -/
def Partition.render (partition : Partition) : String :=
  "var " ++ Partition.variableName ++ "=\n[\n" ++ renderEntries partition.entries ++ "];\n"

end DocSite.Search
