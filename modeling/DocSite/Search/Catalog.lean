import DocSite.Script

/-! # Catalogs

The catalog of a search index lists its sections, and for each the initial characters that have a
partition. The partition of the character at position `i` is in the file that the section's name and
`i` in hexadecimal give. -/

namespace DocSite.Search

open DocSite.Text

/-- A section of the search index. -/
structure Section where
  /-- The name that its files begin with. -/
  name : String
  /-- The label to show, if there is one. -/
  label : Option String
  /-- The initial characters that have a partition. -/
  initials : List Char
  deriving DecidableEq

/-- The file of the partition at position `i` of the section of this name. -/
def partitionFile (name : String) (i : Nat) : String :=
  name ++ "_" ++ String.ofList (hexDigits i) ++ ".js"

/-- The files of a section's partitions, each with its initial character. -/
def Section.partitions (s : Section) : List (Char × String) :=
  s.initials.zipIdx.map fun (c, i) => (c, partitionFile s.name i)

/-- The catalog of a search index. -/
structure Catalog where
  /-- The sections in order. -/
  sections : List Section
  deriving DecidableEq

namespace Catalog

/-- The file that holds the catalog. -/
def fileName : String := "searchdata.js"

/-- The declaration of the initial characters of each section. -/
def contentVariable : String := "indexSectionsWithContent"

/-- The declaration of the names of the sections. -/
def namesVariable : String := "indexSectionNames"

/-- The declaration of the labels of the sections. -/
def labelsVariable : String := "indexSectionLabels"

/-- A fault of the catalog. -/
def fault (reason : String) : Error :=
  .unavailablePartition fileName reason

/-- The fields of a declaration as texts. -/
def textsOf (variableName : String) : List (String × Literal) →
    Except Error (List (String × String))
  | [] => .ok []
  | (key, .string value) :: rest =>
      match textsOf variableName rest with
      | .ok more => .ok ((key, value) :: more)
      | .error e => .error e
  | (key, other) :: _ =>
      .error (fault (variableName ++ "[" ++ key ++ "] must be a string, found " ++ other.kind))

/-- What a declaration says of each section. -/
def table (script : Script) (variableName : String) : Except Error (List (String × String)) :=
  match script.get? variableName with
  | some (.object fields) => textsOf variableName fields
  | _ => .error (fault (variableName ++ " missing or not an object"))

/-- The sections that have content, with their names and labels. -/
def sectionsOf (names labels : List (String × String)) : List (String × String) →
    Except Error (List Section)
  | [] => .ok []
  | (id, initials) :: rest =>
      match names.lookup id with
      | none => .error (fault ("section " ++ id ++ " has no name"))
      | some name =>
          match sectionsOf names labels rest with
          | .ok more => .ok (⟨name, labels.lookup id, initials.toList⟩ :: more)
          | .error e => .error e

/-- The catalog that a script declares; the labels may be missing. -/
def ofScript (script : Script) : Except Error Catalog :=
  match table script contentVariable with
  | .error e => .error e
  | .ok content =>
      match table script namesVariable with
      | .error e => .error e
      | .ok names =>
          let labels :=
            match table script labelsVariable with
            | .ok labels => labels
            | .error _ => []
          match sectionsOf names labels content with
          | .ok sections => .ok ⟨sections⟩
          | .error e => .error e

/-- The catalog that the text of a file declares. -/
def parse (source : String) : Except Error Catalog :=
  match Script.parse source with
  | .error e => .error (.script e)
  | .ok script => ofScript script

/-- The first section of a name. -/
def section? (catalog : Catalog) (name : String) : Option Section :=
  catalog.sections.find? (·.name == name)

end Catalog

end DocSite.Search
