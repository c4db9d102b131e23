import DocSite.Toml.Scalar

/-! # Settings files

A file is a row of lines, each with a key and its value, the header of a table, or nothing. `parse?`
gives the file's entries, or nothing if any part of it breaks the rules. -/

namespace DocSite.Toml

/-- Whether `c` may stand in a key without quotes. -/
def isKeyChar (c : Char) : Bool :=
  c.isAlphanum || c == '_' || c == '-'

/-- One name of a key. -/
def keyName? (s : List Char) : Option (String × List Char) :=
  match lineText? s with
  | some (text, rest) => some (String.ofList text, rest)
  | none =>
      match s.span isKeyChar with
      | ([], _) => none
      | (name, rest) => some (String.ofList name, rest)

/-- A key of at most `n` names with points between them, and the blanks behind it. -/
def key? : Nat → List Char → Option (List String × List Char)
  | 0, _ => none
  | n + 1, s => do
      let (name, rest) ← keyName? (skipSpaces s)
      match skipSpaces rest with
      | '.' :: rest => do
          let (more, after) ← key? n rest
          return (name :: more, after)
      | after => return ([name], after)

/-- Skips blanks, line breaks and comments, at most `n` lines of them. -/
def skipLines : Nat → List Char → List Char
  | 0, s => s
  | n + 1, s =>
      let rest := skipComment (skipSpaces s)
      match lineBreak? rest with
      | some rest => skipLines n rest
      | none => rest

/-- Readers of values one nesting level down. -/
structure Inner where
  /-- Bounds the length of rows. -/
  bound : Nat
  /-- A value. -/
  value : List Char → Option (Value × List Char)

namespace Inner

variable (g : Inner)

/-- The values of an array up to its closing bracket, at most `n`. -/
def items? : Nat → List Char → Option (List Value × List Char)
  | 0, _ => none
  | n + 1, s =>
      match skipLines g.bound s with
      | ']' :: rest => some ([], rest)
      | s => do
          let (item, rest) ← g.value s
          match skipLines g.bound rest with
          | ',' :: rest => do
              let (more, after) ← items? n rest
              return (item :: more, after)
          | ']' :: rest => return ([item], rest)
          | _ => none

/-- A key with its value. -/
def pair? (s : List Char) : Option ((List String × Value) × List Char) := do
  let (key, rest) ← key? g.bound s
  match rest with
  | '=' :: rest => do
      let (value, rest) ← g.value (skipSpaces rest)
      return ((key, value), rest)
  | _ => none

/-- The pairs of a table in braces up to the closing brace, at most `n`, added to `entries`. -/
def pairs? (entries : Entries) : Nat → List Char → Option (Entries × List Char)
  | 0, _ => none
  | n + 1, s => do
      let ((key, value), rest) ← g.pair? s
      let entries ← Entries.assign value key entries
      match skipSpaces rest with
      | ',' :: rest => pairs? entries n rest
      | '}' :: rest => return (entries, rest)
      | _ => none

/-- A value. -/
def valuePhrase (s : List Char) : Option (Value × List Char) :=
  match s with
  | '"' :: _ | '\'' :: _ => do
      let (text, rest) ← text? s
      return (.text (String.ofList text), rest)
  | '[' :: rest => do
      let (items, rest) ← g.items? g.bound rest
      return (.array items, rest)
  | '\x7b' :: rest =>
      match skipSpaces rest with
      | '\x7d' :: rest => some (.table [], rest)
      | rest => do
          let (entries, rest) ← g.pairs? [] g.bound rest
          return (.table (entriesToValues entries), rest)
  | _ => scalar? s

end Inner

/-- The readers of values with `n` levels of nesting at hand. -/
def grammar : Nat → Inner
  | 0 => ⟨0, fun _ => none⟩
  | n + 1 => ⟨n + 1, fun s => (grammar n).valuePhrase s⟩

/-- What has been read of a file. -/
structure Draft where
  /-- The entries. -/
  entries : Entries
  /-- The names that lead to the table that keys belong to. -/
  table : List String

/-- What the line that begins here adds, and the rest of the line. -/
def line? (g : Inner) (draft : Draft) (s : List Char) : Option (Draft × List Char) :=
  match skipSpaces s with
  | '[' :: '[' :: rest => do
      let (path, rest) ← key? g.bound rest
      match rest with
      | ']' :: ']' :: rest => return (⟨← Entries.openFurtherTable path draft.entries, path⟩, rest)
      | _ => none
  | '[' :: rest => do
      let (path, rest) ← key? g.bound rest
      match rest with
      | ']' :: rest => return (⟨← Entries.openTable path draft.entries, path⟩, rest)
      | _ => none
  | s =>
      match skipComment s with
      | [] => some (draft, [])
      | rest =>
          match lineBreak? rest with
          | some _ => some (draft, rest)
          | none => do
              let ((key, value), rest) ← g.pair? s
              let entries ← Entries.change (Entries.assign value key) draft.table draft.entries
              return (⟨entries, draft.table⟩, rest)

/-- Reads at most `n` lines. -/
def lines? (g : Inner) : Nat → Draft → List Char → Option Draft
  | 0, _, _ => none
  | n + 1, draft, s =>
      match line? g draft s with
      | none => none
      | some (draft, rest) =>
          match skipComment (skipSpaces rest) with
          | [] => some draft
          | rest =>
              match lineBreak? rest with
              | some rest => lines? g n draft rest
              | none => none

/-- The entries of a file. A mark for the order of bytes at its beginning is skipped. -/
def parse? (source : String) : Option (List (String × Value)) :=
  let chars :=
    match source.toList with
    | '\uFEFF' :: rest => rest
    | s => s
  let n := chars.length + 1
  (lines? (grammar n) n ⟨[], []⟩ chars).map fun draft => entriesToValues draft.entries

end DocSite.Toml
