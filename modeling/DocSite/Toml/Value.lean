import DocSite.Number.Numeral

/-! # Values of settings files

Settings are written in TOML. A value is a text, a number, a truth value, a moment, an array or a
table; of a moment only the fact counts that there is one. -/

namespace DocSite.Toml

/-- A value. -/
inductive Value where
  /-- A text. -/
  | text (value : String)
  /-- A whole number. -/
  | integer (value : Int)
  /-- A number with a fraction or an exponent. -/
  | float (value : Double)
  /-- A truth value. -/
  | boolean (value : Bool)
  /-- A date, a time or both. -/
  | moment
  /-- An array. -/
  | array (items : List Value)
  /-- A table. -/
  | table (entries : List (String × Value))

/-- How a table came to be, which decides what may still be added to it. -/
inductive TableOrigin where
  /-- It holds a table that a header names. -/
  | implied
  /-- A header names it. -/
  | header
  /-- A key with points leads through it. -/
  | dotted
  deriving DecidableEq

/-- What a name stands for while a file is read. -/
inductive Item where
  /-- A value, to which nothing can be added. -/
  | value (value : Value)
  /-- A table. -/
  | table (origin : TableOrigin) (entries : List (String × Item))
  /-- Tables under headers in double brackets, the latest first. -/
  | tables (latestFirst : List (List (String × Item)))

/-- The entries of a table that is being read. -/
abbrev Entries := List (String × Item)

/-- Puts `item` in the place of the entry of this name, or at the end. -/
def Entries.put (name : String) (item : Item) : Entries → Entries
  | [] => [(name, item)]
  | (other, old) :: rest =>
      if other = name then (name, item) :: rest else (other, old) :: Entries.put name item rest

/-- Adds a value under a key, given by the names on the way to it. The tables on the way must have
come to be by such keys alone, and the last name must be new. -/
def Entries.assign (value : Value) : List String → Entries → Option Entries
  | [], _ => none
  | [name], entries =>
      match entries.lookup name with
      | none => some (Entries.put name (.value value) entries)
      | some _ => none
  | name :: rest, entries =>
      match entries.lookup name with
      | none => do
          let inner ← Entries.assign value rest []
          return Entries.put name (.table .dotted inner) entries
      | some (.table .dotted inner) => do
          let inner ← Entries.assign value rest inner
          return Entries.put name (.table .dotted inner) entries
      | some _ => none

/-- Changes the table that the names lead to. Tables that are missing on the way are made with the
given origin; of tables in double brackets the latest counts. -/
def Entries.change (change : Entries → Option Entries) : List String → Entries → Option Entries
  | [], entries => change entries
  | name :: rest, entries =>
      match entries.lookup name with
      | none => do
          let inner ← Entries.change change rest []
          return Entries.put name (.table .implied inner) entries
      | some (.table origin inner) => do
          let inner ← Entries.change change rest inner
          return Entries.put name (.table origin inner) entries
      | some (.tables (latest :: older)) => do
          let latest ← Entries.change change rest latest
          return Entries.put name (.tables (latest :: older)) entries
      | some _ => none

/-- Opens the table that a header in single brackets names. -/
def Entries.openTable (path : List String) (entries : Entries) : Option Entries :=
  match path.reverse with
  | [] => none
  | name :: above =>
      Entries.change (fun inner =>
        match inner.lookup name with
        | none => some (Entries.put name (.table .header []) inner)
        | some (.table .implied old) => some (Entries.put name (.table .header old) inner)
        | some _ => none) above.reverse entries

/-- Opens a further table under a header in double brackets. -/
def Entries.openFurtherTable (path : List String) (entries : Entries) : Option Entries :=
  match path.reverse with
  | [] => none
  | name :: above =>
      Entries.change (fun inner =>
        match inner.lookup name with
        | none => some (Entries.put name (.tables [[]]) inner)
        | some (.tables tables) => some (Entries.put name (.tables ([] :: tables)) inner)
        | some _ => none) above.reverse entries

mutual

/-- What an item comes to in the end. -/
def Item.toValue : Item → Value
  | .value value => value
  | .table _ entries => .table (entriesToValues entries)
  | .tables latestFirst => .array (tablesToValues latestFirst).reverse

/-- What the entries of a table come to. -/
def entriesToValues : List (String × Item) → List (String × Value)
  | [] => []
  | (name, item) :: rest => (name, item.toValue) :: entriesToValues rest

/-- What tables in double brackets come to. -/
def tablesToValues : List (List (String × Item)) → List Value
  | [] => []
  | entries :: rest => .table (entriesToValues entries) :: tablesToValues rest

end

end DocSite.Toml
