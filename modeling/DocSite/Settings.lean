import DocSite.Files
import DocSite.Settings.Basic
import DocSite.Toml.Document

/-! # Reading settings

Settings stand in a file of the current directory. A missing file leaves the defaults in force, and
so does a file of which any part is wrong. -/

namespace DocSite

open DocSite.Toml (Value)

namespace Settings

/-- The file that holds the settings. -/
def fileName : String := "doxnav.toml"

/-- The text that a value is. -/
def textOf? : Value → Option String
  | .text s => some s
  | _ => none

/-- The texts that the items of an array are. -/
def textsOf? : Value → Option (List String)
  | .array items => items.mapM textOf?
  | _ => none

/-- The truth value that a value is. -/
def booleanOf? : Value → Option Bool
  | .boolean b => some b
  | _ => none

/-- The whole number below `2 ^ 64` that a value comes to, where a fraction is dropped. -/
def countOf? : Value → Option Nat
  | .integer n => if 0 ≤ n then some n.toNat else none
  | .float (.finite negative significand exponent) =>
      let whole :=
        match exponent with
        | .ofNat e => significand <<< e
        | .negSucc e => significand >>> (e + 1)
      if whole = 0 then some 0
      else if negative ∨ Nat.pow 2 64 ≤ whole then none
      else some whole
  | _ => none

/-- The setting of this name, read by `read`; the default stands in for a missing one. -/
def setting {α : Type} (entries : List (String × Value)) (name : String)
    (read : Value → Option α) (default : α) : Option α :=
  match entries.lookup name with
  | some value => read value
  | none => some default

/-- The settings that entries describe; entries of other names do not count. -/
def ofEntries? (entries : List (String × Value)) : Option Settings := do
  let defaults : Settings := {}
  return {
    navFile := ← setting entries "nav_file" textOf? defaults.navFile
    searchDir := ← setting entries "search_dir" textOf? defaults.searchDir
    search := {
      lazy := ← setting entries "lazy_partitions" booleanOf? defaults.search.lazy
      maxResults := ← setting entries "max_results" countOf? defaults.search.maxResults
      sections := ← setting entries "sections" textsOf? defaults.search.sections } }

/-- The settings that a text holds, unless any part of it is wrong. -/
def parse? (source : String) : Option Settings :=
  (Toml.parse? source).bind ofEntries?

/-- The settings in force in the current directory, and whether a file was set aside. -/
def load (files : Files) : Settings × Bool :=
  match files.read fileName with
  | .ok source =>
      match parse? source with
      | some settings => (settings, false)
      | none => ({}, true)
  | .error _ => ({}, false)

end Settings

end DocSite
