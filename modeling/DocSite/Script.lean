import DocSite.Error
import DocSite.Script.Grammar
import DocSite.Script.Lift

/-! # Data scripts

A data script declares names and binds each to a literal. `Script.parse` reads one, `Script.get?`
finds what a name is bound to: the first declaration counts. -/

namespace DocSite

/-- The declarations of a script. -/
structure Script where
  /-- Names and what they are bound to, in source order; a name may be declared again. -/
  bindings : List (String × Literal)

namespace Script

/-- The number of bytes that characters take in UTF-8. -/
def byteCount (s : List Char) : Nat :=
  s.foldr (fun c n => c.utf8Size + n) 0

/-- Line and column, counted from one, of the place at which `place` is the rest of `source`.
Only line feeds begin a line; a column counts the bytes in front. -/
def lineColumn (source : List Char) (place : Place) : Nat × Nat :=
  let before := source.take (source.length - place.length)
  let line := (before.reverse.takeWhile (· != '\n'))
  (before.count '\n' + 1, byteCount line + 1)

/-- Reads a script. -/
def parse (source : String) : Except ScriptError Script :=
  let chars := source.toList
  match declarators? chars with
  | none => .error .malformed
  | some declarators =>
      match bindings? declarators with
      | .ok bindings => .ok ⟨bindings⟩
      | .error e =>
          let (line, column) := lineColumn chars e.place
          .error (.unsupported e.what line column)

/-- What a name is bound to by its first declaration. -/
def get? (script : Script) (name : String) : Option Literal :=
  script.bindings.lookup name

/-- The declared names in source order. -/
def names (script : Script) : List String :=
  script.bindings.map Prod.fst

end Script

end DocSite
