import DocSite.Number.Double

/-! # Literal values

What a declaration of a data script holds. An object keeps its fields in source order and keeps
repeated keys. -/

namespace DocSite

/-- A literal value. -/
inductive Literal where
  /-- `null` or `undefined`. -/
  | null
  /-- `true` or `false`. -/
  | bool (value : Bool)
  /-- A number. -/
  | number (value : Double)
  /-- A string with its escapes resolved. -/
  | string (value : String)
  /-- An array, in source order. -/
  | array (items : List Literal)
  /-- An object, fields in source order. -/
  | object (fields : List (String × Literal))

namespace Literal

/-- The word for a literal's kind in messages. -/
def kind : Literal → String
  | null => "null"
  | bool _ => "boolean"
  | number _ => "number"
  | string _ => "string"
  | array _ => "array"
  | object _ => "object"

/-- The text of a string. -/
def string? : Literal → Option String
  | string value => some value
  | _ => none

/-- The items of an array. -/
def array? : Literal → Option (List Literal)
  | array items => some items
  | _ => none

end Literal

end DocSite
