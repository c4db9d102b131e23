import DocSite.Text.Digit

/-! # Writing JSON

Values are written with an item or a field a line, each level indented by two blanks. -/

namespace DocSite.Json

open DocSite.Text

/-- A value. -/
inductive Value where
  /-- The value that stands for nothing. -/
  | null
  /-- A number. -/
  | number (n : Nat)
  /-- A text. -/
  | string (s : String)
  /-- An array. -/
  | array (items : List Value)
  /-- An object, with its fields in order. -/
  | object (fields : List (String × Value))

namespace Value

/-- A text, or the value that stands for nothing. -/
def ofText? : Option String → Value
  | some s => .string s
  | none => .null

end Value

/-- How a character is written in a text. -/
def escapeChar (c : Char) : List Char :=
  if c = '"' then ['\\', '"']
  else if c = '\\' then ['\\', '\\']
  else if c = '\x08' then ['\\', 'b']
  else if c = '\x0c' then ['\\', 'f']
  else if c = '\n' then ['\\', 'n']
  else if c = '\r' then ['\\', 'r']
  else if c = '\t' then ['\\', 't']
  else if c.toNat < 0x20 then ['\\', 'u'] ++ hexFixed 4 c.toNat
  else [c]

/-- How a text is written. -/
def quote (s : String) : String :=
  String.ofList ('"' :: s.toList.flatMap escapeChar ++ ['"'])

/-- The beginning of a line at this depth. -/
def newLine (depth : Nat) : String :=
  String.ofList ('\n' :: List.replicate (2 * depth) ' ')

/-- Parts between brackets, of which each but the last has a comma behind it. -/
def bracketed (left right : String) (depth : Nat) (parts : List String) : String :=
  match parts with
  | [] => left ++ right
  | parts =>
      left ++ ",".intercalate (parts.map (newLine (depth + 1) ++ ·)) ++ newLine depth ++ right

mutual

/-- The text of a value that begins at this depth. -/
def render (depth : Nat) : Value → String
  | .null => "null"
  | .number n => decimal n
  | .string s => quote s
  | .array items => bracketed "[" "]" depth (renderItems (depth + 1) items)
  | .object fields => bracketed "\x7b" "\x7d" depth (renderFields (depth + 1) fields)

/-- The texts of the items of an array. -/
def renderItems (depth : Nat) : List Value → List String
  | [] => []
  | item :: rest => render depth item :: renderItems depth rest

/-- The texts of the fields of an object. -/
def renderFields (depth : Nat) : List (String × Value) → List String
  | [] => []
  | (name, value) :: rest =>
      (quote name ++ ": " ++ render depth value) :: renderFields depth rest

end

/-- The text of a value. -/
def Value.pretty (value : Value) : String :=
  render 0 value

end DocSite.Json
