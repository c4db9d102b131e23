import DocSite.Number.Numeral
import DocSite.Script.Literal
import DocSite.Script.Unescape
import DocSite.Text.Blank

/-! # Literals from expressions

`Expr.literal?` takes an expression that is a literal for its value. The first part that is none,
in source order, is the reason to refuse it. -/

namespace DocSite.Script

open DocSite.Text

/-- A part of an initialiser that is no literal. -/
structure Unsupported where
  /-- What stands there. -/
  what : String
  /-- Where it stands. -/
  place : Place

/-- The value of a prefix operator with its operand: a minus sign before the text of a number. -/
def negated? (text : List Char) : Option Double :=
  match text with
  | '-' :: rest => (Numeral.value? (trim rest)).map Double.neg
  | _ => none

mutual

/-- The value of a literal expression. -/
def Expr.literal? : Expr → Except Unsupported Literal
  | .null => .ok .null
  | .bool value => .ok (.bool value)
  | .number place token =>
      match Numeral.value? token.chars with
      | some value => .ok (.number value)
      | none => .error ⟨"number " ++ String.ofList token.chars, place⟩
  | .string parts => .ok (.string (textOfParts parts))
  | .array elements =>
      match literals? elements with
      | .ok items => .ok (.array items)
      | .error e => .error e
  | .object entries =>
      match fields? entries with
      | .ok fields => .ok (.object fields)
      | .error e => .error e
  | .paren inner => inner.literal?
  | .unary place text =>
      match negated? text with
      | some value => .ok (.number value)
      | none => .error ⟨String.ofList text, place⟩
  | .other place construct => .error ⟨construct.name, place⟩

/-- The values of the elements of an array; holes are left out. -/
def literals? : List Element → Except Unsupported (List Literal)
  | [] => .ok []
  | .hole :: rest => literals? rest
  | .item e :: rest =>
      match e.literal? with
      | .ok item =>
          match literals? rest with
          | .ok items => .ok (item :: items)
          | .error e => .error e
      | .error e => .error e

/-- The field that an entry of an object describes. -/
def Entry.field? : Entry → Except Unsupported (String × Literal)
  | .pair key value =>
      match value.literal? with
      | .ok item => .ok (key.text, item)
      | .error e => .error e
  | .other place construct => .error ⟨construct.name, place⟩

/-- The fields of an object. -/
def fields? : List Entry → Except Unsupported (List (String × Literal))
  | [] => .ok []
  | entry :: rest =>
      match entry.field? with
      | .ok field =>
          match fields? rest with
          | .ok fields => .ok (field :: fields)
          | .error e => .error e
      | .error e => .error e

end

/-- The names and values that declarations bind. -/
def bindings? : List Declarator → Except Unsupported (List (String × Literal))
  | [] => .ok []
  | d :: rest =>
      match d.value.literal? with
      | .ok value =>
          match bindings? rest with
          | .ok more => .ok ((String.ofList d.name.chars, value) :: more)
          | .error e => .error e
      | .error e => .error e

end DocSite.Script
