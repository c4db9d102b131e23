import DocSite.Script.Grammar.Basic

/-! # Slots between brackets

Arrays, arguments, parameters and parenthesised expressions are all slots separated by commas. What
they are is known only behind the closing bracket, so they are read in one way and judged
afterwards. -/

namespace DocSite.Script

open DocSite.Script.Parser

/-- What stands between two commas. -/
inductive Slot where
  /-- Nothing. -/
  | hole
  /-- An operand. -/
  | item (place : Place) (operand : Operand)
  /-- An operand behind `...`. -/
  | spread (place : Place) (operand : Operand)
  /-- A markup comment, which shares its slot with what follows. -/
  | remark (place : Place)

namespace Slot

/-- The element that a slot gives to an array. -/
def element : Slot → Element
  | hole => .hole
  | item _ o => .item o.expr
  | spread place _ => .item (.other place .spread)
  | remark place => .item (.other place .markupComment)

/-- Whether a slot may stand in an array or among arguments. -/
def isValue : Slot → Bool
  | item _ o | spread _ o => o.isValue
  | _ => true

/-- Whether a slot may stand in an array pattern. -/
def isTarget : Slot → Bool
  | item _ o => o.shape.isDefaultedTarget
  | spread _ o => o.shape.isTarget
  | _ => true

/-- Whether a slot may be a parameter. -/
def isParameter : Slot → Bool
  | hole => false
  | s => s.isTarget

/-- Whether a slot may stand in a parenthesised expression. -/
def isPlainValue : Slot → Bool
  | item _ o => o.isValue
  | remark _ => true
  | _ => false

/-- Whether a slot is a markup comment. -/
def isRemark : Slot → Bool
  | remark _ => true
  | _ => false

end Slot

/-- The elements that slots give to an array: nothing in front of the bracket is none. -/
def elementsOf : List Slot → List Element
  | [] => []
  | [.hole] => []
  | slot :: rest => slot.element :: elementsOf rest

/-- Whether slots are parameters: none at all, or targets with at most one comma behind the
last. -/
def areParameters (slots : List Slot) : Bool :=
  match (slots.filter (!·.isRemark)).reverse with
  | [.hole] => true
  | .hole :: rest => rest.all Slot.isParameter
  | rest => rest.all Slot.isParameter

/-- The expression in parentheses that slots give: the first thing in them counts. -/
def parenthesizedExpr? (slots : List Slot) : Option Expr :=
  if slots.all Slot.isPlainValue then
    match slots with
    | [.item _ o] => some o.expr
    | .remark place :: _ => some (.other place .markupComment)
    | .item place _ :: _ => some (.other place .sequence)
    | _ => none
  else none

namespace Inner

variable (g : Inner)

/-- A slot that is not empty. -/
def filledSlot : Parser Slot := do
  let place ← rest
  match place with
  | '.' :: '.' :: '.' :: after =>
      goTo after
      return .spread place (← g.operand .closed 0)
  | _ => return .item place (← g.operand .closed 0)

/-- The slots up to the closing bracket, at most `n`. -/
def slotsUpTo (close : Char) : Nat → Parser (List Slot)
  | 0 => failure
  | n + 1 => do
      blank
      let place ← rest
      match markupComment? place with
      | some after =>
          goTo after
          return .remark place :: (← slotsUpTo close n)
      | none =>
          match place with
          | [] => failure
          | c :: after =>
              if c = close then
                goTo after
                return [.hole]
              else if c = ',' then
                goTo after
                return .hole :: (← slotsUpTo close n)
              else
                let slot ← g.filledSlot
                if ← accept (symbol [',']) then
                  return slot :: (← slotsUpTo close n)
                else
                  symbol [close]
                  return [slot]

/-- The slots behind an opening bracket, up to the closing one. -/
def slots (close : Char) : Parser (List Slot) :=
  g.slotsUpTo close (g.bound + 1)

/-- An array, or an array pattern, whose bracket has been read. -/
def arrayBody : Parser Operand := do
  let slots ← g.slots ']'
  return {
    expr := .array (elementsOf slots)
    shape := .bracketed (slots.all Slot.isTarget)
    isValue := slots.all Slot.isValue }

/-- Arguments of a call, whose parenthesis has been read. -/
def arguments : Parser Unit := do
  guard ((← g.slots ')').all Slot.isValue)

/-- Parameters in parentheses. -/
def parameters : Parser Unit := do
  symbol ['(']
  guard (areParameters (← g.slots ')'))

end Inner

end DocSite.Script
