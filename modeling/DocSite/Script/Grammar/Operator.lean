import DocSite.Script.Parser

/-! # Operators

The signs that may follow an operand: operators with the levels at which they bind, and signs of
assignment that combine with the old value. A longer sign is never read as a shorter one. -/

namespace DocSite.Script

/-- What a sign behind an operand means. -/
inductive Sign where
  /-- An operator between operands, and how tightly it binds. -/
  | operator (level : Nat)
  /-- An assignment that combines with the old value. -/
  | combine
  /-- Something else. -/
  | other

/-- The signs that may follow an operand, each in front of those that it begins with. -/
def signs : List (String × Sign) := [
  (">>>=", .combine), ("**=", .combine), ("<<=", .combine), (">>=", .combine),
  ("&&=", .combine), ("||=", .combine), ("??=", .combine), (">>>", .operator 10),
  ("===", .operator 8), ("!==", .operator 8), ("**", .operator 13), ("<<", .operator 10),
  (">>", .operator 10), ("<=", .operator 9), (">=", .operator 9), ("==", .operator 8),
  ("!=", .operator 8), ("&&", .operator 4), ("||", .operator 3), ("??", .operator 2),
  ("*=", .combine), ("/=", .combine), ("%=", .combine), ("+=", .combine), ("-=", .combine),
  ("&=", .combine), ("^=", .combine), ("|=", .combine), ("++", .other), ("--", .other),
  ("=>", .other), ("*", .operator 12), ("/", .operator 12), ("%", .operator 12),
  ("+", .operator 11), ("-", .operator 11), ("<", .operator 9), (">", .operator 9),
  ("&", .operator 7), ("^", .operator 6), ("|", .operator 5)]

/-- The level of the conditional operator, which `??` shares. -/
def conditionalLevel : Nat := 2

/-- The level of the operators that compare, `in` and `instanceof` among them. -/
def relationLevel : Nat := 9

/-- The level of the power operator, the only one that groups to the right. -/
def powerLevel : Nat := 13

/-- The sign that stands here, and the text behind it. -/
def signIn? (table : List (String × Sign)) (s : List Char) : Option (Sign × List Char) :=
  match table with
  | [] => none
  | (text, sign) :: more =>
      match Parser.chars? text.toList s with
      | some (_, rest) => some (sign, rest)
      | none => signIn? more s

/-- The operator between operands that stands here: its level, and the text behind it. -/
def binaryOperator? (takesIn : Bool) (s : List Char) : Option (Nat × List Char) :=
  match signIn? signs s with
  | some (.operator level, rest) => some (level, rest)
  | some _ => none
  | none =>
      match word? s with
      | some (w, rest) =>
          if w == "instanceof".toList || (takesIn && w == "in".toList) then
            some (relationLevel, rest)
          else none
      | none => none

/-- The level that the operators in the right operand of an operator have at least. -/
def rightLevel (level : Nat) : Nat :=
  if level = powerLevel then level else level + 1

/-- The text behind the question mark of a conditional, if one stands here: neither `??` nor the
sign `?.` of a property access. -/
def conditional? : List Char → Option (List Char)
  | '?' :: '?' :: _ => none
  | '?' :: '.' :: rest =>
      match rest with
      | c :: _ => if c.isDigit then some ('.' :: rest) else none
      | [] => none
  | '?' :: rest => some rest
  | _ => none

/-- The text behind a sign of assignment that combines with the old value. -/
def combiningAssignment? (s : List Char) : Option (List Char) :=
  match signIn? signs s with
  | some (.combine, rest) => some rest
  | _ => none

end DocSite.Script
