import DocSite.Script.Token

/-! # What the phrases of the grammar share

The grammar is a family of parsers that call each other. Each phrase is a function of `Inner`, the
parsers one nesting level down, so every definition is plain and the recursion is tied once, over
the number of levels. An operand is read together with the roles that it could still play: a name,
an array or an object may turn out to be a target of an assignment or a parameter. -/

namespace DocSite.Script

/-- What an operand is as far as an assignment or a parameter list is concerned. -/
inductive Shape where
  /-- Only a value. -/
  | plain
  /-- A name. -/
  | name
  /-- A property of an object. -/
  | access
  /-- A parenthesised value. -/
  | paren
  /-- An array or object, which may be a pattern. -/
  | bracketed (isPattern : Bool)
  /-- An assignment; its left side may be a target. -/
  | assigned (toTarget : Bool)

namespace Shape

/-- Whether the operand may be bound to. -/
def isTarget : Shape → Bool
  | name | access => true
  | bracketed isPattern => isPattern
  | _ => false

/-- Whether the operand may be bound to, possibly with a default value. -/
def isDefaultedTarget : Shape → Bool
  | assigned toTarget => toTarget
  | s => s.isTarget

/-- Whether `=` may follow. -/
def isAssignable : Shape → Bool
  | paren => true
  | s => s.isTarget

/-- Whether an operator that combines with the old value may follow. -/
def isUpdatable : Shape → Bool
  | name | access | paren => true
  | _ => false

end Shape

/-- An expression that has been read, and the roles that it may play. -/
structure Operand where
  /-- The expression. -/
  expr : Expr
  /-- Its shape. -/
  shape : Shape := .plain
  /-- Whether it is a value; what is none has to turn out a pattern. -/
  isValue : Bool := true

/-- Where an expression stands. -/
structure Context where
  /-- Whether a line break may end the statement behind the expression. -/
  breaks : Bool
  /-- Whether the operator `in` may be read. -/
  takesIn : Bool

/-- The context inside brackets. -/
def Context.closed : Context := ⟨false, true⟩

/-- The context of a statement's own expressions. -/
def Context.open : Context := ⟨true, true⟩

/-- The parsers one nesting level down, and a bound on the length of a row of phrases. -/
structure Inner where
  /-- Bounds the number of phrases in a row. -/
  bound : Nat
  /-- An operand with the operators behind it that bind at least as tightly as the level. -/
  operand : Context → Nat → Parser Operand
  /-- An operand with what binds to it more tightly than any operator between operands. -/
  unary : Context → Parser Operand
  /-- A statement. -/
  statement : Parser Unit
  /-- A markup element. -/
  markup : Parser Construct

namespace Inner

variable (g : Inner)

/-- One expression that is a value. -/
def expression (ctx : Context) : Parser Expr := do
  let o ← g.operand ctx 0
  guard o.isValue
  return o.expr

/-- The value of several expressions, separated by commas, of which the first has been read. -/
def sequenceFrom (ctx : Context) (start : Place) (first : Expr) : Parser Expr := do
  let more ← Parser.many g.bound (do Parser.symbol [',']; g.expression ctx)
  return if more.isEmpty then first else .other start .sequence

/-- One or more expressions, separated by commas. -/
def expressions (ctx : Context) : Parser Expr := do
  Parser.trivia
  let start ← Parser.rest
  let first ← g.expression ctx
  g.sequenceFrom ctx start first

/-- Expressions in parentheses. -/
def parenthesized : Parser Unit := do
  Parser.symbol ['(']
  let _ ← g.expressions .closed
  Parser.symbol [')']

/-- Statements in braces. -/
def block : Parser Unit := do
  Parser.symbol ['{']
  let _ ← Parser.many g.bound g.statement
  Parser.trivia
  Parser.symbol ['}']

end Inner

namespace Parser

/-- The equals sign of an initialiser. -/
def equals : Parser Unit := token fun
  | '=' :: '=' :: _ => none
  | '=' :: '>' :: _ => none
  | '=' :: rest => some ((), rest)
  | _ => none

/-- The end of a statement: a semicolon, or a place where it may be left out. `joins` tells that
`||` could continue what was read. -/
def statementEnd (joins : Bool) : Parser Unit :=
  symbol [';'] <|> require (endsStatement joins)

end Parser

end DocSite.Script
