import DocSite.Script.NumberToken
import DocSite.Script.Word

/-! # Expressions as far as data is concerned

A script is read for the literals that its declarations hold. An expression is therefore kept in
detail only where it has the shape of a literal; of every other construct its name and place are
kept. A place is the text of the script from there to its end. -/

namespace DocSite.Script

/-- The source from some point to its end: it marks that point. -/
abbrev Place := List Char

/-- Constructs that are no literals. -/
inductive Construct where
  | identifier | call | member | subscript | binary | assignment | augmentedAssignment
  | ternary | update | newObject | await | yield | sequence | template | regex
  | functionValue | generatorValue | arrow | classValue | this | super | metaProperty | spread
  | markupElement | selfClosingElement | markupComment | shorthandProperty | method

/-- The name by which messages call a construct. -/
def Construct.name : Construct → String
  | identifier => "identifier"
  | call => "call_expression"
  | member => "member_expression"
  | subscript => "subscript_expression"
  | binary => "binary_expression"
  | assignment => "assignment_expression"
  | augmentedAssignment => "augmented_assignment_expression"
  | ternary => "ternary_expression"
  | update => "update_expression"
  | newObject => "new_expression"
  | await => "await_expression"
  | yield => "yield_expression"
  | sequence => "sequence_expression"
  | template => "template_string"
  | regex => "regex"
  | functionValue => "function_expression"
  | generatorValue => "generator_function"
  | arrow => "arrow_function"
  | classValue => "class"
  | this => "this"
  | super => "super"
  | metaProperty => "meta_property"
  | spread => "spread_element"
  | markupElement => "jsx_element"
  | selfClosingElement => "jsx_self_closing_element"
  | markupComment => "html_comment"
  | shorthandProperty => "shorthand_property_identifier"
  | method => "method_definition"

/-- An escape sequence of a string literal, without its backslash. -/
inductive Escape where
  /-- One character that is neither `x`, `u` nor an octal digit. -/
  | single (c : Char)
  /-- One to three octal digits. -/
  | octal (digits : List Char)
  /-- Two hexadecimal digits behind `x`. -/
  | hex (digits : List Char)
  /-- Four hexadecimal digits behind `u`: one UTF-16 code unit. -/
  | unit (digits : List Char)
  /-- Hexadecimal digits in braces behind `u`. -/
  | codePoint (digits : List Char)
  /-- A carriage return or question mark together with the line break behind it. -/
  | lineBreak (first second : Char)

/-- A part of a string literal. -/
inductive StringPart where
  /-- A maximal run of characters that stand for themselves. -/
  | text (chars : List Char)
  /-- An escape sequence. -/
  | escape (e : Escape)

/-- The key of an object entry. A string literal is read as such, any other key stands for its own
text. -/
inductive Key where
  /-- A string literal. -/
  | quoted (parts : List StringPart)
  /-- A name. -/
  | word (text : List Char)
  /-- A private name, without its `#`. -/
  | privateName (text : List Char)
  /-- A number. -/
  | number (token : NumberToken)
  /-- An expression in brackets, by its text. -/
  | computed (text : List Char)

mutual

/-- An expression. -/
inductive Expr where
  /-- `null` or `undefined`. -/
  | null
  /-- `true` or `false`. -/
  | bool (value : Bool)
  /-- A number. -/
  | number (place : Place) (token : NumberToken)
  /-- A string literal. -/
  | string (parts : List StringPart)
  /-- An array. -/
  | array (elements : List Element)
  /-- An object. -/
  | object (entries : List Entry)
  /-- A parenthesised expression. -/
  | paren (inner : Expr)
  /-- A prefix operator with its operand, by their text. -/
  | unary (place : Place) (text : List Char)
  /-- Any other construct. -/
  | other (place : Place) (construct : Construct)

/-- What stands in front of a comma of an array, or behind the last one. -/
inductive Element where
  /-- Nothing. -/
  | hole
  /-- A value. -/
  | item (value : Expr)

/-- An entry of an object. -/
inductive Entry where
  /-- A key with its value. -/
  | pair (key : Key) (value : Expr)
  /-- Any other construct. -/
  | other (place : Place) (construct : Construct)

end

/-- A declared name with its initialiser. -/
structure Declarator where
  /-- The name. -/
  name : Word
  /-- The initialiser. -/
  value : Expr

end DocSite.Script
