import DocSite.Script.Grammar.Collection

/-! # Markup elements

An element in angle brackets may stand as an operand. Its tags need not agree: what is checked is
the form of the tags, of the attributes and of the text between them. -/

namespace DocSite.Script

open DocSite.Script.Parser

/-- Whether `c` may continue a name in markup: words there may contain hyphens. -/
def continuesMarkupName (c : Char) : Bool :=
  continuesWord c || c == '-'

/-- A name in markup. -/
def markupWord? : List Char → Option (Unit × List Char)
  | c :: rest => if beginsWord c then some ((), rest.dropWhile continuesMarkupName) else none
  | [] => none

/-- A quoted attribute value: up to the same quote, line breaks included. -/
def markupString? : List Char → Option (Unit × List Char)
  | '"' :: rest =>
      match rest.dropWhile (· != '"') with
      | _ :: after => some ((), after)
      | [] => none
  | '\'' :: rest =>
      match rest.dropWhile (· != '\'') with
      | _ :: after => some ((), after)
      | [] => none
  | _ => none

namespace Inner

variable (g : Inner)

/-- The name of an element: words joined by points, or two of them by a colon. -/
def markupName : Parser Unit := do
  token markupWord?
  if ← accept (symbol [':']) then token markupWord?
  else
    let _ ← many g.bound (do symbol ['.']; token markupWord?)

/-- An expression in braces; outside attribute values it may be missing. -/
def markupExpression : Parser Unit := do
  symbol ['{']
  if ← accept (symbol ['}']) then return ()
  else
    if ← accept (symbol ['.', '.', '.']) then
      let _ ← g.expression .closed
    else
      let _ ← g.expressions .closed
    symbol ['}']

/-- An attribute: an expression, or a name with an optional value. -/
def markupAttribute : Parser Unit :=
  g.markupExpression <|> do
    token markupWord?
    if ← accept (symbol [':']) then token markupWord?
    if ← accept (symbol ['=']) then
      token markupString? <|> g.markupExpression <|> do
        require fun s => (skipBlank s).head? == some '<'
        let _ ← g.markup

/-- Text, elements and expressions up to a closing tag, in at most `n` pieces. -/
def markupChildren : Nat → Parser Unit
  | 0 => failure
  | n + 1 => do
      match ← rest with
      | '<' :: after =>
          match skipBlank after with
          | '/' :: closing =>
              goTo closing
              let _ ← accept g.markupName
              symbol ['>']
          | _ =>
              let _ ← g.markup
              markupChildren n
      | '{' :: _ =>
          g.markupExpression
          markupChildren n
      | c :: after =>
          guard (c != '}' && c != '>')
          goTo after
          markupChildren n
      | [] => failure

/-- The children and the closing tag of an element whose opening tag has been read. -/
def markupRest : Parser Construct := do
  let s ← rest
  g.markupChildren (s.length + 1)
  return .markupElement

/-- An element that stands here. -/
def markupElement : Parser Construct := do
  symbol ['<']
  if ← accept g.markupName then
    let _ ← many g.bound g.markupAttribute
    if ← accept (symbol ['/', '>']) then return .selfClosingElement
    else
      symbol ['>']
      g.markupRest
  else
    symbol ['>']
    g.markupRest

end Inner

end DocSite.Script
