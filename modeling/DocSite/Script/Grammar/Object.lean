import DocSite.Script.Grammar.Collection

/-! # Objects and methods

An object is a row of entries: keys with values, names alone, spread operands and methods. As with
arrays, whether it is a value or a pattern is judged when all of it has been read. -/

namespace DocSite.Script

open DocSite.Script.Parser

/-- An entry of an object with the roles that it allows the object to play. -/
structure Field where
  /-- The entry. -/
  entry : Entry
  /-- Whether the object may be a value. -/
  isValue : Bool := true
  /-- Whether the object may be a pattern. -/
  isTarget : Bool := false

/-- The words that may stand in front of a method's name. -/
def isModifier (w : List Char) : Bool :=
  ["static", "async", "get", "set"].any (·.toList == w)

namespace Inner

variable (g : Inner)

/-- A property's name that is no plain word: a private name, a string, a number, or an expression
in brackets. -/
def specialKey : Parser Key := do
  blank
  match ← rest with
  | '#' :: after =>
      goTo after
      return .privateName (← immediate word?)
  | '[' :: after =>
      let start ← rest
      goTo after
      let _ ← g.expression .closed
      symbol [']']
      let behind ← rest
      return .computed (start.take (start.length - behind.length))
  | '"' :: _ | '\'' :: _ => return .quoted (← string)
  | _ => return .number (← immediate asNumber?)

/-- A property's name. -/
def key : Parser Key :=
  (do return .word (← word)) <|> g.specialKey

/-- Parameters and body of a method. -/
def methodBody : Parser Unit := do
  g.parameters
  g.block

/-- A method whose first word has been read, with at most `n` more modifiers. -/
def methodFrom : Nat → List Char → Parser Unit
  | 0, _ => failure
  | n + 1, first => do
      if ((← ahead).head? == some '(') then g.methodBody
      else
        guard (isModifier first)
        if ← wordAhead then methodFrom n (← word)
        else
          let _ ← accept (symbol ['*'])
          let _ ← g.key
          g.methodBody

/-- Decorators, as many as there are. -/
def decorators : Parser Unit := do
  let _ ← many g.bound do
    symbol ['@']
    let _ ← separated g.bound (symbol ['.']) word
    let _ ← accept (do symbol ['(']; g.arguments)
  return ()

/-- An entry of an object. -/
def field : Parser Field := do
  let place ← rest
  match place with
  | '.' :: '.' :: '.' :: after =>
      goTo after
      let o ← g.operand .closed 0
      return { entry := .other place .spread, isValue := o.isValue, isTarget := o.shape.isTarget }
  | '*' :: after =>
      goTo after
      let _ ← g.key
      g.methodBody
      return { entry := .other place .method }
  | '@' :: _ =>
      g.decorators
      if ← accept (symbol ['*']) then
        let _ ← g.key
        g.methodBody
      else if ← wordAhead then g.methodFrom 4 (← word)
      else
        let _ ← g.key
        g.methodBody
      return { entry := .other place .method }
  | _ =>
      if (word? place).isSome then
        let w ← word
        if ← accept (symbol [':']) then pair (.word w)
        else if ← accept equals then
          let _ ← g.expression .closed
          return { entry := .other place .shorthandProperty, isValue := false, isTarget := true }
        else
          match (← ahead).head? with
          | some ',' | some '}' =>
              return { entry := .other place .shorthandProperty, isTarget := true }
          | _ =>
              g.methodFrom 4 w
              return { entry := .other place .method }
      else
        let key ← g.specialKey
        if ← accept (symbol [':']) then pair key
        else
          g.methodBody
          return { entry := .other place .method }
where
  /-- The value of an entry whose key and colon have been read. -/
  pair (key : Key) : Parser Field := do
    let o ← g.operand .closed 0
    return {
      entry := .pair key o.expr
      isValue := o.isValue
      isTarget := o.shape.isDefaultedTarget }

/-- The entries of an object up to its closing brace, at most `n`. Commas may follow each other. -/
def fieldsUpTo : Nat → Parser (List Field)
  | 0 => failure
  | n + 1 => do
      blank
      let place ← rest
      match markupComment? place with
      | some after =>
          goTo after
          return { entry := .other place .markupComment, isTarget := true } :: (← fieldsUpTo n)
      | none =>
          match place with
          | '}' :: after =>
              goTo after
              return []
          | ',' :: after =>
              goTo after
              fieldsUpTo n
          | _ =>
              let field ← g.field
              if ← accept (symbol [',']) then
                return field :: (← fieldsUpTo n)
              else
                symbol ['}']
                return [field]

/-- An object, or an object pattern, whose brace has been read. -/
def objectBody : Parser Operand := do
  let fields ← g.fieldsUpTo (g.bound + 1)
  return {
    expr := .object (fields.map Field.entry)
    shape := .bracketed (fields.all Field.isTarget)
    isValue := fields.all Field.isValue }

/-- What a declaration or a caught exception binds: a name, or a pattern. Gives the name. -/
def bindingTarget : Parser (Option Word) := do
  trivia
  match ← rest with
  | '[' :: after =>
      goTo after
      guard (← g.arrayBody).shape.isTarget
      return none
  | '{' :: after =>
      goTo after
      guard (← g.objectBody).shape.isTarget
      return none
  | _ => return some (← name)

end Inner

end DocSite.Script
