import DocSite.Script.Grammar.Object

/-! # Functions, classes and templates

The phrases that hold statements inside expressions, and text with embedded expressions. -/

namespace DocSite.Script

open DocSite.Script.Parser

namespace Inner

variable (g : Inner)

/-- A function whose keyword has been read: an optional star, an optional name, parameters and a
body. -/
def functionRest : Parser Construct := do
  let star ← accept (symbol ['*'])
  if ← wordAhead then let _ ← word
  g.parameters
  g.block
  return if star then .generatorValue else .functionValue

/-- Whether braces at this place hold an object rather than statements: whether a key with its
colon or comma follows the brace. -/
def looksLikeObject (s : List Char) : Bool :=
  match s with
  | '{' :: inside =>
      let inside := skipBlank inside
      let behind? : Option (List Char) :=
        match word? inside with
        | some (_, r) => some r
        | none =>
            match string? inside with
            | some (_, r) => some r
            | none => (number? inside).map Prod.snd
      match behind? with
      | some behind =>
          match skipBlank behind with
          | ':' :: _ | ',' :: _ => true
          | _ => false
      | none => false
  | _ => false

/-- The arrow of a function and its body, in braces or as an expression. -/
def arrowRest (ctx : Context) : Parser Unit := do
  symbol ['=', '>']
  trivia
  let start ← rest
  match start with
  | '{' :: _ =>
      g.block <|> do
        guard (looksLikeObject start)
        let _ ← g.expression ctx
  | _ =>
      let _ ← g.expression ctx

/-- Text between backquotes behind the opening one, in at most `n` pieces. -/
def templateUpTo : Nat → Parser Unit
  | 0 => failure
  | n + 1 => do
      match ← rest with
      | '`' :: after => goTo after
      | '$' :: '{' :: after =>
          goTo after
          let _ ← g.expressions .closed
          symbol ['}']
          templateUpTo n
      | '\\' :: after =>
          match escape? after with
          | some (_, after) =>
              goTo after
              templateUpTo n
          | none => failure
      | _ :: after =>
          goTo after
          templateUpTo n
      | [] => failure

/-- A template whose opening backquote has been read. -/
def templateBody : Parser Unit := do
  let s ← rest
  g.templateUpTo (s.length + 1)

/-- The initialiser and the end of a class field whose name has been read. -/
def fieldRest : Parser Unit := do
  if ← accept equals then
    let _ ← g.expression .open
    statementEnd true
  else statementEnd false

/-- A class member whose first word has been read, with at most `n` more modifiers. A line break
may end a field behind its name. -/
def memberFrom : Nat → List Char → Parser Unit
  | 0, _ => failure
  | n + 1, first => do
      match (← ahead).head? with
      | some '(' => g.methodBody
      | some '=' => g.fieldRest
      | some ';' => statementEnd false
      | next =>
          if endsStatement false (← rest) then return ()
          else
            guard (isModifier first)
            if next == some '{' then
              guard (first == "static".toList)
              g.block
            else if next == some '*' then
              symbol ['*']
              let _ ← g.key
              g.methodBody
            else if ← wordAhead then memberFrom n (← word)
            else
              let _ ← g.key
              if (← ahead).head? == some '(' then g.methodBody else g.fieldRest

/-- A member of a class. -/
def classMember : Parser Unit := do
  trivia
  let s ← rest
  guard (s.head? != some '}')
  if ← accept (symbol [';']) then return ()
  else
    g.decorators
    if ← accept (symbol ['*']) then
      let _ ← g.key
      g.methodBody
    else if ← wordAhead then g.memberFrom 4 (← word)
    else
      let _ ← g.key
      if (← ahead).head? == some '(' then g.methodBody else g.fieldRest

/-- What a class is derived from, and its members in braces. -/
def classBody : Parser Unit := do
  if ← accept (keyword "extends") then
    let _ ← g.expression .closed
  symbol ['{']
  let _ ← many g.bound g.classMember
  trivia
  symbol ['}']

/-- A class whose keyword has been read, with or without a name. -/
def classRest : Parser Unit := do
  let s ← ahead
  if (word? s).isSome && !startsWithWord "extends" s then let _ ← word
  g.classBody

end Inner

end DocSite.Script
