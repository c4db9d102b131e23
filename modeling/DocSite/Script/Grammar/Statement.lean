import DocSite.Script.Grammar.Expression

/-! # Statements

Every kind of statement is read, because declarations count wherever they stand. Only declarators
leave a trace: a name with its initialiser goes before the declarations inside of it. -/

namespace DocSite.Script

open DocSite.Script.Parser

namespace Inner

variable (g : Inner)

/-- The value behind a target that has been read, which makes a declarator of a name. Says whether
there is one. -/
def initializer (takesIn : Bool) (name : Option Word) : Parser Bool := do
  if ← accept equals then
    -- What the initialiser declares comes behind the name, hence in front in this order.
    let (value, inside) ← collecting (g.expression ⟨true, takesIn⟩)
    match name with
    | some name => declare (inside ++ [⟨name, value⟩])
    | none => declare inside
    return true
  else return false

/-- A target with an optional initialiser. -/
def declarator : Parser Bool := do
  g.initializer true (← g.bindingTarget)

/-- The declarators behind one that has been read. Says whether the last one has an
initialiser. -/
def moreDeclarators (first : Bool) : Parser Bool := do
  let more ← many g.bound (do symbol [',']; g.declarator)
  return more.getLastD first

/-- A declaration whose keyword has been read. -/
def declaration : Parser Unit := do
  let initialized ← g.moreDeclarators (← g.declarator)
  statementEnd initialized

/-- An expression as a statement. -/
def expressionStatement : Parser Unit := do
  trivia
  let start ← rest
  let first ← g.operandPhrase .open 0
  guard first.isValue
  let _ ← g.sequenceFrom .open start first.expr
  statementEnd true

/-- The rest of a `for` header behind the first semicolon. -/
def loopRest : Parser Unit := do
  if !(← accept (symbol [';'])) then
    let _ ← g.expressions .closed
    symbol [';']
  if !(← accept (symbol [')'])) then
    let _ ← g.expressions .closed
    symbol [')']

/-- What is looped over, with the word in front of it. -/
def loopSubject : Parser Unit := do
  keyword "in" <|> keyword "of"
  let _ ← g.expressions .closed
  symbol [')']

/-- A loop whose keyword has been read: over a subject, or with a header of three parts. -/
def forRest : Parser Unit := do
  let _ ← accept (keyword "await")
  symbol ['(']
  let s ← ahead
  if ["var", "let", "const"].any (startsWithWord · s) then
    let _ ← word
    let name ← g.bindingTarget
    boundSubject (startsWithWord "var" s) <|> do
      let initialized ← g.moreDeclarators (← g.initializer true name)
      statementEnd initialized
      g.loopRest
  else if ← accept (symbol [';']) then g.loopRest
  else
    assignedSubject <|> do
      let _ ← g.expressions .closed
      symbol [';']
      g.loopRest
  g.statement
where
  /-- What is looped over, behind a target that the loop declares. Only a `var` may have a value
  there, and with it makes no declarator. -/
  boundSubject (isVar : Bool) : Parser Unit := do
    if isVar then
      let _ ← g.initializer false none
    g.loopSubject
  /-- What is looped over, behind a target that is there already. -/
  assignedSubject : Parser Unit := do
    let first ← g.operand ⟨false, false⟩ 0
    guard first.shape.isAssignable
    g.loopSubject

/-- The statements of a case, up to the next one. -/
def caseBody : Parser Unit := do
  let _ ← many g.bound do
    trivia
    let s ← rest
    guard (!(startsWithWord "case" s || startsWithWord "default" s))
    g.statement
  return ()

/-- A branch of a `switch`. -/
def switchCase : Parser Unit := do
  trivia
  if ← accept (keyword "case") then
    let _ ← g.expressions .closed
  else keyword "default"
  symbol [':']
  g.caseBody

/-- What follows the word `try`. -/
def tryRest : Parser Unit := do
  g.block
  let _ ← accept do
    keyword "catch"
    if ← accept (symbol ['(']) then
      let _ ← g.bindingTarget
      symbol [')']
    g.block
  let _ ← accept do
    keyword "finally"
    g.block

/-- A jump with an optional label. -/
def jumpRest : Parser Unit :=
  statementEnd false <|> do
    let _ ← word
    statementEnd false

/-- A name in an import or export list. -/
def moduleName : Parser Unit := do
  (do let _ ← word) <|> do let _ ← string

/-- A name in an import or export list, with an optional new name. -/
def moduleItem : Parser Unit := do
  moduleName
  if ← accept (keyword "as") then moduleName

/-- A list of names in braces, with an optional comma at its end. -/
def moduleList : Parser Unit := do
  symbol ['{']
  let _ ← many g.bound (do moduleItem; symbol [','])
  let _ ← accept moduleItem
  symbol ['}']

/-- The module that names come from, with optional attributes, and the end of the statement. -/
def moduleSource : Parser Unit := do
  let _ ← string
  if ← accept (keyword "with") then
    symbol ['{']
    let _ ← g.objectBody
  statementEnd false

/-- What follows the word `import` in an import statement. -/
def importRest : Parser Unit := do
  if (string? (← ahead)).isSome then g.moduleSource
  else
    if ← wordAhead then
      let _ ← word
      if ← accept (symbol [',']) then importNames
    else importNames
    keyword "from"
    g.moduleSource
where
  /-- All names under one, or a list. -/
  importNames : Parser Unit := do
    if ← accept (symbol ['*']) then
      keyword "as"
      let _ ← word
    else g.moduleList

/-- A class declaration whose keyword has been read. -/
def classDeclaration : Parser Unit := do
  let _ ← word
  g.classBody

/-- A function declaration whose keyword has been read. -/
def functionDeclaration : Parser Unit := do
  let _ ← accept (symbol ['*'])
  let _ ← word
  g.parameters
  g.block

/-- Whether a function's name follows, behind an optional star. -/
def namesFunction (s : List Char) : Bool :=
  match skipBlank s with
  | '*' :: rest => (word? (skipBlank rest)).isSome
  | rest => (word? rest).isSome

/-- Whether what follows the word `let` makes it begin a declaration. -/
def declaresBehindLet (s : List Char) : Bool :=
  if endsStatement true s then false
  else
    let next := skipBlank s
    match next with
    | '[' :: _ | '{' :: _ => true
    | _ => (word? next).isSome && !startsWithWord "in" next && !startsWithWord "instanceof" next

/-- Whether what follows the word `async` makes it begin a function declaration. -/
def declaresBehindAsync (s : List Char) : Bool :=
  if endsStatement true s then false
  else
    match word? (skipBlank s) with
    | some (w, rest) => w == "function".toList && namesFunction rest
    | none => false

/-- Whether what follows the word `class` makes it begin a declaration. -/
def namesClass (s : List Char) : Bool :=
  (word? (skipBlank s)).isSome && !startsWithWord "extends" (skipBlank s)

/-- The declaration that stands here, if the word here begins one. -/
def declaration? (s : List Char) : Option (Parser Unit) :=
  match word? s with
  | none => none
  | some (w, after) =>
      match String.ofList w with
      | "var" | "const" => some (do goTo after; g.declaration)
      | "let" => if declaresBehindLet after then some (do goTo after; g.declaration) else none
      | "function" =>
          if namesFunction after then some (do goTo after; g.functionDeclaration) else none
      | "async" =>
          if declaresBehindAsync after then
            some (do goTo after; keyword "function"; g.functionDeclaration)
          else none
      | "class" => if namesClass after then some (do goTo after; g.classDeclaration) else none
      | _ => none

/-- What follows the word `export`. -/
def exportRest : Parser Unit := do
  let s ← ahead
  match s with
  | '*' :: after =>
      goTo after
      if ← accept (keyword "as") then moduleName
      keyword "from"
      g.moduleSource
  | '{' :: _ =>
      g.moduleList
      if ← accept (keyword "from") then g.moduleSource
      else statementEnd false
  | _ =>
      if ← accept (keyword "default") then
        let s ← ahead
        match g.declaration? s with
        | some declaration =>
            goTo s
            declaration
        | none =>
            let _ ← g.expression .open
            statementEnd true
      else
        g.decorators
        let s ← ahead
        match g.declaration? s with
        | some declaration =>
            goTo s
            declaration
        | none => failure

/-- A statement that begins with the word `w`, behind which `after` follows. -/
def wordStatement (w after : List Char) : Parser Unit :=
  match String.ofList w with
  | "if" => do
      goTo after
      g.parenthesized
      g.statement
      if ← accept (keyword "else") then g.statement
  | "for" => do
      goTo after
      g.forRest
  | "while" => do
      goTo after
      g.parenthesized
      g.statement
  | "do" => do
      goTo after
      g.statement
      keyword "while"
      g.parenthesized
      let _ ← accept (symbol [';'])
  | "switch" => do
      goTo after
      g.parenthesized
      symbol ['{']
      let _ ← many g.bound g.switchCase
      trivia
      symbol ['}']
  | "try" => do
      goTo after
      g.tryRest
  | "with" => do
      goTo after
      g.parenthesized
      g.statement
  | "break" | "continue" => do
      goTo after
      jumpRest
  | "return" => do
      goTo after
      statementEnd false <|> do
        let _ ← g.expressions .open
        statementEnd true
  | "throw" => do
      goTo after
      let _ ← g.expressions .open
      statementEnd true
  | "debugger" => do
      goTo after
      statementEnd false
  | "import" =>
      match skipBlank after with
      | '(' :: _ | '.' :: _ => g.expressionStatement
      | _ => do
          goTo after
          g.importRest
  | "export" => (do goTo after; g.exportRest) <|> g.expressionStatement
  | _ =>
      if isKeyword w then g.expressionStatement
      else
        match skipBlank after with
        | ':' :: behind => do
            goTo behind
            g.statement
        | _ => g.expressionStatement
where
  /-- Whether the word begins an operand of its own kind, so that it is no label. -/
  isKeyword (w : List Char) : Bool :=
    ["function", "class", "new", "await", "yield", "typeof", "void", "delete", "this", "super",
      "true", "false", "null", "undefined"].any (·.toList == w)

/-- A statement. -/
def statementPhrase : Parser Unit := do
  trivia
  let start ← rest
  match start with
  | [] => failure
  | ';' :: after => goTo after
  -- Braces that do not hold statements may hold an object.
  | '{' :: _ =>
      g.block <|> do
        guard (looksLikeObject start)
        g.expressionStatement
  | '@' :: _ => do
      g.decorators
      if ← accept (keyword "export") then
        g.exportRest
      else
        keyword "class"
        g.classRest
  | _ =>
      match g.declaration? start with
      | some declaration => declaration
      | none =>
          match word? start with
          | some (w, after) => g.wordStatement w after
          | none => g.expressionStatement

end Inner

end DocSite.Script
