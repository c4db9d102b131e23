import DocSite.Script.Grammar.Function
import DocSite.Script.Grammar.Markup
import DocSite.Script.Grammar.Operator

/-! # Expressions

An operand is a primary phrase with the accesses, calls and updates behind it, or a prefix operator
with its operand. An assignment and an arrow function are operands too, wherever they stand, and
reach as far to the right as they can. Between operands, operators bind by their levels. -/

namespace DocSite.Script

open DocSite.Script.Parser

/-- What may follow a primary phrase. -/
inductive Reach where
  /-- Accesses and templates: the callee of `new`. -/
  | access
  /-- Calls and updates too. -/
  | all

namespace Parser

/-- The property behind a point. -/
def property : Parser Unit := do
  blank
  match ← rest with
  | '#' :: after =>
      goTo after
      let _ ← immediate word?
  | _ =>
      let _ ← word

end Parser

namespace Inner

variable (g : Inner)

/-- The accesses, calls and updates behind an operand, at most `n`. -/
def postfixes (ctx : Context) (reach : Reach) (start : Place) : Nat → Operand → Parser Operand
  | 0, o => return o
  | n + 1, o => do
      if !o.isValue then return o else
      match ← ahead with
      | '.' :: after =>
          goTo after
          property
          postfixes ctx reach start n { expr := .other start .member, shape := .access }
      | '?' :: '.' :: after =>
          -- In front of a digit the point begins a number, and the sign is that of a conditional.
          if (after.head?.map Char.isDigit) == some true then return o
          else
            goTo after
            blank
            match ← rest with
            | '[' :: after =>
                goTo after
                let _ ← g.expressions .closed
                symbol [']']
                postfixes ctx reach start n { expr := .other start .subscript, shape := .access }
            | '(' :: after =>
                goTo after
                g.arguments
                postfixes ctx reach start n { expr := .other start .call }
            | '`' :: after =>
                goTo after
                g.templateBody
                postfixes ctx reach start n { expr := .other start .call }
            | _ =>
                property
                postfixes ctx reach start n { expr := .other start .member, shape := .access }
      | '[' :: after =>
          goTo after
          let _ ← g.expressions .closed
          symbol [']']
          postfixes ctx reach start n { expr := .other start .subscript, shape := .access }
      | '`' :: after =>
          goTo after
          g.templateBody
          postfixes ctx reach start n { expr := .other start .call }
      | '(' :: after =>
          match reach with
          | .access => return o
          | .all =>
              goTo after
              g.arguments
              postfixes ctx reach start n { expr := .other start .call }
      | '+' :: '+' :: after | '-' :: '-' :: after =>
          match reach with
          | .access => return o
          | .all =>
              if ctx.breaks && endsStatement true (← rest) then return o
              else
                goTo after
                postfixes ctx reach start n { expr := .other start .update }
      | _ => return o

/-- What begins with an opening parenthesis, which has been read: an expression, or the parameters
of an arrow function. -/
def parenthesis (ctx : Context) (start : Place) : Parser Operand := do
  let slots ← g.slots ')'
  match ← ahead with
  | '=' :: '>' :: _ =>
      guard (areParameters slots)
      g.arrowRest ctx
      return { expr := .other start .arrow }
  | _ =>
      match parenthesizedExpr? slots with
      | some inner => return { expr := .paren inner, shape := .paren }
      | none => failure

/-- A name, or the arrow function of which it is the parameter. -/
def nameOrArrow (ctx : Context) (start : Place) : Parser Operand := do
  match ← ahead with
  | '=' :: '>' :: _ =>
      g.arrowRest ctx
      return { expr := .other start .arrow }
  | _ => return { expr := .other start .identifier, shape := .name }

/-- What begins with the word `async`, which has been read: an asynchronous function, or a name
like any other. -/
def asyncPhrase (ctx : Context) (start : Place) : Parser Operand := do
  let behind ← rest
  let next := skipBlank behind
  -- Where the statement may end behind the word, the word is a name.
  if ctx.breaks && endsStatement true behind then g.nameOrArrow ctx start
  else if startsWithWord "function" next then
    keyword "function"
    return { expr := .other start (← g.functionRest) }
  else
    match word? next with
    | some (_, after) =>
        match skipBlank after with
        | '=' :: '>' :: _ =>
            goTo after
            g.arrowRest ctx
            return { expr := .other start .arrow }
        | _ => g.nameOrArrow ctx start
    | none =>
        match next with
        | '(' :: after =>
            goTo after
            let slots ← g.slots ')'
            match ← ahead with
            | '=' :: '>' :: _ =>
                guard (areParameters slots)
                g.arrowRest ctx
                return { expr := .other start .arrow }
            -- Without an arrow it is a call of something with that name.
            | _ =>
                guard (slots.all Slot.isValue)
                return { expr := .other start .call }
        | _ => g.nameOrArrow ctx start

/-- What a word begins, which has been read and is no prefix operator. -/
def wordPhrase (ctx : Context) (start : Place) (w : List Char) : Parser Operand :=
  match String.ofList w with
  | "null" => return { expr := .null }
  | "undefined" => return { expr := .null, shape := .name }
  | "true" => return { expr := .bool true }
  | "false" => return { expr := .bool false }
  | "this" => return { expr := .other start .this }
  | "super" => return { expr := .other start .super }
  | "function" => do return { expr := .other start (← g.functionRest) }
  | "class" => do
      g.classRest
      return { expr := .other start .classValue }
  | "import" => do
      match ← ahead with
      | '(' :: _ => return { expr := .other start .identifier }
      | '.' :: after =>
          if startsWithWord "meta" (skipBlank after) then
            goTo after
            let _ ← word
            return { expr := .other start .metaProperty }
          else return { expr := .other start .identifier }
      | _ => failure
  | "async" => g.asyncPhrase ctx start
  | _ => g.nameOrArrow ctx start

/-- A primary phrase that begins at `start`, where the cursor stands. -/
def primary (ctx : Context) (start : Place) : Parser Operand :=
  match start with
  | '"' :: _ | '\'' :: _ => do return { expr := .string (← string) }
  | '[' :: after => do
      goTo after
      g.arrayBody
  | '{' :: after => do
      goTo after
      g.objectBody
  | '(' :: after => do
      goTo after
      g.parenthesis ctx start
  | '`' :: after => do
      goTo after
      g.templateBody
      return { expr := .other start .template }
  | '/' :: _ => do
      immediate regex?
      return { expr := .other start .regex }
  | '<' :: _ => do return { expr := .other start (← g.markup) }
  | '@' :: _ => do
      g.decorators
      keyword "class"
      g.classRest
      return { expr := .other start .classValue }
  | '#' :: after => do
      goTo after
      let _ ← immediate word?
      require fun s => startsWithWord "in" (skipBlank s)
      return { expr := .other start .identifier }
  | _ =>
      match asNumber? start with
      | some (token, after) => do
          goTo after
          return { expr := .number start token }
      | none => do g.wordPhrase ctx start (← immediate word?)

/-- What follows the word `new`: the property `target`, or a callee with optional arguments. A
callee may be a `new` of its own, at most `n` deep. -/
def newRest (ctx : Context) (start : Place) : Nat → Parser Operand
  | 0 => failure
  | n + 1 => do
      if ← accept (symbol ['.']) then
        keyword "target"
        return { expr := .other start .metaProperty }
      else
        trivia
        let place ← rest
        if startsWithWord "new" place then
          keyword "new"
          let _ ← newRest ctx place n
        else
          guard (["await", "yield", "typeof", "void", "delete"].all (!startsWithWord · place))
          let callee ← g.primary ctx place
          let callee ← g.postfixes ctx .access place g.bound callee
          guard callee.isValue
        if ← accept (symbol ['(']) then g.arguments
        return { expr := .other start .newObject }

/-- The operand of a prefix operator that has been read. -/
def prefixedOperand (ctx : Context) : Parser Unit := do
  guard (← g.unary ctx).isValue

/-- A prefix operator of `width` characters with its operand, kept by its text. -/
def prefixed (ctx : Context) (start : Place) (width : Nat) : Parser Operand := do
  goTo (start.drop width)
  g.prefixedOperand ctx
  let behind ← rest
  return { expr := .unary start (start.take (start.length - behind.length)) }

/-- The value behind the word `yield`: with a star it has to be there. -/
def yieldRest (ctx : Context) : Parser Unit := do
  if ctx.breaks && endsStatement true (← rest) then return ()
  else if ← accept (symbol ['*']) then
    let _ ← g.expression ctx
  else
    let _ ← accept (do let _ ← g.expression ctx)

/-- An operand without assignment signs behind it. -/
def simpleOperand (ctx : Context) (start : Place) : Parser Operand :=
  let finish (o : Operand) := g.postfixes ctx .all start g.bound o
  match start with
  | '+' :: '+' :: after | '-' :: '-' :: after => do
      goTo after
      g.prefixedOperand ctx
      finish { expr := .other start .update }
  | '+' :: _ | '-' :: _ | '!' :: _ | '~' :: _ => g.prefixed ctx start 1
  | _ =>
      match word? start with
      | none => do finish (← g.primary ctx start)
      | some (w, after) =>
          match String.ofList w with
          | "typeof" => g.prefixed ctx start 6
          | "void" => g.prefixed ctx start 4
          | "delete" => g.prefixed ctx start 6
          | "await" => do
              goTo after
              g.prefixedOperand ctx
              return { expr := .other start .await }
          | "yield" => do
              goTo after
              g.yieldRest ctx
              return { expr := .other start .yield }
          | "new" => do
              goTo after
              finish (← g.newRest ctx start g.bound)
          | _ => do finish (← g.primary ctx start)

/-- An assignment that combines with the old value of `o`, if such a sign follows. -/
def combinedWith (ctx : Context) (start : Place) (o : Operand) : Parser Operand := do
  match combiningAssignment? (← ahead) with
  | some after =>
      goTo after
      let _ ← g.expression ctx
      return { expr := .other start .augmentedAssignment }
  | none => return o

/-- An operand, or an assignment to it. -/
def assignment (ctx : Context) (start : Place) : Parser Operand := do
  let o ← g.simpleOperand ctx start
  if ← accept (do guard o.shape.isAssignable; equals) then
    let _ ← g.expression ctx
    return { expr := .other start .assignment, shape := .assigned o.shape.isTarget }
  else if o.shape.isUpdatable then g.combinedWith ctx start o
  else return o

/-- The operators behind an operand that bind at least as tightly as `level`, at most `n`. -/
def operators (ctx : Context) (start : Place) (level : Nat) : Nat → Operand → Parser Operand
  | 0, o => return o
  | n + 1, o => do
      if !o.isValue then return o else
      let s ← ahead
      match binaryOperator? ctx.takesIn s with
      | some (found, after) =>
          if found < level then return o
          else
            goTo after
            guard (← g.operand ctx (rightLevel found)).isValue
            operators ctx start level n { expr := .other start .binary }
      | none =>
          match conditional? s with
          | some after =>
              if conditionalLevel < level then return o
              else
                goTo after
                let _ ← g.expression .closed
                symbol [':']
                guard (← g.operand ctx conditionalLevel).isValue
                operators ctx start level n { expr := .other start .ternary }
          | none => return o

/-- An operand with all that binds to it more tightly than an operator between operands. -/
def unaryPhrase (ctx : Context) : Parser Operand := do
  trivia
  let start ← rest
  g.assignment ctx start

/-- An operand with the operators behind it that bind at least as tightly as `level`. -/
def operandPhrase (ctx : Context) (level : Nat) : Parser Operand := do
  trivia
  let start ← rest
  let o ← g.assignment ctx start
  g.operators ctx start level g.bound o

end Inner

end DocSite.Script
