import DocSite.Script.Expr
import DocSite.Script.Trivia

/-! # Parsers

A parser reads a phrase from a cursor on and leaves the cursor behind the phrase, or fails. The
cursor also carries the declarations found so far, because they count wherever they stand: a
phrase that is abandoned takes its declarations with it. -/

namespace DocSite.Script

/-- A place in a script and the declarations found in front of it, the latest first. -/
structure Cursor where
  /-- The text that follows. -/
  rest : List Char
  /-- The declarations found, the latest first. -/
  found : List Declarator

/-- A parser for phrases that mean an `α`. -/
abbrev Parser := StateT Cursor Option

namespace Parser

variable {α : Type}

/-- The text that follows. -/
def rest : Parser (List Char) := fun c => some (c.rest, c)

/-- Goes on at `rest`. -/
def goTo (rest : List Char) : Parser Unit := fun c => some ((), { c with rest })

/-- Skips blanks and comments. -/
def blank : Parser Unit := fun c => some ((), { c with rest := skipBlank c.rest })

/-- Skips blanks, comments and markup comments. -/
def trivia : Parser Unit := fun c => some ((), { c with rest := skipTrivia c.rest })

/-- The text behind blanks and comments, which are not skipped. -/
def ahead : Parser (List Char) := fun c => some (skipBlank c.rest, c)

/-- What `read` finds at the very next character, if it finds something. -/
def immediate (read : List Char → Option (α × List Char)) : Parser α := fun c =>
  match read c.rest with
  | some (a, rest) => some (a, { c with rest })
  | none => none

/-- What `read` finds behind blanks and comments. -/
def token (read : List Char → Option (α × List Char)) : Parser α := do
  blank
  immediate read

/-- Reads exactly the given characters. -/
def chars? : List Char → List Char → Option (Unit × List Char)
  | [], s => some ((), s)
  | x :: xs, y :: ys => if x = y then chars? xs ys else none
  | _ :: _, [] => none

/-- The given characters, behind blanks and comments. -/
def symbol (s : List Char) : Parser Unit :=
  token (chars? s)

/-- Whether the phrase stands here; if not, nothing is read. -/
def accept (p : Parser Unit) : Parser Bool :=
  (do p; return true) <|> return false

/-- As many phrases as there are, at most `n`. -/
def many : Nat → Parser α → Parser (List α)
  | 0, _ => return []
  | n + 1, p => (do
      let a ← p
      let more ← many n p
      return a :: more) <|> return []

/-- Phrases with `separator` between them, at most `n + 1`. -/
def separated (n : Nat) (separator : Parser Unit) (p : Parser α) : Parser (List α) := do
  let first ← p
  let more ← many n (do separator; p)
  return first :: more

/-- Runs `p` with no declarations found yet, and gives those that it finds, the latest first. -/
def collecting (p : Parser α) : Parser (α × List Declarator) := fun c =>
  match p { c with found := [] } with
  | some (a, c') => some ((a, c'.found), { c' with found := c.found })
  | none => none

/-- Adds declarations, the latest first. -/
def declare (found : List Declarator) : Parser Unit := fun c =>
  some ((), { c with found := found ++ c.found })

/-- Succeeds if the text that follows satisfies `p`. -/
def require (p : List Char → Bool) : Parser Unit := fun c =>
  if p c.rest then some ((), c) else none

/-- A word, behind blanks and comments. -/
def word : Parser (List Char) := token word?

/-- A word that names something, behind blanks and comments. -/
def name : Parser Word := token asWord?

/-- The keyword of this spelling, behind blanks and comments. -/
def keyword (spelling : String) : Parser Unit := do
  let w ← word
  guard (w == spelling.toList)

/-- Whether a word stands behind blanks and comments. -/
def wordAhead : Parser Bool := do
  return (word? (← ahead)).isSome

end Parser

end DocSite.Script
