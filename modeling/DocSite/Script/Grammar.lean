import DocSite.Script.Grammar.Statement

/-! # The grammar of scripts

The phrases of the grammar tied together over nesting levels, and a whole script: an optional first
line that begins with `#!`, and statements. A level is used up only where text is, so as many
levels as there are characters are enough. -/

namespace DocSite.Script

open DocSite.Script.Parser

/-- The parsers with `n` levels of nesting at hand. -/
def grammar : Nat → Inner
  | 0 => {
      bound := 0
      operand := fun _ _ => failure
      unary := fun _ => failure
      statement := failure
      markup := failure }
  | n + 1 => {
      bound := n + 1
      operand := fun ctx level => (grammar n).operandPhrase ctx level
      unary := fun ctx => (grammar n).unaryPhrase ctx
      statement := fun c => (grammar n).statementPhrase c
      markup := fun c => (grammar n).markupElement c }

/-- Skips a first line that begins with `#!`. -/
def skipInterpreterLine (s : List Char) : List Char :=
  match skipTrivia s with
  | '#' :: '!' :: rest => rest.dropWhile (· != '\n')
  | _ => s

/-- The declarations of a script in source order, or nothing if it is no script. -/
def declarators? (source : List Char) : Option (List Declarator) :=
  if source.contains '\x00' then none
  else
    let n := source.length + 2
    let program : Parser Unit := do
      let _ ← many n (grammar n).statement
      trivia
    match program ⟨skipInterpreterLine source, []⟩ with
    | some (_, ⟨[], found⟩) => some found.reverse
    | _ => none

end DocSite.Script
