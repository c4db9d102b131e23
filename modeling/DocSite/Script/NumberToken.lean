import DocSite.Text.Digit

/-! # Numbers as tokens

The texts of numbers. A number is the longest text of one of these forms: digits of a marked radix,
digits with an optional fraction and exponent, or digits with a final `n`. Single underscores may
separate digits. -/

namespace DocSite.Script

open DocSite.Text

/-- Digits of the given class with single underscores between them: what is read, and the text
behind. -/
def digitRun (digit : Char → Bool) : List Char → List Char × List Char
  | '_' :: c :: rest =>
      if digit c then
        let (more, after) := digitRun digit rest
        ('_' :: c :: more, after)
      else ([], '_' :: c :: rest)
  | c :: rest =>
      if digit c then
        let (more, after) := digitRun digit rest
        (c :: more, after)
      else ([], c :: rest)
  | [] => ([], [])

/-- A non-empty run of digits that does not begin with an underscore. -/
def digits? (digit : Char → Bool) : List Char → Option (List Char × List Char)
  | c :: rest => if digit c then some (digitRun digit (c :: rest)) else none
  | [] => none

/-- The exponent of a number: the mark, an optional sign and digits; empty if there is none. -/
def exponentPart (s : List Char) : List Char × List Char :=
  match s with
  | e :: rest =>
      if e = 'e' ∨ e = 'E' then
        let (sign, unsigned) :=
          match rest with
          | '+' :: r => (['+'], r)
          | '-' :: r => (['-'], r)
          | r => ([], r)
        match digits? isDecimal unsigned with
        | some (digits, after) => (e :: sign ++ digits, after)
        | none => ([], s)
      else ([], s)
  | [] => ([], [])

/-- A radix mark with the digits it asks for. -/
def markedNumber? : List Char → Option (List Char × List Char)
  | '0' :: mark :: rest =>
      let digit : Option (Char → Bool) :=
        if mark = 'x' ∨ mark = 'X' then some isHex
        else if mark = 'o' ∨ mark = 'O' then some (isDigitOf 8)
        else if mark = 'b' ∨ mark = 'B' then some (isDigitOf 2)
        else none
      match digit with
      | some digit =>
          match digits? digit rest with
          | some (digits, after) => some ('0' :: mark :: digits, after)
          | none => none
      | none => none
  | _ => none

/-- Whether digits may be followed by a fraction or an exponent: a zero alone, or digits whose
first or second one is not zero, with no underscore behind a leading zero. -/
def takesFraction : List Char → Bool
  | ['0'] => true
  | '0' :: c :: _ => c != '0' && c != '_'
  | _ => true

/-- Puts the mark of a large integer behind digits, if it stands there. -/
def withLargeMark : List Char × List Char → List Char × List Char
  | (digits, 'n' :: after) => (digits ++ ['n'], after)
  | r => r

/-- The text of a number that begins here. -/
def number? (s : List Char) : Option (List Char × List Char) :=
  match markedNumber? s with
  | some r => some (withLargeMark r)
  | none =>
      match s with
      | '.' :: rest =>
          match digits? isDecimal rest with
          | some (digits, after) =>
              let (power, after) := exponentPart after
              some ('.' :: digits ++ power, after)
          | none => none
      | _ =>
          match digits? isDecimal s with
          | none => none
          | some (whole, after) =>
              if takesFraction whole then
                match after with
                | '.' :: rest =>
                    let (fraction, after) :=
                      match digits? isDecimal rest with
                      | some r => r
                      | none => ([], rest)
                    let (power, after) := exponentPart after
                    some (whole ++ '.' :: fraction ++ power, after)
                | _ =>
                    match exponentPart after with
                    | ([], after) => some (withLargeMark (whole, after))
                    | (power, after) => some (whole ++ power, after)
              else some (withLargeMark (whole, after))

/-- A number, as written. -/
structure NumberToken where
  /-- Its characters. -/
  chars : List Char
  /-- It is read as a number somewhere. -/
  isNumber : ∃ s rest, number? s = some (chars, rest)

/-- The number that begins here, with what is known of it. -/
def asNumber? (s : List Char) : Option (NumberToken × List Char) :=
  match h : number? s with
  | some (text, rest) => some (⟨text, s, rest, h⟩, rest)
  | none => none

/-- It is the number that begins here. -/
theorem asNumber?_of_number? {s text rest : List Char} (h : number? s = some (text, rest)) :
    asNumber? s = some (⟨text, s, rest, h⟩, rest) := by
  rw [asNumber?]
  split
  next h' =>
    rw [h] at h'
    cases h'
    rfl
  next h' =>
    rw [h] at h'
    cases h'

end DocSite.Script
