import DocSite.Number.Double
import DocSite.Text.Digit

/-! # Numerals

The value of the text of a number: an optional radix mark with at most 64 bits behind it, or a
decimal numeral with fraction and exponent. Digit separators `_` are dropped wherever they stand.
The decimal form also knows a sign and the words for infinity and not-a-number, in any case. -/

namespace DocSite.Numeral

open DocSite.Text

/-- Drops the digit separators. -/
def withoutSeparators (s : List Char) : List Char :=
  s.filter (· != '_')

/-- Splits off the radix mark `0x`, `0o` or `0b` of either case. -/
def radixMark? : List Char → Option (Nat × List Char)
  | '0' :: 'x' :: rest | '0' :: 'X' :: rest => some (16, rest)
  | '0' :: 'o' :: rest | '0' :: 'O' :: rest => some (8, rest)
  | '0' :: 'b' :: rest | '0' :: 'B' :: rest => some (2, rest)
  | _ => none

/-- A sign, if there is one: whether it is a minus, and what follows. -/
def splitSign : List Char → Bool × List Char
  | '-' :: rest => (true, rest)
  | '+' :: rest => (false, rest)
  | rest => (false, rest)

/-- The power of ten behind the mark `e`; without a mark it is zero, and a mark without digits is
refused. -/
def exponent? : List Char → Option Int
  | [] => some 0
  | e :: rest =>
      if e = 'e' ∨ e = 'E' then
        let (negative, digits) := splitSign rest
        (digitsValue? 10 digits).map fun n => if negative then -(n : Int) else n
      else none

/-- An unsigned decimal numeral: digits with an optional point, at least one digit, and an
optional exponent. -/
def unsignedDecimal? (negative : Bool) (s : List Char) : Option Double :=
  let whole := s.takeWhile isDecimal
  let rest := s.dropWhile isDecimal
  let (fraction, rest) :=
    match rest with
    | '.' :: r => (r.takeWhile isDecimal, r.dropWhile isDecimal)
    | r => ([], r)
  match digitsValue? 10 (whole ++ fraction), exponent? rest with
  | some digits, some power => some (Double.ofDecimal negative digits (power - fraction.length))
  | _, _ => none

/-- A signed decimal numeral, or one of the words for infinity and not-a-number. -/
def decimal? (s : List Char) : Option Double :=
  let (negative, body) := splitSign s
  let folded := body.map Char.toLower
  if folded = "inf".toList ∨ folded = "infinity".toList then some (.infinite negative)
  else if folded = "nan".toList then some .nan
  else unsignedDecimal? negative body

/-- The value of a numeral. With a radix mark the digits must fit 64 bits. -/
def value? (text : List Char) : Option Double :=
  let cleaned := withoutSeparators text
  match radixMark? cleaned with
  | some (radix, digits) =>
      match digitsValue? radix digits with
      | some n => if n < Nat.pow 2 64 then some (Double.ofNat n) else none
      | none => none
  | none => decimal? cleaned

end DocSite.Numeral
