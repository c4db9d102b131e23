/-! # Binary64 numbers

Numbers of the IEEE format with 53 significant bits, kept as a significand times a power of two
so that their values can be computed with. `Double.ofRatio` rounds a quotient of natural numbers
to the nearest of them, ties to the even significand; every numeral is read through it. -/

namespace DocSite

/-- A binary64 number. A finite one is `significand * 2 ^ exponent` with its sign, where the
significand has at most 53 bits, the exponent is at least `-1074`, and the significand has fewer
than 53 bits only if the exponent is `-1074`. -/
inductive Double where
  /-- Not a number. -/
  | nan
  /-- Beyond every finite number. -/
  | infinite (negative : Bool)
  /-- A finite number; zero has a sign too. -/
  | finite (negative : Bool) (significand : Nat) (exponent : Int)
  deriving DecidableEq

namespace Double

/-- The smallest exponent of a finite number. -/
def minExponent : Int := -1074

/-- The largest exponent of a finite number. -/
def maxExponent : Int := 971

/-- Zero of the given sign. -/
def zero (negative : Bool) : Double := .finite negative 0 minExponent

/-- Quotient and remainder of `num / den` measured in units of `2 ^ exponent`, with the divisor
that the remainder belongs to. -/
def scaledDiv (num den : Nat) (exponent : Int) : Nat × Nat × Nat :=
  match exponent with
  | .ofNat e => let d := den <<< e; (num / d, num % d, d)
  | .negSucc e => let n := num <<< (e + 1); (n / den, n % den, den)

/-- The largest `k` with `2 ^ k ≤ num / den`, for positive arguments. -/
def floorLog2Ratio (num den : Nat) : Int :=
  let k : Int := (num.log2 : Int) - (den.log2 : Int)
  if (scaledDiv num den k).1 = 0 then k - 1 else k

/-- Rounds the quotient with the given remainder to the nearest integer, ties to even. -/
def roundEven (quotient remainder divisor : Nat) : Nat :=
  if 2 * remainder < divisor then quotient
  else if divisor < 2 * remainder then quotient + 1
  else if quotient % 2 = 0 then quotient else quotient + 1

/-- The binary64 number nearest to `num / den`, ties to even; beyond the largest finite number
it is infinite. -/
def ofRatio (negative : Bool) (num den : Nat) : Double :=
  if num = 0 then zero negative
  else
    let exponent := max (floorLog2Ratio num den - 52) minExponent
    let (q, r, d) := scaledDiv num den exponent
    let rounded := roundEven q r d
    -- Rounding up may have carried into a 54th bit.
    let (significand, exponent) :=
      if rounded = Nat.pow 2 53 then (Nat.pow 2 52, exponent + 1) else (rounded, exponent)
    if maxExponent < exponent then .infinite negative
    else .finite negative significand exponent

/-- The number nearest to a natural number. -/
def ofNat (n : Nat) : Double := ofRatio false n 1

/-- The number nearest to `digits * 10 ^ power`. A power so large or so small that the answer is
infinite or zero for any digits is answered without computing the power. -/
def ofDecimal (negative : Bool) (digits : Nat) (power : Int) : Double :=
  let magnitude : Int := power + (Nat.toDigits 10 digits).length
  if digits = 0 then zero negative
  -- Finite numbers end below `10 ^ 309`, and nothing below `10 ^ -324` rounds up from zero.
  else if magnitude > 400 then .infinite negative
  else if magnitude < -400 then zero negative
  else
    match power with
    | .ofNat p => ofRatio negative (digits * Nat.pow 10 p) 1
    | .negSucc p => ofRatio negative digits (Nat.pow 10 (p + 1))

/-- The number of opposite sign. -/
def neg : Double → Double
  | .nan => .nan
  | .infinite negative => .infinite !negative
  | .finite negative significand exponent => .finite (!negative) significand exponent

/-- Whether the magnitude exceeds `2 ^ -52`, the distance from one to the next number. -/
def exceedsEpsilon : Double → Bool
  | .nan => false
  | .infinite _ => true
  | .finite _ significand exponent =>
      match exponent + 52 with
      | .ofNat e => decide (1 < significand <<< e)
      | .negSucc e => decide (Nat.pow 2 (e + 1) < significand)

/-- The interchange encoding: sign, eleven bits of biased exponent, 52 bits of fraction. Every
not-a-number has the one quiet encoding. -/
def toBits : Double → Nat
  | .nan => 0x7FF8000000000000
  | .infinite negative => signBit negative + 0x7FF0000000000000
  | .finite negative significand exponent =>
      if significand < Nat.pow 2 52 then signBit negative + significand
      else signBit negative + (exponent + 1075).toNat <<< 52 + (significand - Nat.pow 2 52)
where
  /-- The top bit, set for negative numbers. -/
  signBit (negative : Bool) : Nat := if negative then Nat.pow 2 63 else 0

end Double

end DocSite
