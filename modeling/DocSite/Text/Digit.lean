/-! # Digits

Digits of a radix up to sixteen, the number that a run of them stands for, and the shortest
run that stands for a number. -/

namespace DocSite.Text

/-- Value of a hexadecimal digit of either case. -/
def hexValue? (c : Char) : Option Nat :=
  if '0' ≤ c ∧ c ≤ '9' then some (c.toNat - '0'.toNat)
  else if 'a' ≤ c ∧ c ≤ 'f' then some (c.toNat - 'a'.toNat + 10)
  else if 'A' ≤ c ∧ c ≤ 'F' then some (c.toNat - 'A'.toNat + 10)
  else none

/-- Value of a digit in `radix`, at most sixteen. -/
def digitValue? (radix : Nat) (c : Char) : Option Nat :=
  (hexValue? c).filter (· < radix)

/-- Whether `c` is a digit in `radix`. -/
def isDigitOf (radix : Nat) (c : Char) : Bool :=
  (digitValue? radix c).isSome

/-- Whether `c` is one of `0` to `9`. -/
def isDecimal (c : Char) : Bool :=
  isDigitOf 10 c

/-- Whether `c` is a hexadecimal digit. -/
def isHex (c : Char) : Bool :=
  isDigitOf 16 c

/-- Value of a run of digits read from the left, continuing `acc`; characters that are no
digits are refused. -/
def digitsValueFrom? (radix : Nat) : Nat → List Char → Option Nat
  | acc, [] => some acc
  | acc, c :: rest =>
      match digitValue? radix c with
      | some d => digitsValueFrom? radix (acc * radix + d) rest
      | none => none

/-- Value of a non-empty run of digits. -/
def digitsValue? (radix : Nat) (s : List Char) : Option Nat :=
  match s with
  | [] => none
  | _ :: _ => digitsValueFrom? radix 0 s

/-- The digit of value `n`, in lower case. -/
def hexDigit (n : Nat) : Char :=
  if n < 10 then Char.ofNat ('0'.toNat + n) else Char.ofNat ('a'.toNat + (n - 10))

/-- The last `width` hexadecimal digits of `n`, leading zeros included. -/
def hexFixed : Nat → Nat → List Char
  | 0, _ => []
  | width + 1, n => hexFixed width (n / 16) ++ [hexDigit (n % 16)]

/-- The hexadecimal digits of `n` in lower case, without leading zeros; zero has one digit. -/
def hexDigits (n : Nat) : List Char :=
  Nat.toDigits 16 n

/-- The decimal digits of `n`. -/
def decimal (n : Nat) : String :=
  String.ofList (Nat.toDigits 10 n)

end DocSite.Text
