import DocSite.Text.Digit
import Mathlib.Algebra.Group.Nat.Defs
import Mathlib.Data.Nat.Digits.Defs

/-! # Digits read back

`hexFixed` writes a number in a fixed number of hexadecimal digits, `hexDigits` writes it without
leading zeros, and `digitsValue?` reads digits back. The main statements are `digitsValue?_hexFixed`
and `digitsValue?_hexDigits`: a number, if it fits the width, is read back as itself, so its digits
tell it apart from every other number. What any digits are read as is their value by places
(`placeValue`, `digitsValue?_eq_some_iff`). -/

namespace DocSite.Text

/-- The decimal digits are those of ASCII. -/
theorem isDecimal_eq_isDigit (c : Char) : isDecimal c = c.isDigit := by
  rw [isDecimal, isDigitOf, digitValue?, hexValue?]
  have hdigit : c.isDigit = true ↔ '0' ≤ c ∧ c ≤ '9' := by
    simp [Char.isDigit, Char.le_def]
  by_cases h : '0' ≤ c ∧ c ≤ '9'
  · have hlow : c.toNat - '0'.toNat < 10 := by
      have hhigh : c.toNat ≤ '9'.toNat := h.2
      have h9 : '9'.toNat = '0'.toNat + 9 := rfl
      omega
    rw [if_pos h, hdigit.2 h, Option.filter_some, decide_eq_true hlow]
    rfl
  · have hno : c.isDigit = false := by
      rw [← Bool.not_eq_true, hdigit]
      exact h
    -- Letters stand for ten and more.
    have hletter : ∀ n, ((some (n + 10)).filter fun m => decide (m < 10)) = none := by
      intro n
      rw [Option.filter_some, if_neg (by simp)]
    rw [if_neg h, hno]
    by_cases ha : 'a' ≤ c ∧ c ≤ 'f'
    · rw [if_pos ha, hletter]
      rfl
    · rw [if_neg ha]
      by_cases hA : 'A' ≤ c ∧ c ≤ 'F'
      · rw [if_pos hA, hletter]
        rfl
      · rw [if_neg hA]
        rfl

/-- Digits have no case. -/
theorem toLower_of_isDecimal {c : Char} (h : isDecimal c = true) : c.toLower = c := by
  have hhigh : c.val.toNat ≤ '9'.val.toNat := by
    rw [isDecimal_eq_isDigit, Char.isDigit, Bool.and_eq_true, decide_eq_true_eq,
      decide_eq_true_eq] at h
    exact h.2
  have hnine : '9'.val.toNat < 'A'.val.toNat := by decide
  have hno : ¬(c.val ≥ 'A'.val ∧ c.val ≤ 'Z'.val) := by
    rintro ⟨hlow, -⟩
    exact absurd (Nat.lt_of_le_of_lt hhigh hnine) (Nat.not_lt.2 hlow)
  exact dif_neg hno

/-- A digit below sixteen has the value for which it is written. -/
theorem hexValue?_hexDigit : ∀ n < 16, hexValue? (hexDigit n) = some n := by
  decide

/-- The last digit of a number is read as its remainder by sixteen. -/
theorem digitValue?_hexDigit_mod (n : Nat) :
    digitValue? 16 (hexDigit (n % 16)) = some (n % 16) := by
  have hn : n % 16 < 16 := Nat.mod_lt n (by decide)
  rw [digitValue?, hexValue?_hexDigit _ hn]
  simp [hn]

/-- The last digit of a number is a hexadecimal digit. -/
theorem isHex_hexDigit_mod (n : Nat) : isHex (hexDigit (n % 16)) = true := by
  rw [isHex, isDigitOf, digitValue?_hexDigit_mod]
  rfl

/-- A run of digits that is not empty is read from zero on. -/
theorem digitsValue?_of_ne_nil (radix : Nat) {s : List Char} (h : s ≠ []) :
    digitsValue? radix s = digitsValueFrom? radix 0 s := by
  cases s with
  | nil => exact absurd rfl h
  | cons c rest => rfl

/-- Digits are read from the left: the value of the first part goes into the second. -/
theorem digitsValueFrom?_append (radix acc : Nat) (s t : List Char) :
    digitsValueFrom? radix acc (s ++ t)
      = (digitsValueFrom? radix acc s).bind fun value => digitsValueFrom? radix value t := by
  induction s generalizing acc with
  | nil => rfl
  | cons c rest ih =>
      rw [List.cons_append, digitsValueFrom?, digitsValueFrom?]
      cases digitValue? radix c with
      | none => rfl
      | some d => exact ih _

/-- Reading a number of fixed width goes on from the value in front of it. -/
theorem digitsValueFrom?_hexFixed (width n acc : Nat) (h : n < 16 ^ width) :
    digitsValueFrom? 16 acc (hexFixed width n) = some (acc * 16 ^ width + n) := by
  induction width generalizing n with
  | zero =>
      have hn : n = 0 := by simpa using h
      rw [hn]
      simp [hexFixed, digitsValueFrom?]
  | succ width ih =>
      have hq : n / 16 < 16 ^ width := Nat.div_lt_of_lt_mul (by rw [Nat.pow_succ] at h; omega)
      rw [hexFixed, digitsValueFrom?_append, ih _ hq, Option.bind_some, digitsValueFrom?,
        digitValue?_hexDigit_mod]
      have hsum : (acc * 16 ^ width + n / 16) * 16 + n % 16 = acc * 16 ^ (width + 1) + n := by
        rw [Nat.pow_succ, ← Nat.mul_assoc, Nat.add_mul]
        omega
      rw [← hsum]
      rfl

/-- As many digits are written as the width says. -/
@[simp] theorem length_hexFixed (width n : Nat) : (hexFixed width n).length = width := by
  induction width generalizing n with
  | zero => rfl
  | succ width ih => rw [hexFixed, List.length_append, ih, List.length_singleton]

/-- **A number that fits the width is read back as itself.** -/
theorem digitsValue?_hexFixed {width n : Nat} (hw : 0 < width) (h : n < 16 ^ width) :
    digitsValue? 16 (hexFixed width n) = some n := by
  have hne : hexFixed width n ≠ [] := by
    rw [← List.length_pos_iff, length_hexFixed]
    exact hw
  rw [digitsValue?_of_ne_nil 16 hne, digitsValueFrom?_hexFixed width n 0 h, Nat.zero_mul,
    Nat.zero_add]

/-- Numbers that fit the width and are written alike are the same. -/
theorem hexFixed_inj {width m n : Nat} (hm : m < 16 ^ width) (hn : n < 16 ^ width)
    (h : hexFixed width m = hexFixed width n) : m = n := by
  have hread := digitsValueFrom?_hexFixed width m 0 hm
  rw [h, digitsValueFrom?_hexFixed width n 0 hn] at hread
  simpa using hread.symm

/-- Every character of a number of fixed width is a hexadecimal digit. -/
theorem isHex_of_mem_hexFixed {width n : Nat} {c : Char} (h : c ∈ hexFixed width n) :
    isHex c = true := by
  induction width generalizing n with
  | zero => cases h
  | succ width ih =>
      rw [hexFixed, List.mem_append, List.mem_singleton] at h
      rcases h with h | rfl
      · exact ih h
      · exact isHex_hexDigit_mod n

/-! ## Without leading zeros -/

/-- The digits of a radix are those of hexadecimal numbers. -/
theorem digitChar_eq_hexDigit : ∀ n < 16, Nat.digitChar n = hexDigit n := by
  decide

/-- A number below sixteen has one digit. -/
theorem hexDigits_of_lt {n : Nat} (h : n < 16) : hexDigits n = [hexDigit n] := by
  rw [hexDigits, Nat.toDigits_of_lt_base h, digitChar_eq_hexDigit n h]

/-- A number from sixteen on has the digits of its quotient by sixteen, and one for the
remainder. -/
theorem hexDigits_of_le {n : Nat} (h : 16 ≤ n) :
    hexDigits n = hexDigits (n / 16) ++ [hexDigit (n % 16)] := by
  rw [hexDigits, Nat.toDigits_of_base_le (by decide) h,
    digitChar_eq_hexDigit _ (Nat.mod_lt n (by decide))]
  rfl

/-- Every number has a digit. -/
theorem hexDigits_ne_nil (n : Nat) : hexDigits n ≠ [] := Nat.toDigits_ne_nil

/-- **A number without leading zeros is read back as itself.** -/
theorem digitsValue?_hexDigits (n : Nat) : digitsValue? 16 (hexDigits n) = some n := by
  rw [digitsValue?_of_ne_nil 16 (hexDigits_ne_nil n)]
  induction n using Nat.strongRecOn with
  | _ n ih =>
      by_cases h : n < 16
      · have hmod : n % 16 = n := Nat.mod_eq_of_lt h
        rw [hexDigits_of_lt h, digitsValueFrom?, ← hmod, digitValue?_hexDigit_mod, hmod]
        simp [digitsValueFrom?]
      · have hle : 16 ≤ n := Nat.le_of_not_lt h
        have hlt : n / 16 < n := Nat.div_lt_self (by omega) (by decide)
        rw [hexDigits_of_le hle, digitsValueFrom?_append, ih _ hlt, Option.bind_some,
          digitsValueFrom?, digitValue?_hexDigit_mod]
        simp only [digitsValueFrom?]
        rw [Nat.mul_comm, Nat.div_add_mod]

/-- Every character of a number without leading zeros is a hexadecimal digit. -/
theorem isHex_of_mem_hexDigits {n : Nat} {c : Char} (h : c ∈ hexDigits n) : isHex c = true := by
  induction n using Nat.strongRecOn with
  | _ n ih =>
      by_cases hn : n < 16
      · rw [hexDigits_of_lt hn, List.mem_singleton] at h
        rw [h, ← Nat.mod_eq_of_lt hn]
        exact isHex_hexDigit_mod n
      · have hle : 16 ≤ n := Nat.le_of_not_lt hn
        have hlt : n / 16 < n := Nat.div_lt_self (by omega) (by decide)
        rw [hexDigits_of_le hle, List.mem_append, List.mem_singleton] at h
        rcases h with h | rfl
        · exact ih _ hlt h
        · exact isHex_hexDigit_mod n

/-! ## Places -/

/-- The number that digits stand for by their places: the last digit counts ones, and every other
one counts `radix` times as much as the one behind it. -/
def placeValue (radix : Nat) (s : List Char) : Nat :=
  Nat.ofDigits radix (s.reverse.map fun c => (digitValue? radix c).getD 0)

@[simp] theorem placeValue_nil (radix : Nat) : placeValue radix [] = 0 := rfl

/-- A digit in front counts by the number of those behind it. -/
theorem placeValue_cons (radix : Nat) (c : Char) (s : List Char) :
    placeValue radix (c :: s)
      = (digitValue? radix c).getD 0 * radix ^ s.length + placeValue radix s := by
  simp [placeValue, Nat.ofDigits_append, Nat.add_comm, Nat.mul_comm]

/-- What continues a number adds its value behind the places that it moves the number by, if it is
digits, and is refused if not. -/
theorem digitsValueFrom?_eq_some_iff {radix acc n : Nat} {s : List Char} :
    digitsValueFrom? radix acc s = some n ↔
      (∀ c ∈ s, isDigitOf radix c = true) ∧ acc * radix ^ s.length + placeValue radix s = n := by
  induction s generalizing acc with
  | nil => simp [digitsValueFrom?]
  | cons c rest ih =>
      rw [digitsValueFrom?, List.forall_mem_cons, isDigitOf, placeValue_cons, List.length_cons]
      cases digitValue? radix c with
      | none => simp
      | some d =>
          have hsum : (acc * radix + d) * radix ^ rest.length + placeValue radix rest
              = acc * radix ^ (rest.length + 1)
                + (d * radix ^ rest.length + placeValue radix rest) := by
            rw [Nat.add_mul, Nat.mul_assoc, Nat.pow_succ', Nat.add_assoc]
          simp [ih, hsum]

/-- **Digits are read as their value by places**, and nothing else is read. -/
theorem digitsValue?_eq_some_iff {radix n : Nat} {s : List Char} :
    digitsValue? radix s = some n ↔
      s ≠ [] ∧ (∀ c ∈ s, isDigitOf radix c = true) ∧ placeValue radix s = n := by
  cases s with
  | nil => simp [digitsValue?]
  | cons c rest =>
      rw [digitsValue?, digitsValueFrom?_eq_some_iff, Nat.zero_mul, Nat.zero_add]
      exact ⟨fun h => ⟨List.cons_ne_nil c rest, h⟩, And.right⟩

end DocSite.Text
