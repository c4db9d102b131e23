import DocSite.Text.Alphanumeric
import DocSite.Text.Lowercase

/-! # Lower case keeps letters and numbers

A character beyond ASCII that has a lower-case form of its own is a letter or a number, and so is
that form. This is a fact about two tables, so it is checked row by row
(`lowercaseShifts_alphanumeric`). It follows that the lower-case form of a text begins with a letter
or a number exactly if the text does (`exists_lowercase_eq_cons`). In the same way no form is a
capital of ASCII (`isUpper_of_mem_lowercase`). -/

namespace DocSite.Text

/-! ## Rows of capitals -/

/-- Whether the codes from `low` to `high` all belong to letters and numbers beyond ASCII. -/
def inAlphanumericRange (low high : Nat) : Bool :=
  alphanumericRanges.any fun (first, last) => first.ble low && high.ble last

/-- Whether the codes from `low` to `high` all belong to characters beyond ASCII. -/
def areCharacters (low high : Int) : Bool :=
  0x80 ≤ low && (high < 0xD800 || 0xDFFF < low) && high < 0x110000

/-- Whether the capitals of a row are letters and numbers: all codes between the ends are, or all
codes of the row. -/
def hasAlphanumericCapitals (first last step : Nat) : Bool :=
  inAlphanumericRange first last ||
    (List.range ((last - first) / step + 1)).all fun k =>
      inAlphanumericRange (first + k * step) (first + k * step)

/-- Whether the lower-case forms of a row are letters and numbers: all codes between the ends are,
or the only one of the row. -/
def hasAlphanumericForms (first last : Nat) (shift : Int) : Bool :=
  areCharacters (first + shift) (last + shift)
      && inAlphanumericRange (first + shift).toNat (last + shift).toNat
    || first == last && isAlphanumeric (Char.ofNat (first + shift).toNat)

/-- **All rows are rows of letters and numbers.** -/
theorem lowercaseShifts_alphanumeric : ∀ row ∈ lowercaseShifts,
    (hasAlphanumericCapitals row.1 row.2.1 row.2.2.1
      && hasAlphanumericForms row.1 row.2.1 row.2.2.2) = true := by
  decide +kernel

/-- A code in a range of letters and numbers belongs to one. -/
theorem covers_of_inAlphanumericRange {low high code : Nat}
    (h : inAlphanumericRange low high = true) (hlow : low ≤ code) (hhigh : code ≤ high) :
    alphanumericRanges.covers code = true := by
  rw [inAlphanumericRange, List.any_eq_true] at h
  obtain ⟨range, hrange, hends⟩ := h
  rw [Bool.and_eq_true, Nat.ble_eq, Nat.ble_eq] at hends
  rw [Ranges.covers, List.any_eq_true]
  refine ⟨range, hrange, ?_⟩
  rw [Bool.and_eq_true, decide_eq_true_iff, decide_eq_true_iff]
  omega

/-- A capital of a row is a letter or a number. -/
theorem covers_of_hasAlphanumericCapitals {first last step code : Nat}
    (h : hasAlphanumericCapitals first last step = true) (hlow : first ≤ code)
    (hhigh : code ≤ last) (hstep : (code - first) % step = 0) :
    alphanumericRanges.covers code = true := by
  rw [hasAlphanumericCapitals, Bool.or_eq_true, List.all_eq_true] at h
  rcases h with h | h
  · exact covers_of_inAlphanumericRange h hlow hhigh
  · -- The code is one of the row, because it is a number of steps from the first.
    have hcode : first + (code - first) / step * step = code := by
      have hdiv := Nat.div_add_mod (code - first) step
      rw [hstep, Nat.add_zero, Nat.mul_comm] at hdiv
      omega
    have hmem : (code - first) / step ∈ List.range ((last - first) / step + 1) := by
      rw [List.mem_range]
      exact Nat.lt_succ_of_le (Nat.div_le_div_right (by omega))
    have hrange := h _ hmem
    rw [hcode] at hrange
    exact covers_of_inAlphanumericRange hrange (Nat.le_refl code) (Nat.le_refl code)

/-- A code between codes of characters beyond ASCII is that of one. -/
theorem toNat_ofNat_of_areCharacters {first last code : Nat} {shift : Int}
    (h : areCharacters (first + shift) (last + shift) = true) (hlow : first ≤ code)
    (hhigh : code ≤ last) :
    (Char.ofNat (code + shift).toNat).toNat = (code + shift).toNat ∧
      0x80 ≤ (code + shift).toNat := by
  simp only [areCharacters, Bool.and_eq_true, Bool.or_eq_true, decide_eq_true_eq] at h
  have hvalid : (code + shift).toNat.isValidChar := by
    rw [Nat.isValidChar]
    omega
  refine ⟨?_, by omega⟩
  rw [Char.ofNat, dif_pos hvalid]
  rfl

/-- The lower-case form of a capital of a row is a letter or a number. -/
theorem isAlphanumeric_of_hasAlphanumericForms {first last code : Nat} {shift : Int}
    (h : hasAlphanumericForms first last shift = true) (hlow : first ≤ code) (hhigh : code ≤ last) :
    isAlphanumeric (Char.ofNat (code + shift).toNat) = true := by
  rw [hasAlphanumericForms, Bool.or_eq_true, Bool.and_eq_true, Bool.and_eq_true, beq_iff_eq] at h
  rcases h with ⟨hcharacters, hrange⟩ | ⟨hlast, hform⟩
  · obtain ⟨hcode, hbeyond⟩ := toNat_ofNat_of_areCharacters hcharacters hlow hhigh
    rw [isAlphanumeric, hcode, if_neg (Nat.not_lt.2 hbeyond)]
    exact covers_of_inAlphanumericRange hrange (by omega) (by omega)
  · have hcode : code = first := by omega
    rw [hcode]
    exact hform

/-- A lower-case form that is found is in a row. -/
theorem exists_row_of_shiftedBy? {code form : Nat}
    (h : lowercaseShifts.findSome? (shiftedBy? code) = some form) :
    ∃ first last step shift, (first, last, step, shift) ∈ lowercaseShifts ∧ first ≤ code ∧
      code ≤ last ∧ (code - first) % step = 0 ∧ ((code : Int) + shift).toNat = form := by
  obtain ⟨⟨first, last, step, shift⟩, hrow, hshift⟩ := List.exists_of_findSome?_eq_some h
  rw [shiftedBy?] at hshift
  by_cases hcode : first ≤ code ∧ code ≤ last ∧ (code - first) % step = 0
  · rw [if_pos hcode] at hshift
    obtain ⟨hlow, hhigh, hstep⟩ := hcode
    exact ⟨first, last, step, shift, hrow, hlow, hhigh, hstep, Option.some.inj hshift⟩
  · rw [if_neg hcode] at hshift
    cases hshift

/-- **A capital beyond ASCII and its lower-case form are letters or numbers.** -/
theorem isAlphanumeric_of_shiftedBy? {code form : Nat}
    (h : lowercaseShifts.findSome? (shiftedBy? code) = some form) :
    alphanumericRanges.covers code = true ∧ isAlphanumeric (Char.ofNat form) = true := by
  obtain ⟨first, last, step, shift, hrow, hlow, hhigh, hstep, rfl⟩ := exists_row_of_shiftedBy? h
  have hrow := lowercaseShifts_alphanumeric _ hrow
  rw [Bool.and_eq_true] at hrow
  exact ⟨covers_of_hasAlphanumericCapitals hrow.1 hlow hhigh hstep,
    isAlphanumeric_of_hasAlphanumericForms hrow.2 hlow hhigh⟩

/-! ## Capitals of ASCII -/

/-- Whether the lower-case forms of a row are no capitals of ASCII: all codes between the ends are
beyond ASCII, or the only form of the row is no capital. -/
def hasNoAsciiCapitals (first last : Nat) (shift : Int) : Bool :=
  areCharacters (first + shift) (last + shift)
    || first == last && !(Char.ofNat (first + shift).toNat).isUpper

/-- No row leads to a capital of ASCII. -/
theorem lowercaseShifts_noAsciiCapitals : ∀ row ∈ lowercaseShifts,
    hasNoAsciiCapitals row.1 row.2.1 row.2.2.2 = true := by
  decide +kernel

/-- A character beyond ASCII is no capital of ASCII. -/
theorem isUpper_eq_false_of_le {c : Char} (h : 0x80 ≤ c.toNat) : c.isUpper = false := by
  rw [← Bool.not_eq_true]
  intro hupper
  have hcode : c.toNat ≤ 'Z'.toNat := (of_decide_eq_true hupper).2
  exact absurd (Nat.le_trans h hcode) (by decide)

/-- The lower-case form of a capital beyond ASCII is no capital of ASCII. -/
theorem isUpper_of_shiftedBy? {code form : Nat}
    (h : lowercaseShifts.findSome? (shiftedBy? code) = some form) :
    (Char.ofNat form).isUpper = false := by
  obtain ⟨first, last, step, shift, hrow, hlow, hhigh, -, rfl⟩ := exists_row_of_shiftedBy? h
  have hrow := lowercaseShifts_noAsciiCapitals _ hrow
  rw [hasNoAsciiCapitals, Bool.or_eq_true, Bool.and_eq_true, beq_iff_eq, Bool.not_eq_true'] at hrow
  rcases hrow with hcharacters | ⟨hlast, hform⟩
  · obtain ⟨hcode, hbeyond⟩ := toNat_ofNat_of_areCharacters hcharacters hlow hhigh
    apply isUpper_eq_false_of_le
    rw [hcode]
    exact hbeyond
  · have hends : first = last := hlast
    have hcode : code = first := by omega
    rw [hcode]
    exact hform

/-- **The lower-case form of a character holds no capital of ASCII.** -/
theorem isUpper_of_mem_lowercase {c x : Char} (h : x ∈ lowercase c) : x.isUpper = false := by
  rw [lowercase] at h
  by_cases hascii : c.toNat < 0x80
  · have hall : ∀ n < 0x80, (Char.ofNat n).toLower.isUpper = false := by decide +kernel
    have hc := hall c.toNat hascii
    rw [if_pos hascii, List.mem_singleton] at h
    rwa [h, ← Char.ofNat_toNat c]
  · rw [if_neg hascii] at h
    by_cases hdot : c = '\u0130'
    · rw [if_pos hdot] at h
      have hall : ['i', '\u0307'].all (!·.isUpper) = true := by decide +kernel
      simpa using List.all_eq_true.1 hall x h
    · rw [if_neg hdot] at h
      cases hform : lowercaseShifts.findSome? (shiftedBy? c.toNat) with
      | none =>
          rw [hform, List.mem_singleton] at h
          rw [h]
          exact isUpper_eq_false_of_le (Nat.not_lt.1 hascii)
      | some form =>
          rw [hform, List.mem_singleton] at h
          rw [h]
          exact isUpper_of_shiftedBy? hform

/-! ## Characters -/

/-- In ASCII, lower case keeps letters and digits. -/
theorem isAlphanumeric_toLower {c : Char} (h : c.toNat < 0x80) :
    isAlphanumeric c.toLower = isAlphanumeric c := by
  have hall : ∀ n < 0x80,
      isAlphanumeric (Char.ofNat n).toLower = isAlphanumeric (Char.ofNat n) := by
    decide +kernel
  have hc := hall c.toNat h
  rwa [Char.ofNat_toNat] at hc

/-- **Lower case keeps letters and numbers**: the lower-case form of a character is not empty, and
it begins with a letter or a number exactly if the character is one. -/
theorem exists_lowercase_eq_cons (c : Char) :
    ∃ x rest, lowercase c = x :: rest ∧ isAlphanumeric x = isAlphanumeric c := by
  by_cases hascii : c.toNat < 0x80
  · refine ⟨c.toLower, [], ?_, isAlphanumeric_toLower hascii⟩
    rw [lowercase, if_pos hascii]
  · rw [lowercase, if_neg hascii]
    by_cases hdot : c = '\u0130'
    · rw [if_pos hdot, hdot]
      exact ⟨'i', _, rfl, by decide +kernel⟩
    · rw [if_neg hdot]
      cases hform : lowercaseShifts.findSome? (shiftedBy? c.toNat) with
      | none => exact ⟨c, [], rfl, rfl⟩
      | some form =>
          obtain ⟨hcapital, hlower⟩ := isAlphanumeric_of_shiftedBy? hform
          refine ⟨Char.ofNat form, [], rfl, ?_⟩
          rw [hlower, isAlphanumeric, if_neg hascii, hcapital]

end DocSite.Text
