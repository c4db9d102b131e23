import DocSite.Proofs.Search.Pruning

/-! # Names of partitions' files

The file of a partition is named for its section and its ordinal in hexadecimal digits, and the
sections and ordinals of the files in a directory are told from their names. A name is taken apart
at its last separator, and neither digits nor a sign hold one (`not_mem_of_ordinalValue?`), so a
section may be named in any way. Digits are read whether or not a plus sign stands in front
(`ordinalValue?_eq_some_iff`), which names in a catalog never have. The main statement is
`partition_named_iff`. -/

namespace DocSite.Search

open DocSite.Text

/-! ## Ordinals -/

/-- Whether a text is a number in hexadecimal digits of either case, with any zeros in front. -/
structure IsHexNumeral (digits : List Char) (n : Nat) : Prop where
  /-- There is a digit. -/
  ne_nil : digits ≠ []
  /-- There is nothing but digits. -/
  isHex : ∀ c ∈ digits, isHex c = true
  /-- The number is the value of the digits by places. -/
  value : placeValue 16 digits = n

/-- Digits are read if they are a numeral. -/
theorem digitsValue?_eq_some_iff_isHexNumeral {digits : List Char} {n : Nat} :
    digitsValue? 16 digits = some n ↔ IsHexNumeral digits n := by
  rw [digitsValue?_eq_some_iff]
  exact ⟨fun ⟨hne, hhex, hvalue⟩ => ⟨hne, hhex, hvalue⟩, fun h => ⟨h.ne_nil, h.isHex, h.value⟩⟩

/-- The shortest digits of a number are a numeral. -/
theorem isHexNumeral_hexDigits (n : Nat) : IsHexNumeral (hexDigits n) n :=
  digitsValue?_eq_some_iff_isHexNumeral.1 (digitsValue?_hexDigits n)

/-- **An ordinal is a numeral, with or without a plus sign in front.** -/
theorem ordinalValue?_eq_some_iff {ordinal : List Char} {n : Nat} :
    partitionParts?.ordinalValue? ordinal = some n ↔
      ∃ sign ∈ ["", "+"], ∃ digits, IsHexNumeral digits n ∧ ordinal = sign.toList ++ digits := by
  constructor
  · intro h
    rw [partitionParts?.ordinalValue?.eq_def] at h
    split at h
    next digits =>
      exact ⟨"+", by simp, digits, digitsValue?_eq_some_iff_isHexNumeral.1 h, rfl⟩
    next =>
      exact ⟨"", by simp, ordinal, digitsValue?_eq_some_iff_isHexNumeral.1 h, rfl⟩
  · rintro ⟨sign, hsign, digits, hdigits, rfl⟩
    have hread := digitsValue?_eq_some_iff_isHexNumeral.2 hdigits
    simp only [List.mem_cons, List.not_mem_nil, or_false] at hsign
    rcases hsign with rfl | rfl
    · have hplus : ∀ rest, digits ≠ '+' :: rest := by
        rintro rest rfl
        exact (ne_of_isHex (hdigits.isHex '+' List.mem_cons_self)).2 rfl
      exact (partitionParts?.ordinalValue?.eq_2 digits hplus).trans hread
    · exact hread

/-- An ordinal holds no separator. -/
theorem not_mem_of_ordinalValue? {ordinal : List Char} {n : Nat}
    (h : partitionParts?.ordinalValue? ordinal = some n) : '_' ∉ ordinal := by
  obtain ⟨sign, hsign, digits, hdigits, rfl⟩ := ordinalValue?_eq_some_iff.1 h
  intro hmem
  rcases List.mem_append.1 hmem with hmem | hmem
  · simp only [List.mem_cons, List.not_mem_nil, or_false] at hsign
    rcases hsign with rfl | rfl <;> exact absurd hmem (by decide)
  · exact (ne_of_isHex (hdigits.isHex '_' hmem)).1 rfl

/-! ## Names -/

/-- A name is taken apart if it is a section, a separator, an ordinal in range and the suffix. -/
theorem partitionParts?_eq_some_iff_toList {file name : String} {i : Nat} :
    partitionParts? file = some (name, i) ↔
      name ≠ "" ∧ i < 2 ^ 32 ∧ ∃ ordinal, partitionParts?.ordinalValue? ordinal = some i ∧
        file.toList = name.toList ++ '_' :: ordinal ++ ".js".toList := by
  constructor
  · intro h
    rw [partitionParts?] at h
    split at h
    next stem hfile =>
      split at h
      next front ordinal hsplit =>
        split at h
        next => cases h
        next hname =>
          split at h
          next n hordinal =>
            split at h
            next hlt =>
              cases h
              refine ⟨?_, hlt, ordinal, hordinal, ?_⟩
              · intro hempty
                rw [← String.toList_eq_nil_iff, String.toList_ofList] at hempty
                exact hname (List.isEmpty_iff.2 hempty)
              · rw [String.toList_ofList, ← eq_append_of_splitLast? hsplit,
                  ← List.reverse_reverse file.toList, hfile]
                simp
            next => cases h
          next => cases h
      next => cases h
    next => cases h
  · rintro ⟨hname, hlt, ordinal, hordinal, hfile⟩
    have hreverse : file.toList.reverse
        = 's' :: 'j' :: '.' :: (name.toList ++ '_' :: ordinal).reverse := by
      rw [hfile]
      simp
    have hlist : name.toList.isEmpty = false := by
      rw [List.isEmpty_eq_false_iff]
      exact fun hnil => hname (String.toList_eq_nil_iff.1 hnil)
    have hpow : i < Nat.pow 2 32 := hlt
    simp [partitionParts?, hreverse, splitLast?_append (not_mem_of_ordinalValue? hordinal), hlist,
      hordinal, hpow]

/-- Whether a file is named for a section and a position, with a sign in front of the digits. -/
def IsFileName (sign name : String) (i : Nat) (file : String) : Prop :=
  ∃ digits, IsHexNumeral digits i ∧ file = name ++ "_" ++ sign ++ String.ofList digits ++ ".js"

/-- **A file is taken for the partition of a section at a position exactly if it is named for
them**, for a section with a name and a position in range. -/
theorem partitionParts?_eq_some_iff {file name : String} {i : Nat} :
    partitionParts? file = some (name, i) ↔
      name ≠ "" ∧ i < 2 ^ 32 ∧ ∃ sign ∈ ["", "+"], IsFileName sign name i file := by
  have hjoined (sign : String) (digits : List Char) :
      file.toList = name.toList ++ '_' :: (sign.toList ++ digits) ++ ".js".toList ↔
        file = name ++ "_" ++ sign ++ String.ofList digits ++ ".js" := by
    rw [← String.toList_inj]
    simp
  rw [partitionParts?_eq_some_iff_toList]
  refine and_congr_right fun _ => and_congr_right fun _ => ?_
  constructor
  · rintro ⟨ordinal, hordinal, hfile⟩
    obtain ⟨sign, hsign, digits, hdigits, rfl⟩ := ordinalValue?_eq_some_iff.1 hordinal
    exact ⟨sign, hsign, digits, hdigits, (hjoined sign digits).1 hfile⟩
  · rintro ⟨sign, hsign, digits, hdigits, hfile⟩
    have hordinal := ordinalValue?_eq_some_iff.2 ⟨sign, hsign, digits, hdigits, rfl⟩
    exact ⟨sign.toList ++ digits, hordinal, (hjoined sign digits).2 hfile⟩

/-- A catalog names the file at a position for the section and the position, without a sign. -/
theorem isFileName_of_getElem? {s : Section} {i : Nat} {initial : Char} {file : String}
    (h : s.partitions[i]? = some (initial, file)) : IsFileName "" s.name i file := by
  rw [Section.partitions, List.getElem?_map, List.getElem?_zipIdx, Option.map_map,
    Option.map_eq_some_iff] at h
  obtain ⟨c, -, heq⟩ := h
  refine ⟨hexDigits i, isHexNumeral_hexDigits i, ?_⟩
  have hfile : partitionFile s.name i = file := by simpa using congrArg Prod.snd heq
  rw [← hfile, partitionFile, String.append_empty]

/-- **The names of files and the positions in catalogs agree.** A file is taken for the partition of
a section at a position exactly if it is named for them, where a plus sign may stand in front of the
digits, and the files of a catalog are taken for the partitions that it lists them as. -/
theorem partition_named_iff (file name : String) (i : Nat) :
    (partitionParts? file = some (name, i) ↔
      name ≠ "" ∧ i < 2 ^ 32 ∧ ∃ sign ∈ ["", "+"], IsFileName sign name i file) ∧
      ∀ (s : Section) (initial : Char), s.name ≠ "" → i < 2 ^ 32 →
        s.partitions[i]? = some (initial, file) →
          IsFileName "" s.name i file ∧ partitionParts? file = some (s.name, i) := by
  refine ⟨partitionParts?_eq_some_iff, fun s initial hname hlt hlisted => ?_⟩
  have hfile := isFileName_of_getElem? hlisted
  exact ⟨hfile, partitionParts?_eq_some_iff.2 ⟨hname, hlt, "", List.mem_cons_self, hfile⟩⟩

/-- A section with a name that looks like one of its files. -/
def nestedSection : Section := ⟨"all_1f.js", none, ['a', 'b']⟩

/-- The second file of a section is taken for its second partition, even if the section itself is
named like a file. -/
theorem partition_named_iff_nestedSection :
    nestedSection.name ≠ "" ∧ 1 < 2 ^ 32 ∧
      nestedSection.partitions[1]? = some ('b', "all_1f.js_1.js") ∧
        IsFileName "" "all_1f.js" 1 "all_1f.js_1.js" ∧
          partitionParts? "all_1f.js_1.js" = some ("all_1f.js", 1) := by
  have hname : nestedSection.name ≠ "" := by decide
  have hlisted : nestedSection.partitions[1]? = some ('b', "all_1f.js_1.js") := by decide +kernel
  have hlt : 1 < 2 ^ 32 := by decide
  exact ⟨hname, hlt, hlisted,
    (partition_named_iff "all_1f.js_1.js" "" 1).2 nestedSection 'b' hname hlt hlisted⟩

/-- **A name with a sign is taken for that of a partition**, though no section has a file of that
name without one. -/
theorem partition_named_signed : partitionParts? "all_+5.js" = some ("all", 5) ∧
    ¬∃ name i, IsFileName "" name i "all_+5.js" := by
  refine ⟨by decide +kernel, ?_⟩
  rintro ⟨name, i, digits, hdigits, hfile⟩
  have hstem : "all_+5".toList = name.toList ++ '_' :: digits := by
    have hlist : "all_+5".toList ++ ".js".toList
        = (name.toList ++ '_' :: digits) ++ ".js".toList := by
      simpa using congrArg String.toList hfile
    exact List.append_cancel_right hlist
  have hseparator : '_' ∉ digits := fun hmem => (ne_of_isHex (hdigits.isHex '_' hmem)).1 rfl
  -- What stands behind the last separator is the sign with the digit.
  have hsplit : splitLast? '_' "all_+5".toList = some (name.toList, digits) := by
    rw [hstem, splitLast?_append hseparator]
  have hlast : splitLast? '_' "all_+5".toList = some ("all".toList, "+5".toList) := by decide
  rw [hlast, Option.some.injEq, Prod.mk.injEq] at hsplit
  have hplus : '+' ∈ digits := by simp [← hsplit.2]
  exact (ne_of_isHex (hdigits.isHex '+' hplus)).2 rfl

end DocSite.Search
