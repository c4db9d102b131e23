import DocSite.Proofs.Text.Digit
import DocSite.Search.Partition
import Mathlib.Data.List.TakeDrop

/-! # Keys tell names apart

Keys are compared in an encoded form, but what is compared are names without regard to case. The
form of a character is either the character itself or `_` and two digits, and no form begins
another. So one encoded text begins another exactly if the lower-case texts do
(`encodeChars_prefix_iff`), and the `_` in front of the ordinal is the last one in the key
(`stripOrdinal_append`). The main statement is `matching_of_names`. -/

namespace DocSite.Search

open DocSite.Text

/-! ## One character -/

/-- A character that stands for itself is no separator. -/
theorem ne_underscore_of_isKeyChar {c : Char} (h : isKeyChar c = true) : c ≠ '_' := by
  rintro rfl
  exact absurd h (by decide)

/-- Characters beyond ASCII stand for themselves. -/
theorem toNat_lt_of_not_isKeyChar {c : Char} (h : ¬isKeyChar c = true) : c.toNat < 16 ^ 2 := by
  have hascii : ¬0x80 ≤ c.toNat := fun hbeyond => h (by simp [isKeyChar, hbeyond])
  omega

/-- Every character has a form. -/
theorem keyChar_ne_nil (c : Char) : keyChar c ≠ [] := by
  rw [keyChar]
  by_cases h : isKeyChar c = true
  · rw [if_pos h]
    exact List.cons_ne_nil _ _
  · rw [if_neg h]
    exact List.cons_ne_nil _ _

/-- **No form begins another**: a text begins with the form of one character only. -/
theorem keyChar_append_inj {x y : Char} {s t : List Char}
    (h : keyChar x ++ s = keyChar y ++ t) : x = y ∧ s = t := by
  rw [keyChar, keyChar] at h
  -- Only escapes begin with a separator, so both characters are escaped or neither is.
  by_cases hx : isKeyChar x = true
  · rw [if_pos hx] at h
    by_cases hy : isKeyChar y = true
    · rw [if_pos hy] at h
      exact List.cons.inj h
    · rw [if_neg hy] at h
      exact absurd (List.cons.inj h).1 (ne_underscore_of_isKeyChar hx)
  · rw [if_neg hx] at h
    by_cases hy : isKeyChar y = true
    · rw [if_pos hy] at h
      exact absurd (List.cons.inj h).1.symm (ne_underscore_of_isKeyChar hy)
    · rw [if_neg hy] at h
      -- Escapes have the same width, and their digits tell the codes.
      have hlen : (hexFixed 2 x.toNat).length = (hexFixed 2 y.toNat).length := by
        rw [length_hexFixed, length_hexFixed]
      obtain ⟨hdigits, hrest⟩ := List.append_inj (List.cons.inj h).2 hlen
      have hcode := hexFixed_inj (toNat_lt_of_not_isKeyChar hx) (toNat_lt_of_not_isKeyChar hy)
        hdigits
      exact ⟨Char.toNat_inj.1 hcode, hrest⟩

/-! ## Texts -/

/-- **One encoded text begins another exactly if the texts do.** -/
theorem flatMap_keyChar_prefix_iff {s t : List Char} :
    s.flatMap keyChar <+: t.flatMap keyChar ↔ s <+: t := by
  constructor
  · intro h
    induction s generalizing t with
    | nil => exact List.nil_prefix
    | cons x s ih =>
        obtain ⟨rest, hrest⟩ := h
        rw [List.flatMap_cons, List.append_assoc] at hrest
        cases t with
        | nil => exact absurd (List.append_eq_nil_iff.1 hrest).1 (keyChar_ne_nil x)
        | cons y t =>
            rw [List.flatMap_cons] at hrest
            obtain ⟨rfl, hmore⟩ := keyChar_append_inj hrest
            exact List.cons_prefix_cons.2 ⟨rfl, ih ⟨rest, hmore⟩⟩
  · rintro ⟨rest, rfl⟩
    rw [List.flatMap_append]
    exact List.prefix_append _ _

/-- **A key form begins another exactly if the lower-case text does.** -/
theorem encodeChars_prefix_iff {s t : List Char} :
    encodeChars s <+: encodeChars t ↔ lowercaseAll s <+: lowercaseAll t :=
  flatMap_keyChar_prefix_iff

/-- **Texts have the same key form exactly if they are the same in lower case.** -/
theorem encodeChars_inj {s t : List Char} :
    encodeChars s = encodeChars t ↔ lowercaseAll s = lowercaseAll t := by
  constructor
  · intro h
    have hst : lowercaseAll s <+: lowercaseAll t :=
      encodeChars_prefix_iff.1 (h ▸ List.prefix_rfl)
    have hts : lowercaseAll t <+: lowercaseAll s :=
      encodeChars_prefix_iff.1 (h ▸ List.prefix_rfl)
    exact hst.eq_of_length_le hts.length_le
  · intro h
    rw [encodeChars, h]
    rfl

/-- Texts have the same key exactly if they are the same in lower case. -/
theorem encode_inj {s t : String} :
    encode s = encode t ↔ lowercaseAll s.toList = lowercaseAll t.toList := by
  rw [← String.toList_inj, toList_encode, toList_encode, encodeChars_inj]

/-- A query without its ends that are neither letters nor digits. -/
def trimmed (query : String) : List Char := trimBoth (!isAlphanumeric ·) query.toList

/-- A query is brought to the key form of what is left of it. -/
@[simp] theorem toList_normalizeQuery (query : String) :
    (normalizeQuery query).toList = encodeChars (trimmed query) := by
  rw [normalizeQuery, String.toList_ofList]
  rfl

/-- A text has the key form of a query exactly if it is the query in lower case. -/
theorem encode_eq_normalizeQuery_iff {s query : String} :
    encode s = normalizeQuery query ↔ lowercaseAll s.toList = lowercaseAll (trimmed query) := by
  rw [← String.toList_inj, toList_encode, toList_normalizeQuery, encodeChars_inj]

/-! ## Ordinals -/

/-- Whether a text is an ordinal: one or more decimal digits. -/
def IsOrdinal (n : String) : Prop := n ≠ "" ∧ ∀ c ∈ n.toList, c.isDigit = true

instance : DecidablePred IsOrdinal := fun n =>
  have := List.decidableBAll (fun c : Char => c.isDigit = true) n.toList
  inferInstanceAs (Decidable (n ≠ "" ∧ _))

/-- A text is split at a separator behind which no other stands. -/
theorem splitLast?_append {separator : Char} {last : List Char} (h : separator ∉ last)
    (first : List Char) :
    splitLast? separator (first ++ separator :: last) = some (first, last) := by
  -- From the end, the first separator is the one behind `first`.
  have hspan : (first ++ separator :: last).reverse.span (· != separator)
      = (last.reverse, separator :: first.reverse) := by
    have hlast : ∀ c ∈ last.reverse, (c != separator) = true := by
      intro c hc
      rw [bne_iff_ne]
      rintro rfl
      exact h (List.mem_reverse.1 hc)
    rw [List.reverse_append, List.reverse_cons, List.append_assoc, List.singleton_append,
      List.span_eq_takeWhile_dropWhile, List.takeWhile_append_of_pos hlast,
      List.dropWhile_append_of_pos hlast, List.takeWhile_cons_of_neg (by simp),
      List.dropWhile_cons_of_neg (by simp), List.append_nil]
  rw [splitLast?, hspan]
  simp only [List.reverse_reverse]

/-- **The ordinal is cut off, and nothing else.** -/
theorem stripOrdinal_append {n : String} (hn : IsOrdinal n) (stem : String) :
    stripOrdinal (stem ++ "_" ++ n) = stem := by
  have hseparator : '_' ∉ n.toList := fun h => absurd (hn.2 _ h) (by decide)
  have hne : n.toList ≠ [] := fun h => hn.1 (String.toList_eq_nil_iff.1 h)
  have hdigits : n.toList.all isDecimal = true := by
    rw [List.all_eq_true]
    intro c hc
    rw [isDecimal_eq_isDigit]
    exact hn.2 c hc
  have hkey : (stem ++ "_" ++ n).toList = stem.toList ++ '_' :: n.toList := by
    simp
  rw [stripOrdinal, hkey, splitLast?_append hseparator]
  simp only [if_pos (And.intro hne hdigits), String.ofList_toList]

/-- A text that is split is made up of the two parts and the separator. -/
theorem eq_append_of_splitLast? {separator : Char} {s first last : List Char}
    (h : splitLast? separator s = some (first, last)) : s = first ++ separator :: last := by
  rw [splitLast?, List.span_eq_takeWhile_dropWhile] at h
  have hsplit := List.takeWhile_append_dropWhile (p := (· != separator)) (l := s.reverse)
  cases hrest : s.reverse.dropWhile (· != separator) with
  | nil =>
      rw [hrest] at h
      cases h
  | cons c rest =>
      have hc : c = separator := by
        have hhead := List.head?_dropWhile_not (· != separator) s.reverse
        rw [hrest] at hhead
        simpa using hhead
      rw [hrest] at h hsplit
      cases h
      have hrev := congrArg List.reverse hsplit
      rw [List.reverse_reverse, hc] at hrev
      simpa using hrev.symm

/-- What is left of a key without its ordinal is at its beginning. -/
theorem stripOrdinal_isPrefix (key : String) : (stripOrdinal key).toList <+: key.toList := by
  rw [stripOrdinal]
  cases hsplit : splitLast? '_' key.toList with
  | none => exact List.prefix_rfl
  | some parts =>
      obtain ⟨stem, ordinal⟩ := parts
      by_cases hordinal : ordinal ≠ [] ∧ ordinal.all isDecimal = true
      · simp only [if_pos hordinal, String.toList_ofList]
        rw [eq_append_of_splitLast? hsplit]
        exact List.prefix_append _ _
      · simp only [if_neg hordinal]
        exact List.prefix_rfl

/-! ## Entries -/

/-- Whether an entry is stored under a name: its key is that of the name, with an ordinal. -/
def Entry.IsStoredUnder (entry : Entry) (name : String) : Prop :=
  ∃ n, IsOrdinal n ∧ entry.key = encode name ++ "_" ++ n

namespace Entry.IsStoredUnder

variable {entry : Entry} {name : String} (h : entry.IsStoredUnder name) (query : String)

include h

/-- What queries are compared with is the key form of the name. -/
theorem stem_eq : entry.stem = encode name := by
  obtain ⟨n, hn, hkey⟩ := h
  rw [Entry.stem, hkey, stripOrdinal_append hn]

/-- A query names the entry if it is the name, up to case. -/
theorem matchesExactly_eq : Partition.matchesExactly (normalizeQuery query) entry
    = decide (lowercaseAll name.toList = lowercaseAll (trimmed query)) := by
  rw [Partition.matchesExactly, h.stem_eq, Bool.eq_iff_iff, beq_iff_eq, decide_eq_true_iff,
    encode_eq_normalizeQuery_iff]

/-- The entry goes on behind a query if the name does, up to case. -/
theorem matchesBeginning_eq : Partition.matchesBeginning (normalizeQuery query) entry
    = decide (lowercaseAll (trimmed query) <+: lowercaseAll name.toList ∧
        lowercaseAll name.toList ≠ lowercaseAll (trimmed query)) := by
  rw [Partition.matchesBeginning, h.stem_eq, Bool.eq_iff_iff, Bool.and_eq_true, bne_iff_ne,
    List.isPrefixOf_iff_prefix, toList_normalizeQuery, toList_encode, encodeChars_prefix_iff, ne_eq,
    encode_eq_normalizeQuery_iff, decide_eq_true_iff]

end Entry.IsStoredUnder

/-- **Matching on keys is matching on names without regard to case.** The ordinal is cut off a key
and nothing else; key forms begin each other and are equal exactly as the lower-case texts are; so
among entries stored under names, a query names those whose name it is, and goes on to those whose
name it properly begins. -/
theorem matching_of_names (s t query : String) :
    (∀ n, IsOrdinal n → stripOrdinal (encode s ++ "_" ++ n) = encode s) ∧
      ((normalizeQuery query).toList <+: (encode s).toList ↔
        lowercaseAll (trimmed query) <+: lowercaseAll s.toList) ∧
      (encode s = normalizeQuery query ↔
        lowercaseAll s.toList = lowercaseAll (trimmed query)) ∧
      (encode s = encode t ↔ lowercaseAll s.toList = lowercaseAll t.toList) ∧
      ∀ (partition : Partition) (name : Entry → String),
        (∀ entry ∈ partition.entries, entry.IsStoredUnder (name entry)) →
          partition.exactMatches (normalizeQuery query)
              = partition.entries.filter (fun entry =>
                  lowercaseAll (name entry).toList = lowercaseAll (trimmed query)) ∧
            partition.prefixMatches (normalizeQuery query)
              = partition.entries.filter (fun entry =>
                  lowercaseAll (trimmed query) <+: lowercaseAll (name entry).toList ∧
                    lowercaseAll (name entry).toList ≠ lowercaseAll (trimmed query)) := by
  refine ⟨fun n hn => stripOrdinal_append hn _, ?_, encode_eq_normalizeQuery_iff, encode_inj,
    fun partition name hname => ⟨?_, ?_⟩⟩
  · rw [toList_normalizeQuery, toList_encode, encodeChars_prefix_iff]
  · exact List.filter_congr fun entry hentry => (hname entry hentry).matchesExactly_eq query
  · exact List.filter_congr fun entry hentry => (hname entry hentry).matchesBeginning_eq query

/-- A partition of entries stored under their names, of which one has an escape that looks like an
ordinal, and one a letter beyond ASCII. -/
def storedPartition : Partition where
  name := "all_6.js"
  entries := [⟨"mt_5f64_30", "mt_64", []⟩, ⟨"mt_1", "MT", []⟩, ⟨"größe_28_29_12", "Größe()", []⟩]
  nodup := by decide

/-- A query in other letters finds the entry of its name, and the entries that go on behind it. -/
theorem matching_of_names_storedPartition :
    IsOrdinal "30" ∧ stripOrdinal (encode "mt_64" ++ "_" ++ "30") = encode "mt_64" ∧
      storedPartition.exactMatches (normalizeQuery "::Mt ") = [⟨"mt_1", "MT", []⟩] ∧
      storedPartition.prefixMatches (normalizeQuery "GRÖSSE?") = [] ∧
      storedPartition.prefixMatches (normalizeQuery "(GRÖ)")
        = [⟨"größe_28_29_12", "Größe()", []⟩] := by
  have hordinal : IsOrdinal "30" := by decide
  have hstored : ∀ entry ∈ storedPartition.entries, entry.IsStoredUnder entry.name := by
    intro entry hentry
    simp only [storedPartition, List.mem_cons, List.not_mem_nil, or_false] at hentry
    rcases hentry with rfl | rfl | rfl
    · exact ⟨"30", by decide, by decide +kernel⟩
    · exact ⟨"1", by decide, by decide +kernel⟩
    · exact ⟨"12", by decide, by decide +kernel⟩
  have hmatching := fun query =>
    (matching_of_names "mt_64" "mt_64" query).2.2.2.2 storedPartition Entry.name hstored
  refine ⟨hordinal, (matching_of_names "mt_64" "mt_64" "").1 "30" hordinal, ?_, ?_, ?_⟩
  · rw [(hmatching "::Mt ").1]
    decide +kernel
  · rw [(hmatching "GRÖSSE?").2]
    decide +kernel
  · rw [(hmatching "(GRÖ)").2]
    decide +kernel

end DocSite.Search
