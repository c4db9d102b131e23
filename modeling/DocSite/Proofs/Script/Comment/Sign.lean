import DocSite.Proofs.Script.Comment.Phrase

/-! # Prefix operators around a comment

The text of a prefix operator with its operand is kept. Where a comment stands in it, one of the
signs that the comment touches does too (`Begins.take_alike`), and then the text is no numeral. -/

namespace DocSite.Script

open DocSite.Text

/-! ## Characters of numerals -/

/-- Words that are numbers are parts of tokens. -/
theorem isInner_of_isWordText {s : List Char} (h : Numeral.IsWordText s) :
    ∀ c ∈ s, isInner c = true := by
  have hwords : ["inf".toList, "infinity".toList, "nan".toList].all (·.all isInner) = true := by
    decide
  intro c hc
  have hlower := List.all_eq_true.1 (List.all_eq_true.1 hwords _ h) c.toLower
    (List.mem_map_of_mem hc)
  by_cases hupper : c.isUpper = true
  · have hletter : c.isAlpha = true := Bool.or_eq_true_iff.2 (Or.inl hupper)
    exact isInner_of_continuesWord (by simp [continuesWord, beginsWord, hletter])
  · have hkeep : c.toLower = c := dif_neg fun h => hupper (decide_eq_true h)
    rwa [hkeep] at hlower

/-- Numerals hold no signs of lists. -/
theorem isInner_of_isNumeral {text : List Char} (h : Numeral.IsNumeral text) :
    ∀ c ∈ text, isInner c = true := by
  cases h with
  | @marked mark radix n digits hmark hdigits hfits =>
      have hmarks : ∀ entry ∈ Numeral.radixMarks, isInner entry.1 = true := by decide
      have hmem := (Numeral.isSome_digitsValue?_iff.1 (Option.isSome_of_eq_some hdigits)).mem
      refine List.forall_mem_cons.2 ⟨by decide, List.forall_mem_cons.2 ⟨?_, fun c hc => ?_⟩⟩
      · exact hmarks (mark, radix) hmark
      · exact Insertion.isInner_of_isDigitOf (hmem c hc)
  | @signed sign body hsign hbody =>
      refine List.forall_mem_append.2 ⟨fun c hc => ?_, ?_⟩
      · rcases Numeral.eq_of_mem_sign hsign hc with rfl | rfl <;> decide
      · rcases hbody with hbody | hbody
        · exact isInner_of_isWordText hbody
        · have hmarks : Numeral.decimalMarks.all isInner = true := by decide
          intro c hc
          rcases hbody.mem c hc with hdigit | hmark
          · exact isInner_of_continuesWord (continuesWord_of_isDecimal hdigit)
          · exact List.all_eq_true.1 hmarks c hmark

/-- The signs of lists. -/
def listSigns : List Char := openingSigns ++ closingSigns

/-- A text is no negated number if a character in it is neither blank nor a part of a numeral. -/
theorem not_isNegatedNumeral_of_mem {text : List Char} {c : Char} (hinner : isInner c = false)
    (hspace : isWhiteSpace c = false) (hminus : c ≠ '-') (hseparator : c ≠ '_') (h : c ∈ text) :
    ¬IsNegatedNumeral text := by
  rintro ⟨rest, rfl, hnumeral⟩
  have hrest : c ∈ rest := (List.mem_cons.1 h).resolve_left hminus
  have hdrop {s : List Char} (h : c ∈ s) : c ∈ s.dropWhile isWhiteSpace := by
    rw [← List.takeWhile_append_dropWhile (p := isWhiteSpace) (l := s), List.mem_append] at h
    refine h.resolve_left fun htake => ?_
    rw [List.mem_takeWhile_imp htake] at hspace
    cases hspace
  have htrim : c ∈ trim rest :=
    List.mem_reverse.2 (hdrop (List.mem_reverse.2 (hdrop hrest)))
  have hcleaned : c ∈ Numeral.withoutSeparators (trim rest) :=
    List.mem_filter.2 ⟨htrim, by simpa using hseparator⟩
  exact Bool.false_ne_true (hinner ▸ isInner_of_isNumeral hnumeral c hcleaned)

/-- A text with the sign of a list is no negated number. -/
theorem not_isNegatedNumeral_of_sign {text : List Char} {c : Char} (hc : c ∈ listSigns)
    (h : c ∈ text) : ¬IsNegatedNumeral text := by
  have hsigns : listSigns.all (fun c => !isInner c && !isWhiteSpace c && c != '-' && c != '_')
      = true := by
    decide
  have hsign := List.all_eq_true.1 hsigns c hc
  simp only [Bool.and_eq_true, Bool.not_eq_true', bne_iff_ne] at hsign
  exact not_isNegatedNumeral_of_mem hsign.1.1.1 hsign.1.1.2 hsign.1.2 hsign.2 h

/-- A text with a slash, hence with a comment, is no negated number. -/
theorem not_isNegatedNumeral_of_slash {text : List Char} (h : '/' ∈ text) :
    ¬IsNegatedNumeral text :=
  not_isNegatedNumeral_of_mem (by decide) (by decide) (by decide) (by decide) h

/-! ## Texts between two places -/

/-- In front of the comment or behind it there is the sign of a list. -/
theorem Front.exists_sign {behind s : List Char} (h : Front behind s) :
    (∃ c ∈ s, c ∈ listSigns) ∨ Closes behind := by
  have hmore {s t : List Char} (h : (∃ c ∈ s, c ∈ listSigns) ∨ Closes behind) :
      (∃ c ∈ t ++ s, c ∈ listSigns) ∨ Closes behind :=
    h.imp_left fun ⟨c, hc, hsign⟩ => ⟨c, List.mem_append_right t hc, hsign⟩
  induction h with
  | lastChar hc h hsign =>
      exact hsign.imp_left fun hopen => ⟨_, List.mem_cons_self, List.mem_append_left _ hopen⟩
  | lastString ht h hsign => exact Or.inr hsign
  | @char c s hc hremark _ ih => exact hmore (t := [c]) ih
  | string ht _ ih => exact hmore ih
  | @blank c s hc _ ih => exact hmore (t := [c]) ih
  | comment k _ ih => exact hmore ih
  | @line body ending s hbody hending _ ih =>
      have hline := hmore (t := '/' :: '/' :: (body ++ ending)) ih
      simpa using hline

namespace Insertion

variable {i : Insertion} {s s' t t' : List Char}

/-- The texts between two places are equal, or the first one holds the sign of a list. -/
theorem Begins.take_alike (hs : i.Begins s s') (ht : i.Follows t t') (hlen : t.length < s.length) :
    s.take (s.length - t.length) = s'.take (s'.length - t'.length) ∨
      ∃ c ∈ s.take (s.length - t.length), c ∈ listSigns := by
  cases hs with
  | past h =>
      obtain ⟨rfl, -⟩ := ht.past_of_length (hlen.trans_le h)
      exact Or.inl rfl
  | @front x hx hbegins =>
      have hsame {y : List Char} (hy : y.length < x.length) (a : List Char) :
          (x ++ a).take ((x ++ a).length - (y ++ a).length) = x.take (x.length - y.length) := by
        rw [List.length_append, List.length_append, Nat.add_sub_add_right,
          List.take_append_of_le_length (Nat.sub_le _ _)]
      cases ht with
      | @front y hy =>
          rw [List.length_append, List.length_append] at hlen
          left
          rw [hsame (by omega), hsame (by omega)]
      | @tail y hy =>
          rw [List.length_append, List.length_append] at hlen
          left
          rw [hsame (by omega), hsame (by omega)]
      -- The operand goes on behind the comment, hence runs over the sign on either side of it.
      | @past t hpast =>
          have hsplit : (x ++ i.behind).take ((x ++ i.behind).length - t.length)
              = x ++ i.behind.take (i.behind.length - t.length) := by
            have hbehind := length_skipBlank_le i.behind
            rw [List.length_append, List.take_append, List.take_of_length_le (by omega)]
            congr 2
            omega
          right
          rw [hsplit]
          rcases hx.exists_sign with ⟨c, hc, hsign⟩ | ⟨c, hc, rest, hskip⟩
          · exact ⟨c, List.mem_append_left _ hc, hsign⟩
          · obtain ⟨skipped, heq⟩ := skipBlank_suffix i.behind
            rw [hskip] at heq hpast
            refine ⟨c, List.mem_append_right _ ?_, List.mem_append_right _ hc⟩
            obtain ⟨m, hm⟩ : ∃ m, i.behind.length - t.length - skipped.length = m + 1 := by
              rw [← heq, List.length_append]
              rw [List.length_cons] at hpast ⊢
              exact ⟨rest.length - t.length, by omega⟩
            rw [← heq, List.take_append, heq, hm, List.take_succ_cons]
            exact List.mem_append_right _ List.mem_cons_self

end Insertion

end DocSite.Script
