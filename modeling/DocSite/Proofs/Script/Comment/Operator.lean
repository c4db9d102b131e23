import DocSite.Proofs.Script.Comment.Token
import DocSite.Script.Grammar.Operator

/-! # Operators around a comment

The same operators are found in both readings. They are looked up in tables of signs, none of which
is the sign of a list. -/

namespace DocSite.Script

open DocSite.Text DocSite.Script.Parser

namespace Insertion

variable {i : Insertion} {s s' : List Char}

/-- An equals sign of an initialiser, and the text behind it. -/
def initialSign? : List Char → Option (Unit × List Char)
  | '=' :: '=' :: _ => none
  | '=' :: '>' :: _ => none
  | '=' :: rest => some ((), rest)
  | _ => none

/-- The same sign is found in a table, if its signs consist of characters inside of tokens. -/
theorem Begins.signIn?_alike {table : List (String × Sign)}
    (htable : ∀ row ∈ table, ∃ c given, row.1.toList = c :: given ∧ c ≠ '"' ∧ c ≠ '\'' ∧
      c ∉ openingSigns ∧ given.all isInner = true) (h : i.Begins s s') :
    i.Reads s s' (signIn? table s) (signIn? table s') := by
  induction table with
  | nil => exact .none
  | cons row table ih =>
      obtain ⟨text, sign⟩ := row
      obtain ⟨⟨c, given, htext, hdouble, hsingle, hopen, hgiven⟩, hrest⟩ :=
        List.forall_mem_cons.1 htable
      have hrow := h.chars?_alike ⟨hdouble, hsingle⟩ (Or.inr hopen) hgiven
      rw [signIn?, signIn?, htext]
      obtain ⟨hr, hr'⟩ | ⟨r, r', hr, hr', -, hleaves⟩ := eq_of_rel hrow
      · rw [hr, hr']
        exact ih hrest
      · rw [hr, hr']
        exact .some ⟨rfl, hleaves⟩

/-- Whether a text consists of characters inside of tokens, of which the first one begins no item of
a list. -/
def isOperatorText : List Char → Bool
  | [] => false
  | c :: given => c != '"' && c != '\'' && !openingSigns.contains c && given.all isInner

/-- The signs that may follow an operand consist of characters inside of tokens. -/
theorem signs_inner : ∀ row ∈ signs, ∃ c given, row.1.toList = c :: given ∧ c ≠ '"' ∧ c ≠ '\'' ∧
    c ∉ openingSigns ∧ given.all isInner = true := by
  have hall : signs.all (isOperatorText ·.1.toList) = true := by decide
  intro row hrow
  have h := List.all_eq_true.1 hall row hrow
  rw [isOperatorText.eq_def] at h
  split at h
  next => cases h
  next c given heq =>
    simp only [Bool.and_eq_true, bne_iff_ne, Bool.not_eq_true', List.contains_eq_mem,
      decide_eq_false_iff_not] at h
    exact ⟨c, given, heq, h.1.1.1, h.1.1.2, h.1.2, h.2⟩

/-- The same operator is found. -/
theorem Begins.binaryOperator?_alike (h : i.Begins s s') (takesIn : Bool) :
    i.Reads s s' (binaryOperator? takesIn s) (binaryOperator? takesIn s') := by
  rw [binaryOperator?, binaryOperator?]
  obtain ⟨hr, hr'⟩ | ⟨⟨sign, rest⟩, ⟨sign', rest'⟩, hr, hr', hsign, hleaves⟩ :=
    eq_of_rel (h.signIn?_alike signs_inner)
  · rw [hr, hr']
    obtain ⟨hw, hw'⟩ | ⟨⟨w, rest⟩, ⟨w', rest'⟩, hw, hw', hword, hleaves⟩ := eq_of_rel h.word?_alike
    · rw [hw, hw']
      exact .none
    · obtain rfl : w = w' := hword
      rw [hw, hw']
      simp only
      split
      · exact .some ⟨rfl, hleaves⟩
      · exact .none
  · obtain rfl : sign = sign' := hsign
    rw [hr, hr']
    cases sign with
    | operator level => exact .some ⟨rfl, hleaves⟩
    | combine => exact .none
    | other => exact .none

/-- The same assignment that combines with the old value is found. -/
theorem Begins.combiningAssignment?_alike (h : i.Begins s s') :
    i.Leaves s s' (combiningAssignment? s) (combiningAssignment? s') := by
  rw [combiningAssignment?, combiningAssignment?]
  obtain ⟨hr, hr'⟩ | ⟨⟨sign, rest⟩, ⟨sign', rest'⟩, hr, hr', hsign, hleaves⟩ :=
    eq_of_rel (h.signIn?_alike signs_inner)
  · rw [hr, hr']
    exact .none
  · obtain rfl : sign = sign' := hsign
    rw [hr, hr']
    cases sign with
    | combine => exact .some hleaves
    | operator level => exact .none
    | other => exact .none

/-- A question mark of a conditional is found in both readings or in none. -/
theorem Begins.conditional?_alike (h : i.Begins s s') :
    i.Leaves s s' (conditional? s) (conditional? s') := by
  have hdigit {c : Char} (hc : c.isDigit = true) : isInner c = true :=
    isInner_of_continuesWord (by simp [continuesWord, hc])
  have hpoint (t : List Char) : conditional? ('?' :: '.' :: t) =
      if t.head?.any Char.isDigit = true then some ('.' :: t) else none := by
    cases t <;> rfl
  have hmark {t : List Char} (hquestion : ∀ u, t ≠ '?' :: u) (hpoint : ∀ u, t ≠ '.' :: u) :
      conditional? ('?' :: t) = some t := by
    rw [conditional?]
    · exact hquestion
    · exact hpoint
  obtain ⟨rfl, rfl⟩ | ⟨c, t, t', rfl, rfl, htail⟩ := h.exists_cons
  · exact .none
  · by_cases hc : c = '?'
    · subst hc
      have ht := (htail (by decide) (by decide)).2 (by decide)
      have hlt (t : List Char) : t.length < ('?' :: t).length := Nat.lt_succ_self _
      obtain ⟨u, u', rfl, rfl, -⟩ | ⟨hquestion, hquestion'⟩ := ht.exists_cons (c := '?') (by decide)
      · exact .none
      · obtain ⟨u, u', rfl, rfl, hu⟩ | ⟨hne, hne'⟩ := ht.exists_cons (c := '.') (by decide)
        · rw [hpoint, hpoint, hu.any_head? fun _ => hdigit]
          split
          · exact .some ⟨ht.follows, hlt _, hlt _⟩
          · exact .none
        · rw [hmark hquestion hne, hmark hquestion' hne']
          exact .some ⟨ht.follows, hlt _, hlt _⟩
    · have hnone (t : List Char) : conditional? (c :: t) = none := by
        rw [conditional?]
        all_goals exact fun _ heq => hc (List.cons.inj heq).1
      rw [hnone, hnone]
      exact .none

/-- An equals sign of an initialiser is found in both readings or in none. -/
theorem Begins.initialSign?_alike (h : i.Begins s s') :
    i.Reads s s' (initialSign? s) (initialSign? s') := by
  have hsign {t : List Char} (hequals : ∀ u, t ≠ '=' :: u) (harrow : ∀ u, t ≠ '>' :: u) :
      initialSign? ('=' :: t) = some ((), t) := by
    rw [initialSign?]
    · exact hequals
    · exact harrow
  obtain ⟨rfl, rfl⟩ | ⟨c, t, t', rfl, rfl, htail⟩ := h.exists_cons
  · exact .none
  · by_cases hc : c = '='
    · subst hc
      have ht := (htail (by decide) (by decide)).2 (by decide)
      obtain ⟨u, u', rfl, rfl, -⟩ | ⟨hequals, hequals'⟩ := ht.exists_cons (c := '=') (by decide)
      · exact .none
      · obtain ⟨u, u', rfl, rfl, -⟩ | ⟨harrow, harrow'⟩ := ht.exists_cons (c := '>') (by decide)
        · exact .none
        · rw [hsign hequals harrow, hsign hequals' harrow']
          exact .some ⟨rfl, ht.follows, Nat.lt_succ_self _, Nat.lt_succ_self _⟩
    · have hnone (t : List Char) : initialSign? (c :: t) = none := by
        rw [initialSign?]
        all_goals exact fun _ heq => hc (List.cons.inj heq).1
      rw [hnone, hnone]
      exact .none

end Insertion

end DocSite.Script
