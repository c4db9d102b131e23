import DocSite.Proofs.Script.Comment.Place
import DocSite.Proofs.Script.Comment.Reach
import DocSite.Proofs.Script.Quote

/-! # Tokens around a comment

Two readings of a script, with and without a comment in it, find the same tokens
(`Insertion.Reads`): in front of the comment because no token reaches to its place, behind it
because the texts are equal. -/

namespace DocSite.Script

open DocSite.Text DocSite.Script.Parser

/-! ## Words and string literals in front of a comment -/

/-- Characters of words may be parts of tokens. -/
theorem isInner_of_continuesWord {c : Char} (h : continuesWord c = true) : isInner c = true := by
  have hnone : (['/', '"', '\''] ++ openingSigns ++ closingSigns).all (!continuesWord ·)
      = true := by
    decide
  have hne : c ∉ ['/', '"', '\''] ++ openingSigns ++ closingSigns := fun hmem => by
    have hc := List.all_eq_true.1 hnone c hmem
    rw [h] at hc
    cases hc
  simp only [List.mem_append, not_or] at hne
  simp [isInner, isScriptBlank_of_continuesWord h, hne]

/-- Parts of tokens may be dropped from a text in front of the comment. -/
theorem Onward.dropWhile {behind s : List Char} {p : Char → Bool}
    (hp : ∀ c, p c = true → isInner c = true) (h : Onward behind s) :
    Onward behind (s.dropWhile p) := by
  induction s with
  | nil => exact h
  | cons c rest ih =>
      rw [List.dropWhile_cons]
      split
      next hc => exact ih (h.of_cons (hp c hc))
      next => exact h

/-- What stands in front of the comment is no backslash. -/
theorem Onward.ne_backslash {behind s : List Char} {c : Char} (h : Onward behind (c :: s)) :
    c ≠ '\\' := by
  rintro rfl
  rcases h with h | ⟨⟨hgap, -⟩, -⟩
  · obtain ⟨c, rest, heq, ⟨hplain, -⟩ | hquote | hskip⟩ := h.exists_cons
    · cases heq
      exact absurd hplain (by decide)
    · cases heq
      exact absurd hquote (by decide)
    · cases heq
      exact absurd hskip (by decide)
  · exact absurd (hgap.head rfl) (by decide)

/-- A word in front of the comment does not reach to it. -/
theorem Onward.endsWord_dropWhile {behind s r : List Char} (h : Onward behind s)
    (hr : r = behind ∨ ∃ more, r = '/' :: more) :
    EndsWord (s.dropWhile continuesWord ++ r) := by
  have hdrop : Onward behind (s.dropWhile continuesWord) :=
    Onward.dropWhile (fun _ => isInner_of_continuesWord) h
  intro c rest heq
  refine ⟨?_, ?_⟩
  · rw [← Bool.not_eq_true]
    intro hc
    obtain ⟨more, hmore, -⟩ := hdrop.eq_cons hr (isInner_of_continuesWord hc) heq
    have hhead := List.head?_dropWhile_not continuesWord s
    rw [hmore] at hhead
    simp [hc] at hhead
  · rintro rfl
    obtain ⟨more, hmore, -⟩ := hdrop.eq_cons hr (by decide) heq
    exact (hmore ▸ hdrop).ne_backslash rfl

/-- Where no word begins there is none. -/
theorem word?_of_not_beginsWord {c : Char} (hc : beginsWord c = false) (hslash : c ≠ '\\')
    (s : List Char) : word? (c :: s) = none := by
  have hescape : unicodeEscape? (c :: s) = none := by
    rw [unicodeEscape?]
    · exact fun _ h => hslash (List.cons.inj h).1
    · exact fun _ _ _ _ _ h => hslash (List.cons.inj h).1
  rw [word?, hescape, hc]
  rfl

/-- A text does not change what is split off in front of it. -/
theorem span_append {p : Char → Bool} {s a b : List Char} {c : Char} (h : s.span p = (a, c :: b))
    (r : List Char) :
    (s ++ r).span p = (a, c :: (b ++ r)) := by
  rw [List.span_eq_takeWhile_dropWhile] at h ⊢
  obtain ⟨htake, hdrop⟩ := Prod.mk.inj h
  have hlen : (s.takeWhile p).length ≠ s.length := by
    intro hlen
    have hs := congrArg List.length (List.takeWhile_append_dropWhile (p := p) (l := s))
    rw [List.length_append, hlen, hdrop, List.length_cons] at hs
    omega
  rw [List.takeWhile_append, if_neg hlen, htake, List.dropWhile_append, hdrop]
  rfl

/-- A text does not change what an escape sequence in front of it is. -/
theorem escape?_append {s rest : List Char} {e : Escape} (h : escape? s = some (e, rest))
    (hne : rest ≠ []) (r : List Char) : escape? (s ++ r) = some (e, rest ++ r) := by
  rw [escape?.eq_def] at h
  split at h
  next a b t =>
    simp only [List.cons_append]
    rw [escape?]
    grind
  next t =>
    split at h
    next d digits after hspan =>
      cases h
      simp only [List.cons_append]
      rw [escape?, span_append hspan]
      rfl
    next => cases h
  next a b c d t hu =>
    simp only [List.cons_append]
    rw [escape?]
    · grind
    · grind
  next c t h1 h2 h3 =>
    simp only [List.cons_append]
    rw [escape?.eq_def]
    grind
  next => cases h

/-- A text does not change where a comment in front of it ends. -/
theorem afterBlock_append {broken : Bool} {s : List Char} (hne : (afterBlock broken s).2 ≠ [])
    (r : List Char) :
    afterBlock broken (s ++ r) = ((afterBlock broken s).1, (afterBlock broken s).2 ++ r) := by
  fun_induction afterBlock broken s with
  | case1 => rfl
  | case2 broken c rest hclose ih =>
      rw [List.cons_append, afterBlock, ih hne]
      -- A star in front of the end would leave nothing behind the comment.
      intro more hc hmore
      cases rest with
      | nil => exact hne rfl
      | cons x rest =>
          obtain ⟨rfl, -⟩ := List.cons.inj hmore
          exact hclose rest hc rfl
  | case3 => exact absurd rfl hne

/-- A text does not change what stands behind a comment in front of it. -/
theorem afterComment?_append {s t : List Char} (h : afterComment? s = some t) (hne : t ≠ [])
    (r : List Char) : afterComment? (s ++ r) = some (t ++ r) := by
  rw [afterComment?.eq_def] at h
  split at h
  next rest =>
    cases h
    show some ((rest ++ r).dropWhile (!endsLineComment ·)) = _
    rw [List.dropWhile_append, List.isEmpty_eq_false_iff.2 hne]
    rfl
  next rest =>
    cases h
    show some (afterBlock false (rest ++ r)).2 = _
    rw [afterBlock_append hne]
  next => cases h

/-- A text does not change what stands behind a gap in front of it. -/
theorem afterGap?_append {d : Char} {s t : List Char} (h : afterGap? d s = some t) (hne : t ≠ [])
    (r : List Char) : afterGap? d (s ++ r) = some (t ++ r) := by
  have hbehind : s.dropWhile isScriptBlank ≠ [] := by
    intro hnil
    rw [afterGap?, hnil] at h
    cases h
  obtain ⟨c, more, hmore⟩ := List.exists_cons_of_ne_nil hbehind
  have hdrop : (s ++ r).dropWhile isScriptBlank = c :: more ++ r := by
    rw [List.dropWhile_append, hmore]
    rfl
  rw [afterGap?, hmore] at h
  rw [afterGap?, hdrop]
  simp only [List.cons_append, List.head?_cons, Option.some.injEq] at h ⊢
  by_cases hc : c = d
  · rw [if_pos hc] at h ⊢
    cases h
    rfl
  · rw [if_neg hc] at h ⊢
    exact afterComment?_append h hne r

/-- A text does not change what the parts of a string literal in front of it are. -/
theorem stringParts?_append {d : Char} {n m : Nat} {s rest : List Char} {parts : List StringPart}
    (h : stringParts? d n s = some (parts, rest)) (hnm : n ≤ m) (r : List Char) :
    stringParts? d m (s ++ r) = some (parts, rest ++ r) := by
  -- A part at the end of the text would leave the literal open.
  have hne {n : Nat} {s : List Char} {read : List StringPart × List Char}
      (h : stringParts? d n s = some read) : s ≠ [] := by
    rintro rfl
    cases n <;> cases h
  induction n generalizing m s parts with
  | zero => cases h
  | succ n ih =>
      obtain ⟨m, rfl⟩ : ∃ k, m = k + 1 := ⟨m - 1, by omega⟩
      have hnm := Nat.le_of_succ_le_succ hnm
      cases stringStep_of_stringParts? h with
      | close hslash =>
          rw [List.cons_append, stringParts?, if_pos rfl]
          exact hslash
      | escape hread hparts =>
          exact stringParts?_escape (escape?_append hread (hne hparts) r) (ih hparts hnm)
      | run hc hrun hparts =>
          obtain ⟨x, tail, rfl⟩ := List.exists_cons_of_ne_nil (hne hparts)
          exact stringParts?_run hc (span_append hrun r) (ih hparts hnm)
      | gap hc hdelim hslash hgap hparts =>
          exact stringParts?_gap hc hdelim hslash (afterGap?_append hgap (hne hparts) r)
            (ih hparts hnm)

/-- A text does not change what the string literal in front of it is. -/
theorem string?_append {s rest : List Char} {parts : List StringPart}
    (h : string? s = some (parts, rest)) (r : List Char) :
    string? (s ++ r) = some (parts, rest ++ r) := by
  rw [string?.eq_def] at h
  split at h
  next s => exact stringParts?_append h (by simp) r
  next s => exact stringParts?_append h (by simp) r
  next => cases h

/-! ## The same token in both readings -/

namespace Insertion

variable {i : Insertion} {α : Type} {s s' : List Char}

/-- Whether two readings at the given texts find the same token, or both find none. -/
def Reads (i : Insertion) (s s' : List Char) :
    Option (α × List Char) → Option (α × List Char) → Prop :=
  Option.Rel fun r r' => r.1 = r'.1 ∧ i.Follows r.2 r'.2 ∧ r.2.length < s.length ∧
    r'.2.length < s'.length

/-- Behind the comment the same is found. -/
theorem reads_self {r : Option (α × List Char)} (hs : s.length ≤ (skipBlank i.behind).length)
    (h : ∀ a rest, r = some (a, rest) → rest.length < s.length) : i.Reads s s r r := by
  cases r with
  | none => exact .none
  | some r =>
      have hlt := h r.1 r.2 rfl
      exact .some ⟨rfl, .past (hlt.trans_le hs), hlt, hlt⟩

/-- Characters that go on with a token are found in both readings or in none. -/
theorem Continues.chars?_alike {given : List Char} (hgiven : given.all isInner = true)
    (h : i.Continues s s') : Option.Rel (fun r r' => i.Continues r.2 r'.2)
      (chars? given s) (chars? given s') := by
  induction given generalizing s s' with
  | nil => exact .some h
  | cons c given ih =>
      rw [List.all_cons, Bool.and_eq_true] at hgiven
      obtain ⟨hc, hgiven⟩ := hgiven
      have hne {s : List Char} (h : ∀ t, s ≠ c :: t) : chars? (c :: given) s = none := by
        cases s with
        | nil => rfl
        | cons x t =>
            rw [chars?, if_neg]
            rintro rfl
            exact h t rfl
      obtain ⟨t, t', rfl, rfl, ht⟩ | ⟨hs, hs'⟩ := h.exists_cons hc
      · rw [chars?, chars?, if_pos rfl, if_pos rfl]
        exact ih hgiven ht
      · rw [hne hs, hne hs']
        exact .none

/-- Given characters are found in both readings or in none. -/
theorem Begins.chars?_alike {c : Char} {given : List Char} (hquote : c ≠ '"' ∧ c ≠ '\'')
    (hopen : given = [] ∨ c ∉ openingSigns) (hgiven : given.all isInner = true)
    (h : i.Begins s s') :
    i.Reads s s' (chars? (c :: given) s) (chars? (c :: given) s') := by
  obtain ⟨rfl, rfl⟩ | ⟨x, t, t', rfl, rfl, htail⟩ := h.exists_cons
  · exact .none
  · by_cases hx : c = x
    · subst hx
      obtain ⟨hfollows, hcontinues⟩ := htail hquote.1 hquote.2
      rw [chars?, chars?, if_pos rfl, if_pos rfl]
      rcases hopen with rfl | hopen
      · exact .some ⟨rfl, hfollows, Nat.lt_succ_self _, Nat.lt_succ_self _⟩
      · obtain ⟨hr, hr'⟩ | ⟨r, r', hr, hr', hrest⟩ :=
          eq_of_rel ((hcontinues hopen).chars?_alike hgiven)
        · rw [hr, hr']
          exact .none
        · have hlen := length_chars? hr
          have hlen' := length_chars? hr'
          rw [hr, hr']
          exact .some ⟨rfl, hrest.follows, by rw [List.length_cons]; omega,
            by rw [List.length_cons]; omega⟩
    · rw [chars?, chars?, if_neg hx, if_neg hx]
      exact .none

/-- The next characters are the same, as far as they may be parts of a token. -/
theorem Continues.view (h : i.Continues s s') :
    (∃ c t t', s = c :: t ∧ s' = c :: t' ∧ isInner c = true ∧ i.Continues t t') ∨
      (∀ c t, s = c :: t → isInner c = false) ∧ ∀ c t, s' = c :: t → isInner c = false := by
  by_cases hs : ∃ c t, isInner c = true ∧ (s = c :: t ∨ s' = c :: t)
  · obtain ⟨c, t, hc, heq⟩ := hs
    obtain ⟨t, t', rfl, rfl, ht⟩ | ⟨hne, hne'⟩ := h.exists_cons hc
    · exact Or.inl ⟨c, t, t', rfl, rfl, hc, ht⟩
    · exact (heq.elim (hne t) (hne' t)).elim
  · refine Or.inr ⟨fun c t heq => ?_, fun c t heq => ?_⟩
    · exact Bool.eq_false_iff.2 fun hc => hs ⟨c, t, hc, Or.inl heq⟩
    · exact Bool.eq_false_iff.2 fun hc => hs ⟨c, t, hc, Or.inr heq⟩

/-! ## Words -/

/-- The same word is found. -/
theorem Begins.word?_alike (h : i.Begins s s') : i.Reads s s' (word? s) (word? s') := by
  cases h with
  | @front s h ht =>
      obtain ⟨c, rest, rfl, -, -⟩ := ht
      cases hc : beginsWord c with
      | true =>
          have hinner := isInner_of_continuesWord (c := c) (by simp [continuesWord, hc])
          have honward : Onward i.behind rest := Onward.of_cons (Or.inl h) hinner
          -- The word ends in front of the comment, with or without it.
          have hread {r : List Char} (hr : r = i.behind ∨ ∃ more, r = '/' :: more) :
              word? (c :: rest ++ r) = some (c :: rest.takeWhile continuesWord,
                rest.dropWhile continuesWord ++ r) := by
            have hall : (rest.takeWhile continuesWord).all continuesWord = true :=
              List.all_takeWhile
            have hword := word?_append hc hall (honward.endsWord_dropWhile hr)
            rwa [List.cons_append, ← List.append_assoc, List.takeWhile_append_dropWhile] at hword
          have hword := hread (Or.inl rfl)
          have hword' := hread (Or.inr i.exists_commented_eq)
          have hdrop : Onward i.behind (rest.dropWhile continuesWord) :=
            Onward.dropWhile (fun _ => isInner_of_continuesWord) honward
          rw [hword, hword']
          exact .some ⟨rfl, (Continues.front hdrop).follows, length_word? hword,
            length_word? hword'⟩
      | false =>
          have hslash : c ≠ '\\' := Onward.ne_backslash (Or.inl h)
          rw [List.cons_append, List.cons_append, word?_of_not_beginsWord hc hslash,
            word?_of_not_beginsWord hc hslash]
          exact .none
  | past h => exact reads_self h fun _ _ => length_word?

/-- The same word is found, with what is known of it. -/
theorem Begins.asWord?_alike (h : i.Begins s s') : i.Reads s s' (asWord? s) (asWord? s') := by
  have hnone {s : List Char} (h : word? s = none) : asWord? s = none := by
    rw [asWord?]
    split
    next heq =>
      rw [h] at heq
      cases heq
    next => rfl
  obtain ⟨hr, hr'⟩ | ⟨⟨w, rest⟩, ⟨w', rest'⟩, hr, hr', hw, hrest⟩ := eq_of_rel h.word?_alike
  · rw [hnone hr, hnone hr']
    exact .none
  · obtain ⟨bound, hbound, hread⟩ := asWord?_of_word? hr
    obtain ⟨bound', hbound', hread'⟩ := asWord?_of_word? hr'
    obtain rfl : bound = bound' := by
      cases bound
      cases bound'
      cases hbound
      cases hbound'
      cases hw
      rfl
    rw [hread, hread']
    exact .some ⟨rfl, hrest⟩

/-- A word of given spelling stands in both readings or in none. -/
theorem Begins.startsWithWord_eq (h : i.Begins s s') (spelling : String) :
    startsWithWord spelling s = startsWithWord spelling s' := by
  rw [startsWithWord, startsWithWord]
  obtain ⟨hr, hr'⟩ | ⟨⟨w, rest⟩, ⟨w', rest'⟩, hr, hr', hw, -⟩ := eq_of_rel h.word?_alike
  · rw [hr, hr']
  · obtain rfl : w = w' := hw
    rw [hr, hr']

/-! ## String literals and other tokens -/

/-- Where no quote stands there is no string literal. -/
theorem string?_of_ne {c : Char} (hdouble : c ≠ '"') (hsingle : c ≠ '\'') (s : List Char) :
    string? (c :: s) = none := by
  rw [string?]
  · exact fun _ h => hdouble (List.cons.inj h).1
  · exact fun _ h => hsingle (List.cons.inj h).1

/-- The same string literal is found. -/
theorem Begins.string?_alike (h : i.Begins s s') : i.Reads s s' (string? s) (string? s') := by
  cases h with
  | @front s h ht =>
      obtain ⟨c, rest, hs, hblank, hslash⟩ := ht
      have hplain (hc : isPlainChar c = true) : i.Reads (s ++ i.behind) (s ++ i.commented)
          (string? (s ++ i.behind)) (string? (s ++ i.commented)) := by
        obtain ⟨-, -, -, -, hdouble, hsingle, -⟩ := isPlainChar_iff.1 hc
        rw [hs, List.cons_append, List.cons_append, string?_of_ne hdouble hsingle,
          string?_of_ne hdouble hsingle]
        exact .none
      -- A string literal stands in front of the comment as a whole, so that is all that is read.
      have hquoted {t more : List Char} {parts : List StringPart}
          (ht : string? t = some (parts, []))
          (hfollows : i.Follows (more ++ i.behind) (more ++ i.commented)) :
          i.Reads (t ++ more ++ i.behind) (t ++ more ++ i.commented)
            (string? (t ++ more ++ i.behind)) (string? (t ++ more ++ i.commented)) := by
        have hread := string?_append ht (more ++ i.behind)
        have hread' := string?_append ht (more ++ i.commented)
        rw [List.append_assoc, List.append_assoc, hread, hread']
        exact .some ⟨rfl, hfollows, length_string? hread, length_string? hread'⟩
      cases h with
      | lastChar hc h hsign =>
          cases hs
          exact hplain hc
      | char hc hremark h =>
          cases hs
          exact hplain hc
      | lastString ht h hsign => exact hquoted ht (.tail h)
      | string ht h => exact hquoted ht (.front h)
      | blank hc h =>
          cases hs
          exact absurd (isScriptBlank_of_isAsciiBlank hc) (by simp [hblank])
      | comment k h =>
          cases hs
          exact absurd rfl hslash
      | line hbody hending h =>
          cases hs
          exact absurd rfl hslash
  | past h => exact reads_self h fun _ _ => length_string?

/-- The same regular expression is found. -/
theorem Begins.regex?_alike (h : i.Begins s s') : i.Reads s s' (regex? s) (regex? s') := by
  cases h with
  | front h ht =>
      obtain ⟨c, rest, rfl, hblank, hslash⟩ := ht
      have hnone (t : List Char) : regex? (c :: t) = none := by
        rw [regex?]
        · exact fun _ h => hslash (List.cons.inj h).1
        · exact fun _ h => hslash (List.cons.inj h).1
      rw [List.cons_append, List.cons_append, hnone, hnone]
      exact .none
  | past h => exact reads_self h fun _ _ => length_regex?

/-- In front of the comment no markup comment begins. -/
theorem markupComment?_of_front {behind s r : List Char} (h : Front behind s)
    (ht : Front.BeginsToken s) (hr : r = behind ∨ ∃ more, r = '/' :: more) :
    markupComment? (s ++ r) = none := by
  rw [markupComment?.eq_def]
  split
  next more heq =>
    -- A less-than sign is not plain.
    obtain ⟨c, rest, rfl, ⟨hplain, -⟩ | hquote | hskip⟩ := h.exists_cons
    · obtain rfl := (List.cons.inj heq).1
      exact absurd hplain (by decide)
    · obtain rfl := (List.cons.inj heq).1
      exact absurd hquote (by decide)
    · obtain rfl := (List.cons.inj heq).1
      exact absurd hskip (by decide)
  next more heq =>
    -- The three characters stand in front of the comment together, where they are excluded.
    have honward : Onward behind s := Or.inl h
    obtain ⟨t, rfl, ht'⟩ := honward.eq_cons hr (by decide) heq
    have honward := honward.of_cons (by decide)
    obtain ⟨u, rfl, hu⟩ := honward.eq_cons hr (by decide) ht'.symm
    have honward := honward.of_cons (by decide)
    obtain ⟨w, rfl, -⟩ := honward.eq_cons hr (by decide) hu.symm
    have hquote {t rest : List Char} {parts : List StringPart}
        (ht : string? t = some (parts, []))
        (heq : '-' :: '-' :: '>' :: w = t ++ rest) : False := by
      obtain ⟨c, more, rfl, hc⟩ := exists_quote_of_string? ht
      obtain rfl := (List.cons.inj heq).1
      exact absurd hc (by decide)
    exfalso
    generalize hs : '-' :: '-' :: '>' :: w = s at h
    cases h with
    | lastChar hc h hsign =>
        cases hs
        exact absurd (h.1.head rfl) (by decide)
    | lastString ht h hsign => exact hquote ht hs
    | char hc hremark h =>
        cases hs
        exact hremark ⟨w, rfl⟩
    | string ht h => exact hquote ht hs
    | blank hc h =>
        cases hs
        exact absurd hc (by decide)
    | comment k h => cases hs
    | line hbody hending h => cases hs
  next => rfl

/-- Whether two readings at the given texts leave texts behind a token, or both do not. -/
def Leaves (i : Insertion) (s s' : List Char) : Option (List Char) → Option (List Char) → Prop :=
  Option.Rel fun r r' => i.Follows r r' ∧ r.length < s.length ∧ r'.length < s'.length

/-- A markup comment begins in both readings or in none. -/
theorem Begins.markupComment?_alike (h : i.Begins s s') :
    i.Leaves s s' (markupComment? s) (markupComment? s') := by
  cases h with
  | front h ht =>
      rw [markupComment?_of_front h ht (Or.inl rfl),
        markupComment?_of_front h ht (Or.inr i.exists_commented_eq)]
      exact .none
  | past h =>
      cases hr : markupComment? s with
      | none => exact .none
      | some rest =>
          have hlen := length_markupComment? hr
          exact .some ⟨.past (hlen.trans_le h), hlen, hlen⟩

/-- Where no markup comments are skipped, more or fewer of them could be. -/
theorem skipTriviaUpTo_of_none {s : List Char} (h : markupComment? (skipBlank s) = none) (n : Nat) :
    skipTriviaUpTo n s = skipBlank s := by
  cases n with
  | zero => rfl
  | succ n => rw [skipTriviaUpTo, h]

/-- What is skipped does not depend on the bound. -/
theorem skipTriviaUpTo_eq {n m : Nat} {s : List Char} (hn : s.length ≤ n) (hm : s.length ≤ m) :
    skipTriviaUpTo n s = skipTriviaUpTo m s := by
  induction n generalizing m s with
  | zero =>
      obtain rfl := List.eq_nil_of_length_eq_zero (Nat.le_zero.1 hn)
      rw [skipTriviaUpTo_of_none rfl, skipTriviaUpTo_of_none rfl]
  | succ n ih =>
      cases hr : markupComment? (skipBlank s) with
      | none => rw [skipTriviaUpTo_of_none hr, skipTriviaUpTo_of_none hr]
      | some rest =>
          have hlen := (length_markupComment? hr).trans_le (length_skipBlank_le s)
          cases m with
          | zero => omega
          | succ m =>
              rw [skipTriviaUpTo, skipTriviaUpTo, hr]
              exact ih (by omega) (by omega)

/-- Skipping markup comments too does not make a text longer. -/
theorem length_skipTrivia_le (s : List Char) : (skipTrivia s).length ≤ (skipBlank s).length := by
  have hupTo (n : Nat) (s : List Char) :
      (skipTriviaUpTo n s).length ≤ (skipBlank s).length := by
    induction n generalizing s with
    | zero => exact le_rfl
    | succ n ih =>
        rw [skipTriviaUpTo]
        split
        next rest hr =>
          have hlen := length_markupComment? hr
          have hblank := length_skipBlank_le rest
          have hrest := ih rest
          omega
        next => exact le_rfl
  exact hupTo s.length s

/-- What is skipped with markup comments begins with what is skipped without them. -/
theorem skipTrivia_congr {s s' : List Char} (h : skipBlank s = skipBlank s') :
    skipTrivia s = skipTrivia s' := by
  cases hr : markupComment? (skipBlank s) with
  | none => rw [skipTrivia_of_none hr, skipTrivia_of_none (h ▸ hr), h]
  | some rest =>
      have hlen := (length_markupComment? hr).trans_le (length_skipBlank_le s)
      have hlen' := (length_markupComment? (h ▸ hr)).trans_le (length_skipBlank_le s')
      obtain ⟨n, hn⟩ := Nat.exists_eq_succ_of_ne_zero (Nat.ne_zero_of_lt hlen)
      obtain ⟨m, hm⟩ := Nat.exists_eq_succ_of_ne_zero (Nat.ne_zero_of_lt hlen')
      rw [skipTrivia, skipTrivia, hn, hm, skipTriviaUpTo, skipTriviaUpTo, ← h, hr]
      exact skipTriviaUpTo_eq (by omega) (by omega)

/-- Behind what is skipped with markup comments, the readings stand in front of a token. -/
theorem Begins.trivia {s s' : List Char} (h : i.Begins (skipBlank s) (skipBlank s')) :
    i.Begins (skipTrivia s) (skipTrivia s') := by
  obtain ⟨hr, hr'⟩ | ⟨rest, rest', hr, hr', -⟩ := eq_of_rel h.markupComment?_alike
  · rwa [skipTrivia_of_none hr, skipTrivia_of_none hr']
  · -- The markup comment stands behind the comment, where both texts are equal.
    generalize hu : skipBlank s = u at h hr
    generalize hu' : skipBlank s' = u' at h
    cases h with
    | front h ht =>
        rw [markupComment?_of_front h ht (Or.inl rfl)] at hr
        cases hr
    | past h =>
        rw [skipTrivia_congr (hu'.trans hu.symm)]
        exact .past ((length_skipTrivia_le s).trans (hu ▸ h))

end Insertion

end DocSite.Script
