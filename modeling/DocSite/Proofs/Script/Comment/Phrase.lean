import DocSite.Proofs.Script.Comment.Alike
import DocSite.Proofs.Script.Comment.Number
import DocSite.Proofs.Script.Comment.Operator
import DocSite.Proofs.Script.Comment.StatementEnd

/-! # Phrases around a comment

Mostly a phrase begins somewhere in front of a token (`Insertion.Leads`) and ends behind one
(`Insertion.Follows`). A phrase that begins behind the comment ends there too (`Insertion.Past`).
Every token is read alike in both readings. -/

namespace DocSite.Script

open DocSite.Text DocSite.Script.Parser

namespace Insertion

/-! ## Between tokens -/

variable (i : Insertion)

/-- Two readings stand somewhere in front of a token, or at the end. -/
def Leads : Correspondence := fun s s' => i.Begins (skipBlank s) (skipBlank s')

/-- Two readings stand behind the comment and a token behind it. -/
def Past : Correspondence := fun s s' => s = s' ∧ s.length < (skipBlank i.behind).length

/-- Two readings stand behind the comment. -/
def Same : Correspondence := fun s s' => s = s' ∧ s.length ≤ (skipBlank i.behind).length

/-- Whether two parsers read a phrase alike that begins with a token. -/
abbrev Opens {α : Type} (n : Nat) (E : α → α → Prop) (p p' : Parser α) : Prop :=
  Alike i.Leads i.Follows n 1 E p p'

/-- Whether two parsers, behind a token, go on alike. -/
abbrev Keeps {α : Type} (n : Nat) (E : α → α → Prop) (p p' : Parser α) : Prop :=
  Alike i.Follows i.Follows n 0 E p p'

variable {i} {α β : Type} {R Q : Correspondence} {n d : Nat} {E : α → α → Prop}
  {F : β → β → Prop} {p p' : Parser α} {s s' : List Char}

/-- Behind a token there is a place in front of the next one. -/
theorem Follows.leads (h : i.Follows s s') : i.Leads s s' := h.begins

/-- In front of a token nothing is skipped before the comment. -/
theorem Begins.leads (h : i.Begins s s') : i.Leads s s' := h.begins

/-- Behind the comment the texts are equal. -/
theorem Past.follows (h : i.Past s s') : i.Follows s s' := by
  obtain ⟨rfl, hlen⟩ := h
  exact .past hlen

/-- Behind the comment and a token, the readings are behind the comment. -/
theorem Past.same (h : i.Past s s') : i.Same s s' := ⟨h.1, h.2.le⟩

/-- Behind the comment there is a place in front of the next token. -/
theorem Same.leads (h : i.Same s s') : i.Leads s s' := by
  obtain ⟨rfl, hlen⟩ := h
  exact (Begins.past hlen).leads

/-- Texts that are too short to hold the comment stand behind it. -/
theorem Follows.past_of_length (h : i.Follows s s')
    (hlen : s.length < (skipBlank i.behind).length) : i.Past s s' := by
  have hbehind := length_skipBlank_le i.behind
  cases h with
  | front h =>
      rw [List.length_append] at hlen
      omega
  | tail h =>
      rw [List.length_append] at hlen
      omega
  | past h => exact ⟨rfl, h⟩

/-- A phrase that begins with a token may stand behind another. -/
theorem Opens.keeps (h : i.Opens n E p p') : i.Keeps n E p p' :=
  h.mono (fun _ _ => Follows.leads) (fun _ _ h => h) le_rfl (Nat.zero_le 1)

/-- A phrase that begins with a token may begin with this one. -/
theorem Opens.at (h : i.Opens n E p p') (hs : i.Begins s s') :
    Alike (At s s') i.Follows n 1 E p p' :=
  h.pre fun _ _ ⟨ht, ht'⟩ => ht ▸ ht' ▸ hs.leads

/-- A phrase that begins with a token may stand behind one that has been read. -/
theorem Opens.later (h : i.Opens (n + 1) E p p') : i.Keeps n E p p' :=
  h.keeps.less (Nat.le_succ n)

/-- Phrases that begin with tokens may stand in a row. -/
theorem Opens.row (h : i.Opens n E p p') : Alike i.Follows i.Follows n 1 E p p' :=
  h.pre fun _ _ => Follows.leads

/-- A phrase that goes on behind a token may do so at this place. -/
theorem Keeps.at (h : i.Keeps n E p p') (hs : i.Follows s s') :
    Alike (At s s') i.Follows n 0 E p p' :=
  h.pre fun _ _ ⟨ht, ht'⟩ => ht ▸ ht' ▸ hs

/-- A phrase that goes on behind a token may do so in front of this one. -/
theorem before (h : Alike R Q n d E p p') : Alike (Before R s s') Q n d E p p' :=
  h.pre fun _ _ h => h.1

/-- A phrase behind which too few characters are left ends behind the comment. -/
theorem past_of_length {R' : Correspondence} (h : Alike R i.Follows n d E p p')
    (hR : ∀ s s', R' s s' → R s s')
    (hlen : ∀ s s', R' s s' → s.length < (skipBlank i.behind).length + d) :
    Alike R' i.Past n d E p p' := by
  refine ⟨fun c c' hrest hfound hn => ?_⟩
  obtain ⟨hr, hr'⟩ | ⟨r, r', hr, hr', hend⟩ := eq_of_rel (h.run c c' (hR _ _ hrest) hfound hn)
  · rw [hr, hr']
    exact .none
  · rw [hr, hr']
    have hread := hend.length
    have hpast := hlen _ _ hrest
    exact .some ⟨hend.value, hend.rest.past_of_length (by omega), hend.found, hend.length⟩

/-- A phrase that begins behind the comment and a token ends behind the comment. -/
theorem past_of_follows (h : Alike R i.Follows n d E p p')
    (hR : ∀ s s', i.Past s s' → R s s') : Alike i.Past i.Past n d E p p' :=
  past_of_length h hR fun _ _ hs => hs.2.trans_le (Nat.le_add_right _ d)

/-- A phrase that begins with a token behind the comment ends behind it. -/
theorem Opens.same (h : i.Opens n E p p') : Alike i.Same i.Past n 1 E p p' :=
  past_of_length h (fun _ _ => Same.leads) fun _ _ hs => Nat.lt_succ_of_le hs.2

/-- Behind the comment, readings are behind a token. -/
theorem follows_of_past (h : Alike R i.Past n d E p p') : Alike R i.Follows n d E p p' :=
  h.mono (fun _ _ h => h) (fun _ _ => Past.follows) le_rfl le_rfl

/-- A phrase that begins with a token may stand behind the comment. -/
theorem Opens.past (h : i.Opens n E p p') : Alike i.Past i.Past n 1 E p p' :=
  past_of_follows h fun _ _ h => h.follows.leads

/-- Blanks and comments are skipped. -/
theorem leads_blank : Alike i.Leads i.Begins n 0 Eq Parser.blank Parser.blank :=
  ⟨fun c _ hrest hfound _ => .some ⟨rfl, hrest, hfound, length_skipBlank_le c.rest⟩⟩

/-- Blanks, comments and markup comments are skipped. -/
theorem leads_trivia : Alike i.Leads i.Begins n 0 Eq Parser.trivia Parser.trivia :=
  ⟨fun c _ hrest hfound _ => .some ⟨rfl, Begins.trivia hrest, hfound,
    (length_skipTrivia_le c.rest).trans (length_skipBlank_le c.rest)⟩⟩

/-- A phrase that begins with a token may begin with markup comments. -/
theorem Opens.behind_trivia (h : i.Opens n E p p') :
    i.Opens n E (do Parser.trivia; p) (do Parser.trivia; p') :=
  leads_trivia.bind fun _ _ _ => h.pre fun _ _ => Begins.leads

/-- What depends on the next token, in front of which blanks and comments are skipped. -/
theorem blank_rest_bind {f f' : List Char → Parser β}
    (hf : ∀ s s', i.Begins s s' → s.length < n → Alike (At s s') Q n d F (f s) (f' s')) :
    Alike i.Leads Q n d F (do Parser.blank; f (← rest)) (do Parser.blank; f' (← rest)) :=
  leads_blank.bind fun _ _ _ => Alike.rest_bind hf

/-- What depends on the next token, in front of which markup comments too are skipped. -/
theorem trivia_rest_bind {f f' : List Char → Parser β}
    (hf : ∀ s s', i.Begins s s' → s.length < n → Alike (At s s') Q n d F (f s) (f' s')) :
    Alike i.Leads Q n d F (do Parser.trivia; f (← rest)) (do Parser.trivia; f' (← rest)) :=
  leads_trivia.bind fun _ _ _ => Alike.rest_bind hf

/-- What depends on the next token, which is not read. -/
theorem ahead_bind (hR : ∀ s s', R s s' → i.Leads s s') {f f' : List Char → Parser β}
    (hf : ∀ s s', i.Begins s s' → s.length < n → Alike (Before R s s') Q n d F (f s) (f' s')) :
    Alike R Q n d F (ahead >>= f) (ahead >>= f') := by
  refine ⟨fun c c' hrest hfound hlen => ?_⟩
  have hahead (c : Cursor) : ahead c = some (skipBlank c.rest, c) := rfl
  rw [bind_of_eq (hahead c), bind_of_eq (hahead c')]
  exact (hf _ _ (hR _ _ hrest) ((length_skipBlank_le _).trans_lt hlen)).run c c' ⟨hrest, rfl, rfl⟩
    hfound hlen

/-- What depends on the token behind another one. -/
theorem keeps_ahead_bind {f f' : List Char → Parser β}
    (hf : ∀ s s', i.Begins s s' → s.length < n →
      Alike (Before i.Follows s s') i.Follows n 0 F (f s) (f' s')) :
    i.Keeps n F (ahead >>= f) (ahead >>= f') :=
  ahead_bind (fun _ _ => Follows.leads) hf

/-- Going on behind a token that stands here. -/
theorem goTo_at {t t' : List Char} (h : i.Follows t t') (hlen : t.length < s.length) :
    Alike (At s s') i.Follows n 1 Eq (goTo t) (goTo t') := by
  refine Alike.goTo ?_
  rintro _ _ ⟨rfl, rfl⟩
  exact ⟨h, hlen⟩

/-- Such a phrase may go on behind the comment. -/
theorem Opens.past_keeps (h : i.Opens n E p p') : Alike i.Past i.Past n 0 E p p' :=
  h.past.atLeast (Nat.zero_le 1)

/-- A phrase that begins behind the comment may begin at this place. -/
theorem past_at (h : Alike i.Past Q n d E p p') (hs : i.Past s s') : Alike (At s s') Q n d E p p' :=
  h.pre fun _ _ ⟨ht, ht'⟩ => ht ▸ ht' ▸ hs

/-- Going on behind the comment. -/
theorem goTo_past {t t' : List Char} (h : i.Past t t') (hlen : t.length < s.length) :
    Alike (At s s') i.Past n 1 Eq (goTo t) (goTo t') := by
  refine Alike.goTo ?_
  rintro _ _ ⟨rfl, rfl⟩
  exact ⟨h, hlen⟩

/-- Going on behind a token that stands behind what is skipped. -/
theorem goTo_before {t t' : List Char} (h : i.Follows t t') (hlen : t.length < s.length) :
    Alike (Before R s s') i.Follows n 1 Eq (goTo t) (goTo t') := by
  refine Alike.goTo ?_
  rintro u _ ⟨-, rfl, rfl⟩
  exact ⟨h, hlen.trans_le (length_skipBlank_le u)⟩

/-- Going on behind the comment and what is skipped. -/
theorem goTo_before_past {t t' : List Char} (h : i.Past t t') (hlen : t.length < s.length) :
    Alike (Before R s s') i.Past n 1 Eq (goTo t) (goTo t') := by
  refine Alike.goTo ?_
  rintro u _ ⟨-, rfl, rfl⟩
  exact ⟨h, hlen.trans_le (length_skipBlank_le u)⟩

/-! ## Tokens -/

section

variable {read : List Char → Option (α × List Char)}

/-- What is found at the next character. -/
theorem immediate_alike (h : ∀ s s', R s s' → i.Reads s s' (read s) (read s')) :
    Alike R i.Follows n 1 Eq (Parser.immediate read) (Parser.immediate read) := by
  refine ⟨fun c c' hrest hfound _ => ?_⟩
  rw [Parser.immediate, Parser.immediate]
  obtain ⟨hr, hr'⟩ | ⟨r, r', hr, hr', hvalue, hfollows, hlen, -⟩ := eq_of_rel (h _ _ hrest)
  · rw [hr, hr']
    exact .none
  · rw [hr, hr']
    exact .some ⟨hvalue, hfollows, hfound, hlen⟩

/-- What is found at the next character behind the comment. -/
theorem past_immediate (h : ∀ s a rest, read s = some (a, rest) → rest.length < s.length) :
    Alike i.Past i.Past n 1 Eq (Parser.immediate read) (Parser.immediate read) := by
  refine past_of_follows (immediate_alike (R := i.Past) ?_) fun _ _ h => h
  rintro s _ ⟨rfl, hlen⟩
  exact reads_self hlen.le fun a rest => h s a rest

/-- A token behind the comment. -/
theorem past_token (h : ∀ s a rest, read s = some (a, rest) → rest.length < s.length) :
    Alike i.Past i.Past n 1 Eq (Parser.token read) (Parser.token read) := by
  have hblank : Alike i.Past i.Past n 0 Eq Parser.blank Parser.blank := by
    refine ⟨fun c c' ⟨hrest, hlen⟩ hfound _ => ?_⟩
    have hskip := length_skipBlank_le c.rest
    exact .some ⟨rfl, ⟨congrArg skipBlank hrest, hskip.trans_lt hlen⟩, hfound, hskip⟩
  exact hblank.bind fun _ _ _ => past_immediate h

/-- A token. -/
theorem opens_token (h : ∀ s s', i.Begins s s' → i.Reads s s' (read s) (read s')) :
    i.Opens n Eq (Parser.token read) (Parser.token read) :=
  leads_blank.bind fun _ _ _ => immediate_alike h

end

/-- A word. -/
theorem opens_word : i.Opens n Eq Parser.word Parser.word :=
  opens_token fun _ _ h => h.word?_alike

/-- A word that names something. -/
theorem opens_name : i.Opens n Eq Parser.name Parser.name :=
  opens_token fun _ _ h => h.asWord?_alike

/-- A string literal. -/
theorem opens_string : i.Opens n Eq Parser.string Parser.string :=
  opens_token fun _ _ h => h.string?_alike

/-- The equals sign of an initialiser. -/
theorem opens_equals : i.Opens n Eq Parser.equals Parser.equals :=
  opens_token fun _ _ h => Begins.initialSign?_alike h

/-- Whether characters are no quotes, are parts of a token behind the first one, and are alone if
they begin an item of a list. -/
def isSymbol : List Char → Bool
  | [] => false
  | c :: given => c != '"' && c != '\'' && (given.isEmpty || !openingSigns.contains c)
      && given.all isInner

/-- A word begins in both readings or in none. -/
theorem Begins.isSome_word?_eq (h : i.Begins s s') : (word? s).isSome = (word? s').isSome := by
  obtain ⟨hr, hr'⟩ | ⟨_, _, hr, hr', -⟩ := eq_of_rel h.word?_alike
  · rw [hr, hr']
  · rw [hr, hr']
    rfl

/-- A string literal begins in both readings or in none. -/
theorem Begins.isSome_string?_eq (h : i.Begins s s') :
    (string? s).isSome = (string? s').isSome := by
  obtain ⟨hr, hr'⟩ | ⟨_, _, hr, hr', -⟩ := eq_of_rel h.string?_alike
  · rw [hr, hr']
  · rw [hr, hr']
    rfl

/-- The next character is the same. -/
theorem Begins.head?_eq (h : i.Begins s s') : s.head? = s'.head? := by
  obtain ⟨rfl, rfl⟩ | ⟨c, t, t', rfl, rfl, -⟩ := h.exists_cons <;> rfl

/-- Characters that are excluded in front of the comment stand behind it. -/
theorem Begins.past_of_cons {c : Char} {t t' : List Char} (hplain : isPlainChar c = false)
    (hquote : c ≠ '"' ∧ c ≠ '\'') (h : i.Begins (c :: t) (c :: t')) : i.Past t t' := by
  generalize hs : c :: t = s at h
  generalize hs' : c :: t' = s' at h
  cases h with
  | front h ht =>
      obtain ⟨x, rest, rfl, hblank, hslash⟩ := ht
      obtain rfl := (List.cons.inj hs).1
      obtain ⟨_, _, heq, ⟨hc, -⟩ | hc | hc⟩ := h.exists_cons
      · cases heq
        rw [hc] at hplain
        cases hplain
      · cases heq
        exact absurd hc (by simp [hquote])
      · cases heq
        exact absurd hc (by simp [hblank, hslash])
  | past h =>
      obtain rfl := (List.cons.inj (hs.trans hs'.symm)).2
      subst hs
      exact ⟨rfl, h⟩

/-- Such characters are found in both readings or in none. -/
theorem Begins.symbol?_alike {given : List Char} (hgiven : isSymbol given = true)
    (h : i.Begins s s') : i.Reads s s' (chars? given s) (chars? given s') := by
  cases given with
  | nil => cases hgiven
  | cons c given =>
      simp only [isSymbol, Bool.and_eq_true, bne_iff_ne, Bool.or_eq_true, List.isEmpty_iff,
        Bool.not_eq_true', List.contains_eq_mem, decide_eq_false_iff_not] at hgiven
      exact h.chars?_alike hgiven.1.1 hgiven.1.2 hgiven.2

/-- Given characters. -/
theorem opens_symbol {given : List Char} (h : isSymbol given = true) :
    i.Opens n Eq (Parser.symbol given) (Parser.symbol given) :=
  opens_token fun _ _ hs => hs.symbol?_alike h

/-- Given characters stand at the next token in both readings or in none. -/
theorem Begins.sign (given : List Char) (hgiven : isSymbol given = true) (h : i.Begins s s') :
    (∃ t t', s = given ++ t ∧ s' = given ++ t' ∧ i.Follows t t') ∨
      (∀ t, s ≠ given ++ t) ∧ ∀ t, s' ≠ given ++ t := by
  have hne {s : List Char} (hr : chars? given s = none) (t : List Char) : s ≠ given ++ t := by
    rintro rfl
    rw [chars?_append] at hr
    cases hr
  obtain ⟨hr, hr'⟩ | ⟨r, r', hr, hr', -, hfollows, -⟩ := eq_of_rel (h.symbol?_alike hgiven)
  · exact Or.inr ⟨hne hr, hne hr'⟩
  · exact Or.inl ⟨_, _, eq_append_of_chars? hr, eq_append_of_chars? hr', hfollows⟩

/-- If they begin no item of a list, more of the token may follow in both readings. -/
theorem Begins.part (c : Char) (given : List Char) (hc : c ≠ '"' ∧ c ≠ '\'' ∧ c ∉ openingSigns)
    (hgiven : given.all isInner = true) (h : i.Begins s s') :
    (∃ t t', s = c :: given ++ t ∧ s' = c :: given ++ t' ∧ i.Continues t t') ∨
      (∀ t, s ≠ c :: given ++ t) ∧ ∀ t, s' ≠ c :: given ++ t := by
  obtain ⟨rfl, rfl⟩ | ⟨x, u, u', rfl, rfl, htail⟩ := h.exists_cons
  · exact Or.inr ⟨fun _ => nofun, fun _ => nofun⟩
  by_cases hx : x = c
  · subst hx
    have hu := (htail hc.1 hc.2.1).2 hc.2.2
    have hne {s : List Char} (hr : chars? given s = none) (t : List Char) :
        x :: s ≠ x :: given ++ t := by
      intro heq
      have hfound := chars?_append given t
      rw [← show s = given ++ t from (List.cons.inj heq).2, hr] at hfound
      cases hfound
    obtain ⟨hr, hr'⟩ | ⟨r, r', hr, hr', ht⟩ := eq_of_rel (hu.chars?_alike hgiven)
    · exact Or.inr ⟨hne hr, hne hr'⟩
    · refine Or.inl ⟨_, _, ?_, ?_, ht⟩
      · exact congrArg (x :: ·) (eq_append_of_chars? hr)
      · exact congrArg (x :: ·) (eq_append_of_chars? hr')
  · exact Or.inr ⟨fun _ heq => hx (List.cons.inj heq).1, fun _ heq => hx (List.cons.inj heq).1⟩

/-- A keyword. -/
theorem opens_keyword (spelling : String) :
    i.Opens n Eq (Parser.keyword spelling) (Parser.keyword spelling) :=
  opens_word.followed fun w w' hw => Alike.guard (by rw [hw])

/-- Whether a word follows. -/
theorem wordAhead_alike (hR : ∀ s s', R s s' → i.Leads s s') :
    Alike R R n 0 Eq Parser.wordAhead Parser.wordAhead :=
  ahead_bind hR fun _ _ h _ =>
    (Alike.pure h.isSome_word?_eq).mono (fun _ _ h => h) (fun _ _ h => h.1) le_rfl le_rfl

/-- Whether a word follows a token. -/
theorem keeps_wordAhead : i.Keeps n Eq Parser.wordAhead Parser.wordAhead :=
  wordAhead_alike fun _ _ => Follows.leads

/-- The end of a statement. -/
theorem keeps_statementEnd (joins : Bool) :
    i.Keeps n Eq (Parser.statementEnd joins) (Parser.statementEnd joins) :=
  (opens_symbol (by decide)).keeps.orElse (Alike.require fun _ _ h => h.endsStatement_alike joins)

end Insertion

end DocSite.Script
