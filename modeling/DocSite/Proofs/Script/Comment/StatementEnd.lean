import DocSite.Proofs.Script.Comment.Ending

/-! # Statement ends around a comment

A statement ends behind a token in both readings or in neither
(`Insertion.Follows.endsStatement_alike`). -/

namespace DocSite.Script

open DocSite.Text DocSite.Script.Parser

/-! ## In front of the comment and a token -/

/-- Whether the end of a statement is judged alike at two texts, in all the ways above. -/
structure EndsAlike (joins : Bool) (s s' : List Char) : Prop where
  /-- As the beginning of a line. -/
  line : startsLine s = startsLine s'
  /-- On the way to the first comment. -/
  here : endsHere joins s = endsHere joins s'
  /-- Behind the first comment. -/
  behind : endsBehind joins s = endsBehind joins s'
  /-- Over comments. -/
  overComments : ∀ broken, endsOver joins broken s = endsOver joins broken s'
  /-- Behind a block comment. -/
  behindComment : ∀ broken, endsOverBehind joins broken s = endsOverBehind joins broken s'

namespace EndsAlike

variable {joins : Bool} {s s' : List Char}

/-- The statement ends at both texts or at none. -/
theorem endsStatement_eq (h : EndsAlike joins s s') :
    endsStatement joins s = endsStatement joins s' := by
  rw [Script.endsStatement_eq, Script.endsStatement_eq, h.here, h.behind]

/-- Blanks in front make no difference. -/
theorem blank {c : Char} (hc : isAsciiBlank c = true) (h : EndsAlike joins s s') :
    EndsAlike joins (c :: s) (c :: s') := by
  have hinLine : endsInLine joins (c :: s) = endsInLine joins (c :: s') := by
    rw [endsInLine, endsInLine, h.line, h.here]
  have hne (s : List Char) : ∀ t, c :: s ≠ '/' :: t := by
    intro t heq
    cases heq
    exact absurd hc (by decide)
  refine ⟨?_, ?_, ?_, fun broken => ?_, fun broken => ?_⟩
  · rw [startsLine_blank hc, startsLine_blank hc, h.line]
  · cases hbreak : isLineBreak c with
    | true => rw [endsHere_break joins hbreak, endsHere_break joins hbreak, h.line]
    | false => rw [endsHere_blank joins hc hbreak, endsHere_blank joins hc hbreak, h.here]
  · have hblank := isScriptBlank_of_isAsciiBlank hc
    rw [endsBehind_blank joins hblank, endsBehind_blank joins hblank, h.behind]
  · rw [endsOver_blank joins hc, endsOver_blank joins hc, h.overComments]
  · rw [endsOverBehind_of_ne joins (hne s), endsOverBehind_of_ne joins (hne s'), endsAt, endsAt,
      hinLine]

/-- Block comments in front make no difference. -/
theorem comment (k : BlockComment) (h : EndsAlike joins s s') :
    EndsAlike joins (k.chars ++ s) (k.chars ++ s') := by
  have hover (broken : Bool) :
      endsOver joins broken (k.chars ++ s) = endsOver joins broken (k.chars ++ s') := by
    rw [endsOver_comment, endsOver_comment, h.behindComment]
  refine ⟨?_, ?_, ?_, hover, hover⟩
  · rw [startsLine_comment, startsLine_comment, h.line]
  · rw [endsHere_comment, endsHere_comment, h.behindComment]
  · rw [endsBehind_comment, endsBehind_comment, h.endsStatement_eq]

/-- Comments to the end of the line in front make no difference. -/
theorem lineComment {body ending : List Char} (hbody : ∀ c ∈ body, endsLineComment c = false)
    (hending : ending = ['\n'] ∨ ending = ['\r', '\n']) (h : EndsAlike joins s s') :
    EndsAlike joins ('/' :: '/' :: (body ++ (ending ++ s)))
      ('/' :: '/' :: (body ++ (ending ++ s'))) := by
  have hover (broken : Bool) : endsOver joins broken ('/' :: '/' :: (body ++ (ending ++ s)))
      = endsOver joins broken ('/' :: '/' :: (body ++ (ending ++ s'))) := by
    have hrest := h.overComments broken
    rw [endsOver, endsOver] at hrest ⊢
    rw [look_line hbody hending, look_line hbody hending, hrest]
  have hbreak : EndsAlike joins (ending ++ s) (ending ++ s') := by
    rcases hending with rfl | rfl
    · exact h.blank (by decide)
    · exact (h.blank (by decide)).blank (by decide)
  refine ⟨?_, ?_, ?_, hover, hover⟩
  · rw [startsLine_line hbody hending, startsLine_line hbody hending, h.line]
  · rw [endsHere_slash, endsHere_slash]
    exact hover false
  · rw [endsBehind_line joins hbody hending, endsBehind_line joins hbody hending,
      hbreak.endsStatement_eq]

/-- In front of a token only what it is matters. -/
theorem token {c : Char} (hblank : isScriptBlank c = false) (hslash : c ≠ '/')
    (h : beginsStatement (c :: s) = beginsStatement (c :: s')) :
    EndsAlike joins (c :: s) (c :: s') := by
  have hascii := isAsciiBlank_of_not_isScriptBlank hblank
  have hbreak := isLineBreak_of_not_isScriptBlank hblank
  have hinLine : endsInLine joins (c :: s) = endsInLine joins (c :: s') := by
    rw [endsInLine, endsInLine, hbreak, hascii]
    rfl
  have hne (s : List Char) : ∀ t, c :: s ≠ '/' :: t := fun t heq => hslash (List.cons.inj heq).1
  refine ⟨?_, ?_, ?_, fun broken => ?_, fun broken => ?_⟩
  · rw [startsLine_other hascii hslash, startsLine_other hascii hslash, h]
  · rw [endsHere_other joins hslash hbreak hascii, endsHere_other joins hslash hbreak hascii]
  · rw [endsBehind_token joins hblank hslash, endsBehind_token joins hblank hslash]
  · rw [endsOver, endsOver, look_other hascii hslash, look_other hascii hslash, endsAt, endsAt,
      hinLine]
  · rw [endsOverBehind_of_ne joins (hne s), endsOverBehind_of_ne joins (hne s'), endsAt, endsAt,
      hinLine]

end EndsAlike

/-- Whether no letter follows a word. -/
theorem wordEnds_eq (s : List Char) : relationWord.wordEnds s = !s.head?.any Char.isAlpha := by
  cases s <;> rfl

/-- What begins with `i` is one of two words if the rest of it is there. -/
theorem relationWord_eq (s : List Char) : relationWord ('i' :: s) =
    match chars? ['n', 's', 't', 'a', 'n', 'c', 'e', 'o', 'f'] s with
    | some (_, rest) => relationWord.wordEnds rest
    | none =>
        match chars? ['n'] s with
        | some (_, rest) => relationWord.wordEnds rest
        | none => false := by
  cases hlong : chars? ['n', 's', 't', 'a', 'n', 'c', 'e', 'o', 'f'] s with
  | some r =>
      rw [eq_append_of_chars? hlong]
      rfl
  | none =>
      cases hshort : chars? ['n'] s with
      | some r =>
          obtain rfl := eq_append_of_chars? hshort
          rw [List.singleton_append, relationWord]
          intro rest heq
          -- The longer word begins with the shorter one and has been tried before it.
          have hfound := chars?_append ['n', 's', 't', 'a', 'n', 'c', 'e', 'o', 'f'] rest
          rw [List.singleton_append, heq] at hlong
          exact absurd (hlong.symm.trans hfound) (by simp)
      | none =>
          have hne (rest : List Char) : s ≠ 'n' :: rest := by
            rintro rfl
            exact absurd (hshort.symm.trans (chars?_append ['n'] rest)) (by simp)
          rw [relationWord]
          · exact fun rest heq => hne _ (List.cons.inj heq).2
          · exact fun rest heq => hne _ (List.cons.inj heq).2

namespace Insertion

variable {i : Insertion} {s s' : List Char}

/-- What begins with `i` is one of two words in both readings or in none. -/
theorem Continues.relationWord_alike (h : i.Continues s s') :
    relationWord ('i' :: s) = relationWord ('i' :: s') := by
  have hends {s s' : List Char} (h : i.Continues s s') :
      relationWord.wordEnds s = relationWord.wordEnds s' := by
    rw [wordEnds_eq, wordEnds_eq, h.any_head?]
    intro c hc
    exact isInner_of_continuesWord (by simp [continuesWord, beginsWord, hc])
  rw [relationWord_eq, relationWord_eq]
  have hlong : ['n', 's', 't', 'a', 'n', 'c', 'e', 'o', 'f'].all isInner = true := by decide
  have hshort : ['n'].all isInner = true := by decide
  obtain ⟨hr, hr'⟩ | ⟨r, r', hr, hr', hrest⟩ := eq_of_rel (h.chars?_alike hlong)
  · obtain ⟨hn, hn'⟩ | ⟨r, r', hn, hn', hrest⟩ := eq_of_rel (h.chars?_alike hshort)
    · rw [hr, hr', hn, hn']
    · rw [hr, hr', hn, hn']
      exact hends hrest
  · rw [hr, hr']
    exact hends hrest

/-- A statement begins in both readings or in none. -/
theorem Begins.beginsStatement_alike (h : i.Begins s s') :
    beginsStatement s = beginsStatement s' := by
  obtain ⟨rfl, rfl⟩ | ⟨c, t, t', rfl, rfl, htail⟩ := h.exists_cons
  · rfl
  -- Behind four signs the next character decides, if it can be a part of the same token.
  have hsecond {x : Char} {p : Char → Bool} (negated : Bool)
      (hx : x ≠ '"' ∧ x ≠ '\'' ∧ x ∉ openingSigns)
      (hp : ∀ c, p c = true → isInner c = true)
      (hbegins : ∀ t, beginsStatement (x :: t) = (t.head?.any p ^^ negated)) (hc : c = x) :
      beginsStatement (c :: t) = beginsStatement (c :: t') := by
    subst hc
    rw [hbegins, hbegins, ((htail hx.1 hx.2.1).2 hx.2.2).any_head? hp]
  have heq {x : Char} (hx : isInner x = true) : ∀ c, (c == x) = true → isInner c = true :=
    fun c hc => eq_of_beq hc ▸ hx
  by_cases hpoint : c = '.'
  · refine hsecond (p := Char.isDigit) false (by decide) ?_ ?_ hpoint
    · exact fun c hc => isInner_of_continuesWord (by simp [continuesWord, hc])
    · rintro (_ | ⟨x, t⟩) <;> simp [beginsStatement]
  by_cases hplus : c = '+'
  · refine hsecond (p := (· == '+')) false (by decide) (heq (by decide)) ?_ hplus
    rintro (_ | ⟨x, t⟩) <;> simp [beginsStatement]
  by_cases hminus : c = '-'
  · refine hsecond (p := (· == '-')) false (by decide) (heq (by decide)) ?_ hminus
    rintro (_ | ⟨x, t⟩) <;> simp [beginsStatement]
  by_cases hnot : c = '!'
  · refine hsecond (p := (· == '=')) true (by decide) (heq (by decide)) ?_ hnot
    rintro (_ | ⟨x, t⟩) <;> simp [beginsStatement, bne]
  have hother (t : List Char) : beginsStatement (c :: t) =
      (!(['`', ',', ':', ';', '*', '%', '>', '<', '=', '[', '(', '?', '^', '|', '&',
        '/'].contains c) && !relationWord (c :: t)) := by
    rw [beginsStatement]
    · exact hpoint
    · exact hplus
    · exact hminus
    · exact hnot
  have hword : relationWord (c :: t) = relationWord (c :: t') := by
    by_cases hc : c = 'i'
    · subst hc
      exact ((htail (by decide) (by decide)).2 (by decide)).relationWord_alike
    · have hnone (t : List Char) : relationWord (c :: t) = false := by
        rw [relationWord]
        · exact fun _ heq => hc (List.cons.inj heq).1
        · exact fun _ heq => hc (List.cons.inj heq).1
      rw [hnone, hnone]
  rw [hother, hother, hword]

end Insertion

/-- In front of the comment and a token, the end of a statement is judged alike. -/
theorem Front.endsAlike {i : Insertion} (joins : Bool) {s : List Char} (h : Front i.behind s) :
    EndsAlike joins (s ++ i.behind) (s ++ i.commented) := by
  have htoken {s : List Char} (h : Front i.behind s) (ht : Front.BeginsToken s) :
      EndsAlike joins (s ++ i.behind) (s ++ i.commented) := by
    have hbegins := (Insertion.Begins.front h ht).beginsStatement_alike
    obtain ⟨c, rest, rfl, hblank, hslash⟩ := ht
    exact EndsAlike.token hblank hslash hbegins
  induction h with
  | lastChar hc h hsign => exact htoken (.lastChar hc h hsign) (beginsToken_of_isPlainChar hc _)
  | lastString ht h hsign => exact htoken (.lastString ht h hsign) (beginsToken_of_string? ht _)
  | char hc hremark h _ => exact htoken (.char hc hremark h) (beginsToken_of_isPlainChar hc _)
  | string ht h _ => exact htoken (.string ht h) (beginsToken_of_string? ht _)
  | blank hc _ ih => exact ih.blank hc
  | comment k _ ih =>
      rw [List.append_assoc, List.append_assoc]
      exact ih.comment k
  | line hbody hending _ ih =>
      simp only [List.cons_append, List.append_assoc]
      exact ih.lineComment hbody hending

/-! ## In front of the comment -/

section

variable {joins : Bool} {v : List Char}

/-- Where a statement ends behind a comment in its line, it ends there without the comment. -/
theorem endsHere_of_endsInLine (h : endsInLine joins v = true) : endsHere joins v = true := by
  cases v with
  | nil => cases h
  | cons c rest =>
      rw [endsInLine] at h
      split at h
      next hbrace =>
        obtain rfl := eq_of_beq hbrace
        rw [endsHere_other joins (by decide) (by decide) (by decide)]
        rfl
      next =>
        split at h
        next hbreak => rw [endsHere_break joins hbreak, h]
        next hbreak =>
          obtain ⟨hc, hrest⟩ := Bool.and_eq_true_iff.1 h
          rw [endsHere_blank joins hc (Bool.not_eq_true _ ▸ hbreak), hrest]

/-- Where a statement ends behind a comment within a line, it ends there without the comment. -/
theorem endsHere_of_endsOverBehind (h : endsOverBehind joins false v = true) :
    endsHere joins v = true := by
  by_cases hv : ∃ t, v = '/' :: t
  · obtain ⟨t, rfl⟩ := hv
    rwa [endsHere_slash, ← endsOverBehind_slash]
  · rw [endsOverBehind_of_ne joins fun t ht => hv ⟨t, ht⟩] at h
    exact endsHere_of_endsInLine h

/-- A comment within a line, directly behind a token, does not end a statement. -/
theorem endsStatement_chars_append {k : BlockComment} (hk : k.IsOneLine) (joins : Bool)
    (v : List Char) : endsStatement joins (k.chars ++ v) = endsStatement joins v := by
  rw [endsStatement_eq joins (k.chars ++ v), endsHere_comment, endsBehind_comment,
    hk.any_isLineBreak, Bool.or_eq_right_iff_imp]
  intro h
  rw [endsStatement_eq, endsHere_of_endsOverBehind h, Bool.true_or]

/-- A blank would begin a statement, like most tokens. -/
theorem beginsStatement_of_isScriptBlank {c : Char} (hc : isScriptBlank c = true) (s : List Char) :
    beginsStatement (c :: s) = true := by
  have hne {x : Char} (hx : isScriptBlank x = false) : c ≠ x := by
    rintro rfl
    rw [hx] at hc
    cases hc
  have hnone : (['`', ',', ':', ';', '*', '%', '>', '<', '=', '[', '(', '?', '^', '|', '&',
      '/'].contains c) = false := by
    have hall : ['`', ',', ':', ';', '*', '%', '>', '<', '=', '[', '(', '?', '^', '|', '&',
        '/'].all (!isScriptBlank ·) = true := by decide
    rw [← Bool.not_eq_true, List.contains_iff_mem]
    intro hmem
    simpa [hc] using List.all_eq_true.1 hall c hmem
  have hword : relationWord (c :: s) = false := by
    rw [relationWord]
    · exact fun _ heq => hne (x := 'i') (by decide) (List.cons.inj heq).1
    · exact fun _ heq => hne (x := 'i') (by decide) (List.cons.inj heq).1
  rw [beginsStatement, hnone, hword]
  · rfl
  · exact hne (by decide)
  · exact hne (by decide)
  · exact hne (by decide)
  · exact hne (by decide)

/-- A block comment is skipped unless it is never closed. -/
theorem skipFrom_block_cases (start s : List Char) (broken : Bool) :
    skipFrom (.block start) s = start ∧ (afterBlock broken s).2 = [] ∨
      ∃ rest, rest.length ≤ s.length ∧ skipFrom (.block start) s = skipFrom .between rest := by
  fun_induction afterBlock broken s with
  | case1 broken rest => exact Or.inr ⟨rest, by simp; omega, rfl⟩
  | case2 broken c rest hne ih =>
      have hskip : skipFrom (.block start) (c :: rest) = skipFrom (.block start) rest := by
        refine skipFrom_block_cons (fun more heq => ?_) start
        obtain ⟨hc, hrest⟩ := List.cons.inj heq
        exact hne _ hc hrest
      rw [hskip]
      obtain h | ⟨after, hlen, hafter⟩ := ih
      · exact Or.inl h
      · exact Or.inr ⟨after, by simp; omega, hafter⟩
  | case3 => exact Or.inl ⟨rfl, rfl⟩

/-- A line may begin with a slash that begins no comment unless it ends no statement. -/
theorem startsLine_of_endsHere_slash {rest : List Char}
    (hskip : skipBlank ('/' :: rest) = '/' :: rest) (h : endsHere joins ('/' :: rest) = true) :
    startsLine ('/' :: rest) = true := by
  cases rest with
  | nil => cases h
  | cons c rest =>
      by_cases hline : c = '/'
      · subst hline
        have hsuffix : skipFrom .line rest <:+ rest :=
          skipFrom_suffix List.suffix_rfl fun _ h => nomatch h
        have hlen := hsuffix.length_le
        have heq : skipFrom .line rest = '/' :: '/' :: rest := hskip
        rw [heq, List.length_cons, List.length_cons] at hlen
        omega
      · by_cases hblock : c = '*'
        · subst hblock
          -- If the comment is never closed, a line may begin at the end of the text.
          obtain ⟨-, hafter⟩ | ⟨after, hlen, hafter⟩ :=
            skipFrom_block_cases ('/' :: '*' :: rest) rest false
          · have hlook : look true false ('/' :: '*' :: rest) = .free [] := by
              have hdrop : ('/' :: '*' :: rest).dropWhile isAsciiBlank = '/' :: '*' :: rest := rfl
              rw [look, lookOver, hdrop]
              simp only [hafter, if_true]
              exact lookOver_nil ..
            rw [startsLine_eq, hlook]
            rfl
          · have hafter : skipBlank after = '/' :: '*' :: rest := hafter.symm.trans hskip
            have hshort := length_skipBlank_le after
            rw [hafter] at hshort
            simp at hshort
            omega
        · have hlook : look false false ('/' :: c :: rest) = .slash := by
            have hdrop : ('/' :: c :: rest).dropWhile isAsciiBlank = '/' :: c :: rest := rfl
            rw [look, lookOver, hdrop]
            split
            next heq => exact absurd (List.cons.inj (List.cons.inj heq).2).1 hline
            next heq => exact absurd (List.cons.inj (List.cons.inj heq).2).1 hblock
            next => rfl
            next hne => exact absurd rfl (hne _)
          rw [endsHere_slash, endsOver, hlook] at h
          cases h

/-- Where a statement ends on the way to the first comment, a line may begin. -/
theorem IsQuiet.startsLine_of_endsHere (hv : IsQuiet v) (h : endsHere joins v = true) :
    startsLine v = true := by
  induction hv with
  | @token s hskip =>
      cases s with
      | nil => rfl
      | cons c rest =>
          by_cases hslash : c = '/'
          · subst hslash
            exact startsLine_of_endsHere_slash hskip h
          · have hblank : isScriptBlank c = false := by
              rw [skipBlank_cons _ hslash] at hskip
              split at hskip
              next =>
                have hlen := length_skipBlank_le rest
                rw [hskip] at hlen
                exact absurd hlen (Nat.not_succ_le_self _)
              next hblank => exact Bool.not_eq_true _ ▸ hblank
            have hascii := isAsciiBlank_of_not_isScriptBlank hblank
            have hbreak := isLineBreak_of_not_isScriptBlank hblank
            rw [endsHere_other joins hslash hbreak hascii] at h
            obtain rfl := eq_of_beq h
            rw [startsLine_other hascii hslash]
            rfl
  | @blank c s hc hs ih =>
      cases hascii : isAsciiBlank c with
      | true =>
          rw [startsLine_blank hascii]
          cases hbreak : isLineBreak c with
          | true => rwa [endsHere_break joins hbreak] at h
          | false =>
              rw [endsHere_blank joins hascii hbreak] at h
              exact ih h
      | false =>
          have hslash : c ≠ '/' := by
            rintro rfl
            exact absurd hc (by decide)
          rw [startsLine_other hascii hslash, beginsStatement_of_isScriptBlank hc]
  | @comment k hk s hs ih =>
      rw [startsLine_comment]
      rw [endsHere_comment, hk.any_isLineBreak] at h
      exact ih (endsHere_of_endsOverBehind h)

/-- What is in front of a line does not matter. -/
theorem IsGap.startsLine_append {g : List Char} (hg : IsGap g) (s : List Char) :
    startsLine (g ++ s) = startsLine s := by
  induction hg with
  | nil => rfl
  | blank hc _ ih => rw [List.cons_append, startsLine_blank hc, ih]
  | comment k _ ih => rw [List.append_assoc, startsLine_comment, ih]

/-- A comment within a line, behind blanks and comments, does not end a statement. -/
theorem IsGap.endsStatement_comment {g : List Char} (hg : IsGap g) (hv : IsQuiet v)
    {k : BlockComment} (hk : k.IsOneLine) :
    endsStatement joins (g ++ (k.chars ++ v)) = endsStatement joins (g ++ v) := by
  -- Behind a line break, and behind a comment, less is asked for.
  suffices hall : endsStatement joins (g ++ (k.chars ++ v)) = endsStatement joins (g ++ v) ∧
      (startsLine v = false →
        endsBehind joins (g ++ (k.chars ++ v)) = endsBehind joins (g ++ v)) ∧
      ∀ broken, (endsOverBehind joins broken (g ++ (k.chars ++ v)) || endsStatement joins (g ++ v))
        = (endsOverBehind joins broken (g ++ v) || endsStatement joins (g ++ v)) from hall.1
  induction hg with
  | nil =>
      refine ⟨endsStatement_chars_append hk joins v, fun hline => ?_, fun broken => ?_⟩
      · have hhere : endsHere joins v = false := by
          rw [← Bool.not_eq_true] at hline ⊢
          exact fun h => hline (hv.startsLine_of_endsHere h)
        rw [List.nil_append, List.nil_append, endsBehind_comment, endsStatement_eq, hhere,
          Bool.false_or]
      · rw [List.nil_append, List.nil_append, endsOverBehind_comment, hk.any_isLineBreak,
          Bool.or_false]
  | @blank c g hc hg ih =>
      obtain ⟨hends, hbehind, hover⟩ := ih
      have hblank := isScriptBlank_of_isAsciiBlank hc
      have hslash (s : List Char) : ∀ t, c :: s ≠ '/' :: t := by
        rintro t heq
        cases heq
        exact absurd hc (by decide)
      have hline : startsLine (g ++ (k.chars ++ v)) = startsLine (g ++ v) := by
        rw [hg.startsLine_append, hg.startsLine_append, startsLine_comment]
      have hstatement : endsStatement joins (c :: (g ++ (k.chars ++ v)))
          = endsStatement joins (c :: (g ++ v)) := by
        rw [endsStatement_eq, endsStatement_eq joins (c :: (g ++ v)), endsBehind_blank joins hblank,
          endsBehind_blank joins hblank]
        cases hbreak : isLineBreak c with
        | true =>
            rw [endsHere_break joins hbreak, endsHere_break joins hbreak, hline,
              hg.startsLine_append]
            cases hv : startsLine v with
            | true => rfl
            | false => rw [hbehind hv]
        | false =>
            rw [endsHere_blank joins hc hbreak, endsHere_blank joins hc hbreak, ← endsStatement_eq,
              ← endsStatement_eq, hends]
      -- In its line a statement ends only where it ends anyway.
      have hinLine : (endsInLine joins (c :: (g ++ (k.chars ++ v)))
            || endsStatement joins (c :: (g ++ v)))
          = (endsInLine joins (c :: (g ++ v)) || endsStatement joins (c :: (g ++ v))) := by
        have himp {s : List Char}
            (h : endsStatement joins s = endsStatement joins (c :: (g ++ v))) :
            (endsInLine joins s || endsStatement joins (c :: (g ++ v)))
              = endsStatement joins (c :: (g ++ v)) := by
          rw [← h, Bool.or_eq_right_iff_imp]
          intro h
          rw [endsStatement_eq, endsHere_of_endsInLine h, Bool.true_or]
        rw [himp hstatement, himp rfl]
      refine ⟨hstatement, fun hv => ?_, fun broken => ?_⟩
      · rw [List.cons_append, List.cons_append, endsBehind_blank joins hblank,
          endsBehind_blank joins hblank, hbehind hv]
      · rw [List.cons_append, List.cons_append, endsOverBehind_of_ne joins (hslash _),
          endsOverBehind_of_ne joins (hslash _), endsAt, endsAt]
        split_ifs
        · rfl
        · exact hinLine
        · exact hinLine
  | @comment k' g hg ih =>
      obtain ⟨hends, -, hover⟩ := ih
      have hstatement (s : List Char) : endsStatement joins (k'.chars ++ s)
          = (endsOverBehind joins (k'.body.any isLineBreak) s || endsStatement joins s) := by
        rw [endsStatement_eq, endsHere_comment, endsBehind_comment]
      refine ⟨?_, fun _ => ?_, fun broken => ?_⟩
      · rw [List.append_assoc, List.append_assoc, hstatement, hstatement, hends, hover]
      · rw [List.append_assoc, List.append_assoc, endsBehind_comment, endsBehind_comment, hends]
      · rw [List.append_assoc, List.append_assoc, endsOverBehind_comment, endsOverBehind_comment,
          hstatement, Bool.or_left_comm, hover, Bool.or_left_comm]

end

namespace Insertion

variable {i : Insertion} {s s' : List Char}

/-- **Behind a token, a statement ends in both readings or in none.** -/
theorem Follows.endsStatement_alike (h : i.Follows s s') (joins : Bool) :
    endsStatement joins s = endsStatement joins s' := by
  cases h with
  | front h => exact (h.endsAlike joins).endsStatement_eq
  | tail h =>
      obtain ⟨hgap, rfl | hquiet⟩ := h
      · exact (endsStatement_chars_append i.isOneLine joins i.behind).symm
      · exact (hgap.endsStatement_comment hquiet i.isOneLine).symm
  | past h => rfl

end Insertion

end DocSite.Script
