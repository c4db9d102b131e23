import DocSite.Proofs.Script.Comment.Token

/-! # Where statements end

Where a statement lacks its semicolon, blanks and comments in front of the next token decide
whether it ends (`endsStatement`). What they decide is split up here by how far the text has been
looked over: up to the first comment (`endsHere`), behind it (`endsBehind`), and over comments
(`endsOver`, `endsOverBehind`). -/

namespace DocSite.Script

open DocSite.Text DocSite.Script.Parser

/-! ## Looking over comments -/

/-- At the end there is nothing to look over. -/
theorem lookOver_nil (wholly broken : Bool) (n : Nat) : lookOver wholly broken n [] = .free [] := by
  cases n <;> rfl

/-- What is seen over comments does not depend on the bound. -/
theorem lookOver_eq (wholly : Bool) {n m : Nat} (broken : Bool) {s : List Char} (hn : s.length ≤ n)
    (hm : s.length ≤ m) : lookOver wholly broken n s = lookOver wholly broken m s := by
  induction n generalizing m broken s with
  | zero => rw [List.eq_nil_of_length_eq_zero (Nat.le_zero.1 hn), lookOver_nil, lookOver_nil]
  | succ n ih =>
      cases m with
      | zero => rw [List.eq_nil_of_length_eq_zero (Nat.le_zero.1 hm), lookOver_nil, lookOver_nil]
      | succ m =>
          have hdrop := length_dropWhile_le isAsciiBlank s
          rw [lookOver, lookOver]
          -- Behind a comment of either kind the text is shorter, so the bounds still suffice.
          split
          next rest heq =>
            rw [heq] at hdrop
            have hline := length_dropWhile_le (!isLineBreak ·) rest
            exact ih _ (by grind) (by grind)
          next rest heq =>
            rw [heq] at hdrop
            have hblock := length_afterBlock_le broken rest
            have hrec : lookOver wholly _ n (afterBlock broken rest).2 = lookOver wholly _ m _ :=
              ih (afterBlock broken rest).1 (by grind) (by grind)
            simp only [hrec]
          next => rfl
          next => rfl

/-- What is seen over all comments in front of a text, in the sense of `lookOver`. -/
def look (wholly broken : Bool) (s : List Char) : Gap :=
  lookOver wholly broken (s.length + 1) s

/-- What is seen behind a block comment. -/
def lookBehind (wholly broken : Bool) (s : List Char) : Gap :=
  match s with
  | '/' :: _ => look wholly broken s
  | _ => if wholly then look wholly broken s else if broken then .free s else .sameLine s

/-- Blanks are looked over. -/
theorem look_blank {c : Char} (hc : isAsciiBlank c = true) (wholly broken : Bool) (s : List Char) :
    look wholly broken (c :: s) = look wholly broken s := by
  have hdrop : (c :: s).dropWhile isAsciiBlank = s.dropWhile isAsciiBlank :=
    List.dropWhile_cons_of_pos hc
  rw [look, look, lookOver_eq wholly broken (s := s) (m := s.length + 2) (by omega) (by omega),
    List.length_cons, lookOver, lookOver, hdrop]

/-- A line break in a comment is noticed. -/
theorem afterBlock_body {body : List Char} (h : ¬['*', '/'] <:+: body) (broken : Bool)
    (s : List Char) : afterBlock broken (body ++ '*' :: '/' :: s)
      = (broken || body.any isLineBreak, s) := by
  induction body generalizing broken with
  | nil => rw [List.any_nil, Bool.or_false]; rfl
  | cons c body ih =>
      rw [List.cons_append, afterBlock, ih (staysOpen_of_cons h), List.any_cons, Bool.or_assoc]
      exact fun _ hc ht => ne_close_of_staysOpen h _ _ (by rw [hc, ht])

/-- Where no comment follows, what is behind a comment depends on whether that ends the line. -/
theorem lookBehind_of_ne {s : List Char} (h : ∀ t, s ≠ '/' :: t) (wholly broken : Bool) :
    lookBehind wholly broken s =
      if wholly then look wholly broken s else if broken then .free s else .sameLine s := by
  rw [lookBehind.eq_def]
  split
  next t => exact absurd rfl (h t)
  next => rfl

/-- A block comment is looked over. -/
theorem look_comment (k : BlockComment) (wholly broken : Bool) (s : List Char) :
    look wholly broken (k.chars ++ s)
      = lookBehind wholly (broken || k.body.any isLineBreak) s := by
  have hlen : s.length < (k.chars ++ s).length := by
    rw [k.chars_append]
    simp
    omega
  have hdrop :
      (k.chars ++ s).dropWhile isAsciiBlank = '/' :: '*' :: (k.body ++ '*' :: '/' :: s) := by
    rw [k.chars_append]
    rfl
  have hrec (broken : Bool) :
      lookOver wholly broken (k.chars ++ s).length s = look wholly broken s :=
    lookOver_eq wholly broken (by omega) (by omega)
  rw [look, lookOver, hdrop]
  simp only [afterBlock_body k.staysOpen, hrec]
  rfl

/-- A comment to the end of the line is looked over. -/
theorem look_line {body ending : List Char} (hbody : ∀ c ∈ body, endsLineComment c = false)
    (hending : ending = ['\n'] ∨ ending = ['\r', '\n']) (wholly broken : Bool) (s : List Char) :
    look wholly broken ('/' :: '/' :: (body ++ (ending ++ s))) = look wholly broken s := by
  have hline : (body ++ (ending ++ s)).dropWhile (!isLineBreak ·) = '\n' :: s := by
    induction body with
    | nil => rcases hending with rfl | rfl <;> rfl
    | cons c body ih =>
        obtain ⟨hc, hbody⟩ := List.forall_mem_cons.1 hbody
        have hbreak : isLineBreak c = false := by
          rw [endsLineComment, Bool.or_eq_false_iff] at hc
          exact hc.1
        rw [List.cons_append, List.dropWhile_cons_of_pos (by simp [hbreak])]
        exact ih hbody
  have hdrop : ('/' :: '/' :: (body ++ (ending ++ s))).dropWhile isAsciiBlank
      = '/' :: '/' :: (body ++ (ending ++ s)) := rfl
  have hlen : ('\n' :: s).length < ('/' :: '/' :: (body ++ (ending ++ s))).length := by
    have hnonempty : 0 < ending.length := by rcases hending with rfl | rfl <;> decide
    simp
    omega
  rw [look, lookOver, hdrop]
  simp only [hline]
  -- The line break stays in front of the text behind the comment, and is skipped as a blank.
  rw [← look_blank (c := '\n') (by decide) wholly broken s]
  exact lookOver_eq wholly broken (by omega) (by omega)

/-- A comment within a line holds no line break that can end a statement. -/
theorem BlockComment.IsOneLine.any_isLineBreak {k : BlockComment} (hk : k.IsOneLine) :
    k.body.any isLineBreak = false := by
  rw [List.any_eq_false]
  intro c hc
  have hends := hk c hc
  rw [endsLineComment, Bool.or_eq_false_iff] at hends
  simp [hends.1]

/-- What is no blank at all is no line break. -/
theorem isLineBreak_of_not_isScriptBlank {c : Char} (h : isScriptBlank c = false) :
    isLineBreak c = false := by
  rw [← Bool.not_eq_true, isLineBreak]
  intro hc
  simp only [Bool.or_eq_true, beq_iff_eq] at hc
  rcases hc with (rfl | rfl) | rfl <;> exact absurd h (by decide)

/-- What is no blank at all is no blank in ASCII. -/
theorem isAsciiBlank_of_not_isScriptBlank {c : Char} (h : isScriptBlank c = false) :
    isAsciiBlank c = false := by
  rw [← Bool.not_eq_true] at h ⊢
  exact fun hc => h (isScriptBlank_of_isAsciiBlank hc)

/-- What is neither a blank nor a slash ends the look over comments. -/
theorem look_other {c : Char} (hascii : isAsciiBlank c = false) (hslash : c ≠ '/')
    (wholly broken : Bool) (s : List Char) : look wholly broken (c :: s) = .free (c :: s) := by
  have hdrop : (c :: s).dropWhile isAsciiBlank = c :: s :=
    List.dropWhile_cons_of_neg (by simp [hascii])
  rw [look, lookOver, hdrop]
  split
  next heq => exact absurd (List.cons.inj heq).1 hslash
  next heq => exact absurd (List.cons.inj heq).1 hslash
  next heq => exact absurd (List.cons.inj heq).1 hslash
  next => rfl

/-! ## Beginnings of lines -/

/-- Whether what follows a line break begins a statement. -/
abbrev startsLine : List Char → Bool := endsBeforeToken.startsLine

/-- The end of a comment does not depend on what is noticed in front of it. -/
theorem afterBlock_snd (broken broken' : Bool) (s : List Char) :
    (afterBlock broken s).2 = (afterBlock broken' s).2 := by
  fun_induction afterBlock broken s generalizing broken' with
  | case1 => rfl
  | case2 broken c rest hne ih =>
      rw [ih (broken' || isLineBreak c), afterBlock]
      exact hne
  | case3 => rfl

/-- Wholly looked over, comments may hold line breaks or not. -/
theorem look_wholly (broken : Bool) (s : List Char) : look true broken s = look true false s := by
  -- The flag changes at each comment, so the induction is about any two flags.
  have hupTo (n : Nat) (broken broken' : Bool) (s : List Char) :
      lookOver true broken n s = lookOver true broken' n s := by
    induction n generalizing broken broken' s with
    | zero => rfl
    | succ n ih =>
        rw [lookOver, lookOver]
        split
        next => exact ih _ _ _
        next rest _ =>
          have hsnd := afterBlock_snd broken broken' rest
          simp only [if_true]
          rw [hsnd, ih (afterBlock broken rest).1 (afterBlock broken' rest).1]
        next => rfl
        next => rfl
  exact hupTo _ _ _ s

/-- Whether a statement begins at the next token, in the sense of `look`. -/
theorem startsLine_eq (s : List Char) : startsLine s = match look true false s with
    | .slash => false
    | .sameLine rest | .free rest => beginsStatement rest := rfl

/-- What is skipped in front of a line does not matter. -/
theorem startsLine_congr {s t : List Char} (h : look true false s = look true false t) :
    startsLine s = startsLine t := by
  rw [startsLine_eq, startsLine_eq, h]

/-- Blanks in front of a line do not matter. -/
theorem startsLine_blank {c : Char} (hc : isAsciiBlank c = true) (s : List Char) :
    startsLine (c :: s) = startsLine s :=
  startsLine_congr (look_blank hc _ _ s)

/-- Block comments in front of a line do not matter. -/
theorem startsLine_comment (k : BlockComment) (s : List Char) :
    startsLine (k.chars ++ s) = startsLine s := by
  apply startsLine_congr
  rw [look_comment, lookBehind.eq_def]
  split
  next => exact look_wholly _ _
  next =>
    rw [if_pos rfl]
    exact look_wholly _ _

/-- Comments to the end of the line in front of a line do not matter. -/
theorem startsLine_line {body ending : List Char} (hbody : ∀ c ∈ body, endsLineComment c = false)
    (hending : ending = ['\n'] ∨ ending = ['\r', '\n']) (s : List Char) :
    startsLine ('/' :: '/' :: (body ++ (ending ++ s))) = startsLine s :=
  startsLine_congr (look_line hbody hending _ _ s)

/-- A statement begins at a token that begins one. -/
theorem startsLine_other {c : Char} (hascii : isAsciiBlank c = false) (hslash : c ≠ '/')
    (s : List Char) : startsLine (c :: s) = beginsStatement (c :: s) := by
  rw [startsLine_eq, look_other hascii hslash]

/-! ## Ends in front of a token -/

/-- The text at which a look over comments ends. -/
def Gap.text : Gap → List Char
  | slash => []
  | sameLine rest | free rest => rest

/-- Looking over comments does not make a text longer. -/
theorem length_lookOver_le (wholly broken : Bool) (n : Nat) (s : List Char) :
    (lookOver wholly broken n s).text.length ≤ s.length := by
  induction n generalizing broken s with
  | zero => exact le_rfl
  | succ n ih =>
      have hdrop := length_dropWhile_le isAsciiBlank s
      rw [lookOver]
      split
      next rest heq =>
        have hline := length_dropWhile_le (!isLineBreak ·) rest
        have hrest := ih broken (rest.dropWhile (!isLineBreak ·))
        grind
      next rest heq =>
        have hblock := length_afterBlock_le broken rest
        have hrest := ih (afterBlock broken rest).1 (afterBlock broken rest).2
        grind [Gap.text]
      next => exact Nat.zero_le _
      next => exact hdrop

/-- What decides is the same for every bound that is large enough. -/
theorem endsBeforeToken_eq (joins : Bool) {n m : Nat} {s : List Char} (hn : s.length < n)
    (hm : s.length < m) : endsBeforeToken joins n s = endsBeforeToken joins m s := by
  induction n generalizing m s with
  | zero => exact absurd hn (Nat.not_lt_zero _)
  | succ n ih =>
      cases m with
      | zero => exact absurd hm (Nat.not_lt_zero _)
      | succ m =>
          have hdrop := length_dropWhile_le (fun c => isAsciiBlank c && !isLineBreak c) s
          rw [endsBeforeToken, endsBeforeToken]
          split
          next => rfl
          next => rfl
          next rest heq =>
            rw [heq] at hdrop
            have hlen := length_lookOver_le false false (rest.length + 1) ('/' :: rest)
            split
            next => rfl
            next after hafter =>
              rw [hafter, Gap.text] at hlen
              cases after with
              | nil => rfl
              | cons c more =>
                  have hrec := ih (s := more) (m := m) (by grind) (by grind)
                  simp only [hrec]
            next after hafter =>
              rw [hafter, Gap.text] at hlen
              cases after with
              | nil => rfl
              | cons c more =>
                  have hrec := ih (s := more) (m := m) (by grind) (by grind)
                  simp only [hrec]
          next => rfl

/-- Where a statement may end is the same for every bound that is large enough. -/
theorem endsStatement_go_eq (joins : Bool) {n m : Nat} {s : List Char} (hn : s.length < n)
    (hm : s.length < m) : endsStatement.go joins n s = endsStatement.go joins m s := by
  induction n generalizing m s with
  | zero => exact absurd hn (Nat.not_lt_zero _)
  | succ n ih =>
      cases m with
      | zero => exact absurd hm (Nat.not_lt_zero _)
      | succ m =>
          have hdrop := length_dropWhile_le isScriptBlank s
          rw [endsStatement.go, endsStatement.go]
          split
          next rest hrest =>
            have hlen := length_afterComment? hrest
            rw [ih (m := m) (by omega) (by omega)]
          next => rfl

section

variable (joins : Bool)

/-- Whether a statement ends on the way to the first comment behind which text follows. -/
def endsHere (s : List Char) : Bool :=
  endsBeforeToken joins (s.length + 1) s

/-- Whether a statement ends behind the first comment. -/
def endsBehind (s : List Char) : Bool :=
  match afterComment? (s.dropWhile isScriptBlank) with
  | some rest => endsStatement joins rest
  | none => false

/-- A statement ends at one of these places. -/
theorem endsStatement_eq (s : List Char) :
    endsStatement joins s = (endsHere joins s || endsBehind joins s) := by
  change endsStatement.go joins (s.length + 1) s = _
  rw [endsStatement.go, endsHere, endsBehind]
  cases hafter : afterComment? (s.dropWhile isScriptBlank) with
  | none => rfl
  | some rest =>
      have hdrop := length_dropWhile_le isScriptBlank s
      have hlen := length_afterComment? hafter
      dsimp only
      rw [endsStatement_go_eq joins (m := rest.length + 1) (by omega) (by omega)]
      rfl

/-- Whether a statement ends at a text that goes on behind a comment in the same line. -/
def endsInLine : List Char → Bool
  | c :: rest =>
      if c == '}' then true
      else if isLineBreak c then startsLine rest
      else isAsciiBlank c && endsHere joins rest
  | [] => false

/-- Whether a statement ends where a look over comments ends. -/
def endsAt : Gap → Bool
  | .slash => false
  | .free [] => !joins
  | .free (c :: rest) =>
      if !joins && c != ',' && c != '=' then true else endsInLine joins (c :: rest)
  | .sameLine rest => endsInLine joins rest

/-- Whether a statement ends behind comments, of which one holds a line break or not. -/
def endsOver (broken : Bool) (s : List Char) : Bool :=
  endsAt joins (look false broken s)

/-- Whether a statement ends behind a block comment. -/
def endsOverBehind (broken : Bool) (s : List Char) : Bool :=
  endsAt joins (lookBehind false broken s)

/-! ### What is in front of a place -/

/-- At a slash, comments are looked over. -/
theorem endsHere_slash (rest : List Char) :
    endsHere joins ('/' :: rest) = endsOver joins false ('/' :: rest) := by
  have hdrop : ('/' :: rest).dropWhile (fun c => isAsciiBlank c && !isLineBreak c) = '/' :: rest :=
    rfl
  have hlook : lookOver false false (rest.length + 1) ('/' :: rest)
      = look false false ('/' :: rest) :=
    lookOver_eq false false (by simp) (by simp)
  have hlen := length_lookOver_le false false (rest.length + 1) ('/' :: rest)
  have hrec {c : Char} {more : List Char} (hmore : (c :: more).length ≤ ('/' :: rest).length) :
      endsBeforeToken joins ('/' :: rest).length more = endsHere joins more :=
    endsBeforeToken_eq joins (by simp at hmore ⊢; omega) (by omega)
  rw [endsHere, endsBeforeToken, hdrop]
  simp only
  rw [endsOver, ← hlook]
  split
  next h =>
    rw [h]
    rfl
  next after h =>
    rw [h] at hlen ⊢
    cases after with
    | nil => rfl
    | cons c more =>
      rw [endsAt, endsInLine, ← hrec hlen]
  next after h =>
    rw [h] at hlen ⊢
    cases after with
    | nil => rfl
    | cons c more =>
      rw [endsAt, endsInLine, ← hrec hlen]

/-- A blank that breaks no line is skipped. -/
theorem endsHere_blank {c : Char} (hc : isAsciiBlank c = true) (hbreak : isLineBreak c = false)
    (s : List Char) : endsHere joins (c :: s) = endsHere joins s := by
  have hdrop : (c :: s).dropWhile (fun c => isAsciiBlank c && !isLineBreak c)
      = s.dropWhile (fun c => isAsciiBlank c && !isLineBreak c) :=
    List.dropWhile_cons_of_pos (by simp [hc, hbreak])
  rw [endsHere, endsHere, endsBeforeToken_eq joins (s := s) (m := s.length + 2) (by omega)
    (by omega), List.length_cons, endsBeforeToken.eq_def,
    endsBeforeToken.eq_def joins (s.length + 2) s]
  simp only [hdrop]

/-- A line break ends a statement in front of a line that begins one. -/
theorem endsHere_break {c : Char} (hbreak : isLineBreak c = true) (s : List Char) :
    endsHere joins (c :: s) = startsLine s := by
  have hdrop : (c :: s).dropWhile (fun c => isAsciiBlank c && !isLineBreak c) = c :: s :=
    List.dropWhile_cons_of_neg (by simp [hbreak])
  rw [endsHere, endsBeforeToken, hdrop]
  split
  next heq => cases heq
  next heq =>
    cases heq
    exact absurd hbreak (by decide)
  next heq =>
    cases heq
    exact absurd hbreak (by decide)
  next heq =>
    cases heq
    rw [hbreak, Bool.true_and]

/-- What else is no slash ends no statement but for a closing brace. -/
theorem endsHere_other {c : Char} (hslash : c ≠ '/') (hbreak : isLineBreak c = false)
    (hblank : isAsciiBlank c = false) (s : List Char) : endsHere joins (c :: s) = (c == '}') := by
  have hdrop : (c :: s).dropWhile (fun c => isAsciiBlank c && !isLineBreak c) = c :: s :=
    List.dropWhile_cons_of_neg (by simp [hblank])
  rw [endsHere, endsBeforeToken, hdrop]
  split
  next heq => cases heq
  next heq =>
    cases heq
    rfl
  next heq => exact absurd (List.cons.inj heq).1 hslash
  next hbrace _ heq =>
    cases heq
    rw [hbreak, Bool.false_and, eq_comm, beq_eq_false_iff_ne]
    exact fun hc => hbrace hc

/-- Blanks in front of a comment are skipped. -/
theorem endsBehind_blank {c : Char} (hc : isScriptBlank c = true) (s : List Char) :
    endsBehind joins (c :: s) = endsBehind joins s := by
  rw [endsBehind, endsBehind, List.dropWhile_cons_of_pos hc]

/-- A token is no comment. -/
theorem endsBehind_token {c : Char} (hblank : isScriptBlank c = false) (hslash : c ≠ '/')
    (s : List Char) : endsBehind joins (c :: s) = false := by
  rw [endsBehind, List.dropWhile_cons_of_neg (by simp [hblank]), afterComment?]
  · exact fun _ h => hslash (List.cons.inj h).1
  · exact fun _ h => hslash (List.cons.inj h).1

/-- Behind a block comment there is another place where a statement may end. -/
theorem endsBehind_comment (k : BlockComment) (s : List Char) :
    endsBehind joins (k.chars ++ s) = endsStatement joins s := by
  have hafter : afterComment? ((k.chars ++ s).dropWhile isScriptBlank) = some s := by
    rw [k.chars_append]
    change some (afterBlock false (k.body ++ '*' :: '/' :: s)).2 = some s
    rw [afterBlock_body k.staysOpen]
  rw [endsBehind, hafter]

/-- So there is behind a comment to the end of the line. -/
theorem endsBehind_line {body ending : List Char} (hbody : ∀ c ∈ body, endsLineComment c = false)
    (hending : ending = ['\n'] ∨ ending = ['\r', '\n']) (s : List Char) :
    endsBehind joins ('/' :: '/' :: (body ++ (ending ++ s)))
      = endsStatement joins (ending ++ s) := by
  have hkeep : (ending ++ s).dropWhile (!endsLineComment ·) = ending ++ s := by
    rcases hending with rfl | rfl <;> rfl
  have hline : (body ++ (ending ++ s)).dropWhile (!endsLineComment ·) = ending ++ s := by
    rw [List.dropWhile_append_of_pos fun c hc => by simp [hbody c hc], hkeep]
  have hafter : afterComment? (('/' :: '/' :: (body ++ (ending ++ s))).dropWhile isScriptBlank)
      = some (ending ++ s) := congrArg some hline
  rw [endsBehind, hafter]

/-! ### Behind comments -/

/-- Blanks are skipped where a comment is looked for. -/
theorem endsOver_blank {c : Char} (hc : isAsciiBlank c = true) (broken : Bool) (s : List Char) :
    endsOver joins broken (c :: s) = endsOver joins broken s := by
  rw [endsOver, endsOver, look_blank hc]

/-- Block comments are skipped. -/
theorem endsOver_comment (k : BlockComment) (broken : Bool) (s : List Char) :
    endsOver joins broken (k.chars ++ s)
      = endsOverBehind joins (broken || k.body.any isLineBreak) s := by
  rw [endsOver, look_comment, endsOverBehind]

/-- At a block comment, what follows is looked over. -/
theorem endsHere_comment (k : BlockComment) (s : List Char) :
    endsHere joins (k.chars ++ s) = endsOverBehind joins (k.body.any isLineBreak) s := by
  have hslash : endsHere joins (k.chars ++ s) = endsOver joins false (k.chars ++ s) :=
    endsHere_slash joins _
  rw [hslash, endsOver_comment, Bool.false_or]

/-- At a slash the look over comments goes on. -/
theorem endsOverBehind_slash (broken : Bool) (s : List Char) :
    endsOverBehind joins broken ('/' :: s) = endsOver joins broken ('/' :: s) := rfl

/-- Block comments that follow each other are skipped. -/
theorem endsOverBehind_comment (k : BlockComment) (broken : Bool) (s : List Char) :
    endsOverBehind joins broken (k.chars ++ s)
      = endsOverBehind joins (broken || k.body.any isLineBreak) s :=
  endsOver_comment joins k broken s

/-- Elsewhere it matters whether the line has ended. -/
theorem endsOverBehind_of_ne {s : List Char} (h : ∀ t, s ≠ '/' :: t) (broken : Bool) :
    endsOverBehind joins broken s
      = if broken then endsAt joins (.free s) else endsInLine joins s := by
  rw [endsOverBehind, lookBehind_of_ne h]
  cases broken <;> rfl

end

end DocSite.Script
