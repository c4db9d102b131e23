import DocSite.Proofs.Script.Written
import DocSite.Script

/-! # Declarations as generated files write them

A generated file is a row of declarations, each of which binds one name to one literal and ends in a
semicolon. `Declares s bindings` says that `s` is such a text, with blanks wherever tokens meet. The
main statement is `parse_of_declares`: such a text is read as a script of exactly these bindings.

A declaration is a statement, and a script repeats the statements of its highest level until none
stands there. So the work is done by one lemma about one declaration (`statement_declaration`) and
an induction over the row. -/

namespace DocSite.Script

open DocSite.Text DocSite.Script.Parser

/-! ## The texts -/

/-- Whether the characters are those of a name without escapes. -/
def isName : List Char → Bool
  | [] => false
  | c :: rest => beginsWord c && rest.all continuesWord

/-- The text of declarations and what they bind, in order. -/
inductive Declares : List Char → List (String × Literal) → Prop where
  /-- No declarations. -/
  | nil {w : List Char} (hw : IsBlank w) : Declares w []
  /-- A declaration in front of others. -/
  | cons {w v u s rest : List Char} (name : String) {l : Literal} {more : List (String × Literal)}
      (hw : IsBlank w) (hname : isName name.toList = true) (hv : IsBlank v) (hu : IsBlank u)
      (h : Written s l) (hrest : Declares rest more) :
      Declares (w ++ 'v' :: 'a' :: 'r' :: ' ' ::
        (name.toList ++ (v ++ '=' :: (u ++ (s ++ ';' :: rest))))) ((name, l) :: more)

/-- Blanks may stand in front of declarations. -/
theorem Declares.blank_append {w s : List Char} {bindings : List (String × Literal)}
    (hw : IsBlank w) (h : Declares s bindings) : Declares (w ++ s) bindings := by
  cases h with
  | nil hv => exact .nil (hw.append hv)
  | cons name hu hname hv hx h hrest =>
      rw [← List.append_assoc]
      exact .cons name (hw.append hu) hname hv hx h hrest

/-- A name is a character that begins a word, and characters that continue it. -/
theorem exists_of_isName {name : List Char} (h : isName name = true) :
    ∃ c rest, name = c :: rest ∧ beginsWord c = true ∧ rest.all continuesWord = true := by
  cases name with
  | nil => exact absurd h (by decide)
  | cons c rest =>
      rw [isName, Bool.and_eq_true] at h
      exact ⟨c, rest, rfl, h.1, h.2⟩

/-- What begins a word continues one. -/
theorem continuesWord_of_beginsWord {c : Char} (h : beginsWord c = true) :
    continuesWord c = true := by
  rw [continuesWord, h, Bool.true_or]

/-- What begins a word begins a token. -/
theorem beginsToken_of_beginsWord {c : Char} (h : beginsWord c = true) : beginsToken c = true := by
  have hword := continuesWord_of_beginsWord h
  refine beginsToken_iff.2 ⟨isScriptBlank_of_continuesWord hword, ?_, ?_, ?_⟩
  all_goals
    rintro rfl
    exact absurd hword (by decide)

/-- A name holds no NUL. -/
theorem nul_not_mem_of_isName {name : List Char} (h : isName name = true) : '\x00' ∉ name := by
  obtain ⟨c, rest, rfl, hc, hrest⟩ := exists_of_isName h
  rw [List.mem_cons]
  rintro (rfl | hmem)
  · exact absurd hc (by decide)
  · exact absurd (List.all_eq_true.1 hrest _ hmem) (by decide)

/-- The text of declarations holds no NUL. -/
theorem Declares.nul_not_mem {s : List Char} {bindings : List (String × Literal)}
    (h : Declares s bindings) : '\x00' ∉ s := by
  induction h with
  | nil hw => exact hw.nul_not_mem
  | cons name hw hname hv hu h hrest ih =>
      simp only [List.mem_append, List.mem_cons, not_or]
      exact ⟨hw.nul_not_mem, by decide, by decide, by decide, by decide,
        nul_not_mem_of_isName hname, hv.nul_not_mem, by decide, hu.nul_not_mem, h.nul_not_mem,
        by decide, ih⟩

/-- Declarations do not begin with a line for an interpreter. -/
theorem Declares.skipInterpreterLine {s : List Char} {bindings : List (String × Literal)}
    (h : Declares s bindings) : skipInterpreterLine s = s := by
  cases h with
  | nil hw =>
      rw [Script.skipInterpreterLine, skipTrivia_of_isBlank hw]
  | cons name hw hname hv hu h hrest =>
      rw [Script.skipInterpreterLine, skipTrivia_append_token hw _ (by decide)]
      rfl

/-! ## One declaration -/

namespace Inner

variable (g : Inner) (found : List Declarator)

/-- Blanks in front of an operand are skipped. -/
theorem operandPhrase_blank_append {u rest : List Char} {c : Char} (hu : IsBlank u)
    (hc : beginsToken c = true) (ctx : Context) (level : Nat) :
    g.operandPhrase ctx level ⟨u ++ c :: rest, found⟩
      = g.operandPhrase ctx level ⟨c :: rest, found⟩ := by
  have hskip : ∀ {w : List Char}, IsBlank w →
      trivia ⟨w ++ c :: rest, found⟩ = some ((), ⟨c :: rest, found⟩) := by
    intro w hw
    rw [trivia, skipTrivia_append_token hw rest hc]
  have hstay : trivia ⟨c :: rest, found⟩ = some ((), ⟨c :: rest, found⟩) := hskip isBlank_nil
  rw [operandPhrase, bind_of_eq (hskip hu), bind_of_eq hstay]

/-- A name in front of what ends a word is what a declaration binds. -/
theorem bindingTarget_name {w name s : List Char} (hw : IsBlank w) (hname : isName name = true)
    (hs : EndsWord s) : ∃ bound : Word, bound.chars = name ∧
      g.bindingTarget ⟨w ++ (name ++ s), found⟩ = some (some bound, ⟨s, found⟩) := by
  obtain ⟨c, rest, rfl, hc, hrest⟩ := exists_of_isName hname
  have hbegins : beginsToken c = true := beginsToken_of_beginsWord hc
  have htrivia : trivia ⟨w ++ (c :: rest ++ s), found⟩ = some ((), ⟨c :: rest ++ s, found⟩) := by
    rw [trivia, List.cons_append, skipTrivia_append_token hw _ hbegins]
  have hplace : Parser.rest ⟨c :: rest ++ s, found⟩
      = some (c :: rest ++ s, ⟨c :: rest ++ s, found⟩) := rfl
  obtain ⟨bound, hbound, hword⟩ := asWord?_of_word? (word?_append hc hrest hs)
  have hname : Parser.name ⟨c :: rest ++ s, found⟩ = some (bound, ⟨s, found⟩) := by
    apply token_of_eq
    rw [List.cons_append, skipBlank_of_beginsToken _ hbegins, ← List.cons_append]
    exact hword
  have hread : (do return some (← Parser.name) : Parser (Option Word)) ⟨c :: rest ++ s, found⟩
      = some (some bound, ⟨s, found⟩) := by
    rw [bind_of_eq hname]
    rfl
  refine ⟨bound, hbound, ?_⟩
  rw [bindingTarget, bind_of_eq htrivia, bind_of_eq hplace]
  refine Eq.trans (congrFun ?_ _) hread
  -- Only brackets begin a pattern.
  split
  next h =>
      rw [(List.cons.inj h).1] at hc
      exact absurd hc (by decide)
  next h =>
      rw [(List.cons.inj h).1] at hc
      exact absurd hc (by decide)
  next => rfl

/-- The sign of an initialiser is read behind blanks, if no sign of another kind stands there. -/
theorem equals_of_ne {v rest : List Char} {x : Char} (hv : IsBlank v) (heq : x ≠ '=')
    (hgreater : x ≠ '>') :
    equals ⟨v ++ '=' :: x :: rest, found⟩ = some ((), ⟨x :: rest, found⟩) := by
  apply token_of_eq
  rw [skipBlank_append_token hv _ (by decide)]
  split
  next h => exact absurd (List.cons.inj (List.cons.inj h).2).1 heq
  next h => exact absurd (List.cons.inj (List.cons.inj h).2).1 hgreater
  next h => rw [(List.cons.inj h).2]
  next h => exact absurd rfl (h _)

/-- A name with an initialiser is declared, if the initialiser declares nothing itself. -/
theorem declarator_of_eq {w name v rest after : List Char} {x : Char} {value : Expr}
    (hw : IsBlank w) (hname : isName name = true) (hv : IsBlank v) (heq : x ≠ '=')
    (hgreater : x ≠ '>')
    (hvalue : g.expression .open ⟨x :: rest, []⟩ = some (value, ⟨after, []⟩)) :
    ∃ bound : Word, bound.chars = name ∧
      g.declarator ⟨w ++ (name ++ (v ++ '=' :: x :: rest)), found⟩
        = some (true, ⟨after, ⟨bound, value⟩ :: found⟩) := by
  have hends : EndsWord (v ++ '=' :: x :: rest) :=
    endsWord_append hv (by decide) (by decide) (x :: rest)
  have haccept : accept equals ⟨v ++ '=' :: x :: rest, found⟩ = some (true, ⟨x :: rest, found⟩) :=
    accept_of_eq (equals_of_ne found hv heq hgreater)
  -- A literal declares nothing, so nothing goes before the name.
  have hcollect : collecting (g.expression ⟨true, true⟩) ⟨x :: rest, found⟩
      = some ((value, []), ⟨after, found⟩) := collecting_of_eq found hvalue
  obtain ⟨bound, hbound, htarget⟩ := g.bindingTarget_name found hw hname hends
  refine ⟨bound, hbound, ?_⟩
  rw [declarator, bind_of_eq htarget, initializer, bind_of_eq haccept, if_pos rfl,
    bind_of_eq hcollect]
  rfl

/-- A declaration of one name ends with a semicolon. -/
theorem declaration_of_eq {s rest : List Char} {found' : List Declarator}
    (h : g.declarator ⟨s, found⟩ = some (true, ⟨';' :: rest, found'⟩)) :
    g.declaration ⟨s, found⟩ = some ((), ⟨rest, found'⟩) := by
  have hend : skipBlank (';' :: rest) = ';' :: rest := skipBlank_of_beginsToken rest (by decide)
  have hmore : g.moreDeclarators true ⟨';' :: rest, found'⟩
      = some (true, ⟨';' :: rest, found'⟩) := by
    rw [moreDeclarators,
      bind_of_eq (many_of_none _ (bind_of_none (symbol_of_ne found' hend (by decide))))]
    rfl
  rw [declaration, bind_of_eq h, bind_of_eq hmore, statementEnd]
  exact orElse_of_eq (symbol_of_eq found' hend)

/-- A declaration behind blanks is a statement. -/
theorem statementPhrase_declaration {w s : List Char} {cursor : Cursor} (hw : IsBlank w)
    (h : g.declaration ⟨' ' :: s, found⟩ = some ((), cursor)) :
    g.statementPhrase ⟨w ++ 'v' :: 'a' :: 'r' :: ' ' :: s, found⟩ = some ((), cursor) := by
  have hends : EndsWord (' ' :: s) := endsWord_append isBlank_nil (by decide) (by decide) s
  have hword : word? ('v' :: 'a' :: 'r' :: ' ' :: s) = some (['v', 'a', 'r'], ' ' :: s) :=
    @word?_append 'v' ['a', 'r'] _ (by decide) (by decide) hends
  have hdeclaration : g.declaration? ('v' :: 'a' :: 'r' :: ' ' :: s)
      = some (do goTo (' ' :: s); g.declaration) := by
    rw [declaration?]
    simp only [hword]
  have htrivia : trivia ⟨w ++ 'v' :: 'a' :: 'r' :: ' ' :: s, found⟩
      = some ((), ⟨'v' :: 'a' :: 'r' :: ' ' :: s, found⟩) := by
    rw [trivia, skipTrivia_append_token hw _ (by decide)]
  have hplace : Parser.rest ⟨'v' :: 'a' :: 'r' :: ' ' :: s, found⟩
      = some ('v' :: 'a' :: 'r' :: ' ' :: s, ⟨'v' :: 'a' :: 'r' :: ' ' :: s, found⟩) := rfl
  rw [statementPhrase, bind_of_eq htrivia, bind_of_eq hplace]
  simp only [hdeclaration]
  exact h

/-- Behind the last declaration no statement stands. -/
theorem statementPhrase_of_isBlank {w : List Char} (hw : IsBlank w) :
    g.statementPhrase ⟨w, found⟩ = none := by
  have htrivia : trivia ⟨w, found⟩ = some ((), ⟨[], found⟩) := by
    rw [trivia, skipTrivia_of_isBlank hw]
  rw [statementPhrase, bind_of_eq htrivia]
  rfl

end Inner

/-- **A declaration of a literal is one statement**, and it declares the name and what is worth the
literal. -/
theorem statement_declaration {w v u s rest : List Char} {name : String} {l : Literal} {n : Nat}
    (found : List Declarator) (hw : IsBlank w) (hname : isName name.toList = true)
    (hv : IsBlank v) (hu : IsBlank u) (h : Written s l) (hn : s.length ≤ n) :
    ∃ (bound : Word) (value : Expr), bound.chars = name.toList ∧ value.literal? = .ok l ∧
      (grammar (n + 2)).statement ⟨w ++ 'v' :: 'a' :: 'r' :: ' ' ::
          (name.toList ++ (v ++ '=' :: (u ++ (s ++ ';' :: rest)))), found⟩
        = some ((), ⟨rest, ⟨bound, value⟩ :: found⟩) := by
  have hend : EndsValue (';' :: rest) := endsValue_append isBlank_nil (by decide) rest
  obtain ⟨o, hread, hmeans⟩ := h.operandPhrase hn hend .open 0 []
  obtain ⟨c, tail, rfl, hc⟩ := h.head
  have hbegins : beginsToken c = true := beginsToken_of_head hc
  have hvalue : (grammar (n + 1)).expression .open ⟨u ++ (c :: tail ++ ';' :: rest), []⟩
      = some (o.expr, ⟨';' :: rest, []⟩) := by
    have hoperand : (grammar (n + 1)).operand .open 0 ⟨u ++ (c :: tail ++ ';' :: rest), []⟩
        = some (o, ⟨';' :: rest, []⟩) := by
      rw [← hread, List.cons_append]
      exact (grammar n).operandPhrase_blank_append [] hu hbegins .open 0
    rw [Inner.expression, bind_of_eq hoperand, bind_of_eq (guard_of_pos hmeans.isValue _)]
    rfl
  -- What stands behind the equals sign is a blank or the beginning of the literal.
  obtain ⟨x, behind, hx, heq, hgreater⟩ : ∃ x behind,
      u ++ (c :: tail ++ ';' :: rest) = x :: behind ∧ x ≠ '=' ∧ x ≠ '>' := by
    obtain ⟨x, behind, hx, hblank | rfl⟩ := hu.exists_append_cons c (tail ++ ';' :: rest)
    · refine ⟨x, behind, hx, ?_, ?_⟩
      all_goals
        rintro rfl
        exact absurd hblank (by decide)
    · refine ⟨x, behind, hx, ?_, ?_⟩
      all_goals
        rintro rfl
        exact absurd hc (by decide)
  rw [hx] at hvalue ⊢
  obtain ⟨bound, hbound, hdeclarator⟩ :=
    (grammar (n + 1)).declarator_of_eq found isBlank_space hname hv heq hgreater hvalue
  refine ⟨bound, o.expr, hbound, hmeans.literal?, ?_⟩
  exact (grammar (n + 1)).statementPhrase_declaration found hw
    ((grammar (n + 1)).declaration_of_eq found hdeclarator)

/-! ## Rows of declarations -/

/-- A row of declarations is read statement by statement, up to blanks. -/
theorem Declares.many_statement {s : List Char} {bindings : List (String × Literal)}
    (h : Declares s bindings) {n : Nat} (hn : s.length ≤ n) :
    ∀ {k : Nat}, s.length ≤ k → ∀ found : List Declarator,
      ∃ units w declared, many k (grammar (n + 2)).statement ⟨s, found⟩
          = some (units, ⟨w, declared.reverse ++ found⟩) ∧ IsBlank w ∧
        bindings? declared = .ok bindings := by
  -- The declarations are found one in front of the other, so they are the latest first.
  induction h with
  | @nil w hw =>
      intro k _ found
      refine ⟨[], w, [], ?_, hw, rfl⟩
      exact many_of_none k ((grammar (n + 1)).statementPhrase_of_isBlank found hw)
  | @cons w v u s rest name l more hw hname hv hu h hrest ih =>
      intro k hk found
      simp only [List.length_append, List.length_cons] at hn hk
      obtain ⟨k, rfl⟩ : ∃ m, k = m + 1 := ⟨k - 1, by omega⟩
      have hlen : s.length ≤ n := by omega
      obtain ⟨bound, value, hbound, hvalue, hstatement⟩ :=
        @statement_declaration w v u s rest name l n found hw hname hv hu h hlen
      obtain ⟨units, behind, declared, hmany, hbehind, hbindings⟩ :=
        ih (by omega) (k := k) (by omega) (⟨bound, value⟩ :: found)
      refine ⟨() :: units, behind, ⟨bound, value⟩ :: declared, ?_, hbehind, ?_⟩
      · rw [many_of_eq hstatement hmany, List.reverse_cons, List.append_assoc,
          List.singleton_append]
      · simp only [bindings?, hvalue, hbindings, hbound, String.ofList_toList]

/-- The declarators of a text of declarations are worth what the text binds. -/
theorem declarators?_of_declares {s : List Char} {bindings : List (String × Literal)}
    (h : Declares s bindings) :
    ∃ declared, declarators? s = some declared ∧ bindings? declared = .ok bindings := by
  -- There is a level and a statement over for each character, and two more.
  obtain ⟨units, w, declared, hmany, hw, hbindings⟩ :=
    h.many_statement (Nat.le_refl s.length) (Nat.le_add_right s.length 2) []
  refine ⟨declared, ?_, hbindings⟩
  have hnul : s.contains '\x00' = false := by
    simpa using h.nul_not_mem
  have hprogram : (do
      let _ ← many (s.length + 2) (grammar (s.length + 2)).statement
      trivia : Parser Unit) ⟨skipInterpreterLine s, []⟩ = some ((), ⟨[], declared.reverse⟩) := by
    rw [h.skipInterpreterLine, bind_of_eq hmany, trivia, skipTrivia_of_isBlank hw, List.append_nil]
  rw [declarators?, hnul, if_neg (by decide)]
  simp only [hprogram, List.reverse_reverse]

/-- **A text of declarations is a script that binds each name to its literal.** -/
theorem parse_of_declares {source : String} {bindings : List (String × Literal)}
    (h : Declares source.toList bindings) : Script.parse source = .ok ⟨bindings⟩ := by
  obtain ⟨declared, hdeclared, hbindings⟩ := declarators?_of_declares h
  rw [Script.parse]
  simp only [hdeclared, hbindings]

end DocSite.Script
