import DocSite.Proofs.Script.Comment.Statement
import DocSite.Script.Grammar

/-! # Comments in initialisers

A comment within a line may stand between two tokens of an initialiser without changing what is
read, if one of them is the sign of a list: a bracket, a brace, a parenthesis, a comma or a colon
(`parse_comment`). Only in a computed key it may not stand, because the text of such a key is kept,
comments included.
Behind a minus sign no comment may stand (`unsupported_of_slash`): the text of the operand is read
like a numeral, and no numeral holds a slash. -/

namespace DocSite.Script

open DocSite.Script.Parser DocSite.Text

/-! ## Whole scripts -/

/-- All statements of a script. -/
def statements (k : Nat) : Parser Unit := do
  let _ ← many k (grammar k).statement
  trivia

/-- In a script there is no null character. -/
theorem not_mem_of_declarators? {source : List Char} {ds : List Declarator}
    (h : declarators? source = some ds) : '\x00' ∉ source := by
  intro hmem
  rw [declarators?, if_pos (List.contains_iff_mem.2 hmem)] at h
  cases h

/-- What a text without null characters and without an interpreter line declares. -/
theorem declarators?_eq {source : List Char} (hnul : '\x00' ∉ source)
    (hsource : skipInterpreterLine source = source) : declarators? source =
      (match statements (source.length + 2) ⟨source, []⟩ with
        | some (_, ⟨[], found⟩) => some found.reverse
        | _ => none) := by
  rw [declarators?, if_neg (mt List.contains_iff_mem.1 hnul), hsource]
  rfl

namespace Insertion

variable (i : Insertion)

/-- The levels of the grammar are alike. -/
theorem grammar_alike {n N N' : Nat} (hN : n ≤ N) (hN' : n ≤ N') :
    i.InnerAlike n (grammar N) (grammar N') := by
  induction n generalizing N N' with
  | zero =>
      -- On texts of no characters only an element is asked for, and none begins there.
      refine ⟨Nat.zero_le _, Nat.zero_le _, fun _ _ => Alike.of_zero, fun _ => Alike.of_zero,
        Alike.of_zero, ⟨fun c c' hrest hfound hlen => ?_⟩⟩
      have hnone (N : Nat) {c : Cursor} (h : c.rest = []) : (grammar N).markup c = none := by
        cases N with
        | zero => rfl
        | succ N =>
            obtain ⟨rest, found⟩ := c
            cases h
            rfl
      have hnil : c.rest = [] := List.eq_nil_of_length_eq_zero (Nat.lt_one_iff.1 hlen)
      rw [hnone N hnil, hnone N' (hrest.1 ▸ hnil)]
      exact .none
  | succ n ih =>
      obtain ⟨M, rfl⟩ : ∃ M, N = M + 1 := ⟨N - 1, by omega⟩
      obtain ⟨M', rfl⟩ : ∃ M', N' = M' + 1 := ⟨N' - 1, by omega⟩
      have h : i.InnerAlike n (grammar M) (grammar M') := ih (by omega) (by omega)
      exact ⟨hN, hN', h.operandPhrase, h.unaryPhrase, h.statementPhrase, h.markupElement⟩

/-- Scripts are alike up to the end of their statements. -/
theorem statements_alike {n k k' : Nat} (hk : n ≤ k) (hk' : n ≤ k') :
    Alike i.Leads i.Begins n 0 Eq (statements k) (statements k') := by
  have hstatement : Alike i.Leads i.Leads n 1 Eq (grammar k).statement (grammar k').statement :=
    (i.grammar_alike hk hk').statement.mono (fun _ _ h => h) (fun _ _ => Follows.leads) le_rfl
      le_rfl
  exact (hstatement.many (by omega) (by omega)).bind fun _ _ _ => leads_trivia

variable {i}

/-- A text in front of a comment begins with no interpreter line. -/
theorem skipInterpreterLine_of_front {s r : List Char} (h : Front i.behind s)
    (hr : r = i.behind ∨ ∃ more, r = '/' :: more) : skipInterpreterLine (s ++ r) = s ++ r := by
  -- An interpreter line begins with a sharp, and that begins no token of a clear text.
  obtain ⟨t, ht, hbegins, hskip⟩ := h.exists_token
  have htrivia : skipTrivia (s ++ r) = t ++ r := by
    rw [skipTrivia_of_none, hskip]
    rw [hskip]
    exact markupComment?_of_front ht hbegins hr
  rw [skipInterpreterLine.eq_def, htrivia]
  split
  next rest heq =>
    obtain ⟨c, more, rfl, ⟨hplain, -⟩ | hquote | hblank⟩ := ht.exists_cons
    · obtain rfl := (List.cons.inj heq).1
      exact absurd hplain (by decide)
    · obtain rfl := (List.cons.inj heq).1
      exact absurd hquote (by decide)
    · obtain rfl := (List.cons.inj heq).1
      exact absurd hblank (by decide)
  next => rfl

/-- Where the first reading finds declarations, the other one does, and they mean the same. -/
theorem declarators?_alike {before : List Char} {ds : List Declarator} (h : Front i.behind before)
    (hnul : '\x00' ∉ i.comment.body) (hds : declarators? (before ++ i.behind) = some ds) :
    ∃ ds', declarators? (before ++ i.commented) = some ds' ∧
      List.Forall₂ Declarator.Alike ds ds' := by
  have hsource := not_mem_of_declarators? hds
  have hcommented : '\x00' ∉ before ++ i.commented := by
    simp only [List.mem_append, not_or] at hsource
    simp [commented, BlockComment.chars, hsource, hnul]
  -- The bound of the second reading is larger, and counts only as a bound of the first text.
  have hlen : (before ++ i.behind).length ≤ (before ++ i.commented).length := by
    simp [commented]
  have hleads : i.Leads (before ++ i.behind) (before ++ i.commented) := (Follows.front h).leads
  have hstatements : Alike i.Leads i.Begins ((before ++ i.behind).length + 1) 0 Eq
      (statements ((before ++ i.behind).length + 2))
      (statements ((before ++ i.commented).length + 2)) :=
    i.statements_alike (by omega) (by omega)
  rw [declarators?_eq hsource (skipInterpreterLine_of_front h (Or.inl rfl))] at hds
  rw [declarators?_eq hcommented (skipInterpreterLine_of_front h (Or.inr i.exists_commented_eq))]
  obtain ⟨hr, hr'⟩ | ⟨⟨_, rest, found⟩, ⟨_, rest', found'⟩, hr, hr', hend⟩ :=
    eq_of_rel (hstatements.run ⟨_, []⟩ ⟨_, []⟩ hleads .nil (Nat.lt_succ_self _))
  · rw [hr] at hds
    cases hds
  · rw [hr] at hds
    rw [hr']
    obtain ⟨rfl, rfl⟩ | ⟨c, t, t', rfl, -, -⟩ := Begins.exists_cons hend.rest
    · cases hds
      exact ⟨_, rfl, List.rel_reverse hend.found⟩
    · cases hds

end Insertion

/-- Behind a minus sign no comment may stand, wherever the sign is in an initialiser. -/
theorem unsupported_of_slash {source : String} {ds : List Declarator}
    (hds : declarators? source.toList = some ds) {d : Declarator} (hd : d ∈ ds) {place : Place}
    {text : List Char} (hwithin : (Expr.unary place text).Within d.value) (hslash : '/' ∈ text) :
    ∃ what line column, Script.parse source = .error (.unsupported what line column) := by
  rw [Script.parse]
  simp only [hds]
  cases hread : bindings? ds with
  | error e => exact ⟨e.what, _, _, rfl⟩
  | ok bindings =>
      have hall := isOk_bindings?_iff.1 (isOk_iff_exists.2 ⟨bindings, hread⟩)
      have hdata := ((isOk_literal?_iff d.value).1 (hall d hd)).of_within hwithin
      exact absurd (isData_unary_iff.1 hdata) (not_isNegatedNumeral_of_slash hslash)

/-- **A comment within a line that touches a sign of a list does not matter.** It may stand between
any two tokens of an initialiser of which one is such a sign, if it gets into no computed key.

The hypotheses ask for more than is needed. In front, what could open a stretch of text that runs
over the place (a slash, a less-than sign, a backquote, a backslash, a sharp) is excluded outside of
string literals and comments (`Front`), also where it is an operator or closed again. If anything is
between the comment and the token in front, no comment to the end of a line may stand behind
(`IsQuiet`): the comment gives the look-ahead for the end of a statement another place to begin at,
and there a comment that ends its line may end the statement. No comment at all may begin in a
computed key, though only the new one would change its text. -/
theorem parse_comment {k : BlockComment} (hk : k.IsOneLine) (hnul : '\x00' ∉ k.body)
    {before behind : List Char} (hfront : Front behind before) {script : Script}
    (hparse : Script.parse (String.ofList (before ++ behind)) = .ok script)
    (hkeys : ∀ ds, declarators? (before ++ (k.chars ++ behind)) = some ds →
      ∀ d ∈ ds, d.value.IsUncommented) :
    Script.parse (String.ofList (before ++ (k.chars ++ behind))) = .ok script := by
  rw [Script.parse, String.toList_ofList] at hparse ⊢
  cases hds : declarators? (before ++ behind) with
  | none =>
      rw [hds] at hparse
      cases hparse
  | some ds =>
      let i : Insertion := ⟨k, hk, behind⟩
      obtain ⟨ds', hds', halike⟩ := i.declarators?_alike hfront hnul hds
      have hcommented : declarators? (before ++ (k.chars ++ behind)) = some ds' := hds'
      rw [hds] at hparse
      rw [hcommented]
      dsimp only at hparse ⊢
      cases hok : bindings? ds with
      | ok bindings =>
          have hdata : ∀ d ∈ ds, IsData .accepted d.value := fun d hd =>
            (isOk_literal?_iff d.value).1
              (isOk_bindings?_iff.1 (isOk_iff_exists.2 ⟨bindings, hok⟩) d hd)
          -- The declarations differ in their places, but they bind the same.
          rw [bindings?_congr halike hdata (hkeys ds' hcommented), hok]
          rw [hok] at hparse
          exact hparse
      | error e =>
          rw [hok] at hparse
          cases hparse

/-- A short comment. -/
def shortComment : BlockComment := ⟨['c'], by decide⟩

/-- The beginning of a script, up to an opening parenthesis behind a computed key. -/
def nestedBefore : List Char := "var A = [\x7b[1]: false, k: ".toList ++ ['(']

/-- The rest of that script. -/
def nestedBehind : List Char := "null)\x7d];".toList

/-- Whether an expression has the shape of the initialiser in that script. -/
def Expr.isNested : Expr → Bool
  | .array [.item (.object [.pair (.computed text) (.bool _), .pair (.word _) (.paren .null)])] =>
      text == "[1]".toList
  | _ => false

/-- In the computed key of such an expression no comment begins. -/
theorem isUncommented_of_isNested {e : Expr} (h : e.isNested = true) : e.IsUncommented := by
  rw [Expr.isNested.eq_def] at h
  split at h
  next text _ _ =>
    obtain rfl : text = "[1]".toList := eq_of_beq h
    refine isUncommented_array_iff.2 fun value hmem => ?_
    obtain rfl : value = _ := by simpa using hmem
    refine isUncommented_object_iff.2 fun key value hmem => ?_
    simp only [List.mem_cons, List.not_mem_nil, or_false, Entry.pair.injEq] at hmem
    rcases hmem with ⟨rfl, rfl⟩ | ⟨rfl, rfl⟩
    · refine ⟨?_, fun entries hwithin => by cases hwithin⟩
      show ¬['/', '*'] <:+: "[1]".toList
      decide
    · exact ⟨trivial, isUncommented_paren_iff.2 fun entries hwithin => by cases hwithin⟩
  next => cases h

/-- In an array, an object and parentheses a comment may stand, also behind a computed key. -/
theorem parse_comment_nested : ∃ script,
    Script.parse (String.ofList (nestedBefore ++ nestedBehind)) = .ok script ∧
      Script.parse (String.ofList (nestedBefore ++ (shortComment.chars ++ nestedBehind)))
        = .ok script := by
  have hok : (Script.parse (String.ofList (nestedBefore ++ nestedBehind))).isOk = true := by
    decide +kernel
  have hshape : (declarators? (nestedBefore ++ (shortComment.chars ++ nestedBehind))).all
      (·.all (·.value.isNested)) = true := by
    decide +kernel
  have hfront : Front nestedBehind nestedBefore :=
    Front.append_clear (by decide +kernel)
      (.lastChar (by decide) ⟨.nil, Or.inl rfl⟩ (Or.inl (by decide)))
  obtain ⟨script, hscript⟩ := isOk_iff_exists.1 hok
  refine ⟨script, hscript, parse_comment (by decide) (by decide) hfront hscript ?_⟩
  intro ds hds d hd
  rw [hds] at hshape
  exact isUncommented_of_isNested (List.all_eq_true.1 hshape d hd)

/-- Whether a script binds an object with the key. -/
def holdsKey (key : String) (script : Script) : Bool :=
  script.bindings.any fun binding => match binding.2 with
    | .object fields => fields.any (·.1 == key)
    | _ => false

/-- **A comment may matter.** A minus sign and a computed key are kept by their texts, so a comment
behind the one is refused, and a comment inside the other is a part of the key. -/
theorem parse_comment_kept : ∃ k : BlockComment, k.IsOneLine ∧
    ((∃ script, Script.parse (String.ofList ("var A = -".toList ++ "1;".toList)) = .ok script ∧
        Script.parse (String.ofList ("var A = -".toList ++ (k.chars ++ "1;".toList)))
          ≠ .ok script) ∧
      ∃ script,
        Script.parse (String.ofList ("var A = \x7b[".toList ++ "1]: 2\x7d;".toList)) = .ok script ∧
          Script.parse (String.ofList ("var A = \x7b[".toList ++ (k.chars ++ "1]: 2\x7d;".toList)))
            ≠ .ok script) := by
  have hsigned :
      (Script.parse (String.ofList ("var A = -".toList ++ "1;".toList))).isOk = true := by
    decide +kernel
  have hrefused : (Script.parse (String.ofList ("var A = -".toList ++
      (shortComment.chars ++ "1;".toList)))).isOk = false := by
    decide +kernel
  have hkey : (Script.parse (String.ofList ("var A = \x7b[".toList ++
      "1]: 2\x7d;".toList))).toOption.any (holdsKey "[1]") = true := by
    decide +kernel
  have hlonger : (Script.parse (String.ofList ("var A = \x7b[".toList ++
      (shortComment.chars ++ "1]: 2\x7d;".toList)))).toOption.any (holdsKey "[1]") = false := by
    decide +kernel
  refine ⟨shortComment, by decide, ?_, ?_⟩
  · obtain ⟨script, hscript⟩ := isOk_iff_exists.1 hsigned
    refine ⟨script, hscript, fun heq => ?_⟩
    rw [heq] at hrefused
    cases hrefused
  · obtain ⟨script, hscript, hholds⟩ := (Option.any_eq_true _ _).1 hkey
    cases hread : Script.parse (String.ofList ("var A = \x7b[".toList ++ "1]: 2\x7d;".toList)) with
    | error e =>
        rw [hread] at hscript
        cases hscript
    | ok found =>
        rw [hread] at hscript
        cases hscript
        refine ⟨script, rfl, fun heq => ?_⟩
        rw [heq] at hlonger
        exact Bool.false_ne_true (hlonger.symm.trans hholds)

end DocSite.Script
