import DocSite.Proofs.Script.Comment.Operand
import DocSite.Proofs.Script.Comment.Sign

/-! # Expressions around a comment

Operands with prefix operators, assignments and operators between operands are read alike with and
without a comment. -/

namespace DocSite.Script

open DocSite.Script.Parser DocSite.Text

namespace Insertion

variable {i : Insertion} {n : Nat} {g g' : Inner} {s s' : List Char}

/-- A phrase at a given place may be taken to be no longer than the text there. -/
theorem at_of_length {Q : Correspondence} {d : Nat} {α : Type} {E : α → α → Prop} {p p' : Parser α}
    (h : s.length < n → Alike (At s s') Q (s.length + 1) d E p p') :
    Alike (At s s') Q n d E p p' := by
  refine ⟨fun c c' hrest hfound hlen => ?_⟩
  rw [hrest.1] at hlen
  exact (h hlen).run c c' hrest hfound (hrest.1 ▸ Nat.lt_succ_self _)

section

variable {α : Type}

/-- One of the signs that are prefix operators alone stands at the next token. -/
def BeginsPrefix (s : List Char) : Prop :=
  ∃ c ∈ ['+', '-', '!', '~'], ∃ t, s = [c] ++ t

/-- The case of a prefix operator of one sign. -/
theorem match_prefix_of_sign (p : List Char → Parser α) (q r : Parser α) :
    (∀ t, s ≠ ['+', '+'] ++ t) → (∀ t, s ≠ ['-', '-'] ++ t) → BeginsPrefix s →
      (match s with
        | '+' :: '+' :: after | '-' :: '-' :: after => p after
        | '+' :: _ | '-' :: _ | '!' :: _ | '~' :: _ => q
        | _ => r) = q := by
  split
  case h_1 => exact fun hmore => absurd rfl (hmore _)
  case h_2 => exact fun _ hless => absurd rfl (hless _)
  case h_7 hplus hminus hnot htilde =>
    rintro - - ⟨c, hc, u, hu⟩
    simp only [List.mem_cons, List.not_mem_nil, or_false] at hc
    rcases hc with rfl | rfl | rfl | rfl
    · exact absurd hu (hplus _)
    · exact absurd hu (hminus _)
    · exact absurd hu (hnot _)
    · exact absurd hu (htilde _)
  all_goals exact fun _ _ _ => rfl

/-- The case of no prefix operator. -/
theorem match_prefix_of_none (p : List Char → Parser α) (q r : Parser α) :
    (∀ t, s ≠ ['+', '+'] ++ t) → (∀ t, s ≠ ['-', '-'] ++ t) → ¬BeginsPrefix s →
      (match s with
        | '+' :: '+' :: after | '-' :: '-' :: after => p after
        | '+' :: _ | '-' :: _ | '!' :: _ | '~' :: _ => q
        | _ => r) = r := by
  split
  case h_1 => exact fun hmore => absurd rfl (hmore _)
  case h_2 => exact fun _ hless => absurd rfl (hless _)
  case h_7 => exact fun _ _ _ => rfl
  all_goals exact fun _ _ hnone => absurd ⟨_, by decide, _, rfl⟩ hnone

/-- What begins with the signs of an update, with a prefix operator, or with neither, is alike. -/
theorem match_prefix {R Q : Correspondence} {d : Nat} {E : α → α → Prop}
    {p p' : List Char → Parser α} {q q' r r' : Parser α} (hr : Alike R Q n d E r r') :
    i.Begins s s' →
    (∀ t t', i.Follows t t' → t.length < s.length → Alike R Q n d E (p t) (p' t')) →
    (∀ c t t', s = [c] ++ t → s' = [c] ++ t' → i.Follows t t' → Alike R Q n d E q q') →
    Alike R Q n d E
      (match s with
        | '+' :: '+' :: after | '-' :: '-' :: after => p after
        | '+' :: _ | '-' :: _ | '!' :: _ | '~' :: _ => q
        | _ => r)
      (match s' with
        | '+' :: '+' :: after | '-' :: '-' :: after => p' after
        | '+' :: _ | '-' :: _ | '!' :: _ | '~' :: _ => q'
        | _ => r') := by
  intro hs hp hq
  obtain ⟨u, u', rfl, rfl, hu⟩ | ⟨hmore, hmore'⟩ := hs.sign ['+', '+'] (by decide)
  · exact hp u u' hu (length_lt_append ..)
  obtain ⟨u, u', rfl, rfl, hu⟩ | ⟨hless, hless'⟩ := hs.sign ['-', '-'] (by decide)
  · exact hp u u' hu (length_lt_append ..)
  by_cases hprefix : BeginsPrefix s
  · obtain ⟨c, hc, t, rfl⟩ := hprefix
    have hsymbol : ['+', '-', '!', '~'].all (isSymbol [·]) = true := by decide
    obtain ⟨u, u', hu, rfl, hfollows⟩ | ⟨hne, -⟩ := hs.sign [c] (List.all_eq_true.1 hsymbol c hc)
    · rw [match_prefix_of_sign p q r hmore hless ⟨c, hc, t, rfl⟩,
        match_prefix_of_sign p' q' r' hmore' hless' ⟨c, hc, u', rfl⟩]
      exact hq c u u' hu rfl hfollows
    · exact absurd rfl (hne t)
  · have hprefix' : ¬BeginsPrefix s' := by
      rintro ⟨c, hc, t, rfl⟩
      cases s with
      | nil => cases hs.head?_eq
      | cons x u =>
          obtain rfl := Option.some.inj hs.head?_eq
          exact hprefix ⟨x, hc, u, rfl⟩
    rw [match_prefix_of_none p q r hmore hless hprefix,
      match_prefix_of_none p' q' r' hmore' hless' hprefix']
    exact hr

end

namespace InnerAlike

variable (h : i.InnerAlike n g g')

include h

/-! ## New objects -/

/-- What follows the word `new` is alike. -/
theorem newRest (ctx : Context) (start start' : Place) {k k' m : Nat} (hm : m ≤ n) (hk : m ≤ k)
    (hk' : m ≤ k') :
    i.Keeps m Operand.Alike (g.newRest ctx start k) (g'.newRest ctx start' k') := by
  refine Alike.bounded_from (A := fun _ _ => True) (p := fun k start => g.newRest ctx start k)
    (q := fun k start => g'.newRest ctx start k) (fun m k l hm ih start start' _ => ?_) hm hk hk'
    trivial
  have hnew : i.Keeps (m + 1) Operand.Alike
      (do
        if ← accept (symbol ['(']) then g.arguments
        return { expr := .other start .newObject })
      (do
        if ← accept (symbol ['(']) then g'.arguments
        return { expr := .other start' .newObject }) :=
    .accept_bind (opens_symbol (by decide)).keeps
      ((h.arguments.keeps.less hm).bind fun _ _ _ => .pure (.other ..)) (.pure (.other ..))
  refine .accept_bind (opens_symbol (by decide)).keeps ?_ ?_
  · exact (opens_keyword _).keeps.bind fun _ _ _ => .pure (.other ..)
  · refine Alike.pre (trivia_rest_bind fun s s' hs hlen => ?_) fun _ _ => Follows.leads
    refine .cond (hs.startsWithWord_eq _) ?_ ?_
    · refine Alike.atLeast ?_ (Nat.zero_le 1)
      exact ((opens_keyword _).at hs).andThen fun _ _ _ =>
        (ih s s' trivial).bind fun _ _ _ => hnew.less (Nat.le_succ m)
    · refine .guard_bind (by simp only [hs.startsWithWord_eq]) fun _ => ?_
      refine (((h.primary ctx hs).less (by omega)).atLeast (Nat.zero_le 1)).bind ?_
      intro o o' ho
      have hbound := Nat.le_trans hm h.bound
      have hbound' := Nat.le_trans hm h.bound'
      refine (h.postfixes ctx .access s s' hm hbound hbound' ho).bind ?_
      exact fun _ _ ho => .guard_bind ho.isValue fun _ => hnew

/-! ## Prefix operators -/

/-- Operands of prefix operators are alike. -/
theorem prefixedOperand (ctx : Context) :
    i.Opens n Eq (g.prefixedOperand ctx) (g'.prefixedOperand ctx) :=
  (h.unary ctx).followed fun _ _ ho => Alike.guard ho.isValue

/-- Prefix operators with their operands are alike. -/
theorem prefixed (ctx : Context) {w t t' : List Char} (hw : 0 < w.length)
    (hs : i.Begins (w ++ t) (w ++ t')) (ht : i.Follows t t') :
    Alike (At (w ++ t) (w ++ t')) i.Follows (n + 1) 1 Operand.Alike
      (g.prefixed ctx (w ++ t) w.length) (g'.prefixed ctx (w ++ t') w.length) := by
  -- The operand is known to be read behind the operator only if the text bounds what is read.
  refine at_of_length fun hlen => ?_
  have hgoTo : Alike (At (w ++ t) (w ++ t')) i.Follows ((w ++ t).length + 1) 1 Eq
      (goTo ((w ++ t).drop w.length)) (goTo ((w ++ t').drop w.length)) := by
    rw [List.drop_left, List.drop_left]
    exact goTo_at ht (by rw [List.length_append]; omega)
  refine hgoTo.andThen fun _ _ _ => ?_
  refine ((h.prefixedOperand ctx).keeps.less (by omega)).bind fun _ _ _ => ?_
  refine Alike.rest_bind fun u u' hu hread =>
    Keeps.at (.pure ⟨.unary fun hnumeral => ?_, rfl, rfl⟩) hu
  obtain htake | ⟨c, hc, hsign⟩ := hs.take_alike hu hread
  · rw [htake]
  · exact absurd hnumeral (not_isNegatedNumeral_of_sign hsign hc)

/-! ## Operands and assignments -/

/-- What follows the word `yield` is alike. -/
theorem yieldRest (ctx : Context) : i.Keeps n Eq (g.yieldRest ctx) (g'.yieldRest ctx) := by
  have hvalue : i.Opens n Eq (do let _ ← g.expression ctx) (do let _ ← g'.expression ctx) :=
    (h.expression ctx).followed fun _ _ _ => .pure rfl
  refine Alike.rest_bind fun s s' hs _ =>
    .cond (by rw [hs.endsStatement_alike]) (Keeps.at (.pure rfl) hs) ?_
  refine Keeps.at (.accept_bind (opens_symbol (by decide)).keeps hvalue.keeps ?_) hs
  exact hvalue.row.accept.bind fun _ _ _ => .pure rfl

/-- Operands without assignments are alike. -/
theorem simpleOperand (ctx : Context) (hs : i.Begins s s') :
    Alike (At s s') i.Follows (n + 1) 1 Operand.Alike (g.simpleOperand ctx s)
      (g'.simpleOperand ctx s') := by
  have hfinish {o o' : Operand} (ho : o.Alike o') : i.Keeps n Operand.Alike
      (g.postfixes ctx .all s g.bound o) (g'.postfixes ctx .all s' g'.bound o') :=
    h.postfixes ctx .all s s' le_rfl h.bound h.bound' ho
  have hprimary : Alike (At s s') i.Follows (n + 1) 1 Operand.Alike
      (do g.postfixes ctx .all s g.bound (← g.primary ctx s))
      (do g'.postfixes ctx .all s' g'.bound (← g'.primary ctx s')) :=
    (h.primary ctx hs).andThen fun _ _ ho => hfinish ho
  refine match_prefix ?_ hs ?_ ?_
  · obtain ⟨hr, hr'⟩ | ⟨⟨w, after⟩, ⟨w', after'⟩, hr, hr', hw, hafter, hlen, -⟩ :=
      eq_of_rel hs.word?_alike
    · rw [hr, hr']
      exact hprimary
    rw [hr, hr']
    obtain rfl : w = w' := hw
    obtain rfl := eq_append_of_word? hr
    obtain rfl := eq_append_of_word? hr'
    have hgoTo : Alike (At (w ++ after) (w ++ after')) i.Follows (n + 1) 1 Eq (goTo after)
        (goTo after') :=
      goTo_at hafter hlen
    have hprefixed (spelling : String) (hw : String.ofList w = spelling)
        (hpos : 0 < spelling.toList.length) :
        Alike (At (w ++ after) (w ++ after')) i.Follows (n + 1) 1 Operand.Alike
          (g.prefixed ctx (w ++ after) spelling.toList.length)
          (g'.prefixed ctx (w ++ after') spelling.toList.length) := by
      subst hw
      rw [String.toList_ofList] at hpos ⊢
      exact h.prefixed ctx hpos hs hafter
    dsimp only
    split
    case h_1 heq => exact hprefixed _ heq (by decide)
    case h_2 heq => exact hprefixed _ heq (by decide)
    case h_3 heq => exact hprefixed _ heq (by decide)
    case h_4 =>
      exact hgoTo.andThen fun _ _ _ => (h.prefixedOperand ctx).keeps.bind fun _ _ _ =>
        .pure (.other ..)
    case h_5 =>
      exact hgoTo.andThen fun _ _ _ => (h.yieldRest ctx).bind fun _ _ _ => .pure (.other ..)
    case h_6 =>
      exact hgoTo.andThen fun _ _ _ =>
        (h.newRest ctx _ _ le_rfl h.bound h.bound').bind fun _ _ ho => hfinish ho
    case h_7 => exact hprimary
  · exact fun t t' ht hlen => (goTo_at ht hlen).andThen fun _ _ _ =>
      (h.prefixedOperand ctx).keeps.bind fun _ _ _ => hfinish (.other ..)
  · rintro c t t' rfl rfl ht
    exact h.prefixed ctx (Nat.lt_succ_self _) hs ht

/-- Assignments that combine with an old value are alike. -/
theorem combinedWith (ctx : Context) (start start' : Place) {o o' : Operand} (ho : o.Alike o') :
    i.Keeps n Operand.Alike (g.combinedWith ctx start o) (g'.combinedWith ctx start' o') := by
  refine keeps_ahead_bind fun s s' hs _ => ?_
  obtain ⟨hr, hr'⟩ | ⟨r, r', hr, hr', hafter, hlen, -⟩ := eq_of_rel hs.combiningAssignment?_alike
  · rw [hr, hr']
    exact before (.pure ho)
  · rw [hr, hr']
    exact ((goTo_before hafter hlen).atLeast (Nat.zero_le 1)).bind fun _ _ _ =>
      (h.expression ctx).keeps.bind fun _ _ _ => .pure (.other ..)

/-- Operands and assignments to them are alike. -/
theorem assignment (ctx : Context) (hs : i.Begins s s') :
    Alike (At s s') i.Follows (n + 1) 1 Operand.Alike (g.assignment ctx s)
      (g'.assignment ctx s') := by
  refine (h.simpleOperand ctx hs).andThen fun o o' ho => ?_
  have hsign : i.Keeps n Eq (do guard (o.shape.isAssignable = true); equals)
      (do guard (o'.shape.isAssignable = true); equals) :=
    .guard_bind (congrArg Shape.isAssignable ho.shape) fun _ => opens_equals.keeps
  have hcombined : i.Keeps n Operand.Alike
      (if o.shape.isUpdatable then g.combinedWith ctx s o else return o)
      (if o'.shape.isUpdatable then g'.combinedWith ctx s' o' else return o') :=
    .cond (congrArg Shape.isUpdatable ho.shape) (h.combinedWith ctx s s' ho) (.pure ho)
  refine .accept_bind hsign ?_ hcombined
  exact (h.expression ctx).keeps.bind fun _ _ _ => .pure ⟨.other .., by rw [ho.shape], rfl⟩

/-! ## Operators between operands -/

/-- Operators behind operands are alike. -/
theorem operators (ctx : Context) (start start' : Place) (level : Nat) {k k' m : Nat}
    (hm : m ≤ n) (hk : m ≤ k) (hk' : m ≤ k') {o o' : Operand} (ho : o.Alike o') :
    i.Keeps m Operand.Alike (g.operators ctx start level k o)
      (g'.operators ctx start' level k' o') := by
  refine Alike.bounded_from (p := g.operators ctx start level) (q := g'.operators ctx start' level)
    (fun m k l hlt ih o o' ho => ?_) hm hk hk' ho
  have hm := hlt.le
  have hmore (construct : Construct) : i.Keeps m Operand.Alike
      (g.operators ctx start level k { expr := .other start construct })
      (g'.operators ctx start' level l { expr := .other start' construct }) :=
    ih _ _ (.other ..)
  have hreturn : i.Keeps (m + 1) Operand.Alike (pure o) (pure o') := .pure ho
  have hright (inner : Nat) (construct : Construct) : i.Keeps m Operand.Alike
      (do
        guard (← g.operand ctx inner).isValue
        g.operators ctx start level k { expr := .other start construct })
      (do
        guard (← g'.operand ctx inner).isValue
        g'.operators ctx start' level l { expr := .other start' construct }) :=
    ((h.operand ctx inner).keeps.less hm).bind fun _ _ ho =>
      .guard_bind ho.isValue fun _ => hmore construct
  refine .cond (by rw [ho.isValue]) hreturn ?_
  refine keeps_ahead_bind fun s s' hs hlen => ?_
  obtain ⟨hr, hr'⟩ | ⟨⟨found, after⟩, ⟨found', after'⟩, hr, hr', hfound, hafter, hread, -⟩ :=
    eq_of_rel (hs.binaryOperator?_alike ctx.takesIn)
  · rw [hr, hr']
    obtain ⟨hr, hr'⟩ | ⟨r, r', hr, hr', hafter, hread, -⟩ := eq_of_rel hs.conditional?_alike
    · rw [hr, hr']
      exact before hreturn
    · rw [hr, hr']
      dsimp only
      split
      next => exact before hreturn
      next =>
        refine ((goTo_before hafter hread).andThen fun _ _ _ => ?_).atLeast (Nat.zero_le 1)
        exact ((h.expression _).keeps.less hm).bind fun _ _ _ =>
          (opens_symbol (by decide)).keeps.bind fun _ _ _ => hright _ _
  · obtain rfl : found = found' := hfound
    rw [hr, hr']
    dsimp only
    split
    next => exact before hreturn
    next =>
      exact ((goTo_before hafter hread).andThen fun _ _ _ => hright _ _).atLeast (Nat.zero_le 1)

/-- Operands with what binds to them most tightly are alike. -/
theorem unaryPhrase (ctx : Context) :
    i.Opens (n + 1) Operand.Alike (g.unaryPhrase ctx) (g'.unaryPhrase ctx) :=
  trivia_rest_bind fun _ _ hs _ => h.assignment ctx hs

/-- Operands with operators are alike. -/
theorem operandPhrase (ctx : Context) (level : Nat) :
    i.Opens (n + 1) Operand.Alike (g.operandPhrase ctx level) (g'.operandPhrase ctx level) :=
  trivia_rest_bind fun s s' hs _ => (h.assignment ctx hs).andThen fun _ _ ho =>
    h.operators ctx s s' level le_rfl h.bound h.bound' ho

end InnerAlike

end Insertion

end DocSite.Script
