import DocSite.Proofs.Script.Comment.Function
import DocSite.Proofs.Script.Comment.Markup
import DocSite.Script.Grammar.Expression

/-! # Operands around a comment

Primary phrases, and the accesses, calls and updates behind them, are read alike with and without a
comment. -/

namespace DocSite.Script

open DocSite.Script.Parser

/-- What a number or a word begins, among primary phrases. -/
def Inner.numberOrWord (g : Inner) (ctx : Context) (start : Place) : Parser Operand :=
  match asNumber? start with
  | some (token, after) => do
      goTo after
      return { expr := .number start token }
  | none => do g.wordPhrase ctx start (← immediate word?)

namespace Insertion

variable {i : Insertion} {n : Nat} {g g' : Inner} {s s' : List Char}

/-- Properties behind a point are alike. -/
theorem opens_property : i.Opens n Eq property property := by
  refine blank_rest_bind fun s s' hs hlen => ?_
  have hword : Alike (At s s') i.Follows n 1 Eq (do let _ ← word) (do let _ ← word) :=
    (opens_word.at hs).followed fun _ _ _ => .pure rfl
  obtain ⟨rfl, rfl⟩ | ⟨c, t, t', rfl, rfl, -⟩ := hs.exists_cons
  · exact hword
  · by_cases hprivate : c = '#'
    · subst hprivate
      have hpast := hs.past_of_cons (by decide) (by decide)
      exact follows_of_past ((goTo_past hpast (Nat.lt_succ_self _)).followed fun _ _ _ =>
        ((past_immediate fun _ _ _ => length_word?).atLeast (Nat.zero_le 1)).bind
          fun _ _ _ => .pure rfl)
    · split
      case h_2 =>
        split
        case h_2 => exact hword
        case h_1 =>
          injections
          contradiction
      case h_1 =>
        injections
        contradiction

/-- A digit follows in both readings or in none. -/
theorem Continues.isDigit_head?_eq (h : i.Continues s s') :
    (s.head?.map Char.isDigit == some true) = (s'.head?.map Char.isDigit == some true) := by
  have hany (s : List Char) :
      (s.head?.map Char.isDigit == some true) = s.head?.any Char.isDigit := by
    cases s <;> simp
  rw [hany, hany, h.any_head? fun c hc =>
    isInner_of_continuesWord (by simp [continuesWord, hc])]

/-- Where an arrow stands, other phrases are alike than elsewhere. -/
theorem match_arrow {R Q : Correspondence} {d : Nat} {α : Type} {E : α → α → Prop}
    {p p' q q' : Parser α} (hp : Alike R Q n d E p p') (hq : Alike R Q n d E q q') :
    i.Begins s s' → Alike R Q n d E
      (match s with
        | '=' :: '>' :: _ => p
        | _ => q)
      (match s' with
        | '=' :: '>' :: _ => p'
        | _ => q') := by
  intro hs
  obtain ⟨u, u', rfl, rfl, -⟩ | ⟨harrow, harrow'⟩ := hs.sign ['=', '>'] (by decide)
  · exact hp
  split
  case h_2 =>
    split
    case h_2 => exact hq
    case h_1 => exact absurd rfl (harrow' _)
  case h_1 => exact absurd rfl (harrow _)

namespace InnerAlike

variable (h : i.InnerAlike n g g')

include h

/-! ## Accesses, calls and updates -/

section

variable {m : Nat} (hm : m ≤ n) {α : Type} {E : α → α → Prop} {p p' q q' r r' : Parser α}
  (hp : i.Keeps m E p p')

include hm hp

/-- What follows a subscript is alike. -/
theorem behind_subscript : i.Keeps m E (do let _ ← g.expressions .closed; symbol [']']; p)
    (do let _ ← g'.expressions .closed; symbol [']']; p') :=
  ((h.expressions _).keeps.less hm).bind fun _ _ _ => (opens_symbol (by decide)).keeps.bind
    fun _ _ _ => hp

/-- What follows the arguments of a call is alike. -/
theorem behind_arguments : i.Keeps m E (do g.arguments; p) (do g'.arguments; p') :=
  (h.arguments.keeps.less hm).bind fun _ _ _ => hp

/-- What follows a template is alike. -/
theorem behind_template : Alike i.Past i.Follows m 0 E (do g.templateBody; p)
    (do g'.templateBody; p') :=
  (h.templateBody.less hm).bind fun _ _ _ => hp.pre fun _ _ => Past.follows

/-- What follows the sign of an optional access is alike. -/
theorem behind_optional (hq : i.Keeps m E q q') (hr : i.Keeps m E r r') : i.Keeps m E
    (do
      blank
      match ← rest with
      | '[' :: after =>
          goTo after
          let _ ← g.expressions .closed
          symbol [']']
          p
      | '(' :: after =>
          goTo after
          g.arguments
          q
      | '`' :: after =>
          goTo after
          g.templateBody
          q
      | _ =>
          property
          r)
    (do
      blank
      match ← rest with
      | '[' :: after =>
          goTo after
          let _ ← g'.expressions .closed
          symbol [']']
          p'
      | '(' :: after =>
          goTo after
          g'.arguments
          q'
      | '`' :: after =>
          goTo after
          g'.templateBody
          q'
      | _ =>
          property
          r') := by
  refine (blank_rest_bind fun s s' hs _ => ?_).pre fun _ _ => Follows.leads
  obtain ⟨u, u', rfl, rfl, hu⟩ | ⟨hbracket, hbracket'⟩ := hs.sign ['['] (by decide)
  · exact ((goTo_at hu (length_lt_append ..)).atLeast (Nat.zero_le 1)).bind fun _ _ _ =>
      h.behind_subscript hm hp
  obtain ⟨u, u', rfl, rfl, hu⟩ | ⟨hcall, hcall'⟩ := hs.sign ['('] (by decide)
  · exact ((goTo_at hu (length_lt_append ..)).atLeast (Nat.zero_le 1)).bind fun _ _ _ =>
      h.behind_arguments hm hq
  obtain ⟨u, u', rfl, rfl, hu⟩ | ⟨hquote, hquote'⟩ := hs.sign ['`'] (by decide)
  · have hpast := hs.past_of_cons (by decide) (by decide)
    exact ((goTo_past hpast (length_lt_append ..)).atLeast (Nat.zero_le 1)).bind fun _ _ _ =>
      h.behind_template hm hq
  split
  case h_4 =>
    split
    case h_4 => exact ((opens_property.at hs).atLeast (Nat.zero_le 1)).bind fun _ _ _ => hr
    all_goals first
      | exact absurd rfl (hbracket' _)
      | exact absurd rfl (hcall' _)
      | exact absurd rfl (hquote' _)
  all_goals first
    | exact absurd rfl (hbracket _)
    | exact absurd rfl (hcall _)
    | exact absurd rfl (hquote _)

end

/-- Accesses, calls and updates are alike. -/
theorem postfixes (ctx : Context) (reach : Reach) (start start' : Place) {k k' m : Nat}
    (hm : m ≤ n) (hk : m ≤ k) (hk' : m ≤ k') {o o' : Operand} (ho : o.Alike o') :
    i.Keeps m Operand.Alike (g.postfixes ctx reach start k o)
      (g'.postfixes ctx reach start' k' o') := by
  refine Alike.bounded_from (p := g.postfixes ctx reach start) (q := g'.postfixes ctx reach start')
    (fun m k l hlt ih o o' ho => ?_) hm hk hk' ho
  have hm := hlt.le
  -- What each case reads begins with a sign, so the rest is shorter and `ih` applies to it.
  have hmore {construct : Construct} {shape : Shape} : i.Keeps m Operand.Alike
      (g.postfixes ctx reach start k { expr := .other start construct, shape })
      (g'.postfixes ctx reach start' l { expr := .other start' construct, shape }) :=
    ih _ _ (.other ..)
  have hreturn : i.Keeps (m + 1) Operand.Alike (pure o) (pure o') := .pure ho
  have hupdate {s s' after after' : List Char} (hafter : i.Follows after after')
      (hlen : after.length < s.length) :
      Alike (Before i.Follows s s') i.Follows (m + 1) 0 Operand.Alike
        (do
          if ctx.breaks && endsStatement true (← rest) then return o
          else
            goTo after
            g.postfixes ctx reach start k { expr := .other start .update })
        (do
          if ctx.breaks && endsStatement true (← rest) then return o'
          else
            goTo after'
            g'.postfixes ctx reach start' l { expr := .other start' .update }) := by
    refine Alike.rest_bind fun t t' ⟨hfollows, ht, _⟩ _ => ?_
    have hskip := length_skipBlank_le t
    refine .cond (by rw [hfollows.endsStatement_alike]) (Keeps.at hreturn hfollows) ?_
    exact ((goTo_at hafter (by rw [ht] at hskip; omega)).andThen fun _ _ _ => hmore).atLeast
      (Nat.zero_le 1)
  refine .cond (by rw [ho.isValue]) hreturn ?_
  refine keeps_ahead_bind fun s s' hs hlen => ?_
  obtain ⟨u, u', rfl, rfl, hu⟩ | ⟨hpoint, hpoint'⟩ := hs.sign ['.'] (by decide)
  · exact ((goTo_before hu (length_lt_append ..)).andThen fun _ _ _ => opens_property.keeps.bind
      fun _ _ _ => hmore).atLeast (Nat.zero_le 1)
  obtain ⟨u, u', rfl, rfl, hu⟩ | ⟨hoptional, hoptional'⟩ :=
    hs.part '?' ['.'] (by decide) (by decide)
  · refine .cond hu.isDigit_head?_eq (before hreturn) ?_
    exact ((goTo_before hu.follows (length_lt_append ..)).andThen fun _ _ _ =>
      h.behind_optional hm hmore hmore hmore).atLeast (Nat.zero_le 1)
  obtain ⟨u, u', rfl, rfl, hu⟩ | ⟨hbracket, hbracket'⟩ := hs.sign ['['] (by decide)
  · exact ((goTo_before hu (length_lt_append ..)).andThen fun _ _ _ =>
      h.behind_subscript hm hmore).atLeast (Nat.zero_le 1)
  obtain ⟨u, u', rfl, rfl, hu⟩ | ⟨hquote, hquote'⟩ := hs.sign ['`'] (by decide)
  · have hpast := hs.past_of_cons (by decide) (by decide)
    exact ((goTo_before_past hpast (length_lt_append ..)).andThen fun _ _ _ =>
      h.behind_template hm hmore).atLeast (Nat.zero_le 1)
  obtain ⟨u, u', rfl, rfl, hu⟩ | ⟨hcall, hcall'⟩ := hs.sign ['('] (by decide)
  · cases reach with
    | access => exact before hreturn
    | all =>
        exact ((goTo_before hu (length_lt_append ..)).andThen fun _ _ _ =>
          h.behind_arguments hm hmore).atLeast (Nat.zero_le 1)
  obtain ⟨u, u', rfl, rfl, hu⟩ | ⟨hplus, hplus'⟩ := hs.sign ['+', '+'] (by decide)
  · cases reach with
    | access => exact before hreturn
    | all => exact hupdate hu (length_lt_append ..)
  obtain ⟨u, u', rfl, rfl, hu⟩ | ⟨hminus, hminus'⟩ := hs.sign ['-', '-'] (by decide)
  · cases reach with
    | access => exact before hreturn
    | all => exact hupdate hu (length_lt_append ..)
  split
  case h_8 =>
    split
    case h_8 => exact before hreturn
    all_goals first
      | exact absurd rfl (hpoint' _)
      | exact absurd rfl (hoptional' _)
      | exact absurd rfl (hbracket' _)
      | exact absurd rfl (hquote' _)
      | exact absurd rfl (hcall' _)
      | exact absurd rfl (hplus' _)
      | exact absurd rfl (hminus' _)
  all_goals first
    | exact absurd rfl (hpoint _)
    | exact absurd rfl (hoptional _)
    | exact absurd rfl (hbracket _)
    | exact absurd rfl (hquote _)
    | exact absurd rfl (hcall _)
    | exact absurd rfl (hplus _)
    | exact absurd rfl (hminus _)

/-! ## Parentheses and words -/

section

variable (ctx : Context) (start start' : Place)

/-- Arrow functions behind their parameters are alike. -/
theorem arrow : i.Keeps n Operand.Alike (do g.arrowRest ctx; return { expr := .other start .arrow })
    (do g'.arrowRest ctx; return { expr := .other start' .arrow }) :=
  (h.arrowRest ctx).later.bind fun _ _ _ => .pure (.other ..)

/-- Parenthesised expressions and parameters of arrow functions are alike. -/
theorem parenthesis : i.Keeps n Operand.Alike (g.parenthesis ctx start)
    (g'.parenthesis ctx start') := by
  refine (h.slots (by decide)).keeps.bind fun slots slots' hslots => ?_
  refine keeps_ahead_bind fun s s' hs _ => before (match_arrow ?_ ?_ hs)
  · exact .guard_bind (areParameters_eq hslots) fun _ => h.arrow ctx start start'
  · obtain ⟨hr, hr'⟩ | ⟨e, e', hr, hr', he⟩ := eq_of_rel (parenthesizedExpr?_alike hslots)
    · rw [hr, hr']
      exact Alike.failure
    · rw [hr, hr']
      exact .pure ⟨.paren he, rfl, rfl⟩

/-- Names and the arrow functions of which they are the parameters are alike. -/
theorem nameOrArrow : i.Keeps n Operand.Alike (g.nameOrArrow ctx start)
    (g'.nameOrArrow ctx start') :=
  keeps_ahead_bind fun _ _ hs _ => before <|
    match_arrow (h.arrow ctx start start') (.pure (.other ..)) hs

/-- What begins with the word `async` is alike. -/
theorem asyncPhrase : i.Keeps n Operand.Alike (g.asyncPhrase ctx start)
    (g'.asyncPhrase ctx start') := by
  have hname := h.nameOrArrow ctx start start'
  refine Alike.rest_bind fun t t' ht hlen => ?_
  have hskip := length_skipBlank_le t
  refine .cond (by rw [ht.endsStatement_alike]) (hname.at ht) ?_
  refine .cond (by rw [ht.begins.startsWithWord_eq]) (Keeps.at ?_ ht) ?_
  · exact (opens_keyword _).keeps.bind fun _ _ _ => h.functionRest.bind fun _ _ _ =>
      .pure (.other ..)
  obtain ⟨hr, hr'⟩ | ⟨⟨w, after⟩, ⟨w', after'⟩, hr, hr', -, hafter, hread, -⟩ :=
    eq_of_rel ht.begins.word?_alike
  · rw [hr, hr']
    obtain ⟨u, u', heq, heq', hu⟩ | ⟨hcall, hcall'⟩ := ht.begins.sign ['('] (by decide)
    · have hread := heq ▸ length_lt_append '(' [] u
      rw [heq, heq']
      refine ((goTo_at hu (hread.trans_le hskip)).atLeast (Nat.zero_le 1)).bind fun _ _ _ => ?_
      refine (h.slots (by decide)).keeps.bind fun slots slots' hslots => ?_
      refine keeps_ahead_bind fun s s' hs _ => before (match_arrow ?_ ?_ hs)
      · exact .guard_bind (areParameters_eq hslots) fun _ => h.arrow ctx start start'
      · exact .guard_bind (all_eq_of_forall₂ (fun _ _ h => h.isValue) hslots) fun _ =>
          .pure (.other ..)
    dsimp only
    split
    case h_2 =>
      split
      case h_2 => exact hname.at ht
      case h_1 heq => exact absurd heq (hcall' _)
    case h_1 heq => exact absurd heq (hcall _)
  · rw [hr, hr']
    refine match_arrow ?_ (hname.at ht) hafter.begins
    refine Alike.bind ((goTo_at hafter (hread.trans_le hskip)).atLeast (Nat.zero_le 1)) ?_
    exact fun _ _ _ => h.arrow ctx start start'

/-- What a word begins is alike. -/
theorem wordPhrase (w : List Char) : i.Keeps n Operand.Alike (g.wordPhrase ctx start w)
    (g'.wordPhrase ctx start' w) := by
  unfold Inner.wordPhrase
  split
  case h_7 => exact h.functionRest.bind fun _ _ _ => .pure (.other ..)
  case h_8 => exact h.classRest.bind fun _ _ _ => .pure (.other ..)
  case h_9 =>
    have hname : i.Keeps n Operand.Alike (pure { expr := .other start .identifier })
        (pure { expr := .other start' .identifier }) :=
      .pure (.other ..)
    refine keeps_ahead_bind fun s s' hs _ => ?_
    obtain ⟨u, u', rfl, rfl, hu⟩ | ⟨hcall, hcall'⟩ := hs.sign ['('] (by decide)
    · exact before hname
    obtain ⟨u, u', rfl, rfl, hu⟩ | ⟨hpoint, hpoint'⟩ := hs.sign ['.'] (by decide)
    · refine .cond (hu.begins.startsWithWord_eq _) ?_ (before hname)
      exact ((goTo_before hu (length_lt_append ..)).atLeast (Nat.zero_le 1)).bind fun _ _ _ =>
        opens_word.keeps.bind fun _ _ _ => .pure (.other ..)
    split
    case h_3 =>
      split
      case h_3 => exact Alike.failure
      all_goals first
        | exact absurd rfl (hcall' _)
        | exact absurd rfl (hpoint' _)
    all_goals first
      | exact absurd rfl (hcall _)
      | exact absurd rfl (hpoint _)
  case h_10 => exact h.asyncPhrase ctx start start'
  case h_11 => exact h.nameOrArrow ctx start start'
  case h_1 | h_2 | h_3 | h_4 => exact .pure ⟨.of_eq rfl, rfl, rfl⟩
  case h_5 | h_6 => exact .pure (.other ..)

/-- Numbers and what a word begins are alike. -/
theorem numberOrWord (hs : i.Begins s s') :
    Alike (At s s') i.Follows (n + 1) 1 Operand.Alike (g.numberOrWord ctx s)
      (g'.numberOrWord ctx s') := by
  rw [Inner.numberOrWord, Inner.numberOrWord]
  obtain ⟨hr, hr'⟩ | ⟨⟨token, after⟩, ⟨token', after'⟩, hr, hr', htoken, hafter, hlen, -⟩ :=
    eq_of_rel hs.asNumber?_alike
  · rw [hr, hr']
    refine (immediate_alike fun _ _ ⟨ht, ht'⟩ => ht ▸ ht' ▸ hs.word?_alike).andThen ?_
    rintro w _ rfl
    exact h.wordPhrase ctx s s' w
  · rw [hr, hr']
    obtain rfl : token = token' := htoken
    exact (goTo_at hafter hlen).andThen fun _ _ _ => .pure ⟨.number .., rfl, rfl⟩

/-- Primary phrases are alike. -/
theorem primary (hs : i.Begins s s') :
    Alike (At s s') i.Follows (n + 1) 1 Operand.Alike (g.primary ctx s) (g'.primary ctx s') := by
  have hstring : Alike (At s s') i.Follows (n + 1) 1 Operand.Alike
      (do return { expr := .string (← string) }) (do return { expr := .string (← string) }) :=
    (opens_string.at hs).followed fun _ _ hparts =>
      .pure ⟨.of_eq (by rw [hparts]), rfl, rfl⟩
  obtain ⟨rfl, rfl⟩ | ⟨c, t, t', rfl, rfl, htail⟩ := hs.exists_cons
  · exact h.numberOrWord ctx hs
  have hgoTo (hquote : c ≠ '"' ∧ c ≠ '\'') :
      Alike (At (c :: t) (c :: t')) i.Follows (n + 1) 1 Eq (goTo t) (goTo t') :=
    goTo_at (htail hquote.1 hquote.2).1 (Nat.lt_succ_self _)
  by_cases hdouble : c = '"'
  · subst hdouble
    exact hstring
  by_cases hsingle : c = '\''
  · subst hsingle
    exact hstring
  by_cases harray : c = '['
  · subst harray
    exact (hgoTo (by decide)).andThen fun _ _ _ => h.arrayBody.keeps
  by_cases hobject : c = '\x7b'
  · subst hobject
    exact (hgoTo (by decide)).andThen fun _ _ _ => h.objectBody.keeps
  by_cases hparen : c = '('
  · subst hparen
    exact (hgoTo (by decide)).andThen fun _ _ _ => h.parenthesis ctx _ _
  by_cases htemplate : c = '`'
  · subst htemplate
    have hpast := hs.past_of_cons (by decide) (by decide)
    exact (goTo_past hpast (Nat.lt_succ_self _)).andThen fun _ _ _ =>
      h.behind_template le_rfl (.pure (.other ..))
  by_cases hregex : c = '/'
  · subst hregex
    exact (immediate_alike fun _ _ ⟨ht, ht'⟩ => ht ▸ ht' ▸ hs.regex?_alike).andThen
      fun _ _ _ => .pure (.other ..)
  by_cases hmarkup : c = '<'
  · subst hmarkup
    obtain ⟨rfl, hlen⟩ := hs.past_of_cons (by decide) (by decide)
    refine follows_of_past (h.markup.andThen fun _ _ _ => .pure (.other ..)) |>.pre ?_
    rintro _ _ ⟨rfl, rfl⟩
    exact ⟨rfl, hlen⟩
  by_cases hmark : c = '@'
  · subst hmark
    refine ((h.decorators (fun _ _ h => h) fun _ _ => Follows.leads).pre ?_).bind fun _ _ _ => ?_
    · exact fun _ _ ⟨ht, ht'⟩ => ht ▸ ht' ▸ hs.leads
    · exact (opens_keyword _).andThen fun _ _ _ => h.classRest.bind fun _ _ _ => .pure (.other ..)
  by_cases hprivate : c = '#'
  · subst hprivate
    have hpast := hs.past_of_cons (by decide) (by decide)
    refine follows_of_past ((goTo_past hpast (Nat.lt_succ_self _)).andThen fun _ _ _ => ?_)
    refine ((past_immediate fun _ _ _ => length_word?).atLeast (Nat.zero_le 1)).bind ?_
    exact fun _ _ _ => (Alike.require fun _ _ hs => by rw [hs.1]).bind fun _ _ _ =>
      .pure (.other ..)
  have hother (g : Inner) (t : List Char) :
      g.primary ctx (c :: t) = g.numberOrWord ctx (c :: t) := by
    unfold Inner.primary
    split
    case h_11 => rfl
    all_goals
      injections
      contradiction
  rw [hother, hother]
  exact h.numberOrWord ctx hs

end

end InnerAlike

end Insertion

end DocSite.Script
