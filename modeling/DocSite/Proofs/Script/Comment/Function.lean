import DocSite.Proofs.Script.Comment.Collection
import DocSite.Script.Grammar.Function

/-! # Functions, classes and templates around a comment

The phrases that hold statements inside expressions are read alike with and without a comment. A
template stands behind the comment in both readings. -/

namespace DocSite.Script

open DocSite.Script.Parser

namespace Insertion

variable {i : Insertion} {n : Nat} {g g' : Inner} {s s' : List Char}

/-! ## Braces that may hold an object -/

/-- The text behind a key, if one begins here. -/
def behindKey? (s : List Char) : Option (List Char) :=
  match word? s with
  | some (_, rest) => some rest
  | none =>
      match string? s with
      | some (_, rest) => some rest
      | none => (number? s).map Prod.snd

/-- Whether a sign that follows keys is the next character. -/
def beginsBehindKey : List Char → Bool
  | ':' :: _ | ',' :: _ => true
  | _ => false

/-- Braces may hold an object if a key and a sign follow. -/
theorem looksLikeObject_eq (s : List Char) : Inner.looksLikeObject ('\x7b' :: s) =
    (behindKey? (skipBlank s)).any fun rest => beginsBehindKey (skipBlank rest) := by
  rw [Inner.looksLikeObject, behindKey?]
  cases word? (skipBlank s) with
  | some r => rfl
  | none =>
      cases string? (skipBlank s) with
      | some r => rfl
      | none => cases number? (skipBlank s) <;> rfl

/-- A sign that follows keys is the next character in both readings or in none. -/
theorem Begins.beginsBehindKey_eq (h : i.Begins s s') :
    beginsBehindKey s = beginsBehindKey s' := by
  obtain ⟨rfl, rfl⟩ | ⟨c, t, t', rfl, rfl, -⟩ := h.exists_cons
  · rfl
  · rw [beginsBehindKey.eq_def, beginsBehindKey.eq_def]
    split <;> simp_all

/-- The text behind a key is found in both readings or in none. -/
theorem Begins.behindKey?_alike (h : i.Begins s s') :
    Option.Rel i.Follows (behindKey? s) (behindKey? s') := by
  have hnumber (s : List Char) : (number? s).map Prod.snd = (asNumber? s).map Prod.snd := by
    rw [asNumber?]
    split
    next heq => exact congrArg (Option.map Prod.snd) heq
    next heq => exact congrArg (Option.map Prod.snd) heq
  rw [behindKey?, behindKey?]
  obtain ⟨hr, hr'⟩ | ⟨r, r', hr, hr', -, hfollows, -⟩ := eq_of_rel h.word?_alike
  · rw [hr, hr']
    obtain ⟨hr, hr'⟩ | ⟨r, r', hr, hr', -, hfollows, -⟩ := eq_of_rel h.string?_alike
    · rw [hr, hr']
      dsimp only
      rw [hnumber, hnumber]
      obtain ⟨hr, hr'⟩ | ⟨r, r', hr, hr', -, hfollows, -⟩ := eq_of_rel h.asNumber?_alike
      · rw [hr, hr']
        exact .none
      · rw [hr, hr']
        exact .some hfollows
    · rw [hr, hr']
      exact .some hfollows
  · rw [hr, hr']
    exact .some hfollows

/-- Braces may hold an object in both readings or in none. -/
theorem Begins.looksLikeObject_alike (h : i.Begins s s') :
    Inner.looksLikeObject s = Inner.looksLikeObject s' := by
  obtain ⟨u, u', rfl, rfl, hu⟩ | ⟨hbrace, hbrace'⟩ := h.sign ['\x7b'] (by decide)
  · rw [List.singleton_append, List.singleton_append, looksLikeObject_eq, looksLikeObject_eq]
    obtain ⟨hr, hr'⟩ | ⟨r, r', hr, hr', hfollows⟩ := eq_of_rel hu.begins.behindKey?_alike
    · rw [hr, hr']
    · rw [hr, hr', Option.any_some, Option.any_some, hfollows.begins.beginsBehindKey_eq]
  · have hnone {s : List Char} (hs : ∀ t, s ≠ ['\x7b'] ++ t) : Inner.looksLikeObject s = false := by
      rw [Inner.looksLikeObject]
      exact hs
    rw [hnone hbrace, hnone hbrace']

namespace InnerAlike

variable (h : i.InnerAlike n g g')

include h

/-! ## Functions -/

/-- Functions behind their keyword are alike. -/
theorem functionRest : i.Keeps n Eq g.functionRest g'.functionRest := by
  refine (opens_symbol (by decide)).row.accept.bind fun star star' hstar => ?_
  have hbehind : i.Keeps n Eq
      (do
        g.parameters
        g.block
        return if star then Construct.generatorValue else .functionValue)
      (do
        g'.parameters
        g'.block
        return if star' then Construct.generatorValue else .functionValue) :=
    h.parameters.later.bind fun _ _ _ => h.block.later.bind fun _ _ _ => .pure (by rw [hstar])
  exact keeps_wordAhead.bind fun _ _ hw => Alike.cond (by rw [hw])
    (opens_word.keeps.bind fun _ _ _ => hbehind) hbehind

/-- Arrows with the body of a function are alike. -/
theorem arrowRest (ctx : Context) : i.Opens (n + 1) Eq (g.arrowRest ctx) (g'.arrowRest ctx) := by
  refine (opens_symbol (by decide)).andThen fun _ _ _ => ?_
  refine Alike.pre (trivia_rest_bind fun s s' hs hlen => ?_) fun _ _ => Follows.leads
  have hexpression : Alike (At s s') i.Follows n 0 Eq (do let _ ← g.expression ctx)
      (do let _ ← g'.expression ctx) :=
    (((h.expression ctx).at hs).followed fun _ _ _ => .pure rfl).atLeast (Nat.zero_le 1)
  obtain ⟨u, u', rfl, rfl, hu⟩ | ⟨hblock, hblock'⟩ := hs.sign ['\x7b'] (by decide)
  · have hguarded : Alike (At ('\x7b' :: u) ('\x7b' :: u')) i.Follows n 0 Eq
        (do guard (Inner.looksLikeObject ('\x7b' :: u)); let _ ← g.expression ctx)
        (do guard (Inner.looksLikeObject ('\x7b' :: u')); let _ ← g'.expression ctx) :=
      .guard_bind hs.looksLikeObject_alike fun _ => hexpression
    exact (((h.block.less (Nat.le_succ n)).atLeast (Nat.zero_le 1)).pre
      fun _ _ ⟨ht, ht'⟩ => ht ▸ ht' ▸ hs.leads).orElse hguarded
  split
  case h_2 =>
    split
    case h_2 => exact hexpression
    case h_1 => exact absurd rfl (hblock' _)
  case h_1 => exact absurd rfl (hblock _)

/-! ## Templates -/

/-- Templates behind their first backquote are alike. -/
theorem templateUpTo (k : Nat) :
    Alike i.Past i.Past n 0 Eq (g.templateUpTo k) (g'.templateUpTo k) := by
  induction k with
  | zero => exact Alike.failure
  | succ k ih =>
      refine Alike.rest_bind fun s s' hs hlen => ?_
      obtain ⟨rfl, hpast⟩ := hs
      have hgoTo {rest : List Char} (hrest : rest.length < s.length) :
          Alike (At s s) i.Past n 0 Eq (goTo rest) (goTo rest) :=
        (goTo_past ⟨rfl, hrest.trans hpast⟩ hrest).atLeast (Nat.zero_le 1)
      split
      next => exact hgoTo (Nat.lt_succ_self _)
      next =>
        refine (hgoTo (length_lt_append '$' ['\x7b'] _)).bind fun _ _ _ => ?_
        exact (h.expressions _).past_keeps.bind fun _ _ _ =>
          (opens_symbol (by decide)).past_keeps.bind fun _ _ _ => ih
      next =>
        split
        next hescape =>
          have hread := length_escape? hescape
          exact (hgoTo (Nat.lt_succ_of_lt hread)).bind fun _ _ _ => ih
        next => exact Alike.failure
      next => exact (hgoTo (Nat.lt_succ_self _)).bind fun _ _ _ => ih
      next => exact Alike.failure

/-- Templates are alike. -/
theorem templateBody : Alike i.Past i.Past n 0 Eq g.templateBody g'.templateBody := by
  refine Alike.rest_bind fun s s' hs _ => ?_
  -- The texts are equal, hence the bounds, which are their lengths.
  obtain ⟨rfl, hpast⟩ := hs
  exact past_at (h.templateUpTo _) ⟨rfl, hpast⟩

/-! ## Classes -/

/-- The ends of class fields are alike. -/
theorem fieldRest : i.Keeps n Eq g.fieldRest g'.fieldRest :=
  .accept_bind opens_equals.keeps
    ((h.expression _).keeps.bind fun _ _ _ => keeps_statementEnd true) (keeps_statementEnd false)

/-- Class members behind a key are alike. -/
theorem keyedMember : i.Opens (n + 1) Eq
    (do
      let _ ← g.key
      if (← ahead).head? == some '(' then g.methodBody else g.fieldRest)
    (do
      let _ ← g'.key
      if (← ahead).head? == some '(' then g'.methodBody else g'.fieldRest) :=
  h.key.andThen fun _ _ _ => keeps_ahead_bind fun _ _ hs _ =>
    .cond (by rw [hs.head?_eq]) (before h.methodBody.later) (before h.fieldRest)

/-- Class members are alike, whatever modifiers are in front of their names. -/
theorem memberFrom (k : Nat) (first : List Char) :
    i.Keeps n Eq (g.memberFrom k first) (g'.memberFrom k first) := by
  induction k generalizing first with
  | zero => exact Alike.failure
  | succ k ih =>
      refine keeps_ahead_bind fun s s' hs _ => before ?_
      rw [hs.head?_eq]
      split
      next => exact h.methodBody.later
      next => exact h.fieldRest
      next => exact keeps_statementEnd false
      next =>
        refine Alike.rest_bind fun t t' ht _ => Keeps.at ?_ ht
        refine Alike.cond (by rw [ht.endsStatement_alike]) (.pure rfl) ?_
        refine Alike.guard_bind rfl fun _ => Alike.cond rfl ?_ (.cond rfl ?_ ?_)
        · exact .guard_bind rfl fun _ => h.block.later
        · exact (opens_symbol (by decide)).keeps.bind fun _ _ _ => h.key.later.bind fun _ _ _ =>
            h.methodBody.later
        · refine keeps_wordAhead.bind fun _ _ hw => .cond (by rw [hw]) ?_ h.keyedMember.later
          refine opens_word.keeps.bind fun w w' hw => ?_
          subst hw
          exact ih w

/-- Class members are alike. -/
theorem classMember : i.Opens n Eq g.classMember g'.classMember := by
  refine trivia_rest_bind fun s s' hs hlen => ?_
  refine .guard_bind (by rw [hs.head?_eq]) fun _ => ?_
  refine .accept_followed ((opens_symbol (by decide)).at hs) (.pure rfl) (Opens.at ?_ hs)
  refine ((h.decorators (fun _ _ h => h) fun _ _ => Follows.leads).less (Nat.le_succ n)).bind
    fun _ _ _ => ?_
  refine .accept_followed (opens_symbol (by decide)) ?_ ?_
  · exact h.key.later.bind fun _ _ _ => h.methodBody.later
  · refine (wordAhead_alike fun _ _ h => h).bind fun _ _ hw => Alike.cond (by rw [hw]) ?_
      (h.keyedMember.less (Nat.le_succ n))
    refine opens_word.followed fun w w' hw => ?_
    subst hw
    exact h.memberFrom 4 w

/-- Bodies of classes are alike. -/
theorem classBody : i.Keeps n Eq g.classBody g'.classBody := by
  have hbody : i.Keeps n Eq
      (do symbol ['\x7b']; let _ ← Parser.many g.bound g.classMember; trivia; symbol ['\x7d'])
      (do symbol ['\x7b']; let _ ← Parser.many g'.bound g'.classMember; trivia; symbol ['\x7d']) :=
    (opens_symbol (by decide)).keeps.bind fun _ _ _ => (h.many h.classMember (Nat.le_succ n)).bind
      fun _ _ _ => (opens_symbol (by decide)).behind_trivia.keeps
  exact .accept_bind (opens_keyword _).keeps ((h.expression _).keeps.bind fun _ _ _ => hbody) hbody

/-- Classes behind their keyword are alike. -/
theorem classRest : i.Keeps n Eq g.classRest g'.classRest :=
  keeps_ahead_bind fun _ _ hs _ => before <|
    .cond (by rw [hs.isSome_word?_eq, hs.startsWithWord_eq])
      (opens_word.keeps.bind fun _ _ _ => h.classBody) h.classBody

end InnerAlike

end Insertion

end DocSite.Script
