import DocSite.Proofs.Script.Comment.Collection
import DocSite.Script.Grammar.Markup

/-! # Elements behind a comment

An element stands behind the comment in both readings, so all of its text is the same. Only the
expressions in it are read on levels of different grammars. -/

namespace DocSite.Script

open DocSite.Script.Parser

namespace Insertion

variable {i : Insertion} {n : Nat} {g g' : Inner}

/-- Names in elements are alike. -/
theorem past_markupWord {m : Nat} :
    Alike i.Past i.Past m 1 Eq (token markupWord?) (token markupWord?) :=
  past_token fun _ _ _ => length_markupWord?

namespace InnerAlike

variable (h : i.InnerAlike n g g')

include h

/-- Names of elements are alike. -/
theorem markupName : Alike i.Past i.Past (n + 1) 1 Eq g.markupName g'.markupName := by
  refine past_markupWord.followed fun _ _ _ => .accept_bind (opens_symbol (by decide)).past_keeps
    (past_markupWord.atLeast (Nat.zero_le 1)) ?_
  have hword : Alike i.Past i.Past (n + 1) 1 Eq (do symbol ['.']; token markupWord?)
      (do symbol ['.']; token markupWord?) :=
    (opens_symbol (by decide)).past.followed fun _ _ _ =>
      past_markupWord.atLeast (Nat.zero_le 1)
  exact (hword.many (Nat.succ_le_succ h.bound) (Nat.succ_le_succ h.bound')).bind
    fun _ _ _ => .pure rfl

/-- Expressions in elements are alike. -/
theorem markupExpression :
    Alike i.Past i.Past (n + 1) 1 Eq g.markupExpression g'.markupExpression := by
  refine (opens_symbol (by decide)).past.andThen fun _ _ _ =>
    .accept_bind (opens_symbol (by decide)).past_keeps (.pure rfl) ?_
  refine .accept_bind (opens_symbol (by decide)).past_keeps ?_ ?_
  · exact (h.expression _).past_keeps.bind fun _ _ _ => (opens_symbol (by decide)).past_keeps
  · exact (h.expressions _).past_keeps.bind fun _ _ _ => (opens_symbol (by decide)).past_keeps

/-- Attributes of elements are alike. -/
theorem markupAttribute :
    Alike i.Past i.Past (n + 1) 1 Eq g.markupAttribute g'.markupAttribute := by
  have hstring : Alike i.Past i.Past (n + 1) 1 Eq (token markupString?) (token markupString?) :=
    past_token fun _ _ _ => length_markupString?
  have helement : Alike i.Past i.Past (n + 1) 1 Eq
      (do
        require fun s => (skipBlank s).head? == some '<'
        let _ ← g.markup)
      (do
        require fun s => (skipBlank s).head? == some '<'
        let _ ← g'.markup) :=
    (Alike.require fun _ _ hs => by rw [hs.1]).bind fun _ _ _ =>
      (h.markup.pre fun _ _ => Past.same).followed fun _ _ _ => .pure rfl
  have hvalue : Alike i.Past i.Past (n + 1) 0 Eq
      (do
        if ← accept (symbol ['=']) then
          token markupString? <|> g.markupExpression <|> do
            require fun s => (skipBlank s).head? == some '<'
            let _ ← g.markup)
      (do
        if ← accept (symbol ['=']) then
          token markupString? <|> g'.markupExpression <|> do
            require fun s => (skipBlank s).head? == some '<'
            let _ ← g'.markup) :=
    .accept_bind (opens_symbol (by decide)).past_keeps
      ((hstring.orElse (h.markupExpression.orElse helement)).atLeast (Nat.zero_le 1)) (.pure rfl)
  refine h.markupExpression.orElse (past_markupWord.followed fun _ _ _ => ?_)
  exact .accept_bind (opens_symbol (by decide)).past_keeps
    ((past_markupWord.atLeast (Nat.zero_le 1)).bind fun _ _ _ => hvalue) hvalue

/-- What stands between the tags of elements is alike. -/
theorem markupChildren (k : Nat) :
    Alike i.Past i.Past (n + 1) 0 Eq (g.markupChildren k) (g'.markupChildren k) := by
  induction k with
  | zero => exact Alike.failure
  | succ k ih =>
      refine Alike.rest_bind fun s s' hs hlen => ?_
      obtain ⟨rfl, hpast⟩ := hs
      have hgoTo {rest : List Char} (hrest : rest.length < s.length) :
          Alike (At s s) i.Past (n + 1) 0 Eq (goTo rest) (goTo rest) :=
        (goTo_past ⟨rfl, hrest.trans hpast⟩ hrest).atLeast (Nat.zero_le 1)
      split
      next after =>
        split
        next closing heq =>
          have hskip := length_skipBlank_le after
          rw [heq] at hskip
          rw [List.length_cons] at hskip
          refine (hgoTo (by rw [List.length_cons]; omega)).bind fun _ _ _ => ?_
          exact h.markupName.accept.bind fun _ _ _ => (opens_symbol (by decide)).past_keeps
        next =>
          refine past_at ?_ ⟨rfl, hpast⟩
          exact ((h.markup.pre fun _ _ => Past.same).atLeast (Nat.zero_le 1)).bind fun _ _ _ => ih
      next =>
        exact past_at ((h.markupExpression.atLeast (Nat.zero_le 1)).bind fun _ _ _ => ih)
          ⟨rfl, hpast⟩
      next => exact .guard_bind rfl fun _ => (hgoTo (Nat.lt_succ_self _)).bind fun _ _ _ => ih
      next => exact Alike.failure

/-- Elements behind their first tag are alike. -/
theorem markupRest : Alike i.Past i.Past (n + 1) 0 Eq g.markupRest g'.markupRest := by
  refine Alike.rest_bind fun s s' hs _ => past_at ?_ hs
  -- The texts are equal, hence the bounds, which are their lengths.
  obtain ⟨rfl, -⟩ := hs
  exact (h.markupChildren _).bind fun _ _ _ => .pure rfl

/-- Elements are alike. -/
theorem markupElement : Alike i.Same i.Past (n + 2) 1 Eq g.markupElement g'.markupElement := by
  refine (opens_symbol (by decide)).same.andThen fun _ _ _ => ?_
  have hrest : Alike i.Past i.Past (n + 1) 0 Eq (do symbol ['>']; g.markupRest)
      (do symbol ['>']; g'.markupRest) :=
    (opens_symbol (by decide)).past_keeps.bind fun _ _ _ => h.markupRest
  refine .accept_bind (h.markupName.atLeast (Nat.zero_le 1)) ?_ hrest
  exact (h.markupAttribute.many (Nat.succ_le_succ h.bound) (Nat.succ_le_succ h.bound')).bind
    fun _ _ _ => .accept_bind (opens_symbol (by decide)).past_keeps (.pure rfl) hrest

end InnerAlike

end Insertion

end DocSite.Script
