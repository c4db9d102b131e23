import DocSite.Error

/-! # Reading back what was written

Not everything that can be held can be written so that it is read again. `Readback` states both
halves at once: what is good is read back as it was, what is not good is refused with a fault of a
known kind. Readings in several steps are put together with `Readback.and`. -/

namespace DocSite

variable {ε δ α β : Type} {fault : ε → Prop} {fault' : δ → Prop} {p q : Prop} {a : α} {b : β}
  {r : Except ε α} {s : Except δ β}

/-- Reading back what was written: `r` is `a` if `good` holds, and a fault of the given kind if
not. -/
def Readback (fault : ε → Prop) (good : Prop) (a : α) (r : Except ε α) : Prop :=
  good ∧ r = .ok a ∨ ¬good ∧ ∃ e, r = .error e ∧ fault e

namespace Readback

/-- What is always good is read back. -/
theorem of_eq (h : r = .ok a) : Readback fault True a r := Or.inl ⟨trivial, h⟩

/-- What is good under the same condition is read back alike. -/
theorem congr (h : Readback fault p a r) (hpq : p ↔ q) : Readback fault q a r := by
  rwa [propext hpq] at h

/-- What is read in two steps is read back if both steps read back their parts, and if the first
fault counts. -/
theorem and (hr : Readback fault p a r) (hok : r = .ok a → Readback fault' q b s)
    (herror : ∀ e, r = .error e → fault e → ∃ d, s = .error d ∧ fault' d) :
    Readback fault' (p ∧ q) b s := by
  rcases hr with ⟨hp, hread⟩ | ⟨hp, e, hread, hfault⟩
  · rcases hok hread with ⟨hq, hs⟩ | ⟨hq, hs⟩
    · exact Or.inl ⟨⟨hp, hq⟩, hs⟩
    · exact Or.inr ⟨fun h => hq h.2, hs⟩
  · exact Or.inr ⟨fun h => hp h.1, herror e hread hfault⟩

/-- What is read back in one step and then carried on is read back. -/
theorem map (hr : Readback fault p a r) (hok : r = .ok a → s = .ok b)
    (herror : ∀ e, r = .error e → fault e → ∃ d, s = .error d ∧ fault' d) :
    Readback fault' p b s :=
  (hr.and (fun h => of_eq (hok h)) herror).congr (by rw [and_true])

/-- What is read is what was written exactly if that is good. -/
theorem eq_ok_iff (h : Readback fault p a r) : r = .ok a ↔ p := by
  rcases h with ⟨hp, hread⟩ | ⟨hp, e, hread, -⟩
  · exact ⟨fun _ => hp, fun _ => hread⟩
  · refine ⟨fun hok => ?_, fun h => absurd h hp⟩
    rw [hread] at hok
    cases hok

/-- What is not good is refused. -/
theorem eq_error (h : Readback fault p a r) (hp : ¬p) : ∃ e, r = .error e ∧ fault e := by
  rcases h with ⟨hgood, -⟩ | ⟨-, herror⟩
  · exact absurd hgood hp
  · exact herror

end Readback

end DocSite
