import DocSite.Nav.Descriptor

/-! # Well-formed navigation literals

What a descriptor's table of contents has to look like: an array of triples of label, link and
children at every depth (`WellFormed`). Parts of a literal are reached by paths of positions
(`partAt?`), each part has a `Role` that its path tells, and the first part that does not have the
shape of its role is the literal's fault (`FirstFault`). Messages name parts by their paths
(`locationOf`), and no two paths have the same name (`locationOf_inj`). -/

namespace DocSite.Nav

open DocSite.Text

/-! ## Roles -/

/-- What a part of a navigation literal stands for. -/
inductive Role where
  /-- All entries. -/
  | forest
  /-- An entry. -/
  | entry
  /-- The label of an entry. -/
  | label
  /-- The link of an entry. -/
  | link
  /-- What is below an entry. -/
  | children
  deriving DecidableEq

/-- Whether a literal has the shape of a role, whatever the items in it. -/
def Role.Fits : Role → Literal → Prop
  | .forest, .array _ => True
  | .entry, .array [_, _, _] => True
  | .label, .string _ => True
  | .link, .string target => target ≠ ""
  | .children, .null => True
  | .children, .string name => name ≠ ""
  | .children, .array _ => True
  | _, _ => False

/-- The role of an item of an array in a role. -/
def Role.item? : Role → Nat → Option Role
  | .forest, _ => some .entry
  | .entry, 0 => some .label
  | .entry, 1 => some .link
  | .entry, 2 => some .children
  | .children, _ => some .entry
  | _, _ => none

/-- Whether a literal has the shape of a role, and every item in it, at every depth, that of
its own. -/
inductive WellFormed : Role → Literal → Prop where
  /-- Entries at the top. -/
  | forest {items : List Literal} (h : ∀ item ∈ items, WellFormed .entry item) :
      WellFormed .forest (.array items)
  /-- An entry. -/
  | entry {label link children : Literal} (hlabel : WellFormed .label label)
      (hlink : WellFormed .link link) (hchildren : WellFormed .children children) :
      WellFormed .entry (.array [label, link, children])
  /-- A label. -/
  | label (text : String) : WellFormed .label (.string text)
  /-- A link is not empty. -/
  | link {text : String} (h : text ≠ "") : WellFormed .link (.string text)
  /-- Nothing below. -/
  | none : WellFormed .children .null
  /-- The name of a script is not empty. -/
  | deferred {name : String} (h : name ≠ "") : WellFormed .children (.string name)
  /-- Entries below. -/
  | children {items : List Literal} (h : ∀ item ∈ items, WellFormed .entry item) :
      WellFormed .children (.array items)

/-- What is well formed has the shape of its role. -/
theorem WellFormed.fits {role : Role} {l : Literal} (h : WellFormed role l) : role.Fits l := by
  cases h with
  | forest h => trivial
  | entry hlabel hlink hchildren => trivial
  | label text => trivial
  | link h => exact h
  | none => trivial
  | deferred h => exact h
  | children h => trivial

/-! ## Paths -/

/-- The part of a literal in a role that a path of positions leads to, with its role. -/
def partAt? : Role → Literal → List Nat → Option (Role × Literal)
  | role, l, [] => some (role, l)
  | role, .array items, i :: path =>
      match role.item? i, items[i]? with
      | some part, some item => partAt? part item path
      | _, _ => none
  | _, _, _ :: _ => none

/-- Whether a path leads to the first part of a literal that does not have the shape of its role. -/
structure FirstFault (role : Role) (l : Literal) (path : List Nat) : Prop where
  /-- The part there does not have it. -/
  misfit : ∃ part sub, partAt? role l path = some (part, sub) ∧ ¬part.Fits sub
  /-- The parts around it do. -/
  around : ∀ outer i rest, path = outer ++ i :: rest →
    ∃ part sub, partAt? role l outer = some (part, sub) ∧ part.Fits sub
  /-- The parts in front of it do, and so does everything in them. -/
  front : ∀ outer i rest, path = outer ++ i :: rest → ∀ j < i,
    ∃ part sub, partAt? role l (outer ++ [j]) = some (part, sub) ∧ WellFormed part sub

namespace FirstFault

variable {role part : Role} {l item : Literal} {items : List Literal} {path : List Nat} {i : Nat}

/-- A literal of another shape is a fault itself. -/
theorem here (h : ¬role.Fits l) : FirstFault role l [] where
  misfit := ⟨role, l, rfl, h⟩
  around := fun outer i rest hpath => by simp at hpath
  front := fun outer i rest hpath => by simp at hpath

/-- The first fault of an array is that of an item behind items without fault. -/
theorem cons (hfits : role.Fits (.array items)) (hpart : role.item? i = some part)
    (hitem : items[i]? = some item)
    (hfront : ∀ j < i, ∃ part sub, role.item? j = some part ∧ items[j]? = some sub ∧
      WellFormed part sub)
    (h : FirstFault part item path) : FirstFault role (.array items) (i :: path) where
  misfit := by
    rw [partAt?, hpart, hitem]
    exact h.misfit
  around := by
    rintro (_ | ⟨i', outer⟩) k rest hpath
    · exact ⟨role, .array items, rfl, hfits⟩
    · obtain ⟨rfl, htail⟩ := List.cons.inj hpath
      rw [partAt?, hpart, hitem]
      exact h.around outer k rest htail
  front := by
    rintro (_ | ⟨i', outer⟩) k rest hpath j hj
    · obtain ⟨rfl, -⟩ := List.cons.inj hpath
      obtain ⟨part', sub, hpart', hsub, hwell⟩ := hfront j hj
      refine ⟨part', sub, ?_, hwell⟩
      rw [List.nil_append, partAt?, hpart', hsub]
      rfl
    · obtain ⟨rfl, htail⟩ := List.cons.inj hpath
      rw [List.cons_append, partAt?, hpart, hitem]
      exact h.front outer k rest htail j hj

end FirstFault

/-- Every part of what is well formed is well formed. -/
theorem WellFormed.partAt? {role part : Role} {l sub : Literal} {path : List Nat}
    (h : WellFormed role l) (hpart : Nav.partAt? role l path = some (part, sub)) :
    WellFormed part sub := by
  induction path generalizing role l with
  | nil =>
      cases hpart
      exact h
  | cons i path ih =>
      cases h with
      | forest h =>
          simp only [Nav.partAt?, Role.item?] at hpart
          split at hpart
          next hrole hitem =>
            cases hrole
            exact ih (h _ (List.mem_of_getElem? hitem)) hpart
          next => cases hpart
      | children h =>
          simp only [Nav.partAt?, Role.item?] at hpart
          split at hpart
          next hrole hitem =>
            cases hrole
            exact ih (h _ (List.mem_of_getElem? hitem)) hpart
          next => cases hpart
      | entry hlabel hlink hchildren =>
          match i with
          | 0 => exact ih hlabel hpart
          | 1 => exact ih hlink hpart
          | 2 => exact ih hchildren hpart
          | _ + 3 => cases hpart
      | label text => cases hpart
      | link h => cases hpart
      | none => cases hpart
      | deferred h => cases hpart

/-- What has a fault is not well formed. -/
theorem FirstFault.not_wellFormed {role : Role} {l : Literal} {path : List Nat}
    (h : FirstFault role l path) : ¬WellFormed role l := by
  intro hwell
  obtain ⟨part, sub, hpart, hmisfit⟩ := h.misfit
  exact hmisfit (hwell.partAt? hpart).fits

/-! ## Names of paths -/

/-- The name of the part that a path leads to. -/
def locationOf (path : List Nat) : String :=
  path.foldl itemLocation treeVariable

/-- What a position adds to the name of a part. -/
def bracketed (i : Nat) : List Char :=
  '[' :: (Nat.toDigits 10 i ++ [']'])

/-- The name of a part is put together from the positions on the way. -/
theorem toList_foldl_itemLocation (location : String) (path : List Nat) :
    (path.foldl itemLocation location).toList = location.toList ++ path.flatMap bracketed := by
  induction path generalizing location with
  | nil => exact (List.append_nil _).symm
  | cons i path ih =>
      rw [List.foldl_cons, ih, List.flatMap_cons, itemLocation, bracketed, decimal]
      simp

/-- A position is told from what follows by its bracket. -/
theorem bracketed_append_inj {i j : Nat} {rest more : List Char}
    (h : bracketed i ++ rest = bracketed j ++ more) : i = j ∧ rest = more := by
  have hdigits (n : Nat) (behind : List Char) :
      (Nat.toDigits 10 n ++ ']' :: behind).takeWhile Char.isDigit = Nat.toDigits 10 n := by
    rw [List.takeWhile_append_of_pos fun c hc =>
      Nat.isDigit_of_mem_toDigits (by decide) (by decide) hc]
    exact List.append_nil _
  simp only [bracketed, List.cons_append, List.append_assoc, List.nil_append, List.cons.injEq,
    true_and] at h
  have hsame : Nat.toDigits 10 i = Nat.toDigits 10 j := by
    rw [← hdigits i rest, h, hdigits]
  rw [hsame] at h
  refine ⟨?_, (List.cons.inj (List.append_cancel_left h)).2⟩
  rw [← Nat.ofDigitChars_ten_toDigits (n := i), hsame, Nat.ofDigitChars_ten_toDigits]

/-- **No two paths have the same name.** -/
theorem locationOf_inj {path other : List Nat} (h : locationOf path = locationOf other) :
    path = other := by
  have hchars := congrArg String.toList h
  rw [locationOf, locationOf, toList_foldl_itemLocation, toList_foldl_itemLocation] at hchars
  have hflat := List.append_cancel_left hchars
  clear h hchars
  induction path generalizing other with
  | nil =>
      cases other with
      | nil => rfl
      | cons j other => cases hflat
  | cons i path ih =>
      cases other with
      | nil => cases hflat
      | cons j other =>
          rw [List.flatMap_cons, List.flatMap_cons] at hflat
          obtain ⟨rfl, hrest⟩ := bracketed_append_inj hflat
          rw [ih hrest]

end DocSite.Nav
