import DocSite.Proofs.Nav.WellFormed
import DocSite.Proofs.Search.RoundTrip
import Mathlib.Data.List.Forall2

/-! # What partitions are accepted

The data of a partition are an array of entries. What the literal of an entry has to look like, and
what it tells, is said by relations (`TellsFlag`, `TellsRecord`, `TellsEntry`), and each reader gives
a value exactly if its literal tells that value (`entryOf_eq_ok_iff`). A text then comes to one of
four things (`Partition.Verdict`): its data tell a partition, or there are no data, or there is a
first entry that tells nothing, or all of them tell something, but a key is repeated.

The main statement is `partition_verdict`. -/

namespace DocSite.Search

open DocSite.Text

/-! ## What literals tell -/

/-- Whether a literal tells a frame flag: a number says that it is set if it is not next to zero. -/
inductive TellsFlag : Literal → Bool → Prop where
  /-- A number. -/
  | number (n : Double) : TellsFlag (.number n) n.exceedsEpsilon
  /-- A truth value. -/
  | bool (set : Bool) : TellsFlag (.bool set) set

/-- Whether a literal tells a record. -/
inductive TellsRecord : Literal → Record → Prop where
  /-- A link and a flag. -/
  | unscoped (link : String) {flag : Literal} {set : Bool} (h : TellsFlag flag set) :
      TellsRecord (.array [.string link, flag]) ⟨link, set, none⟩
  /-- A link, a flag and a scope. -/
  | scoped (link scope : String) {flag : Literal} {set : Bool} (h : TellsFlag flag set) :
      TellsRecord (.array [.string link, flag, .string scope]) ⟨link, set, some scope⟩

/-- Whether a literal tells an entry: a key that is not empty and, in an array of their own, a name
and one or more records, of which each literal tells one. -/
inductive TellsEntry : Literal → Entry → Prop where
  /-- A key and a body. -/
  | intro (key name : String) {literals : List Literal} {records : List Record} (hkey : key ≠ "")
      (hsome : literals ≠ []) (h : List.Forall₂ TellsRecord literals records) :
      TellsEntry (.array [.string key, .array (.string name :: literals)]) ⟨key, name, records⟩

/-- Whether a literal has the shape of an entry. -/
def IsEntry (l : Literal) : Prop := ∃ entry, TellsEntry l entry

namespace Partition

/-! ## Readers -/

/-- A flag is read exactly from a literal that tells it. -/
theorem flagOf_eq_ok_iff {l : Literal} {set : Bool} : flagOf l = .ok set ↔ TellsFlag l set := by
  constructor
  · intro h
    cases l with
    | number n =>
        cases h
        exact .number n
    | bool =>
        cases h
        exact .bool set
    | _ => cases h
  · rintro (⟨n⟩ | ⟨set⟩)
    · rfl
    · rfl

/-- A link and a flag are read exactly from a string and a literal that tells the flag. -/
theorem recordOfParts_eq_ok_iff {link flag : Literal} {scope : Option String} {record : Record} :
    recordOfParts link flag scope = .ok record ↔ ∃ target set, link = .string target ∧
      TellsFlag flag set ∧ record = ⟨target, set, scope⟩ := by
  constructor
  · intro h
    cases link with
    | string target =>
        rw [recordOfParts] at h
        split at h
        next set hset =>
          cases h
          exact ⟨target, set, rfl, flagOf_eq_ok_iff.1 hset, rfl⟩
        next => cases h
    | _ => cases h
  · rintro ⟨target, set, rfl, hset, rfl⟩
    rw [recordOfParts, flagOf_eq_ok_iff.2 hset]

/-- **A record is read exactly from a literal that tells it.** -/
theorem recordOf_eq_ok_iff {l : Literal} {record : Record} :
    recordOf l = .ok record ↔ TellsRecord l record := by
  constructor
  · intro h
    rw [recordOf.eq_def] at h
    split at h
    next link flag =>
      obtain ⟨target, set, rfl, hset, rfl⟩ := recordOfParts_eq_ok_iff.1 h
      exact .unscoped target hset
    next link flag scope =>
      split at h
      next scope =>
        obtain ⟨target, set, rfl, hset, rfl⟩ := recordOfParts_eq_ok_iff.1 h
        exact .scoped target scope hset
      next => cases h
    next => cases h
    next => cases h
  · rintro (⟨link, hset⟩ | ⟨link, scope, hset⟩)
    · exact recordOfParts_eq_ok_iff.2 ⟨link, _, rfl, hset, rfl⟩
    · exact recordOfParts_eq_ok_iff.2 ⟨link, _, rfl, hset, rfl⟩

/-- Records are read exactly from literals of which each tells one. -/
theorem recordsOf_eq_ok_iff {literals : List Literal} {records : List Record} :
    recordsOf literals = .ok records ↔ List.Forall₂ TellsRecord literals records := by
  induction literals generalizing records with
  | nil =>
      rw [recordsOf, List.forall₂_nil_left_iff, Except.ok.injEq, eq_comm]
  | cons literal rest ih =>
      rw [recordsOf, List.forall₂_cons_left_iff]
      constructor
      · intro h
        split at h
        next => cases h
        next record hrecord =>
          split at h
          next records hrecords =>
            cases h
            exact ⟨record, records, recordOf_eq_ok_iff.1 hrecord, ih.1 hrecords, rfl⟩
          next => cases h
      · rintro ⟨record, records, hrecord, hrecords, rfl⟩
        rw [recordOf_eq_ok_iff.2 hrecord, ih.2 hrecords]

/-- The body of an entry is read exactly if it is a name with literals that tell the records. -/
theorem entryOfBody_eq_ok_iff {key : String} {items : List Literal} {entry : Entry} :
    entryOfBody key items = .ok entry ↔ ∃ name literals records, items = .string name :: literals ∧
      literals ≠ [] ∧ List.Forall₂ TellsRecord literals records ∧
        entry = ⟨key, name, records⟩ := by
  constructor
  · intro h
    rw [entryOfBody.eq_def] at h
    split at h
    next => cases h
    next name literals =>
      split at h
      next => cases h
      next hsome =>
        split at h
        next records hrecords =>
          cases h
          refine ⟨name, literals, records, rfl, ?_, recordsOf_eq_ok_iff.1 hrecords, rfl⟩
          rintro rfl
          exact hsome rfl
        next => cases h
    next => cases h
  · rintro ⟨name, literals, records, rfl, hsome, hrecords, rfl⟩
    rw [entryOfBody, if_neg fun hempty => hsome (List.isEmpty_iff.1 hempty),
      recordsOf_eq_ok_iff.2 hrecords]

/-- **An entry is read exactly from a literal that tells it.** -/
theorem entryOf_eq_ok_iff {l : Literal} {entry : Entry} :
    entryOf l = .ok entry ↔ TellsEntry l entry := by
  constructor
  · intro h
    rw [entryOf.eq_def] at h
    split at h
    next key body =>
      rw [entryOfParts.eq_def] at h
      split at h
      next key =>
        split at h
        next => cases h
        next hkey =>
          split at h
          next items =>
            obtain ⟨name, literals, records, rfl, hsome, hrecords, rfl⟩ :=
              entryOfBody_eq_ok_iff.1 h
            exact .intro key name hkey hsome hrecords
          next => cases h
      next => cases h
    next => cases h
    next => cases h
  · rintro ⟨key, name, hkey, hsome, hrecords⟩
    rw [entryOf, entryOfParts, if_neg hkey]
    exact entryOfBody_eq_ok_iff.2 ⟨name, _, _, rfl, hsome, hrecords, rfl⟩

/-! ## Faults -/

/-- Whether an item is the first of a list that does not have the shape of an entry. -/
structure FirstMalformed (items : List Literal) (k : Nat) : Prop where
  /-- It does not have the shape. -/
  malformed : ∃ item, items[k]? = some item ∧ ¬IsEntry item
  /-- All items in front of it do. -/
  front : ∀ j < k, ∃ item, items[j]? = some item ∧ IsEntry item

/-- Whether an entry is the first of a list whose key is that of an earlier one. -/
def FirstRepeat (entries : List Entry) (entry : Entry) : Prop :=
  ∃ before behind, entries = before ++ entry :: behind ∧
    entry.key ∈ before.map Entry.key ∧ (before.map Entry.key).Nodup

/-- The words for a fault in the item of this number. -/
def faultAt (k : Nat) (reason : String) : String :=
  variableName ++ "[" ++ decimal k ++ "]: " ++ reason

/-- The number of the item can be told from the words. -/
theorem faultAt_inj {j k : Nat} {reason more : String} (h : faultAt j reason = faultAt k more) :
    j = k := by
  have hchars := congrArg String.toList h
  have hbrackets (k : Nat) (reason : String) : (faultAt k reason).toList
      = variableName.toList ++ (Nav.bracketed k ++ (": ".toList ++ reason.toList)) := by
    simp [faultAt, Nav.bracketed, decimal]
  rw [hbrackets, hbrackets] at hchars
  exact (Nav.bracketed_append_inj (List.append_cancel_left hchars)).1

/-- What reading items comes to that stand from position `i` on. -/
inductive EntriesVerdict (name : String) (i : Nat) (items : List Literal) :
    Except Error (List Entry) → Prop where
  /-- Each of them tells an entry. -/
  | read {entries : List Entry} (h : List.Forall₂ TellsEntry items entries) :
      EntriesVerdict name i items (.ok entries)
  /-- The first one that tells none is complained about. -/
  | fault {k : Nat} (reason : String) (h : FirstMalformed items k) :
      EntriesVerdict name i items (.error (.unavailablePartition name (faultAt (i + k) reason)))

/-- **The verdict on entries in a row.** -/
theorem verdict_entriesOf (name : String) (i : Nat) (items : List Literal) :
    EntriesVerdict name i items (entriesOf name i items) := by
  induction items generalizing i with
  | nil => exact .read .nil
  | cons item rest ih =>
      have hrest := ih (i + 1)
      rw [entriesOf]
      cases hitem : entryOf item with
      | error reason =>
          have hbad : ¬IsEntry item := by
            rintro ⟨entry, hentry⟩
            rw [entryOf_eq_ok_iff.2 hentry] at hitem
            cases hitem
          exact .fault (k := 0) reason ⟨⟨item, rfl, hbad⟩, fun j hj => absurd hj (Nat.not_lt_zero j)⟩
      | ok entry =>
          have hentry := entryOf_eq_ok_iff.1 hitem
          simp only
          generalize entriesOf name (i + 1) rest = read at hrest
          cases hrest with
          | read h => exact .read (.cons hentry h)
          | @fault k reason h =>
              -- A fault behind the first item stands one position further on from here.
              have hplace : i + 1 + k = i + (k + 1) := by omega
              rw [hplace]
              refine .fault (k := k + 1) reason ⟨h.malformed, fun j hj => ?_⟩
              cases j with
              | zero => exact ⟨item, rfl, entry, hentry⟩
              | succ j => exact h.front j (Nat.lt_of_succ_lt_succ hj)

/-- A repeated key is that of the first entry whose key has occurred before. -/
theorem exists_of_repeatedKey?_eq_some {seen : List String} {entries : List Entry} {key : String}
    (h : repeatedKey? seen entries = some key) : ∃ before entry behind,
      entries = before ++ entry :: behind ∧ entry.key = key ∧
        (key ∈ seen ∨ key ∈ before.map Entry.key) ∧ (before.map Entry.key).Nodup ∧
          ∀ earlier ∈ before, earlier.key ∉ seen := by
  induction entries generalizing seen with
  | nil => cases h
  | cons first rest ih =>
      rw [repeatedKey?] at h
      split at h
      next hseen =>
        cases h
        exact ⟨[], first, rest, rfl, rfl, Or.inl hseen, List.nodup_nil, List.forall_mem_nil _⟩
      next hnew =>
        obtain ⟨before, entry, behind, rfl, rfl, hrepeat, hnodup, hbefore⟩ := ih h
        refine ⟨first :: before, entry, behind, rfl, rfl, ?_, ?_, ?_⟩
        · rw [List.mem_cons] at hrepeat
          rw [List.map_cons, List.mem_cons]
          tauto
        · rw [List.map_cons, List.nodup_cons]
          refine ⟨fun hmem => ?_, hnodup⟩
          obtain ⟨earlier, hearlier, hkey⟩ := List.mem_map.1 hmem
          exact hbefore earlier hearlier (hkey ▸ List.mem_cons_self)
        · rw [List.forall_mem_cons]
          exact ⟨hnew, fun earlier hearlier hseen =>
            hbefore earlier hearlier (List.mem_cons_of_mem _ hseen)⟩

/-! ## Texts -/

/-- Whether a text is a script whose data are an array of these items. -/
def DeclaresItems (source : String) (items : List Literal) : Prop :=
  ∃ script, Script.parse source = .ok script ∧ script.get? variableName = some (.array items)

/-- A text has one array of data at most. -/
theorem DeclaresItems.unique {source : String} {items items' : List Literal}
    (h : DeclaresItems source items) (h' : DeclaresItems source items') : items = items' := by
  obtain ⟨script, hscript, hitems⟩ := h
  obtain ⟨script', hscript', hitems'⟩ := h'
  cases hscript.symm.trans hscript'
  cases hitems.symm.trans hitems'
  rfl

/-- How the complaint about a repeated key begins. -/
def duplicateWords : String := "duplicate key "

/-- What reading a text as the partition of a name comes to. -/
inductive Verdict (name source : String) : Except Error Partition → Prop where
  /-- The items tell the entries of the partition. -/
  | read {items : List Literal} {partition : Partition} (hitems : DeclaresItems source items)
      (hname : partition.name = name) (h : List.Forall₂ TellsEntry items partition.entries) :
      Verdict name source (.ok partition)
  /-- There is no array of data. -/
  | undeclared {reason : String} (hitems : ∀ items, ¬DeclaresItems source items)
      (hother : ∀ words, reason ≠ duplicateWords ++ words) :
      Verdict name source (.error (.unavailablePartition name reason))
  /-- The first item that does not have the shape of an entry is complained about. -/
  | malformed {items : List Literal} {k : Nat} (reason : String)
      (hitems : DeclaresItems source items) (h : FirstMalformed items k) :
      Verdict name source (.error (.unavailablePartition name (faultAt k reason)))
  /-- All items tell entries, and the first key that is repeated is complained about. -/
  | repeated {items : List Literal} {entries : List Entry} {entry : Entry}
      (hitems : DeclaresItems source items) (h : List.Forall₂ TellsEntry items entries)
      (hrepeat : FirstRepeat entries entry) :
      Verdict name source
        (.error (.unavailablePartition name (duplicateWords ++ display entry.key)))

/-- Words that begin with another character are not about a repeated key. -/
theorem ne_duplicateWords {c : Char} {reason : String} (h : reason.toList.head? = some c)
    (hc : c ≠ 'd') (words : String) : reason ≠ duplicateWords ++ words := by
  rintro rfl
  rw [String.toList_append] at h
  exact hc (Option.some.inj h).symm

/-- **The verdict on a text.** -/
theorem verdict_parse (name source : String) : Verdict name source (parse name source) := by
  rw [parse]
  cases hscript : Script.parse source with
  | error e =>
      refine .undeclared ?_ (ne_duplicateWords (c := 's') ?_ (by decide))
      · rintro items ⟨script, hparse, -⟩
        cases hscript.symm.trans hparse
      · change ("script error: " ++ e.message).toList.head? = some 's'
        simp
  | ok script =>
      have hdeclares (items : List Literal) :
          DeclaresItems source items ↔ script.get? variableName = some (.array items) := by
        constructor
        · rintro ⟨script', hparse, hitems⟩
          cases hscript.symm.trans hparse
          exact hitems
        · exact fun hitems => ⟨script, hscript, hitems⟩
      simp only
      rw [ofScript.eq_def]
      split
      next hnone =>
        refine .undeclared ?_ (ne_duplicateWords (c := 'n') ?_ (by decide))
        · intro items hitems
          rw [hdeclares, hnone] at hitems
          cases hitems
        · simp
      next items hitems =>
        have hread := verdict_entriesOf name 0 items
        generalize entriesOf name 0 items = read at hread
        cases hread with
        | fault reason h =>
            rw [Nat.zero_add]
            exact .malformed reason ((hdeclares items).2 hitems) h
        | @read entries h =>
            simp only
            rw [ofEntries]
            split
            next key hkey =>
              obtain ⟨before, entry, behind, hsplit, rfl, hrepeat, hnodup, -⟩ :=
                exists_of_repeatedKey?_eq_some hkey
              have hearlier := hrepeat.resolve_left List.not_mem_nil
              exact .repeated ((hdeclares items).2 hitems) h
                ⟨before, behind, hsplit, hearlier, hnodup⟩
            next => exact .read ((hdeclares items).2 hitems) rfl h
      next other hother hget =>
        refine .undeclared ?_ (ne_duplicateWords (c := 's') ?_ (by decide))
        · intro items hitems
          rw [hdeclares, hget] at hitems
          exact hother items (Option.some.inj hitems)
        · simp [variableName]

/-! ## What the verdict says -/

/-- A literal tells one entry at most. -/
theorem rightUnique_tellsEntry : Relator.RightUnique TellsEntry := by
  intro l entry entry' h h'
  exact Except.ok.inj ((entryOf_eq_ok_iff.2 h).symm.trans (entryOf_eq_ok_iff.2 h'))

/-- Where all items tell entries, each has the shape of an entry. -/
theorem forall_isEntry {items : List Literal} {entries : List Entry}
    (h : List.Forall₂ TellsEntry items entries) : ∀ item ∈ items, IsEntry item := by
  induction h with
  | nil => exact List.forall_mem_nil _
  | cons hentry _ ih => exact List.forall_mem_cons.2 ⟨⟨_, hentry⟩, ih⟩

/-- Where an item does not have the shape of an entry, not all items do. -/
theorem FirstMalformed.not_forall {items : List Literal} {k : Nat} (h : FirstMalformed items k) :
    ¬∀ item ∈ items, IsEntry item := by
  obtain ⟨item, hitem, hbad⟩ := h.malformed
  exact fun hall => hbad (hall item (List.mem_of_getElem? hitem))

/-- Entries of which one repeats the key of an earlier one do not all have different keys. -/
theorem FirstRepeat.not_nodup {entries : List Entry} {entry : Entry}
    (h : FirstRepeat entries entry) : ¬(entries.map Entry.key).Nodup := by
  obtain ⟨before, behind, rfl, hmem, -⟩ := h
  intro hnodup
  rw [List.map_append, List.map_cons, List.nodup_append] at hnodup
  exact hnodup.2.2 _ hmem _ List.mem_cons_self rfl

namespace Verdict

variable {name source : String} {items : List Literal} {entries : List Entry}
  {result : Except Error Partition}

/-- Where the items tell entries, these are read unless a key is repeated. -/
theorem of_told (h : Verdict name source result) (hitems : DeclaresItems source items)
    (htold : List.Forall₂ TellsEntry items entries) :
    (∃ hnodup, result = .ok ⟨name, entries, hnodup⟩) ∨
      ∃ entry, FirstRepeat entries entry ∧
        result = .error (.unavailablePartition name (duplicateWords ++ display entry.key)) := by
  cases h with
  | undeclared hnone => exact absurd hitems (hnone items)
  | malformed reason hitems' h =>
      cases hitems.unique hitems'
      exact absurd (forall_isEntry htold) h.not_forall
  | read hitems' hname htold' =>
      cases hitems.unique hitems'
      cases List.right_unique_forall₂' rightUnique_tellsEntry htold htold'
      exact Or.inl ⟨Partition.nodup _, by rw [← hname]⟩
  | repeated hitems' htold' h =>
      cases hitems.unique hitems'
      cases List.right_unique_forall₂' rightUnique_tellsEntry htold htold'
      exact Or.inr ⟨_, h, rfl⟩

/-- Where an item does not have the shape of an entry, the first such is complained about. -/
theorem of_not_isEntry (h : Verdict name source result) (hitems : DeclaresItems source items)
    (hbad : ∃ item ∈ items, ¬IsEntry item) : ∃ k reason, FirstMalformed items k ∧
      result = .error (.unavailablePartition name (faultAt k reason)) := by
  obtain ⟨item, hitem, hbad⟩ := hbad
  cases h with
  | undeclared hnone => exact absurd hitems (hnone items)
  | malformed reason hitems' h =>
      cases hitems.unique hitems'
      exact ⟨_, reason, h, rfl⟩
  | read hitems' _ htold =>
      cases hitems.unique hitems'
      exact absurd (forall_isEntry htold item hitem) hbad
  | repeated hitems' htold =>
      cases hitems.unique hitems'
      exact absurd (forall_isEntry htold item hitem) hbad

/-- What is read has the name, and the items tell its entries. -/
theorem of_ok {partition : Partition} (h : Verdict name source (.ok partition)) :
    partition.name = name ∧
      ∃ items, DeclaresItems source items ∧ List.Forall₂ TellsEntry items partition.entries := by
  cases h with
  | read hitems hname htold => exact ⟨hname, _, hitems, htold⟩

/-- Whatever goes wrong, it is the partition of the name that cannot be had. -/
theorem of_error {e : Error} (h : Verdict name source (.error e)) :
    ∃ reason, e = .unavailablePartition name reason := by
  cases h with
  | undeclared | malformed | repeated => exact ⟨_, rfl⟩

/-- A repeated key is complained about only where all items have the shape of entries. -/
theorem of_duplicateWords {words : String} (h : Verdict name source
    (.error (.unavailablePartition name (duplicateWords ++ words)))) :
    ∃ items, DeclaresItems source items ∧ ∀ item ∈ items, IsEntry item := by
  generalize hresult : duplicateWords ++ words = reason at h
  cases h with
  | undeclared _ hother => exact absurd hresult.symm (hother words)
  | malformed reason =>
      refine absurd hresult.symm (ne_duplicateWords (c := 's') ?_ (by decide) words)
      simp [faultAt, variableName]
  | repeated hitems htold => exact ⟨_, hitems, forall_isEntry htold⟩

end Verdict

/-- Whether a text is read as the partition of a name exactly as its data tell. -/
structure ReadsAsTold (name source : String) : Prop where
  /-- A partition is read exactly if it has this name and the items of the data tell its entries,
  one by one. -/
  eq_ok_iff : ∀ partition, parse name source = .ok partition ↔ partition.name = name ∧
    ∃ items, DeclaresItems source items ∧ List.Forall₂ TellsEntry items partition.entries
  /-- So one is read exactly if the items tell entries whose keys are all different. -/
  exists_ok_iff : (∃ partition, parse name source = .ok partition) ↔ ∃ items entries,
    DeclaresItems source items ∧ List.Forall₂ TellsEntry items entries ∧
      (entries.map Entry.key).Nodup
  /-- Whatever goes wrong, it is the partition of this name that cannot be had. -/
  refusal : ∀ e, parse name source = .error e → ∃ reason, e = .unavailablePartition name reason
  /-- If an item does not have the shape of an entry, the complaint gives the number of the first
  one, and no other number can be read from it. -/
  malformed : ∀ items, DeclaresItems source items → (∃ item ∈ items, ¬IsEntry item) →
    ∃ k reason, FirstMalformed items k ∧
      parse name source = .error (.unavailablePartition name (faultAt k reason)) ∧
      ∀ j more, faultAt j more = faultAt k reason → j = k
  /-- If all items tell entries, but not all keys are different, the complaint gives the first key
  that repeats an earlier one. -/
  repeated : ∀ items entries, DeclaresItems source items → List.Forall₂ TellsEntry items entries →
    ¬(entries.map Entry.key).Nodup → ∃ entry, FirstRepeat entries entry ∧
      parse name source = .error (.unavailablePartition name (duplicateWords ++ display entry.key))
  /-- A repeated key is complained about only if all items have the shape of entries. -/
  repeated_only : ∀ words,
    parse name source = .error (.unavailablePartition name (duplicateWords ++ words)) →
      ∃ items, DeclaresItems source items ∧ ∀ item ∈ items, IsEntry item

end Partition

/-- **What a text comes to as the partition of a name.** -/
theorem partition_verdict (name source : String) : Partition.ReadsAsTold name source := by
  have hverdict := Partition.verdict_parse name source
  -- Of the two things that told entries can come to, each rules out the other.
  have hok : ∀ partition, Partition.parse name source = .ok partition ↔ partition.name = name ∧
      ∃ items, Partition.DeclaresItems source items ∧
        List.Forall₂ TellsEntry items partition.entries := by
    intro partition
    constructor
    · intro h
      rw [h] at hverdict
      exact hverdict.of_ok
    · rintro ⟨rfl, items, hitems, htold⟩
      rcases hverdict.of_told hitems htold with ⟨_, h⟩ | ⟨entry, hrepeat, -⟩
      · exact h
      · exact absurd partition.nodup hrepeat.not_nodup
  refine ⟨hok, ⟨?_, ?_⟩, ?_, ?_, ?_, ?_⟩
  · rintro ⟨partition, h⟩
    obtain ⟨-, items, hitems, htold⟩ := (hok partition).1 h
    exact ⟨items, partition.entries, hitems, htold, partition.nodup⟩
  · rintro ⟨items, entries, hitems, htold, hnodup⟩
    exact ⟨⟨name, entries, hnodup⟩, (hok _).2 ⟨rfl, items, hitems, htold⟩⟩
  · intro e he
    rw [he] at hverdict
    exact hverdict.of_error
  · intro items hitems hbad
    obtain ⟨k, reason, hfirst, h⟩ := hverdict.of_not_isEntry hitems hbad
    exact ⟨k, reason, hfirst, h, fun j more => Partition.faultAt_inj⟩
  · intro items entries hitems htold hnot
    rcases hverdict.of_told hitems htold with ⟨hnodup, -⟩ | hrepeated
    · exact absurd hnodup hnot
    · exact hrepeated
  · intro words h
    rw [h] at hverdict
    exact hverdict.of_duplicateWords

/-- A partition whose second entry has no records. -/
def raggedPartition : Partition where
  name := "all_2.js"
  entries := [⟨"a_0", "a", [⟨"a.html", true, none⟩]⟩, ⟨"b_0", "b", []⟩]
  nodup := by decide

/-- The second entry is complained about. -/
theorem partition_verdict_raggedPartition :
    ¬IsEntry (Entry.literal ⟨"b_0", "b", []⟩) ∧ ∃ reason,
      Partition.parse "all_2.js" raggedPartition.render
        = .error (.unavailablePartition "all_2.js" (Partition.faultAt 1 reason)) := by
  have hfirst : IsEntry (Entry.literal ⟨"a_0", "a", [⟨"a.html", true, none⟩]⟩) :=
    ⟨_, Partition.entryOf_eq_ok_iff.1 (Eq.refl _)⟩
  have hsecond : ¬IsEntry (Entry.literal ⟨"b_0", "b", []⟩) := by
    rintro ⟨_, ⟨_, _, _, hsome, _⟩⟩
    exact hsome rfl
  have hitems : Partition.DeclaresItems raggedPartition.render
      (raggedPartition.entries.map Entry.literal) :=
    ⟨_, Script.parse_of_declares (declares_render raggedPartition), rfl⟩
  obtain ⟨k, reason, hk, hread, -⟩ := (partition_verdict "all_2.js" raggedPartition.render).malformed
    _ hitems ⟨_, List.mem_cons_of_mem _ (List.mem_singleton_self _), hsecond⟩
  obtain rfl : k = 1 := by
    obtain ⟨item, hitem, hbad⟩ := hk.malformed
    match k with
    | 0 =>
        cases hitem
        exact absurd hfirst hbad
    | 1 => rfl
    | _ + 2 => cases hitem
  exact ⟨hsecond, reason, hread⟩

end DocSite.Search
