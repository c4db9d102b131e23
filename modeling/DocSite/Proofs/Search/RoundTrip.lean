import DocSite.Proofs.Readback
import DocSite.Proofs.Script.Declared
import DocSite.Search.Printer

/-! # Partitions read back

A partition that is written and read again is the same partition, as long as each of its entries has
a key and a record; otherwise the partition is refused under its name.

* **`declares_render`** — the text of a partition is a script, whatever is in the partition: it
  declares the literals of the entries.
* **`entriesOf_map_literal`** — entries are read back from their literals if they can be told. A
  flag is written as a number, and a scope that is not given is left out, so both are told apart
  again.
* **`parse_render_partition`** — the same of whole partitions, from text to text. -/

namespace DocSite.Search

open DocSite.Script

/-! ## What a partition can tell -/

/-- Whether a partition can tell an entry: it has a key and a record. -/
def Entry.IsWritable (entry : Entry) : Prop := entry.key ≠ "" ∧ entry.records ≠ []

instance : DecidablePred Entry.IsWritable := fun entry =>
  inferInstanceAs (Decidable (entry.key ≠ "" ∧ entry.records ≠ []))

/-- Whether all entries of a partition can be told. -/
def Partition.IsWritable (partition : Partition) : Prop :=
  ∀ entry ∈ partition.entries, entry.IsWritable

instance : DecidablePred Partition.IsWritable := fun partition =>
  inferInstanceAs (Decidable (∀ entry ∈ partition.entries, entry.IsWritable))

/-! ## Literals -/

/-- The number that tells a flag. -/
def flagLiteral (flag : Bool) : Literal := .number (.ofNat flag.toNat)

/-- The literal that tells a record. -/
def Record.literal (record : Record) : Literal :=
  match record.scope with
  | none => .array [.string record.link, flagLiteral record.parentFrame]
  | some scope => .array [.string record.link, flagLiteral record.parentFrame, .string scope]

/-- The literal that tells an entry. -/
def Entry.literal (entry : Entry) : Literal :=
  .array [.string entry.key, .array (.string entry.name :: entry.records.map Record.literal)]

/-- What the text of a partition declares. -/
def Partition.bindings (partition : Partition) : List (String × Literal) :=
  [(Partition.variableName, .array (partition.entries.map Entry.literal))]

/-! ## Writing -/

/-- A text in single quotes is written. -/
theorem written_quote (s : String) : Written (quoteChars '\'' s.toList) (.string s) :=
  .string isDelimiter_single s

/-- A flag is written. -/
theorem written_flag (flag : Bool) :
    Written (if flag then "1" else "0").toList (flagLiteral flag) := by
  have h := Written.flag flag
  cases flag with
  | false => exact h
  | true => exact h

/-- Behind its comma a record is written as its literal. -/
theorem written_record (record : Record) :
    ∃ s, record.render.toList = ',' :: s ∧ Written s record.literal := by
  obtain ⟨link, flag, scope⟩ := record
  cases scope with
  | none =>
      have hflag := WrittenItems.last isBlank_nil (written_flag flag) isBlank_nil
      have hlink := WrittenItems.cons isBlank_nil (written_quote link) isBlank_nil hflag
      refine ⟨_, ?_, .array hlink⟩
      simp [Record.render, Record.render.scope]
  | some scope =>
      have hscope := WrittenItems.last isBlank_nil (written_quote scope) isBlank_nil
      have hflag := WrittenItems.cons isBlank_nil (written_flag flag) isBlank_nil hscope
      have hlink := WrittenItems.cons isBlank_nil (written_quote link) isBlank_nil hflag
      refine ⟨_, ?_, .array hlink⟩
      simp [Record.render, Record.render.scope]

/-- Records are written behind what stands in front of them. -/
theorem writtenItems_records {s : List Char} {item : Literal} (h : Written s item)
    (records : List Record) :
    WrittenItems (s ++ (String.join (records.map Record.render)).toList)
      (item :: records.map Record.literal) := by
  induction records generalizing s item with
  | nil =>
      have hlast := WrittenItems.last isBlank_nil h isBlank_nil
      simpa using hlast
  | cons record rest ih =>
      obtain ⟨t, ht, hrecord⟩ := written_record record
      have hcons := WrittenItems.cons isBlank_nil h isBlank_nil (ih hrecord)
      simpa [String.join_cons, ht] using hcons

/-- **An entry is written as its literal**, behind two blanks. -/
theorem written_entry (entry : Entry) :
    ∃ s, entry.render.toList = ' ' :: ' ' :: s ∧ Written s entry.literal := by
  have hrecords := writtenItems_records (written_quote entry.name) entry.records
  have hbody := WrittenItems.last isBlank_nil (.array hrecords) isBlank_nil
  have hkey := WrittenItems.cons isBlank_nil (written_quote entry.key) isBlank_nil hbody
  refine ⟨_, ?_, .array hkey⟩
  simp [Entry.render]

/-- **Entries are written as their literals**, with commas and line breaks between them. -/
theorem writtenItems_renderEntries (entries : List Entry) :
    WrittenItems (renderEntries entries).toList (entries.map Entry.literal) := by
  have hblanks : IsBlank [' ', ' '] := isBlank_space.append isBlank_space
  induction entries with
  | nil => exact .none isBlank_nil
  | cons entry rest ih =>
      obtain ⟨s, hs, hentry⟩ := written_entry entry
      cases rest with
      | nil =>
          have hlast := WrittenItems.last hblanks hentry isBlank_break
          simpa [renderEntries, hs] using hlast
      | cons next more =>
          have hcons := WrittenItems.cons hblanks hentry isBlank_nil
            (ih.blank_append isBlank_break)
          simpa [renderEntries, hs] using hcons

/-- **The text of a partition is a script of one declaration**, whatever is in the partition. -/
theorem declares_render (partition : Partition) :
    Declares partition.render.toList partition.bindings := by
  have hentries := (writtenItems_renderEntries partition.entries).blank_append isBlank_break
  have h := Declares.cons Partition.variableName isBlank_nil (by decide) isBlank_nil isBlank_break
    (.array hentries) (.nil isBlank_break)
  simpa [Partition.render, Partition.bindings] using h

/-! ## Reading back -/

/-- A refusal of the partition of this name. -/
def IsRefusal (name : String) (e : Error) : Prop := ∃ reason, e = .unavailablePartition name reason

namespace Partition

/-- A flag is read back from its number. -/
theorem flagOf_flagLiteral (flag : Bool) : flagOf (flagLiteral flag) = .ok flag := by
  have h : (Double.ofNat flag.toNat).exceedsEpsilon = flag := by cases flag <;> decide +kernel
  rw [flagLiteral, flagOf, h]

/-- A record is read back from its literal; a scope that is empty differs from one that is not
given. -/
theorem recordOf_literal (record : Record) : recordOf record.literal = .ok record := by
  obtain ⟨link, flag, scope⟩ := record
  cases scope with
  | none => rw [Record.literal, recordOf, recordOfParts, flagOf_flagLiteral]
  | some scope => rw [Record.literal, recordOf, recordOfParts, flagOf_flagLiteral]

/-- Records are read back from their literals. -/
theorem recordsOf_map_literal (records : List Record) :
    recordsOf (records.map Record.literal) = .ok records := by
  induction records with
  | nil => rfl
  | cons record rest ih => rw [List.map_cons, recordsOf, recordOf_literal, ih]

/-- **An entry is read back from its literal** if it has a key and a record. -/
theorem entryOf_literal (entry : Entry) :
    Readback (fun _ => True) entry.IsWritable entry (entryOf entry.literal) := by
  obtain ⟨key, name, records⟩ := entry
  rw [Entry.literal, entryOf, entryOfParts, entryOfBody, Entry.IsWritable]
  by_cases hkey : key = ""
  · rw [if_pos hkey]
    exact Or.inr ⟨fun h => h.1 hkey, _, rfl, trivial⟩
  · rw [if_neg hkey]
    cases records with
    | nil => exact Or.inr ⟨fun h => h.2 rfl, _, rfl, trivial⟩
    | cons record rest =>
        refine Or.inl ⟨⟨hkey, List.cons_ne_nil record rest⟩, ?_⟩
        rw [recordsOf_map_literal]
        rfl

/-- **Entries are read back from their literals** if each of them has a key and a record. -/
theorem entriesOf_map_literal (name : String) (entries : List Entry) (i : Nat) :
    Readback (IsRefusal name) (∀ entry ∈ entries, entry.IsWritable) entries
      (entriesOf name i (entries.map Entry.literal)) := by
  induction entries generalizing i with
  | nil => exact (Readback.of_eq rfl).congr (by simp)
  | cons entry rest ih =>
      rw [List.forall_mem_cons, List.map_cons, entriesOf]
      refine (entryOf_literal entry).and (fun h => ?_) (fun reason h _ => ?_)
      · rw [h]
        refine (ih (i + 1)).map (fun hrest => ?_) (fun e hrest he => ⟨e, ?_, he⟩)
        · rw [hrest]
        · rw [hrest]
      · rw [h]
        exact ⟨_, rfl, _, rfl⟩

/-- Entries of which no key is repeated, here or before, have no repeated key. -/
theorem repeatedKey?_eq_none {seen : List String} {entries : List Entry}
    (hnodup : (entries.map Entry.key).Nodup) (hnew : ∀ entry ∈ entries, entry.key ∉ seen) :
    repeatedKey? seen entries = none := by
  induction entries generalizing seen with
  | nil => rfl
  | cons entry rest ih =>
      rw [List.map_cons, List.nodup_cons] at hnodup
      rw [repeatedKey?, if_neg (hnew entry List.mem_cons_self)]
      apply ih hnodup.2
      intro x hx
      rw [List.mem_cons, not_or]
      refine ⟨fun hkey => hnodup.1 ?_, hnew x (List.mem_cons_of_mem entry hx)⟩
      rw [← hkey]
      exact List.mem_map_of_mem hx

/-- The partition of the entries of a partition is that partition. -/
theorem ofEntries_entries (partition : Partition) :
    ofEntries partition.name partition.entries = .ok partition := by
  have hkeys : repeatedKey? [] partition.entries = none :=
    repeatedKey?_eq_none partition.nodup fun _ _ => List.not_mem_nil
  rw [ofEntries]
  split
  next h =>
      rw [hkeys] at h
      cases h
  next => rfl

/-- **A partition is read back from its text** if each of its entries has a key and a record. -/
theorem readback_parse_render (partition : Partition) :
    Readback (IsRefusal partition.name) partition.IsWritable partition
      (parse partition.name partition.render) := by
  have hscript : Script.parse partition.render = .ok ⟨partition.bindings⟩ :=
    parse_of_declares (declares_render partition)
  have hentries : Script.get? ⟨partition.bindings⟩ variableName
      = some (.array (partition.entries.map Entry.literal)) := rfl
  have h := entriesOf_map_literal partition.name partition.entries 0
  rw [parse, hscript]
  refine h.map (fun h => ?_) (fun e h he => ⟨e, ?_, he⟩)
  · simp only [ofScript, hentries, h, ofEntries_entries]
  · simp only [ofScript, hentries, h]

/-! ## Partitions that were read -/

/-- Records are read one by one. -/
theorem length_of_recordsOf {literals : List Literal} {records : List Record}
    (h : recordsOf literals = .ok records) : records.length = literals.length := by
  induction literals generalizing records with
  | nil =>
      cases h
      rfl
  | cons literal rest ih =>
      rw [recordsOf] at h
      split at h
      · cases h
      · split at h
        next hrest =>
            cases h
            rw [List.length_cons, List.length_cons, ih hrest]
        · cases h

/-- An entry that is read from its body has the key, and a record. -/
theorem of_entryOfBody {key : String} {items : List Literal} {entry : Entry}
    (h : entryOfBody key items = .ok entry) : entry.key = key ∧ entry.records ≠ [] := by
  rw [entryOfBody.eq_def] at h
  split at h
  · cases h
  next name literals =>
      by_cases hempty : literals.isEmpty = true
      · rw [if_pos hempty] at h
        cases h
      · rw [if_neg hempty] at h
        split at h
        next records hrecords =>
            cases h
            -- No record is dropped, and there was at least one literal.
            have hlen : records.length = literals.length := length_of_recordsOf hrecords
            refine ⟨rfl, fun hnil => hempty ?_⟩
            rw [show records = [] from hnil, List.length_nil] at hlen
            exact List.isEmpty_iff.2 (List.eq_nil_of_length_eq_zero hlen.symm)
        · cases h
  · cases h

/-- An entry that is read can be told. -/
theorem isWritable_of_entryOf {literal : Literal} {entry : Entry}
    (h : entryOf literal = .ok entry) : entry.IsWritable := by
  rw [entryOf.eq_def] at h
  split at h
  next key body =>
      rw [entryOfParts.eq_def] at h
      split at h
      next key =>
          by_cases hkey : key = ""
          · rw [if_pos hkey] at h
            cases h
          · rw [if_neg hkey] at h
            split at h
            next items =>
                obtain ⟨hentry, hrecords⟩ := of_entryOfBody h
                exact ⟨hentry ▸ hkey, hrecords⟩
            · cases h
      · cases h
  · cases h
  · cases h

/-- Entries that are read can be told. -/
theorem isWritable_of_entriesOf {name : String} {i : Nat} {literals : List Literal}
    {entries : List Entry} (h : entriesOf name i literals = .ok entries) :
    ∀ entry ∈ entries, entry.IsWritable := by
  induction literals generalizing i entries with
  | nil =>
      cases h
      exact fun _ hmem => nomatch hmem
  | cons literal rest ih =>
      rw [entriesOf] at h
      split at h
      · cases h
      next entry hentry =>
          split at h
          next more hmore =>
              cases h
              rw [List.forall_mem_cons]
              exact ⟨isWritable_of_entryOf hentry, ih hmore⟩
          · cases h

/-- The partition of given entries has these entries. -/
theorem entries_of_ofEntries {name : String} {entries : List Entry} {partition : Partition}
    (h : ofEntries name entries = .ok partition) : partition.entries = entries := by
  rw [ofEntries] at h
  split at h
  · cases h
  · cases h
    rfl

/-- **A partition that is read can be told.** -/
theorem isWritable_of_parse {name source : String} {partition : Partition}
    (h : parse name source = .ok partition) : partition.IsWritable := by
  rw [parse] at h
  split at h
  · cases h
  next script _ =>
      rw [ofScript] at h
      split at h
      · cases h
      next items _ =>
          split at h
          next entries hentries =>
              rw [IsWritable, entries_of_ofEntries h]
              exact isWritable_of_entriesOf hentries
          · cases h
      · cases h

end Partition

/-- **Writing and reading.** A partition that is written and read again under its name is the same
partition exactly if each of its entries has a key and a record; otherwise it is refused under its
name. A partition that was read from any text is always read back. -/
theorem parse_render_partition (partition : Partition) :
    (Partition.parse partition.name partition.render = .ok partition ↔ partition.IsWritable) ∧
      (¬partition.IsWritable → ∃ reason,
        Partition.parse partition.name partition.render
          = .error (.unavailablePartition partition.name reason)) ∧
      (∀ name source, Partition.parse name source = .ok partition →
        Partition.parse partition.name partition.render = .ok partition) := by
  have h := partition.readback_parse_render
  refine ⟨h.eq_ok_iff, fun hbad => ?_, fun name source hparse => ?_⟩
  · obtain ⟨e, he, reason, rfl⟩ := h.eq_error hbad
    exact ⟨reason, he⟩
  · exact h.eq_ok_iff.2 (Partition.isWritable_of_parse hparse)

/-- A partition with characters that have to be escaped, and with and without a scope. -/
def mixedPartition : Partition where
  name := "all_0.js"
  entries := [
    ⟨"it_27s_0", "it's \\", [⟨"a.html#\n", true, none⟩, ⟨"b.html", false, some ""⟩]⟩,
    ⟨"é", "", [⟨"", false, some "\u0000"⟩]⟩]
  nodup := by decide

/-- A partition with an entry that has no records. -/
def recordlessPartition : Partition where
  name := "all_1.js"
  entries := [⟨"a_0", "a", []⟩]
  nodup := by decide

/-- One partition is read from a text and read back, the other cannot be told by any. -/
theorem parse_render_mixedPartition :
    (Partition.parse "all_0.js" mixedPartition.render = .ok mixedPartition ∧
        Partition.parse mixedPartition.name mixedPartition.render = .ok mixedPartition) ∧
      (¬recordlessPartition.IsWritable ∧ ∃ reason,
        Partition.parse recordlessPartition.name recordlessPartition.render
          = .error (.unavailablePartition recordlessPartition.name reason)) := by
  have hread : Partition.parse "all_0.js" mixedPartition.render = .ok mixedPartition :=
    (parse_render_partition mixedPartition).1.2 (by decide)
  have hrecordless : ¬recordlessPartition.IsWritable := by decide
  exact ⟨⟨hread, (parse_render_partition mixedPartition).2.2 _ _ hread⟩,
    hrecordless, (parse_render_partition recordlessPartition).2.1 hrecordless⟩

end DocSite.Search
