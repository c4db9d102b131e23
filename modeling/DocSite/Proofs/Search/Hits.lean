import DocSite.Search.Index

/-! # What a search finds

What a query is about are the entries whose stem begins with its key form, as far as they are in
slots that the query may concern (`matching`). It does not matter whether a slot has been read: what
it holds is said of the file behind it (`Content.entries`). A search gives the hits of these entries
(`hits_search`, `mem_hits_search`). An index of partitions at hand has no files behind it and
concerns every query (`mem_hits_search_ofPartitions`). -/

namespace DocSite.Search

/-! ## What is in a slot -/

/-- The entries of the partition in a file; none if the file cannot be used. -/
def entriesAt (files : Files) (p : Path) : List Entry :=
  match Partition.load files p with
  | .ok partition => partition.entries
  | .error _ => []

namespace Content

/-- The entries that a slot holds, read or not; none if its file cannot be used. -/
def entries (files : Files) : Content → List Entry
  | .unread path => entriesAt files path
  | .failed => []
  | .ready partition => partition.entries

/-- What a slot holds once its file is read. -/
def afterReading (files : Files) : Content → Content
  | .unread path =>
      match Partition.load files path with
      | .ok partition => .ready partition
      | .error _ => .failed
  | content => content

/-- Reading does not change the entries. -/
@[simp] theorem entries_afterReading (files : Files) (content : Content) :
    (content.afterReading files).entries files = content.entries files := by
  cases content with
  | unread path =>
      rw [afterReading, entries, entriesAt]
      cases Partition.load files path <;> rfl
  | failed => rfl
  | ready partition => rfl

end Content

namespace Slot

/-- Reading changes what a slot holds and nothing else. -/
theorem read_fst (files : Files) (slot : Slot) :
    (slot.read files).1 = { slot with content := slot.content.afterReading files } := by
  rw [read]
  cases hcontent : slot.content with
  | unread path =>
      simp only [Content.afterReading]
      cases Partition.load files path <;> rfl
  | failed => simp only [Content.afterReading, ← hcontent]
  | ready partition => simp only [Content.afterReading, ← hcontent]

/-- A slot that is read covers what it covered before. -/
theorem covers_read (files : Files) (slot : Slot) (first : Char) :
    (slot.read files).1.covers first = slot.covers first := by
  rw [read_fst]
  rfl

/-- A slot that is read has a partition with its entries, or it has none. -/
theorem entries_partition?_read (files : Files) (slot : Slot) :
    ((slot.read files).1.partition?).elim [] Partition.entries = slot.content.entries files := by
  rw [read_fst, partition?]
  cases slot.content with
  | unread path =>
      rw [Content.afterReading, Content.entries, entriesAt]
      cases Partition.load files path <;> rfl
  | failed => rfl
  | ready partition => rfl

end Slot

/-- Reading slots replaces those that are wanted by what they are once they are read. -/
theorem readSlots_fst (files : Files) (p : Slot → Bool) (slots : List Slot) :
    (readSlots files p slots).1
      = slots.map fun slot => if p slot then (slot.read files).1 else slot := by
  induction slots with
  | nil => rfl
  | cons slot rest ih =>
      rw [readSlots, List.map_cons, ← ih]
      by_cases h : p slot = true
      · rw [if_pos h, if_pos h]
      · rw [if_neg h, if_neg h]

/-- The partitions of the slots that cover a character have, once they are read, the entries that
the slots held before. -/
theorem flatMap_entries_readSlots (files : Files) (first : Char) (slots : List Slot) :
    (((readSlots files (·.covers first) slots).1.filter (·.covers first)).filterMap
        Slot.partition?).flatMap Partition.entries
      = (slots.filter (·.covers first)).flatMap (·.content.entries files) := by
  rw [readSlots_fst]
  induction slots with
  | nil => rfl
  | cons slot rest ih =>
      rw [List.map_cons, List.filter_cons, List.filter_cons]
      by_cases h : slot.covers first = true
      · rw [if_pos h, if_pos h, slot.covers_read, if_pos h, List.flatMap_cons, ← ih,
          ← slot.entries_partition?_read]
        cases hpartition : (slot.read files).1.partition? with
        | none => rw [List.filterMap_cons_none hpartition, Option.elim_none, List.nil_append]
        | some partition =>
            rw [List.filterMap_cons_some hpartition, Option.elim_some, List.flatMap_cons]
      · rw [if_neg h, if_neg h, if_neg h, ih]

/-! ## What a query is about -/

/-- The entries that a key form names are among those whose stem it begins. -/
theorem filter_matchesExactly (key : String) (entries : List Entry) :
    entries.filter (Partition.matchesExactly key)
      = (entries.filter (key.toList <+: ·.stem.toList)).filter (·.stem = key) := by
  rw [List.filter_filter]
  refine List.filter_congr fun entry _ => ?_
  rw [Partition.matchesExactly, Bool.eq_iff_iff, beq_iff_eq, Bool.and_eq_true, decide_eq_true_iff,
    decide_eq_true_iff]
  constructor
  · intro h
    exact ⟨h, h ▸ List.prefix_rfl⟩
  · exact And.left

/-- The entries that go on behind a key form are the others whose stem it begins. -/
theorem filter_matchesBeginning (key : String) (entries : List Entry) :
    entries.filter (Partition.matchesBeginning key)
      = (entries.filter (key.toList <+: ·.stem.toList)).filter (·.stem ≠ key) := by
  rw [List.filter_filter]
  refine List.filter_congr fun entry _ => ?_
  rw [Partition.matchesBeginning, Bool.eq_iff_iff, Bool.and_eq_true, Bool.and_eq_true, bne_iff_ne,
    List.isPrefixOf_iff_prefix, decide_eq_true_iff, decide_eq_true_iff]
  exact and_comm

namespace Index

/-- Partitions give what their entries give, taken together. -/
theorem hitsIn_eq (partitions : List Partition) (key : String) :
    hitsIn partitions key
      = (((partitions.flatMap Partition.entries).filter
            (Partition.matchesExactly key)).flatMap hitsOf
          ++ ((partitions.flatMap Partition.entries).filter
            (Partition.matchesBeginning key)).flatMap hitsOf).eraseDups := by
  rw [hitsIn, List.flatMap_append, List.filter_flatMap, List.filter_flatMap]
  rfl

/-- The entries that a query is about: of those in the slots that cover it, slot by slot, the ones
whose stem begins with its key form. A query without a key form is about none. -/
def matching (files : Files) (index : Index) (query : String) : List Entry :=
  match (normalizeQuery query).toList with
  | [] => []
  | first :: rest =>
      ((index.slots.filter (·.covers first)).flatMap (·.content.entries files)).filter
        (first :: rest <+: ·.stem.toList)

/-- The hits of the entries that a query names, one for each record. -/
def exactHits (files : Files) (index : Index) (query : String) : List Hit :=
  ((matching files index query).filter (·.stem = normalizeQuery query)).flatMap hitsOf

/-- The hits of the entries that go on behind a query, one for each record. -/
def extendingHits (files : Files) (index : Index) (query : String) : List Hit :=
  ((matching files index query).filter (·.stem ≠ normalizeQuery query)).flatMap hitsOf

/-- **A search gives the hits of the entries that the query names, then those of the entries that go
on behind it, none twice, up to the limit.** -/
theorem hits_search (files : Files) (index : Index) (query : String) :
    (search files index query).hits = limit index.options.maxResults
      (exactHits files index query ++ extendingHits files index query).eraseDups := by
  rw [search, exactHits, extendingHits, matching]
  cases hkey : (normalizeQuery query).toList with
  | nil => simp [limit]
  | cons first rest =>
      simp only [hitsIn_eq, flatMap_entries_readSlots, filter_matchesExactly,
        filter_matchesBeginning, hkey]

/-- A query is about the entries in the slots that cover its key form, if their stems begin with
it. -/
theorem mem_matching {files : Files} {index : Index} {query : String} {entry : Entry} :
    entry ∈ matching files index query ↔ ∃ first rest,
      (normalizeQuery query).toList = first :: rest ∧ first :: rest <+: entry.stem.toList ∧
        ∃ slot ∈ index.slots, slot.covers first = true ∧ entry ∈ slot.content.entries files := by
  rw [matching]
  cases (normalizeQuery query).toList with
  | nil => simp
  | cons first rest =>
      simp only [List.mem_filter, List.mem_flatMap, decide_eq_true_eq]
      constructor
      · rintro ⟨⟨slot, ⟨hslot, hcovers⟩, hentry⟩, hbegins⟩
        exact ⟨first, rest, rfl, hbegins, slot, hslot, hcovers, hentry⟩
      · rintro ⟨first', rest', hkey, hbegins, slot, hslot, hcovers, hentry⟩
        cases hkey
        exact ⟨⟨slot, ⟨hslot, hcovers⟩, hentry⟩, hbegins⟩

/-- What a query is about is named by it or goes on behind it. -/
theorem mem_exactHits_or_extendingHits {files : Files} {index : Index} {query : String}
    {hit : Hit} :
    hit ∈ exactHits files index query ∨ hit ∈ extendingHits files index query ↔
      ∃ entry ∈ matching files index query, hit ∈ hitsOf entry := by
  simp only [exactHits, extendingHits, List.mem_flatMap, List.mem_filter, decide_eq_true_eq]
  constructor
  · rintro (⟨entry, ⟨hentry, -⟩, hhit⟩ | ⟨entry, ⟨hentry, -⟩, hhit⟩)
    · exact ⟨entry, hentry, hhit⟩
    · exact ⟨entry, hentry, hhit⟩
  · rintro ⟨entry, hentry, hhit⟩
    by_cases hstem : entry.stem = normalizeQuery query
    · exact Or.inl ⟨entry, ⟨hentry, hstem⟩, hhit⟩
    · exact Or.inr ⟨entry, ⟨hentry, hstem⟩, hhit⟩

/-- **Without a limit a search finds exactly the hits of the entries that the query is about.** -/
theorem mem_hits_search {files : Files} {index : Index} {query : String} {hit : Hit}
    (hmax : index.options.maxResults = 0) :
    hit ∈ (search files index query).hits ↔
      ∃ entry ∈ matching files index query, hit ∈ hitsOf entry := by
  rw [hits_search, hmax, limit_zero, List.mem_eraseDups, List.mem_append,
    mem_exactHits_or_extendingHits]

end Index

/-! ## Partitions at hand -/

/-- The slot of a partition at hand. -/
def Slot.atHand (partition : Partition) : Slot :=
  ⟨partition.name, ((partitionParts? partition.name).map Prod.fst).getD "", none, .ready partition⟩

/-- A slot of a partition at hand covers every character. -/
@[simp] theorem Slot.covers_atHand (partition : Partition) (first : Char) :
    (Slot.atHand partition).covers first = true := rfl

/-- A slot of a partition at hand holds its entries, whatever the files are. -/
@[simp] theorem Slot.entries_atHand (files : Files) (partition : Partition) :
    (Slot.atHand partition).content.entries files = partition.entries := rfl

/-- **Without a limit a query that is not empty finds, in partitions at hand, the hits of the
entries whose stem it begins.** -/
theorem Index.mem_hits_search_ofPartitions {files : Files} {partitions : List Partition}
    {options : SearchOptions} {query : String} {hit : Hit} (hmax : options.maxResults = 0)
    (hquery : normalizeQuery query ≠ "") :
    hit ∈ (search files (ofPartitions partitions options) query).hits ↔
      ∃ partition ∈ partitions, ∃ entry ∈ partition.entries,
        (normalizeQuery query).toList <+: entry.stem.toList ∧ hit ∈ hitsOf entry := by
  have hslots : (ofPartitions partitions options).slots = partitions.map Slot.atHand := rfl
  have hne : (normalizeQuery query).toList ≠ [] :=
    fun hnil => hquery (String.toList_eq_nil_iff.1 hnil)
  obtain ⟨first, rest, hkey⟩ := List.exists_cons_of_ne_nil hne
  rw [mem_hits_search hmax]
  simp only [mem_matching, hslots, List.mem_map]
  constructor
  · rintro ⟨entry, ⟨first', rest', hkey', hbegins, slot, hslot, -, hentry⟩, hhit⟩
    obtain ⟨partition, hpartition, rfl⟩ := hslot
    rw [Slot.entries_atHand] at hentry
    rw [← hkey'] at hbegins
    exact ⟨partition, hpartition, entry, hentry, hbegins, hhit⟩
  · rintro ⟨partition, hpartition, entry, hentry, hbegins, hhit⟩
    rw [hkey] at hbegins
    exact ⟨entry, ⟨first, rest, hkey, hbegins, Slot.atHand partition, ⟨partition, hpartition, rfl⟩,
      Slot.covers_atHand partition first, hentry⟩, hhit⟩

end DocSite.Search
