import DocSite.Proofs.Search.Hits

/-! # Opening an index

The slots of an index in a directory are those that its catalog lists (`mem_slotsOfCatalog`) or else
those of the files that are found (`mem_slotsOfFiles`). Each of them has its file still to read.
Found files are put into an order of their own, so it does not matter in which order the directory
lists them (`slotsOfFiles_perm`). What a query can see of an index are the initials and the entries
of its slots (`contents`), and these are the same whether or not the files were read at once
(`contents_openDir`). -/

namespace DocSite.Search.Index

open DocSite.Text

/-! ## Where slots come from -/

/-- The catalog of the index in a directory, if there is one that can be used. -/
def catalogIn (files : Files) (dir : Path) : Option Catalog :=
  if files.isFile (dir.join Catalog.fileName) then
    match loadCatalog files (dir.join Catalog.fileName) with
    | .ok catalog => some catalog
    | .error _ => none
  else none

/-- The names that a directory lists; none if it cannot be read. -/
def listing (files : Files) (dir : Path) : List String :=
  match files.list dir with
  | .ok names => names
  | .error _ => []

/-- The partitions' files among names, each with its section and its ordinal. -/
def found (names : List String) : List (String × Nat × String) :=
  names.filterMap fun file => (partitionParts? file).map fun parts => (parts.1, parts.2, file)

/-- Listed names give a slot for each partition's file among them, in the order of search. -/
theorem slotsOfFiles_eq (dir : Path) (names : List String) :
    slotsOfFiles dir names = ((found names).mergeSort notAfter).map fun entry =>
      ⟨entry.2.2, entry.1, none, .unread (dir.join entry.2.2)⟩ := rfl

/-- Slots that are looked for are those of the listed names. -/
theorem discover_fst (files : Files) (dir : Path) :
    (discover files dir).1 = slotsOfFiles dir (listing files dir) := by
  rw [discover, listing]
  cases files.list dir with
  | ok names => rfl
  | error e => simp [slotsOfFiles]

/-- **The slots in a directory are those of its catalog, or else those of the names it lists.** -/
theorem slotsIn_fst (files : Files) (dir : Path) :
    (slotsIn files dir).1 =
      match catalogIn files dir with
      | some catalog => slotsOfCatalog dir catalog
      | none => slotsOfFiles dir (listing files dir) := by
  rw [slotsIn, catalogIn]
  by_cases hfile : files.isFile (dir.join Catalog.fileName) = true
  · simp only [if_pos hfile]
    cases loadCatalog files (dir.join Catalog.fileName) with
    | ok catalog => rfl
    | error e => exact discover_fst files dir
  · simp only [if_neg hfile]
    exact discover_fst files dir

/-- A catalog gives a slot for each file that one of its sections lists. -/
theorem mem_slotsOfCatalog {dir : Path} {catalog : Catalog} {slot : Slot} :
    slot ∈ slotsOfCatalog dir catalog ↔ ∃ s ∈ catalog.sections, ∃ initial file,
      (initial, file) ∈ s.partitions ∧
        slot = ⟨file, s.name, some initial, .unread (dir.join file)⟩ := by
  simp only [slotsOfCatalog, List.mem_flatMap, List.mem_map, Prod.exists]
  constructor
  · rintro ⟨s, hs, initial, file, hfile, rfl⟩
    exact ⟨s, hs, initial, file, hfile, rfl⟩
  · rintro ⟨s, hs, initial, file, hfile, rfl⟩
    exact ⟨s, hs, initial, file, hfile, rfl⟩

/-- Listed names give a slot for each name of a partition's file. -/
theorem mem_slotsOfFiles {dir : Path} {names : List String} {slot : Slot} :
    slot ∈ slotsOfFiles dir names ↔ ∃ file ∈ names, ∃ name ordinal,
      partitionParts? file = some (name, ordinal) ∧
        slot = ⟨file, name, none, .unread (dir.join file)⟩ := by
  simp only [slotsOfFiles_eq, found, List.mem_map, List.mem_mergeSort, List.mem_filterMap,
    Option.map_eq_some_iff, Prod.exists, Prod.mk.injEq]
  constructor
  · rintro ⟨name, ordinal, file, ⟨_, hfile, _, _, hparts, rfl, rfl, rfl⟩, rfl⟩
    exact ⟨_, hfile, _, _, hparts, rfl⟩
  · rintro ⟨file, hfile, name, ordinal, hparts, rfl⟩
    exact ⟨name, ordinal, file, ⟨file, hfile, name, ordinal, hparts, rfl, rfl, rfl⟩, rfl⟩

/-- The slots in a directory have their files still to read. -/
theorem content_of_mem_slotsIn {files : Files} {dir : Path} {slot : Slot}
    (h : slot ∈ (slotsIn files dir).1) : slot.content = .unread (dir.join slot.file) := by
  rw [slotsIn_fst] at h
  cases hcatalog : catalogIn files dir with
  | some catalog =>
      rw [hcatalog] at h
      obtain ⟨s, -, initial, file, -, rfl⟩ := mem_slotsOfCatalog.1 h
      rfl
  | none =>
      rw [hcatalog] at h
      obtain ⟨file, -, name, ordinal, -, rfl⟩ := mem_slotsOfFiles.1 h
      rfl

/-- A wanted slot is one of a wanted section; all of them are wanted if no section is. -/
theorem mem_ofSections {sections : List String} {slots : List Slot} {slot : Slot} :
    slot ∈ ofSections sections slots ↔
      slot ∈ slots ∧ (sections = [] ∨ slot.sectionName ∈ sections) := by
  rw [ofSections]
  cases sections with
  | nil => simp
  | cons name more => simp

/-! ## The order of found files -/

/-- Files in the order in which they are searched: by section, by ordinal, by name. -/
abbrev searchOrder : Ord (String × Nat × String) := @lexOrd _ _ _ lexOrd

/-- A file is searched no later than another if it is no greater. -/
theorem notAfter_eq (a b : String × Nat × String) :
    notAfter a b = (searchOrder.compare a b).isLE := by
  have h : searchOrder.compare a b
      = (compare a.1 b.1).then ((compare a.2.1 b.2.1).then (compare a.2.2 b.2.2)) := rfl
  rw [notAfter, h]
  cases compare a.1 b.1 with
  | lt => rfl
  | gt => rfl
  | eq =>
      cases compare a.2.1 b.2.1 with
      | lt => rfl
      | gt => rfl
      | eq => cases compare a.2.2 b.2.2 <;> rfl

theorem compare_swap (a b : String × Nat × String) :
    searchOrder.compare b a = (searchOrder.compare a b).swap :=
  @Std.OrientedOrd.eq_swap _ searchOrder _ b a

theorem notAfter_trans (a b c : String × Nat × String) (hab : notAfter a b = true)
    (hbc : notAfter b c = true) : notAfter a c = true := by
  rw [notAfter_eq] at *
  exact @Std.TransOrd.isLE_trans _ searchOrder _ a b c hab hbc

theorem notAfter_total (a b : String × Nat × String) :
    (notAfter a b || notAfter b a) = true := by
  rw [notAfter_eq, notAfter_eq, compare_swap a b]
  cases searchOrder.compare a b <;> rfl

theorem notAfter_antisymm (a b : String × Nat × String) (hab : notAfter a b = true)
    (hba : notAfter b a = true) : a = b := by
  rw [notAfter_eq] at hab
  rw [notAfter_eq, compare_swap a b] at hba
  cases h : searchOrder.compare a b with
  | lt =>
      rw [h] at hba
      cases hba
  | eq => exact @Std.LawfulEqOrd.eq_of_compare _ searchOrder _ a b h
  | gt =>
      rw [h] at hab
      cases hab

/-- The order of search is the same in whatever order the files were found. -/
theorem mergeSort_notAfter_eq {found found' : List (String × Nat × String)}
    (h : found.Perm found') : found.mergeSort notAfter = found'.mergeSort notAfter := by
  have hsorted (l : List (String × Nat × String)) :
      (l.mergeSort notAfter).Pairwise fun a b => notAfter a b = true :=
    @List.pairwise_mergeSort _ notAfter notAfter_trans notAfter_total l
  have hperm : (found.mergeSort notAfter).Perm (found'.mergeSort notAfter) :=
    (List.mergeSort_perm found notAfter).trans (h.trans (List.mergeSort_perm found' notAfter).symm)
  exact List.Perm.eq_of_pairwise (fun a b _ _ => notAfter_antisymm a b) (hsorted found)
    (hsorted found') hperm

/-- **The order in which a directory lists its files does not matter.** -/
theorem slotsOfFiles_perm {dir : Path} {names names' : List String} (h : names.Perm names') :
    slotsOfFiles dir names = slotsOfFiles dir names' := by
  have hfound : (found names).Perm (found names') := h.filterMap _
  rw [slotsOfFiles_eq, slotsOfFiles_eq, mergeSort_notAfter_eq hfound]

/-! ## What a query can see -/

/-- What a query can see of an index: for each slot its initial and its entries. -/
def contents (files : Files) (index : Index) : List (Option Char × List Entry) :=
  index.slots.map fun slot => (slot.initial, slot.content.entries files)

/-- A slot covers a character if its initial, as far as it has one, is the same letter. -/
theorem covers_eq (slot : Slot) (first : Char) :
    slot.covers first = slot.initial.all fun initial => lowercase initial == lowercase first := by
  rw [Slot.covers]
  cases slot.initial with
  | none => rfl
  | some initial => rfl

/-- What slots that cover a character hold can be seen. -/
theorem flatMap_entries_eq (files : Files) (index : Index) (first : Char) :
    (index.slots.filter (·.covers first)).flatMap (·.content.entries files)
      = ((contents files index).filter fun seen =>
          seen.1.all fun initial => lowercase initial == lowercase first).flatMap Prod.snd := by
  simp only [contents, List.filter_map, List.flatMap_map, covers_eq]
  rfl

/-- **What a query is about depends on nothing but what it can see.** -/
theorem matching_eq_of_contents {files files' : Files} {index index' : Index}
    (h : contents files index = contents files' index') (query : String) :
    matching files index query = matching files' index' query := by
  rw [matching, matching]
  cases (normalizeQuery query).toList with
  | nil => rfl
  | cons first rest => simp only [flatMap_entries_eq, h]

/-- Indexes that look the same, with the same limit, give the same hits. -/
theorem hits_eq_of_contents {files files' : Files} {index index' : Index}
    (h : contents files index = contents files' index')
    (hmax : index.options.maxResults = index'.options.maxResults) (query : String) :
    (search files index query).hits = (search files' index' query).hits := by
  simp only [hits_search, exactHits, extendingHits, matching_eq_of_contents h, hmax]

/-- Reading slots changes nothing that a query can see. -/
theorem map_contents_readSlots (files : Files) (p : Slot → Bool) (slots : List Slot) :
    (readSlots files p slots).1.map (fun slot => (slot.initial, slot.content.entries files))
      = slots.map fun slot => (slot.initial, slot.content.entries files) := by
  rw [readSlots_fst, List.map_map]
  refine List.map_congr_left fun slot _ => ?_
  rw [Function.comp_apply]
  by_cases h : p slot = true
  · rw [if_pos h, Slot.read_fst, Content.entries_afterReading]
  · rw [if_neg h]

/-- A wanted slot in a directory holds what is in its file. -/
theorem entries_of_mem_ofSections {files : Files} {dir : Path} {sections : List String}
    {slot : Slot} (h : slot ∈ ofSections sections (slotsIn files dir).1) :
    slot.content.entries files = entriesAt files (dir.join slot.file) := by
  rw [content_of_mem_slotsIn (mem_ofSections.1 h).1]
  rfl

/-- **A slot of an opened index holds what is in its file**, whether or not this was read at
once. -/
theorem entries_of_mem_openDir {files : Files} {dir : Path} {options : SearchOptions} {slot : Slot}
    (h : slot ∈ (openDir files dir options).1.slots) :
    slot.content.entries files = entriesAt files (dir.join slot.file) := by
  rw [openDir] at h
  by_cases hlazy : options.lazy = true
  · simp only [if_pos hlazy] at h
    exact entries_of_mem_ofSections h
  · simp only [if_neg hlazy, readSlots_fst, if_true, List.mem_map] at h
    obtain ⟨unread, hunread, rfl⟩ := h
    rw [Slot.read_fst, Content.entries_afterReading]
    exact entries_of_mem_ofSections hunread

/-- **An opened index shows what is in the files of its slots**, whether or not they were read at
once. -/
theorem contents_openDir (files : Files) (dir : Path) (options : SearchOptions) :
    contents files (openDir files dir options).1
      = (ofSections options.sections (slotsIn files dir).1).map fun slot =>
          (slot.initial, entriesAt files (dir.join slot.file)) := by
  have hread : contents files (openDir files dir options).1
      = (ofSections options.sections (slotsIn files dir).1).map fun slot =>
          (slot.initial, slot.content.entries files) := by
    rw [contents, openDir]
    by_cases hlazy : options.lazy = true
    · simp only [if_pos hlazy]
    · simp only [if_neg hlazy, map_contents_readSlots]
  rw [hread]
  exact List.map_congr_left fun slot hslot => by rw [entries_of_mem_ofSections hslot]

/-- Opening does not change how the index is used. -/
theorem options_openDir (files : Files) (dir : Path) (options : SearchOptions) :
    (openDir files dir options).1.options = options := by
  rw [openDir]
  by_cases hlazy : options.lazy = true
  · simp only [if_pos hlazy]
  · simp only [if_neg hlazy]

end DocSite.Search.Index
