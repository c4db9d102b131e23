import DocSite.Proofs.Search.SectionFilter
import Mathlib.Data.List.Basic
import Mathlib.Data.List.Count

/-! # Slots are read on demand

An index that is opened lazily reads nothing. A query asks for a slot if it has a key form whose
first character the slot covers (`Slot.isAskedBy`), and the first query that asks for a slot reads
it. From then on the slot keeps what was found, be it nothing, whatever becomes of its file: what
queries make of a slot depends on nothing but the files as they were when it was first asked for
(`slots_run`).

So no slot is read twice (`nodup_reads`), a file that cannot be used is warned of once
(`notices_search_run`), and the number of partitions at hand never falls. The main statement is
`reads_on_demand`. -/

namespace DocSite.Search

/-! ## One slot -/

/-- The warnings that reading a file gives: one if there is no partition to be had in it. -/
def warningsAt (files : Files) (p : Path) : List Notice :=
  match Partition.load files p with
  | .ok _ => []
  | .error e => [.warning e.message]

namespace Slot

/-- Whether a slot has been read, or had a partition from the start. -/
def isRead (slot : Slot) : Bool :=
  match slot.content with
  | .unread _ => false
  | _ => true

/-- Whether a query asks for what is in a slot: it has a key form whose first character the slot
covers. -/
def isAskedBy (slot : Slot) (query : String) : Bool :=
  (normalizeQuery query).toList.head?.any slot.covers

/-- The files as they were when one of the queries first asked for a slot. -/
def firstAsked (slot : Slot) (asked : List (Files × String)) : Option Files :=
  (asked.find? fun a => slot.isAskedBy a.2).map Prod.fst

/-- What queries make of a slot: the first one that asks for it reads it. -/
def after (slot : Slot) (asked : List (Files × String)) : Slot :=
  match slot.firstAsked asked with
  | none => slot
  | some files => (slot.read files).1

variable {files : Files} {slot : Slot} {query : String} {asked more : List (Files × String)}

/-- A slot that has been read is not read again. -/
theorem read_of_isRead (h : slot.isRead = true) (files : Files) : slot.read files = (slot, []) := by
  obtain ⟨file, name, initial, content⟩ := slot
  cases content with
  | unread path => cases h
  | failed => rfl
  | ready partition => rfl

/-- Reading reads. -/
@[simp] theorem isRead_read (files : Files) (slot : Slot) : (slot.read files).1.isRead = true := by
  rw [read_fst, isRead]
  cases slot.content with
  | unread path =>
      rw [Content.afterReading]
      cases Partition.load files path <;> rfl
  | failed => rfl
  | ready partition => rfl

/-- It does not change which queries ask for a slot. -/
@[simp] theorem isAskedBy_read (files : Files) (slot : Slot) (query : String) :
    (slot.read files).1.isAskedBy query = slot.isAskedBy query := by
  rw [isAskedBy, isAskedBy, funext (slot.covers_read files)]

/-- Reading a slot looks at its file and at no other. -/
theorem read_congr {files' : Files}
    (h : ∀ path, slot.content = .unread path → files'.read path = files.read path) :
    slot.read files' = slot.read files := by
  rw [read, read]
  cases hcontent : slot.content with
  | unread path =>
      have hload : Partition.load files' path = Partition.load files path := by
        rw [Partition.load, Partition.load, h path hcontent]
      simp only [hload]
  | failed => rfl
  | ready partition => rfl

/-- The warnings of a slot that has not been read are those of its file. -/
theorem read_snd_of_unread {path : Path} (h : slot.content = .unread path) (files : Files) :
    (slot.read files).2 = warningsAt files path := by
  rw [read, h, warningsAt]
  simp only
  cases Partition.load files path <;> rfl

/-- Once it is read, such a slot has a partition exactly if there is one in its file. -/
theorem isSome_partition?_read {path : Path} (h : slot.content = .unread path) (files : Files) :
    (slot.read files).1.partition?.isSome = (Partition.load files path).isOk := by
  rw [read_fst, partition?, h, Content.afterReading]
  cases Partition.load files path <;> rfl

/-- A query that asks for a slot is the first one if no earlier one has asked. -/
theorem firstAsked_cons (slot : Slot) (files : Files) (query : String)
    (asked : List (Files × String)) :
    slot.firstAsked ((files, query) :: asked)
      = if slot.isAskedBy query then some files else slot.firstAsked asked := by
  rw [firstAsked, List.find?_cons]
  cases slot.isAskedBy query <;> rfl

/-- The first query of all that asks for a slot stays the first one. -/
theorem firstAsked_append (slot : Slot) (asked more : List (Files × String)) :
    slot.firstAsked (asked ++ more) = (slot.firstAsked asked).or (slot.firstAsked more) := by
  rw [firstAsked, firstAsked, firstAsked, List.find?_append]
  cases asked.find? fun a => slot.isAskedBy a.2 <;> rfl

/-- Some query has asked for a slot if there is a first one. -/
theorem isSome_firstAsked_iff :
    (slot.firstAsked asked).isSome = true ↔ ∃ a ∈ asked, slot.isAskedBy a.2 = true := by
  rw [firstAsked, Option.isSome_map, List.find?_isSome]

/-- Queries leave a slot as it is once it has been read. -/
theorem after_of_isRead (h : slot.isRead = true) (asked : List (Files × String)) :
    slot.after asked = slot := by
  rw [after]
  cases slot.firstAsked asked with
  | none => rfl
  | some files => exact congrArg Prod.fst (read_of_isRead h files)

/-- Queries do not change which queries ask for a slot. -/
@[simp] theorem isAskedBy_after (slot : Slot) (asked : List (Files × String)) (query : String) :
    (slot.after asked).isAskedBy query = slot.isAskedBy query := by
  rw [after]
  cases slot.firstAsked asked with
  | none => rfl
  | some files => exact slot.isAskedBy_read files query

/-- One query more. -/
theorem after_cons (slot : Slot) (files : Files) (query : String) (asked : List (Files × String)) :
    slot.after ((files, query) :: asked)
      = (if slot.isAskedBy query then (slot.read files).1 else slot).after asked := by
  by_cases h : slot.isAskedBy query = true
  · rw [if_pos h, after_of_isRead (isRead_read files slot), after, firstAsked_cons, if_pos h]
  · rw [if_neg h, after, firstAsked_cons, if_neg h, after]

/-- A slot that had not been read has been read exactly if a query has asked for it. -/
theorem isRead_after (h : slot.isRead = false) (asked : List (Files × String)) :
    (slot.after asked).isRead = (slot.firstAsked asked).isSome := by
  rw [after]
  cases slot.firstAsked asked with
  | none => exact h
  | some files => exact isRead_read files slot

/-- A slot gives no warnings once a query has asked for it. -/
theorem read_after_snd (h : slot.isRead = false) (asked : List (Files × String)) (files : Files) :
    ((slot.after asked).read files).2
      = if (slot.firstAsked asked).isNone then (slot.read files).2 else [] := by
  have hafter := isRead_after h asked
  rw [after] at hafter ⊢
  cases hfirst : slot.firstAsked asked with
  | none => rfl
  | some earlier =>
      rw [hfirst] at hafter
      exact congrArg Prod.snd (read_of_isRead hafter files)

end Slot

/-! ## What queries read -/

/-- Elements that are left out add nothing. -/
theorem flatMap_filter_eq {α β : Type} (p : α → Bool) (f : α → List β) (l : List α) :
    (l.filter p).flatMap f = l.flatMap fun a => if p a then f a else [] := by
  induction l with
  | nil => rfl
  | cons a rest ih =>
      rw [List.filter_cons, List.flatMap_cons, ← ih]
      by_cases h : p a = true
      · rw [if_pos h, if_pos h, List.flatMap_cons]
      · rw [if_neg h, if_neg h, List.nil_append]

/-- The warnings of slots that are read come one after another. -/
theorem readSlots_snd (files : Files) (p : Slot → Bool) (slots : List Slot) :
    (readSlots files p slots).2 = (slots.filter p).flatMap fun slot => (slot.read files).2 := by
  induction slots with
  | nil => rfl
  | cons slot rest ih =>
      rw [readSlots, List.filter_cons]
      by_cases h : p slot = true
      · rw [if_pos h, if_pos h, List.flatMap_cons, ← ih]
      · rw [if_neg h, if_neg h, ← ih]
        rfl

/-- Reading looks at the files of the slots that are to be read and have not been read. -/
theorem readSlots_congr {files files' : Files} {p : Slot → Bool} {slots : List Slot}
    (h : ∀ slot ∈ slots, p slot = true → ∀ path, slot.content = .unread path →
      files'.read path = files.read path) : readSlots files' p slots = readSlots files p slots := by
  induction slots with
  | nil => rfl
  | cons slot rest ih =>
      rw [List.forall_mem_cons] at h
      have hslot : (if p slot then slot.read files' else (slot, []))
          = if p slot then slot.read files else (slot, []) := by
        by_cases hp : p slot = true
        · rw [if_pos hp, if_pos hp, Slot.read_congr (h.1 hp)]
        · rw [if_neg hp, if_neg hp]
      rw [readSlots, readSlots, hslot, ih h.2]

namespace Index

/-- A query reads the slots that it asks for. -/
theorem slots_search (files : Files) (index : Index) (query : String) :
    (search files index query).index.slots = index.slots.map fun slot =>
      if slot.isAskedBy query then (slot.read files).1 else slot := by
  rw [search]
  cases hkey : (normalizeQuery query).toList with
  | nil => simp [Slot.isAskedBy, hkey]
  | cons first rest =>
      simp only [readSlots_fst, Slot.isAskedBy, hkey, List.head?_cons, Option.any_some]

/-- It gives their warnings. -/
theorem notices_search (files : Files) (index : Index) (query : String) :
    (search files index query).notices
      = (index.slots.filter (·.isAskedBy query)).flatMap fun slot => (slot.read files).2 := by
  rw [search]
  cases hkey : (normalizeQuery query).toList with
  | nil => simp [Slot.isAskedBy, hkey]
  | cons first rest =>
      simp only [readSlots_snd, Slot.isAskedBy, hkey, List.head?_cons, Option.any_some]

/-- **What queries make of an index**: each slot is read with the files as they were when it was
first asked for. -/
theorem slots_run (index : Index) (asked : List (Files × String)) :
    (index.run asked).slots = index.slots.map (·.after asked) := by
  induction asked generalizing index with
  | nil => exact (List.map_id' index.slots).symm
  | cons first rest ih =>
      obtain ⟨files, query⟩ := first
      rw [run, ih, slots_search, List.map_map]
      exact List.map_congr_left fun slot _ => (slot.after_cons files query rest).symm

/-- The numbers of the slots that a query reads: it asks for them, and they have not been read. -/
def readBy (index : Index) (query : String) : List Nat :=
  (List.range index.slots.length).filter fun k =>
    index.slots[k]?.any fun slot => slot.isAskedBy query && !slot.isRead

/-- The numbers of the slots that queries read, one query after another. -/
def reads : Index → List (Files × String) → List Nat
  | _, [] => []
  | index, (files, query) :: rest =>
      index.readBy query ++ reads (search files index query).index rest

variable {index : Index} {query : String} {k : Nat}

/-- What a query reads. -/
theorem mem_readBy_iff : k ∈ index.readBy query ↔
    ∃ slot, index.slots[k]? = some slot ∧ slot.isAskedBy query = true ∧ slot.isRead = false := by
  rw [readBy, List.mem_filter, List.mem_range, Option.any_eq_true]
  constructor
  · rintro ⟨-, slot, hslot, h⟩
    exact ⟨slot, hslot, by simpa using h⟩
  · rintro ⟨slot, hslot, h⟩
    exact ⟨(List.getElem?_eq_some_iff.1 hslot).1, slot, hslot, by simpa using h⟩

/-- **Queries read the slots that one of them asks for and that have not been read.** -/
theorem mem_reads_iff {asked : List (Files × String)} : k ∈ index.reads asked ↔
    ∃ slot, index.slots[k]? = some slot ∧ slot.isRead = false ∧
      ∃ a ∈ asked, slot.isAskedBy a.2 = true := by
  induction asked generalizing index with
  | nil => simp [reads]
  | cons first rest ih =>
      obtain ⟨files, query⟩ := first
      rw [reads, List.mem_append, mem_readBy_iff, ih, slots_search, List.getElem?_map]
      cases index.slots[k]? with
      | none => simp
      | some slot =>
          by_cases hasked : slot.isAskedBy query = true
          · simp [hasked]
          · simp [hasked]

/-- **No slot is read twice**: a query leaves none unread that it reads. -/
theorem nodup_reads (index : Index) (asked : List (Files × String)) :
    (index.reads asked).Nodup := by
  induction asked generalizing index with
  | nil => exact List.nodup_nil
  | cons first rest ih =>
      obtain ⟨files, query⟩ := first
      rw [reads, List.nodup_append]
      refine ⟨List.nodup_range.filter _, ih _, fun k hk l hl => ?_⟩
      rintro rfl
      -- What the first query reads has been read when the others are asked.
      obtain ⟨slot, hslot, hasked, -⟩ := mem_readBy_iff.1 hk
      obtain ⟨later, hlater, hunread, -⟩ := mem_reads_iff.1 hl
      rw [slots_search, List.getElem?_map, hslot, Option.map_some, if_pos hasked] at hlater
      cases hlater
      rw [Slot.isRead_read] at hunread
      cases hunread

/-- The first query has no key form, and the last one finds its slots read. -/
example :
    let slot (file : String) (initial : Char) : Slot := ⟨file, "all", some initial, .unread file⟩
    let index : Index := ⟨[slot "all_0.js" 'a', slot "all_1.js" 'b', slot "all_2.js" 'A'], {}⟩
    index.reads (["?", "A", "(b)", "ab"].map fun query => (⟨.directory [], []⟩, query))
      = [0, 2, 1] := by
  decide +kernel

/-- **A query looks at no file but those of the slots that it reads.** -/
theorem search_congr {files files' : Files}
    (h : ∀ k ∈ index.readBy query, ∀ slot path, index.slots[k]? = some slot →
      slot.content = .unread path → files'.read path = files.read path) :
    search files' index query = search files index query := by
  rw [search, search]
  cases hkey : (normalizeQuery query).toList with
  | nil => rfl
  | cons first rest =>
      have hread : readSlots files' (·.covers first) index.slots
          = readSlots files (·.covers first) index.slots := by
        refine readSlots_congr fun slot hslot hcovers path hcontent => ?_
        obtain ⟨k, hk⟩ := List.mem_iff_getElem?.1 hslot
        have hasked : slot.isAskedBy query = true := by
          rwa [Slot.isAskedBy, hkey, List.head?_cons, Option.any_some]
        have hunread : slot.isRead = false := by rw [Slot.isRead, hcontent]
        exact h k (mem_readBy_iff.2 ⟨slot, hk, hasked, hunread⟩) slot path hk hcontent
      simp only [hread]

/-- **A query warns of the slots that it is the first to ask for**, and of no other. -/
theorem notices_search_run (hunread : ∀ slot ∈ index.slots, slot.isRead = false)
    (asked : List (Files × String)) (files : Files) (query : String) :
    (search files (index.run asked) query).notices
      = (index.slots.filter fun slot =>
          (slot.firstAsked asked).isNone && slot.isAskedBy query).flatMap
        fun slot => (slot.read files).2 := by
  rw [notices_search, slots_run, flatMap_filter_eq, flatMap_filter_eq, List.flatMap_map]
  refine List.flatMap_congr fun slot hslot => ?_
  rw [Slot.isAskedBy_after, Slot.read_after_snd (hunread slot hslot)]
  cases slot.isAskedBy query with
  | true => rw [if_pos rfl, Bool.and_true]
  | false => rw [if_neg Bool.false_ne_true, Bool.and_false, if_neg Bool.false_ne_true]

/-- **The partitions at hand after queries** are those of the slots that were asked for, as far as
there was one in the file when it was first asked for. -/
theorem loadedCount_run {dir : Path}
    (hunread : ∀ slot ∈ index.slots, slot.content = .unread (dir.join slot.file))
    (asked : List (Files × String)) :
    loadedCount (index.run asked) = index.slots.countP fun slot =>
      (slot.firstAsked asked).any fun files =>
        (Partition.load files (dir.join slot.file)).isOk := by
  rw [loadedCount, slots_run, List.length_filterMap_eq_countP, List.countP_map]
  refine List.countP_congr fun slot hslot => ?_
  rw [Function.comp_apply, Slot.after]
  cases slot.firstAsked asked with
  | none => simp [Slot.partition?, hunread slot hslot]
  | some files =>
      simp only [Option.any_some]
      rw [Slot.isSome_partition?_read (hunread slot hslot)]

/-! ## Openings -/

/-- Whether the index in a directory reads its slots on demand, whatever is asked and whatever
becomes of the files in between. -/
structure ReadsOnDemand (index : Index) (dir : Path) : Prop where
  /-- Nothing has been read at the beginning. -/
  unread : ∀ slot ∈ index.slots, slot.content = .unread (dir.join slot.file)
  /-- A slot keeps what was found when it was first asked for. -/
  slots_eq : ∀ asked, (index.run asked).slots = index.slots.map (·.after asked)
  /-- A slot has been read exactly if a query has asked for it. -/
  isRead_iff : ∀ asked, ∀ slot ∈ (index.run asked).slots,
    slot.isRead = true ↔ ∃ a ∈ asked, slot.isAskedBy a.2 = true
  /-- These are the slots that the queries read one after another. -/
  mem_reads : ∀ asked k, k ∈ index.reads asked ↔
    ∃ slot, (index.run asked).slots[k]? = some slot ∧ slot.isRead = true
  /-- None is read twice. -/
  nodup : ∀ asked, (index.reads asked).Nodup
  /-- A query looks at no file but those of the slots that it reads. -/
  search_eq : ∀ asked query files files', (∀ k ∈ (index.run asked).readBy query, ∀ slot path,
      (index.run asked).slots[k]? = some slot → slot.content = .unread path →
        files'.read path = files.read path) →
    search files' (index.run asked) query = search files (index.run asked) query
  /-- A file that cannot be used is warned of by the first query that asks for its slot. -/
  notices_eq : ∀ asked files query, (search files (index.run asked) query).notices
    = (index.slots.filter fun slot =>
        (slot.firstAsked asked).isNone && slot.isAskedBy query).flatMap
      fun slot => warningsAt files (dir.join slot.file)
  /-- The partitions at hand are those of the slots that were read and have one. -/
  loadedCount_eq : ∀ asked, loadedCount (index.run asked) = index.slots.countP fun slot =>
    (slot.firstAsked asked).any fun files => (Partition.load files (dir.join slot.file)).isOk
  /-- They never become fewer. -/
  loadedCount_le : ∀ asked more,
    loadedCount (index.run asked) ≤ loadedCount (index.run (asked ++ more))

/-- Whether the slots of an index have been read for good. -/
structure IsRead (index : Index) : Prop where
  /-- Each slot has been read. -/
  isRead : ∀ slot ∈ index.slots, slot.isRead = true
  /-- Queries leave the slots as they are. -/
  slots_eq : ∀ asked, (index.run asked).slots = index.slots
  /-- They read nothing. -/
  reads_eq : ∀ asked, index.reads asked = []
  /-- So they warn of nothing. -/
  notices_eq : ∀ asked files query, (search files (index.run asked) query).notices = []

/-- **An index with nothing read reads on demand.** -/
theorem readsOnDemand_of_unread {dir : Path}
    (h : ∀ slot ∈ index.slots, slot.content = .unread (dir.join slot.file)) :
    index.ReadsOnDemand dir := by
  have hunread : ∀ slot ∈ index.slots, slot.isRead = false := by
    intro slot hslot
    rw [Slot.isRead, h slot hslot]
  have hread (asked : List (Files × String)) (slot : Slot) (hslot : slot ∈ index.slots) :
      (slot.after asked).isRead = true ↔ ∃ a ∈ asked, slot.isAskedBy a.2 = true := by
    rw [Slot.isRead_after (hunread slot hslot), Slot.isSome_firstAsked_iff]
  refine ⟨h, slots_run index, fun asked => ?_, fun asked k => ?_, nodup_reads index,
    fun asked query files files' => search_congr, fun asked files query => ?_,
    loadedCount_run h, fun asked more => ?_⟩
  · rw [slots_run, List.forall_mem_map]
    intro slot hslot
    simp only [Slot.isAskedBy_after]
    exact hread asked slot hslot
  · rw [mem_reads_iff, slots_run, List.getElem?_map]
    cases hk : index.slots[k]? with
    | none => simp
    | some slot =>
        have hslot := List.mem_of_getElem? hk
        simp [hread asked slot hslot, hunread slot hslot]
  · rw [notices_search_run hunread]
    refine List.flatMap_congr fun slot hslot => ?_
    exact Slot.read_snd_of_unread (h slot (List.mem_filter.1 hslot).1) files
  · rw [loadedCount_run h, loadedCount_run h]
    refine List.countP_mono_left fun slot _ hloaded => ?_
    -- More queries do not change which one was the first.
    obtain ⟨files, hfirst, hok⟩ := (Option.any_eq_true _ _).1 hloaded
    rw [Slot.firstAsked_append, hfirst]
    exact hok

/-- **An index with everything read reads nothing more.** -/
theorem isRead_of_forall (h : ∀ slot ∈ index.slots, slot.isRead = true) : index.IsRead := by
  have hslots (asked : List (Files × String)) : (index.run asked).slots = index.slots := by
    rw [slots_run]
    exact (List.map_congr_left fun slot hslot =>
      Slot.after_of_isRead (h slot hslot) asked).trans (List.map_id' index.slots)
  refine ⟨h, hslots, fun asked => ?_, fun asked files query => ?_⟩
  · refine List.eq_nil_iff_forall_not_mem.2 fun k hk => ?_
    obtain ⟨slot, hslot, hunread, -⟩ := mem_reads_iff.1 hk
    rw [h slot (List.mem_of_getElem? hslot)] at hunread
    cases hunread
  · rw [notices_search, hslots, List.flatMap_eq_nil_iff]
    intro slot hslot
    rw [Slot.read_of_isRead (h slot (List.mem_filter.1 hslot).1)]

/-- **An index that is opened lazily reads on demand. One that is not has read each of its slots
when it was opened**: it gave the warnings of them all, and nothing is read any more. -/
theorem reads_on_demand (files : Files) (dir : Path) (options : SearchOptions) :
    let lazily := openDir files dir { options with lazy := true }
    let atOnce := openDir files dir { options with lazy := false }
    lazily.1.ReadsOnDemand dir ∧ lazily.2 = (slotsIn files dir).2 ∧
      atOnce.1.IsRead ∧ atOnce.1.slots = lazily.1.slots.map (fun slot => (slot.read files).1) ∧
      atOnce.2 = lazily.2
        ++ lazily.1.slots.flatMap (fun slot => warningsAt files (dir.join slot.file)) ∧
      loadedCount atOnce.1 = lazily.1.slots.countP fun slot =>
        (Partition.load files (dir.join slot.file)).isOk := by
  intro lazily atOnce
  have hunread : ∀ slot ∈ lazily.1.slots, slot.content = .unread (dir.join slot.file) :=
    fun slot hslot => content_of_mem_slotsIn (mem_ofSections.1 hslot).1
  have hslots : atOnce.1.slots = lazily.1.slots.map fun slot => (slot.read files).1 :=
    readSlots_fst files _ lazily.1.slots
  refine ⟨readsOnDemand_of_unread hunread, rfl, isRead_of_forall ?_, hslots, ?_, ?_⟩
  · rw [hslots, List.forall_mem_map]
    exact fun slot _ => Slot.isRead_read files slot
  · have hnotices : atOnce.2
        = lazily.2 ++ (readSlots files (fun _ => true) lazily.1.slots).2 := rfl
    rw [hnotices, readSlots_snd, List.filter_true]
    exact congrArg _ (List.flatMap_congr fun slot hslot =>
      Slot.read_snd_of_unread (hunread slot hslot) files)
  · rw [loadedCount, hslots, List.length_filterMap_eq_countP, List.countP_map]
    refine List.countP_congr fun slot hslot => ?_
    rw [Function.comp_apply, Slot.isSome_partition?_read (hunread slot hslot)]

end Index

end DocSite.Search
