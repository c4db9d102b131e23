import DocSite.Proofs.Search.History

/-! # Wanted sections

An index in a directory is opened with the slots of the sections that its options name. A query
looks at no section. It reads slots and neither adds nor drops one (`labels_search`), so whatever was
asked before, and however the files have changed since, an index lists and searches what it was made
with (`keepsSections_run`). Partitions at hand are not chosen from: an index of them lists and
searches all that are given, wanted or not. The main statement is `keepsSections_opening`. -/

namespace DocSite.Search.Index

/-! ## Where hits come from -/

/-- What a limit lets through was there before. -/
theorem mem_of_mem_limit {n : Nat} {hits : List Hit} {hit : Hit} (h : hit ∈ limit n hits) :
    hit ∈ hits := by
  rw [limit] at h
  split at h
  · exact h
  · exact List.mem_of_mem_take h

/-- **Every hit is that of an entry in a slot of the index.** -/
theorem exists_slot_of_mem_hits {files : Files} {index : Index} {query : String} {hit : Hit}
    (h : hit ∈ (search files index query).hits) :
    ∃ slot ∈ index.slots, ∃ entry ∈ slot.content.entries files, hit ∈ hitsOf entry := by
  rw [hits_search] at h
  have hfound := List.mem_eraseDups.1 (mem_of_mem_limit h)
  obtain ⟨entry, hentry, hhit⟩ := mem_exactHits_or_extendingHits.1 (List.mem_append.1 hfound)
  obtain ⟨first, rest, -, -, slot, hslot, -, hmem⟩ := mem_matching.1 hentry
  exact ⟨slot, hslot, entry, hmem, hhit⟩

/-! ## What reading keeps -/

/-- The names of the files of slots, each with its section. -/
def labels (slots : List Slot) : List (String × String) :=
  slots.map fun slot => (slot.file, slot.sectionName)

/-- The names of the files are in the labels. -/
theorem map_fst_labels (slots : List Slot) : (labels slots).map Prod.fst = slots.map Slot.file := by
  rw [labels, List.map_map]
  rfl

/-- So are the sections. -/
theorem forall_mem_labels {slots : List Slot} {p : String → Prop} :
    (∀ label ∈ labels slots, p label.2) ↔ ∀ slot ∈ slots, p slot.sectionName := by
  rw [labels, List.forall_mem_map]

/-- Reading slots keeps their labels. -/
theorem labels_readSlots (files : Files) (p : Slot → Bool) (slots : List Slot) :
    labels (readSlots files p slots).1 = labels slots := by
  rw [readSlots_fst, labels, List.map_map]
  refine List.map_congr_left fun slot _ => ?_
  rw [Function.comp_apply]
  by_cases h : p slot = true
  · rw [if_pos h, Slot.read_fst]
  · rw [if_neg h]

/-- A query keeps the labels of an index. -/
theorem labels_search (files : Files) (index : Index) (query : String) :
    labels (search files index query).index.slots = labels index.slots := by
  rw [search]
  cases (normalizeQuery query).toList with
  | nil => rfl
  | cons first rest => exact labels_readSlots files _ index.slots

/-- The index after queries, each with the files as they were when it was asked. -/
def run (index : Index) : List (Files × String) → Index
  | [] => index
  | (files, query) :: rest => run (search files index query).index rest

/-- Queries keep the labels and the options of an index. -/
theorem labels_run (index : Index) (queries : List (Files × String)) :
    labels (index.run queries).slots = labels index.slots ∧
      (index.run queries).options = index.options := by
  induction queries generalizing index with
  | nil => exact ⟨rfl, rfl⟩
  | cons asked rest ih =>
      obtain ⟨files, query⟩ := asked
      obtain ⟨hlabels, hoptions⟩ := ih (search files index query).index
      rw [run, hlabels, hoptions, labels_search, options_search]
      exact ⟨rfl, rfl⟩

/-- Queries keep the files that an index lists. -/
theorem partitionFiles_run (index : Index) (queries : List (Files × String)) :
    partitionFiles (index.run queries) = partitionFiles index := by
  rw [partitionFiles, partitionFiles, ← map_fst_labels, ← map_fst_labels,
    (labels_run index queries).1]

/-! ## Indexes of wanted sections -/

/-- The slots of the sections that the options name. -/
def wantedSlots (options : SearchOptions) (slots : List Slot) : List Slot :=
  slots.filter fun slot => slot.sectionName ∈ options.sections

/-- Whether an index lists and searches wanted sections only. -/
structure KeepsSections (index : Index) : Prop where
  /-- What it lists are the files of the slots of wanted sections. -/
  listed : partitionFiles index = (wantedSlots index.options index.slots).map Slot.file
  /-- A hit is that of an entry in a slot of a wanted section. -/
  found : ∀ files query, ∀ hit ∈ (search files index query).hits,
    ∃ slot ∈ wantedSlots index.options index.slots,
      ∃ entry ∈ slot.content.entries files, hit ∈ hitsOf entry

/-- **An index keeps to the wanted sections exactly if each of its slots is of one.** -/
theorem keepsSections_iff {index : Index} :
    KeepsSections index ↔ ∀ slot ∈ index.slots, slot.sectionName ∈ index.options.sections := by
  constructor
  · intro h
    have hlength := congrArg List.length h.listed
    rw [partitionFiles, List.length_map, List.length_map, wantedSlots, eq_comm,
      List.length_filter_eq_length_iff] at hlength
    exact fun slot hslot => of_decide_eq_true (hlength slot hslot)
  · intro h
    have hall : wantedSlots index.options index.slots = index.slots :=
      List.filter_eq_self.2 fun slot hslot => decide_eq_true (h slot hslot)
    refine ⟨by rw [hall, partitionFiles], fun files query hit hhit => ?_⟩
    rw [hall]
    exact exists_slot_of_mem_hits hhit

/-- **Queries do not change whether an index keeps to the wanted sections.** -/
theorem keepsSections_run {index : Index} (queries : List (Files × String)) :
    KeepsSections (index.run queries) ↔ KeepsSections index := by
  obtain ⟨hlabels, hoptions⟩ := labels_run index queries
  rw [keepsSections_iff, keepsSections_iff, ← forall_mem_labels, hlabels, hoptions,
    forall_mem_labels]

/-- An opened index has the labels of the slots of its directory that are of a wanted section. -/
theorem labels_openDir {options : SearchOptions} (hsections : options.sections ≠ [])
    (files : Files) (dir : Path) :
    labels (openDir files dir options).1.slots
      = labels (wantedSlots options (slotsIn files dir).1) := by
  have hwanted : ofSections options.sections (slotsIn files dir).1
      = wantedSlots options (slotsIn files dir).1 := by
    simp [ofSections, wantedSlots, hsections]
  rw [openDir, ← hwanted]
  by_cases hlazy : options.lazy = true
  · simp only [if_pos hlazy]
  · simp only [if_neg hlazy, labels_readSlots]

/-! ## Partitions at hand -/

/-- Reading leaves partitions at hand as they are. -/
theorem readSlots_atHand (files : Files) (p : Slot → Bool) (partitions : List Partition) :
    (readSlots files p (partitions.map Slot.atHand)).1 = partitions.map Slot.atHand := by
  rw [readSlots_fst, List.map_map]
  refine List.map_congr_left fun partition _ => ?_
  rw [Function.comp_apply]
  exact ite_self _

/-- A query leaves an index of partitions at hand as it is. -/
theorem index_search_ofPartitions (files : Files) (partitions : List Partition)
    (options : SearchOptions) (query : String) :
    (search files (ofPartitions partitions options) query).index
      = ofPartitions partitions options := by
  rw [search]
  cases (normalizeQuery query).toList with
  | nil => rfl
  | cons first rest =>
      exact congrArg (Index.mk · options) (readSlots_atHand files _ partitions)

/-- So do queries one after another. -/
theorem run_ofPartitions (partitions : List Partition) (options : SearchOptions)
    (queries : List (Files × String)) :
    (ofPartitions partitions options).run queries = ofPartitions partitions options := by
  induction queries with
  | nil => rfl
  | cons asked rest ih =>
      obtain ⟨files, query⟩ := asked
      rw [run, index_search_ofPartitions, ih]

/-- **An index in a directory keeps to the wanted sections, whatever is asked. One of partitions at
hand does so only if all that are given are of wanted sections**: it lists them all and finds what
it would find if no section were named. -/
theorem keepsSections_opening (options : SearchOptions) (hsections : options.sections ≠ [])
    (files : Files) (dir : Path) (partitions : List Partition)
    (queries : List (Files × String)) :
    let opened := (openDir files dir options).1.run queries
    let atHand := (ofPartitions partitions options).run queries
    (KeepsSections opened ∧
        partitionFiles opened = (wantedSlots options (slotsIn files dir).1).map Slot.file) ∧
      (KeepsSections atHand ↔
        ∀ partition ∈ partitions, (Slot.atHand partition).sectionName ∈ options.sections) ∧
      partitionFiles atHand = partitions.map Partition.name ∧
      ∀ files query, (search files atHand query).hits
        = (search files (ofPartitions partitions { options with sections := [] }) query).hits := by
  have hlabels := labels_openDir hsections files dir
  refine ⟨⟨?_, ?_⟩, ?_, ?_, fun files query => ?_⟩
  · rw [keepsSections_run, keepsSections_iff, ← forall_mem_labels, hlabels, forall_mem_labels,
      options_openDir]
    exact fun slot hslot => of_decide_eq_true (List.mem_filter.1 hslot).2
  · rw [partitionFiles_run, partitionFiles, ← map_fst_labels, hlabels, map_fst_labels]
  · rw [keepsSections_run, keepsSections_iff]
    exact List.forall_mem_map
  · rw [partitionFiles_run, partitionFiles]
    exact List.map_map
  · have hcontents : contents files (ofPartitions partitions options)
        = contents files (ofPartitions partitions { options with sections := [] }) := rfl
    rw [run_ofPartitions]
    exact hits_eq_of_contents hcontents rfl query

/-- A partition of the section `all`. -/
def strayPartition : Partition where
  name := "all_0.js"
  entries := [⟨"main_0", "main", [⟨"main.html", true, none⟩]⟩]
  nodup := by decide

/-- A directory of this partition and one of the section `classes`, with their catalog. -/
def sectionedSite : Files where
  root := .directory [("search", .directory [
    (Catalog.fileName, .file (some ("var indexSectionsWithContent=\x7b0:\"m\",1:\"m\"\x7d;"
      ++ "var indexSectionNames=\x7b0:\"all\",1:\"classes\"\x7d;"))),
    ("all_0.js", .file (some strayPartition.render)),
    ("classes_0.js", .file (some "var searchData=[['map_0',['Map',['map.html',0,'std']]]];"))])]
  current := []

/-- The directory keeps to the wanted section, also when its files are replaced between queries. The
partition at hand is not of the section. -/
theorem keepsSections_opening_sectionedSite :
    (["classes"] : List String) ≠ [] ∧
      (let opened := (openDir sectionedSite "search" { sections := ["classes"] }).1.run
        [(sectionedSite, "M"), (damagedSite, "m")]
      KeepsSections opened ∧ partitionFiles opened = ["classes_0.js"]) ∧
      ¬KeepsSections ((ofPartitions [strayPartition] { sections := ["classes"] }).run
        [(sectionedSite, "M"), (damagedSite, "m")]) := by
  have hsections : (["classes"] : List String) ≠ [] := by decide
  obtain ⟨⟨hkeeps, hlisted⟩, hiff, -⟩ := keepsSections_opening { sections := ["classes"] }
    hsections sectionedSite "search" [strayPartition] [(sectionedSite, "M"), (damagedSite, "m")]
  refine ⟨hsections, ⟨hkeeps, hlisted.trans (by decide +kernel)⟩, fun h => ?_⟩
  exact absurd (hiff.1 h strayPartition List.mem_cons_self) (by decide +kernel)

/-- An index of a partition at hand lists and finds what is of a section that is not wanted. -/
theorem not_keepsSections_atHand :
    let index := ofPartitions [strayPartition] { sections := ["classes"] }
    partitionFiles index = ["all_0.js"] ∧
      (search sectionedSite index "main").hits = [⟨"main", "main.html", ""⟩] ∧
      wantedSlots index.options index.slots = [] ∧ ¬KeepsSections index := by
  intro index
  have hlisted : partitionFiles index = ["all_0.js"] := rfl
  have hwanted : wantedSlots index.options index.slots = [] := by decide +kernel
  refine ⟨hlisted, by decide +kernel, hwanted, fun h => ?_⟩
  have hempty := h.listed
  rw [hlisted, hwanted] at hempty
  exact absurd hempty (by decide)

end DocSite.Search.Index
