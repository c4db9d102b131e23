import DocSite.Proofs.Search.Opening
import DocSite.Proofs.Search.RoundTrip

/-! # What was asked before does not matter

A query reads slots, but it changes nothing that another query can see (`contents_search`), so each
of several queries gets the hits that it would get alone (`answers_eq_map`). For the same reason it
does not matter when the files are read, in which order a directory lists them, or whether a file
that cannot be loaded is an empty partition instead (`Relisted`, `Emptied`): openings that look the
same answer alike. The main statement is `answers_openDir`. -/

namespace DocSite.Search.Index

/-! ## Queries one after another -/

/-- The hits of queries that are asked one after another. -/
def answers (files : Files) : Index → List String → List (List Hit)
  | _, [] => []
  | index, query :: rest =>
      let answer := search files index query
      answer.hits :: answers files answer.index rest

/-- A query changes nothing that another one can see. -/
theorem contents_search (files : Files) (index : Index) (query : String) :
    contents files (search files index query).index = contents files index := by
  rw [search]
  cases (normalizeQuery query).toList with
  | nil => rfl
  | cons first rest => exact map_contents_readSlots files _ index.slots

/-- A query does not change how the index is used. -/
theorem options_search (files : Files) (index : Index) (query : String) :
    (search files index query).index.options = index.options := by
  rw [search]
  cases (normalizeQuery query).toList with
  | nil => rfl
  | cons first rest => rfl

/-- **Each query gets the hits that it would get alone**, whatever was asked before. -/
theorem answers_eq_map (files : Files) (index : Index) (queries : List String) :
    answers files index queries = queries.map fun query => (search files index query).hits := by
  induction queries generalizing index with
  | nil => rfl
  | cons query rest ih =>
      have hlater (later : String) : (search files (search files index query).index later).hits
          = (search files index later).hits :=
        hits_eq_of_contents (contents_search files index query)
          (congrArg SearchOptions.maxResults (options_search files index query)) later
      simp only [answers, List.map_cons, ih, hlater]

/-! ## Openings that look the same -/

/-- The slots in a directory depend on the catalog or, without one, on what is listed in any
order. -/
theorem slotsIn_congr {files files' : Files} {dir : Path}
    (hcatalog : catalogIn files' dir = catalogIn files dir)
    (hnames : catalogIn files dir = none → (listing files' dir).Perm (listing files dir)) :
    (slotsIn files' dir).1 = (slotsIn files dir).1 := by
  rw [slotsIn_fst, slotsIn_fst, hcatalog]
  cases h : catalogIn files dir with
  | some catalog => rfl
  | none => exact slotsOfFiles_perm (hnames h)

/-- **Openings look the same if they have the same slots and their files the same entries**, whether
or not these are read at once. -/
theorem contents_openDir_congr {files files' : Files} {dir : Path}
    (hslots : (slotsIn files' dir).1 = (slotsIn files dir).1)
    (hentries : ∀ slot ∈ (slotsIn files dir).1,
      entriesAt files' (dir.join slot.file) = entriesAt files (dir.join slot.file))
    {options options' : SearchOptions} (hsections : options'.sections = options.sections) :
    contents files' (openDir files' dir options').1
      = contents files (openDir files dir options).1 := by
  rw [contents_openDir, contents_openDir, hslots, hsections]
  refine List.map_congr_left fun slot hslot => ?_
  rw [hentries slot (mem_ofSections.1 hslot).1]

/-! ## Partitions that cannot be loaded -/

/-- The empty partition of a name. -/
def emptyPartition (name : String) : Partition := ⟨name, [], List.nodup_nil⟩

/-- What a slot holds, with an empty partition in the place of one that cannot be loaded. -/
def contentOrEmpty (files : Files) (name : String) : Content → Content
  | .unread path =>
      match Partition.load files path with
      | .ok _ => .unread path
      | .error _ => .ready (emptyPartition name)
  | .failed => .ready (emptyPartition name)
  | .ready partition => .ready partition

/-- The index with an empty partition in the place of each that cannot be loaded. -/
def emptyFailures (files : Files) (index : Index) : Index :=
  { index with
    slots := index.slots.map fun slot =>
      { slot with content := contentOrEmpty files slot.file slot.content } }

/-- An empty partition and one that cannot be loaded have the same entries: none. -/
theorem entries_contentOrEmpty (files : Files) (name : String) (content : Content) :
    (contentOrEmpty files name content).entries files = content.entries files := by
  cases content with
  | unread path =>
      rw [contentOrEmpty, Content.entries, entriesAt]
      cases hload : Partition.load files path with
      | ok partition => simp only [Content.entries, entriesAt, hload]
      | error e => rfl
  | failed => rfl
  | ready partition => rfl

/-- Empty partitions in the place of those that cannot be loaded make no difference to a query. -/
theorem contents_emptyFailures (files : Files) (index : Index) :
    contents files (emptyFailures files index) = contents files index := by
  rw [contents, contents, emptyFailures, List.map_map]
  refine List.map_congr_left fun slot _ => ?_
  rw [Function.comp_apply, entries_contentOrEmpty]

/-- Whether `files'` are `files` with an empty partition in the place of each file of the index in a
directory that cannot be loaded. -/
structure Emptied (files files' : Files) (dir : Path) : Prop where
  /-- The catalog is the same. -/
  catalog : catalogIn files' dir = catalogIn files dir
  /-- Without a catalog the directory lists the same names. -/
  names : catalogIn files dir = none → listing files' dir = listing files dir
  /-- What can be loaded is the same. -/
  loaded : ∀ slot ∈ (slotsIn files dir).1, ∀ partition,
    Partition.load files (dir.join slot.file) = .ok partition →
      Partition.load files' (dir.join slot.file) = .ok partition
  /-- What cannot be loaded is replaced by an empty partition. -/
  replaced : ∀ slot ∈ (slotsIn files dir).1, ∀ e,
    Partition.load files (dir.join slot.file) = .error e →
      ∃ partition, Partition.load files' (dir.join slot.file) = .ok partition ∧
        partition.entries = []

/-- Whether `files'` are `files` with another order of the names that a directory lists. -/
structure Relisted (files files' : Files) (dir : Path) : Prop where
  /-- The catalog is the same. -/
  catalog : catalogIn files' dir = catalogIn files dir
  /-- The same names are listed in some order. -/
  names : (listing files' dir).Perm (listing files dir)
  /-- The files of the index are the same. -/
  read : ∀ slot ∈ (slotsIn files dir).1,
    files'.read (dir.join slot.file) = files.read (dir.join slot.file)

variable {files files' : Files} {dir : Path} {options options' : SearchOptions}

/-- Files that cannot be loaded may be replaced by empty partitions. -/
theorem Emptied.contents_eq (h : Emptied files files' dir)
    (hsections : options'.sections = options.sections) :
    contents files' (openDir files' dir options').1
      = contents files (openDir files dir options).1 := by
  have hslots := slotsIn_congr h.catalog fun hnone => List.Perm.of_eq (h.names hnone)
  refine contents_openDir_congr hslots (fun slot hslot => ?_) hsections
  rw [entriesAt, entriesAt]
  cases hload : Partition.load files (dir.join slot.file) with
  | ok partition => rw [h.loaded slot hslot partition hload]
  | error e =>
      obtain ⟨partition, hload', hempty⟩ := h.replaced slot hslot e hload
      rw [hload']
      exact hempty

/-- A directory may list its names in another order. -/
theorem Relisted.contents_eq (h : Relisted files files' dir)
    (hsections : options'.sections = options.sections) :
    contents files' (openDir files' dir options').1
      = contents files (openDir files dir options).1 := by
  have hslots := slotsIn_congr h.catalog fun _ => h.names
  refine contents_openDir_congr hslots (fun slot hslot => ?_) hsections
  simp only [entriesAt, Partition.load, h.read slot hslot]

/-! ## Answers of an opened index -/

/-- Indexes that look the same, with the same limit, answer alike. -/
theorem answers_eq_of_contents {index index' : Index}
    (h : contents files' index' = contents files index)
    (hmax : index'.options.maxResults = index.options.maxResults) (queries : List String) :
    answers files' index' queries = answers files index queries := by
  rw [answers_eq_map, answers_eq_map]
  exact List.map_congr_left fun query _ => hits_eq_of_contents h hmax query

/-- **What was asked before does not matter, nor when files are read.** -/
theorem answers_openDir (files : Files) (dir : Path) (options : SearchOptions)
    (queries : List String) :
    let opened (files : Files) (lazy : Bool) : Index := (openDir files dir { options with lazy }).1
    answers files (opened files true) queries = answers files (opened files false) queries ∧
      ∀ lazy,
        answers files (opened files lazy) queries
            = queries.map (fun query => (search files (opened files lazy) query).hits) ∧
          answers files (emptyFailures files (opened files lazy)) queries
            = answers files (opened files lazy) queries ∧
          ∀ files', Emptied files files' dir ∨ Relisted files files' dir →
            answers files' (opened files' lazy) queries
              = answers files (opened files lazy) queries := by
  intro opened
  have hmax (files : Files) (lazy : Bool) :
      (opened files lazy).options.maxResults = options.maxResults := by
    simp only [opened, options_openDir]
  refine ⟨?_, fun lazy => ⟨answers_eq_map files _ queries, ?_, fun files' h => ?_⟩⟩
  · refine answers_eq_of_contents ?_ ?_ queries
    · simp only [opened, contents_openDir]
    · rw [hmax, hmax]
  · exact answers_eq_of_contents (contents_emptyFailures files _) rfl queries
  · refine answers_eq_of_contents ?_ ?_ queries
    · rcases h with h | h
      · exact h.contents_eq rfl
      · exact h.contents_eq rfl
    · rw [hmax, hmax]

/-- A directory of a partition and a file that is no text. -/
def damagedSite : Files where
  root := .directory [("search", .directory [
    ("all_0.js", .file (some mixedPartition.render)), ("all_1.js", .file none)])]
  current := []

/-- The directory with an empty partition in the place of the file that is no text. -/
def mendedSite : Files where
  root := .directory [("search", .directory [
    ("all_0.js", .file (some mixedPartition.render)),
    ("all_1.js", .file (some (emptyPartition "all_1.js").render))])]
  current := []

/-- The directory with its files listed the other way round. -/
def turnedSite : Files where
  root := .directory [("search", .directory [
    ("all_1.js", .file none), ("all_0.js", .file (some mixedPartition.render))])]
  current := []

/-- The slots of the directory. -/
theorem slotsIn_damagedSite : (slotsIn damagedSite "search").1 =
    [⟨"all_0.js", "all", none, .unread (Path.join "search" "all_0.js")⟩,
      ⟨"all_1.js", "all", none, .unread (Path.join "search" "all_1.js")⟩] := by
  have hcatalog : catalogIn damagedSite "search" = none := by decide +kernel
  have hnames : listing damagedSite "search" = ["all_0.js", "all_1.js"] := by decide +kernel
  have hfound : found ["all_0.js", "all_1.js"]
      = [("all", 0, "all_0.js"), ("all", 1, "all_1.js")] := by decide +kernel
  rw [slotsIn_fst, hcatalog, hnames]
  simp only [slotsOfFiles_eq, hfound]
  rw [List.mergeSort_of_pairwise (by decide +kernel)]
  rfl

/-- One file of the directory can be loaded, the other cannot. -/
theorem load_damagedSite :
    Partition.load damagedSite (Path.join "search" "all_0.js") = .ok mixedPartition ∧
      Partition.load damagedSite (Path.join "search" "all_1.js")
        = .error (.unavailablePartition "all_1.js" FileError.invalidText.message) := by
  decide +kernel

/-- An empty partition stands in the place of the file that cannot be loaded. -/
theorem emptied_damagedSite : Emptied damagedSite mendedSite "search" := by
  have hnone : catalogIn damagedSite "search" = none := by decide +kernel
  refine ⟨?_, fun _ => by decide +kernel, ?_, ?_⟩
  · rw [hnone]
    decide +kernel
  · rw [slotsIn_damagedSite]
    simp only [List.mem_cons, List.not_mem_nil, or_false]
    rintro slot (rfl | rfl) partition hload
    · have hread : mendedSite.read (Path.join "search" "all_0.js")
          = damagedSite.read (Path.join "search" "all_0.js") := by decide +kernel
      rwa [Partition.load, hread]
    · rw [load_damagedSite.2] at hload
      cases hload
  · rw [slotsIn_damagedSite]
    simp only [List.mem_cons, List.not_mem_nil, or_false]
    rintro slot (rfl | rfl) e hload
    · rw [load_damagedSite.1] at hload
      cases hload
    · exact ⟨emptyPartition "all_1.js", by decide +kernel, rfl⟩

/-- The same files are listed the other way round. -/
theorem relisted_damagedSite : Relisted damagedSite turnedSite "search" := by
  have hnone : catalogIn damagedSite "search" = none := by decide +kernel
  refine ⟨?_, by decide +kernel, ?_⟩
  · rw [hnone]
    decide +kernel
  · rw [slotsIn_damagedSite]
    simp only [List.mem_cons, List.not_mem_nil, or_false]
    rintro slot (rfl | rfl)
    · decide +kernel
    · decide +kernel

/-- The directory answers a query in other letters and one beyond ASCII. -/
theorem answers_damagedSite :
    answers damagedSite (openDir damagedSite "search" { lazy := true }).1 ["It's", "É"]
      = [[⟨"it's \\", "a.html#\n", ""⟩, ⟨"it's \\", "b.html", ""⟩], [⟨"", "", "\u0000"⟩]] := by
  have hopen : (openDir damagedSite "search" { lazy := true }).1 = ⟨
      [⟨"all_0.js", "all", none, .unread (Path.join "search" "all_0.js")⟩,
        ⟨"all_1.js", "all", none, .unread (Path.join "search" "all_1.js")⟩],
      { lazy := true }⟩ := by
    simp only [openDir, slotsIn_damagedSite]
    rfl
  rw [hopen]
  decide +kernel

/-- The mended directory and the one that is listed the other way round give the same answers, with
the files read late or at once. -/
theorem answers_openDir_damagedSite :
    (Emptied damagedSite mendedSite "search" ∨ Relisted damagedSite mendedSite "search") ∧
      (Emptied damagedSite turnedSite "search" ∨ Relisted damagedSite turnedSite "search") ∧
      answers mendedSite (openDir mendedSite "search" { lazy := true }).1 ["It's", "É"]
        = [[⟨"it's \\", "a.html#\n", ""⟩, ⟨"it's \\", "b.html", ""⟩], [⟨"", "", "\u0000"⟩]] ∧
      answers turnedSite (openDir turnedSite "search" { lazy := false }).1 ["It's", "É"]
        = [[⟨"it's \\", "a.html#\n", ""⟩, ⟨"it's \\", "b.html", ""⟩], [⟨"", "", "\u0000"⟩]] := by
  have hmended :
      Emptied damagedSite mendedSite "search" ∨ Relisted damagedSite mendedSite "search" :=
    Or.inl emptied_damagedSite
  have hturned :
      Emptied damagedSite turnedSite "search" ∨ Relisted damagedSite turnedSite "search" :=
    Or.inr relisted_damagedSite
  obtain ⟨heager, hall⟩ := answers_openDir damagedSite "search" {} ["It's", "É"]
  refine ⟨hmended, hturned, ?_, ?_⟩
  · exact ((hall true).2.2 mendedSite hmended).trans answers_damagedSite
  · exact ((hall false).2.2 turnedSite hturned).trans (heager.symm.trans answers_damagedSite)

end DocSite.Search.Index
