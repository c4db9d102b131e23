import DocSite.Proofs.Search.OwnName
import DocSite.Proofs.Search.Opening
import Mathlib.Data.List.TakeWhile

/-! # Catalogs lose nothing

A catalog tells beforehand with which characters the keys in a file begin, so that a query need not
look into every file. Nothing is lost as long as the catalog lists the files that are there and is
right about them (`Describes`): the name of a listed file gives back its section
(`partitionParts?_partitionFile`), and the key form of a query begins with a character that stands
for itself (`isKeyChar_of_normalizeQuery`), so whatever it could find begins with the same letter.
The main statement is `hits_with_catalog_iff`. -/

namespace DocSite.Search

open DocSite.Text

/-! ## Names of files -/

/-- A hexadecimal digit is neither a separator nor a sign. -/
theorem ne_of_isHex {c : Char} (h : isHex c = true) : c ≠ '_' ∧ c ≠ '+' := by
  constructor
  · rintro rfl
    exact absurd h (by decide)
  · rintro rfl
    exact absurd h (by decide)

/-- An ordinal is read back from its digits. -/
theorem ordinalValue?_hexDigits (i : Nat) :
    partitionParts?.ordinalValue? (hexDigits i) = some i := by
  have hsign : ∀ rest, hexDigits i ≠ '+' :: rest := by
    intro rest hdigits
    exact (ne_of_isHex (isHex_of_mem_hexDigits (hdigits ▸ List.mem_cons_self))).2 rfl
  rw [partitionParts?.ordinalValue?.eq_2 _ hsign, digitsValue?_hexDigits]

/-- **The name of a listed file gives back its section and its position**, unless the section has no
name or the position is out of range. -/
theorem partitionParts?_partitionFile (name : String) (i : Nat) :
    partitionParts? (partitionFile name i)
      = if name ≠ "" ∧ i < 2 ^ 32 then some (name, i) else none := by
  have hseparator : '_' ∉ hexDigits i := fun h => (ne_of_isHex (isHex_of_mem_hexDigits h)).1 rfl
  have hfile : (partitionFile name i).toList.reverse
      = 's' :: 'j' :: '.' :: (name.toList ++ '_' :: hexDigits i).reverse := by
    simp [partitionFile]
  rw [partitionParts?, hfile]
  simp only [List.reverse_reverse, splitLast?_append hseparator, ordinalValue?_hexDigits,
    List.isEmpty_iff, String.toList_eq_nil_iff, String.ofList_toList]
  by_cases hname : name = ""
  · simp [hname]
  · simp [hname]

/-- A section's files are those of its name and a position. -/
theorem exists_eq_partitionFile {s : Section} {initial : Char} {file : String}
    (h : (initial, file) ∈ s.partitions) : ∃ i, file = partitionFile s.name i := by
  rw [Section.partitions, List.mem_map] at h
  obtain ⟨⟨c, i⟩, -, heq⟩ := h
  cases heq
  exact ⟨i, rfl⟩

/-- The section that the name of a listed file gives is the one that lists it. -/
theorem section_of_mem_partitions {s : Section} {initial : Char} {file name : String}
    {ordinal : Nat} (h : (initial, file) ∈ s.partitions)
    (hparts : partitionParts? file = some (name, ordinal)) : name = s.name := by
  obtain ⟨i, rfl⟩ := exists_eq_partitionFile h
  rw [partitionParts?_partitionFile] at hparts
  by_cases hvalid : s.name ≠ "" ∧ i < 2 ^ 32
  · rw [if_pos hvalid] at hparts
    cases hparts
    rfl
  · rw [if_neg hvalid] at hparts
    cases hparts

/-! ## How a key form begins -/

/-- A letter or a number that is no capital of ASCII stands for itself. -/
theorem isKeyChar_of_isAlphanumeric {c : Char} (h : isAlphanumeric c = true)
    (hcapital : c.isUpper = false) : isKeyChar c = true := by
  by_cases hascii : c.toNat < 0x80
  · have hall : ∀ n < 0x80, isAlphanumeric (Char.ofNat n) = true →
        (Char.ofNat n).isUpper = false → isKeyChar (Char.ofNat n) = true := by decide +kernel
    have hc := hall c.toNat hascii
    rw [Char.ofNat_toNat] at hc
    exact hc h hcapital
  · simp [isKeyChar, Nat.le_of_not_lt hascii]

/-- A query of which something is left holds a letter or a number. -/
theorem exists_isAlphanumeric_of_trimmed_ne_nil {query : String} (h : trimmed query ≠ []) :
    ∃ c ∈ query.toList, isAlphanumeric c = true := by
  by_contra hnone
  have hall : ∀ c ∈ query.toList, (!isAlphanumeric c) = true := by
    intro c hc
    rw [Bool.not_eq_true', ← Bool.not_eq_true]
    exact fun hletter => hnone ⟨c, hc, hletter⟩
  have hdropped : query.toList.dropWhile (!isAlphanumeric ·) = [] :=
    List.dropWhile_eq_nil_iff.2 hall
  exact h (by rw [trimmed, trimBoth, hdropped]; rfl)

/-- **The key form of a query begins with a character that stands for itself**, never with an
escape. -/
theorem isKeyChar_of_normalizeQuery {query : String} {first : Char} {rest : List Char}
    (h : (normalizeQuery query).toList = first :: rest) : isKeyChar first = true := by
  rw [toList_normalizeQuery] at h
  have hne : trimmed query ≠ [] := by
    intro hnil
    rw [hnil] at h
    cases h
  obtain ⟨c, tail, htrimmed, hc⟩ :=
    exists_trimmed_eq_cons (exists_isAlphanumeric_of_trimmed_ne_nil hne)
  obtain ⟨x, more, hlower, hx⟩ := exists_lowercase_eq_cons c
  have hcapital : x.isUpper = false :=
    isUpper_of_mem_lowercase (hlower ▸ List.mem_cons_self : x ∈ lowercase c)
  have hkey : isKeyChar x = true := isKeyChar_of_isAlphanumeric (hx.trans hc) hcapital
  rw [htrimmed, encodeChars, lowercaseAll, List.flatMap_cons, hlower, List.cons_append,
    List.flatMap_cons, keyChar, if_pos hkey] at h
  rwa [← (List.cons.inj h).1]

/-! ## Catalogs that describe a directory -/

/-- Whether a catalog describes a directory: it lists the partitions' files that are there, and the
keys in a file that do not begin with an escape begin with the initial that it gives the file. -/
structure Catalog.Describes (catalog : Catalog) (files : Files) (dir : Path) : Prop where
  /-- The listed files are those that would be found. -/
  lists : ∀ file, (∃ s ∈ catalog.sections, ∃ initial, (initial, file) ∈ s.partitions) ↔
    file ∈ Index.listing files dir ∧ (partitionParts? file).isSome = true
  /-- The keys in a listed file begin with its initial, up to case. -/
  initials : ∀ s ∈ catalog.sections, ∀ initial file, (initial, file) ∈ s.partitions →
    ∀ entry ∈ entriesAt files (dir.join file), ∀ c rest, entry.key.toList = c :: rest → c ≠ '_' →
      lowercase c = lowercase initial

/-- Whether `files'` are `files` without the catalog of the index in a directory. -/
structure LacksCatalog (files files' : Files) (dir : Path) : Prop where
  /-- There is no catalog. -/
  absent : files'.isFile (dir.join Catalog.fileName) = false
  /-- The directory lists everything else. -/
  names : ∀ file, file ∈ Index.listing files' dir ↔
    file ∈ Index.listing files dir ∧ file ≠ Catalog.fileName
  /-- Everything else is the same. -/
  read : ∀ file ∈ Index.listing files' dir, files'.read (dir.join file) = files.read (dir.join file)

/-- The file of the catalog is not named like that of a partition. -/
theorem ne_fileName_of_partitionParts? {file : String} (h : (partitionParts? file).isSome = true) :
    file ≠ Catalog.fileName := by
  rintro rfl
  exact absurd h (by decide +kernel)

namespace Index

/-- What a query is about in an opened index are the entries in the files of the wanted slots that
cover its key form, if their stems begin with it. -/
theorem mem_matching_openDir {files : Files} {dir : Path} {options : SearchOptions}
    {query : String} {entry : Entry} :
    entry ∈ matching files (openDir files dir options).1 query ↔ ∃ first rest,
      (normalizeQuery query).toList = first :: rest ∧ first :: rest <+: entry.stem.toList ∧
        ∃ slot ∈ (slotsIn files dir).1,
          (options.sections = [] ∨ slot.sectionName ∈ options.sections) ∧
            slot.covers first = true ∧ entry ∈ entriesAt files (dir.join slot.file) := by
  have hlook : contents files (openDir files dir options).1
      = contents files ⟨ofSections options.sections (slotsIn files dir).1, options⟩ := by
    rw [contents_openDir]
    exact List.map_congr_left fun slot hslot => by rw [entries_of_mem_ofSections hslot]
  rw [matching_eq_of_contents hlook, mem_matching]
  refine exists_congr fun first => exists_congr fun rest => and_congr_right fun _ =>
    and_congr_right fun _ => ?_
  constructor
  · rintro ⟨slot, hslot, hcovers, hentry⟩
    rw [entries_of_mem_ofSections hslot] at hentry
    obtain ⟨hmem, hwanted⟩ := mem_ofSections.1 hslot
    exact ⟨slot, hmem, hwanted, hcovers, hentry⟩
  · rintro ⟨slot, hmem, hwanted, hcovers, hentry⟩
    have hslot := mem_ofSections.2 ⟨hmem, hwanted⟩
    rw [← entries_of_mem_ofSections hslot] at hentry
    exact ⟨slot, hslot, hcovers, hentry⟩

section

variable {files files' : Files} {dir : Path} {catalog : Catalog}
  (hcatalog : catalogIn files dir = some catalog) (hdescribes : catalog.Describes files dir)
  (hlacks : LacksCatalog files files' dir)

include hlacks

/-- Without the catalog, slots are looked for. -/
theorem slotsIn_of_lacksCatalog :
    (slotsIn files' dir).1 = slotsOfFiles dir (listing files' dir) := by
  have hnone : catalogIn files' dir = none := by
    rw [catalogIn, hlacks.absent]
    rfl
  rw [slotsIn_fst, hnone]

/-- The partitions' files hold the same without the catalog. -/
theorem entriesAt_of_lacksCatalog {file : String} (hfile : file ∈ listing files' dir) :
    entriesAt files' (dir.join file) = entriesAt files (dir.join file) := by
  simp only [entriesAt, Partition.load, hlacks.read file hfile]

include hcatalog hdescribes

/-- **What a query is about with the catalog, it is about without it.** -/
theorem mem_matching_of_catalog {options : SearchOptions} {query : String} {entry : Entry}
    (h : entry ∈ matching files (openDir files dir options).1 query) :
    entry ∈ matching files' (openDir files' dir options).1 query := by
  obtain ⟨first, rest, hkey, hbegins, slot, hslot, hwanted, -, hentry⟩ := mem_matching_openDir.1 h
  rw [slotsIn_fst, hcatalog] at hslot
  obtain ⟨s, hs, initial, file, hfile, rfl⟩ := mem_slotsOfCatalog.1 hslot
  obtain ⟨hlisted, hpartition⟩ := (hdescribes.lists file).1 ⟨s, hs, initial, hfile⟩
  have hlisted' : file ∈ listing files' dir :=
    (hlacks.names file).2 ⟨hlisted, ne_fileName_of_partitionParts? hpartition⟩
  obtain ⟨⟨name, ordinal⟩, hparts⟩ := Option.isSome_iff_exists.1 hpartition
  obtain rfl := section_of_mem_partitions hfile hparts
  rw [mem_matching_openDir, slotsIn_of_lacksCatalog hlacks]
  -- A slot that is found covers everything.
  refine ⟨first, rest, hkey, hbegins, ⟨file, s.name, none, .unread (dir.join file)⟩,
    mem_slotsOfFiles.2 ⟨file, hlisted', s.name, ordinal, hparts, rfl⟩, hwanted, rfl, ?_⟩
  rw [entriesAt_of_lacksCatalog hlacks hlisted']
  exact hentry

/-- **What a query is about without the catalog, it is about with it**: the key of the entry begins
like the query, and the catalog gives its file the same letter. -/
theorem mem_matching_of_lacksCatalog {options : SearchOptions} {query : String} {entry : Entry}
    (h : entry ∈ matching files' (openDir files' dir options).1 query) :
    entry ∈ matching files (openDir files dir options).1 query := by
  obtain ⟨first, rest, hkey, hbegins, slot, hslot, hwanted, -, hentry⟩ := mem_matching_openDir.1 h
  rw [slotsIn_of_lacksCatalog hlacks] at hslot
  obtain ⟨file, hlisted', name, ordinal, hparts, rfl⟩ := mem_slotsOfFiles.1 hslot
  rw [entriesAt_of_lacksCatalog hlacks hlisted'] at hentry
  have hpartition : (partitionParts? file).isSome = true := by
    rw [hparts]
    rfl
  obtain ⟨s, hs, initial, hfile⟩ :=
    (hdescribes.lists file).2 ⟨((hlacks.names file).1 hlisted').1, hpartition⟩
  obtain rfl := section_of_mem_partitions hfile hparts
  obtain ⟨behind, hbehind⟩ := hbegins.trans (stripOrdinal_isPrefix entry.key)
  have hinitial : lowercase first = lowercase initial :=
    hdescribes.initials s hs initial file hfile entry hentry first (rest ++ behind) hbehind.symm
      (ne_underscore_of_isKeyChar (isKeyChar_of_normalizeQuery hkey))
  rw [mem_matching_openDir, slotsIn_fst, hcatalog]
  refine ⟨first, rest, hkey, hbegins, ⟨file, s.name, some initial, .unread (dir.join file)⟩,
    mem_slotsOfCatalog.2 ⟨s, hs, initial, file, hfile, rfl⟩, hwanted, ?_, hentry⟩
  rw [Slot.covers, hinitial]
  exact beq_self_eq_true _

end

/-- **Catalogs lose nothing**: with a catalog that describes the directory a query finds the same
hits as without it. -/
theorem hits_with_catalog_iff {files files' : Files} {dir : Path} {catalog : Catalog}
    (hcatalog : catalogIn files dir = some catalog) (hdescribes : catalog.Describes files dir)
    (hlacks : LacksCatalog files files' dir) {options : SearchOptions}
    (hmax : options.maxResults = 0) (query : String) (hit : Hit) :
    hit ∈ (search files (openDir files dir options).1 query).hits ↔
      hit ∈ (search files' (openDir files' dir options).1 query).hits := by
  have hmax' (files : Files) : (openDir files dir options).1.options.maxResults = 0 := by
    rw [options_openDir, hmax]
  rw [mem_hits_search (hmax' files), mem_hits_search (hmax' files')]
  refine exists_congr fun entry => and_congr_left fun _ => ?_
  exact ⟨mem_matching_of_catalog hcatalog hdescribes hlacks,
    mem_matching_of_lacksCatalog hcatalog hdescribes hlacks⟩

/-- Files of two partitions, with a key that begins with an escape and one that begins with a letter
beyond ASCII. -/
def siteFiles : List (String × FileTree) := [
  ("all_0.js", .file (some ("var searchData=[['main_0',['main',['a.html',0]]],"
    ++ "['_7em_1',['~M',['b.html',0,'M']]]];"))),
  ("all_1.js", .file (some "var searchData=[['émile_2',['Émile',['c.html',0]]]];"))]

/-- A directory with these files and a catalog that gives one of them a capital. -/
def cataloguedSite : Files where
  root := .directory [("search", .directory ((Catalog.fileName, .file (some
    ("var indexSectionsWithContent=\x7b0:\"mÉ\"\x7d;"
      ++ "var indexSectionNames=\x7b0:\"all\"\x7d;"))) :: siteFiles))]
  current := []

/-- The directory without its catalog. -/
def uncataloguedSite : Files where
  root := .directory [("search", .directory siteFiles)]
  current := []

/-- The catalog of the directory. -/
def siteCatalog : Catalog := ⟨[⟨"all", none, ['m', 'É']⟩]⟩

/-- The catalog is the one that its file declares. -/
theorem catalogIn_cataloguedSite : catalogIn cataloguedSite "search" = some siteCatalog := by
  decide +kernel

/-- The catalog describes the directory. -/
theorem describes_cataloguedSite : siteCatalog.Describes cataloguedSite "search" := by
  have hlisting : listing cataloguedSite "search" = [Catalog.fileName, "all_0.js", "all_1.js"] := by
    decide +kernel
  have hpartitions : (⟨"all", none, ['m', 'É']⟩ : Section).partitions
      = [('m', "all_0.js"), ('É', "all_1.js")] := by decide +kernel
  refine ⟨fun file => ?_, ?_⟩
  · simp only [siteCatalog, exists_eq_left, hpartitions, hlisting,
      List.mem_cons, List.not_mem_nil, or_false, Prod.mk.injEq]
    constructor
    · rintro ⟨initial, ⟨-, rfl⟩ | ⟨-, rfl⟩⟩
      · decide +kernel
      · decide +kernel
    · rintro ⟨rfl | rfl | rfl, hparts⟩
      · exact absurd rfl (ne_fileName_of_partitionParts? hparts)
      · exact ⟨'m', Or.inl ⟨rfl, rfl⟩⟩
      · exact ⟨'É', Or.inr ⟨rfl, rfl⟩⟩
  · simp only [siteCatalog, forall_eq, hpartitions, List.mem_cons,
      List.not_mem_nil, or_false, Prod.mk.injEq]
    rintro initial file (⟨rfl, rfl⟩ | ⟨rfl, rfl⟩) entry hentry c rest hkey hc
    · have hkeys : ∀ entry ∈ entriesAt cataloguedSite (Path.join "search" "all_0.js"),
          entry.key.toList.head? = some 'm' ∨ entry.key.toList.head? = some '_' := by
        decide +kernel
      rcases hkeys entry hentry with h | h
      · rw [hkey, List.head?_cons, Option.some.injEq] at h
        rw [h]
      · rw [hkey, List.head?_cons, Option.some.injEq] at h
        exact absurd h hc
    · have hkeys : ∀ entry ∈ entriesAt cataloguedSite (Path.join "search" "all_1.js"),
          entry.key.toList.head? = some 'é' := by
        decide +kernel
      have h := hkeys entry hentry
      rw [hkey, List.head?_cons, Option.some.injEq] at h
      rw [h]
      decide +kernel

/-- The other directory is the same without the catalog. -/
theorem lacksCatalog_uncataloguedSite : LacksCatalog cataloguedSite uncataloguedSite "search" := by
  have hlisting : listing cataloguedSite "search"
      = Catalog.fileName :: listing uncataloguedSite "search" := by decide +kernel
  have hnone : Catalog.fileName ∉ listing uncataloguedSite "search" := by decide +kernel
  refine ⟨by decide +kernel, fun file => ?_, by decide +kernel⟩
  rw [hlisting, List.mem_cons]
  constructor
  · intro hfile
    exact ⟨Or.inr hfile, fun heq => hnone (heq ▸ hfile)⟩
  · rintro ⟨rfl | hfile, hne⟩
    · exact absurd rfl hne
    · exact hfile

/-- Without the catalog a query in other letters finds what it finds with it, one symbol and no
other. -/
theorem hits_with_catalog_cataloguedSite :
    (catalogIn cataloguedSite "search" = some siteCatalog ∧
        siteCatalog.Describes cataloguedSite "search" ∧
        LacksCatalog cataloguedSite uncataloguedSite "search" ∧
        ({ lazy := true, sections := ["all"] } : SearchOptions).maxResults = 0) ∧
      ∀ hit, hit ∈ (search uncataloguedSite
          (openDir uncataloguedSite "search" { lazy := true, sections := ["all"] }).1 "ÉM").hits ↔
        hit = ⟨"Émile", "c.html", ""⟩ := by
  have hmax : ({ lazy := true, sections := ["all"] } : SearchOptions).maxResults = 0 := rfl
  refine ⟨⟨catalogIn_cataloguedSite, describes_cataloguedSite, lacksCatalog_uncataloguedSite, hmax⟩,
    fun hit => ?_⟩
  have hhits : (search cataloguedSite
      (openDir cataloguedSite "search" { lazy := true, sections := ["all"] }).1 "ÉM").hits
        = [⟨"Émile", "c.html", ""⟩] := by decide +kernel
  rw [← hits_with_catalog_iff catalogIn_cataloguedSite describes_cataloguedSite
    lacksCatalog_uncataloguedSite hmax, hhits, List.mem_singleton]

end Index

end DocSite.Search
