import DocSite.Files
import DocSite.Notice
import DocSite.Search.Catalog
import DocSite.Search.Partition
import DocSite.Settings.Basic

/-! # The search index

An index knows its partitions by slots. A slot is read at most once, at the first query that could
match something in it, and keeps what it found, be it nothing. A query gives the records of the
entries that it names before those of the entries that go on behind it. -/

namespace DocSite.Search

open DocSite.Text

/-- A place where a query is answered. -/
structure Hit where
  /-- The name to show. -/
  name : String
  /-- Where the documentation is. -/
  link : String
  /-- The scope; empty if there is none. -/
  scope : String
  deriving DecidableEq

/-- What a slot holds. -/
inductive Content where
  /-- The file at the path has not been read. -/
  | unread (path : Path)
  /-- The file could not be used. -/
  | failed
  /-- The partition. -/
  | ready (partition : Partition)

/-- A partition of an index, read or not. -/
structure Slot where
  /-- The name of its file. -/
  file : String
  /-- The section that it belongs to. -/
  sectionName : String
  /-- The character that its keys begin with, if that is known. -/
  initial : Option Char
  /-- What is in it. -/
  content : Content

/-- Reads the partition in a file. -/
def Partition.load (files : Files) (p : Path) : Except Error Partition :=
  match files.read p with
  | .ok source => Partition.parse p.fileName source
  | .error e => .error (.unavailablePartition p.fileName e.message)

namespace Slot

/-- Whether keys that begin with `first` may be in the slot. -/
def covers (slot : Slot) (first : Char) : Bool :=
  match slot.initial with
  | none => true
  | some initial => lowercase initial == lowercase first

/-- The slot with its file read, and a warning if the file cannot be used. -/
def read (files : Files) (slot : Slot) : Slot × List Notice :=
  match slot.content with
  | .unread path =>
      match Partition.load files path with
      | .ok partition => ({ slot with content := .ready partition }, [])
      | .error e => ({ slot with content := .failed }, [.warning e.message])
  | _ => (slot, [])

/-- The partition, if it has been read. -/
def partition? (slot : Slot) : Option Partition :=
  match slot.content with
  | .ready partition => some partition
  | _ => none

end Slot

/-- Reads the slots that satisfy `p`, in order. -/
def readSlots (files : Files) (p : Slot → Bool) : List Slot → List Slot × List Notice
  | [] => ([], [])
  | slot :: rest =>
      let (slot, notices) := if p slot then slot.read files else (slot, [])
      let (rest, more) := readSlots files p rest
      (slot :: rest, notices ++ more)

/-- The section and the ordinal that the name of a partition's file gives. -/
def partitionParts? (file : String) : Option (String × Nat) :=
  match file.toList.reverse with
  -- The name is read from its end: `.js`, the ordinal, a separator, the section.
  | 's' :: 'j' :: '.' :: stem =>
      match splitLast? '_' stem.reverse with
      | some (name, ordinal) =>
          if name.isEmpty then none
          else
            match ordinalValue? ordinal with
            | some n => if n < Nat.pow 2 32 then some (String.ofList name, n) else none
            | none => none
      | none => none
  | _ => none
where
  /-- The value of hexadecimal digits, which may follow a plus sign. -/
  ordinalValue? : List Char → Option Nat
    | '+' :: digits => digitsValue? 16 digits
    | digits => digitsValue? 16 digits

/-- A search index. -/
structure Index where
  /-- The partitions in the order in which they are searched. -/
  slots : List Slot
  /-- How the index is used. -/
  options : SearchOptions

namespace Index

/-- The slots that a catalog lists. -/
def slotsOfCatalog (dir : Path) (catalog : Catalog) : List Slot :=
  catalog.sections.flatMap fun s =>
    s.partitions.map fun (initial, file) => ⟨file, s.name, some initial, .unread (dir.join file)⟩

/-- Whether a file with its section and ordinal is searched no later than another. -/
def notAfter (a b : String × Nat × String) : Bool :=
  match compare a.1 b.1 with
  | .lt => true
  | .gt => false
  | .eq =>
      match compare a.2.1 b.2.1 with
      | .lt => true
      | .gt => false
      | .eq => compare a.2.2 b.2.2 != .gt

/-- The slots of the partitions among the named files of a directory, by section and ordinal. -/
def slotsOfFiles (dir : Path) (names : List String) : List Slot :=
  let found := names.filterMap fun file =>
    (partitionParts? file).map fun (name, ordinal) => (name, ordinal, file)
  (found.mergeSort notAfter).map fun (name, _, file) =>
    ⟨file, name, none, .unread (dir.join file)⟩

/-- The slots of the partitions that are found in a directory. -/
def discover (files : Files) (dir : Path) : List Slot × List Notice :=
  match files.list dir with
  | .ok names => (slotsOfFiles dir names, [])
  | .error e =>
      ([], [.warning ("search directory " ++ dir ++ " unavailable: " ++ e.message)])

/-- The catalog in a file. -/
def loadCatalog (files : Files) (p : Path) : Except Error Catalog :=
  match files.read p with
  | .ok source => Catalog.parse source
  | .error e => .error (.file e)

/-- The slots of the index in a directory: those of its catalog, or else those that are found. -/
def slotsIn (files : Files) (dir : Path) : List Slot × List Notice :=
  let path := dir.join Catalog.fileName
  if files.isFile path then
    match loadCatalog files path with
    | .ok catalog => (slotsOfCatalog dir catalog, [])
    | .error e =>
        let (slots, notices) := discover files dir
        (slots, .warning ("ignoring search catalog " ++ path ++ ": " ++ e.message) :: notices)
  else discover files dir

/-- The slots of the wanted sections; no section wanted means all of them. -/
def ofSections (sections : List String) (slots : List Slot) : List Slot :=
  if sections.isEmpty then slots else slots.filter fun slot => sections.contains slot.sectionName

/-- Opens the index in a directory. Unless it is lazy, everything is read at once. -/
def openDir (files : Files) (dir : Path) (options : SearchOptions) : Index × List Notice :=
  let (slots, notices) := slotsIn files dir
  let slots := ofSections options.sections slots
  if options.lazy then (⟨slots, options⟩, notices)
  else
    let (slots, more) := readSlots files (fun _ => true) slots
    (⟨slots, options⟩, notices ++ more)

/-- The index of partitions at hand. -/
def ofPartitions (partitions : List Partition) (options : SearchOptions) : Index :=
  ⟨partitions.map fun p =>
    ⟨p.name, ((partitionParts? p.name).map Prod.fst).getD "", none, .ready p⟩, options⟩

/-- The hits of an entry. -/
def hitsOf (entry : Entry) : List Hit :=
  entry.records.map fun record => ⟨entry.name, record.link, record.scope.getD ""⟩

/-- The hits of a key form in partitions: those of the entries that it names first, then those of
the entries that go on behind it, none twice. -/
def hitsIn (partitions : List Partition) (key : String) : List Hit :=
  ((partitions.flatMap (·.exactMatches key) ++ partitions.flatMap (·.prefixMatches key)).flatMap
    hitsOf).eraseDups

/-- The first `n` of the hits; zero sets no limit. -/
def limit (n : Nat) (hits : List Hit) : List Hit :=
  if n = 0 then hits else hits.take n

@[simp] theorem limit_zero (hits : List Hit) : limit 0 hits = hits := rfl

/-- What a query gives. -/
structure Answer where
  /-- The hits. -/
  hits : List Hit
  /-- The index with the slots read that the query needed. -/
  index : Index
  /-- The warnings that came up. -/
  notices : List Notice

/-- Answers a query. -/
def search (files : Files) (index : Index) (query : String) : Answer :=
  let key := normalizeQuery query
  match key.toList with
  | [] => ⟨[], index, []⟩
  | first :: _ =>
      -- Slots that do not cover the key stay as they are, and their contents do not count.
      let (slots, notices) := readSlots files (·.covers first) index.slots
      let partitions := (slots.filter (·.covers first)).filterMap Slot.partition?
      ⟨limit index.options.maxResults (hitsIn partitions key), { index with slots }, notices⟩

/-- The names of the partitions' files, in the order in which they are searched. -/
def partitionFiles (index : Index) : List String :=
  index.slots.map Slot.file

/-- The number of partitions at hand. -/
def loadedCount (index : Index) : Nat :=
  (index.slots.filterMap Slot.partition?).length

end Index

end DocSite.Search
