import DocSite.Script
import DocSite.Search.Key
import DocSite.Text.Display

/-! # Partitions

A partition is one shard of the search index: entries with a key, a name to show and one or more
records, each of which says where the symbol is documented. No key is repeated. -/

namespace DocSite.Search

open DocSite.Text

/-- Where a symbol is documented. -/
structure Record where
  /-- Where the documentation is. -/
  link : String
  /-- Whether the link opens in the frame around. -/
  parentFrame : Bool
  /-- The scope that the symbol belongs to, if it is given. -/
  scope : Option String
  deriving DecidableEq

/-- A symbol with its records. -/
structure Entry where
  /-- The key with its ordinal. -/
  key : String
  /-- The name to show. -/
  name : String
  /-- Where the symbol is documented. -/
  records : List Record
  deriving DecidableEq

/-- The key without its ordinal: what queries are compared with. -/
def Entry.stem (entry : Entry) : String :=
  stripOrdinal entry.key

/-- A shard of the search index. -/
structure Partition where
  /-- The name, usually that of a file. -/
  name : String
  /-- The entries in order. -/
  entries : List Entry
  /-- No key is repeated. -/
  nodup : (entries.map Entry.key).Nodup
  deriving DecidableEq

namespace Partition

/-- The declaration that holds the entries. -/
def variableName : String := "searchData"

/-- The first key that repeats an earlier one, where `seen` holds the keys before. -/
def repeatedKey? (seen : List String) : List Entry → Option String
  | [] => none
  | entry :: rest =>
      if entry.key ∈ seen then some entry.key else repeatedKey? (entry.key :: seen) rest

/-- Entries without a repeated key have keys that differ from each other and from those before. -/
theorem nodup_of_repeatedKey?_eq_none {seen : List String} {entries : List Entry}
    (h : repeatedKey? seen entries = none) :
    (entries.map Entry.key).Nodup ∧ ∀ key ∈ entries.map Entry.key, key ∉ seen := by
  induction entries generalizing seen with
  | nil => simp
  | cons entry rest ih =>
    rw [repeatedKey?] at h
    split at h
    · cases h
    next hnew =>
      obtain ⟨hd, hs⟩ := ih h
      refine ⟨?_, ?_⟩
      · rw [List.map_cons, List.nodup_cons]
        exact ⟨fun hm => hs _ hm (by simp), hd⟩
      · intro key hk
        rw [List.map_cons, List.mem_cons] at hk
        rcases hk with rfl | hk
        · exact hnew
        · exact fun hm => hs _ hk (by simp [hm])

/-- The partition of these entries, unless a key is repeated. -/
def ofEntries (name : String) (entries : List Entry) : Except Error Partition :=
  match h : repeatedKey? [] entries with
  | some key => .error (.unavailablePartition name ("duplicate key " ++ display key))
  | none => .ok ⟨name, entries, (nodup_of_repeatedKey?_eq_none h).1⟩

/-- What a frame flag says. -/
def flagOf : Literal → Except String Bool
  | .number n => .ok n.exceedsEpsilon
  | .bool b => .ok b
  | other => .error ("frame flag must be a number, found " ++ other.kind)

/-- The record of a link, a flag and an optional scope. -/
def recordOfParts (link flag : Literal) (scope : Option String) : Except String Record :=
  match link with
  | .string link =>
      match flagOf flag with
      | .ok parentFrame => .ok ⟨link, parentFrame, scope⟩
      | .error reason => .error reason
  | _ => .error "link must be a string"

/-- The record that a literal describes. -/
def recordOf : Literal → Except String Record
  | .array [link, flag] => recordOfParts link flag none
  | .array [link, flag, scope] =>
      match scope with
      | .string scope => recordOfParts link flag (some scope)
      | _ => .error "scope must be a string"
  | .array fields =>
      .error ("record has " ++ decimal fields.length ++ " fields, expected 2 or 3")
  | _ => .error "record must be an array"

/-- The records that literals describe. -/
def recordsOf : List Literal → Except String (List Record)
  | [] => .ok []
  | literal :: rest =>
      match recordOf literal with
      | .error reason => .error reason
      | .ok record =>
          match recordsOf rest with
          | .ok records => .ok (record :: records)
          | .error reason => .error reason

/-- The entry of this key that the literals of its body describe. -/
def entryOfBody (key : String) : List Literal → Except String Entry
  | [] => .error "entry body is empty"
  | .string name :: records =>
      if records.isEmpty then .error ("entry " ++ display key ++ " has no records")
      else
        match recordsOf records with
        | .ok records => .ok ⟨key, name, records⟩
        | .error reason => .error reason
  | _ :: _ => .error "display name must be a string"

/-- The entry that a key and a body describe. -/
def entryOfParts (key body : Literal) : Except String Entry :=
  match key with
  | .string key =>
      if key = "" then .error "key must be a non-empty string"
      else
        match body with
        | .array items => entryOfBody key items
        | _ => .error "entry body must be an array"
  | _ => .error "key must be a non-empty string"

/-- The entry that a literal describes. -/
def entryOf : Literal → Except String Entry
  | .array [key, body] => entryOfParts key body
  | .array _ => .error "expected exactly [key, [name, records...]]"
  | other => .error ("expected [key, [name, records...]], found " ++ other.kind)

/-- The entries that literals describe, which stand from position `i` on. -/
def entriesOf (name : String) (i : Nat) : List Literal → Except Error (List Entry)
  | [] => .ok []
  | literal :: rest =>
      match entryOf literal with
      | .error reason => .error (.unavailablePartition name
          (variableName ++ "[" ++ decimal i ++ "]: " ++ reason))
      | .ok entry =>
          match entriesOf name (i + 1) rest with
          | .ok entries => .ok (entry :: entries)
          | .error e => .error e

/-- The partition that a script declares. -/
def ofScript (name : String) (script : Script) : Except Error Partition :=
  match script.get? variableName with
  | none => .error (.unavailablePartition name ("no " ++ variableName ++ " declaration"))
  | some (.array items) =>
      match entriesOf name 0 items with
      | .ok entries => ofEntries name entries
      | .error e => .error e
  | some other => .error (.unavailablePartition name
      (variableName ++ " is " ++ other.kind ++ ", expected an array"))

/-- The partition that the text of a file declares. -/
def parse (name source : String) : Except Error Partition :=
  match Script.parse source with
  | .error e => .error (.unavailablePartition name (Error.script e).message)
  | .ok script => ofScript name script

/-- Whether the key form `query` is all of an entry's stem. -/
def matchesExactly (query : String) (entry : Entry) : Bool :=
  entry.stem == query

/-- Whether the key form `query` is a proper beginning of an entry's stem. -/
def matchesBeginning (query : String) (entry : Entry) : Bool :=
  query.toList.isPrefixOf entry.stem.toList && entry.stem != query

/-- The entries that the key form `query` names. -/
def exactMatches (partition : Partition) (query : String) : List Entry :=
  partition.entries.filter (matchesExactly query)

/-- The entries whose stem goes on behind the key form `query`. -/
def prefixMatches (partition : Partition) (query : String) : List Entry :=
  partition.entries.filter (matchesBeginning query)

end Partition

end DocSite.Search
