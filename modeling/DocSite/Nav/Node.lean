/-! # Navigation nodes

An entry of the table of contents has a label, a link and possibly further entries below it, either
at hand or deferred to a script of their own. A forest is listed in document order: every entry
before those below it. -/

namespace DocSite.Nav

/-- An entry of the table of contents. -/
inductive Node where
  /-- An entry with nothing below it. -/
  | leaf (label link : String)
  /-- An entry with entries below it, possibly none. -/
  | branch (label link : String) (children : List Node)
  /-- An entry whose children are in the script of the given name. -/
  | deferred (label link name : String)

namespace Node

/-- What the entry is called. -/
def label : Node → String
  | leaf label _ | branch label _ _ | deferred label _ _ => label

/-- Where the entry leads. -/
def link : Node → String
  | leaf _ link | branch _ link _ | deferred _ link _ => link

/-- The entries below, as far as they are at hand. -/
def children : Node → List Node
  | branch _ _ children => children
  | _ => []

/-- The script that holds the children, if it has not been read. -/
def deferred? : Node → Option String
  | deferred _ _ name => some name
  | _ => none

mutual

/-- Decides whether two entries are equal. -/
def decEq : (a b : Node) → Decidable (a = b)
  | leaf l₁ k₁, leaf l₂ k₂ =>
      if h : l₁ = l₂ ∧ k₁ = k₂ then isTrue (by rw [h.1, h.2])
      else isFalse (by intro e; cases e; exact h ⟨rfl, rfl⟩)
  | branch l₁ k₁ c₁, branch l₂ k₂ c₂ =>
      match decEqList c₁ c₂ with
      | isTrue hc =>
          if h : l₁ = l₂ ∧ k₁ = k₂ then isTrue (by rw [h.1, h.2, hc])
          else isFalse (by intro e; cases e; exact h ⟨rfl, rfl⟩)
      | isFalse hc => isFalse (by intro e; cases e; exact hc rfl)
  | deferred l₁ k₁ n₁, deferred l₂ k₂ n₂ =>
      if h : l₁ = l₂ ∧ k₁ = k₂ ∧ n₁ = n₂ then isTrue (by rw [h.1, h.2.1, h.2.2])
      else isFalse (by intro e; cases e; exact h ⟨rfl, rfl, rfl⟩)
  | leaf .., branch .. => isFalse (by intro e; cases e)
  | leaf .., deferred .. => isFalse (by intro e; cases e)
  | branch .., leaf .. => isFalse (by intro e; cases e)
  | branch .., deferred .. => isFalse (by intro e; cases e)
  | deferred .., leaf .. => isFalse (by intro e; cases e)
  | deferred .., branch .. => isFalse (by intro e; cases e)

/-- Decides whether two rows of entries are equal. -/
def decEqList : (a b : List Node) → Decidable (a = b)
  | [], [] => isTrue rfl
  | [], _ :: _ => isFalse (by intro e; cases e)
  | _ :: _, [] => isFalse (by intro e; cases e)
  | a :: as, b :: bs =>
      match decEq a b, decEqList as bs with
      | isTrue h, isTrue hs => isTrue (by rw [h, hs])
      | isFalse h, _ => isFalse (by intro e; cases e; exact h rfl)
      | _, isFalse hs => isFalse (by intro e; cases e; exact hs rfl)

end

instance : DecidableEq Node := decEq

mutual

/-- The number of entries from this one down. -/
def size : Node → Nat
  | branch _ _ children => sizes children + 1
  | _ => 1

/-- The number of entries in a forest. -/
def sizes : List Node → Nat
  | [] => 0
  | node :: rest => node.size + sizes rest

end

/-- The sizes of forests add up. -/
@[simp] theorem sizes_append (a b : List Node) : sizes (a ++ b) = sizes a + sizes b := by
  induction a with
  | nil => simp [sizes]
  | cons node rest ih => simp [sizes, ih, Nat.add_assoc]

end Node

/-- An entry met on the way through a forest. -/
structure Step where
  /-- What the entry is called. -/
  label : String
  /-- Where it leads. -/
  link : String
  /-- How many entries it lies below. -/
  depth : Nat
  /-- The script that holds its children, if it has not been read. -/
  deferred : Option String
  deriving DecidableEq

/-- The step that an entry at this depth gives. -/
def Node.step (node : Node) (depth : Nat) : Step :=
  ⟨node.label, node.link, depth, node.deferred?⟩

mutual

/-- The entries from this one down, in document order. -/
def Node.preorder (depth : Nat) : Node → List Step
  | .branch label link children => ⟨label, link, depth, none⟩ :: forestPreorder (depth + 1) children
  | .leaf label link => [⟨label, link, depth, none⟩]
  | .deferred label link name => [⟨label, link, depth, some name⟩]

/-- The entries of a forest, in document order. -/
def forestPreorder (depth : Nat) : List Node → List Step
  | [] => []
  | node :: rest => node.preorder depth ++ forestPreorder depth rest

end

mutual

/-- Every entry from this one down is listed once. -/
@[simp] theorem Node.length_preorder (depth : Nat) :
    (node : Node) → (node.preorder depth).length = node.size
  | .leaf .. => rfl
  | .deferred .. => rfl
  | .branch _ _ children => by
      simp [Node.preorder, Node.size, length_forestPreorder]

/-- Every entry of a forest is listed once. -/
@[simp] theorem length_forestPreorder (depth : Nat) :
    (forest : List Node) → (forestPreorder depth forest).length = Node.sizes forest
  | [] => rfl
  | node :: rest => by
      simp [forestPreorder, Node.sizes, node.length_preorder, length_forestPreorder depth rest]

end

end DocSite.Nav
