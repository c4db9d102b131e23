import DocSite.Proofs.Script.Data
import Mathlib.Data.List.Forall2

/-! # Values of two readings

Two readings of a script, without and with a comment in it, find expressions that differ in their
places, in the texts of prefix operators, and in the texts of computed keys. They mean the same
(`Expr.Alike`) if the first one is no data, if a comment begins in a computed key of the other, or if
they are worth the same literal. What has been read besides is alike if its expressions are. -/

namespace DocSite.Script

/-! ## Expressions -/

/-- Whether a key is no expression in brackets in which a comment begins. -/
def Key.IsUncommented : Key → Prop
  | .computed text => ¬['/', '*'] <:+: text
  | _ => True

/-- Whether no comment begins in a computed key of an expression, at any depth. -/
def Expr.IsUncommented (e : Expr) : Prop :=
  ∀ entries, (Expr.object entries).Within e →
    ∀ key value, .pair key value ∈ entries → key.IsUncommented

/-- In an array the items count. -/
theorem isUncommented_array_iff {elements : List Element} :
    (Expr.array elements).IsUncommented ↔
      ∀ value, .item value ∈ elements → value.IsUncommented := by
  constructor
  · exact fun h value hmem entries hwithin => h entries (.item hmem hwithin)
  · intro h entries hwithin
    cases hwithin with
    | item hmem hwithin => exact h _ hmem entries hwithin

/-- In an object the keys and the values count. -/
theorem isUncommented_object_iff {entries : List Entry} :
    (Expr.object entries).IsUncommented ↔
      ∀ key value, .pair key value ∈ entries → key.IsUncommented ∧ value.IsUncommented := by
  constructor
  · exact fun h key value hmem => ⟨h entries (.self _) key value hmem,
      fun inside hwithin => h inside (.value hmem hwithin)⟩
  · intro h inside hwithin
    cases hwithin with
    | self => exact fun key value hmem => (h key value hmem).1
    | value hmem hwithin => exact (h _ _ hmem).2 inside hwithin

/-- In parentheses their content counts. -/
theorem isUncommented_paren_iff {inner : Expr} :
    (Expr.paren inner).IsUncommented ↔ inner.IsUncommented := by
  constructor
  · exact fun h entries hwithin => h entries (.paren hwithin)
  · intro h entries hwithin
    cases hwithin with
    | paren hwithin => exact h entries hwithin

/-- Whether an expression, if it is data, is worth the same literal as another in whose computed
keys no comment begins. -/
structure Expr.Alike (e e' : Expr) : Prop where
  /-- It is worth the same. -/
  literal? : IsData .accepted e → e'.IsUncommented → e'.literal? = e.literal?

/-- Whether elements of an array mean the same. -/
inductive Element.Alike : Element → Element → Prop where
  /-- Nothing in both readings. -/
  | hole : Alike .hole .hole
  /-- Values that mean the same. -/
  | item {e e' : Expr} (h : e.Alike e') : Alike (.item e) (.item e')

/-- Whether a key is the same name as another, if no comment begins in that. -/
structure Key.Alike (key key' : Key) : Prop where
  /-- It is the same name. -/
  text : key'.IsUncommented → key'.text = key.text

/-- Equal keys mean the same. -/
theorem Key.Alike.of_eq {key key' : Key} (h : key = key') : key.Alike key' :=
  ⟨fun _ => h ▸ rfl⟩

/-- Computed keys mean the same if their texts are equal or a comment begins in the second one. -/
theorem Key.Alike.computed {text text' : List Char} (h : text' = text ∨ ['/', '*'] <:+: text') :
    (Key.computed text).Alike (.computed text') := by
  refine ⟨fun huncommented => ?_⟩
  rw [h.resolve_right huncommented]

/-- Whether entries of an object mean the same. -/
inductive Entry.Alike : Entry → Entry → Prop where
  /-- Keys and values that mean the same. -/
  | pair {key key' : Key} {e e' : Expr} (hkey : key.Alike key') (h : e.Alike e') :
      Alike (.pair key e) (.pair key' e')
  /-- No data in both readings. -/
  | other (place place' : Place) (construct construct' : Construct) :
      Alike (.other place construct) (.other place' construct')

/-- Whether declarations mean the same. -/
structure Declarator.Alike (d d' : Declarator) : Prop where
  /-- The names are equal. -/
  name : d.name = d'.name
  /-- The values mean the same. -/
  value : d.value.Alike d'.value

/-- Elements that mean the same are worth the same. -/
theorem literals?_congr {elements elements' : List Element}
    (h : List.Forall₂ Element.Alike elements elements')
    (hdata : ∀ value, .item value ∈ elements → IsData .accepted value)
    (hkeys : ∀ value, .item value ∈ elements' → value.IsUncommented) :
    literals? elements' = literals? elements := by
  induction h with
  | nil => rfl
  | cons hfirst _ ih =>
      have hrest := ih (fun value hmem => hdata value (List.mem_cons_of_mem _ hmem))
        fun value hmem => hkeys value (List.mem_cons_of_mem _ hmem)
      cases hfirst with
      | hole => rw [literals?, literals?, hrest]
      | item h =>
          have hvalue := h.literal? (hdata _ List.mem_cons_self) (hkeys _ List.mem_cons_self)
          rw [literals?, literals?, hvalue, hrest]

/-- Entries that mean the same are worth the same. -/
theorem fields?_congr {entries entries' : List Entry}
    (h : List.Forall₂ Entry.Alike entries entries')
    (hdata : ∀ entry ∈ entries, ∃ key value, entry = .pair key value ∧ IsData .accepted value)
    (hkeys : ∀ key value, .pair key value ∈ entries' → key.IsUncommented ∧ value.IsUncommented) :
    fields? entries' = fields? entries := by
  induction h with
  | nil => rfl
  | cons hfirst _ ih =>
      obtain ⟨⟨key, value, rfl, hvalue⟩, hmore⟩ := List.forall_mem_cons.1 hdata
      have hrest := ih hmore fun key value hmem => hkeys key value (List.mem_cons_of_mem _ hmem)
      cases hfirst with
      | pair htext h =>
          obtain ⟨hkey, hinner⟩ := hkeys _ _ List.mem_cons_self
          rw [fields?, fields?, Entry.field?, Entry.field?, h.literal? hvalue hinner,
            htext.text hkey, hrest]

/-- Declarations that mean the same bind the same. -/
theorem bindings?_congr {declarators declarators' : List Declarator}
    (h : List.Forall₂ Declarator.Alike declarators declarators')
    (hdata : ∀ d ∈ declarators, IsData .accepted d.value)
    (hkeys : ∀ d ∈ declarators', d.value.IsUncommented) :
    bindings? declarators' = bindings? declarators := by
  induction h with
  | nil => rfl
  | cons hfirst _ ih =>
      obtain ⟨hvalue, hmore⟩ := List.forall_mem_cons.1 hdata
      obtain ⟨hkey, hmorekeys⟩ := List.forall_mem_cons.1 hkeys
      rw [bindings?, bindings?, hfirst.value.literal? hvalue hkey, ← hfirst.name,
        ih hmore hmorekeys]

namespace Expr.Alike

/-- Expressions that are worth the same mean the same. -/
theorem of_eq {e e' : Expr} (h : e'.literal? = e.literal?) : e.Alike e' :=
  ⟨fun _ _ => h⟩

/-- What is no data means the same as anything. -/
theorem other (place : Place) (construct : Construct) (e' : Expr) :
    (Expr.other place construct).Alike e' :=
  ⟨fun h _ => absurd h not_isData_other⟩

/-- Equal numbers mean the same. -/
theorem number (place place' : Place) (token : NumberToken) :
    (Expr.number place token).Alike (.number place' token) := by
  refine ⟨fun h _ => ?_⟩
  obtain ⟨value, hvalue⟩ :=
    Option.isSome_iff_exists.1 (token.isSome_value?_iff.2 (isData_number_iff.1 h))
  rw [Expr.literal?, Expr.literal?, hvalue]

/-- Texts of prefix operators mean the same if they are the same numbers. -/
theorem unary {place place' : Place} {text text' : List Char}
    (h : IsNegatedNumeral text → negated? text' = negated? text) :
    (Expr.unary place text).Alike (.unary place' text') := by
  refine ⟨fun hdata _ => ?_⟩
  have hnumeral : IsNegatedNumeral text := isData_unary_iff.1 hdata
  obtain ⟨value, hvalue⟩ := Option.isSome_iff_exists.1 (isSome_negated?_iff.2 hnumeral)
  rw [Expr.literal?, Expr.literal?, h hnumeral, hvalue]

/-- Arrays of elements that mean the same mean the same. -/
theorem array {elements elements' : List Element}
    (h : List.Forall₂ Element.Alike elements elements') :
    (Expr.array elements).Alike (.array elements') := by
  refine ⟨fun hdata hkeys => ?_⟩
  rw [Expr.literal?, Expr.literal?,
    literals?_congr h (isData_array_iff.1 hdata).2 (isUncommented_array_iff.1 hkeys)]

/-- Objects of entries that mean the same mean the same. -/
theorem object {entries entries' : List Entry} (h : List.Forall₂ Entry.Alike entries entries') :
    (Expr.object entries).Alike (.object entries') := by
  refine ⟨fun hdata hkeys => ?_⟩
  have hpairs : ∀ entry ∈ entries, ∃ key value, entry = .pair key value ∧
      IsData .accepted value := by
    intro entry hmem
    obtain ⟨key, value, heq, -, hvalue⟩ := isData_object_iff.1 hdata entry hmem
    exact ⟨key, value, heq, hvalue⟩
  rw [Expr.literal?, Expr.literal?, fields?_congr h hpairs (isUncommented_object_iff.1 hkeys)]

/-- Parentheses make no difference. -/
theorem paren {e e' : Expr} (h : e.Alike e') : (Expr.paren e).Alike (.paren e') := by
  refine ⟨fun hdata hkeys => ?_⟩
  rw [Expr.literal?, Expr.literal?,
    h.literal? (isData_paren_iff.1 hdata) (isUncommented_paren_iff.1 hkeys)]

end Expr.Alike

/-! ## Operands, slots and fields -/

/-- Whether operands mean the same and may play the same roles. -/
structure Operand.Alike (o o' : Operand) : Prop where
  /-- The expressions mean the same. -/
  expr : o.expr.Alike o'.expr
  /-- They have the same shape. -/
  shape : o.shape = o'.shape
  /-- Both are values, or none is. -/
  isValue : o.isValue = o'.isValue

/-- Operands that are no data mean the same if they may play the same roles. -/
theorem Operand.Alike.other (place place' : Place) (construct construct' : Construct)
    (shape : Shape) : Operand.Alike { expr := .other place construct, shape }
      { expr := .other place' construct', shape } :=
  ⟨.other .., rfl, rfl⟩

/-- Whether slots mean the same. -/
inductive Slot.Alike : Slot → Slot → Prop where
  /-- Nothing in both readings. -/
  | hole : Alike .hole .hole
  /-- Operands that mean the same. -/
  | item (place place' : Place) {o o' : Operand} (h : o.Alike o') :
      Alike (.item place o) (.item place' o')
  /-- Operands that mean the same, behind `...`. -/
  | spread (place place' : Place) {o o' : Operand} (h : o.Alike o') :
      Alike (.spread place o) (.spread place' o')
  /-- Markup comments. -/
  | remark (place place' : Place) : Alike (.remark place) (.remark place')

/-- Whether fields mean the same and allow an object to play the same roles. -/
structure Field.Alike (f f' : Field) : Prop where
  /-- The entries mean the same. -/
  entry : f.entry.Alike f'.entry
  /-- Both may stand in a value, or none may. -/
  isValue : f.isValue = f'.isValue
  /-- Both may stand in a pattern, or none may. -/
  isTarget : f.isTarget = f'.isTarget

/-- Fields that are no data mean the same if they allow the same roles. -/
theorem Field.Alike.other (place place' : Place) (construct construct' : Construct)
    (isValue isTarget : Bool) :
    Field.Alike { entry := .other place construct, isValue, isTarget }
      { entry := .other place' construct', isValue, isTarget } :=
  ⟨.other .., rfl, rfl⟩

namespace Slot.Alike

variable {slot slot' : Slot} (h : slot.Alike slot')

include h

/-- Slots that mean the same give elements that do. -/
theorem element : slot.element.Alike slot'.element := by
  cases h with
  | hole => exact .hole
  | item _ _ h => exact .item h.expr
  | spread => exact .item (.other ..)
  | remark => exact .item (.other ..)

/-- They may stand in an array both or not at all. -/
theorem isValue : slot.isValue = slot'.isValue := by
  cases h with
  | hole => rfl
  | item _ _ h => exact h.isValue
  | spread _ _ h => exact h.isValue
  | remark => rfl

/-- They may stand in an array pattern both or not at all. -/
theorem isTarget : slot.isTarget = slot'.isTarget := by
  cases h with
  | hole => rfl
  | item _ _ h => exact congrArg Shape.isDefaultedTarget h.shape
  | spread _ _ h => exact congrArg Shape.isTarget h.shape
  | remark => rfl

/-- They may be parameters both or not at all. -/
theorem isParameter : slot.isParameter = slot'.isParameter := by
  have htarget := h.isTarget
  cases h with
  | hole => rfl
  | item => exact htarget
  | spread => exact htarget
  | remark => exact htarget

/-- They may stand in a parenthesised expression both or not at all. -/
theorem isPlainValue : slot.isPlainValue = slot'.isPlainValue := by
  cases h with
  | item _ _ h => exact h.isValue
  | hole | spread | remark => rfl

/-- They are both markup comments, or none is. -/
theorem isRemark : slot.isRemark = slot'.isRemark := by
  cases h <;> rfl

end Slot.Alike

/-- What holds of the items of a list alike holds of all of them alike. -/
theorem all_eq_of_forall₂ {α : Type} {rel : α → α → Prop} {p : α → Bool} {as as' : List α}
    (hp : ∀ a a', rel a a' → p a = p a') (h : List.Forall₂ rel as as') : as.all p = as'.all p := by
  induction h with
  | nil => rfl
  | cons hfirst _ ih => rw [List.all_cons, List.all_cons, hp _ _ hfirst, ih]

section

variable {slots slots' : List Slot} (h : List.Forall₂ Slot.Alike slots slots')

include h

/-- Slots that mean the same give elements that do. -/
theorem elementsOf_alike : List.Forall₂ Element.Alike (elementsOf slots) (elementsOf slots') := by
  induction h with
  | nil => exact .nil
  | @cons slot slot' rest rest' hfirst hrest ih =>
      -- A hole gives no element where it is the last slot.
      cases hrest with
      | nil =>
          cases hfirst with
          | hole => exact .nil
          | item _ _ h => exact .cons (.item h.expr) .nil
          | spread => exact .cons (.item (.other ..)) .nil
          | remark => exact .cons (.item (.other ..)) .nil
      | cons hsecond hmore =>
          have hcons (slot other : Slot) (rest : List Slot) :
              elementsOf (slot :: other :: rest) = slot.element :: elementsOf (other :: rest) := by
            rw [elementsOf]
            intro _ h
            cases h
          rw [hcons, hcons]
          exact .cons hfirst.element ih

/-- They are an array in both readings, or an array pattern, with the same roles. -/
theorem arrayOperand_alike : Operand.Alike
    { expr := .array (elementsOf slots)
      shape := .bracketed (slots.all Slot.isTarget)
      isValue := slots.all Slot.isValue }
    { expr := .array (elementsOf slots')
      shape := .bracketed (slots'.all Slot.isTarget)
      isValue := slots'.all Slot.isValue } :=
  ⟨.array (elementsOf_alike h),
    congrArg Shape.bracketed (all_eq_of_forall₂ (fun _ _ h => h.isTarget) h),
    all_eq_of_forall₂ (fun _ _ h => h.isValue) h⟩

/-- They are parameters in both readings or in none. -/
theorem areParameters_eq : areParameters slots = areParameters slots' := by
  have hall {row row' : List Slot} (h : List.Forall₂ Slot.Alike row row') :
      row.all Slot.isParameter = row'.all Slot.isParameter :=
    all_eq_of_forall₂ (fun _ _ h => h.isParameter) h
  -- The rows are turned round, because a comma behind the last parameter leaves a hole there.
  have hrow : List.Forall₂ Slot.Alike (slots.filter (!·.isRemark)).reverse
      (slots'.filter (!·.isRemark)).reverse := by
    refine List.rel_reverse (List.rel_filter (fun slot slot' h => ?_) h)
    change (!slot.isRemark) = true ↔ (!slot'.isRemark) = true
    rw [h.isRemark]
  rw [areParameters, areParameters]
  generalize (slots.filter (!·.isRemark)).reverse = row at hrow ⊢
  generalize (slots'.filter (!·.isRemark)).reverse = row' at hrow ⊢
  cases hrow with
  | nil => rfl
  | cons hfirst hrest =>
      cases hfirst with
      | hole =>
          cases hrest with
          | nil => rfl
          | cons hsecond hmore => exact hall (.cons hsecond hmore)
      | item place place' h => exact hall (.cons (.item place place' h) hrest)
      | spread place place' h => exact hall (.cons (.spread place place' h) hrest)
      | remark place place' => exact hall (.cons (.remark place place') hrest)

/-- They give the same expression in parentheses, or none. -/
theorem parenthesizedExpr?_alike :
    Option.Rel Expr.Alike (parenthesizedExpr? slots) (parenthesizedExpr? slots') := by
  have hplain : slots.all Slot.isPlainValue = slots'.all Slot.isPlainValue :=
    all_eq_of_forall₂ (fun _ _ h => h.isPlainValue) h
  unfold parenthesizedExpr?
  rw [hplain]
  split
  next =>
    cases h with
    | nil => exact .none
    | cons hfirst hrest =>
        cases hfirst with
        | hole => exact .none
        | spread => exact .none
        | remark => exact .some (.other ..)
        | item _ _ ho =>
            cases hrest with
            | nil => exact .some ho.expr
            | cons => exact .some (.other ..)
  next => exact .none

end

/-- Fields that mean the same are an object in both readings, or an object pattern, with the same
roles. -/
theorem objectOperand_alike {fields fields' : List Field}
    (h : List.Forall₂ Field.Alike fields fields') : Operand.Alike
      { expr := .object (fields.map Field.entry)
        shape := .bracketed (fields.all Field.isTarget)
        isValue := fields.all Field.isValue }
      { expr := .object (fields'.map Field.entry)
        shape := .bracketed (fields'.all Field.isTarget)
        isValue := fields'.all Field.isValue } := by
  refine ⟨.object (List.forall₂_map_left_iff.2 (List.forall₂_map_right_iff.2 (h.imp ?_))), ?_, ?_⟩
  · exact fun _ _ h => h.entry
  · exact congrArg Shape.bracketed (all_eq_of_forall₂ (fun _ _ h => h.isTarget) h)
  · exact all_eq_of_forall₂ (fun _ _ h => h.isValue) h

end DocSite.Script
