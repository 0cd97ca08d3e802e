import Unification.Atom
import Unification.Var

/-! What unification asks of a type of values. Each value shows one of three shapes, its
fields are looked up, atoms are compared, and a variable is bound to a copy of a value;
nothing else of a value is ever used. A type whose values have finitely many parts, and are
the same as their copies, also lists the parts, which bounds how deep a run that ends can
descend.
-/

namespace Unification

/-- The head of a compound: its tag, and the count of fields that it claims to have. -/
structure Head where
  tag : UInt8
  arity : Nat
  deriving DecidableEq

/-- What a value looks like from outside. -/
inductive Shape
  | unknown (name : Var)
  | atomic (comparison : Comparison)
  | compound (head : Head)
  deriving DecidableEq

/-- Values that can be unified. A compound need not have all the fields that its head
claims; the two comparisons are asked for atoms only, by object when both are compared as
objects and by value otherwise. A copy need not be the same value as its original: an object
may have copies that are other objects.
-/
class Unifiable (α : Type) where
  shape : α → Shape
  field? : α → Nat → Option α
  sameObject : α → α → Bool
  sameValue : α → α → Bool
  clone : α → α

/-- Values that cannot be told from their copies, because copies share their objects. -/
class LawfulClone (α : Type) [Unifiable α] : Prop where
  clone_eq : ∀ value : α, Unifiable.clone value = value

attribute [simp] LawfulClone.clone_eq

/-- Unifiable values of which each has finitely many parts: the value itself, its fields,
their fields, and so on. Copies have no other parts, since they are the same values.
-/
class FinitelyBuilt (α : Type) extends Unifiable α, LawfulClone α where
  parts : α → List α
  self_mem_parts : ∀ value, value ∈ parts value
  field_mem_parts : ∀ {value part : α} {index : Nat} {field : α},
    part ∈ parts value → field? part index = some field → field ∈ parts value

-----------------------------------------------------------------------------------------
-- Listing the parts of a value
-----------------------------------------------------------------------------------------

section Parts

variable {α : Type}

/-- A function that puts the parts of a value in front of a list: the value itself, then the
parts of its fields, each of which is smaller than the value.
-/
structure ListsParts [SizeOf α] (fields : α → List α) (addParts : α → List α → List α)
    : Prop where
  unfold : ∀ value others,
    addParts value others = value :: (fields value).foldr addParts others
  smaller : ∀ {value field}, field ∈ fields value → sizeOf field < sizeOf value

namespace ListsParts

variable {fields : α → List α} {addParts : α → List α → List α}

theorem foldr_eq_of_append {values : List α} (others : List α)
    (each : ∀ field ∈ values, ∀ more, addParts field more = addParts field [] ++ more)
    : values.foldr addParts others = values.flatMap (addParts · []) ++ others := by
  induction values with
  | nil => rfl
  | cons field rest ih =>
      rw [List.foldr_cons, each field List.mem_cons_self,
        ih (fun other member => each other (List.mem_cons_of_mem field member)),
        List.flatMap_cons, List.append_assoc]

variable [SizeOf α]

/-- Parts put in front of a list are those of the value alone, then the list, by induction on
the size of the value.
-/
theorem append (lists : ListsParts fields addParts) (value : α) (others : List α)
    : addParts value others = addParts value [] ++ others := by
  have each (field : α) (member : field ∈ fields value) (more : List α)
      : addParts field more = addParts field [] ++ more :=
    have below : sizeOf field < sizeOf value := lists.smaller member
    lists.append field more
  rw [lists.unfold, lists.unfold value [], foldr_eq_of_append others each,
    foldr_eq_of_append [] each, List.append_nil, List.cons_append]
termination_by sizeOf value

/-- The parts of a value are the value and the parts of its fields in order. -/
theorem parts_eq (lists : ListsParts fields addParts) (value : α)
    : addParts value [] = value :: (fields value).flatMap (addParts · []) := by
  rw [lists.unfold, foldr_eq_of_append [] (fun field _ => lists.append field), List.append_nil]

theorem self_mem (lists : ListsParts fields addParts) (value : α)
    : value ∈ addParts value [] := by
  rw [lists.unfold]
  exact List.mem_cons_self

/-- A field of a part of a value is a part of the value, by descent to that part. -/
theorem field_mem (lists : ListsParts fields addParts) {value part field : α}
    (member : part ∈ addParts value []) (within : field ∈ fields part)
    : field ∈ addParts value [] := by
  rw [lists.parts_eq] at member ⊢
  rcases List.mem_cons.mp member with rfl | member
  · exact List.mem_cons_of_mem _ (List.mem_flatMap.mpr ⟨field, within, lists.self_mem field⟩)
  · obtain ⟨inner, innerField, inInner⟩ := List.mem_flatMap.mp member
    have below : sizeOf inner < sizeOf value := lists.smaller innerField
    exact List.mem_cons_of_mem _
      (List.mem_flatMap.mpr ⟨inner, innerField, lists.field_mem inInner within⟩)
termination_by sizeOf value

end ListsParts

end Parts

end Unification
