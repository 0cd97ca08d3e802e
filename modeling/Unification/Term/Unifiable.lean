import Unification.Term.Equality
import Unification.Unifiable

/-! Terms as unifiable values. The parts of a term are the terms at the places that
substitution can reach, so a suspended value has no parts but itself.
-/

namespace Unification

namespace Term

/-- A suspended value shows itself as an atom that is compared by value. -/
def shape : Term → Shape
  | var name => .unknown name
  | atom value => .atomic value.comparison
  | lazy _ => .atomic .byValue
  | compound tag fields => .compound ⟨tag, fields.length⟩

/-- The field of a compound at an index, if there is one. -/
def field? (term : Term) (index : Nat) : Option Term :=
  term.fields[index]?

mutual

/-- The parts of a term in front of a list. -/
def addParts : Term → List Term → List Term
  | var name, others => var name :: others
  | atom value, others => atom value :: others
  | lazy contents, others => lazy contents :: others
  | compound tag fields, others => compound tag fields :: addFieldParts fields others

/-- The parts of several terms in front of a list. -/
def addFieldParts : List Term → List Term → List Term
  | [], others => others
  | field :: rest, others => addParts field (addFieldParts rest others)

end

/-- The term itself and the parts of its fields, in the order of the text. -/
def parts (term : Term) : List Term :=
  addParts term []

theorem addFieldParts_eq_foldr (fields others : List Term)
    : addFieldParts fields others = fields.foldr addParts others := by
  induction fields with
  | nil => rfl
  | cons field rest ih => rw [addFieldParts, ih, List.foldr_cons]

theorem listsParts : ListsParts fields addParts where
  unfold term others := by
    cases term with
    | var _ | atom _ | lazy _ => rfl
    | compound tag fields => rw [addParts, addFieldParts_eq_foldr]; rfl
  smaller {term field} member := by
    cases term with
    | var _ | atom _ | lazy _ => cases member
    | compound tag fields =>
        have below := List.sizeOf_lt_of_mem (show field ∈ fields from member)
        rw [compound.sizeOf_spec]
        omega

/-- A field at an index is a member of the list of fields. -/
theorem mem_fields_of_field? {term field : Term} {index : Nat}
    (found : term.field? index = some field)
    : field ∈ term.fields :=
  List.mem_of_getElem? found

/-- A copy of a term is the same term; where it has functions, it shares them. -/
instance : FinitelyBuilt Term where
  shape := shape
  field? := field?
  sameObject := sameObject
  sameValue := sameValue
  clone := id
  clone_eq _ := rfl
  parts := parts
  self_mem_parts := listsParts.self_mem
  field_mem_parts member found := listsParts.field_mem member (mem_fields_of_field? found)

end Term

end Unification
