import Unification.Unifiable

/-! Symbol trees: a second type of unifiable values. Leaves are variables and texts; a
text is a symbol, compared by value without regard to the case of ASCII letters, or an
identity, compared as an object letter by letter. A compound claims an arity of its own,
and may have more or fewer fields than that.
-/

namespace Unification

/-- A tree of texts and variables. -/
inductive SymbolTree
  | var (name : Var)
  | symbol (text : String)
  | identity (text : String)
  | compound (head : Head) (fields : List SymbolTree)

instance : Inhabited SymbolTree :=
  ⟨.symbol ""⟩

namespace SymbolTree

/-- Symbols are compared by value, identities as objects. -/
def shape : SymbolTree → Shape
  | var name => .unknown name
  | symbol _ => .atomic .byValue
  | identity _ => .atomic .byObject
  | compound head _ => .compound head

/-- The fields that are there, whatever the head claims. -/
def fields : SymbolTree → List SymbolTree
  | compound _ fields => fields
  | _ => []

/-- The field at an index, if it is there. -/
def field? (tree : SymbolTree) (index : Nat) : Option SymbolTree :=
  tree.fields[index]?

/-- The text of a leaf of either kind. -/
def text? : SymbolTree → Option String
  | symbol text => some text
  | identity text => some text
  | _ => none

/-- Two identities with the same text. -/
def sameObject : SymbolTree → SymbolTree → Bool
  | identity first, identity second => first == second
  | _, _ => false

/-- Two leaves of any kind whose texts differ in the case of ASCII letters at most. -/
def sameValue (first second : SymbolTree) : Bool :=
  match first.text?, second.text? with
  | some left, some right => left.toLower == right.toLower
  | _, _ => false

mutual

/-- The parts of a tree in front of a list. -/
def addParts : SymbolTree → List SymbolTree → List SymbolTree
  | var name, others => var name :: others
  | symbol text, others => symbol text :: others
  | identity text, others => identity text :: others
  | compound head fields, others => compound head fields :: addFieldParts fields others

/-- The parts of several trees in front of a list. -/
def addFieldParts : List SymbolTree → List SymbolTree → List SymbolTree
  | [], others => others
  | field :: rest, others => addParts field (addFieldParts rest others)

end

/-- The tree itself and the parts of its fields, in the order of the text. -/
def parts (tree : SymbolTree) : List SymbolTree :=
  addParts tree []

theorem addFieldParts_eq_foldr (fields others : List SymbolTree)
    : addFieldParts fields others = fields.foldr addParts others := by
  induction fields with
  | nil => rfl
  | cons field rest ih => rw [addFieldParts, ih, List.foldr_cons]

theorem listsParts : ListsParts fields addParts where
  unfold tree others := by
    cases tree with
    | var _ | symbol _ | identity _ => rfl
    | compound head fields => rw [addParts, addFieldParts_eq_foldr]; rfl
  smaller {tree field} member := by
    cases tree with
    | var _ | symbol _ | identity _ => cases member
    | compound head fields =>
        have below := List.sizeOf_lt_of_mem (show field ∈ fields from member)
        rw [compound.sizeOf_spec]
        omega

/-- A copy of a tree is the same tree, texts being compared letter by letter at most. -/
instance : FinitelyBuilt SymbolTree where
  shape := shape
  field? := field?
  sameObject := sameObject
  sameValue := sameValue
  clone := id
  clone_eq _ := rfl
  parts := parts
  self_mem_parts := listsParts.self_mem
  field_mem_parts member found := listsParts.field_mem member (List.mem_of_getElem? found)

end SymbolTree

end Unification
