import Unification.Atom
import Unification.VarSet

/-! Terms: variables, atoms, suspended values and compounds. A compound has a small tag
and any number of fields. A suspended value counts as an atom: its contents are hidden
from substitution, so the variables inside it are not variables of the term.
-/

namespace Unification

/-- A first-order term. -/
inductive Term
  | var (name : Var)
  | atom (atom : Atom)
  | lazy (contents : Term)
  | compound (tag : UInt8) (fields : List Term)

instance : Inhabited Term :=
  ⟨.atom .unit⟩

namespace Term

/-- A tuple or record is a compound with tag zero. -/
def tuple (fields : List Term) : Term :=
  compound 0 fields

/-- A constructor without fields is its index, as an integer. -/
def constant (index : Int64) : Term :=
  atom (.int index)

/-- The empty list is the constant zero. -/
def nil : Term :=
  constant 0

/-- A list cell is a pair of the head and the tail. -/
def cons (head tail : Term) : Term :=
  compound 0 [head, tail]

/-- The list with the given elements in their order. -/
def ofList (elements : List Term) : Term :=
  elements.foldr cons nil

/-- An absent value is the constant zero, a present one a compound with a single field. -/
def ofOption : Option Term → Term
  | none => constant 0
  | some value => compound 0 [value]

/-- The tag of a compound. -/
def tag? : Term → Option UInt8
  | compound tag _ => some tag
  | _ => none

/-- The fields of a compound. No other term has fields. -/
def fields : Term → List Term
  | compound _ fields => fields
  | _ => []

/-- The variable that a term is, if it is one. -/
def var? : Term → Option Var
  | var name => some name
  | _ => none

/-- Whether a term is a variable. -/
def isVariable (term : Term) : Bool :=
  term.var?.isSome

/-- How far the first of two variables lies ahead of the second. -/
def lead? : Term → Term → Option Int64
  | var first, var second => some (first.lead second)
  | _, _ => none

mutual

/-- Whether a variable occurs at a place that substitution can reach. -/
def occurs (sought : Var) : Term → Bool
  | var name => name == sought
  | atom _ => false
  | lazy _ => false
  | compound _ fields => occursInFields sought fields

/-- Whether a variable occurs in one of several terms. -/
def occursInFields (sought : Var) : List Term → Bool
  | [] => false
  | field :: rest => occurs sought field || occursInFields sought rest

end

mutual

/-- Whether no variable occurs at all. -/
def isGround : Term → Bool
  | var _ => false
  | atom _ => true
  | lazy _ => true
  | compound _ fields => areGround fields

/-- Whether no variable occurs in any of several terms. -/
def areGround : List Term → Bool
  | [] => true
  | field :: rest => isGround field && areGround rest

end

mutual

/-- A set of variables together with those of a term. -/
def addVariables : Term → VarSet → VarSet
  | var name, found => VarSet.insert name found
  | atom _, found => found
  | lazy _, found => found
  | compound _ fields, found => addFieldVariables fields found

/-- A set of variables together with those of several terms. -/
def addFieldVariables : List Term → VarSet → VarSet
  | [], found => found
  | field :: rest, found => addFieldVariables rest (addVariables field found)

end

/-- The variables of a term, in ascending order. -/
def vars (term : Term) : VarSet :=
  addVariables term VarSet.empty

mutual

/-- Adding the variables of a term to a set adds exactly those that occur in it. -/
theorem mem_addVariables (sought : Var) (term : Term) (found : VarSet)
    : sought ∈ addVariables term found ↔ term.occurs sought = true ∨ sought ∈ found := by
  cases term with
  | var name =>
      simp only [addVariables, occurs, VarSet.mem_insert, beq_iff_eq]
      rw [eq_comm]
  | atom _ => simp [addVariables, occurs]
  | lazy _ => simp [addVariables, occurs]
  | compound _ fields =>
      simpa [addVariables, occurs] using mem_addFieldVariables sought fields found

/-- Adding the variables of several terms to a set adds exactly those that occur there. -/
theorem mem_addFieldVariables (sought : Var) (fields : List Term) (found : VarSet)
    : sought ∈ addFieldVariables fields found
      ↔ occursInFields sought fields = true ∨ sought ∈ found := by
  cases fields with
  | nil => simp [addFieldVariables, occursInFields]
  | cons field rest =>
      simp only [addFieldVariables, occursInFields, Bool.or_eq_true]
      rw [mem_addFieldVariables sought rest, mem_addVariables sought field, or_left_comm,
        or_assoc]

end

/-- The variables of a term are those that occur in it. -/
theorem mem_vars (sought : Var) (term : Term)
    : sought ∈ term.vars ↔ term.occurs sought = true := by
  simp [vars, mem_addVariables]

end Term

end Unification
