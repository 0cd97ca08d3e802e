import Unification.Var

/-! Finite sets of variables, listed in ascending order of identifier with each variable
once. Insertion into such a list keeps it ascending, so the order is part of the type.
-/

namespace Unification

/-- Insertion into an ascending list drops an equal element and keeps the order. -/
def insertAscending (added : Var) : List Var → List Var
  | [] => [added]
  | head :: tail =>
      if added < head then
        added :: head :: tail
      else if added = head then
        head :: tail
      else
        head :: insertAscending added tail

/-- Insertion adds exactly the inserted variable, by induction on the list. -/
theorem mem_insertAscending (var added : Var) (elements : List Var)
    : var ∈ insertAscending added elements
      ↔ var = added ∨ var ∈ elements := by
  induction elements with
  | nil => simp [insertAscending]
  | cons head tail ih =>
      unfold insertAscending
      split
      · simp
      · split
        next equal => simp [equal]
        next => simp only [List.mem_cons, ih]; exact or_left_comm

/-- Insertion keeps a list ascending, by induction on the list. -/
theorem insertAscending_pairwise (added : Var) (elements : List Var)
    (ascending : elements.Pairwise (· < ·))
    : (insertAscending added elements).Pairwise (· < ·) := by
  induction elements with
  | nil => simp [insertAscending]
  | cons head tail ih =>
      obtain ⟨below, rest⟩ := List.pairwise_cons.mp ascending
      unfold insertAscending
      split
      next less =>
        refine List.pairwise_cons.mpr ⟨?_, ascending⟩
        intro other member
        rcases List.mem_cons.mp member with rfl | member
        · exact less
        · exact Nat.lt_trans less (below other member)
      next notLess =>
        split
        next => exact ascending
        next different =>
          refine List.pairwise_cons.mpr ⟨?_, ih rest⟩
          intro other member
          rcases (mem_insertAscending other added tail).mp member with rfl | member
          · rw [Var.lt_iff] at notLess ⊢
            rw [Var.eq_iff] at different
            omega
          · exact below other member

/-- A finite set of variables, listed in ascending order. -/
structure VarSet where
  toList : List Var
  ascending : toList.Pairwise (· < ·)

namespace VarSet

instance : Membership Var VarSet where
  mem names var := var ∈ names.toList

instance (var : Var) (names : VarSet) : Decidable (var ∈ names) :=
  inferInstanceAs (Decidable (var ∈ names.toList))

/-- The set without elements. -/
def empty : VarSet :=
  ⟨[], List.Pairwise.nil⟩

/-- The set with one more element, unchanged when the element is there already. -/
def insert (var : Var) (names : VarSet) : VarSet :=
  ⟨insertAscending var names.toList,
    insertAscending_pairwise var names.toList names.ascending⟩

/-- The set of the variables in a list, whatever their order and repetitions. -/
def ofList (names : List Var) : VarSet :=
  names.foldr insert empty

/-- The number of distinct variables. -/
def size (names : VarSet) : Nat :=
  names.toList.length

/-- The empty set has no elements. -/
@[simp] theorem not_mem_empty (var : Var) : var ∉ empty :=
  List.not_mem_nil

/-- The elements after an insertion are the inserted one and those from before. -/
@[simp] theorem mem_insert (var added : Var) (names : VarSet)
    : var ∈ insert added names ↔ var = added ∨ var ∈ names :=
  mem_insertAscending var added names.toList

/-- The set of a list has the elements of the list, by induction on the list. -/
@[simp] theorem mem_ofList (var : Var) (names : List Var)
    : var ∈ ofList names ↔ var ∈ names := by
  induction names with
  | nil => simp [ofList]
  | cons head tail ih =>
      rw [List.mem_cons, ← ih]
      exact mem_insert var head (ofList tail)

end VarSet

end Unification
