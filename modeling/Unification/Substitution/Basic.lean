import Unification.Unifiable
import Unification.VarSet

/-! Substitutions: bindings of variables, the most recent first. A binding is never
removed; a later binding of the same variable hides an earlier one, so at most one binding
of each variable is active.
-/

namespace Unification

/-- A list of bindings, the most recent first. -/
structure Substitution (α : Type) where
  bindings : List (Var × α)

namespace Substitution

variable {α : Type}

/-- The substitution without bindings. -/
def empty : Substitution α :=
  ⟨[]⟩

instance : Inhabited (Substitution α) :=
  ⟨empty⟩

/-- One more binding in front of all others. -/
def extend (substitution : Substitution α) (name : Var) (value : α) : Substitution α :=
  ⟨(name, value) :: substitution.bindings⟩

/-- The substitution with a single binding. -/
def singleton (name : Var) (value : α) : Substitution α :=
  empty.extend name value

/-- The value in the active binding of a variable, which is the most recent one. -/
def lookup? (substitution : Substitution α) (name : Var) : Option α :=
  (substitution.bindings.find? (fun binding => binding.1 == name)).map Prod.snd

/-- The number of bindings, hidden ones included. -/
def size (substitution : Substitution α) : Nat :=
  substitution.bindings.length

/-- Whether there are no bindings. -/
def isEmpty (substitution : Substitution α) : Bool :=
  substitution.bindings.isEmpty

/-- The variables that have a binding. -/
def domain (substitution : Substitution α) : VarSet :=
  VarSet.ofList (substitution.bindings.map Prod.fst)

/-- Without bindings no variable is bound. -/
@[simp] theorem lookup?_empty (name : Var)
    : (empty : Substitution α).lookup? name = none :=
  rfl

/-- A new binding answers for its own variable and hides no other. -/
theorem lookup?_extend (substitution : Substitution α) (added name : Var) (value : α)
    : (substitution.extend added value).lookup? name
      = if added = name then some value else substitution.lookup? name := by
  by_cases same : added = name <;> simp [extend, lookup?, same]

/-- Each binding counts, also one that hides another. -/
@[simp] theorem size_extend (substitution : Substitution α) (name : Var) (value : α)
    : (substitution.extend name value).size = substitution.size + 1 :=
  rfl

/-- The variables of the domain are those with an active binding. -/
theorem mem_domain (substitution : Substitution α) (name : Var)
    : name ∈ substitution.domain ↔ (substitution.lookup? name).isSome = true := by
  simp [domain, lookup?]

end Substitution

end Unification
