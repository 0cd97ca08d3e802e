import Unification.Substitution.Basic

/-! Following bindings at the root of a value. A walk ends at a value that is no variable,
or at a variable without binding; on a cycle of variables it ends after as many hops as
there are bindings, which is never too few for a chain that ends by itself.
-/

namespace Unification

namespace Substitution

variable {α : Type} [Unifiable α]

/-- The value that a variable at the root is bound to, if the root is a bound variable. -/
def hop? (substitution : Substitution α) (value : α) : Option α :=
  match Unifiable.shape value with
  | .unknown name => substitution.lookup? name
  | _ => none

/-- A walk of at most the given number of hops. -/
def follow (substitution : Substitution α) : Nat → α → α
  | 0, value => value
  | hops + 1, value =>
      match substitution.hop? value with
      | some bound => follow substitution hops bound
      | none => value

/-- A walk takes at most one hop for each binding. -/
def walk (substitution : Substitution α) (value : α) : α :=
  substitution.follow substitution.size value

/-- Without bindings nothing is followed. -/
@[simp] theorem walk_empty (value : α) : (empty : Substitution α).walk value = value :=
  rfl

end Substitution

end Unification
