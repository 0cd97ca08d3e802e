import Unification.Proofs.Growth
import Unification.Proofs.Replacement
import Unification.Term.Unifiable

/-! Resolution under substitutions without cycles. Where no variable depends on itself, the
variables being expanded and the depth that is left do not matter, so a bound variable
resolves as its binding does. A later substitution that keeps the bindings resolves what an
earlier one has left.
-/

namespace Unification

open Relation

namespace Substitution

/-- A variable whose active binding contains another, where substitution can reach it. -/
def Depends (substitution : Substitution Term) (name other : Var) : Prop :=
  ∃ term, substitution.lookup? name = some term ∧ other ∈ term.vars

/-- No variable leads back to itself through the contents of active bindings. -/
def Acyclic (substitution : Substitution Term) : Prop :=
  ∀ name, ¬ TransGen substitution.Depends name name

variable {substitution : Substitution Term}

theorem depends_of_aliases {name other : Var} (link : substitution.Aliases name other)
    : substitution.Depends name other := by
  obtain ⟨term, found, shape⟩ := link
  refine ⟨term, found, ?_⟩
  cases term with
  | var name =>
      cases shape
      simp [Term.mem_vars, Term.occurs]
  | atom _ | lazy _ | compound _ _ => cases shape

/-- Aliases are dependencies, so without cycles there are no cycles of variables either. -/
theorem Acyclic.chainAcyclic (acyclic : substitution.Acyclic) : substitution.ChainAcyclic :=
  fun name cycle =>
    acyclic name (TransGen.mono (fun _ _ => depends_of_aliases) name name cycle)

/-- A substitution has no cycles when some rank of the variables falls from the left of each
binding to the variables on its right.
-/
theorem acyclic_of_rank (rank : Var → Nat)
    (falls
      : ∀ binding ∈ substitution.bindings,
          ∀ other ∈ binding.2.vars.toList, rank other < rank binding.1)
    : substitution.Acyclic := by
  apply no_cycle_of_rank rank
  rintro name other ⟨term, found, member⟩
  exact falls _ (mem_bindings_of_lookup? found) other member

-----------------------------------------------------------------------------------------
-- Resolution as an equation
-----------------------------------------------------------------------------------------

/-- An expansion stops at a variable that is being expanded already or has no binding, or it
goes on to the binding of a further variable.
-/
theorem stops_or_bound (substitution : Substitution Term) (passed : List Var) (name : Var)
    : (name ∈ passed ∨ substitution.lookup? name = none)
      ∨ (name ∉ passed ∧ ∃ bound, substitution.lookup? name = some bound) := by
  by_cases member : name ∈ passed
  · exact .inl (.inl member)
  · cases found : substitution.lookup? name with
    | none => exact .inl (.inr rfl)
    | some bound => exact .inr ⟨member, bound, rfl⟩

/-- A variable that is being expanded already, or that has no binding, stays in place. -/
theorem expand_of_passed_or_unbound {steps : Nat} {passed : List Var} {name : Var}
    (stops : name ∈ passed ∨ substitution.lookup? name = none)
    : substitution.expand steps passed name = .var name := by
  cases steps with
  | zero => rfl
  | succ steps => rcases stops with member | unbound <;> simp [expand, *]

/-- A variable without binding is its own resolution. -/
theorem resolve_of_unbound {name : Var} (unbound : substitution.lookup? name = none)
    : substitution.resolve (.var name) = .var name :=
  expand_of_passed_or_unbound (.inr unbound)

/-- A bound variable that is not being expanded yet is replaced by its expanded binding. -/
theorem expand_succ_of_bound {steps : Nat} {passed : List Var} {name : Var} {bound : Term}
    (fresh : name ∉ passed) (found : substitution.lookup? name = some bound)
    : substitution.expand (steps + 1) passed name
      = bound.replace (substitution.expand steps (name :: passed)) := by
  rw [expand, if_neg fresh, found]

/-- Trails to the same variable expand it alike, whatever they have passed and however many
steps they have left. By induction on the steps: the trails grow by the same dependency,
and neither ends while a bound variable is at hand.
-/
theorem Acyclic.expand_eq (acyclic : substitution.Acyclic) (first second : Nat)
    {passed others : List Var} {name : Var}
    (trail : Trail substitution substitution.Depends first passed name)
    (other : Trail substitution substitution.Depends second others name)
    : substitution.expand first passed name = substitution.expand second others name := by
  induction first generalizing second passed others name with
  | zero =>
      have unbound := trail.unbound acyclic
      cases second with
      | zero => rfl
      | succ second => simp [expand, unbound, other.fresh acyclic]
  | succ first ih =>
      cases found : substitution.lookup? name with
      | none => cases second <;> simp [expand, found, trail.fresh acyclic, other.fresh acyclic]
      | some bound =>
          cases second with
          | zero => simp [other.unbound acyclic] at found
          | succ second =>
              rw [expand_succ_of_bound (trail.fresh acyclic) found,
                expand_succ_of_bound (other.fresh acyclic) found]
              refine bound.replace_congr ?_
              intro next occurs
              have link : substitution.Depends name next :=
                ⟨bound, found, (Term.mem_vars next bound).mpr occurs⟩
              exact ih second (trail.extend acyclic (by simp [found]) link)
                (other.extend acyclic (by simp [found]) link)

theorem Acyclic.expand_of_bound (acyclic : substitution.Acyclic) {steps : Nat}
    {passed : List Var} {name : Var} {bound : Term}
    (trail : Trail substitution substitution.Depends steps passed name)
    (found : substitution.lookup? name = some bound)
    : substitution.expand steps passed name = substitution.resolve bound := by
  cases steps with
  | zero => simp [trail.unbound acyclic] at found
  | succ steps =>
      rw [expand_succ_of_bound (trail.fresh acyclic) found]
      refine bound.replace_congr ?_
      intro next occurs
      have link : substitution.Depends name next :=
        ⟨bound, found, (Term.mem_vars next bound).mpr occurs⟩
      exact acyclic.expand_eq steps substitution.size
        (trail.extend acyclic (by simp [found]) link) (.start _ _ next)

/-- Without cycles a bound variable resolves as its binding does. -/
theorem Acyclic.resolve_var_of_bound (acyclic : substitution.Acyclic) {name : Var}
    {bound : Term} (found : substitution.lookup? name = some bound)
    : substitution.resolve (.var name) = substitution.resolve bound :=
  acyclic.expand_of_bound (.start _ _ name) found

@[simp] theorem resolve_atom (value : Atom)
    : substitution.resolve (.atom value) = .atom value :=
  rfl

@[simp] theorem resolve_lazy (contents : Term)
    : substitution.resolve (.lazy contents) = .lazy contents :=
  rfl

@[simp] theorem resolve_compound (tag : UInt8) (fields : List Term)
    : substitution.resolve (.compound tag fields)
      = .compound tag (fields.map substitution.resolve) := by
  simp only [resolve, Term.replace, Term.replaceAll_eq_map]
  rfl

theorem Acyclic.resolve_of_hop (acyclic : substitution.Acyclic) {term bound : Term}
    (hop : substitution.hop? term = some bound)
    : substitution.resolve term = substitution.resolve bound := by
  cases term with
  | var name => exact acyclic.resolve_var_of_bound hop
  | atom _ | lazy _ | compound _ _ => cases hop

-----------------------------------------------------------------------------------------
-- Numbers, and later bindings
-----------------------------------------------------------------------------------------

theorem nanFree_expand (numeric : substitution.AllBound (Term.nanFree · = true))
    (depth : Nat) (passed : List Var) (name : Var)
    : (substitution.expand depth passed name).nanFree = true := by
  induction depth generalizing passed name with
  | zero => rfl
  | succ depth ih =>
      unfold expand
      split
      next => rfl
      next =>
        split
        next => rfl
        next bound found =>
          exact bound.nanFree_replace (ih (name :: passed)) (numeric name bound found)

/-- Resolution brings in no payload but those of the bindings. -/
theorem nanFree_resolve (numeric : substitution.AllBound (Term.nanFree · = true)) {term : Term}
    (termNumeric : term.nanFree = true)
    : (substitution.resolve term).nanFree = true :=
  term.nanFree_replace (nanFree_expand numeric substitution.size []) termNumeric

/-- What an earlier substitution has expanded, to whatever depth, a later acyclic one
resolves as it would have resolved the variable itself, by induction on the depth.
-/
theorem Acyclic.resolve_expand {earlier later : Substitution Term} (acyclic : later.Acyclic)
    (extended : earlier.ExtendedBy later) (depth : Nat) (passed : List Var) (name : Var)
    : later.resolve (earlier.expand depth passed name) = later.resolve (.var name) := by
  induction depth generalizing passed name with
  | zero => rfl
  | succ depth ih =>
      unfold expand
      split
      next => rfl
      next =>
        split
        next => rfl
        next bound found =>
          rw [acyclic.resolve_var_of_bound (extended name bound found)]
          simp only [resolve, Term.replace_replace] at ih ⊢
          exact bound.replace_congr (fun next _ => ih (name :: passed) next)

/-- A later acyclic substitution that keeps the bindings resolves a resolved term as it
resolves the term.
-/
theorem Acyclic.resolve_resolve {earlier later : Substitution Term} (acyclic : later.Acyclic)
    (extended : earlier.ExtendedBy later) (term : Term)
    : later.resolve (earlier.resolve term) = later.resolve term := by
  have expanded := acyclic.resolve_expand extended earlier.size []
  simp only [resolve, Term.replace_replace] at expanded ⊢
  exact term.replace_congr (fun name _ => expanded name)

end Substitution

end Unification
