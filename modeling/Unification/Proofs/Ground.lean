import Unification.Proofs.Expansion

/-! Ground terms. A replacement leaves them alone, and it makes a ground term of another
one exactly when it puts ground terms in place of all variables that occur. Bindings to
ground terms lead on to no variable, so they close no cycle.
-/

namespace Unification

open Relation

namespace Term

theorem areGround_iff (fields : List Term)
    : areGround fields = true ↔ ∀ field ∈ fields, field.isGround = true := by
  induction fields with
  | nil => simp [areGround]
  | cons field rest ih => simp [areGround, ih]

theorem areGround_eq_all (fields : List Term) : areGround fields = fields.all isGround := by
  rw [Bool.eq_iff_iff, areGround_iff, List.all_eq_true]

mutual

/-- A replacement leads to a ground term exactly when it replaces each occurring variable
by one, by descent into the term.
-/
theorem isGround_replace_iff (term : Term) (assigned : Var → Term)
    : (term.replace assigned).isGround = true
      ↔ ∀ name, term.occurs name = true → (assigned name).isGround = true := by
  cases term with
  | var name => simp [replace, occurs]
  | atom _ | lazy _ => simp [replace, isGround, occurs]
  | compound tag fields => exact areGround_replaceAll_iff fields assigned

/-- The same of several terms, in which a variable occurs when it occurs in one of them. -/
theorem areGround_replaceAll_iff (fields : List Term) (assigned : Var → Term)
    : areGround (replaceAll assigned fields) = true
      ↔ ∀ name, occursInFields name fields = true → (assigned name).isGround = true := by
  cases fields with
  | nil => simp [replaceAll, areGround, occursInFields]
  | cons field rest =>
      simp only [replaceAll, areGround, occursInFields, Bool.and_eq_true, Bool.or_eq_true,
        isGround_replace_iff field, areGround_replaceAll_iff rest, or_imp, forall_and]

end

mutual

/-- A term stays the same when each variable is replaced by itself. -/
theorem replace_var (term : Term) : term.replace var = term := by
  cases term with
  | var _ | atom _ | lazy _ => rfl
  | compound tag fields => simp only [replace, replaceAll_var fields]

/-- Several terms stay the same when each variable is replaced by itself. -/
theorem replaceAll_var (fields : List Term) : replaceAll var fields = fields := by
  cases fields with
  | nil => rfl
  | cons field rest => simp only [replaceAll, replace_var field, replaceAll_var rest]

end

/-- A term is ground exactly when no variable occurs in it. -/
theorem isGround_iff (term : Term)
    : term.isGround = true ↔ ∀ name, term.occurs name = false := by
  have replaced := isGround_replace_iff term var
  rw [replace_var] at replaced
  simpa [isGround] using replaced

theorem replace_of_isGround {term : Term} (ground : term.isGround = true)
    (assigned : Var → Term)
    : term.replace assigned = term := by
  have unoccurring := (isGround_iff term).mp ground
  calc
    term.replace assigned
    _ = term.replace var :=
        term.replace_congr (fun name occurs => by simp [unoccurring] at occurs)
    _ = term := replace_var term

theorem isGround_hereditary : Hereditary (Term.isGround · = true) :=
  hereditary_of_compounds (fun _ fields => (areGround_iff fields).mp)

theorem known_of_isGround {term : Term} (ground : term.isGround = true) : Known term := by
  intro name termShape
  cases term with
  | var _ => cases ground
  | atom _ | lazy _ | compound _ _ => cases termShape

end Term

namespace Substitution

variable {substitution : Substitution Term}

theorem resolve_of_isGround {term : Term} (ground : term.isGround = true)
    : substitution.resolve term = term :=
  Term.replace_of_isGround ground _

/-- Without variables in the bound terms, no variable depends on any. -/
theorem acyclic_of_ground (bound : substitution.AllBound (Term.isGround · = true))
    : substitution.Acyclic := by
  intro name cycle
  obtain ⟨other, ⟨term, found, member⟩, _⟩ := TransGen.head'_iff.mp cycle
  have occurs := (Term.mem_vars other term).mp member
  rw [(Term.isGround_iff term).mp (bound name term found) other] at occurs
  cases occurs

end Substitution

end Unification
