import Unification.Proofs.Expansion

/-! Dependencies between variables. A term reaches the variables in it and all that these
depend on through the contents of active bindings. A new binding lets its variable reach
what its value reaches, so it closes a cycle exactly when the value reaches the variable.
-/

namespace Unification

open Relation

namespace Term

theorem occursInFields_iff {name : Var} {fields : List Term}
    : occursInFields name fields = true ↔ ∃ field ∈ fields, field.occurs name = true := by
  induction fields with
  | nil => simp [occursInFields]
  | cons field rest ih => simp [occursInFields, ih]

/-- The variables of a field are variables of the compound. -/
theorem vars_of_field? {term field : Term} {index : Nat}
    (found : term.field? index = some field) {name : Var} (member : name ∈ field.vars)
    : name ∈ term.vars := by
  have inFields := mem_fields_of_field? found
  cases term with
  | compound tag fields =>
      rw [mem_vars, occurs, occursInFields_iff]
      exact ⟨field, inFields, (mem_vars name field).mp member⟩
  | var _ | atom _ | lazy _ => cases inFields

end Term

namespace Substitution

variable {start earlier later : Substitution Term} {name : Var} {value : Term}

/-- A variable that is reached from a term: it occurs there, or it is reached from a
variable that does, through the contents of active bindings.
-/
def Reaches (substitution : Substitution Term) (term : Term) (name : Var) : Prop :=
  ∃ first ∈ term.vars, ReflTransGen substitution.Depends first name

/-- After a binding, a variable leads where it did before, or it leads to the bound variable
and on from the contents of its value.
-/
theorem depends_extend {first last : Var}
    (path : TransGen (start.extend name value).Depends first last)
    : TransGen start.Depends first last
      ∨ (ReflTransGen start.Depends first name ∧ start.Reaches value last) := by
  induction path with
  | single link =>
      obtain ⟨bound, found, member⟩ := link
      rw [lookup?_extend] at found
      split at found
      next same =>
        cases found
        exact .inr ⟨same ▸ .refl, _, member, .refl⟩
      next => exact .inl (.single ⟨bound, found, member⟩)
  | tail _ link ih =>
      obtain ⟨bound, found, member⟩ := link
      rw [lookup?_extend] at found
      split at found
      next same =>
        -- the path passes the new binding once more, and only its last passage counts
        subst same
        cases found
        rcases ih with path | ⟨path, _⟩
        · exact .inr ⟨path.to_reflTransGen, _, member, .refl⟩
        · exact .inr ⟨path, _, member, .refl⟩
      next =>
        rcases ih with path | ⟨path, origin, occurs, onward⟩
        · exact .inl (path.tail ⟨bound, found, member⟩)
        · exact .inr ⟨path, origin, occurs, onward.tail ⟨bound, found, member⟩⟩

/-- A binding closes no cycle if its variable is not reached from its value. -/
theorem Acyclic.extend (acyclic : start.Acyclic) (apart : ¬ start.Reaches value name)
    : (start.extend name value).Acyclic := by
  intro first cycle
  rcases depends_extend cycle with path | ⟨toName, origin, occurs, onward⟩
  · exact acyclic first path
  · exact apart ⟨origin, occurs, onward.trans toName⟩

/-- Dependencies stay while bindings stay active. -/
theorem ExtendedBy.depends (extended : earlier.ExtendedBy later) {first second : Var}
    (link : earlier.Depends first second)
    : later.Depends first second := by
  obtain ⟨bound, found, member⟩ := link
  exact ⟨bound, extended first bound found, member⟩

/-- A cycle is not removed while bindings stay active. -/
theorem Acyclic.of_extendedBy (acyclic : later.Acyclic) (extended : earlier.ExtendedBy later)
    : earlier.Acyclic :=
  fun name cycle =>
    acyclic name (TransGen.mono (fun _ _ link => extended.depends link) name name cycle)

/-- A binding of an unbound variable that is reached from its value closes a cycle. -/
theorem Reaches.not_acyclic (reached : start.Reaches value name)
    (unbound : start.lookup? name = none)
    : ¬ (start.extend name value).Acyclic := by
  intro acyclic
  obtain ⟨first, member, path⟩ := reached
  have kept : ReflTransGen (start.extend name value).Depends first name :=
    ReflTransGen.mono (fun _ _ link => (extendedBy_extend unbound value).depends link) _ _ path
  have link : (start.extend name value).Depends name first :=
    ⟨value, lookup?_extend_self start name value, member⟩
  exact acyclic name (TransGen.head' link kept)

/-- A term resolves as its root does. -/
theorem Acyclic.resolve_walk (acyclic : start.Acyclic) (term : Term)
    : start.resolve (start.walk term) = start.resolve term := by
  have path := walk_reaches start term
  generalize start.walk term = root at path
  induction path with
  | refl => rfl
  | tail _ hop ih => exact (acyclic.resolve_of_hop hop).symm.trans ih

end Substitution

end Unification
