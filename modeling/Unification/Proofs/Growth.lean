import Unification.Proofs.Chain
import Unification.Proofs.Derivation
import Unification.Term.Unifiable

/-! How a substitution grows. A binding of an unbound variable to a root keeps every active
binding and closes no cycle of variables; and the values that a run binds are parts of those
that it was given.
-/

namespace Unification

open Relation
open Unifiable (shape field?)

namespace Substitution

variable {α : Type}

/-- Every active binding of the first substitution is active in the second. -/
def ExtendedBy (earlier later : Substitution α) : Prop :=
  ∀ name value, earlier.lookup? name = some value → later.lookup? name = some value

/-- A substitution has its own active bindings. -/
theorem ExtendedBy.refl (substitution : Substitution α)
    : substitution.ExtendedBy substitution :=
  fun _ _ found => found

/-- What stays active twice in a row stays active. -/
theorem ExtendedBy.trans {first second third : Substitution α}
    (left : first.ExtendedBy second) (right : second.ExtendedBy third)
    : first.ExtendedBy third :=
  fun name value found => right name value (left name value found)

/-- A binding of an unbound variable hides no other. -/
theorem extendedBy_extend {substitution : Substitution α} {name : Var}
    (unbound : substitution.lookup? name = none) (value : α)
    : substitution.ExtendedBy (substitution.extend name value) := by
  intro other bound found
  rw [lookup?_extend]
  split
  next same => simp [← same, unbound] at found
  next => exact found

/-- The new binding is active. -/
theorem lookup?_extend_self (substitution : Substitution α) (name : Var) (value : α)
    : (substitution.extend name value).lookup? name = some value := by
  simp [lookup?_extend]

/-- Every value in an active binding has a property. -/
def AllBound (property : α → Prop) (substitution : Substitution α) : Prop :=
  ∀ name value, substitution.lookup? name = some value → property value

theorem allBound_of_bindings {property : α → Prop} {substitution : Substitution α}
    (holds : ∀ binding ∈ substitution.bindings, property binding.2)
    : substitution.AllBound property :=
  fun _ _ found => holds _ (mem_bindings_of_lookup? found)

/-- A property of all bound values is kept by a binding to a further such value. -/
theorem AllBound.extend {property : α → Prop} {substitution : Substitution α}
    (all : substitution.AllBound property) (name : Var) {value : α} (holds : property value)
    : (substitution.extend name value).AllBound property := by
  intro other bound found
  rw [lookup?_extend] at found
  split at found
  next => exact Option.some.inj found ▸ holds
  next => exact all other bound found

variable [Unifiable α] {substitution : Substitution α}

/-- Hops stay hops while bindings stay active. -/
theorem ExtendedBy.hop? {earlier later : Substitution α} (extended : earlier.ExtendedBy later)
    {value bound : α} (hop : earlier.hop? value = some bound)
    : later.hop? value = some bound := by
  obtain ⟨name, shape, found⟩ := hop?_eq_some_iff.mp hop
  exact hop?_eq_some_iff.mpr ⟨name, shape, extended name bound found⟩

/-- The values that hops lead to share a property of all bound values. -/
theorem AllBound.of_hops {property : α → Prop} (all : substitution.AllBound property)
    {value root : α} (path : ReflTransGen substitution.Hops value root)
    (holds : property value)
    : property root := by
  induction path with
  | refl => exact holds
  | tail _ hop _ =>
      obtain ⟨name, _, found⟩ := hop?_eq_some_iff.mp hop
      exact all name _ found

/-- The root of a value shares a property of all bound values. -/
theorem AllBound.walk {property : α → Prop} (all : substitution.AllBound property) {value : α}
    (holds : property value)
    : property (substitution.walk value) :=
  all.of_hops (walk_reaches substitution value) holds

/-- An alias of a new binding is that binding or an alias from before. -/
theorem aliases_extend {name other target : Var} {value : α}
    (link : (substitution.extend name value).Aliases other target)
    : (other = name ∧ shape value = .unknown target) ∨ substitution.Aliases other target := by
  obtain ⟨bound, found, boundShape⟩ := link
  rw [lookup?_extend] at found
  split at found
  next same => exact .inl ⟨same.symm, Option.some.inj found ▸ boundShape⟩
  next => exact .inr ⟨bound, found, boundShape⟩

/-- A variable that leads anywhere is bound. -/
theorem not_leads_of_unbound {name other : Var} (unbound : substitution.lookup? name = none)
    : ¬ TransGen substitution.Aliases name other := by
  intro path
  obtain ⟨next, ⟨value, found, _⟩, _⟩ := TransGen.head'_iff.mp path
  simp [unbound] at found

theorem chainAcyclic_empty : (empty : Substitution α).ChainAcyclic :=
  fun name => not_leads_of_unbound (lookup?_empty name)

/-- A path along aliases after a new binding avoids that binding or ends with it: where the
value of the new binding starts no hop, no path goes on from there.
-/
theorem leads_extend {name first last : Var} {value : α}
    (ends : substitution.hop? value = none) (other : shape value ≠ .unknown name)
    (path : TransGen (substitution.extend name value).Aliases first last)
    : TransGen substitution.Aliases first last
      ∨ (shape value = .unknown last
        ∧ (first = name ∨ TransGen substitution.Aliases first name)) := by
  induction path with
  | single link =>
      rcases aliases_extend link with ⟨same, last⟩ | earlier
      · exact .inr ⟨last, .inl same⟩
      · exact .inl (.single earlier)
  | tail _ link ih =>
      rcases aliases_extend link with ⟨rfl, last⟩ | earlier
      · rcases ih with path | ⟨atNew, _⟩
        · exact .inr ⟨last, .inr path⟩
        · exact (other atNew).elim
      · rcases ih with path | ⟨atNew, _⟩
        · exact .inl (path.tail earlier)
        · have unbound := (hop?_of_unknown atNew).symm.trans ends
          exact (not_leads_of_unbound unbound (.single earlier)).elim

/-- Binding an unbound variable to another unbound variable, or to a value that is none,
closes no cycle: a path through the new binding ends at an unbound variable.
-/
theorem ChainAcyclic.extend (acyclic : substitution.ChainAcyclic) {name : Var} {value : α}
    (ends : substitution.hop? value = none) (other : shape value ≠ .unknown name)
    : (substitution.extend name value).ChainAcyclic := by
  intro first cycle
  rcases leads_extend ends other cycle with path | ⟨atNew, rfl | path⟩
  · exact acyclic first path
  · exact other atNew
  · exact not_leads_of_unbound ((hop?_of_unknown atNew).symm.trans ends) path

end Substitution

variable {α : Type} [Unifiable α]

/-- A property passes from a value to its fields. -/
def Hereditary (property : α → Prop) : Prop :=
  ∀ value index field, property value → field? value index = some field → property field

/-- Only compounds have fields, so a property of terms passes to them if a compound has it
only together with all its fields.
-/
theorem Term.hereditary_of_compounds {property : Term → Prop}
    (ofCompound
      : ∀ tag fields, property (.compound tag fields) → ∀ field ∈ fields, property field)
    : Hereditary property := by
  intro term index field holds found
  cases term with
  | compound tag fields => exact ofCompound tag fields holds field (mem_fields_of_field? found)
  | var _ | atom _ | lazy _ => cases found

/-- The fields of a part of the given values are parts of them, as are the given values and
all values bound at the start.
-/
theorem allParts_hereditary {β : Type} [FinitelyBuilt β] (left right : β)
    (start : Substitution β)
    : Hereditary (· ∈ allParts left right start) := by
  intro value index field member found
  simp only [allParts, List.mem_append, List.mem_flatMap] at member ⊢
  rcases member with (atLeft | atRight) | ⟨binding, bound, part⟩
  · exact .inl (.inl (FinitelyBuilt.field_mem_parts atLeft found))
  · exact .inl (.inr (FinitelyBuilt.field_mem_parts atRight found))
  · exact .inr ⟨binding, bound, FinitelyBuilt.field_mem_parts part found⟩

theorem left_mem_allParts {β : Type} [FinitelyBuilt β] (left right : β)
    (start : Substitution β)
    : left ∈ allParts left right start := by
  simp [allParts, FinitelyBuilt.self_mem_parts]

theorem right_mem_allParts {β : Type} [FinitelyBuilt β] (left right : β)
    (start : Substitution β)
    : right ∈ allParts left right start := by
  simp [allParts, FinitelyBuilt.self_mem_parts]

theorem allBound_allParts {β : Type} [FinitelyBuilt β] (left right : β)
    (start : Substitution β)
    : start.AllBound (· ∈ allParts left right start) := by
  refine Substitution.allBound_of_bindings ?_
  intro binding member
  simp only [allParts, List.mem_append, List.mem_flatMap]
  exact .inr ⟨binding, member, FinitelyBuilt.self_mem_parts binding.2⟩

/-- Both values of a goal have a property. -/
def Goal.Within (property : α → Prop) : Goal α → Prop
  | .pair left right => property left ∧ property right
  | .roots left right => property left ∧ property right
  | .fields _ left right _ _ => property left ∧ property right

/-- A property that passes to fields holds of all values that a run binds, if it holds of
the given ones, by induction on the derivation.
-/
theorem Settles.allBound [LawfulClone α] {property : α → Prop}
    (hereditary : Hereditary property) {config : Config} {goal : Goal α} {depth : Nat}
    {start result : Substitution α} {run : Run α}
    (settled : Settles config goal depth start run) (succeeded : run.answer = .ok result)
    (all : start.AllBound property) (within : goal.Within property)
    : result.AllBound property := by
  induction settled generalizing result with
  | refused | clashed | lacking => cases succeeded
  | same | matched | finished =>
      cases succeeded
      exact all
  | walked _ _ ih => exact ih succeeded all ⟨all.walk within.1, all.walk within.2⟩
  | boundLeft =>
      cases succeeded
      rw [LawfulClone.clone_eq]
      exact all.extend _ within.2
  | boundRight =>
      cases succeeded
      rw [LawfulClone.clone_eq]
      exact all.extend _ within.1
  | descended _ _ _ ih => exact ih succeeded all within
  | stopped _ _ _ failed => simp [failed] at succeeded
  | advanced leftField rightField _ reached _ pairIH restIH =>
      have first := pairIH reached all
        ⟨hereditary _ _ _ within.1 leftField, hereditary _ _ _ within.2 rightField⟩
      exact restIH succeeded first within

end Unification
