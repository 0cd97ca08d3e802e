import Unification.Proofs.Expansion
import Unification.Proofs.LevelBound
import Unification.Proofs.Solution

/-! Unification on top of bindings. A substitution without cycles can be applied to the two
terms beforehand instead: the run on the resolved terms descends in step with the run on top
of the substitution, and makes the same bindings with their terms resolved. The new bindings
may well be circular.
-/

namespace Unification

open Relation
open Unifiable (shape field?)
open Term (var atom compound)

-----------------------------------------------------------------------------------------
-- Resolution at the root of a term
-----------------------------------------------------------------------------------------

namespace Substitution

variable {base : Substitution Term}

/-- Resolution leaves the root of a term that is no variable. -/
theorem shape_resolve (base : Substitution Term) {term : Term} (known : Known term)
    : shape (base.resolve term) = shape term := by
  cases term with
  | var name => exact (known name rfl).elim
  | atom _ | lazy _ => rfl
  | compound tag fields =>
      rw [resolve_compound]
      exact congrArg (fun arity => Shape.compound ⟨tag, arity⟩) (List.length_map _)

theorem known_resolve {term : Term} (known : Known term) : Known (base.resolve term) := by
  intro name
  rw [shape_resolve base known]
  exact known name

theorem resolve_of_isLeaf {term : Term} (leaf : term.IsLeaf) : base.resolve term = term := by
  rcases leaf.eq_atom_or_lazy with ⟨_, rfl⟩ | ⟨_, rfl⟩ <;> rfl

/-- The fields of a resolved compound are its fields, resolved. -/
theorem field?_resolve (base : Substitution Term) {term : Term} (known : Known term)
    (index : Nat)
    : field? (base.resolve term) index = (field? term index).map base.resolve := by
  cases term with
  | var name => exact (known name rfl).elim
  | atom _ | lazy _ => rfl
  | compound tag fields =>
      rw [resolve_compound]
      exact List.getElem?_map

end Substitution

variable {base : Substitution Term} {left right : Term}

theorem Matches.resolve (matching : Matches left right)
    : Matches (base.resolve left) (base.resolve right) := by
  have leaves : left.IsLeaf ∧ right.IsLeaf := by
    cases matching with
    | object leftShape rightShape | value leftShape rightShape =>
        exact ⟨⟨_, leftShape⟩, ⟨_, rightShape⟩⟩
  rwa [Substitution.resolve_of_isLeaf leaves.1, Substitution.resolve_of_isLeaf leaves.2]

theorem Clash.resolve {failure : Failure} (clash : Clash left right failure)
    (leftKnown : Known left) (rightKnown : Known right)
    : Clash (base.resolve left) (base.resolve right) failure := by
  have leftSame := Substitution.shape_resolve base leftKnown
  have rightSame := Substitution.shape_resolve base rightKnown
  cases clash with
  | heads leftShape rightShape different =>
      exact .heads (leftSame.trans leftShape) (rightSame.trans rightShape) different
  | objects leftShape rightShape different =>
      rw [Substitution.resolve_of_isLeaf ⟨_, leftShape⟩,
        Substitution.resolve_of_isLeaf ⟨_, rightShape⟩]
      exact .objects leftShape rightShape different
  | values leftShape rightShape notObjects different =>
      rw [Substitution.resolve_of_isLeaf ⟨_, leftShape⟩,
        Substitution.resolve_of_isLeaf ⟨_, rightShape⟩]
      exact .values leftShape rightShape notObjects different
  | compoundAtom leftShape rightShape =>
      exact .compoundAtom (leftSame.trans leftShape) (rightSame.trans rightShape)
  | atomCompound leftShape rightShape =>
      exact .atomCompound (leftSame.trans leftShape) (rightSame.trans rightShape)

-----------------------------------------------------------------------------------------
-- Bindings on top of a substitution, and the same bindings resolved
-----------------------------------------------------------------------------------------

/-- One substitution has new bindings on top of a base, the other has the same bindings
alone with their terms resolved by the base. The new bindings concern variables that the
base does not bind.
-/
structure Layered (base : Substitution Term) (added : List (Var × Term))
    (upper flat : Substitution Term)
    : Prop where
  layers : upper.bindings = added ++ base.bindings
  resolved : flat.bindings = added.map (fun binding => (binding.1, base.resolve binding.2))
  unbound : ∀ binding ∈ added, base.lookup? binding.1 = none
  chains : upper.ChainAcyclic

namespace Layered

variable {added : List (Var × Term)} {upper flat : Substitution Term}

theorem start (chains : base.ChainAcyclic) : Layered base [] base .empty where
  layers := rfl
  resolved := rfl
  unbound := by simp
  chains := chains

/-- A binding of a root to another root, and the same binding resolved, come on top. -/
theorem extend (layered : Layered base added upper flat) {name : Var} {value : Term}
    (unbound : upper.lookup? name = none) (root : upper.hop? value = none)
    (apart : shape value ≠ .unknown name)
    : Layered base ((name, value) :: added) (upper.extend name value)
        (flat.extend name (base.resolve value)) where
  layers := congrArg ((name, value) :: ·) layered.layers
  resolved := congrArg ((name, base.resolve value) :: ·) layered.resolved
  unbound := by
    refine List.forall_mem_cons.mpr ⟨?_, layered.unbound⟩
    rw [← Option.not_isSome_iff_eq_none, Substitution.lookup?_isSome_iff] at unbound ⊢
    rw [layered.layers, List.map_append, List.mem_append, not_or] at unbound
    exact unbound.2
  chains := layered.chains.extend root apart

/-- A variable has a new binding, whose term is resolved in the other substitution, or it
has the binding that it has in the base, if any, and none in the other substitution.
-/
theorem lookup?_cases (layered : Layered base added upper flat) (name : Var)
    : (∃ value,
        upper.lookup? name = some value
        ∧ flat.lookup? name = some (base.resolve value)
        ∧ base.lookup? name = none)
      ∨ (upper.lookup? name = base.lookup? name ∧ flat.lookup? name = none) := by
  have sameTest
      : (fun binding : Var × Term => binding.1 == name)
            ∘ (fun binding : Var × Term => (binding.1, base.resolve binding.2))
        = fun binding : Var × Term => binding.1 == name :=
    rfl
  unfold Substitution.lookup?
  rw [layered.layers, layered.resolved, List.find?_append, List.find?_map, sameTest]
  cases found : added.find? (fun binding => binding.1 == name) with
  | none => exact .inr ⟨rfl, rfl⟩
  | some binding =>
      have same : binding.1 = name := by simpa using List.find?_some found
      have unbound := layered.unbound binding (List.mem_of_find?_eq_some found)
      exact .inl ⟨binding.2, rfl, rfl, same ▸ unbound⟩

/-- Each hop on top of the base is a hop between the resolved terms, or these are the same
term.
-/
theorem hops_resolve (layered : Layered base added upper flat) (acyclic : base.Acyclic)
    {term root : Term} (path : ReflTransGen upper.Hops term root)
    : ReflTransGen flat.Hops (base.resolve term) (base.resolve root) := by
  induction path with
  | refl => exact .refl
  | @tail middle bound _ hop ih =>
      obtain ⟨name, middleShape, found⟩ := Substitution.hop?_eq_some_iff.mp hop
      obtain rfl := Term.eq_var_of_shape middleShape
      rcases layered.lookup?_cases name with ⟨value, again, resolved, unbound⟩ | ⟨below, _⟩
      -- a hop along a new binding is one between resolved terms, a hop in the base is none
      · cases found.symm.trans again
        rw [Substitution.resolve_of_unbound unbound] at ih
        exact ih.tail resolved
      · rwa [← acyclic.resolve_var_of_bound (below.symm.trans found)]

/-- A root on top of the base is one after resolution. -/
theorem hop?_resolve (layered : Layered base added upper flat) {root : Term}
    (ends : upper.hop? root = none)
    : flat.hop? (base.resolve root) = none := by
  by_cases known : Known root
  · exact Substitution.hop?_of_known (Substitution.known_resolve known)
  · obtain ⟨name, rootShape⟩ := exists_unknown_of_not_known known
    rw [Substitution.hop?_of_unknown rootShape] at ends
    rw [Term.eq_var_of_shape rootShape]
    rcases layered.lookup?_cases name with ⟨value, found, _, _⟩ | ⟨below, absent⟩
    · simp [found] at ends
    · rw [Substitution.resolve_of_unbound (below.symm.trans ends)]
      exact absent

/-- The walk of a resolved term ends at the resolved end of the walk on top of the base. -/
theorem walk_resolve (layered : Layered base added upper flat) (acyclic : base.Acyclic)
    (term : Term)
    : flat.walk (base.resolve term) = base.resolve (upper.walk term) :=
  Substitution.walk_eq_of_hops
    (layered.hops_resolve acyclic (Substitution.walk_reaches upper term))
    (layered.hop?_resolve (layered.chains.hop?_walk term))

/-- An unbound variable at a root is left in place by the base. -/
theorem shape_resolve_walk (layered : Layered base added upper flat) {term : Term} {name : Var}
    (rootShape : shape (upper.walk term) = .unknown name)
    : base.resolve (upper.walk term) = var name := by
  have ends := layered.chains.lookup?_walk rootShape
  rw [Term.eq_var_of_shape rootShape]
  rcases layered.lookup?_cases name with ⟨value, found, _, _⟩ | ⟨below, _⟩
  · simp [found] at ends
  · exact Substitution.resolve_of_unbound (below.symm.trans ends)

end Layered

/-- A step on top of the base and the step on the resolved terms make the same binding, fail
alike, or descend to the same fields.
-/
theorem layering_simulation (acyclic : base.Acyclic)
    : Simulation (fun upper flat => ∃ added, Layered base added upper flat)
        (fun left right left' right' => left' = base.resolve left ∧ right' = base.resolve right)
        Eq where
  roots := by
    rintro upper flat left right _ _ ⟨added, layered⟩ ⟨rfl, rfl⟩
    rw [layered.walk_resolve acyclic, layered.walk_resolve acyclic]
    have ends (term : Term) := layered.chains.hop?_walk term
    by_cases leftKnown : Known (upper.walk left)
    · by_cases rightKnown : Known (upper.walk right)
      · rcases matches_or_clash_or_compounds leftKnown rightKnown with
          matching | ⟨failure, clash⟩ | ⟨head, leftShape, rightShape⟩
        · exact .succeeded (.matched matching) (.matched matching.resolve) ⟨added, layered⟩
        · exact .failed (.clashed clash) (.clashed (clash.resolve leftKnown rightKnown)) rfl
        · apply RootsCorrespond.descended leftShape rightShape
            ((Substitution.shape_resolve base leftKnown).trans leftShape)
            ((Substitution.shape_resolve base rightKnown).trans rightShape) rfl rfl
          intro index _
          have leftFields := Substitution.field?_resolve base leftKnown index
          have rightFields := Substitution.field?_resolve base rightKnown index
          rcases exists_fields_or_lacking (upper.walk left) (upper.walk right) index with
            ⟨first, second, leftField, rightField⟩ | absent
          · rw [leftField] at leftFields
            rw [rightField] at rightFields
            exact .present leftField rightField leftFields rightFields ⟨rfl, rfl⟩
          · apply FieldsCorrespond.lacking absent
            rwa [leftFields, rightFields, Option.map_eq_none_iff, Option.map_eq_none_iff]
      · obtain ⟨name, rightShape⟩ := exists_unknown_of_not_known rightKnown
        rw [layered.shape_resolve_walk rightShape]
        refine .succeeded (.boundRight leftKnown rightShape)
          (.boundRight (Substitution.known_resolve leftKnown) rfl) ⟨_, layered.extend ?_ ?_ ?_⟩
        · exact layered.chains.lookup?_walk rightShape
        · exact ends left
        · exact leftKnown name
    · obtain ⟨name, leftShape⟩ := exists_unknown_of_not_known leftKnown
      have unbound := layered.chains.lookup?_walk leftShape
      rw [layered.shape_resolve_walk leftShape]
      by_cases same : shape (upper.walk right) = .unknown name
      · rw [layered.shape_resolve_walk same]
        exact .succeeded (.same leftShape same) (.same rfl rfl) ⟨added, layered⟩
      · have apart : shape (base.resolve (upper.walk right)) ≠ .unknown name := by
          by_cases rightKnown : Known (upper.walk right)
          · exact Substitution.known_resolve rightKnown name
          · obtain ⟨other, rightShape⟩ := exists_unknown_of_not_known rightKnown
            rw [layered.shape_resolve_walk rightShape]
            exact fun equal => same (rightShape.trans equal)
        exact .succeeded (.boundLeft leftShape same) (.boundLeft rfl apart)
          ⟨_, layered.extend unbound (ends right) same⟩

/-- On top of a substitution without cycles, a call agrees under every setting with the call
on the resolved terms alone: neither returns, both fail with the same failure, or both
succeed. Then the first puts new bindings in front of the substitution, and the second
consists of bindings of the same variables in the same order, each to the resolved term.
-/
theorem unifyWith_agrees_resolved (config : Config) (left right : Term)
    (start : Substitution Term) (acyclic : start.Acyclic)
    : RunsAgree
        (fun result other =>
          ∃ added : List (Var × Term),
            result.bindings = added ++ start.bindings
            ∧ other.bindings
              = added.map (fun binding => (binding.1, start.resolve binding.2)))
        Eq (unifyWith config left right start)
        (unify config (start.resolve left) (start.resolve right)) := by
  have agree := (layering_simulation acyclic).unifyWith_agree config.refusals_agree
    ⟨[], .start acyclic.chainAcyclic⟩
    (And.intro (Eq.refl (start.resolve left)) (Eq.refl (start.resolve right)))
  apply agree.mono
  rintro result other ⟨added, layered⟩
  exact ⟨added, layered.layers, layered.resolved⟩

/-- The start gives a variable a compound around another variable. The new bindings make
that one circular, and bind a third to a compound that the start resolves further.
-/
theorem unifyWith_agrees_resolved_of_circular_binding
    : Substitution.Acyclic ⟨[(⟨0⟩, compound 4 [var ⟨1⟩])]⟩
      ∧ (unifyWith .unlimited (compound 3 [var ⟨1⟩, var ⟨0⟩, var ⟨3⟩])
            (compound 3 [var ⟨0⟩, compound 4 [compound 4 [var ⟨2⟩]], compound 6 [var ⟨0⟩]])
            ⟨[(⟨0⟩, compound 4 [var ⟨1⟩])]⟩).map
          Run.answer
        = some
            (.ok
              ⟨[(⟨3⟩, compound 6 [var ⟨0⟩]), (⟨2⟩, compound 4 [var ⟨1⟩]),
                  (⟨1⟩, compound 4 [var ⟨1⟩]), (⟨0⟩, compound 4 [var ⟨1⟩])]⟩)
      ∧ (unify .unlimited
            (Substitution.resolve ⟨[(⟨0⟩, compound 4 [var ⟨1⟩])]⟩
              (compound 3 [var ⟨1⟩, var ⟨0⟩, var ⟨3⟩]))
            (Substitution.resolve ⟨[(⟨0⟩, compound 4 [var ⟨1⟩])]⟩
              (compound 3
                [var ⟨0⟩, compound 4 [compound 4 [var ⟨2⟩]], compound 6 [var ⟨0⟩]]))).map
          Run.answer
        = some
            (.ok
              ⟨[(⟨3⟩, compound 6 [compound 4 [var ⟨1⟩]]), (⟨2⟩, compound 4 [var ⟨1⟩]),
                  (⟨1⟩, compound 4 [var ⟨1⟩])]⟩)
      ∧ ∃ added : List (Var × Term),
          [(⟨3⟩, compound 6 [var ⟨0⟩]), (⟨2⟩, compound 4 [var ⟨1⟩]),
              (⟨1⟩, compound 4 [var ⟨1⟩]), (⟨0⟩, compound 4 [var ⟨1⟩])]
            = added ++ [(⟨0⟩, compound 4 [var ⟨1⟩])]
          ∧ [(⟨3⟩, compound 6 [compound 4 [var ⟨1⟩]]), (⟨2⟩, compound 4 [var ⟨1⟩]),
                (⟨1⟩, compound 4 [var ⟨1⟩])]
            = added.map (fun binding =>
                (binding.1,
                  Substitution.resolve ⟨[(⟨0⟩, compound 4 [var ⟨1⟩])]⟩ binding.2)) := by
  have acyclic : Substitution.Acyclic ⟨[(⟨0⟩, compound 4 [var ⟨1⟩])]⟩ :=
    Substitution.acyclic_of_rank (fun name => 1 - name.id.toNat) (by decide)
  have agree := unifyWith_agrees_resolved .unlimited (compound 3 [var ⟨1⟩, var ⟨0⟩, var ⟨3⟩])
    (compound 3 [var ⟨0⟩, compound 4 [compound 4 [var ⟨2⟩]], compound 6 [var ⟨0⟩]])
    ⟨[(⟨0⟩, compound 4 [var ⟨1⟩])]⟩ acyclic
  refine ⟨acyclic, rfl, rfl, ?_⟩
  cases agree with
  | succeeded left right holds =>
      cases left
      cases right
      exact holds
  | failed left => cases left

end Unification
