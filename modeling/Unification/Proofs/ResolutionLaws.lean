import Unification.Proofs.Bindings
import Unification.Proofs.Ground
import Unification.Proofs.ResolvedVariables
import Unification.Proofs.Solution

/-! Resolution beside walks, and beside later bindings. A walk stops at a count of hops and
resolution at the variables being expanded, yet at the root of a term they come to the same
end wherever no chain of variables is circular. Without cycles at all, resolution is the walk
applied at every place. It then leaves no bound variable, so neither the same substitution
nor an earlier one has anything to add; and a later one completes what an earlier one left.
-/

namespace Unification

open Relation
open Term (var atom compound)

namespace Term

/-- A term with its fields changed in the given way, if it is a compound. -/
def mapFields (change : Term → Term) : Term → Term
  | compound tag fields => compound tag (fields.map change)
  | root => root

/-- Terms with the same root: the same variable, atom or suspended value, or compounds with
the same tag and equally many fields.
-/
inductive SameRoot : Term → Term → Prop
  | var {name} : SameRoot (var name) (var name)
  | atom {value} : SameRoot (atom value) (atom value)
  | lazy {contents} : SameRoot (lazy contents) (lazy contents)
  | compound {tag left right} (lengths : List.length left = List.length right)
    : SameRoot (compound tag left) (compound tag right)

/-- A replacement leaves the root of a term that is no variable. -/
theorem sameRoot_replace {term : Term} (known : Known term) (assigned : Var → Term)
    : (term.replace assigned).SameRoot term := by
  cases term with
  | var name => exact (known name rfl).elim
  | atom _ => exact .atom
  | lazy _ => exact .lazy
  | compound tag fields => exact .compound (by rw [replaceAll_eq_map, List.length_map])

end Term

namespace Substitution

variable {substitution earlier later : Substitution Term} {steps : Nat} {passed : List Var}
  {name : Var}

-----------------------------------------------------------------------------------------
-- The root of a resolved term
-----------------------------------------------------------------------------------------

theorem sameRoot_expand_of_unbound (unbound : substitution.lookup? name = none)
    : (substitution.expand steps passed name).SameRoot (substitution.walk (var name)) := by
  have stays : substitution.walk (var name) = var name := walk_eq_of_hops .refl unbound
  rw [expand_of_passed_or_unbound (.inr unbound), stays]
  exact .var

/-- Along a trail of aliases, expansion and walk come to the same root, by induction on the
steps. The trail meets no variable twice, so the variables being expanded stop nothing before
the chain ends.
-/
theorem ChainAcyclic.sameRoot_expand (chains : substitution.ChainAcyclic)
    (trail : Trail substitution substitution.Aliases steps passed name)
    : (substitution.expand steps passed name).SameRoot (substitution.walk (var name)) := by
  induction steps generalizing passed name with
  | zero => exact sameRoot_expand_of_unbound (trail.unbound chains)
  | succ steps ih =>
      cases found : substitution.lookup? name with
      | none => exact sameRoot_expand_of_unbound found
      | some bound =>
          have hop : substitution.hop? (var name) = some bound := found
          rw [expand_succ_of_bound (trail.fresh chains) found, chains.walk_of_hop hop]
          -- A bound value is the root; another variable is the next on the trail.
          by_cases known : Known bound
          · rw [walk_of_known known]
            exact Term.sameRoot_replace known _
          · obtain ⟨next, boundShape⟩ := exists_unknown_of_not_known known
            have onward := trail.extend chains (by simp [found]) ⟨bound, found, boundShape⟩
            obtain rfl := Term.eq_var_of_shape boundShape
            exact ih onward

/-- Without cycles of variables, a resolved term has the root at which the walk of the term
ends, however circular the compounds are.
-/
theorem ChainAcyclic.sameRoot_resolve (chains : substitution.ChainAcyclic) (term : Term)
    : (substitution.resolve term).SameRoot (substitution.walk term) := by
  by_cases known : Known term
  · rw [walk_of_known known]
    exact Term.sameRoot_replace known _
  · obtain ⟨name, termShape⟩ := exists_unknown_of_not_known known
    obtain rfl := Term.eq_var_of_shape termShape
    exact chains.sameRoot_expand (.start _ _ name)

/-- Without cycles, a term resolves to the end of its walk with the fields there resolved. -/
theorem Acyclic.resolve_eq_mapFields (acyclic : substitution.Acyclic) (term : Term)
    : substitution.resolve term
      = (substitution.walk term).mapFields substitution.resolve := by
  rw [← acyclic.resolve_walk term]
  cases root : substitution.walk term with
  | var name =>
      exact resolve_of_unbound
        (acyclic.chainAcyclic.lookup?_walk (congrArg Unifiable.shape root))
  | atom _ | lazy _ => rfl
  | compound tag fields => exact resolve_compound tag fields

/-- Without cycles, no variable that resolution leaves has a binding. -/
theorem Acyclic.lookup?_of_mem_resolve (acyclic : substitution.Acyclic) {term : Term}
    (member : name ∈ (substitution.resolve term).vars)
    : substitution.lookup? name = none := by
  obtain ⟨first, _, inner⟩ := Term.mem_vars_replace.mp member
  exact ((Trail.start _ _ first).depends_of_mem_expand inner).2.resolve_right (acyclic name)

/-- Resolution is the walk applied throughout, where no variable leads back to itself: the
walk of the term, with the fields of the compound at its end resolved in turn. No bound
variable is left then, and a second resolution changes nothing. Where compounds are circular
but no chain of variables is, the resolved term still has the root at which the walk ends.
-/
theorem resolve_walks_throughout (substitution : Substitution Term)
    : (substitution.Acyclic
        → ∀ term,
            substitution.resolve term
              = (substitution.walk term).mapFields substitution.resolve
            ∧ (∀ name ∈ (substitution.resolve term).vars, substitution.lookup? name = none)
            ∧ substitution.resolve (substitution.resolve term) = substitution.resolve term)
      ∧ (substitution.ChainAcyclic
        → ∀ term, (substitution.resolve term).SameRoot (substitution.walk term)) := by
  refine ⟨fun acyclic term => ⟨?_, ?_, ?_⟩, fun chains => chains.sameRoot_resolve⟩
  · exact acyclic.resolve_eq_mapFields term
  · exact fun name => acyclic.lookup?_of_mem_resolve
  · exact acyclic.resolve_resolve (.refl substitution) term

/-- A chain leads to a compound, of which one field is bound and the other is not. In the
second substitution the compound holds the variable that leads to it, so the resolved compound
has other fields than the end of the walk.
-/
theorem resolve_walks_throughout_to_compounds
    : Substitution.resolve
          ⟨[(⟨2⟩, atom .unit), (⟨1⟩, compound 4 [var ⟨2⟩, var ⟨3⟩]), (⟨0⟩, var ⟨1⟩)]⟩ (var ⟨0⟩)
        = compound 4 [atom .unit, var ⟨3⟩]
      ∧ Substitution.resolve
            ⟨[(⟨2⟩, atom .unit), (⟨1⟩, compound 4 [var ⟨2⟩, var ⟨3⟩]), (⟨0⟩, var ⟨1⟩)]⟩
            (compound 4 [atom .unit, var ⟨3⟩])
          = compound 4 [atom .unit, var ⟨3⟩]
      ∧ Substitution.walk ⟨[(⟨1⟩, compound 4 [var ⟨0⟩]), (⟨0⟩, var ⟨1⟩)]⟩ (var ⟨1⟩)
          = compound 4 [var ⟨0⟩]
      ∧ Term.SameRoot
          (Substitution.resolve ⟨[(⟨1⟩, compound 4 [var ⟨0⟩]), (⟨0⟩, var ⟨1⟩)]⟩ (var ⟨1⟩))
          (compound 4 [var ⟨0⟩]) := by
  have acyclic
      : Substitution.Acyclic
          ⟨[(⟨2⟩, atom .unit), (⟨1⟩, compound 4 [var ⟨2⟩, var ⟨3⟩]), (⟨0⟩, var ⟨1⟩)]⟩ :=
    acyclic_of_rank (fun name => 3 - name.id.toNat) (by decide)
  have chains
      : Substitution.ChainAcyclic ⟨[(⟨1⟩, compound 4 [var ⟨0⟩]), (⟨0⟩, var ⟨1⟩)]⟩ := by
    apply chainAcyclic_of_rank (fun name => 1 - name.id.toNat)
    intro binding member other valueShape
    simp only [List.mem_cons, List.not_mem_nil, or_false] at member
    rcases member with rfl | rfl <;> cases valueShape
    decide
  obtain ⟨throughout, _, again⟩ := (resolve_walks_throughout _).1 acyclic (var ⟨0⟩)
  exact ⟨throughout, again, rfl, (resolve_walks_throughout _).2 chains (var ⟨1⟩)⟩

-----------------------------------------------------------------------------------------
-- What is left for other substitutions
-----------------------------------------------------------------------------------------

/-- A term without bound variables is its own resolution. -/
theorem resolve_of_unbound_vars {term : Term}
    (unbound : ∀ name ∈ term.vars, substitution.lookup? name = none)
    : substitution.resolve term = term :=
  calc
    substitution.resolve term
    _ = term.replace var :=
        term.replace_congr (fun name occurs =>
          resolve_of_unbound (unbound name ((Term.mem_vars name term).mpr occurs)))
    _ = term := term.replace_var

/-- An earlier substitution finds nothing to resolve in what a later acyclic one, which keeps
its bindings, has resolved.
-/
theorem Acyclic.resolve_of_later (acyclic : later.Acyclic)
    (extended : earlier.ExtendedBy later) (term : Term)
    : earlier.resolve (later.resolve term) = later.resolve term := by
  apply resolve_of_unbound_vars
  intro name member
  have unbound := acyclic.lookup?_of_mem_resolve member
  cases found : earlier.lookup? name with
  | none => rfl
  | some bound => simp [extended name bound found] at unbound

/-- A substitution built by successful calls is completed by further calls: if they end
without cycles there were none before, and what the earlier substitution has resolved, the
later one resolves as it does the original term. What the later one has resolved, the earlier
one leaves as it is.
-/
theorem resolve_completes_earlier (earlier later : Substitution Term)
    (built : Substitution.empty.GrowsInto earlier) (grows : earlier.GrowsInto later)
    (acyclic : later.Acyclic)
    : earlier.Acyclic
      ∧ ∀ term,
          later.resolve (earlier.resolve term) = later.resolve term
          ∧ earlier.resolve (later.resolve term) = later.resolve term := by
  have chains : earlier.ChainAcyclic := (built.growth chainAcyclic_empty).2
  have extended : earlier.ExtendedBy later := (grows.growth chains).1
  refine ⟨acyclic.of_extendedBy extended, fun term => ⟨?_, ?_⟩⟩
  · exact acyclic.resolve_resolve extended term
  · exact acyclic.resolve_of_later extended term

/-- A first call binds a variable to a compound around another one. A second call, under a
deepest level, goes through that binding and gives the other variable its value.
-/
theorem resolve_completes_earlier_within_compound
    : Substitution.GrowsInto ⟨[(⟨0⟩, compound 1 [var ⟨1⟩])]⟩
          ⟨[(⟨1⟩, atom (.int 7)), (⟨0⟩, compound 1 [var ⟨1⟩])]⟩
      ∧ Substitution.resolve ⟨[(⟨0⟩, compound 1 [var ⟨1⟩])]⟩ (compound 2 [var ⟨0⟩, var ⟨2⟩])
          = compound 2 [compound 1 [var ⟨1⟩], var ⟨2⟩]
      ∧ Substitution.resolve ⟨[(⟨1⟩, atom (.int 7)), (⟨0⟩, compound 1 [var ⟨1⟩])]⟩
            (compound 2 [compound 1 [var ⟨1⟩], var ⟨2⟩])
          = compound 2 [compound 1 [atom (.int 7)], var ⟨2⟩]
      ∧ Substitution.Acyclic ⟨[(⟨0⟩, compound 1 [var ⟨1⟩])]⟩ := by
  have built : Substitution.empty.GrowsInto ⟨[(⟨0⟩, compound 1 [var ⟨1⟩])]⟩ :=
    .single ⟨.unlimited, var ⟨0⟩, compound 1 [var ⟨1⟩], _, rfl, rfl⟩
  have grows
      : Substitution.GrowsInto ⟨[(⟨0⟩, compound 1 [var ⟨1⟩])]⟩
          ⟨[(⟨1⟩, atom (.int 7)), (⟨0⟩, compound 1 [var ⟨1⟩])]⟩ :=
    .single ⟨.limited 1, compound 1 [atom (.int 7)], var ⟨0⟩, _, rfl, rfl⟩
  have acyclic
      : Substitution.Acyclic ⟨[(⟨1⟩, atom (.int 7)), (⟨0⟩, compound 1 [var ⟨1⟩])]⟩ :=
    acyclic_of_rank (fun name => 1 - name.id.toNat) (by decide)
  obtain ⟨before, answers⟩ := resolve_completes_earlier _ _ built grows acyclic
  exact ⟨grows, rfl, (answers (compound 2 [var ⟨0⟩, var ⟨2⟩])).1, before⟩

end Substitution

end Unification
