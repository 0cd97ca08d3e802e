import Unification.Proofs.Assignment
import Unification.Proofs.Expansion
import Unification.Proofs.Sequence

/-! Soundness of unification with respect to resolution. When pairs are unified one after
the other and the final substitution has no cycles, it resolves both sides of every pair to
equal terms, and keeps equal what the start has resolved to equal terms.
-/

namespace Unification

open Term (tuple var atom compound)

theorem Term.nanFree_hereditary : Hereditary (Term.nanFree · = true) :=
  hereditary_of_compounds (fun _ fields => (areNanFree_iff fields).mp)

namespace Substitution

variable {substitution : Substitution Term}

/-- Two terms that a substitution resolves to equal terms. -/
def ResolvesAlike (substitution : Substitution Term) : Term → Term → Prop :=
  Term.EqualUnder (substitution.expand substitution.size [])

theorem resolvesAlike_composing (numeric : substitution.AllBound (Term.nanFree · = true))
    : Composing substitution.ResolvesAlike :=
  Term.equalUnder_composing (nanFree_expand numeric substitution.size [])

theorem Acyclic.satisfiedBy_resolvesAlike (acyclic : substitution.Acyclic)
    (numeric : substitution.AllBound (Term.nanFree · = true))
    : substitution.SatisfiedBy substitution.ResolvesAlike := by
  intro term bound hop
  obtain ⟨name, _, found⟩ := hop?_eq_some_iff.mp hop
  have numbers := nanFree_resolve numeric (numeric name bound found)
  show (substitution.resolve term).sameValue (substitution.resolve bound) = true
  rw [acyclic.resolve_of_hop hop, Term.sameValue_self, numbers]

end Substitution

/-- When several pairs of terms of numbers have been unified in order, from a substitution
without cycles to one without cycles, the final one resolves the sides of each pair to equal
terms; and it resolves to equal terms whatever the start has resolved to equal ones.
-/
theorem resolve_sameValue_of_unifyManyWith (config : Config) (pairs : List (Term × Term))
    (start result : Substitution Term) (run : Run Term)
    (found : unifyManyWith config pairs start = some run)
    (succeeded : run.answer = .ok result) (startAcyclic : start.Acyclic)
    (resultAcyclic : result.Acyclic)
    (pairsNumeric : ∀ pair ∈ pairs, pair.1.nanFree = true ∧ pair.2.nanFree = true)
    (startNumeric : start.AllBound (Term.nanFree · = true))
    : (∀ pair ∈ pairs, (result.resolve pair.1).sameValue (result.resolve pair.2) = true)
      ∧ ∀ first second,
          (start.resolve first).sameValue (start.resolve second) = true
          → (result.resolve first).sameValue (result.resolve second) = true := by
  have numeric := unifyManyWith_allBound Term.nanFree_hereditary found succeeded startNumeric
    pairsNumeric
  constructor
  · exact unifyManyWith_holds (Substitution.resolvesAlike_composing numeric) found succeeded
      startAcyclic.chainAcyclic (resultAcyclic.satisfiedBy_resolvesAlike numeric)
  · intro first second same
    have extended := (unifyManyWith_growth found succeeded startAcyclic.chainAcyclic).1
    rw [← resultAcyclic.resolve_resolve extended first,
      ← resultAcyclic.resolve_resolve extended second]
    exact Term.sameValue_replace (Substitution.nanFree_expand numeric _ _) same

/-- Two pairs on top of a binding: the first makes one variable an alias of another and
gives that one a value through the binding, the second compares the value with another kind
of immediate.
-/
theorem resolve_sameValue_of_alias_and_value
    : unifyManyWith .unlimited
          ([(tuple [var ⟨0⟩, var ⟨2⟩], tuple [var ⟨1⟩, compound 1 [atom (.int 0)]]),
              (var ⟨0⟩, atom (.bool false))]
            : List (Term × Term))
          (.singleton ⟨2⟩ (compound 1 [var ⟨1⟩]))
        = some
            ⟨[.descended ⟨0, 2⟩ 0, .bound ⟨0⟩ 1, .descended ⟨1, 1⟩ 1, .bound ⟨1⟩ 2,
                .succeeded 3, .succeeded 3],
              .ok ⟨[(⟨1⟩, atom (.int 0)), (⟨0⟩, var ⟨1⟩), (⟨2⟩, compound 1 [var ⟨1⟩])]⟩⟩
      ∧ (∀ pair ∈
          [(tuple [var ⟨0⟩, var ⟨2⟩], tuple [var ⟨1⟩, compound 1 [atom (.int 0)]]),
            (var ⟨0⟩, atom (.bool false))],
          (Substitution.resolve
              ⟨[(⟨1⟩, atom (.int 0)), (⟨0⟩, var ⟨1⟩), (⟨2⟩, compound 1 [var ⟨1⟩])]⟩
              pair.1).sameValue
            (Substitution.resolve
              ⟨[(⟨1⟩, atom (.int 0)), (⟨0⟩, var ⟨1⟩), (⟨2⟩, compound 1 [var ⟨1⟩])]⟩
              pair.2)
            = true) := by
  refine ⟨rfl, ?_⟩
  let rank (name : Var) : Nat := if name = ⟨1⟩ then 0 else 1
  exact (resolve_sameValue_of_unifyManyWith .unlimited _
    (.singleton ⟨2⟩ (compound 1 [var ⟨1⟩])) _ _ rfl rfl (Substitution.acyclic_of_rank rank (by decide))
    (Substitution.acyclic_of_rank rank (by decide)) (by decide)
    (Substitution.allBound_of_bindings (by decide))).1

end Unification
