import Unification.Proofs.Dependency
import Unification.Proofs.FiniteSolution
import Unification.Proofs.LevelBound
import Unification.Proofs.Soundness

/-! Pairs that are unified in any order. Where a run leaves no cycles, its resolution solves
the pairs in finite terms, so the pairs succeed in every order, and again without cycles.
What the run resolves alike is equal in every solution of the pairs. Two runs on the same
pairs therefore resolve the same terms alike, although they bind other variables to other
terms.
-/

namespace Unification

open Relation
open Term (EqualUnder var atom compound)

-----------------------------------------------------------------------------------------
-- Finite solutions of a substitution
-----------------------------------------------------------------------------------------

namespace Substitution

variable {substitution : Substitution Term} {assigned : Var → Term}

/-- Where an assignment satisfies a substitution, a variable that depends on another is
assigned a term at least as high, and only an alias of it is assigned one of the same height.
-/
theorem SatisfiedBy.height_falls (satisfied : substitution.SatisfiedBy (EqualUnder assigned))
    {name other : Var} (link : substitution.Depends name other)
    : (assigned other).height ≤ (assigned name).height
      ∧ ((assigned other).height = (assigned name).height
        → substitution.Aliases name other) := by
  obtain ⟨bound, found, member⟩ := link
  have occurs := (Term.mem_vars other bound).mp member
  have same : (assigned name).height = (bound.replace assigned).height :=
    Term.height_of_sameValue (satisfiedBy_iff_lookup?.mp satisfied name bound found)
  rw [same]
  cases bound with
  | var next =>
      obtain rfl : next = other := by simpa [Term.occurs] using occurs
      exact ⟨Nat.le_refl _, fun _ => ⟨var next, found, rfl⟩⟩
  | atom _ | lazy _ => cases occurs
  | compound tag fields =>
      have lower := Term.height_lt_heightAbove_replaceAll fields assigned occurs
      exact ⟨Nat.le_of_lt lower, fun equal => (Nat.ne_of_lt lower equal).elim⟩

/-- Without cycles of variables, a substitution that has a solution in finite terms has no
cycles: around a cycle the height stays the same, so all dependencies on it are aliases.
-/
theorem ChainAcyclic.acyclic_of_satisfied (chains : substitution.ChainAcyclic)
    (satisfied : substitution.SatisfiedBy (EqualUnder assigned))
    : substitution.Acyclic := by
  have along {name other : Var} (path : TransGen substitution.Depends name other)
      : (assigned other).height ≤ (assigned name).height
        ∧ ((assigned other).height = (assigned name).height
          → TransGen substitution.Aliases name other) := by
    induction path with
    | single link => exact (satisfied.height_falls link).imp_right (.single ∘ ·)
    | tail _ link ih =>
        obtain ⟨falls, aliasWhenEqual⟩ := satisfied.height_falls link
        obtain ⟨earlierFalls, aliasesWhenEqual⟩ := ih
        refine ⟨falls.trans earlierFalls, ?_⟩
        intro equal
        exact (aliasesWhenEqual (by omega)).tail (aliasWhenEqual (by omega))
  exact fun name cycle => chains name ((along cycle).2 rfl)

/-- Where an assignment of terms of numbers satisfies a substitution of such terms, whatever
has been expanded, to whatever depth, is equal to the variable. By induction on the depth.
-/
theorem SatisfiedBy.expand_equal (satisfied : substitution.SatisfiedBy (EqualUnder assigned))
    (assignedNumeric : ∀ name, (assigned name).nanFree = true)
    (numeric : substitution.AllBound (Term.nanFree · = true)) (depth : Nat)
    (passed : List Var) (name : Var)
    : EqualUnder assigned (substitution.expand depth passed name) (var name) := by
  have itself (name : Var) : EqualUnder assigned (var name) (var name) :=
    (Term.sameValue_self _).trans (assignedNumeric name)
  induction depth generalizing passed name with
  | zero => exact itself name
  | succ depth ih =>
      unfold expand
      split
      next => exact itself name
      next =>
        split
        next => exact itself name
        next bound found =>
          have inside
              : ((bound.replace (substitution.expand depth (name :: passed))).replace
                    assigned).sameValue (bound.replace assigned) = true := by
            rw [Term.replace_replace]
            exact bound.sameValue_of_replacements (ih (name :: passed))
              (numeric name bound found)
          exact Term.sameValue_trans inside
            (Term.equalUnder_partialEquivalence.symm (satisfied (var name) bound found))

/-- Terms that a substitution resolves alike are equal in each of its solutions. -/
theorem ResolvesAlike.equalUnder {first second : Term}
    (alike : substitution.ResolvesAlike first second)
    (satisfied : substitution.SatisfiedBy (EqualUnder assigned))
    (assignedNumeric : ∀ name, (assigned name).nanFree = true)
    (numeric : substitution.AllBound (Term.nanFree · = true))
    (firstNumeric : first.nanFree = true) (secondNumeric : second.nanFree = true)
    : EqualUnder assigned first second := by
  have resolved (term : Term) (termNumeric : term.nanFree = true)
      : EqualUnder assigned (substitution.resolve term) term := by
    unfold EqualUnder resolve
    rw [Term.replace_replace]
    exact term.sameValue_of_replacements
      (satisfied.expand_equal assignedNumeric numeric substitution.size []) termNumeric
  have equivalence : PartialEquivalence (EqualUnder assigned) :=
    Term.equalUnder_partialEquivalence
  have same : EqualUnder assigned (substitution.resolve first) (substitution.resolve second) :=
    Term.sameValue_replace assignedNumeric alike
  exact equivalence.trans (equivalence.symm (resolved first firstNumeric))
    (equivalence.trans same (resolved second secondNumeric))

end Substitution

-----------------------------------------------------------------------------------------
-- Most general results
-----------------------------------------------------------------------------------------

/-- A substitution without cycles, of terms of numbers, that resolves the sides of each pair
alike and is satisfied by every assignment that makes them equal.
-/
structure Substitution.MostGeneral (pairs : List (Term × Term)) (result : Substitution Term)
    : Prop where
  acyclic : result.Acyclic
  numeric : result.AllBound (Term.nanFree · = true)
  solves : ∀ pair ∈ pairs, result.ResolvesAlike pair.1 pair.2
  least
    : ∀ assigned,
        (∀ pair ∈ pairs, EqualUnder assigned pair.1 pair.2)
        → result.SatisfiedBy (EqualUnder assigned)

/-- Pairs that have been unified without leaving a cycle have a most general result. -/
theorem mostGeneral_of_unifyMany {config : Config} {pairs : List (Term × Term)}
    {result : Substitution Term} {run : Run Term}
    (found : unifyMany config pairs = some run) (succeeded : run.answer = .ok result)
    (acyclic : result.Acyclic)
    (pairsNumeric : ∀ pair ∈ pairs, pair.1.nanFree = true ∧ pair.2.nanFree = true)
    : result.MostGeneral pairs := by
  have numeric := unifyManyWith_allBound Term.nanFree_hereditary found succeeded
    (by simp [Substitution.AllBound]) pairsNumeric
  exact {
    acyclic := acyclic
    numeric := numeric
    solves :=
      unifyManyWith_holds (Substitution.resolvesAlike_composing numeric) found succeeded
        Substitution.chainAcyclic_empty (acyclic.satisfiedBy_resolvesAlike numeric)
    least := fun assigned holds =>
      unifyManyWith_satisfied Term.equalUnder_discerning found succeeded
        (Substitution.satisfiedBy_empty _) holds
  }

namespace Substitution.MostGeneral

variable {pairs permuted : List (Term × Term)} {result other : Substitution Term}

theorem perm (general : result.MostGeneral pairs) (permutation : pairs.Perm permuted)
    : result.MostGeneral permuted where
  acyclic := general.acyclic
  numeric := general.numeric
  solves := fun pair member => general.solves pair (permutation.mem_iff.mpr member)
  least := fun assigned holds =>
    general.least assigned (fun pair member => holds pair (permutation.mem_iff.mp member))

/-- Of two most general results for the same pairs, each resolves alike what the other one
does.
-/
theorem resolvesAlike (general : result.MostGeneral pairs)
    (otherGeneral : other.MostGeneral pairs) {first second : Term}
    (firstNumeric : first.nanFree = true) (secondNumeric : second.nanFree = true)
    (alike : result.ResolvesAlike first second)
    : other.ResolvesAlike first second :=
  alike.equalUnder (general.least _ otherGeneral.solves)
    (Substitution.nanFree_expand otherGeneral.numeric other.size []) general.numeric
    firstNumeric secondNumeric

end Substitution.MostGeneral

-----------------------------------------------------------------------------------------
-- Pairs that have a solution in finite terms
-----------------------------------------------------------------------------------------

/-- Where an assignment of finite terms satisfies the start and makes both sides equal, a
call without a deepest level succeeds, and the assignment satisfies the result.
-/
theorem exists_unifyWith_satisfied {assigned : Var → Term} {left right : Term}
    {start : Substitution Term} (satisfied : start.SatisfiedBy (EqualUnder assigned))
    (same : EqualUnder assigned left right)
    : ∃ run result,
        unifyWith .unlimited left right start = some run
        ∧ run.answer = .ok result
        ∧ result.SatisfiedBy (EqualUnder assigned) := by
  let terms := allParts left right start
  have ranking : Ranking (· ∈ terms) (EqualUnder assigned) (Term.rankAmong assigned terms) :=
    Term.rankAmong_ranking (allParts_hereditary left right start)
  have solved
      : (Goal.pair left right).SolvedWithin (· ∈ terms) (EqualUnder assigned) :=
    ⟨same, left_mem_allParts left right start, right_mem_allParts left right start⟩
  obtain ⟨inner, result, answered, succeeded⟩ :=
    ranking.exists_success ⟨satisfied, allBound_allParts left right start⟩ solved
  have kept := (descend_settles _ _ _ _ _ _ _ answered).keeps Term.equalUnder_discerning
    satisfied same
  exact ⟨inner.conclude, result, unifyWith_eq_some_of_descend answered, succeeded,
    kept.success result succeeded⟩

/-- Pairs that an assignment of finite terms solves succeed one after the other, by induction
on the pairs.
-/
theorem exists_unifyManyWith_satisfied {assigned : Var → Term} {pairs : List (Term × Term)}
    {start : Substitution Term} (satisfied : start.SatisfiedBy (EqualUnder assigned))
    (holds : ∀ pair ∈ pairs, EqualUnder assigned pair.1 pair.2)
    : ∃ run result,
        unifyManyWith .unlimited pairs start = some run
        ∧ run.answer = .ok result
        ∧ result.SatisfiedBy (EqualUnder assigned) := by
  induction pairs generalizing start with
  | nil => exact ⟨.succeed start, start, rfl, rfl, satisfied⟩
  | cons pair rest ih =>
      obtain ⟨same, others⟩ := List.forall_mem_cons.mp holds
      obtain ⟨first, middle, found, reached, middleSatisfied⟩ :=
        exists_unifyWith_satisfied satisfied same
      obtain ⟨later, result, laterFound, succeeded, resultSatisfied⟩ :=
        ih middleSatisfied others
      refine ⟨⟨first.log ++ later.log, later.answer⟩, result, ?_, succeeded, resultSatisfied⟩
      rw [unifyManyWith, found, Option.bind_some, Run.andThen_of_ok reached, laterFound,
        Option.map_some]

/-- If pairs of terms of numbers have been unified in one order without leaving a cycle, they
are unified in every order without leaving a cycle, and both results resolve the same terms
of numbers to equal terms.
-/
theorem unifyMany_of_perm (pairs permuted : List (Term × Term))
    (permutation : pairs.Perm permuted)
    (pairsNumeric : ∀ pair ∈ pairs, pair.1.nanFree = true ∧ pair.2.nanFree = true)
    (run : Run Term) (result : Substitution Term)
    (found : unifyMany .unlimited pairs = some run) (succeeded : run.answer = .ok result)
    (acyclic : result.Acyclic)
    : ∃ other later,
        unifyMany .unlimited permuted = some other
        ∧ other.answer = .ok later
        ∧ later.Acyclic
        ∧ ∀ first second : Term,
            first.nanFree = true
            → second.nanFree = true
            → ((result.resolve first).sameValue (result.resolve second) = true
              ↔ (later.resolve first).sameValue (later.resolve second) = true) := by
  have general : result.MostGeneral permuted :=
    (mostGeneral_of_unifyMany found succeeded acyclic pairsNumeric).perm permutation
  obtain ⟨other, later, laterFound, laterSucceeded, satisfied⟩ :=
    exists_unifyManyWith_satisfied (Substitution.satisfiedBy_empty _) general.solves
  have chains := (unifyManyWith_growth laterFound laterSucceeded
    Substitution.chainAcyclic_empty).2
  have laterAcyclic := chains.acyclic_of_satisfied satisfied
  have laterGeneral : later.MostGeneral permuted :=
    mostGeneral_of_unifyMany laterFound laterSucceeded laterAcyclic
      (fun pair member => pairsNumeric pair (permutation.mem_iff.mpr member))
  refine ⟨other, later, laterFound, laterSucceeded, laterAcyclic, ?_⟩
  intro first second firstNumeric secondNumeric
  exact ⟨general.resolvesAlike laterGeneral firstNumeric secondNumeric,
    laterGeneral.resolvesAlike general firstNumeric secondNumeric⟩

/-- Three pairs that give two variables equal values of different kinds. In one order the
first variable becomes an alias of the second, in the other each has a value of its own.
-/
theorem unifyMany_of_perm_with_alias_and_values
    : unifyMany .unlimited
          [(var ⟨0⟩, var ⟨1⟩), (compound 1 [var ⟨1⟩], compound 1 [atom (.int 0)]),
            (atom (.bool false), var ⟨0⟩)]
        = some
            ⟨[.bound ⟨0⟩ 0, .succeeded 1, .descended ⟨1, 1⟩ 0, .bound ⟨1⟩ 1, .succeeded 2,
                .succeeded 2],
              .ok ⟨[(⟨1⟩, atom (.int 0)), (⟨0⟩, var ⟨1⟩)]⟩⟩
      ∧ unifyMany .unlimited
          [(atom (.bool false), var ⟨0⟩),
            (compound 1 [var ⟨1⟩], compound 1 [atom (.int 0)]), (var ⟨0⟩, var ⟨1⟩)]
        = some
            ⟨[.bound ⟨0⟩ 0, .succeeded 1, .descended ⟨1, 1⟩ 0, .bound ⟨1⟩ 1, .succeeded 2,
                .succeeded 2],
              .ok ⟨[(⟨1⟩, atom (.int 0)), (⟨0⟩, atom (.bool false))]⟩⟩
      ∧ ∀ first second : Term,
          first.nanFree = true
          → second.nanFree = true
          → ((Substitution.resolve ⟨[(⟨1⟩, atom (.int 0)), (⟨0⟩, var ⟨1⟩)]⟩ first).sameValue
                (Substitution.resolve ⟨[(⟨1⟩, atom (.int 0)), (⟨0⟩, var ⟨1⟩)]⟩ second)
              = true
            ↔ (Substitution.resolve ⟨[(⟨1⟩, atom (.int 0)), (⟨0⟩, atom (.bool false))]⟩
                  first).sameValue
                (Substitution.resolve ⟨[(⟨1⟩, atom (.int 0)), (⟨0⟩, atom (.bool false))]⟩
                  second)
              = true) := by
  refine ⟨rfl, rfl, ?_⟩
  obtain ⟨other, later, found, succeeded, _, same⟩ := unifyMany_of_perm
    [(var ⟨0⟩, var ⟨1⟩), (compound 1 [var ⟨1⟩], compound 1 [atom (.int 0)]),
      (atom (.bool false), var ⟨0⟩)]
    [(atom (.bool false), var ⟨0⟩), (compound 1 [var ⟨1⟩], compound 1 [atom (.int 0)]),
      (var ⟨0⟩, var ⟨1⟩)]
    (List.reverse_perm _).symm (by decide) _ _ rfl rfl
    (Substitution.acyclic_of_rank (fun name => if name = ⟨1⟩ then 0 else 1) (by decide))
  cases found.symm.trans rfl
  cases succeeded
  exact same

end Unification
