import Unification.Proofs.Ground
import Unification.Proofs.Layering
import Unification.Proofs.OrderIndependence

/-! Unification of what is equal already. Without a deepest level a call leaves its start
unchanged exactly when the start resolves the two terms to equal ones. So a result that
unified two terms once is left unchanged by the same two terms, provided that it has no
cycles and holds only numbers.
-/

namespace Unification

open Unifiable (shape)
open Term (EqualUnder var atom lazy compound)

-----------------------------------------------------------------------------------------
-- Calls that start without bindings
-----------------------------------------------------------------------------------------

theorem Term.eq_var_of_sameValue {name : Var} {term : Term}
    (same : (var name).sameValue term = true)
    : term = var name := by
  cases term with
  | var other => rw [beq_iff_eq.mp same]
  | atom _ | lazy _ | compound _ _ => cases same

/-- A substitution without cycles of variables in which each variable equals its own binding
has no binding.
-/
theorem Substitution.ChainAcyclic.eq_empty {substitution : Substitution Term}
    (chains : substitution.ChainAcyclic) (satisfied : substitution.SatisfiedBy (EqualUnder var))
    : substitution = .empty := by
  obtain ⟨bindings⟩ := substitution
  cases bindings with
  | nil => rfl
  | cons binding rest =>
      have found := lookup?_extend_self ⟨rest⟩ binding.1 binding.2
      have same := satisfiedBy_iff_lookup?.mp satisfied _ _ found
      rw [EqualUnder, Term.replace_var, Term.replace_var] at same
      have itself := congrArg shape (Term.eq_var_of_sameValue same)
      exact (chains binding.1 (.single ⟨binding.2, found, itself⟩)).elim

/-- From no bindings, exactly the equal terms unify without a binding. -/
theorem unify_unchanged_iff (left right : Term)
    : (∃ run, unify .unlimited left right = some run ∧ run.answer = .ok .empty)
      ↔ left.sameValue right = true := by
  have equal : EqualUnder var left right ↔ left.sameValue right = true := by
    rw [EqualUnder, Term.replace_var, Term.replace_var]
  rw [← equal]
  constructor
  · rintro ⟨run, found, unchanged⟩
    obtain ⟨inner, settled, rfl⟩ := unifyWith_settles found
    have composing : Composing (EqualUnder var) := Term.equalUnder_composing (fun _ => rfl)
    exact (settled.holds_of_result composing unchanged trivial
      (Substitution.satisfiedBy_empty _)).1
  · intro same
    obtain ⟨run, result, found, succeeded, satisfied⟩ :=
      exists_unifyWith_satisfied (Substitution.satisfiedBy_empty _) same
    obtain ⟨inner, settled, rfl⟩ := unifyWith_settles found
    have chains := (settled.growth succeeded Substitution.chainAcyclic_empty trivial).2
    rw [chains.eq_empty satisfied] at succeeded
    exact ⟨_, found, succeeded⟩

/-- Ground terms that unify leave no binding, since there is no variable to bind. -/
theorem Settles.unchanged_of_ground {config : Config} {left right : Term} {depth : Nat}
    {start result : Substitution Term} {run : Run Term}
    (settled : Settles config (.pair left right) depth start run)
    (succeeded : run.answer = .ok result)
    (bound : start.AllBound (Term.isGround · = true)) (leftGround : left.isGround = true)
    (rightGround : right.isGround = true)
    : result = start := by
  have steps := settled.binds Term.isGround_hereditary succeeded bound
    ⟨leftGround, rightGround⟩ trivial
  rcases steps.cases_tail with same | ⟨_, _, step⟩
  · exact same
  · cases step with
    | bind targetShape _ _ _ targetGround =>
        exact (Term.known_of_isGround targetGround _ targetShape).elim

-----------------------------------------------------------------------------------------
-- Calls on top of bindings
-----------------------------------------------------------------------------------------

/-- A call adds no binding to a substitution without cycles exactly when the call on the
resolved terms makes none, since the two make as many.
-/
theorem Substitution.Acyclic.unchanged_iff_resolved {start : Substitution Term}
    (acyclic : start.Acyclic) (config : Config) (left right : Term)
    : (∃ run, unifyWith config left right start = some run ∧ run.answer = .ok start)
      ↔ ∃ run,
          unify config (start.resolve left) (start.resolve right) = some run
          ∧ run.answer = .ok .empty := by
  have agree := (layering_simulation acyclic).unifyWith_agree config.refusals_agree
    ⟨[], .start acyclic.chainAcyclic⟩
    (And.intro (Eq.refl (start.resolve left)) (Eq.refl (start.resolve right)))
  unfold unify
  generalize unifyWith config left right start = upper at agree ⊢
  generalize unifyWith config (start.resolve left) (start.resolve right) .empty = flat
    at agree ⊢
  cases agree with
  | endless => simp
  | failed upperFailed flatFailed => simp [upperFailed, flatFailed]
  | @succeeded _ _ result other upperAnswer flatAnswer layers =>
      obtain ⟨added, layered⟩ := layers
      have unchanged : result = start ↔ added = [] := by
        rw [← List.append_left_eq_self, ← layered.layers]
        cases result
        cases start
        simp
      have nothing : other = .empty ↔ added = [] := by
        rw [← List.map_eq_nil_iff, ← layered.resolved]
        cases other
        simp [Substitution.empty]
      simp [upperAnswer, flatAnswer, unchanged, nothing]

/-- Without a deepest level, a call leaves a substitution without cycles unchanged exactly
when the two terms resolve to equal ones. So the terms that unify with themselves without a
binding are those of numbers alone, ground terms unify exactly when they are equal, and what
has led to a result without cycles leaves that result unchanged, whatever it started from.
-/
theorem unifyWith_unchanged_iff
    : (∀ (left right : Term) (start : Substitution Term),
        start.Acyclic
        → ((∃ run, unifyWith .unlimited left right start = some run ∧ run.answer = .ok start)
          ↔ (start.resolve left).sameValue (start.resolve right) = true))
      ∧ (∀ term : Term,
          (∃ run, unify .unlimited term term = some run ∧ run.answer = .ok .empty)
          ↔ term.nanFree = true)
      ∧ (∀ first second : Term,
          first.isGround = true
          → second.isGround = true
          → ((∃ run result,
                unify .unlimited first second = some run ∧ run.answer = .ok result)
              ↔ first.sameValue second = true))
      ∧ ∀ config (left right : Term) (start result : Substitution Term) run,
          unifyWith config left right start = some run
          → run.answer = .ok result
          → result.Acyclic
          → left.nanFree = true
          → right.nanFree = true
          → start.AllBound (Term.nanFree · = true)
          → ∃ again,
              unifyWith .unlimited left right result = some again
              ∧ again.answer = .ok result := by
  have unchanged (left right : Term) (start : Substitution Term) (acyclic : start.Acyclic)
      : (∃ run, unifyWith .unlimited left right start = some run ∧ run.answer = .ok start)
        ↔ (start.resolve left).sameValue (start.resolve right) = true :=
    (acyclic.unchanged_iff_resolved .unlimited left right).trans (unify_unchanged_iff _ _)
  refine ⟨unchanged, ?_, ?_, ?_⟩
  · intro term
    rw [unify_unchanged_iff, Term.sameValue_self]
  · intro first second firstGround secondGround
    rw [← unify_unchanged_iff]
    constructor
    · rintro ⟨run, result, found, succeeded⟩
      obtain ⟨inner, settled, rfl⟩ := unifyWith_settles found
      obtain rfl := settled.unchanged_of_ground succeeded (by simp [Substitution.AllBound])
        firstGround secondGround
      exact ⟨_, found, succeeded⟩
    · rintro ⟨run, found, succeeded⟩
      exact ⟨run, .empty, found, succeeded⟩
  · intro config left right start result run found succeeded acyclic leftNumeric rightNumeric
      startNumeric
    obtain ⟨inner, settled, rfl⟩ := unifyWith_settles found
    have numeric := settled.allBound Term.nanFree_hereditary succeeded startNumeric
      ⟨leftNumeric, rightNumeric⟩
    have alike := settled.holds_of_result (Substitution.resolvesAlike_composing numeric)
      succeeded trivial (acyclic.satisfiedBy_resolvesAlike numeric)
    exact (unchanged left right result acyclic).mpr alike.1

/-- Aliases and suspended characters add nothing, but a variable that is bound to no number
does not unify with itself. The last start binds two variables to each other in a cycle,
which the first call takes apart.
-/
theorem unifyWith_unchanged_of_aliases_and_cycle
    : Substitution.Acyclic ⟨[(⟨3⟩, compound 4 [var ⟨1⟩]), (⟨1⟩, var ⟨2⟩)]⟩
      ∧ (∃ run,
          unifyWith .unlimited
              (compound 6 [var ⟨1⟩, var ⟨3⟩, lazy (atom (.char 'a'))])
              (compound 6 [var ⟨2⟩, compound 4 [var ⟨2⟩], lazy (atom (.int 97))])
              ⟨[(⟨3⟩, compound 4 [var ⟨1⟩]), (⟨1⟩, var ⟨2⟩)]⟩
            = some run
          ∧ run.answer = .ok ⟨[(⟨3⟩, compound 4 [var ⟨1⟩]), (⟨1⟩, var ⟨2⟩)]⟩)
      ∧ (¬ ∃ run,
          unifyWith .unlimited (var ⟨0⟩) (var ⟨0⟩)
              ⟨[(⟨0⟩, atom (.float ⟨0x7FF8000000000000⟩))]⟩
            = some run
          ∧ run.answer = .ok ⟨[(⟨0⟩, atom (.float ⟨0x7FF8000000000000⟩))]⟩)
      ∧ (∃ run result,
          unify .unlimited (compound 5 [atom .unit]) (compound 5 [atom (.bool false)])
            = some run
          ∧ run.answer = .ok result)
      ∧ unifyWith .unlimited (compound 4 [var ⟨1⟩]) (compound 4 [atom (.int 3)])
          ⟨[(⟨1⟩, var ⟨2⟩), (⟨2⟩, var ⟨1⟩)]⟩
        = some
            ⟨[.descended ⟨4, 1⟩ 0, .bound ⟨1⟩ 1, .succeeded 3],
              .ok ⟨[(⟨1⟩, atom (.int 3)), (⟨1⟩, var ⟨2⟩), (⟨2⟩, var ⟨1⟩)]⟩⟩
      ∧ ∃ again,
          unifyWith .unlimited (compound 4 [var ⟨1⟩]) (compound 4 [atom (.int 3)])
              ⟨[(⟨1⟩, atom (.int 3)), (⟨1⟩, var ⟨2⟩), (⟨2⟩, var ⟨1⟩)]⟩
            = some again
          ∧ again.answer
            = .ok ⟨[(⟨1⟩, atom (.int 3)), (⟨1⟩, var ⟨2⟩), (⟨2⟩, var ⟨1⟩)]⟩ := by
  have first : Substitution.Acyclic ⟨[(⟨3⟩, compound 4 [var ⟨1⟩]), (⟨1⟩, var ⟨2⟩)]⟩ :=
    Substitution.acyclic_of_rank (fun name => if name = ⟨2⟩ then 0 else name.id.toNat)
      (by decide)
  have second : Substitution.Acyclic ⟨[(⟨0⟩, atom (.float ⟨0x7FF8000000000000⟩))]⟩ :=
    Substitution.acyclic_of_rank (fun _ => 0) (by decide)
  have result
      : Substitution.Acyclic ⟨[(⟨1⟩, atom (.int 3)), (⟨1⟩, var ⟨2⟩), (⟨2⟩, var ⟨1⟩)]⟩ := by
    apply Substitution.no_cycle_of_rank (fun name => if name = ⟨2⟩ then 1 else 0)
    rintro name other ⟨term, found, member⟩
    have occurs := (Term.mem_vars other term).mp member
    have listed := Substitution.mem_bindings_of_lookup? found
    by_cases hides : name = ⟨1⟩
    · subst hides
      cases found
      cases occurs
    · simp only [List.mem_cons, Prod.mk.injEq, hides, false_and, List.not_mem_nil, or_false,
        false_or] at listed
      obtain ⟨rfl, rfl⟩ := listed
      obtain rfl := beq_iff_eq.mp occurs
      decide
  obtain ⟨unchanged, _, ground, again⟩ := unifyWith_unchanged_iff
  refine ⟨first, (unchanged _ _ _ first).mpr rfl, ?_, (ground _ _ rfl rfl).mpr rfl, rfl, ?_⟩
  · exact fun itself => Bool.false_ne_true ((unchanged _ _ _ second).mp itself)
  · exact again .unlimited _ _ ⟨[(⟨1⟩, var ⟨2⟩), (⟨2⟩, var ⟨1⟩)]⟩ _ _ rfl rfl result rfl rfl
      (Substitution.allBound_of_bindings (by decide))

end Unification
