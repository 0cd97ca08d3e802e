import Unification.Proofs.LevelBound
import Unification.Proofs.Solution

/-! Unification with its sides exchanged. The two runs descend in step; they bind two
variables to each other in opposite directions, so that their substitutions differ, but the
variables fall into the same classes with the same values. Failures come out with their
sides exchanged.
-/

namespace Unification

open Unifiable (shape field?)
open Term (var atom compound)

-----------------------------------------------------------------------------------------
-- Matching and clashing with the sides exchanged
-----------------------------------------------------------------------------------------

theorem Atom.sameObject_comm (first second : Atom)
    : first.sameObject second = second.sameObject first := by
  cases first <;> cases second <;> try rfl
  exact Bool.beq_comm

theorem Term.sameObject_comm (first second : Term)
    : first.sameObject second = second.sameObject first := by
  cases first <;> cases second <;> try rfl
  exact Atom.sameObject_comm _ _

theorem Matches.symm {left right : Term} (matching : Matches left right)
    : Matches right left := by
  cases matching with
  | object leftShape rightShape same =>
      exact .object rightShape leftShape ((Term.sameObject_comm right left).trans same)
  | value leftShape rightShape notObjects same =>
      exact .value rightShape leftShape (fun both => notObjects both.symm)
        ((Term.sameValue_comm right left).trans same)

theorem Clash.swap {left right : Term} {failure : Failure} (clash : Clash left right failure)
    : Clash right left failure.swap := by
  cases clash with
  | heads leftShape rightShape different =>
      exact .heads rightShape leftShape (Ne.symm different)
  | objects leftShape rightShape different =>
      exact .objects rightShape leftShape ((Term.sameObject_comm right left).trans different)
  | values leftShape rightShape notObjects different =>
      exact .values rightShape leftShape (fun both => notObjects both.symm)
        ((Term.sameValue_comm right left).trans different)
  | compoundAtom leftShape rightShape => exact .atomCompound rightShape leftShape
  | atomCompound leftShape rightShape => exact .compoundAtom rightShape leftShape

/-- Two values that are no variables are a related step of a run and of one that comes to
them the other way round, if their fields are related pairs.
-/
theorem RootsCorrespond.exchanged_of_known
    {related : Substitution Term → Substitution Term → Prop}
    {pairs : Term → Term → Term → Term → Prop} {start start' : Substitution Term}
    {left right : Term} (leftKnown : Known left) (rightKnown : Known right)
    (holds : related start start')
    (fields
      : ∀ {index first second},
          field? left index = some first → field? right index = some second
          → pairs first second second first)
    : RootsCorrespond related pairs (fun failure failure' => failure' = failure.swap) start
        start' left right right left := by
  rcases matches_or_clash_or_compounds leftKnown rightKnown with
    matching | ⟨failure, clash⟩ | ⟨head, leftShape, rightShape⟩
  · exact .succeeded (.matched matching) (.matched matching.symm) holds
  · exact .failed (.clashed clash) (.clashed clash.swap) rfl
  · refine .descended leftShape rightShape rightShape leftShape rfl rfl ?_
    intro index _
    rcases exists_fields_or_lacking left right index with
      ⟨first, second, leftField, rightField⟩ | absent
    · exact .present leftField rightField rightField leftField (fields leftField rightField)
    · exact .lacking absent absent.symm

-----------------------------------------------------------------------------------------
-- Substitutions that differ in the direction of bindings
-----------------------------------------------------------------------------------------

namespace Substitution

section Chains

variable {α : Type} [Unifiable α] {start other : Substitution α}

/-- Without cycles of variables, a class has one unbound variable at most. -/
theorem ChainAcyclic.eq_of_linked (acyclic : start.ChainAcyclic) {first second : Var}
    (firstLoose : start.Loose first) (secondLoose : start.Loose second)
    (linked : start.Linked first second)
    : first = second := by
  have path := secondLoose.leads_of_linked linked
  rcases path.cases_head with same | ⟨_, ⟨_, found, _⟩, _⟩
  · exact same
  · simp [acyclic.lookup?_of_loose firstLoose] at found

/-- Two substitutions without cycles of variables that bind equally often and are alike. -/
structure Reoriented (first second : Substitution α) : Prop where
  alike : first.Alike second
  acyclic : first.ChainAcyclic
  otherAcyclic : second.ChainAcyclic
  size : first.size = second.size

theorem Reoriented.refl (acyclic : start.ChainAcyclic) : start.Reoriented start :=
  ⟨.refl start, acyclic, acyclic, rfl⟩

/-- Substitutions remain reoriented when each binds a variable at a root to another root, as
long as they remain alike.
-/
theorem Reoriented.extend (reoriented : start.Reoriented other) {name name' : Var}
    {value value' : α}
    (alike : (start.extend name (start.walk value)).Alike
      (other.extend name' (other.walk value')))
    (apart : shape (start.walk value) ≠ .unknown name)
    (apart' : shape (other.walk value') ≠ .unknown name')
    : (start.extend name (start.walk value)).Reoriented
        (other.extend name' (other.walk value')) where
  alike := alike
  acyclic := reoriented.acyclic.extend (reoriented.acyclic.hop?_walk value) apart
  otherAcyclic :=
    reoriented.otherAcyclic.extend (reoriented.otherAcyclic.hop?_walk value') apart'
  size := congrArg (· + 1) reoriented.size

end Chains

end Substitution

/-- A step and the step with the sides exchanged lead to substitutions that differ at most
in the direction of bindings, to exchanged failures, or to exchanged pairs of fields.
-/
theorem exchange_simulation
    : Simulation (α := Term) Substitution.Reoriented
        (fun left right left' right' => left = right' ∧ right = left')
        (fun failure failure' => failure' = failure.swap) where
  roots := by
    rintro start start' left right _ _ reoriented ⟨rfl, rfl⟩
    have alike := reoriented.alike
    have loose (value : Term) := Substitution.isRoot_walk start value
    have loose' (value : Term) := Substitution.isRoot_walk start' value
    rcases alike.walk_cases left with
      ⟨leftKnown, leftSame⟩ | ⟨first, first', leftShape, leftShape', leftLinked⟩
    all_goals rcases alike.walk_cases right with
      ⟨rightKnown, rightSame⟩ | ⟨second, second', rightShape, rightShape', rightLinked⟩
    -- two values are the same in both runs
    · rw [leftSame, rightSame]
      exact .exchanged_of_known leftKnown rightKnown reoriented (fun _ _ => ⟨rfl, rfl⟩)
    -- a value for a class, on either side
    · have extended := alike.extend_known (loose right second rightShape)
        (loose' right second' rightShape') rightLinked leftKnown
      have apart' : shape (start'.walk left) ≠ .unknown second' := leftSame ▸ leftKnown second'
      refine .succeeded (.boundRight leftKnown rightShape) (.boundLeft rightShape' apart') ?_
      refine reoriented.extend ?_ (leftKnown second) apart'
      rwa [leftSame]
    · have extended := alike.extend_known (loose left first leftShape)
        (loose' left first' leftShape') leftLinked rightKnown
      have known' : Known (start'.walk right) := rightSame ▸ rightKnown
      refine .succeeded (.boundLeft leftShape (rightKnown first))
        (.boundRight known' leftShape') ?_
      refine reoriented.extend ?_ (rightKnown first) (known' first')
      rwa [rightSame]
    -- two classes without value: each run binds the variable on its own left
    · have leftLoose := loose left first leftShape
      have rightLoose := loose right second rightShape
      have leftLoose' := loose' left first' leftShape'
      have rightLoose' := loose' right second' rightShape'
      have leftLinked' := (alike.linked _ _).mp leftLinked
      have rightLinked' := (alike.linked _ _).mp rightLinked
      by_cases same : first = second
      · subst same
        have same' : first' = second' := by
          apply reoriented.otherAcyclic.eq_of_linked leftLoose' rightLoose'
          exact (Substitution.linked_equivalence start').trans
            ((Substitution.linked_equivalence start').symm leftLinked') rightLinked'
        subst same'
        exact .succeeded (.same leftShape rightShape) (.same rightShape' leftShape') reoriented
      · have apart : shape (start.walk right) ≠ .unknown first := by
          rw [rightShape]
          exact fun equal => same (Shape.unknown.inj equal).symm
        have apart' : shape (start'.walk left) ≠ .unknown second' := by
          rw [leftShape']
          intro equal
          refine same (reoriented.acyclic.eq_of_linked leftLoose rightLoose ?_)
          have rightBack := (Substitution.linked_equivalence start).symm rightLinked
          exact (Substitution.linked_equivalence start).trans leftLinked
            (Shape.unknown.inj equal ▸ rightBack)
        refine .succeeded (.boundLeft leftShape apart) (.boundLeft rightShape' apart') ?_
        refine reoriented.extend ?_ apart apart'
        have joined := alike.extend_linked leftLoose leftLoose' rightShape rightShape'
          rightLoose rightLoose' leftLinked rightLinked
        exact joined.trans
          (leftLoose'.alike_extend_exchanged rightLoose' rightShape' leftShape')

-----------------------------------------------------------------------------------------
-- Calls with their sides exchanged
-----------------------------------------------------------------------------------------

/-- Two results are the same but for the direction of bindings: they have the same length,
every walk ends at the same value that is no variable or at unbound variables, and the same
variables share an unbound variable at the ends of their walks.
-/
structure Substitution.SameUpToDirection (first second : Substitution Term) : Prop where
  size : first.size = second.size
  walks
    : ∀ term,
        (Known (first.walk term) ∧ second.walk term = first.walk term)
        ∨ ∃ name name',
            (first.walk term = var name ∧ first.lookup? name = none)
            ∧ (second.walk term = var name' ∧ second.lookup? name' = none)
  sharing
    : ∀ name other,
        (∃ free,
            first.lookup? free = none
            ∧ first.walk (var name) = var free
            ∧ first.walk (var other) = var free)
        ↔ ∃ free,
            second.lookup? free = none
            ∧ second.walk (var name) = var free
            ∧ second.walk (var other) = var free

namespace Substitution

variable {first second : Substitution Term}

theorem Reoriented.symm (reoriented : first.Reoriented second) : second.Reoriented first :=
  ⟨reoriented.alike.symm, reoriented.otherAcyclic, reoriented.acyclic, reoriented.size.symm⟩

/-- Variables that share an unbound variable at the ends of their walks share one in the
other substitution too, since their class has only one there.
-/
theorem Reoriented.shares (reoriented : first.Reoriented second) {name other free : Var}
    (nameWalk : first.walk (var name) = var free)
    (otherWalk : first.walk (var other) = var free)
    : ∃ free,
        second.lookup? free = none
        ∧ second.walk (var name) = var free
        ∧ second.walk (var other) = var free := by
  have root (name : Var) (walked : first.walk (var name) = var free)
      : ∃ last,
          shape (second.walk (var name)) = .unknown last ∧ first.Linked free last := by
    rcases reoriented.alike.walk_cases (var name) with
      ⟨known, _⟩ | ⟨_, last, firstShape, secondShape, linked⟩
    · exact (known free (congrArg shape walked)).elim
    · have same := Shape.unknown.inj ((congrArg shape walked).symm.trans firstShape)
      exact ⟨last, secondShape, same ▸ linked⟩
  obtain ⟨last, nameShape, nameLinked⟩ := root name nameWalk
  obtain ⟨last', otherShape, otherLinked⟩ := root other otherWalk
  have linked : second.Linked last last' := by
    apply (reoriented.alike.linked last last').mp
    exact (linked_equivalence first).trans ((linked_equivalence first).symm nameLinked)
      otherLinked
  have same := reoriented.otherAcyclic.eq_of_linked (isRoot_walk second _ last nameShape)
    (isRoot_walk second _ last' otherShape) linked
  subst same
  exact ⟨last, reoriented.otherAcyclic.lookup?_walk nameShape, Term.eq_var_of_shape nameShape,
    Term.eq_var_of_shape otherShape⟩

theorem Reoriented.sameUpToDirection (reoriented : first.Reoriented second)
    : first.SameUpToDirection second where
  size := reoriented.size
  walks term := by
    rcases reoriented.alike.walk_cases term with
      same | ⟨name, name', firstShape, secondShape, _⟩
    · exact .inl same
    · exact .inr ⟨name, name',
        ⟨Term.eq_var_of_shape firstShape, reoriented.acyclic.lookup?_walk firstShape⟩,
        ⟨Term.eq_var_of_shape secondShape, reoriented.otherAcyclic.lookup?_walk secondShape⟩⟩
  sharing name other := by
    constructor
    · rintro ⟨free, _, nameWalk, otherWalk⟩
      exact reoriented.shares nameWalk otherWalk
    · rintro ⟨free, _, nameWalk, otherWalk⟩
      exact reoriented.symm.shares nameWalk otherWalk

end Substitution

/-- From a substitution without cycles of variables, a call and the call with the sides
exchanged agree under every setting: neither returns, both fail with failures that differ in
their sides alone, or both succeed with results that differ in the direction of bindings
alone.
-/
theorem unifyWith_exchanged (config : Config) (left right : Term) (start : Substitution Term)
    (acyclic : start.ChainAcyclic)
    : RunsAgree Substitution.SameUpToDirection
        (fun failure failure' => failure' = failure.swap)
        (unifyWith config left right start) (unifyWith config right left start) := by
  have agree := exchange_simulation.unifyWith_agree config.refusals_agree_swap
    (Substitution.Reoriented.refl acyclic) (And.intro (Eq.refl left) (Eq.refl right))
  exact agree.mono (fun _ _ reoriented => reoriented.sameUpToDirection)

/-- Two variables are bound to each other, one way or the other, before one of them gets a
value. The circular binding at the start is taken apart and bound again.
-/
theorem unifyWith_exchanged_of_circular_binding
    : Substitution.ChainAcyclic (α := Term) ⟨[(⟨5⟩, compound 4 [var ⟨5⟩]), (⟨7⟩, var ⟨5⟩)]⟩
      ∧ (unifyWith .unlimited (compound 3 [var ⟨0⟩, var ⟨1⟩, var ⟨7⟩])
            (compound 3 [var ⟨1⟩, atom .unit, compound 4 [var ⟨2⟩]])
            ⟨[(⟨5⟩, compound 4 [var ⟨5⟩]), (⟨7⟩, var ⟨5⟩)]⟩).map
          Run.answer
        = some
            (.ok
              ⟨[(⟨2⟩, compound 4 [var ⟨5⟩]), (⟨1⟩, atom .unit), (⟨0⟩, var ⟨1⟩),
                  (⟨5⟩, compound 4 [var ⟨5⟩]), (⟨7⟩, var ⟨5⟩)]⟩)
      ∧ (unifyWith .unlimited (compound 3 [var ⟨1⟩, atom .unit, compound 4 [var ⟨2⟩]])
            (compound 3 [var ⟨0⟩, var ⟨1⟩, var ⟨7⟩])
            ⟨[(⟨5⟩, compound 4 [var ⟨5⟩]), (⟨7⟩, var ⟨5⟩)]⟩).map
          Run.answer
        = some
            (.ok
              ⟨[(⟨2⟩, compound 4 [var ⟨5⟩]), (⟨0⟩, atom .unit), (⟨1⟩, var ⟨0⟩),
                  (⟨5⟩, compound 4 [var ⟨5⟩]), (⟨7⟩, var ⟨5⟩)]⟩)
      ∧ Substitution.SameUpToDirection
          ⟨[(⟨2⟩, compound 4 [var ⟨5⟩]), (⟨1⟩, atom .unit), (⟨0⟩, var ⟨1⟩),
              (⟨5⟩, compound 4 [var ⟨5⟩]), (⟨7⟩, var ⟨5⟩)]⟩
          ⟨[(⟨2⟩, compound 4 [var ⟨5⟩]), (⟨0⟩, atom .unit), (⟨1⟩, var ⟨0⟩),
              (⟨5⟩, compound 4 [var ⟨5⟩]), (⟨7⟩, var ⟨5⟩)]⟩ := by
  have first : (Substitution.empty.extend ⟨7⟩ (var ⟨5⟩)).ChainAcyclic :=
    Substitution.chainAcyclic_empty.extend rfl (by decide)
  have acyclic : Substitution.ChainAcyclic ⟨[(⟨5⟩, compound 4 [var ⟨5⟩]), (⟨7⟩, var ⟨5⟩)]⟩ :=
    first.extend rfl (by decide)
  have agree := unifyWith_exchanged .unlimited (compound 3 [var ⟨0⟩, var ⟨1⟩, var ⟨7⟩])
    (compound 3 [var ⟨1⟩, atom .unit, compound 4 [var ⟨2⟩]])
    ⟨[(⟨5⟩, compound 4 [var ⟨5⟩]), (⟨7⟩, var ⟨5⟩)]⟩ acyclic
  refine ⟨acyclic, rfl, rfl, ?_⟩
  cases agree with
  | succeeded left right holds =>
      cases left
      cases right
      exact holds
  | failed left => cases left

end Unification
