import Unification.Unifier.Levels

/-! Runs of unification as derivations. A derivation follows the three layers of a run,
pairs, their roots, and the fields of compounds, without counting levels; every run that
has an answer at some level has one.
-/

namespace Unification

open Unifiable (shape field? sameObject sameValue clone)

section Derivation

variable {α : Type} [Unifiable α]

-----------------------------------------------------------------------------------------
-- How two atoms compare, and how two roots clash
-----------------------------------------------------------------------------------------

/-- Two atoms that unify: the same object where both are objects, else equal values. -/
inductive Matches (left right : α) : Prop
  | object (leftShape : shape left = .atomic .byObject)
    (rightShape : shape right = .atomic .byObject) (same : sameObject left right = true)
    : Matches left right
  | value {first second : Comparison} (leftShape : shape left = .atomic first)
    (rightShape : shape right = .atomic second)
    (notObjects : ¬ (first = .byObject ∧ second = .byObject))
    (same : sameValue left right = true)
    : Matches left right

/-- Two roots that no binding could make equal, with the failure that reports them. -/
inductive Clash (left right : α) : Failure → Prop
  | heads {first second : Head} (leftShape : shape left = .compound first)
    (rightShape : shape right = .compound second) (different : first ≠ second)
    : Clash left right (.headsDiffer first second)
  | objects (leftShape : shape left = .atomic .byObject)
    (rightShape : shape right = .atomic .byObject) (different : sameObject left right = false)
    : Clash left right .objectsDiffer
  | values {first second : Comparison} (leftShape : shape left = .atomic first)
    (rightShape : shape right = .atomic second)
    (notObjects : ¬ (first = .byObject ∧ second = .byObject))
    (different : sameValue left right = false)
    : Clash left right .valuesDiffer
  | compoundAtom {head : Head} {comparison : Comparison}
    (leftShape : shape left = .compound head) (rightShape : shape right = .atomic comparison)
    : Clash left right .valuesDiffer
  | atomCompound {comparison : Comparison} {head : Head}
    (leftShape : shape left = .atomic comparison) (rightShape : shape right = .compound head)
    : Clash left right .valuesDiffer

-----------------------------------------------------------------------------------------
-- Derivations
-----------------------------------------------------------------------------------------

/-- What a run is asked for: a pair of values, their roots once they have been walked, or
so many fields of two compounds with the same head, from an index on.
-/
inductive Goal (α : Type)
  | pair (left right : α)
  | roots (left right : α)
  | fields (head : Head) (left right : α) (remaining index : Nat)

/-- The run on a goal at a depth, from a substitution. The fields of a compound are pairs
one level deeper, and each starts from the substitution that the fields before it leave.
-/
inductive Settles (config : Config) : Goal α → Nat → Substitution α → Run α → Prop
  | refused {left right depth start failure}
    (refusal : config.refusal? depth = some failure)
    : Settles config (.pair left right) depth start (.fail failure)
  | walked {left right depth start run} (permitted : config.refusal? depth = none)
    (settled : Settles config (.roots (start.walk left) (start.walk right)) depth start run)
    : Settles config (.pair left right) depth start run
  | same {left right depth start name} (leftShape : shape left = .unknown name)
    (rightShape : shape right = .unknown name)
    : Settles config (.roots left right) depth start (.succeed start)
  | boundLeft {left right depth start name} (leftShape : shape left = .unknown name)
    (other : shape right ≠ .unknown name)
    : Settles config (.roots left right) depth start
        ((Run.succeed (start.extend name (clone right))).report (.bound name depth))
  | boundRight {left right depth start name} (known : ∀ other, shape left ≠ .unknown other)
    (rightShape : shape right = .unknown name)
    : Settles config (.roots left right) depth start
        ((Run.succeed (start.extend name (clone left))).report (.bound name depth))
  | descended {left right depth start head run} (leftShape : shape left = .compound head)
    (rightShape : shape right = .compound head)
    (settled : Settles config (.fields head left right head.arity 0) depth start run)
    : Settles config (.roots left right) depth start (run.report (.descended head depth))
  | matched {left right depth start} (matching : Matches left right)
    : Settles config (.roots left right) depth start (.succeed start)
  | clashed {left right depth start failure} (clash : Clash left right failure)
    : Settles config (.roots left right) depth start (.fail failure)
  | finished {head left right index depth start}
    : Settles config (.fields head left right 0 index) depth start (.succeed start)
  | lacking {head left right remaining index depth start}
    (absent : field? left index = none ∨ field? right index = none)
    : Settles config (.fields head left right (remaining + 1) index) depth start
        (.fail (.headsDiffer head head))
  | stopped {head left right remaining index depth start first second run failure}
    (leftField : field? left index = some first)
    (rightField : field? right index = some second)
    (settled : Settles config (.pair first second) (depth + 1) start run)
    (failed : run.answer = .error failure)
    : Settles config (.fields head left right (remaining + 1) index) depth start run
  | advanced {head left right remaining index depth start first second run middle later}
    (leftField : field? left index = some first)
    (rightField : field? right index = some second)
    (settled : Settles config (.pair first second) (depth + 1) start run)
    (succeeded : run.answer = .ok middle)
    (rest
      : Settles config (.fields head left right remaining (index + 1)) depth middle later)
    : Settles config (.fields head left right (remaining + 1) index) depth start
        ⟨run.log ++ later.log, later.answer⟩

variable {config : Config} {unifyPair : α → α → Substitution α → Option (Run α)}
  {depth : Nat}

/-- The run on several fields is a derivation when the runs on their pairs are, by
induction on the fields that remain.
-/
theorem unifyFields_settles
    (derives
      : ∀ left right start run,
          unifyPair left right start = some run
          → Settles config (.pair left right) (depth + 1) start run)
    (head : Head) (left right : α) (remaining index : Nat) (start : Substitution α)
    (run : Run α)
    (answered : unifyFields unifyPair head left right remaining index start = some run)
    : Settles config (.fields head left right remaining index) depth start run := by
  induction remaining generalizing index start run with
  | zero =>
      cases answered
      exact .finished
  | succ remaining ih =>
      rcases exists_fields_or_lacking left right index with
        ⟨first, second, leftField, rightField⟩ | absent
      · rw [unifyFields_of_fields leftField rightField] at answered
        obtain ⟨pair, found, rest⟩ := Option.bind_eq_some_iff.mp answered
        have settled := derives first second start pair found
        cases answer : pair.answer with
        | error failure =>
            rw [Run.andThen_of_error answer] at rest
            cases rest
            exact .stopped leftField rightField settled answer
        | ok middle =>
            rw [Run.andThen_of_ok answer] at rest
            obtain ⟨later, laterFound, rfl⟩ := Option.map_eq_some_iff.mp rest
            exact .advanced leftField rightField settled answer (ih _ _ _ laterFound)
      · rw [unifyFields_of_lacking absent] at answered
        cases answered
        exact .lacking absent

/-- The run on two roots is a derivation when the runs on pairs of fields are, by the cases
of their shapes.
-/
theorem unifyRoots_settles
    (derives
      : ∀ left right start run,
          unifyPair left right start = some run
          → Settles config (.pair left right) (depth + 1) start run)
    (left right : α) (start : Substitution α) (run : Run α)
    (answered : unifyRoots unifyPair depth left right start = some run)
    : Settles config (.roots left right) depth start run := by
  unfold unifyRoots at answered
  split at answered
  next first second leftShape rightShape =>
    split at answered
    next equal =>
      cases answered
      exact .same leftShape (equal ▸ rightShape)
    next different =>
      cases answered
      refine .boundLeft leftShape ?_
      rw [rightShape]
      exact fun equal => different (Shape.unknown.inj equal).symm
  next first leftShape known =>
    cases answered
    exact .boundLeft leftShape (known first)
  next second rightShape known =>
    cases answered
    exact .boundRight known rightShape
  next first second leftShape rightShape =>
    split at answered
    next equal =>
      obtain ⟨fields, found, rfl⟩ := Option.map_eq_some_iff.mp answered
      subst equal
      exact .descended leftShape rightShape
        (unifyFields_settles derives _ _ _ _ _ _ _ found)
    next different =>
      cases answered
      exact .clashed (.heads leftShape rightShape different)
  next leftShape rightShape =>
    split at answered
    next same =>
      cases answered
      exact .matched (.object leftShape rightShape same)
    next different =>
      cases answered
      exact .clashed (.objects leftShape rightShape (Bool.eq_false_iff.mpr different))
  next first second notObjects leftShape rightShape =>
    have apart : ¬ (first = .byObject ∧ second = .byObject) :=
      fun both => notObjects both.1 both.2
    split at answered
    next same =>
      cases answered
      exact .matched (.value leftShape rightShape apart same)
    next different =>
      cases answered
      exact .clashed (.values leftShape rightShape apart (Bool.eq_false_iff.mpr different))
  next leftKnown rightKnown _ bothCompound _ bothAtomic =>
    cases answered
    cases leftShape : shape left with
    | unknown name => exact (leftKnown name leftShape).elim
    | atomic comparison =>
        cases rightShape : shape right with
        | unknown name => exact (rightKnown name rightShape).elim
        | atomic other => exact (bothAtomic comparison other leftShape rightShape).elim
        | compound head => exact .clashed (.atomCompound leftShape rightShape)
    | compound head =>
        cases rightShape : shape right with
        | unknown name => exact (rightKnown name rightShape).elim
        | atomic comparison => exact .clashed (.compoundAtom leftShape rightShape)
        | compound other => exact (bothCompound head other leftShape rightShape).elim

/-- A run that has an answer at some number of levels is a derivation, by induction on the
levels.
-/
theorem descend_settles (config : Config) (levels depth : Nat) (left right : α)
    (start : Substitution α) (run : Run α)
    (answered : descend config levels depth left right start = some run)
    : Settles config (.pair left right) depth start run := by
  induction levels generalizing depth left right start run with
  | zero => cases answered
  | succ levels ih =>
      cases refusal : config.refusal? depth with
      | some failure =>
          rw [descend_of_refused refusal] at answered
          cases answered
          exact .refused refusal
      | none =>
          rw [descend_of_permitted refusal] at answered
          exact .walked refusal (unifyRoots_settles (ih (depth + 1)) _ _ _ _ answered)

end Derivation

/-- A call that has a result is a derivation at the outermost depth, whose run the call
concludes.
-/
theorem unifyWith_settles {α : Type} [FinitelyBuilt α] {config : Config} {left right : α}
    {start : Substitution α} {run : Run α}
    (found : unifyWith config left right start = some run)
    : ∃ inner, Settles config (.pair left right) 0 start inner ∧ inner.conclude = run := by
  obtain ⟨inner, answered, concluded⟩ := Option.map_eq_some_iff.mp found
  exact ⟨inner, descend_settles config _ 0 left right start inner answered, concluded⟩

end Unification
