import Unification.Term.Unifiable
import Unification.Unifier.Levels

/-! Unification with occurs check. The run is the one without a deepest level, except that a
variable is not bound to a term from which it can be reached through the active bindings.
Where that would happen, the outcome is that the binding is circular. As for runs without
the check, outcomes are computed down to a given level of descent.
-/

namespace Unification

namespace Substitution

/-- Whether a variable is reached from a term through so many active bindings at most, one
inside the other.
-/
def reachesWithin (substitution : Substitution Term) (sought : Var) : Nat → Term → Bool
  | 0, term => term.occurs sought
  | steps + 1, term =>
      term.occurs sought
        || term.vars.toList.any (fun name =>
          (substitution.lookup? name).any (reachesWithin substitution sought steps))

/-- Whether a variable is reached from a term. Without cycles no more bindings are nested
than there are.
-/
def reaches (substitution : Substitution Term) (sought : Var) (term : Term) : Bool :=
  substitution.reachesWithin sought substitution.size term

end Substitution

/-- What becomes of unification with occurs check: it is not finished at the last level, it
comes to a circular binding, or it is settled by an answer.
-/
inductive Checked
  | unfinished
  | circular
  | settled (answer : Except Failure (Substitution Term))

/-- A success goes on with its substitution; everything else is final. -/
def Checked.andThen (outcome : Checked) (next : Substitution Term → Checked) : Checked :=
  match outcome with
  | settled (.ok substitution) => next substitution
  | other => other

/-- A binding of a variable to a term that does not lead back to it. -/
def bindChecked (name : Var) (value : Term) (substitution : Substitution Term) : Checked :=
  if substitution.reaches name value then
    .circular
  else
    .settled (.ok (substitution.extend name value))

/-- Unification of the fields of two compounds with the same head, from an index on, for as
many fields as remain.
-/
def checkedFields (unifyPair : Term → Term → Substitution Term → Checked) (head : Head)
    (left right : Term) : Nat → Nat → Substitution Term → Checked
  | 0, _, substitution => .settled (.ok substitution)
  | remaining + 1, index, substitution =>
      match Unifiable.field? left index, Unifiable.field? right index with
      | some first, some second =>
          (unifyPair first second substitution).andThen
            (checkedFields unifyPair head left right remaining (index + 1))
      | _, _ => .settled (.error (.headsDiffer head head))

/-- Unification of two terms that have been walked to their roots. -/
def checkedRoots (unifyPair : Term → Term → Substitution Term → Checked) (left right : Term)
    (substitution : Substitution Term) : Checked :=
  match Unifiable.shape left, Unifiable.shape right with
  | .unknown first, .unknown second =>
      if first = second then
        .settled (.ok substitution)
      else
        bindChecked first (Unifiable.clone right) substitution
  | .unknown first, _ => bindChecked first (Unifiable.clone right) substitution
  | _, .unknown second => bindChecked second (Unifiable.clone left) substitution
  | .compound first, .compound second =>
      if first = second then
        checkedFields unifyPair first left right first.arity 0 substitution
      else
        .settled (.error (.headsDiffer first second))
  | .atomic .byObject, .atomic .byObject =>
      if Unifiable.sameObject left right then
        .settled (.ok substitution)
      else
        .settled (.error .objectsDiffer)
  | .atomic _, .atomic _ =>
      if Unifiable.sameValue left right then
        .settled (.ok substitution)
      else
        .settled (.error .valuesDiffer)
  | _, _ => .settled (.error .valuesDiffer)

/-- The outcome on a pair, computed for the given number of levels. -/
def descendChecked : Nat → Term → Term → Substitution Term → Checked
  | 0, _, _, _ => .unfinished
  | levels + 1, left, right, substitution =>
      checkedRoots (descendChecked levels) (substitution.walk left) (substitution.walk right)
        substitution

section Steps

open Unifiable (field?)

variable {unifyPair : Term → Term → Substitution Term → Checked} {head : Head}
  {left right first second : Term} {index : Nat}

theorem checkedFields_of_fields (leftField : field? left index = some first)
    (rightField : field? right index = some second) (remaining : Nat)
    (start : Substitution Term)
    : checkedFields unifyPair head left right (remaining + 1) index start
      = (unifyPair first second start).andThen
          (checkedFields unifyPair head left right remaining (index + 1)) := by
  simp only [checkedFields, leftField, rightField]

theorem checkedFields_of_lacking
    (absent : field? left index = none ∨ field? right index = none) (remaining : Nat)
    (start : Substitution Term)
    : checkedFields unifyPair head left right (remaining + 1) index start
      = .settled (.error (.headsDiffer head head)) := by
  rcases absent with absent | absent
  · simp only [checkedFields, absent]
  · cases leftField : field? left index <;> simp only [checkedFields, leftField, absent]

end Steps

variable {few many : Term → Term → Substitution Term → Checked}

/-- The fields keep an outcome when their pairs do, by induction on the fields that remain.
-/
theorem checkedFields_mono
    (keeps
      : ∀ left right start,
          few left right start ≠ .unfinished
          → many left right start = few left right start)
    (head : Head) (left right : Term) (remaining index : Nat) (start : Substitution Term)
    (finished : checkedFields few head left right remaining index start ≠ .unfinished)
    : checkedFields many head left right remaining index start
      = checkedFields few head left right remaining index start := by
  induction remaining generalizing index start with
  | zero => rfl
  | succ remaining ih =>
      rcases exists_fields_or_lacking left right index with
        ⟨first, second, leftField, rightField⟩ | absent
      · rw [checkedFields_of_fields leftField rightField] at finished ⊢
        rw [checkedFields_of_fields leftField rightField]
        have pair : few first second start ≠ .unfinished := by
          intro unfinished
          rw [unfinished] at finished
          exact finished rfl
        rw [keeps first second start pair]
        cases outcome : few first second start with
        | unfinished | circular => rfl
        | settled answer =>
            rw [outcome] at finished
            cases answer with
            | error failure => rfl
            | ok middle => exact ih (index + 1) middle finished
      · rw [checkedFields_of_lacking absent, checkedFields_of_lacking absent]

/-- One more level keeps an outcome, by induction on the levels. -/
theorem descendChecked_succ (levels : Nat) (left right : Term) (start : Substitution Term)
    (finished : descendChecked levels left right start ≠ .unfinished)
    : descendChecked (levels + 1) left right start
      = descendChecked levels left right start := by
  induction levels generalizing left right start with
  | zero => exact (finished rfl).elim
  | succ levels ih =>
      unfold descendChecked checkedRoots at finished ⊢
      split <;> try rfl
      next first second leftShape rightShape =>
        simp only [leftShape, rightShape] at finished
        split
        next same =>
          rw [if_pos same] at finished
          exact checkedFields_mono ih _ _ _ _ _ _ finished
        next => rfl

/-- Any number of further levels keeps an outcome. -/
theorem descendChecked_mono {levels more : Nat} (atMost : levels ≤ more) {left right : Term}
    {start : Substitution Term}
    (finished : descendChecked levels left right start ≠ .unfinished)
    : descendChecked more left right start = descendChecked levels left right start := by
  induction atMost with
  | refl => rfl
  | step _ ih => exact (descendChecked_succ _ left right start (ih ▸ finished)).trans ih

end Unification
