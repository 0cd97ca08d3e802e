import Unification.Config.Basic
import Unification.Event
import Unification.Substitution.Walk

/-! First-order unification without occurs check. A pair of values is walked to its roots
under the bindings made so far; a variable is bound to a copy of the other root, compounds
are unified field by field, and atoms are compared. Since a variable may be bound to a value
that contains it, a run need not end. It is therefore computed down to a given level of
descent, below which there is no answer yet, and for values with finitely many parts some
level serves every run that ends.
-/

namespace Unification

/-- The reports of a run in their order, and its answer. -/
structure Run (α : Type) where
  log : List Event
  answer : Except Failure (Substitution α)

namespace Run

variable {α : Type}

/-- A run that reports nothing and succeeds. -/
def succeed (substitution : Substitution α) : Run α :=
  ⟨[], .ok substitution⟩

/-- A run that reports nothing and fails. -/
def fail (failure : Failure) : Run α :=
  ⟨[], .error failure⟩

/-- A run with a report in front of all others. -/
def report (event : Event) (run : Run α) : Run α :=
  ⟨event :: run.log, run.answer⟩

/-- A successful run goes on with its substitution; a failure is final. -/
def andThen (run : Run α) (next : Substitution α → Option (Run α)) : Option (Run α) :=
  match run.answer with
  | .error _ => some run
  | .ok substitution =>
      (next substitution).map (fun later => ⟨run.log ++ later.log, later.answer⟩)

/-- The report of how a run came out. -/
def outcome (run : Run α) : Event :=
  match run.answer with
  | .ok substitution => .succeeded substitution.size
  | .error failure => .failed failure

/-- A run with the report of its outcome at the end. -/
def conclude (run : Run α) : Run α :=
  ⟨run.log ++ [run.outcome], run.answer⟩

end Run

section Descent

variable {α : Type} [Unifiable α]

/-- Unification of the fields of two compounds with the same head, from an index on, for
as many fields as remain. The substitution goes from each pair of fields to the next. A
field that one side lacks is a difference of the heads.
-/
def unifyFields (unifyPair : α → α → Substitution α → Option (Run α)) (head : Head)
    (left right : α) : Nat → Nat → Substitution α → Option (Run α)
  | 0, _, substitution => some (.succeed substitution)
  | remaining + 1, index, substitution =>
      match Unifiable.field? left index, Unifiable.field? right index with
      | some first, some second =>
          (unifyPair first second substitution).bind (fun run =>
            run.andThen (unifyFields unifyPair head left right remaining (index + 1)))
      | _, _ => some (.fail (.headsDiffer head head))

/-- The failure at a depth that a setting does not permit. -/
def Config.refusal? (config : Config) (depth : Nat) : Option Failure :=
  match config.maxDepth with
  | some limit => if limit < depth then some (.tooDeep limit) else none
  | none => none

/-- Unification of two values that have been walked to their roots; the pairs of their
fields are left to the given function.
-/
def unifyRoots (unifyPair : α → α → Substitution α → Option (Run α)) (depth : Nat)
    (left right : α) (substitution : Substitution α) : Option (Run α) :=
  match Unifiable.shape left, Unifiable.shape right with
  | .unknown first, .unknown second =>
      if first = second then
        some (.succeed substitution)
      else
        some
          ((Run.succeed (substitution.extend first (Unifiable.clone right))).report
            (.bound first depth))
  | .unknown first, _ =>
      some
        ((Run.succeed (substitution.extend first (Unifiable.clone right))).report
          (.bound first depth))
  | _, .unknown second =>
      some
        ((Run.succeed (substitution.extend second (Unifiable.clone left))).report
          (.bound second depth))
  | .compound first, .compound second =>
      if first = second then
        (unifyFields unifyPair first left right first.arity 0 substitution).map
          (Run.report (.descended first depth))
      else
        some (.fail (.headsDiffer first second))
  | .atomic .byObject, .atomic .byObject =>
      if Unifiable.sameObject left right then
        some (.succeed substitution)
      else
        some (.fail .objectsDiffer)
  | .atomic _, .atomic _ =>
      if Unifiable.sameValue left right then
        some (.succeed substitution)
      else
        some (.fail .valuesDiffer)
  | _, _ => some (.fail .valuesDiffer)

/-- The run on a pair at a depth, computed for the given number of levels from there on. A
forbidden depth fails before anything else is looked at. There is no answer when the run
goes below the last level.
-/
def descend (config : Config) : Nat → Nat → α → α → Substitution α → Option (Run α)
  | 0, _, _, _, _ => none
  | levels + 1, depth, left, right, substitution =>
      match config.refusal? depth with
      | some failure => some (.fail failure)
      | none =>
          unifyRoots (descend config levels (depth + 1)) depth (substitution.walk left)
            (substitution.walk right) substitution

end Descent

section Entry

variable {α : Type} [FinitelyBuilt α]

/-- The parts of two values and of all values in a substitution. -/
def allParts (left right : α) (substitution : Substitution α) : List α :=
  FinitelyBuilt.parts left ++ FinitelyBuilt.parts right
    ++ substitution.bindings.flatMap (fun binding => FinitelyBuilt.parts binding.2)

/-- How many levels are computed. A setting with a deepest level needs one level for each
permitted depth and one for the first forbidden one. Without a setting, all pairs met on
the way down consist of parts of the given values. A binding that changes what the
variables stand for joins two variables without value or gives a value to one, so there
are no more of them than parts; and a run that meets the same pair twice, one inside the
other, without such a binding between them goes on for ever. A run that ends is therefore
no deeper than the product of these counts.
-/
def levelsNeeded (config : Config) (left right : α) (substitution : Substitution α) : Nat :=
  match config.maxDepth with
  | some limit => limit + 2
  | none =>
      let count := (allParts left right substitution).length
      (count * count + 1) * (count + 1) + 1

/-- Unification on top of the bindings of a substitution, with the outcome as the last
report. There is no result when the run never ends.
-/
def unifyWith (config : Config) (left right : α) (substitution : Substitution α)
    : Option (Run α) :=
  (descend config (levelsNeeded config left right substitution) 0 left right
    substitution).map Run.conclude

/-- Unification from the empty substitution. -/
def unify (config : Config) (left right : α) : Option (Run α) :=
  unifyWith config left right .empty

/-- Unification of several pairs in order, from a substitution, up to the first failure.
-/
def unifyManyWith (config : Config) : List (α × α) → Substitution α → Option (Run α)
  | [], substitution => some (.succeed substitution)
  | (left, right) :: rest, substitution =>
      (unifyWith config left right substitution).bind (fun run =>
        run.andThen (unifyManyWith config rest))

/-- Unification of several pairs from the empty substitution. -/
def unifyMany (config : Config) (pairs : List (α × α)) : Option (Run α) :=
  unifyManyWith config pairs .empty

end Entry

end Unification
