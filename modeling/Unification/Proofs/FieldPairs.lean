import Unification.Proofs.LevelBound

/-! Pairs in order, and compounds that have these pairs as their fields. Both are unified from
the first pair to the last, each from the result of the one before, and up to the first
failure. They differ only in the depth at which each pair begins: a list of pairs begins each
of them anew, while a compound stands one level above all of them.
-/

namespace Unification

open Unifiable (shape field?)
open Term (atom compound)

-----------------------------------------------------------------------------------------
-- Runs in a row
-----------------------------------------------------------------------------------------

section Sequence

variable {α : Type}

/-- A run goes on alike whether what follows it is taken in two parts or in one. -/
theorem Run.bind_andThen_assoc (found : Option (Run α))
    (next further : Substitution α → Option (Run α))
    : (found.bind (fun run => run.andThen next)).bind (fun run => run.andThen further)
      = found.bind (fun run =>
          run.andThen (fun middle => (next middle).bind (fun run => run.andThen further))) := by
  rcases found with _ | ⟨log, failure | middle⟩
  · rfl
  · rfl
  · simp only [Option.bind_some, andThen]
    rcases next middle with _ | ⟨laterLog, failure | result⟩
    · rfl
    · rfl
    · simp [Function.comp_def]

/-- A run that goes on by reporting nothing and succeeding is itself. -/
theorem Run.bind_andThen_succeed (found : Option (Run α))
    : found.bind (fun run => run.andThen (fun middle => some (.succeed middle))) = found := by
  rcases found with _ | ⟨log, failure | middle⟩
  · rfl
  · rfl
  · simp [andThen, succeed]

/-- What is needed after a success is bounded, since a run has one result at most. -/
theorem exists_bound_of_result (found : Option (Run α)) (needed : Substitution α → Nat)
    : ∃ most, ∀ run result,
        found = some run → run.answer = .ok result → needed result ≤ most := by
  rcases found with _ | ⟨log, failure | result⟩
  · exact ⟨0, nofun⟩
  · refine ⟨0, ?_⟩
    rintro _ _ ⟨⟩ ⟨⟩
  · refine ⟨needed result, ?_⟩
    rintro _ _ ⟨⟩ ⟨⟩
    exact Nat.le_refl _

/-- Runs that agree on the very substitutions have the same answer, up to what is to be
changed in their failures.
-/
theorem RunsAgree.answer_eq {change : Failure → Failure} {first second : Option (Run α)}
    (agree : RunsAgree Eq (fun failure later => change failure = later) first second)
    : second.map Run.answer = first.map (fun run => run.answer.mapError change) := by
  cases agree with
  | endless => rfl
  | succeeded left right holds => simp [left, right, holds, Except.mapError]
  | failed left right holds => simp [left, right, holds, Except.mapError]

/-- Runs agree on the very substitutions and failures when they have the same answer. -/
theorem runsAgree_iff_answer_eq {first second : Option (Run α)}
    : RunsAgree Eq Eq first second ↔ first.map Run.answer = second.map Run.answer := by
  constructor
  · intro agree
    cases agree with
    | endless => rfl
    | succeeded left right holds => simp [left, right, holds]
    | failed left right holds => simp [left, right, holds]
  · intro same
    rcases first with _ | ⟨log, failure | result⟩ <;> rcases second with _ | ⟨other, answer⟩
    all_goals simp only [Option.map_none, Option.map_some, Option.some.injEq, reduceCtorEq]
      at same
    · exact .endless
    · exact .failed rfl same.symm rfl
    · exact .succeeded rfl same.symm rfl

end Sequence

-----------------------------------------------------------------------------------------
-- The same run at another depth
-----------------------------------------------------------------------------------------

section Depth

variable {α : Type} [Unifiable α] {failing : Failure → Failure → Prop}

/-- From the same substitution the same two values lead to the same step. -/
theorem identity_simulation (keeps : KeepsMismatches failing)
    : Simulation (α := α) Eq (fun left right left' right' => left = left' ∧ right = right')
        failing where
  roots := by
    rintro start _ left right _ _ rfl ⟨rfl, rfl⟩
    exact .of_same keeps rfl (fun _ _ _ => rfl) (fun _ _ _ => rfl) (fun _ _ => ⟨rfl, rfl⟩)

end Depth

-----------------------------------------------------------------------------------------
-- Pairs that are the fields of two values
-----------------------------------------------------------------------------------------

section Fields

variable {α : Type} {left right : α} {index : Nat} {pair : α × α} {pairs : List (α × α)}

/-- The fields of two values, from an index on, are the two sides of pairs in order. -/
structure FieldsArePairs [Unifiable α] (left right : α) (index : Nat) (pairs : List (α × α))
    : Prop where
  lefts : ∀ offset, field? left (index + offset) = (pairs.map Prod.fst)[offset]?
  rights : ∀ offset, field? right (index + offset) = (pairs.map Prod.snd)[offset]?

theorem FieldsArePairs.head [Unifiable α]
    (fields : FieldsArePairs left right index (pair :: pairs))
    : field? left index = some pair.1 ∧ field? right index = some pair.2 :=
  ⟨fields.lefts 0, fields.rights 0⟩

theorem FieldsArePairs.tail [Unifiable α]
    (fields : FieldsArePairs left right index (pair :: pairs))
    : FieldsArePairs left right (index + 1) pairs where
  lefts offset := by
    rw [Nat.add_right_comm]
    exact fields.lefts (offset + 1)
  rights offset := by
    rw [Nat.add_right_comm]
    exact fields.rights (offset + 1)

variable [FinitelyBuilt α] {config config' : Config} {failing : Failure → Failure → Prop}

/-- A call agrees with the run on its pair one level further down, if the setting there refuses
each depth exactly when that of the call refuses the depth above.
-/
theorem unifyWith_agrees_below (keeps : KeepsMismatches failing)
    (refusals
      : ∀ level, Option.Rel failing (config.refusal? level) (config'.refusal? (level + 1)))
    {start : Substitution α} {levels : Nat}
    (enough : levelsNeeded config left right start ≤ levels)
    : RunsAgree Eq failing (unifyWith config left right start)
        (descend config' levels 1 left right start) := by
  rw [unifyWith_eq_map_descend enough]
  refine RunsAgree.map_left ?_ (fun _ => rfl)
  apply (identity_simulation keeps).descend_agree levels 0 1 _ rfl ⟨rfl, rfl⟩
  intro level
  rw [Nat.zero_add, Nat.add_comm]
  exact refusals level

/-- Pairs in order agree with fields that are these pairs at all numbers of levels above some,
by induction on the pairs. How many levels the later pairs take depends on the substitution
that the first one leads to.
-/
theorem exists_levels_unifyFields_agree (keeps : KeepsMismatches failing)
    (refusals
      : ∀ level, Option.Rel failing (config.refusal? level) (config'.refusal? (level + 1)))
    (head : Head) (fields : FieldsArePairs left right index pairs) (start : Substitution α)
    : ∃ enough, ∀ levels, enough ≤ levels →
        RunsAgree Eq failing (unifyManyWith config pairs start)
          (unifyFields (descend config' levels 1) head left right pairs.length index start) := by
  induction pairs generalizing index start with
  | nil => exact ⟨0, fun _ _ => .succeeded rfl rfl rfl⟩
  | cons pair rest ih =>
      obtain ⟨leftField, rightField⟩ := fields.head
      choose enoughFrom restAgrees using ih fields.tail
      obtain ⟨later, sufficient⟩ :=
        exists_bound_of_result (unifyWith config pair.1 pair.2 start) enoughFrom
      refine ⟨max (levelsNeeded config pair.1 pair.2 start) later, fun levels enough => ?_⟩
      obtain ⟨needed, further⟩ := max_le_iff.mp enough
      rw [List.length_cons, unifyFields_of_fields leftField rightField]
      apply (unifyWith_agrees_below keeps refusals needed).andThen_of_reached
      rintro run middle _ found succeeded rfl
      exact restAgrees middle levels ((sufficient run middle found succeeded).trans further)

/-- Pairs in order agree with a call on two compounds that have them as their fields, if its
setting refuses each depth exactly when theirs refuses the depth above.
-/
theorem unifyManyWith_agrees_fields (keeps : KeepsMismatches failing)
    (refusals
      : ∀ level, Option.Rel failing (config.refusal? level) (config'.refusal? (level + 1)))
    (permitted : config'.refusal? 0 = none) {tag : UInt8}
    (leftShape : shape left = .compound ⟨tag, pairs.length⟩)
    (rightShape : shape right = .compound ⟨tag, pairs.length⟩)
    (fields : FieldsArePairs left right 0 pairs) (start : Substitution α)
    : RunsAgree Eq failing (unifyManyWith config pairs start)
        (unifyWith config' left right start) := by
  obtain ⟨enough, agree⟩ :=
    exists_levels_unifyFields_agree keeps refusals ⟨tag, pairs.length⟩ fields start
  let levels := max enough (levelsNeeded config' left right start)
  have leftKnown : Known left := fun name shape => by cases leftShape.symm.trans shape
  have rightKnown : Known right := fun name shape => by cases rightShape.symm.trans shape
  have needed : levelsNeeded config' left right start ≤ levels + 1 :=
    (Nat.le_max_right _ _).trans (Nat.le_succ levels)
  rw [unifyWith_eq_map_descend needed, descend_of_permitted permitted,
    Substitution.walk_of_known leftKnown, Substitution.walk_of_known rightKnown,
    unifyRoots_of_compounds leftShape rightShape]
  refine RunsAgree.map_right (RunsAgree.map_right ?_ (fun _ => rfl)) (fun _ => rfl)
  exact agree levels (Nat.le_max_left _ _)

end Fields

-----------------------------------------------------------------------------------------
-- Pairs of terms and compounds
-----------------------------------------------------------------------------------------

/-- The same failure under a setting that permits one level more. -/
def Failure.deeper : Failure → Failure
  | tooDeep limit => tooDeep (limit + 1)
  | other => other

theorem Failure.keepsMismatches_deeper
    : KeepsMismatches (fun failure later => failure.deeper = later) := by
  intro failure mismatch
  cases failure with
  | tooDeep limit => exact (mismatch limit rfl).elim
  | headsDiffer _ _ | objectsDiffer | valuesDiffer | notAVariable => rfl

theorem Config.refusals_agree_deeper (limit level : Nat)
    : Option.Rel (fun failure later => failure.deeper = later)
        ((Config.limited limit).refusal? level)
        ((Config.limited (limit + 1)).refusal? (level + 1)) := by
  by_cases refused : limit < level
  · simp [refusal?, limited, refused, Failure.deeper]
  · simp [refusal?, limited, refused]

theorem Term.compounds_fieldsArePairs (tag : UInt8) (pairs : List (Term × Term))
    : FieldsArePairs (compound tag (pairs.map Prod.fst)) (compound tag (pairs.map Prod.snd)) 0
        pairs where
  lefts offset := by rw [Nat.zero_add]; rfl
  rights offset := by rw [Nat.zero_add]; rfl

/-- Several pairs of terms, unified in order from the empty substitution, come to the same
answer as two compounds with the same tag that have them as their fields: neither ends, both
fail alike, or both succeed with the same substitution. Under a deepest level the compounds
need one level more.
-/
theorem unify_compounds_answer_eq (tag : UInt8) (pairs : List (Term × Term))
    : (unify .unlimited (compound tag (pairs.map Prod.fst))
          (compound tag (pairs.map Prod.snd))).map
          Run.answer
        = (unifyMany .unlimited pairs).map Run.answer
      ∧ ∀ limit,
          (unify (.limited (limit + 1)) (compound tag (pairs.map Prod.fst))
              (compound tag (pairs.map Prod.snd))).map
              Run.answer
            = (unifyMany (.limited limit) pairs).map
                (fun run => run.answer.mapError Failure.deeper) := by
  have fields := Term.compounds_fieldsArePairs tag pairs
  have leftShape : shape (compound tag (pairs.map Prod.fst)) = .compound ⟨tag, pairs.length⟩ :=
    congrArg (fun arity => Shape.compound ⟨tag, arity⟩) (List.length_map _)
  have rightShape : shape (compound tag (pairs.map Prod.snd)) = .compound ⟨tag, pairs.length⟩ :=
    congrArg (fun arity => Shape.compound ⟨tag, arity⟩) (List.length_map _)
  constructor
  · have agree
        : RunsAgree Eq Eq (unifyManyWith .unlimited pairs .empty)
            (unifyWith .unlimited (compound tag (pairs.map Prod.fst))
              (compound tag (pairs.map Prod.snd)) .empty) :=
      unifyManyWith_agrees_fields keepsMismatches_eq (fun _ => .none) rfl leftShape rightShape
        fields .empty
    exact (runsAgree_iff_answer_eq.mp agree).symm
  · intro limit
    exact (unifyManyWith_agrees_fields Failure.keepsMismatches_deeper
      (Config.refusals_agree_deeper limit) rfl leftShape rightShape fields .empty).answer_eq

/-- The pair below the deepest level is refused in either form, each under its own limit. -/
example
    : (unifyMany (.limited 0) [(compound 4 [atom .unit], compound 4 [.var ⟨0⟩])]).map Run.answer
        = some (.error (.tooDeep 0))
      ∧ (unify (.limited 1) (compound 7 [compound 4 [atom .unit]])
            (compound 7 [compound 4 [.var ⟨0⟩]])).map
            Run.answer
          = some (.error (.tooDeep 1)) :=
  ⟨rfl, rfl⟩

end Unification
