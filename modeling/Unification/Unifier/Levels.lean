import Unification.Unifier

/-! Levels only bound a run, they do not change it: an answer at some number of levels is
the answer at every greater number. Under a deepest permitted level, the levels down to
the first forbidden one always suffice.
-/

namespace Unification

-----------------------------------------------------------------------------------------
-- The steps of a run as equations
-----------------------------------------------------------------------------------------

section Sequence

variable {α : Type}

theorem Run.andThen_of_error {run : Run α} {failure : Failure}
    (failed : run.answer = .error failure) (next : Substitution α → Option (Run α))
    : run.andThen next = some run := by
  rw [andThen, failed]

theorem Run.andThen_of_ok {run : Run α} {middle : Substitution α}
    (succeeded : run.answer = .ok middle) (next : Substitution α → Option (Run α))
    : run.andThen next
      = (next middle).map (fun later => ⟨run.log ++ later.log, later.answer⟩) := by
  rw [andThen, succeeded]

/-- A success in the end is a success of the run and then one of what follows it. -/
theorem exists_of_bind_andThen {found : Option (Run α)}
    {next : Substitution α → Option (Run α)} {whole : Run α} {result : Substitution α}
    (combined : found.bind (fun run => run.andThen next) = some whole)
    (succeeded : whole.answer = .ok result)
    : ∃ run middle later,
        found = some run
        ∧ run.answer = .ok middle
        ∧ next middle = some later
        ∧ later.answer = .ok result := by
  obtain ⟨run, present, rest⟩ := Option.bind_eq_some_iff.mp combined
  cases answer : run.answer with
  | error failure =>
      rw [Run.andThen_of_error answer] at rest
      cases rest
      cases answer.symm.trans succeeded
  | ok middle =>
      rw [Run.andThen_of_ok answer] at rest
      obtain ⟨later, laterFound, rfl⟩ := Option.map_eq_some_iff.mp rest
      exact ⟨run, middle, later, present, answer, laterFound, succeeded⟩

end Sequence

/-- A level is refused when it is below the deepest one of the setting. -/
theorem Config.refusal?_eq_some {config : Config} {depth : Nat} {failure : Failure}
    (refusal : config.refusal? depth = some failure)
    : ∃ limit, config.maxDepth = some limit ∧ limit < depth ∧ failure = .tooDeep limit := by
  unfold refusal? at refusal
  split at refusal
  next limit limited =>
    split at refusal
    next below => exact ⟨limit, limited, below, (Option.some.inj refusal).symm⟩
    next => cases refusal
  next => cases refusal

/-- The outermost level is permitted under every setting. -/
theorem Config.refusal?_zero (config : Config) : config.refusal? 0 = none := by
  cases refusal : config.refusal? 0 with
  | none => rfl
  | some failure =>
      obtain ⟨limit, _, below, _⟩ := Config.refusal?_eq_some refusal
      exact (Nat.not_lt_zero limit below).elim

variable {α : Type} [Unifiable α]

section Steps

open Unifiable (field?)

/-- The fields at an index are there on both sides, or one is lacking. -/
theorem exists_fields_or_lacking (left right : α) (index : Nat)
    : (∃ first second, field? left index = some first ∧ field? right index = some second)
      ∨ field? left index = none
      ∨ field? right index = none := by
  cases leftField : field? left index with
  | none => exact .inr (.inl rfl)
  | some first =>
      cases rightField : field? right index with
      | none => exact .inr (.inr rfl)
      | some second => exact .inl ⟨first, second, rfl, rfl⟩

variable {unifyPair : α → α → Substitution α → Option (Run α)} {head : Head}
  {left right first second : α} {index : Nat}

theorem unifyFields_of_fields (leftField : field? left index = some first)
    (rightField : field? right index = some second) (remaining : Nat) (start : Substitution α)
    : unifyFields unifyPair head left right (remaining + 1) index start
      = (unifyPair first second start).bind (fun run =>
          run.andThen (unifyFields unifyPair head left right remaining (index + 1))) := by
  simp only [unifyFields, leftField, rightField]

theorem unifyFields_of_lacking
    (absent : field? left index = none ∨ field? right index = none) (remaining : Nat)
    (start : Substitution α)
    : unifyFields unifyPair head left right (remaining + 1) index start
      = some (.fail (.headsDiffer head head)) := by
  rcases absent with absent | absent
  · simp only [unifyFields, absent]
  · cases leftField : field? left index <;> simp only [unifyFields, leftField, absent]

theorem descend_of_permitted {config : Config} {depth : Nat}
    (permitted : config.refusal? depth = none) (levels : Nat) (left right : α)
    (start : Substitution α)
    : descend config (levels + 1) depth left right start
      = unifyRoots (descend config levels (depth + 1)) depth (start.walk left)
          (start.walk right) start := by
  rw [descend, permitted]

theorem descend_of_refused {config : Config} {depth : Nat} {failure : Failure}
    (refused : config.refusal? depth = some failure) (levels : Nat) (left right : α)
    (start : Substitution α)
    : descend config (levels + 1) depth left right start = some (.fail failure) := by
  rw [descend, refused]

end Steps

/-- The fields keep an answer when the runs on pairs of fields do, by induction on the
fields that remain.
-/
theorem unifyFields_mono {few many : α → α → Substitution α → Option (Run α)}
    (keeps : ∀ left right start run,
      few left right start = some run → many left right start = some run)
    (head : Head) (left right : α) (remaining index : Nat) (start : Substitution α)
    (run : Run α)
    (answered : unifyFields few head left right remaining index start = some run)
    : unifyFields many head left right remaining index start = some run := by
  induction remaining generalizing index start run with
  | zero => exact answered
  | succ remaining ih =>
      rcases exists_fields_or_lacking left right index with
        ⟨first, second, leftField, rightField⟩ | absent
      · rw [unifyFields_of_fields leftField rightField] at answered ⊢
        obtain ⟨field, reached, rest⟩ := Option.bind_eq_some_iff.mp answered
        rw [keeps _ _ _ _ reached, Option.bind_some]
        cases answer : field.answer with
        | error failure =>
            rw [Run.andThen_of_error answer] at rest ⊢
            exact rest
        | ok middle =>
            rw [Run.andThen_of_ok answer] at rest ⊢
            obtain ⟨later, found, same⟩ := Option.map_eq_some_iff.mp rest
            rw [ih _ _ _ found, Option.map_some, same]
      · rw [unifyFields_of_lacking absent] at answered ⊢
        exact answered

/-- Walked pairs keep an answer when the runs on pairs of fields do, since only compounds
look at their fields.
-/
theorem unifyRoots_mono {few many : α → α → Substitution α → Option (Run α)}
    (keeps : ∀ left right start run,
      few left right start = some run → many left right start = some run)
    (depth : Nat) (left right : α) (start : Substitution α) (run : Run α)
    (answered : unifyRoots few depth left right start = some run)
    : unifyRoots many depth left right start = some run := by
  unfold unifyRoots at answered ⊢
  split at answered <;> try exact answered
  next first second _ _ =>
    split at answered
    next same =>
      obtain ⟨fields, found, reported⟩ := Option.map_eq_some_iff.mp answered
      simp only [same, if_true] at found reported ⊢
      rw [unifyFields_mono keeps _ _ _ _ _ _ _ found, Option.map_some, reported]
    next different => simpa only [different, if_false] using answered

/-- One more level keeps an answer, by induction on the levels. -/
theorem descend_succ (config : Config) (levels depth : Nat) (left right : α)
    (start : Substitution α) (run : Run α)
    (answered : descend config levels depth left right start = some run)
    : descend config (levels + 1) depth left right start = some run := by
  induction levels generalizing depth left right start run with
  | zero => exact (Option.some_ne_none run answered.symm).elim
  | succ levels ih =>
      cases refusal : config.refusal? depth with
      | some failure =>
          rw [descend_of_refused refusal] at answered ⊢
          exact answered
      | none =>
          rw [descend_of_permitted refusal] at answered ⊢
          exact unifyRoots_mono (ih (depth + 1)) depth _ _ start run answered

/-- Any number of further levels keeps an answer. -/
theorem descend_mono (config : Config) {levels more : Nat} (atMost : levels ≤ more)
    (depth : Nat) (left right : α) (start : Substitution α) (run : Run α)
    (answered : descend config levels depth left right start = some run)
    : descend config more depth left right start = some run := by
  induction atMost with
  | refl => exact answered
  | step _ ih => exact descend_succ config _ depth left right start run ih

/-- The fields have an answer when every run on a pair of fields has one. -/
theorem unifyFields_isSome {unifyPair : α → α → Substitution α → Option (Run α)}
    (answers : ∀ left right start, (unifyPair left right start).isSome = true)
    (head : Head) (left right : α) (remaining index : Nat) (start : Substitution α)
    : (unifyFields unifyPair head left right remaining index start).isSome = true := by
  induction remaining generalizing index start with
  | zero => rfl
  | succ remaining ih =>
      rcases exists_fields_or_lacking left right index with
        ⟨first, second, leftField, rightField⟩ | absent
      · obtain ⟨run, found⟩ := Option.isSome_iff_exists.mp (answers first second start)
        rw [unifyFields_of_fields leftField rightField, found, Option.bind_some]
        cases answer : run.answer with
        | error failure => rw [Run.andThen_of_error answer, Option.isSome_some]
        | ok middle =>
            rw [Run.andThen_of_ok answer, Option.isSome_map]
            exact ih (index + 1) middle
      · rw [unifyFields_of_lacking absent, Option.isSome_some]

/-- A walked pair has an answer when every run on a pair of fields has one. -/
theorem unifyRoots_isSome {unifyPair : α → α → Substitution α → Option (Run α)}
    (answers : ∀ left right start, (unifyPair left right start).isSome = true)
    (depth : Nat) (left right : α) (start : Substitution α)
    : (unifyRoots unifyPair depth left right start).isSome = true := by
  unfold unifyRoots
  split <;> (try split) <;> (try rfl)
  rw [Option.isSome_map]
  exact unifyFields_isSome answers _ left right _ 0 start

/-- With a deepest level, the levels from a depth to the first forbidden one suffice, by
induction on the levels.
-/
theorem descend_limited_isSome (limit levels depth : Nat) (left right : α)
    (start : Substitution α) (enough : limit + 2 ≤ levels + depth) (some_level : 0 < levels)
    : (descend (.limited limit) levels depth left right start).isSome = true := by
  induction levels generalizing depth left right start with
  | zero => exact (Nat.lt_irrefl 0 some_level).elim
  | succ levels ih =>
      cases refusal : (Config.limited limit).refusal? depth with
      | some failure => rw [descend_of_refused refusal, Option.isSome_some]
      | none =>
          have permitted : depth ≤ limit := by
            simpa [Config.refusal?, Config.limited] using refusal
          rw [descend_of_permitted refusal]
          apply unifyRoots_isSome
          intro left right start
          exact ih (depth + 1) left right start (by omega) (by omega)

/-- Down to the first forbidden level, a deepest level makes no difference, by induction on
the levels.
-/
theorem descend_limited_eq (limit levels depth : Nat) (left right : α)
    (start : Substitution α) (reach : levels + depth ≤ limit + 1)
    : descend (.limited limit) levels depth left right start
      = descend .unlimited levels depth left right start := by
  induction levels generalizing depth left right start with
  | zero => rfl
  | succ levels ih =>
      have permitted : (Config.limited limit).refusal? depth = none := by
        simp only [Config.refusal?, Config.limited, ite_eq_right_iff, reduceCtorEq, imp_false]
        omega
      have below : descend (.limited limit) levels (depth + 1)
          = descend (α := α) .unlimited levels (depth + 1) := by
        funext left right start
        exact ih (depth + 1) left right start (by omega)
      have unlimited : Config.unlimited.refusal? depth = none := rfl
      rw [descend_of_permitted permitted, descend_of_permitted unlimited, below]

end Unification
