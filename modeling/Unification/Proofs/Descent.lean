import Unification.Proofs.Solution

/-! How deep a run descends where there is a solution. When related values share a rank that
falls from a compound to its fields, it falls with every descent, whatever the walk between
two levels has put in place of a variable. A run therefore has an answer after as many levels
as the rank allows, and meets no pair beyond them.
-/

namespace Unification

open Unifiable (shape field?)

-----------------------------------------------------------------------------------------
-- The pairs that a run visits
-----------------------------------------------------------------------------------------

section Visits

variable {α : Type} [Unifiable α]

/-- The pairs that a run visits, each with its depth and with the substitution at hand. The
outermost pair is visited first. Below a visited pair whose roots are compounds with the
same head, a pair of fields is visited once all fields before it have been unified.
-/
inductive Visits (config : Config) (left right : α) (start : Substitution α)
    : Nat → α → α → Substitution α → Prop
  | outermost : Visits config left right start 0 left right start
  | field {depth first second current middle head run leftField rightField}
    (levels index : Nat) (above : Visits config left right start depth first second current)
    (permitted : config.refusal? depth = none)
    (leftShape : shape (current.walk first) = .compound head)
    (rightShape : shape (current.walk second) = .compound head)
    (before
      : unifyFields (descend config levels (depth + 1)) head (current.walk first)
          (current.walk second) index 0 current
        = some run)
    (reached : run.answer = .ok middle) (claimed : index < head.arity)
    (leftFound : field? (current.walk first) index = some leftField)
    (rightFound : field? (current.walk second) index = some rightField)
    : Visits config left right start (depth + 1) leftField rightField middle

/-- Several fields without an answer break off at a pair of fields without an answer, after
a successful run on the fields before it, by induction on the fields that remain.
-/
theorem exists_field_of_unifyFields_eq_none
    {unifyPair : α → α → Substitution α → Option (Run α)} {head : Head} {left right : α}
    {remaining index : Nat} {start : Substitution α}
    (unanswered : unifyFields unifyPair head left right remaining index start = none)
    : ∃ passed run middle first second,
        passed < remaining
        ∧ unifyFields unifyPair head left right passed index start = some run
        ∧ run.answer = .ok middle
        ∧ field? left (index + passed) = some first
        ∧ field? right (index + passed) = some second
        ∧ unifyPair first second middle = none := by
  induction remaining generalizing index start with
  | zero => cases unanswered
  | succ remaining ih =>
      rcases exists_fields_or_lacking left right index with
        ⟨first, second, leftField, rightField⟩ | absent
      · rw [unifyFields_of_fields leftField rightField] at unanswered
        cases answer : unifyPair first second start with
        | none =>
            exact ⟨0, .succeed start, start, first, second, Nat.succ_pos _, rfl, rfl, leftField,
              rightField, answer⟩
        | some pair =>
            rw [answer, Option.bind_some] at unanswered
            cases reached : pair.answer with
            | error failure =>
                rw [Run.andThen_of_error reached] at unanswered
                cases unanswered
            | ok middle =>
                rw [Run.andThen_of_ok reached] at unanswered
                obtain ⟨passed, later, last, first, second, fewer, found, final, leftLater,
                  rightLater, stuck⟩ := ih (Option.map_eq_none_iff.mp unanswered)
                refine ⟨passed + 1, ⟨pair.log ++ later.log, later.answer⟩, last, first, second,
                  by omega, ?_, final, ?_, ?_, stuck⟩
                · rw [unifyFields_of_fields leftField rightField, answer, Option.bind_some,
                    Run.andThen_of_ok reached, found, Option.map_some]
                · rwa [Nat.add_right_comm] at leftLater
                · rwa [Nat.add_right_comm] at rightLater
      · rw [unifyFields_of_lacking absent] at unanswered
        cases unanswered

/-- A run without an answer visits a pair below its last level, by induction on the levels:
it has no answer for some pair of fields, which it visits.
-/
theorem Visits.exists_below {config : Config} {left right first second : α}
    {start current : Substitution α} {depth levels : Nat}
    (visits : Visits config left right start depth first second current)
    (unanswered : descend config levels depth first second current = none)
    : ∃ lowerLeft lowerRight lower,
        Visits config left right start (depth + levels) lowerLeft lowerRight lower := by
  induction levels generalizing depth first second current with
  | zero => exact ⟨first, second, current, visits⟩
  | succ levels ih =>
      cases permitted : config.refusal? depth with
      | some failure =>
          rw [descend_of_refused permitted] at unanswered
          cases unanswered
      | none =>
          rw [descend_of_permitted permitted] at unanswered
          unfold unifyRoots at unanswered
          -- only two compounds with the same head leave their fields to other runs
          split at unanswered <;>
            try first | cases unanswered | (split at unanswered <;> cases unanswered)
          next head other leftShape rightShape =>
            split at unanswered
            next same =>
              subst same
              obtain ⟨index, run, middle, leftField, rightField, claimed, before, reached,
                leftFound, rightFound, stuck⟩ :=
                exists_field_of_unifyFields_eq_none (Option.map_eq_none_iff.mp unanswered)
              rw [Nat.zero_add] at leftFound rightFound
              have below
                  : Visits config left right start (depth + 1) leftField rightField middle :=
                .field levels index visits permitted leftShape rightShape before reached claimed
                  leftFound rightFound
              rw [← Nat.add_assoc, Nat.add_right_comm]
              exact ih below stuck
            next => cases unanswered

end Visits

-----------------------------------------------------------------------------------------
-- Ranks that fall with every descent
-----------------------------------------------------------------------------------------

section Ranking

variable {α : Type} [Unifiable α]

/-- A discerning relation with a rank. Related values share their rank, and the values in a
class that passes to fields have a higher rank than their fields.
-/
structure Ranking (within : α → Prop) (related : α → α → Prop) (rank : α → Nat)
    : Prop extends Discerning related where
  hereditary : Hereditary within
  shared : ∀ {left right}, related left right → rank left = rank right
  falls : ∀ {value index field}, within value → field? value index = some field
    → rank field < rank value

/-- A substitution that a relation satisfies and that binds only values of a class. -/
structure Substitution.SolvedWithin (within : α → Prop) (related : α → α → Prop)
    (substitution : Substitution α)
    : Prop where
  satisfied : substitution.SatisfiedBy related
  bound : substitution.AllBound within

/-- A goal that a relation holds of and that is made of values of a class. -/
structure Goal.SolvedWithin (within : α → Prop) (related : α → α → Prop) (goal : Goal α)
    : Prop where
  holds : goal.Holds related
  within : goal.Within within

variable {within : α → Prop} {related : α → α → Prop} {rank : α → Nat} {config : Config}
  {start : Substitution α}

theorem Settles.solvedWithin [LawfulClone α] (ranking : Ranking within related rank)
    {goal : Goal α} {depth : Nat} {result : Substitution α} {run : Run α}
    (settled : Settles config goal depth start run) (succeeded : run.answer = .ok result)
    (startSolved : start.SolvedWithin within related)
    (solved : goal.SolvedWithin within related)
    : result.SolvedWithin within related where
  satisfied :=
    (settled.keeps ranking.toDiscerning startSolved.satisfied solved.holds).success _ succeeded
  bound := settled.allBound ranking.hereditary succeeded startSolved.bound solved.within

namespace Ranking

/-- The roots of a solved pair are solved, as are their fields when they are compounds. -/
theorem solved_walk (ranking : Ranking within related rank) {left right : α}
    (startSolved : start.SolvedWithin within related)
    (solved : (Goal.pair left right).SolvedWithin within related)
    : (Goal.pair (start.walk left) (start.walk right)).SolvedWithin within related where
  holds := (ranking.iff_walk startSolved.satisfied left right).mp solved.holds
  within :=
    ⟨startSolved.bound.walk solved.within.1, startSolved.bound.walk solved.within.2⟩

theorem solved_fields (ranking : Ranking within related rank) {left right : α} {head : Head}
    (leftShape : shape left = .compound head) (rightShape : shape right = .compound head)
    (solved : (Goal.pair left right).SolvedWithin within related)
    : (Goal.fields head left right head.arity 0).SolvedWithin within related where
  holds := ranking.fields leftShape rightShape solved.holds
  within := solved.within

theorem solved_field (ranking : Ranking within related rank) {left right first second : α}
    {head : Head} {remaining index position : Nat}
    (solved : (Goal.fields head left right remaining index).SolvedWithin within related)
    (least : index ≤ position) (most : position < index + remaining)
    (leftField : field? left position = some first)
    (rightField : field? right position = some second)
    : (Goal.pair first second).SolvedWithin within related where
  holds := solved.holds.field least most leftField rightField
  within :=
    ⟨ranking.hereditary _ _ _ solved.within.1 leftField,
      ranking.hereditary _ _ _ solved.within.2 rightField⟩

/-- A walk does not change the rank, since hops lead between related values. -/
theorem rank_walk (ranking : Ranking within related rank) {left right : α}
    (startSolved : start.SolvedWithin within related) (holds : related left right)
    : rank (start.walk left) = rank left := by
  have hops := Substitution.walk_reaches start left
  have root := (ranking.iff_of_hops startSolved.satisfied hops).mp holds
  exact (ranking.shared (ranking.trans holds (ranking.symm root))).symm

/-- The fields at the root of a solved pair have a lower rank than the pair. -/
theorem rank_field_lt (ranking : Ranking within related rank) {left right field : α}
    {index : Nat} (startSolved : start.SolvedWithin within related)
    (solved : (Goal.pair left right).SolvedWithin within related)
    (found : field? (start.walk left) index = some field)
    : rank field < rank left := by
  rw [← ranking.rank_walk startSolved solved.holds]
  exact ranking.falls (startSolved.bound.walk solved.within.1) found

variable [LawfulClone α]

/-- Every visited pair is solved, and its rank is lower by its depth, by induction on the
visits.
-/
theorem visits_bound (ranking : Ranking within related rank) {left right first second : α}
    {depth : Nat} {middle : Substitution α}
    (visits : Visits config left right start depth first second middle)
    (startSolved : start.SolvedWithin within related)
    (solved : (Goal.pair left right).SolvedWithin within related)
    : depth + rank first ≤ rank left
      ∧ middle.SolvedWithin within related
      ∧ (Goal.pair first second).SolvedWithin within related := by
  induction visits with
  | outermost => exact ⟨by omega, startSolved, solved⟩
  | @field depth first second current middle head run leftField rightField levels index _ _
      leftShape rightShape before reached claimed leftFound rightFound ih =>
      obtain ⟨bound, currentSolved, pair⟩ := ih
      have fields := ranking.solved_fields leftShape rightShape
        (ranking.solved_walk currentSolved pair)
      have earlier
          : (Goal.fields head (current.walk first) (current.walk second) index 0).SolvedWithin
              within related :=
        ⟨fun position least most => fields.holds position least (by omega), fields.within⟩
      have settled := unifyFields_settles (descend_settles config levels (depth + 1)) _ _ _ _ _
        _ _ before
      have lower := ranking.rank_field_lt currentSolved pair leftFound
      exact ⟨by omega, settled.solvedWithin ranking reached currentSolved earlier,
        ranking.solved_field fields (Nat.zero_le index) (by omega) leftFound rightFound⟩

/-- A solved pair has an answer at any number of levels above its rank, since without one it
would visit a pair at that depth.
-/
theorem descend_isSome (ranking : Ranking within related rank) {levels : Nat} {left right : α}
    (startSolved : start.SolvedWithin within related)
    (solved : (Goal.pair left right).SolvedWithin within related) (low : rank left < levels)
    : (descend config levels 0 left right start).isSome = true := by
  rw [Option.isSome_iff_ne_none]
  intro unanswered
  obtain ⟨_, _, _, visits⟩ := Visits.outermost.exists_below unanswered
  have bound := (ranking.visits_bound visits startSolved solved).1
  omega

/-- Without a deepest level a solved pair succeeds, one level above its rank. -/
theorem exists_success (ranking : Ranking within related rank) {left right : α}
    (startSolved : start.SolvedWithin within related)
    (solved : (Goal.pair left right).SolvedWithin within related)
    : ∃ run result,
        descend .unlimited (rank left + 1) 0 left right start = some run
        ∧ run.answer = .ok result := by
  have answers : (descend .unlimited (rank left + 1) 0 left right start).isSome = true :=
    ranking.descend_isSome startSolved solved (Nat.lt_succ_self (rank left))
  obtain ⟨run, found⟩ := Option.isSome_iff_exists.mp answers
  have kept := (descend_settles _ _ _ _ _ _ _ found).keeps ranking.toDiscerning
    startSolved.satisfied solved.holds
  cases answer : run.answer with
  | ok result => exact ⟨run, result, found, answer⟩
  | error failure =>
      obtain ⟨limit, limited, _⟩ := kept.failure failure answer
      cases limited

end Ranking

end Ranking

end Unification
