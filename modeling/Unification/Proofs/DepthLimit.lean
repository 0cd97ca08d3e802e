import Unification.Proofs.LevelBound

/-! The deepest permitted level. A run has no answer at a number of levels exactly when it
visits a pair that deep. Under a deepest level such a run fails, for the pair below that
level is refused and a failure anywhere is the failure of the run. Every other run is the
same with and without a deepest level.
-/

namespace Unification

open Unifiable (shape field?)
open Term (var atom compound tuple)

-----------------------------------------------------------------------------------------
-- Pairs at a depth, and answers above it
-----------------------------------------------------------------------------------------

section Visits

variable {α : Type} [Unifiable α] {config : Config} {left right first second : α}
  {start current : Substitution α} {depth levels : Nat}

/-- Where a run has an answer at some number of levels, a visited pair has one at those that
are left below it, by induction on the visits.
-/
theorem Visits.exists_levels_left
    (visits : Visits config left right start depth first second current)
    (answered : (descend config levels 0 left right start).isSome = true)
    : ∃ fewer,
        levels = depth + fewer
        ∧ (descend config fewer depth first second current).isSome = true := by
  induction visits with
  | outermost => exact ⟨levels, (Nat.zero_add levels).symm, answered⟩
  | field other index _ permitted leftShape rightShape before reached claimed leftFound
      rightFound ih =>
      obtain ⟨fewer, split, answers⟩ := ih
      cases fewer with
      | zero => cases answers
      | succ fewer =>
          refine ⟨fewer, by omega, ?_⟩
          exact descend_field_isSome permitted leftShape rightShape before reached claimed
            leftFound rightFound answers

/-- A run visits a pair at a depth exactly when it has no answer at that number of levels. -/
theorem exists_visits_iff
    : (∃ first second current, Visits config left right start depth first second current)
      ↔ descend config depth 0 left right start = none := by
  constructor
  · rintro ⟨first, second, current, visits⟩
    rw [← Option.not_isSome_iff_eq_none]
    intro answered
    obtain ⟨fewer, split, answers⟩ := visits.exists_levels_left answered
    obtain rfl : fewer = 0 := by omega
    cases answers
  · intro unanswered
    have below := Visits.outermost.exists_below unanswered
    rwa [Nat.zero_add] at below

end Visits

-----------------------------------------------------------------------------------------
-- A failure at a visited pair
-----------------------------------------------------------------------------------------

section Failure

variable {α : Type} [Unifiable α]

/-- A failure on a pair of fields, after a success on those before it, is the failure on all
the fields, by induction on the fields before it.
-/
theorem unifyFields_failed {unifyPair : α → α → Substitution α → Option (Run α)} {head : Head}
    {left right first second : α} {passed remaining index : Nat} {start middle : Substitution α}
    {run pair : Run α} {failure : Failure} (claimed : passed < remaining)
    (before : unifyFields unifyPair head left right passed index start = some run)
    (reached : run.answer = .ok middle) (leftFound : field? left (index + passed) = some first)
    (rightFound : field? right (index + passed) = some second)
    (found : unifyPair first second middle = some pair) (failed : pair.answer = .error failure)
    : ∃ whole,
        unifyFields unifyPair head left right remaining index start = some whole
        ∧ whole.answer = .error failure := by
  induction passed generalizing remaining index start run with
  | zero =>
      cases before
      cases reached
      obtain ⟨fewer, rfl⟩ := Nat.exists_eq_succ_of_ne_zero (Nat.ne_zero_of_lt claimed)
      rw [Nat.add_zero] at leftFound rightFound
      refine ⟨pair, ?_, failed⟩
      rw [unifyFields_of_fields leftFound rightFound, found, Option.bind_some,
        Run.andThen_of_error failed]
  | succ passed ih =>
      obtain ⟨fewer, rfl⟩ := Nat.exists_eq_succ_of_ne_zero (Nat.ne_zero_of_lt claimed)
      obtain ⟨_, _, earlier, next, later, leftField, rightField, earlierFound, earlierReached,
        laterFound, laterReached⟩ := exists_success_of_unifyFields before reached
      rw [← Nat.add_assoc, Nat.add_right_comm] at leftFound rightFound
      obtain ⟨rest, restFound, restFailed⟩ :=
        ih (Nat.lt_of_succ_lt_succ claimed) laterFound laterReached leftFound rightFound
      refine ⟨⟨earlier.log ++ rest.log, rest.answer⟩, ?_, restFailed⟩
      rw [unifyFields_of_fields leftField rightField, earlierFound, Option.bind_some,
        Run.andThen_of_ok earlierReached, restFound, Option.map_some]

/-- A failure at a visited pair is the failure of the run, by induction on the visits. The
levels are those of the pair or those of the fields before it, whichever are more.
-/
theorem Visits.failed {config : Config} {left right first second : α}
    {start current : Substitution α} {depth levels : Nat} {run : Run α} {failure : Failure}
    (visits : Visits config left right start depth first second current)
    (found : descend config levels depth first second current = some run)
    (failed : run.answer = .error failure)
    : ∃ more whole,
        descend config more 0 left right start = some whole
        ∧ whole.answer = .error failure := by
  induction visits generalizing levels run with
  | outermost => exact ⟨levels, run, found, failed⟩
  | @field depth first second current middle head _ leftField rightField other index _ permitted
      leftShape rightShape before reached claimed leftFound rightFound ih =>
      let most := max other levels
      have beforeMost := unifyFields_mono
        (fun left right start run =>
          descend_mono config (Nat.le_max_left other levels) (depth + 1) left right start run)
        _ _ _ _ _ _ _ before
      have foundMost := descend_mono config (Nat.le_max_right other levels) (depth + 1) _ _ _ _
        found
      rw [← Nat.zero_add index] at leftFound rightFound
      obtain ⟨fields, fieldsFound, fieldsFailed⟩ :=
        unifyFields_failed claimed beforeMost reached leftFound rightFound foundMost failed
      have above
          : descend config (most + 1) depth first second current
            = some (fields.report (.descended head depth)) := by
        rw [descend_of_permitted permitted, unifyRoots_of_compounds leftShape rightShape,
          fieldsFound, Option.map_some]
      exact ih above fieldsFailed

/-- A run fails for its depth only under a setting that refuses some depth, by induction on
the derivation.
-/
theorem Settles.exists_refusal {config : Config} {goal : Goal α} {depth limit : Nat}
    {start : Substitution α} {run : Run α} (settled : Settles config goal depth start run)
    (failed : run.answer = .error (.tooDeep limit))
    : ∃ level, config.refusal? level = some (.tooDeep limit) := by
  induction settled with
  | refused refusal =>
      cases failed
      exact ⟨_, refusal⟩
  | same | boundLeft | boundRight | matched | finished | lacking => cases failed
  | clashed clash =>
      cases failed
      cases clash
  | walked _ _ ih | descended _ _ _ ih | stopped _ _ _ _ ih => exact ih failed
  | advanced _ _ _ _ _ _ restIH => exact restIH failed

end Failure

-----------------------------------------------------------------------------------------
-- Calls with and without a deepest level
-----------------------------------------------------------------------------------------

section Call

variable {α : Type} [FinitelyBuilt α] {limit : Nat} {left right : α} {start : Substitution α}

/-- A run with an answer above the first forbidden level is the run of every call that
permits as many levels or more, and it does not fail for its depth.
-/
theorem unifyWith_of_descend_unlimited {run : Run α}
    (answered : descend .unlimited (limit + 1) 0 left right start = some run)
    : unifyWith .unlimited left right start = some run.conclude
      ∧ (∀ more, limit ≤ more →
          unifyWith (.limited more) left right start = some run.conclude)
      ∧ run.answer ≠ .error (.tooDeep limit) := by
  refine ⟨unifyWith_eq_some_of_descend answered, ?_, ?_⟩
  · intro more atLeast
    apply unifyWith_eq_some_of_descend
    rw [descend_limited_eq more (limit + 1) 0 left right start (by omega)]
    exact answered
  · intro failed
    obtain ⟨level, refusal⟩ := (descend_settles _ _ _ _ _ _ _ answered).exists_refusal failed
    cases refusal

/-- A run without an answer above the first forbidden level fails for its depth under that
limit, since it visits a pair there.
-/
theorem unifyWith_limited_of_unanswered
    (unanswered : descend .unlimited (limit + 1) 0 left right start = none)
    : ∃ run,
        unifyWith (.limited limit) left right start = some run
        ∧ run.answer = .error (.tooDeep limit) := by
  rw [← descend_limited_eq limit (limit + 1) 0 left right start (Nat.le_refl _)] at unanswered
  obtain ⟨first, second, current, visits⟩ := exists_visits_iff.mpr unanswered
  have refusal : (Config.limited limit).refusal? (limit + 1) = some (.tooDeep limit) := by
    simp [Config.refusal?, Config.limited]
  have refused := descend_of_refused refusal 0 first second current
  obtain ⟨levels, run, found, failed⟩ := visits.failed refused rfl
  exact ⟨run.conclude, unifyWith_eq_some_of_descend found, failed⟩

/-- A call with a deepest level always ends. It fails for its depth exactly when the run
without a deepest level visits a pair one level below, before any failure; else it is the
call without a deepest level, and the call with any deeper one.
-/
theorem unifyWith_limited_transparent (limit : Nat) (left right : α) (start : Substitution α)
    : ∃ run,
        unifyWith (.limited limit) left right start = some run
        ∧ (run.answer = .error (.tooDeep limit)
          ↔ ∃ first second current,
              Visits .unlimited left right start (limit + 1) first second current)
        ∧ (run.answer ≠ .error (.tooDeep limit)
          → unifyWith .unlimited left right start = some run
            ∧ ∀ more, limit ≤ more
                → unifyWith (.limited more) left right start = some run) := by
  cases answered : descend .unlimited (limit + 1) 0 left right start with
  | none =>
      obtain ⟨run, found, failed⟩ := unifyWith_limited_of_unanswered answered
      refine ⟨run, found, ?_, fun other => (other failed).elim⟩
      exact iff_of_true failed (exists_visits_iff.mpr answered)
  | some run =>
      obtain ⟨unlimited, limited, other⟩ := unifyWith_of_descend_unlimited answered
      refine ⟨run.conclude, limited limit (Nat.le_refl limit), ?_,
        fun _ => ⟨unlimited, limited⟩⟩
      apply iff_of_false other
      rw [exists_visits_iff, answered]
      exact Option.some_ne_none run

/-- Two atoms that differ stand between a pair at the second level and two circular bindings
that agree at every level. A limit of two permits the first pair and so changes nothing; a
limit of one does not come to the atoms.
-/
theorem unifyWith_limited_beside_circular_bindings
    : unifyWith (.limited 2) (tuple [compound 5 [var ⟨2⟩], atom (.int 1), var ⟨0⟩])
          (tuple [compound 5 [atom .unit], atom (.int 2), var ⟨1⟩])
          ⟨[(⟨1⟩, compound 4 [var ⟨1⟩]), (⟨0⟩, compound 4 [var ⟨0⟩])]⟩
        = some
            ⟨[.descended ⟨0, 3⟩ 0, .descended ⟨5, 1⟩ 1, .bound ⟨2⟩ 2, .failed .valuesDiffer],
              .error .valuesDiffer⟩
      ∧ (∀ more, 2 ≤ more →
          unifyWith (.limited more) (tuple [compound 5 [var ⟨2⟩], atom (.int 1), var ⟨0⟩])
              (tuple [compound 5 [atom .unit], atom (.int 2), var ⟨1⟩])
              ⟨[(⟨1⟩, compound 4 [var ⟨1⟩]), (⟨0⟩, compound 4 [var ⟨0⟩])]⟩
            = some
                ⟨[.descended ⟨0, 3⟩ 0, .descended ⟨5, 1⟩ 1, .bound ⟨2⟩ 2,
                    .failed .valuesDiffer],
                  .error .valuesDiffer⟩)
      ∧ ∃ run,
          unifyWith (.limited 1) (tuple [compound 5 [var ⟨2⟩], atom (.int 1), var ⟨0⟩])
              (tuple [compound 5 [atom .unit], atom (.int 2), var ⟨1⟩])
              ⟨[(⟨1⟩, compound 4 [var ⟨1⟩]), (⟨0⟩, compound 4 [var ⟨0⟩])]⟩
            = some run
          ∧ run.answer = .error (.tooDeep 1) := by
  have permitted
      : unifyWith (.limited 2) (tuple [compound 5 [var ⟨2⟩], atom (.int 1), var ⟨0⟩])
          (tuple [compound 5 [atom .unit], atom (.int 2), var ⟨1⟩])
          ⟨[(⟨1⟩, compound 4 [var ⟨1⟩]), (⟨0⟩, compound 4 [var ⟨0⟩])]⟩
        = some
            ⟨[.descended ⟨0, 3⟩ 0, .descended ⟨5, 1⟩ 1, .bound ⟨2⟩ 2, .failed .valuesDiffer],
              .error .valuesDiffer⟩ :=
    rfl
  refine ⟨permitted, ?_, ?_⟩
  · obtain ⟨run, found, _, same⟩ := unifyWith_limited_transparent 2
      (tuple [compound 5 [var ⟨2⟩], atom (.int 1), var ⟨0⟩])
      (tuple [compound 5 [atom .unit], atom (.int 2), var ⟨1⟩])
      ⟨[(⟨1⟩, compound 4 [var ⟨1⟩]), (⟨0⟩, compound 4 [var ⟨0⟩])]⟩
    obtain rfl := Option.some.inj (permitted.symm.trans found)
    exact (same (by simp)).2
  · obtain ⟨run, found, deep, _⟩ := unifyWith_limited_transparent 1
      (tuple [compound 5 [var ⟨2⟩], atom (.int 1), var ⟨0⟩])
      (tuple [compound 5 [atom .unit], atom (.int 2), var ⟨1⟩])
      ⟨[(⟨1⟩, compound 4 [var ⟨1⟩]), (⟨0⟩, compound 4 [var ⟨0⟩])]⟩
    have above : Visits .unlimited (tuple [compound 5 [var ⟨2⟩], atom (.int 1), var ⟨0⟩])
        (tuple [compound 5 [atom .unit], atom (.int 2), var ⟨1⟩])
        ⟨[(⟨1⟩, compound 4 [var ⟨1⟩]), (⟨0⟩, compound 4 [var ⟨0⟩])]⟩ 1 (compound 5 [var ⟨2⟩])
        (compound 5 [atom .unit])
        ⟨[(⟨1⟩, compound 4 [var ⟨1⟩]), (⟨0⟩, compound 4 [var ⟨0⟩])]⟩ :=
      .field 0 0 .outermost rfl rfl rfl rfl rfl (by decide) rfl rfl
    have second : Visits .unlimited (tuple [compound 5 [var ⟨2⟩], atom (.int 1), var ⟨0⟩])
        (tuple [compound 5 [atom .unit], atom (.int 2), var ⟨1⟩])
        ⟨[(⟨1⟩, compound 4 [var ⟨1⟩]), (⟨0⟩, compound 4 [var ⟨0⟩])]⟩ 2 (var ⟨2⟩) (atom .unit)
        ⟨[(⟨1⟩, compound 4 [var ⟨1⟩]), (⟨0⟩, compound 4 [var ⟨0⟩])]⟩ :=
      .field 0 0 above rfl rfl rfl rfl rfl (by decide) rfl rfl
    exact ⟨run, found, deep.mpr ⟨_, _, _, second⟩⟩

end Call

end Unification
