import Unification.Proofs.Dependency
import Unification.Proofs.FiniteSolution
import Unification.Proofs.LevelBound
import Unification.Proofs.Symmetry
import Unification.Unifier.OccursCheck

/-! Unification with occurs check, beside unification without it. On top of a substitution
without cycles the check refuses exactly the bindings that would close a cycle. The run with
the check always comes to an end: either variables are bound, and fewer are left without
value, or the resolved terms get lower from level to level. Up to a circular binding the two
runs are the same, and a cycle is never removed again. A run without the check that does not
end has therefore made a circular binding.
-/

namespace Unification

open Relation
open Unifiable (shape field?)
open Term (var atom compound)

-----------------------------------------------------------------------------------------
-- The bounded search for a variable
-----------------------------------------------------------------------------------------

namespace Substitution

variable {start : Substitution Term}

/-- The bounded search finds what is reached, by induction on its steps. Without cycles the
trails of the variables that are met end at unbound variables when there are no steps left.
-/
theorem Acyclic.reachesWithin_iff (acyclic : start.Acyclic) (sought : Var) (steps : Nat)
    (passed : List Var) (term : Term)
    (trails : ∀ first ∈ term.vars, Trail start start.Depends steps passed first)
    : start.reachesWithin sought steps term = true ↔ start.Reaches term sought := by
  induction steps generalizing passed term with
  | zero =>
      rw [reachesWithin, ← Term.mem_vars]
      constructor
      · exact fun member => ⟨sought, member, .refl⟩
      · rintro ⟨first, member, path⟩
        rcases path.cases_head with rfl | ⟨_, ⟨_, found, _⟩, _⟩
        · exact member
        · simp [(trails first member).unbound acyclic] at found
  | succ steps ih =>
      have below {first : Var} {bound : Term} (member : first ∈ term.vars)
          (found : start.lookup? first = some bound)
          : start.reachesWithin sought steps bound = true ↔ start.Reaches bound sought := by
        apply ih (first :: passed) bound
        intro next occurs
        exact (trails first member).extend acyclic (by simp [found]) ⟨bound, found, occurs⟩
      rw [reachesWithin, Bool.or_eq_true, ← Term.mem_vars, List.any_eq_true]
      constructor
      · rintro (member | ⟨first, member, reached⟩)
        · exact ⟨sought, member, .refl⟩
        · obtain ⟨bound, found, further⟩ := (Option.any_eq_true _ _).mp reached
          obtain ⟨next, occurs, path⟩ := (below member found).mp further
          exact ⟨first, member, path.head ⟨bound, found, occurs⟩⟩
      · rintro ⟨first, member, path⟩
        rcases path.cases_head with rfl | ⟨next, ⟨bound, found, occurs⟩, rest⟩
        · exact .inl member
        · have further := (below member found).mpr ⟨next, occurs, rest⟩
          exact .inr ⟨first, member, (Option.any_eq_true _ _).mpr ⟨bound, found, further⟩⟩

theorem Acyclic.reaches_iff (acyclic : start.Acyclic) (sought : Var) (term : Term)
    : start.reaches sought term = true ↔ start.Reaches term sought :=
  acyclic.reachesWithin_iff sought start.size [] term (fun first _ => .start _ _ first)

end Substitution

-----------------------------------------------------------------------------------------
-- Steps at the roots
-----------------------------------------------------------------------------------------

section Roots

variable {left right : Term} {start : Substitution Term}

/-- What the check makes of two roots: it lets the run end as without the check, it finds a
binding that closes a cycle, or it leaves two compounds to their fields.
-/
inductive CheckedStep (left right : Term) (start : Substitution Term) : Prop
  | settled {answer} (ends : Ends left right start answer)
    (acyclic : ∀ result, answer = .ok result → result.Acyclic)
    (outcome : ∀ unifyPair, checkedRoots unifyPair left right start = .settled answer)
    : CheckedStep left right start
  | circular {name value} (ends : Ends left right start (.ok (start.extend name value)))
    (cycle : ¬ (start.extend name value).Acyclic)
    (outcome : ∀ unifyPair, checkedRoots unifyPair left right start = .circular)
    : CheckedStep left right start
  | descended {head} (leftShape : shape left = .compound head)
    (rightShape : shape right = .compound head)
    : CheckedStep left right start

theorem checkedRoots_of_compounds {unifyPair : Term → Term → Substitution Term → Checked}
    {head : Head} (leftShape : shape left = .compound head)
    (rightShape : shape right = .compound head)
    : checkedRoots unifyPair left right start
      = checkedFields unifyPair head left right head.arity 0 start := by
  simp [checkedRoots, leftShape, rightShape]

theorem checkedRoots_of_matches (matching : Matches left right)
    (unifyPair : Term → Term → Substitution Term → Checked)
    : checkedRoots unifyPair left right start = .settled (.ok start) := by
  cases matching with
  | object leftShape rightShape same => simp [checkedRoots, leftShape, rightShape, same]
  | @value first second leftShape rightShape notObjects same =>
      cases first <;> cases second <;> simp_all [checkedRoots]

theorem checkedRoots_of_clash {failure : Failure} (clash : Clash left right failure)
    (unifyPair : Term → Term → Substitution Term → Checked)
    : checkedRoots unifyPair left right start = .settled (.error failure) := by
  cases clash with
  | heads leftShape rightShape different | objects leftShape rightShape different =>
      simp [checkedRoots, leftShape, rightShape, different]
  | @values first second leftShape rightShape notObjects different =>
      cases first <;> cases second <;> simp_all [checkedRoots]
  | compoundAtom leftShape rightShape | atomCompound leftShape rightShape =>
      simp [checkedRoots, leftShape, rightShape]

theorem CheckedStep.of_bindChecked (acyclic : start.Acyclic) {name : Var} {value : Term}
    (unbound : start.lookup? name = none)
    (ends : Ends left right start (.ok (start.extend name value)))
    (outcome
      : ∀ unifyPair, checkedRoots unifyPair left right start = bindChecked name value start)
    : CheckedStep left right start := by
  by_cases reached : start.reaches name value = true
  · apply CheckedStep.circular ends
    · exact ((acyclic.reaches_iff name value).mp reached).not_acyclic unbound
    · intro unifyPair
      rw [outcome, bindChecked, if_pos reached]
  · apply CheckedStep.settled ends
    · rintro _ ⟨⟩
      exact acyclic.extend (fun within => reached ((acyclic.reaches_iff name value).mpr within))
    · intro unifyPair
      rw [outcome, bindChecked, if_neg reached]

/-- From a substitution without cycles, the check makes one of these three things of two
roots.
-/
theorem checkedStep (acyclic : start.Acyclic) (leftEnds : start.hop? left = none)
    (rightEnds : start.hop? right = none)
    : CheckedStep left right start := by
  have kept (result : Substitution Term)
      (same : (Except.ok start : Except Failure _) = .ok result)
      : result.Acyclic :=
    Except.ok.inj same ▸ acyclic
  by_cases leftKnown : Known left
  · by_cases rightKnown : Known right
    · rcases matches_or_clash_or_compounds leftKnown rightKnown with
        matching | ⟨failure, clash⟩ | ⟨head, leftShape, rightShape⟩
      · exact .settled (.matched matching) kept (checkedRoots_of_matches matching)
      · exact .settled (.clashed clash) (by simp) (checkedRoots_of_clash clash)
      · exact .descended leftShape rightShape
    · obtain ⟨name, rightShape⟩ := exists_unknown_of_not_known rightKnown
      rw [Substitution.hop?_of_unknown rightShape] at rightEnds
      apply CheckedStep.of_bindChecked acyclic rightEnds (.boundRight leftKnown rightShape)
      intro unifyPair
      cases leftShape : shape left with
      | unknown other => exact (leftKnown other leftShape).elim
      | atomic _ | compound _ => simp [checkedRoots, leftShape, rightShape]
  · obtain ⟨name, leftShape⟩ := exists_unknown_of_not_known leftKnown
    by_cases same : shape right = .unknown name
    · exact .settled (.same leftShape same) kept (by simp [checkedRoots, leftShape, same])
    · rw [Substitution.hop?_of_unknown leftShape] at leftEnds
      apply CheckedStep.of_bindChecked acyclic leftEnds (.boundLeft leftShape same)
      intro unifyPair
      cases rightShape : shape right with
      | unknown other =>
          have different : name ≠ other := fun equal => same (equal ▸ rightShape)
          simp [checkedRoots, leftShape, rightShape, different]
      | atomic _ | compound _ => simp [checkedRoots, leftShape, rightShape]

end Roots

-----------------------------------------------------------------------------------------
-- The run without the check, beside the run with it
-----------------------------------------------------------------------------------------

section Follows

variable {levels depth : Nat} {left right : Term} {start : Substitution Term}

/-- How a run without the check follows an outcome with it. An answer is the same in both,
and leaves no cycle; after a circular binding no success is without cycles.
-/
inductive Follows : Checked → Option (Run Term) → Prop
  | unfinished : Follows .unfinished none
  | circular {found}
    (cyclic
      : ∀ run result, found = some run → run.answer = .ok result → ¬ result.Acyclic)
    : Follows .circular found
  | settled {answer run} (same : run.answer = answer)
    (acyclic : ∀ result, answer = .ok result → result.Acyclic)
    : Follows (.settled answer) (some run)

theorem Follows.map {outcome : Checked} {found : Option (Run Term)}
    {change : Run Term → Run Term} (follows : Follows outcome found)
    (keeps : ∀ run, (change run).answer = run.answer)
    : Follows outcome (found.map change) := by
  cases follows with
  | unfinished => exact .unfinished
  | circular cyclic =>
      apply Follows.circular
      intro run result mapped succeeded
      obtain ⟨before, earlier, rfl⟩ := Option.map_eq_some_iff.mp mapped
      exact cyclic before result earlier ((keeps before).symm.trans succeeded)
  | settled same acyclic => exact .settled ((keeps _).trans same) acyclic

/-- What follows a success goes on alike, if it removes no cycle. -/
theorem Follows.andThen {outcome : Checked} {found : Option (Run Term)}
    {next : Substitution Term → Checked} {following : Substitution Term → Option (Run Term)}
    (follows : Follows outcome found)
    (further : ∀ middle, middle.Acyclic → Follows (next middle) (following middle))
    (keeps
      : ∀ run middle later result,
          found = some run
          → run.answer = .ok middle
          → following middle = some later
          → later.answer = .ok result
          → result.Acyclic
          → middle.Acyclic)
    : Follows (outcome.andThen next) (found.bind (fun run => run.andThen following)) := by
  cases follows with
  | unfinished => exact .unfinished
  | circular cyclic =>
      apply Follows.circular
      intro whole result combined succeeded acyclic
      obtain ⟨run, middle, later, present, reached, laterFound, final⟩ :=
        exists_of_bind_andThen combined succeeded
      apply cyclic run middle present reached
      exact keeps run middle later result present reached laterFound final acyclic
  | @settled answer run same acyclic =>
      rw [Option.bind_some]
      cases answer with
      | error failure =>
          rw [Run.andThen_of_error same]
          exact .settled same acyclic
      | ok middle =>
          rw [Run.andThen_of_ok same]
          exact (further middle (acyclic middle rfl)).map (fun _ => rfl)

/-- Fields follow when their pairs do, by induction on the fields that remain. Runs keep
active bindings, so what a pair of fields has closed stays closed.
-/
theorem checkedFields_follows
    (follows
      : ∀ left right start,
          Substitution.Acyclic start
          → Follows (descendChecked levels left right start)
              (descend .unlimited levels (depth + 1) left right start))
    (head : Head) (remaining index : Nat) (acyclic : start.Acyclic)
    : Follows (checkedFields (descendChecked levels) head left right remaining index start)
        (unifyFields (descend .unlimited levels (depth + 1)) head left right remaining index
          start) := by
  induction remaining generalizing index start with
  | zero => exact .settled rfl (fun _ same => Except.ok.inj same ▸ acyclic)
  | succ remaining ih =>
      rcases exists_fields_or_lacking left right index with
        ⟨first, second, leftField, rightField⟩ | absent
      · rw [checkedFields_of_fields leftField rightField,
          unifyFields_of_fields leftField rightField]
        apply (follows first second start acyclic).andThen
        · intro middle middleAcyclic
          exact ih (index + 1) middleAcyclic
        · intro run middle later result present reached laterFound succeeded resultAcyclic
          have pair := descend_settles _ _ _ _ _ _ _ present
          have chains := (pair.growth reached acyclic.chainAcyclic trivial).2
          have rest := unifyFields_settles (descend_settles _ _ _) _ _ _ _ _ _ _ laterFound
          exact resultAcyclic.of_extendedBy (rest.growth succeeded chains trivial).1
      · rw [checkedFields_of_lacking absent, unifyFields_of_lacking absent]
        exact .settled rfl (fun _ same => by cases same)

/-- From a substitution without cycles, the run without the check follows the one with it at
every number of levels, by induction on the levels.
-/
theorem descendChecked_follows (levels depth : Nat) (left right : Term)
    (start : Substitution Term) (acyclic : start.Acyclic)
    : Follows (descendChecked levels left right start)
        (descend .unlimited levels depth left right start) := by
  induction levels generalizing depth left right start with
  | zero => exact .unfinished
  | succ levels ih =>
      have step := checkedStep acyclic (acyclic.chainAcyclic.hop?_walk left)
        (acyclic.chainAcyclic.hop?_walk right)
      show Follows (checkedRoots (descendChecked levels) _ _ start)
        (unifyRoots (descend .unlimited levels (depth + 1)) depth _ _ start)
      cases step with
      | settled ends resultAcyclic outcome =>
          obtain ⟨run, found, answer⟩ :=
            ends.unifyRoots (descend .unlimited levels (depth + 1)) depth
          rw [outcome, found]
          exact .settled answer resultAcyclic
      | circular ends cycle outcome =>
          obtain ⟨run, found, answer⟩ :=
            ends.unifyRoots (descend .unlimited levels (depth + 1)) depth
          rw [outcome, found]
          apply Follows.circular
          rintro _ result ⟨⟩ succeeded
          rw [answer] at succeeded
          exact Except.ok.inj succeeded ▸ cycle
      | descended leftShape rightShape =>
          rw [checkedRoots_of_compounds leftShape rightShape,
            unifyRoots_of_compounds leftShape rightShape]
          exact (checkedFields_follows (ih (depth + 1)) _ _ 0 acyclic).map (fun _ => rfl)

/-- A settled outcome is the answer of the run without the check. -/
theorem exists_run_of_settled {answer : Except Failure (Substitution Term)}
    (acyclic : start.Acyclic)
    (outcome : descendChecked levels left right start = .settled answer) (depth : Nat)
    : ∃ run,
        descend .unlimited levels depth left right start = some run
        ∧ run.answer = answer
        ∧ ∀ result, answer = .ok result → result.Acyclic := by
  have follows := descendChecked_follows levels depth left right start acyclic
  rw [outcome] at follows
  generalize descend .unlimited levels depth left right start = found at follows
  cases follows with
  | @settled _ run same resultAcyclic => exact ⟨run, rfl, same, resultAcyclic⟩

end Follows

-----------------------------------------------------------------------------------------
-- Where a circular binding is made
-----------------------------------------------------------------------------------------

section Circular

variable {levels depth : Nat} {left right : Term} {start : Substitution Term}

/-- A circular binding in several fields is made in one pair of them, after a success on
those before it, by induction on the fields that remain.
-/
theorem exists_field_of_checkedFields_circular {head : Head} {remaining index : Nat}
    (acyclic : start.Acyclic)
    (circular
      : checkedFields (descendChecked levels) head left right remaining index start = .circular)
    : ∃ passed run middle first second,
        passed < remaining
        ∧ unifyFields (descend .unlimited levels depth) head left right passed index start
          = some run
        ∧ run.answer = .ok middle
        ∧ middle.Acyclic
        ∧ field? left (index + passed) = some first
        ∧ field? right (index + passed) = some second
        ∧ descendChecked levels first second middle = .circular := by
  induction remaining generalizing index start with
  | zero => cases circular
  | succ remaining ih =>
      rcases exists_fields_or_lacking left right index with
        ⟨first, second, leftField, rightField⟩ | absent
      · rw [checkedFields_of_fields leftField rightField] at circular
        cases outcome : descendChecked levels first second start with
        | unfinished =>
            rw [outcome] at circular
            cases circular
        | circular =>
            exact ⟨0, .succeed start, start, first, second, Nat.succ_pos _, rfl, rfl, acyclic,
              leftField, rightField, outcome⟩
        | settled answer =>
            rw [outcome] at circular
            obtain ⟨pair, found, same, resultAcyclic⟩ :=
              exists_run_of_settled acyclic outcome depth
            cases answer with
            | error failure => cases circular
            | ok next =>
                obtain ⟨passed, later, middle, first, second, fewer, laterFound, reached,
                  middleAcyclic, leftLater, rightLater, stuck⟩ :=
                  ih (resultAcyclic next rfl) circular
                refine ⟨passed + 1, ⟨pair.log ++ later.log, later.answer⟩, middle, first,
                  second, by omega, ?_, reached, middleAcyclic, ?_, ?_, stuck⟩
                · rw [unifyFields_of_fields leftField rightField, found, Option.bind_some,
                    Run.andThen_of_ok same, laterFound, Option.map_some]
                · rwa [Nat.add_right_comm] at leftLater
                · rwa [Nat.add_right_comm] at rightLater
      · rw [checkedFields_of_lacking absent] at circular
        cases circular

/-- Where the check finds a circular binding below a pair that the run without the check
visits, that run visits a pair at which it makes the binding, by induction on the levels.
-/
theorem Visits.exists_circular {first second : Term} {current : Substitution Term}
    (visits : Visits .unlimited left right start depth first second current)
    (acyclic : current.Acyclic)
    (circular : descendChecked levels first second current = .circular)
    : ∃ depth first second current name value run,
        Visits .unlimited left right start depth first second current
        ∧ current.Acyclic
        ∧ descend .unlimited 1 depth first second current = some run
        ∧ run.answer = .ok (current.extend name value)
        ∧ ¬ (current.extend name value).Acyclic := by
  induction levels generalizing depth first second current with
  | zero => cases circular
  | succ levels ih =>
      have step := checkedStep acyclic (acyclic.chainAcyclic.hop?_walk first)
        (acyclic.chainAcyclic.hop?_walk second)
      change checkedRoots (descendChecked levels) _ _ current = _ at circular
      cases step with
      | settled _ _ outcome => cases (outcome _).symm.trans circular
      | circular ends cycle =>
          obtain ⟨run, found, answer⟩ :=
            ends.unifyRoots (descend .unlimited 0 (depth + 1)) depth
          exact ⟨depth, first, second, current, _, _, run, visits, acyclic, found, answer,
            cycle⟩
      | descended leftShape rightShape =>
          rw [checkedRoots_of_compounds leftShape rightShape] at circular
          obtain ⟨index, run, middle, leftField, rightField, claimed, before, reached,
            middleAcyclic, leftFound, rightFound, stuck⟩ :=
            exists_field_of_checkedFields_circular acyclic circular
          rw [Nat.zero_add] at leftFound rightFound
          have below
              : Visits .unlimited left right start (depth + 1) leftField rightField middle :=
            .field levels index visits rfl leftShape rightShape before reached claimed leftFound
              rightFound
          exact ih below middleAcyclic stuck

end Circular

-----------------------------------------------------------------------------------------
-- Every run with the check ends
-----------------------------------------------------------------------------------------

section Termination

variable {levels : Nat} {terms : List Term} {left right : Term}
  {start result : Substitution Term}

/-- Without cycles of variables, every binding leaves fewer classes open. -/
theorem Substitution.ChainAcyclic.eq_or_openCount_lt (acyclic : start.ChainAcyclic)
    (steps : ReflTransGen (Substitution.Binds (· ∈ terms)) start result)
    : result = start ∨ result.openCount terms < start.openCount terms := by
  induction steps with
  | refl => exact .inl rfl
  | @tail middle last earlier step ih =>
      have middleAcyclic := (growth_of_binds earlier acyclic).2
      have less : last.openCount terms < middle.openCount terms := by
        cases step with
        | bind targetShape loose root other targetGiven valueGiven =>
            apply loose.openCount_extend_lt root targetShape targetGiven valueGiven
            intro shown valueShape linked
            have same := middleAcyclic.eq_of_linked loose (root shown valueShape) linked
            exact other (same ▸ valueShape)
      rcases ih with same | fewer
      · exact .inr (same ▸ less)
      · exact .inr (less.trans fewer)

/-- A substitution without cycles that binds only given terms. -/
structure Substitution.AcyclicWithin (terms : List Term) (substitution : Substitution Term)
    : Prop where
  acyclic : substitution.Acyclic
  bound : substitution.AllBound (· ∈ terms)

/-- A success with the check leaves no cycle, and it has bound nothing or leaves fewer
classes open.
-/
theorem Substitution.AcyclicWithin.of_settled (hereditary : Hereditary (· ∈ terms))
    (within : start.AcyclicWithin terms) (given : left ∈ terms ∧ right ∈ terms)
    (outcome : descendChecked levels left right start = .settled (.ok result))
    : result.AcyclicWithin terms
      ∧ (result = start ∨ result.openCount terms < start.openCount terms) := by
  obtain ⟨run, found, succeeded, resultAcyclic⟩ :=
    exists_run_of_settled within.acyclic outcome 0
  have settled := descend_settles _ _ _ _ _ _ _ found
  have steps := settled.binds hereditary succeeded within.bound given trivial
  exact ⟨⟨resultAcyclic result rfl, settled.allBound hereditary succeeded within.bound given⟩,
    within.acyclic.chainAcyclic.eq_or_openCount_lt steps⟩

/-- Fields are finished at some number of levels when each pair of them is, on top of what
the fields before it leave. By induction on the fields that remain.
-/
theorem exists_levels_checkedFields (hereditary : Hereditary (· ∈ terms))
    (given : left ∈ terms ∧ right ∈ terms)
    (pairs
      : ∀ position first second current,
          Substitution.AcyclicWithin terms current
          → (current = start ∨ current.openCount terms < start.openCount terms)
          → field? left position = some first
          → field? right position = some second
          → ∃ levels, descendChecked levels first second current ≠ .unfinished)
    (head : Head) (remaining index : Nat) (current : Substitution Term)
    (within : current.AcyclicWithin terms)
    (since : current = start ∨ current.openCount terms < start.openCount terms)
    : ∃ levels,
        checkedFields (descendChecked levels) head left right remaining index current
        ≠ .unfinished := by
  induction remaining generalizing index current with
  | zero => exact ⟨0, by simp [checkedFields]⟩
  | succ remaining ih =>
      rcases exists_fields_or_lacking left right index with
        ⟨first, second, leftField, rightField⟩ | absent
      · obtain ⟨levels, finished⟩ :=
          pairs index first second current within since leftField rightField
        simp only [checkedFields_of_fields leftField rightField]
        cases outcome : descendChecked levels first second current with
        | unfinished => exact (finished outcome).elim
        | circular => exact ⟨levels, by simp [outcome, Checked.andThen]⟩
        | settled answer =>
            cases answer with
            | error failure => exact ⟨levels, by simp [outcome, Checked.andThen]⟩
            | ok middle =>
                have fieldsGiven := And.intro (hereditary _ _ _ given.1 leftField)
                  (hereditary _ _ _ given.2 rightField)
                obtain ⟨middleWithin, further⟩ :=
                  within.of_settled hereditary fieldsGiven outcome
                have middleSince
                    : middle = start ∨ middle.openCount terms < start.openCount terms := by
                  rcases further with rfl | fewer
                  · exact since
                  · rcases since with rfl | less
                    · exact .inr fewer
                    · exact .inr (fewer.trans less)
                obtain ⟨more, restFinished⟩ := ih (index + 1) middle middleWithin middleSince
                -- at the greater number of levels both the pair and the rest are finished
                have pair := descendChecked_mono (Nat.le_max_left levels more) finished
                have rest := checkedFields_mono
                  (fun _ _ _ => descendChecked_mono (Nat.le_max_right levels more))
                  head left right remaining (index + 1) middle restFinished
                refine ⟨max levels more, ?_⟩
                rw [pair, outcome]
                exact fun unfinished => restFinished (rest.symm.trans unfinished)
      · exact ⟨0, by simp [checkedFields_of_lacking absent]⟩

/-- From a substitution without cycles, unification with occurs check ends. The pairs below
a pair have fewer classes without value, or the same substitution and a left side that
resolves to a lower term.
-/
theorem exists_levels_descendChecked (hereditary : Hereditary (· ∈ terms)) (left right : Term)
    (start : Substitution Term) (within : start.AcyclicWithin terms)
    (given : left ∈ terms ∧ right ∈ terms)
    : ∃ levels, descendChecked levels left right start ≠ .unfinished := by
  have step := checkedStep within.acyclic (within.acyclic.chainAcyclic.hop?_walk left)
    (within.acyclic.chainAcyclic.hop?_walk right)
  cases step with
  | settled _ _ outcome => exact ⟨1, by simp [descendChecked, outcome]⟩
  | circular _ _ outcome => exact ⟨1, by simp [descendChecked, outcome]⟩
  | @descended head leftShape rightShape =>
      have rootsGiven := And.intro (within.bound.walk given.1) (within.bound.walk given.2)
      have pairs (position : Nat) (first second : Term) (current : Substitution Term)
          (currentWithin : current.AcyclicWithin terms)
          (since : current = start ∨ current.openCount terms < start.openCount terms)
          (leftField : field? (start.walk left) position = some first)
          (rightField : field? (start.walk right) position = some second)
          : ∃ levels, descendChecked levels first second current ≠ .unfinished := by
        have lower : (start.resolve first).height < (start.resolve left).height := by
          rw [← within.acyclic.resolve_walk left]
          exact Term.height_replace_field_lt _ leftField
        have falls
            : Prod.Lex (· < ·) (· < ·)
                (current.openCount terms, (current.resolve first).height)
                (start.openCount terms, (start.resolve left).height) := by
          rcases since with rfl | fewer
          · exact .right _ lower
          · exact .left _ _ fewer
        exact exists_levels_descendChecked hereditary first second current currentWithin
          ⟨hereditary _ _ _ rootsGiven.1 leftField, hereditary _ _ _ rootsGiven.2 rightField⟩
      obtain ⟨levels, finished⟩ := exists_levels_checkedFields hereditary rootsGiven pairs head
        head.arity 0 start within (.inl rfl)
      refine ⟨levels + 1, ?_⟩
      rwa [descendChecked, checkedRoots_of_compounds leftShape rightShape]
termination_by (start.openCount terms, (start.resolve left).height)
decreasing_by exact falls

end Termination

-----------------------------------------------------------------------------------------
-- Calls
-----------------------------------------------------------------------------------------

/-- From a substitution without cycles there are levels at which unification with occurs
check is finished, and it has the same outcome at all further levels.
-/
theorem exists_checked_outcome (left right : Term) (start : Substitution Term)
    (acyclic : start.Acyclic)
    : ∃ outcome least,
        outcome ≠ .unfinished
        ∧ ∀ levels,
            (levels < least → descendChecked levels left right start = .unfinished)
            ∧ (least ≤ levels → descendChecked levels left right start = outcome) := by
  classical
  have ends : ∃ levels, descendChecked levels left right start ≠ .unfinished :=
    exists_levels_descendChecked (allParts_hereditary left right start) left right start
      ⟨acyclic, allBound_allParts left right start⟩
      ⟨left_mem_allParts left right start, right_mem_allParts left right start⟩
  refine ⟨_, Nat.find ends, Nat.find_spec ends, ?_⟩
  intro levels
  constructor
  · intro fewer
    exact Classical.not_not.mp (Nat.find_min ends fewer)
  · intro enough
    exact descendChecked_mono enough (Nat.find_spec ends)

/-- From a substitution without cycles, unification with occurs check ends. Where it does
not come to a circular binding, the call without a deepest level has the same answer. Where
that call succeeds without a cycle, the check has the same success. And where the call has
no result, its run visits a pair at which it makes the first binding that closes a cycle.
-/
theorem unifyWith_answer_of_checked (left right : Term) (start : Substitution Term)
    (acyclic : start.Acyclic)
    : ∃ outcome least,
        outcome ≠ .unfinished
        ∧ (∀ levels,
            (levels < least → descendChecked levels left right start = .unfinished)
            ∧ (least ≤ levels → descendChecked levels left right start = outcome))
        ∧ (∀ answer,
            outcome = .settled answer
            → (unifyWith .unlimited left right start).map Run.answer = some answer)
        ∧ (∀ result,
            (unifyWith .unlimited left right start).map Run.answer = some (.ok result)
            → result.Acyclic
            → outcome = .settled (.ok result))
        ∧ (unifyWith .unlimited left right start = none
            → ∃ depth first second current name value run,
                Visits .unlimited left right start depth first second current
                ∧ current.Acyclic
                ∧ descend .unlimited 1 depth first second current = some run
                ∧ run.answer = .ok (current.extend name value)
                ∧ ¬ (current.extend name value).Acyclic) := by
  obtain ⟨outcome, least, finished, levels⟩ := exists_checked_outcome left right start acyclic
  have settles (answer : Except Failure (Substitution Term))
      (settled : outcome = .settled answer)
      : (unifyWith .unlimited left right start).map Run.answer = some answer := by
    obtain ⟨run, found, same, _⟩ := exists_run_of_settled acyclic
      (((levels least).2 (Nat.le_refl least)).trans settled) 0
    rw [unifyWith_eq_some_of_descend found]
    exact congrArg some same
  refine ⟨outcome, least, finished, levels, settles, ?_, ?_⟩
  · intro result succeeded resultAcyclic
    cases outcome with
    | unfinished => exact (finished rfl).elim
    | settled answer =>
        have same := Option.some.inj ((settles answer rfl).symm.trans succeeded)
        rw [same]
    | circular =>
        -- at levels that suffice for both, the call follows a circular outcome
        obtain ⟨run, called, answer⟩ := Option.map_eq_some_iff.mp succeeded
        obtain ⟨many, enough, finishing⟩ : ∃ many,
            levelsNeeded .unlimited left right start ≤ many ∧ least ≤ many :=
          ⟨_, Nat.le_max_left _ _, Nat.le_max_right _ _⟩
        rw [unifyWith_eq_map_descend enough] at called
        obtain ⟨inner, found, rfl⟩ := Option.map_eq_some_iff.mp called
        have follows := descendChecked_follows many 0 left right start acyclic
        rw [(levels many).2 finishing, found] at follows
        cases follows with
        | circular cyclic => exact (cyclic inner result rfl answer resultAcyclic).elim
  · intro unanswered
    cases outcome with
    | unfinished => exact (finished rfl).elim
    | settled answer => simp [unanswered] at settles
    | circular =>
        exact Visits.outermost.exists_circular acyclic ((levels least).2 (Nat.le_refl least))

/-- On top of one binding, two variables are bound to the same compound around its variable.
For the variable below that one the second binding is circular: the check stops, while the
call without it goes on. For another variable both have the same answer.
-/
theorem unifyWith_answer_of_checked_on_binding
    : Substitution.Acyclic ⟨[(⟨2⟩, compound 4 [var ⟨1⟩])]⟩
      ∧ descendChecked 2 (compound 3 [var ⟨0⟩, var ⟨1⟩])
          (compound 3 [compound 5 [var ⟨2⟩], var ⟨0⟩]) ⟨[(⟨2⟩, compound 4 [var ⟨1⟩])]⟩
        = .circular
      ∧ (unifyWith .unlimited (compound 3 [var ⟨0⟩, var ⟨1⟩])
            (compound 3 [compound 5 [var ⟨2⟩], var ⟨0⟩])
            ⟨[(⟨2⟩, compound 4 [var ⟨1⟩])]⟩).map
          Run.answer
        = some
            (.ok
              ⟨[(⟨1⟩, compound 5 [var ⟨2⟩]), (⟨0⟩, compound 5 [var ⟨2⟩]),
                  (⟨2⟩, compound 4 [var ⟨1⟩])]⟩)
      ∧ descendChecked 2 (compound 3 [var ⟨0⟩, var ⟨3⟩])
          (compound 3 [compound 5 [var ⟨2⟩], var ⟨0⟩]) ⟨[(⟨2⟩, compound 4 [var ⟨1⟩])]⟩
        = .settled
            (.ok
              ⟨[(⟨3⟩, compound 5 [var ⟨2⟩]), (⟨0⟩, compound 5 [var ⟨2⟩]),
                  (⟨2⟩, compound 4 [var ⟨1⟩])]⟩)
      ∧ (unifyWith .unlimited (compound 3 [var ⟨0⟩, var ⟨3⟩])
            (compound 3 [compound 5 [var ⟨2⟩], var ⟨0⟩])
            ⟨[(⟨2⟩, compound 4 [var ⟨1⟩])]⟩).map
          Run.answer
        = some
            (.ok
              ⟨[(⟨3⟩, compound 5 [var ⟨2⟩]), (⟨0⟩, compound 5 [var ⟨2⟩]),
                  (⟨2⟩, compound 4 [var ⟨1⟩])]⟩) := by
  have acyclic : Substitution.Acyclic ⟨[(⟨2⟩, compound 4 [var ⟨1⟩])]⟩ :=
    Substitution.acyclic_of_rank (fun name => name.id.toNat) (by decide)
  refine ⟨acyclic, rfl, rfl, rfl, ?_⟩
  obtain ⟨outcome, least, finished, levels, settles, _⟩ := unifyWith_answer_of_checked
    (compound 3 [var ⟨0⟩, var ⟨3⟩]) (compound 3 [compound 5 [var ⟨2⟩], var ⟨0⟩]) _ acyclic
  apply settles
  by_cases enough : least ≤ 2
  · exact ((levels 2).2 enough).symm
  · cases (levels 2).1 (Nat.lt_of_not_le enough)

end Unification
