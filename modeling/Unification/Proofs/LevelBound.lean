import Mathlib.Data.List.ProdSigma
import Unification.Proofs.Descent
import Unification.Proofs.OpenClasses
import Unification.Proofs.Simulation

/-! The levels that a call computes suffice: a run that has an answer at any number of
levels has it there. From substitutions that are alike, runs agree at every number of
levels. On its way down, a run that ends therefore never meets the same pair again while as
many classes of variables are without value, and there are only finitely many pairs and
classes to meet.
-/

namespace Unification

open Relation
open Unifiable (shape field?)

-----------------------------------------------------------------------------------------
-- Runs from substitutions that are alike
-----------------------------------------------------------------------------------------

section Alike

variable {α : Type} [Unifiable α] [LawfulClone α] {start other : Substitution α}
  {left right : α}

/-- Two variables of one class unify with at most a binding within the class. -/
theorem Ends.exists_alike {first second : Var} (leftShape : shape left = .unknown first)
    (rightShape : shape right = .unknown second) (leftLoose : start.Loose first)
    (rightLoose : start.Loose second) (linked : start.Linked first second)
    : ∃ result, Ends left right start (.ok result) ∧ start.Alike result := by
  by_cases same : first = second
  · exact ⟨start, .same leftShape (same ▸ rightShape), .refl start⟩
  · have apart : shape right ≠ .unknown first := by
      rw [rightShape]
      exact fun equal => same (Shape.unknown.inj equal).symm
    exact ⟨_, .bindLeft leftShape apart, .extend_self leftLoose rightShape rightLoose linked⟩

/-- Two variables of different classes unify by a binding that joins the classes. -/
theorem Ends.bindLeft_of_not_linked {first second : Var}
    (leftShape : shape left = .unknown first) (rightShape : shape right = .unknown second)
    (separate : ¬ start.Linked first second)
    : Ends left right start (.ok (start.extend first right)) := by
  apply Ends.bindLeft leftShape
  rw [rightShape]
  intro same
  rw [Shape.unknown.inj same] at separate
  exact separate (.refl first)

/-- From substitutions that are alike, the same two values lead to the same step. The roots
may be different variables, but only of the same classes.
-/
theorem alike_simulation
    : Simulation (α := α) Substitution.Alike
        (fun left right left' right' => left = left' ∧ right = right') Eq where
  roots := by
    rintro start start' left right _ _ alike ⟨rfl, rfl⟩
    have loose (value : α) := Substitution.isRoot_walk start value
    have loose' (value : α) := Substitution.isRoot_walk start' value
    rcases alike.walk_cases left with
      ⟨leftKnown, leftSame⟩ | ⟨first, first', leftShape, leftShape', leftLinked⟩
    all_goals rcases alike.walk_cases right with
      ⟨rightKnown, rightSame⟩ | ⟨second, second', rightShape, rightShape', rightLinked⟩
    -- two values are the same in both runs
    · rw [leftSame, rightSame]
      exact .of_known keepsMismatches_eq leftKnown rightKnown alike (fun _ _ => ⟨rfl, rfl⟩)
    -- a value for a class, on either side
    · rw [leftSame]
      exact .succeeded (.bindRight leftKnown rightShape) (.bindRight leftKnown rightShape')
        (alike.extend_known (loose right second rightShape) (loose' right second' rightShape')
          rightLinked leftKnown)
    · rw [rightSame]
      exact .succeeded (.bindLeft leftShape (rightKnown first))
        (.bindLeft leftShape' (rightKnown first'))
        (alike.extend_known (loose left first leftShape) (loose' left first' leftShape')
          leftLinked rightKnown)
    -- two classes without value, which may be one already
    · have leftLoose := loose left first leftShape
      have rightLoose := loose right second rightShape
      have leftLoose' := loose' left first' leftShape'
      have rightLoose' := loose' right second' rightShape'
      have leftLinked' := (alike.linked _ _).mp leftLinked
      have rightLinked' := (alike.linked _ _).mp rightLinked
      have equivalence := Substitution.linked_equivalence start'
      by_cases linked : start.Linked first second
      · have linked' : start'.Linked first' second' :=
          equivalence.trans (equivalence.symm leftLinked')
            (equivalence.trans ((alike.linked _ _).mp linked) rightLinked')
        obtain ⟨result, ends, kept⟩ :=
          Ends.exists_alike leftShape rightShape leftLoose rightLoose linked
        obtain ⟨result', ends', kept'⟩ :=
          Ends.exists_alike leftShape' rightShape' leftLoose' rightLoose' linked'
        exact .succeeded ends ends' (kept.symm.trans (alike.trans kept'))
      · have separate' : ¬ start'.Linked first' second' := by
          intro linked'
          refine linked ((alike.linked _ _).mpr ?_)
          exact equivalence.trans leftLinked'
            (equivalence.trans linked' (equivalence.symm rightLinked'))
        refine .succeeded (.bindLeft_of_not_linked leftShape rightShape linked)
          (.bindLeft_of_not_linked leftShape' rightShape' separate') ?_
        exact alike.extend_linked leftLoose leftLoose' rightShape rightShape' rightLoose
          rightLoose' leftLinked rightLinked

/-- Without a deepest level, neither the depth nor the chains within classes make a
difference to whether there is an answer.
-/
theorem Substitution.Alike.descend_isSome_eq (alike : start.Alike other)
    (levels depth depth' : Nat) (left right : α)
    : (descend .unlimited levels depth left right start).isSome
      = (descend .unlimited levels depth' left right other).isSome :=
  (alike_simulation.descend_agree levels depth depth' (fun _ => .none) alike
    ⟨rfl, rfl⟩).isSome_eq

end Alike

-----------------------------------------------------------------------------------------
-- Pairs on the way down
-----------------------------------------------------------------------------------------

section Descent

variable {α : Type} [Unifiable α]

/-- Two answers of one run, at whatever numbers of levels, are the same. -/
theorem descend_unique {config : Config} {levels more depth : Nat} {left right : α}
    {start : Substitution α} {run other : Run α}
    (answered : descend config levels depth left right start = some run)
    (again : descend config more depth left right start = some other)
    : run = other := by
  have first := descend_mono config (Nat.le_max_left levels more) depth left right start run
    answered
  have second := descend_mono config (Nat.le_max_right levels more) depth left right start other
    again
  exact Option.some.inj (first.symm.trans second)

variable {few many : α → α → Substitution α → Option (Run α)} {head : Head}
  {left right first second : α} {remaining index : Nat} {start middle : Substitution α}
  {run : Run α}

/-- A success on several fields is one on the first pair and then one on the others. -/
theorem exists_success_of_unifyFields
    (answered
      : unifyFields many head left right (remaining + 1) index start = some run)
    (succeeded : run.answer = .ok middle)
    : ∃ first second pair reached later,
        field? left index = some first
        ∧ field? right index = some second
        ∧ many first second start = some pair
        ∧ pair.answer = .ok reached
        ∧ unifyFields many head left right remaining (index + 1) reached = some later
        ∧ later.answer = .ok middle := by
  rcases exists_fields_or_lacking left right index with
    ⟨first, second, leftField, rightField⟩ | absent
  · rw [unifyFields_of_fields leftField rightField] at answered
    obtain ⟨pair, reached, later, found, pairReached, laterFound, laterReached⟩ :=
      exists_of_bind_andThen answered succeeded
    exact ⟨first, second, pair, reached, later, leftField, rightField, found, pairReached,
      laterFound, laterReached⟩
  · rw [unifyFields_of_lacking absent] at answered
    cases answered
    cases succeeded

/-- Where several fields have an answer, the first pair has one, and after a success there
so have the others.
-/
theorem unifyFields_succ_isSome (leftField : field? left index = some first)
    (rightField : field? right index = some second)
    (answered
      : (unifyFields many head left right (remaining + 1) index start).isSome = true)
    : ∃ pair,
        many first second start = some pair
        ∧ ∀ reached,
            pair.answer = .ok reached
            → (unifyFields many head left right remaining (index + 1) reached).isSome
              = true := by
  obtain ⟨whole, found⟩ := Option.isSome_iff_exists.mp answered
  rw [unifyFields_of_fields leftField rightField] at found
  obtain ⟨pair, pairFound, rest⟩ := Option.bind_eq_some_iff.mp found
  refine ⟨pair, pairFound, ?_⟩
  intro reached succeeded
  rw [Run.andThen_of_ok succeeded] at rest
  obtain ⟨later, laterFound, _⟩ := Option.map_eq_some_iff.mp rest
  exact Option.isSome_of_eq_some laterFound

/-- Where several fields have an answer, so has the pair of fields that is reached after
some of them, by induction on the fields before it.
-/
theorem unifyFields_field_isSome
    (unique
      : ∀ {left right start run other},
          few left right start = some run → many left right start = some other → run = other)
    {passed : Nat} (claimed : passed < remaining)
    (before : unifyFields few head left right passed index start = some run)
    (reached : run.answer = .ok middle) (leftFound : field? left (index + passed) = some first)
    (rightFound : field? right (index + passed) = some second)
    (answered : (unifyFields many head left right remaining index start).isSome = true)
    : (many first second middle).isSome = true := by
  induction passed generalizing remaining index start run with
  | zero =>
      cases before
      cases reached
      obtain ⟨fewer, rfl⟩ := Nat.exists_eq_succ_of_ne_zero (Nat.ne_zero_of_lt claimed)
      obtain ⟨pair, found, _⟩ := unifyFields_succ_isSome leftFound rightFound answered
      exact Option.isSome_of_eq_some found
  | succ passed ih =>
      obtain ⟨fewer, rfl⟩ := Nat.exists_eq_succ_of_ne_zero (Nat.ne_zero_of_lt claimed)
      obtain ⟨_, _, pair, next, later, leftField, rightField, pairFound, pairReached,
        laterFound, laterReached⟩ := exists_success_of_unifyFields before reached
      obtain ⟨again, againFound, further⟩ :=
        unifyFields_succ_isSome leftField rightField answered
      have same := unique pairFound againFound
      subst same
      rw [← Nat.add_assoc, Nat.add_right_comm] at leftFound rightFound
      exact ih (by omega) laterFound laterReached leftFound rightFound
        (further next pairReached)

/-- A pair with an answer that a run visits leaves the fields that it comes to an answer
with one level less.
-/
theorem descend_field_isSome {config : Config} {levels other depth : Nat} {run : Run α}
    (permitted : config.refusal? depth = none)
    (leftShape : shape (start.walk left) = .compound head)
    (rightShape : shape (start.walk right) = .compound head)
    (before
      : unifyFields (descend config other (depth + 1)) head (start.walk left)
          (start.walk right) index 0 start
        = some run)
    (reached : run.answer = .ok middle) (claimed : index < head.arity)
    (leftFound : field? (start.walk left) index = some first)
    (rightFound : field? (start.walk right) index = some second)
    (answered : (descend config (levels + 1) depth left right start).isSome = true)
    : (descend config levels (depth + 1) first second middle).isSome = true := by
  rw [descend_of_permitted permitted, unifyRoots_of_compounds leftShape rightShape,
    Option.isSome_map] at answered
  rw [← Nat.zero_add index] at leftFound rightFound
  exact unifyFields_field_isSome descend_unique claimed before reached leftFound rightFound
    answered

end Descent

-----------------------------------------------------------------------------------------
-- The way down to a pair
-----------------------------------------------------------------------------------------

section Route

variable {α : Type} [Unifiable α] {terms : List α} {passed : List (α × α × Nat)}
  {left right first second : α} {start current : Substitution α} {levels depth : Nat}

/-- Without a deepest level, a pair has an answer at a number of levels. -/
def EndsWithin (levels : Nat) (left right : α) (start : Substitution α) : Prop :=
  (descend .unlimited levels 0 left right start).isSome = true

/-- The pairs on the way down to a pair at hand, each with the number of classes that were
open when it was met. They are distinct, and since then the classes are the same or fewer
are open. Each needs more levels for its answer than the pair at hand.
-/
structure Route (terms : List α) (passed : List (α × α × Nat)) (left right : α)
    (current : Substitution α)
    : Prop where
  given : left ∈ terms ∧ right ∈ terms
  bound : current.AllBound (· ∈ terms)
  distinct : passed.Nodup
  within : passed ⊆ terms ×ˢ terms ×ˢ List.range (terms.length + 1)
  earlier
    : ∀ entry ∈ passed,
        ∃ before,
          before.openCount terms = entry.2.2
          ∧ (before.Alike current ∨ current.openCount terms < before.openCount terms)
          ∧ ∀ levels,
              EndsWithin levels entry.1 entry.2.1 before
              → ∃ fewer < levels, EndsWithin fewer left right current

/-- A route starts at any pair of the given values. -/
theorem Route.outermost (given : left ∈ terms ∧ right ∈ terms)
    (bound : current.AllBound (· ∈ terms))
    : Route terms [] left right current where
  given := given
  bound := bound
  distinct := List.nodup_nil
  within := List.nil_subset _
  earlier := by simp

/-- The pair at hand, with the number of open classes, is one of finitely many. -/
theorem Route.entry_mem (route : Route terms passed left right current)
    : (left, right, current.openCount terms)
      ∈ terms ×ˢ terms ×ˢ List.range (terms.length + 1) := by
  have count := Nat.lt_succ_of_le (current.openCount_le_length terms)
  exact List.mem_product.mpr
    ⟨route.given.1, List.mem_product.mpr ⟨route.given.2, List.mem_range.mpr count⟩⟩

variable [LawfulClone α]

/-- The pair at hand has not been met before with as many open classes: it would have the
same answers now as it had then, but needs fewer levels for them.
-/
theorem Route.fresh (route : Route terms passed left right current)
    (ends : EndsWithin levels left right current)
    : (left, right, current.openCount terms) ∉ passed := by
  classical
  intro member
  obtain ⟨before, sameCount, alike | fewer, needsMore⟩ := route.earlier _ member
  · -- the fewest levels for the pair at hand would not be the fewest
    have ending : ∃ levels, EndsWithin levels left right current := ⟨levels, ends⟩
    have least := Nat.find_spec ending
    have then_ends : EndsWithin (Nat.find ending) left right before := by
      rwa [EndsWithin, alike.descend_isSome_eq _ 0 0]
    obtain ⟨fewer, less, endsEarlier⟩ := needsMore _ then_ends
    exact Nat.find_min ending less endsEarlier
  · rw [sameCount] at fewer
    exact Nat.lt_irrefl _ fewer

/-- A route to a pair that has an answer is shorter than there are pairs and open classes.
-/
theorem Route.length_lt (route : Route terms passed left right current)
    (ends : EndsWithin levels left right current)
    : passed.length < terms.length * (terms.length * (terms.length + 1)) := by
  have distinct : ((left, right, current.openCount terms) :: passed).Nodup :=
    List.nodup_cons.mpr ⟨route.fresh ends, route.distinct⟩
  have included := List.cons_subset.mpr ⟨route.entry_mem, route.within⟩
  have most := distinct.length_le_of_subset included
  rw [List.length_product, List.length_product, List.length_range, List.length_cons] at most
  exact most

/-- A route goes on to a pair that needs fewer levels, past bindings among the given values.
-/
theorem Route.onward {later : Substitution α} (route : Route terms passed left right current)
    (ends : EndsWithin levels left right current)
    (steps : ReflTransGen (Substitution.Binds (· ∈ terms)) current later)
    (given : first ∈ terms ∧ second ∈ terms) (bound : later.AllBound (· ∈ terms))
    (needsFewer
      : ∀ levels,
          EndsWithin levels left right current
          → ∃ fewer < levels, EndsWithin fewer first second later)
    : Route terms ((left, right, current.openCount terms) :: passed) first second later where
  given := given
  bound := bound
  distinct := List.nodup_cons.mpr ⟨route.fresh ends, route.distinct⟩
  within := List.cons_subset.mpr ⟨route.entry_mem, route.within⟩
  earlier := by
    have change := Substitution.alike_or_openCount_lt_of_binds steps
    refine List.forall_mem_cons.mpr ⟨⟨current, rfl, change, needsFewer⟩, ?_⟩
    intro entry member
    obtain ⟨before, sameCount, since, needsMore⟩ := route.earlier entry member
    refine ⟨before, sameCount, ?_, ?_⟩
    · rcases since with alike | fewer
      · rw [alike.openCount_eq terms]
        exact change.imp_left alike.trans
      · rcases change with alike | less
        · exact .inr (by rwa [← alike.openCount_eq terms])
        · exact .inr (less.trans fewer)
    · intro levels ends
      obtain ⟨middle, lower, middleEnds⟩ := needsMore levels ends
      obtain ⟨fewer, less, fewerEnds⟩ := needsFewer middle middleEnds
      exact ⟨fewer, less.trans lower, fewerEnds⟩

/-- Every pair that a run visits has a route of the length of its depth, and if the run has
an answer then so has the pair, by induction on the visits.
-/
theorem Visits.exists_route {levels : Nat} (hereditary : Hereditary (· ∈ terms))
    (visits : Visits .unlimited left right start depth first second current)
    (given : left ∈ terms ∧ right ∈ terms) (bound : start.AllBound (· ∈ terms))
    (ends : EndsWithin levels left right start)
    : ∃ passed,
        passed.length = depth
        ∧ Route terms passed first second current
        ∧ ∃ fewer, EndsWithin fewer first second current := by
  induction visits with
  | outermost => exact ⟨[], rfl, .outermost given bound, levels, ends⟩
  | @field depth first second current middle head run leftField rightField other index _
      permitted leftShape rightShape before reached claimed leftFound rightFound ih =>
      obtain ⟨passed, length, route, fewer, fewerEnds⟩ := ih
      have settled := unifyFields_settles (descend_settles .unlimited other (depth + 1)) _ _ _ _
        _ _ _ before
      have rootsGiven := And.intro (route.bound.walk route.given.1)
        (route.bound.walk route.given.2)
      have fieldsGiven := And.intro (hereditary _ _ _ rootsGiven.1 leftFound)
        (hereditary _ _ _ rootsGiven.2 rightFound)
      have steps := settled.binds hereditary reached route.bound rootsGiven trivial
      have laterBound := settled.allBound hereditary reached route.bound rootsGiven
      have needsFewer (levels : Nat) (ends : EndsWithin levels first second current)
          : ∃ fewer < levels, EndsWithin fewer leftField rightField middle := by
        cases levels with
        | zero => cases ends
        | succ levels =>
            refine ⟨levels, Nat.lt_succ_self levels, ?_⟩
            have shifted := (Substitution.Alike.refl current).descend_isSome_eq (levels + 1) 0
              depth first second
            have field := descend_field_isSome permitted leftShape rightShape before reached
              claimed leftFound rightFound (shifted.symm.trans ends)
            rwa [EndsWithin, (Substitution.Alike.refl middle).descend_isSome_eq levels 0
              (depth + 1)]
      obtain ⟨lowest, _, lowestEnds⟩ := needsFewer fewer fewerEnds
      exact ⟨_ :: passed, congrArg (· + 1) length,
        route.onward fewerEnds steps fieldsGiven laterBound needsFewer, lowest, lowestEnds⟩

end Route

-----------------------------------------------------------------------------------------
-- The levels of a call
-----------------------------------------------------------------------------------------

section Call

variable {α : Type} [FinitelyBuilt α] {config : Config} {left right : α}
  {start : Substitution α}

/-- Without a deepest level, a run that has an answer has it at the levels of a call:
without one there it would visit a pair below them, to which no route leads.
-/
theorem EndsWithin.descend_levelsNeeded {levels : Nat}
    (ends : EndsWithin levels left right start)
    : EndsWithin (levelsNeeded .unlimited left right start) left right start := by
  rw [EndsWithin, Option.isSome_iff_ne_none]
  intro unanswered
  obtain ⟨_, _, _, visits⟩ := Visits.outermost.exists_below unanswered
  have given := And.intro (left_mem_allParts left right start)
    (right_mem_allParts left right start)
  obtain ⟨passed, length, route, fewer, fewerEnds⟩ := visits.exists_route
    (allParts_hereditary left right start) given (allBound_allParts left right start) ends
  have short := route.length_lt fewerEnds
  have enough (count : Nat)
      : count * (count * (count + 1)) ≤ (count * count + 1) * (count + 1) := by
    rw [← Nat.mul_assoc]
    exact Nat.mul_le_mul_right _ (Nat.le_succ _)
  have most := Nat.lt_of_lt_of_le short (enough _)
  rw [length, Nat.zero_add] at most
  exact Nat.lt_irrefl _ (most.trans (Nat.lt_succ_self _))

/-- No number of levels above those of a call changes its answer, or gives it one. -/
theorem descend_eq_of_levelsNeeded_le {levels : Nat}
    (enough : levelsNeeded config left right start ≤ levels)
    : descend config levels 0 left right start
      = descend config (levelsNeeded config left right start) 0 left right start := by
  cases needed : descend config (levelsNeeded config left right start) 0 left right start with
  | some run => exact descend_mono config enough 0 left right start run needed
  | none =>
      cases answered : descend config levels 0 left right start with
      | none => rfl
      | some run =>
          obtain ⟨_ | limit⟩ := config
          · have ends : EndsWithin levels left right start := Option.isSome_of_eq_some answered
            have endsThere := ends.descend_levelsNeeded
            rw [EndsWithin, Option.isSome_iff_ne_none] at endsThere
            exact (endsThere needed).elim
          · have answers := descend_limited_isSome limit (limit + 2) 0 left right start
              (Nat.le_refl _) (Nat.succ_pos _)
            rw [Option.isSome_iff_ne_none] at answers
            exact (answers needed).elim

/-- A call computes what is found at any number of levels above its own. -/
theorem unifyWith_eq_map_descend {levels : Nat}
    (enough : levelsNeeded config left right start ≤ levels)
    : unifyWith config left right start
      = (descend config levels 0 left right start).map Run.conclude := by
  rw [unifyWith, descend_eq_of_levelsNeeded_le enough]

/-- An answer at any number of levels is that of the call. -/
theorem unifyWith_eq_some_of_descend {levels : Nat} {run : Run α}
    (answered : descend config levels 0 left right start = some run)
    : unifyWith config left right start = some run.conclude := by
  have least := Nat.le_max_left (levelsNeeded config left right start) levels
  rw [unifyWith_eq_map_descend least, descend_mono config (Nat.le_max_right _ _) 0 left right
    start run answered, Option.map_some]

/-- A call has the answer of its roots where the run ends at them, under every setting. -/
theorem Ends.unifyWith_answer (config : Config) {answer : Except Failure (Substitution α)}
    (ends : Ends (start.walk left) (start.walk right) start answer)
    : (unifyWith config left right start).map Run.answer = some answer := by
  obtain ⟨run, found, rfl⟩ := ends.unifyRoots (descend config 0 1) 0
  have answered : descend config 1 0 left right start = some run := by
    rw [descend_of_permitted config.refusal?_zero]
    exact found
  rw [unifyWith_eq_some_of_descend answered]
  rfl

/-- A call has no result exactly when its run has no answer at any number of levels. -/
theorem unifyWith_eq_none_iff
    : unifyWith config left right start = none
      ↔ ∀ levels, descend config levels 0 left right start = none := by
  constructor
  · intro unanswered levels
    cases answered : descend config levels 0 left right start with
    | none => rfl
    | some run => simp [unifyWith_eq_some_of_descend answered] at unanswered
  · intro endless
    rw [unifyWith, endless, Option.map_none]

/-- Calls on related pairs agree, if the settings refuse the same levels. -/
theorem Simulation.unifyWith_agree {β : Type} [FinitelyBuilt β]
    {related : Substitution α → Substitution β → Prop} {pairs : α → α → β → β → Prop}
    {failing : Failure → Failure → Prop} (simulation : Simulation related pairs failing)
    {config' : Config} {left' right' : β} {start' : Substitution β}
    (refusals : ∀ level, Option.Rel failing (config.refusal? level) (config'.refusal? level))
    (holds : related start start') (pair : pairs left right left' right')
    : RunsAgree related failing (unifyWith config left right start)
        (unifyWith config' left' right' start') := by
  rw [unifyWith_eq_map_descend (Nat.le_max_left _ (levelsNeeded config' left' right' start')),
    unifyWith_eq_map_descend (Nat.le_max_right (levelsNeeded config left right start) _)]
  refine (simulation.descend_agree _ 0 0 ?_ holds pair).map (fun _ => rfl) (fun _ => rfl)
  intro level
  rw [Nat.zero_add]
  exact refusals level

end Call

end Unification
