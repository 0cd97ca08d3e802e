import Unification.Proofs.Chain
import Unification.Proofs.Derivation

/-! Two runs in lockstep. When related substitutions and related pairs of values always lead
to related steps at their roots, two runs descend alike: at each number of levels neither
has an answer, both fail, or both succeed with related substitutions. The values may be of
two types, and the sides of a pair may be exchanged on the way from one run to the other.
-/

namespace Unification

open Unifiable (shape field? clone)

-----------------------------------------------------------------------------------------
-- Roots at which a run ends, and roots from which it descends
-----------------------------------------------------------------------------------------

section Roots

variable {α : Type} [Unifiable α] {left right : α} {start : Substitution α}

/-- The answer of a run on two roots that does not look at any fields. -/
inductive Ends (left right : α) (start : Substitution α)
    : Except Failure (Substitution α) → Prop
  | same {name} (leftShape : shape left = .unknown name)
    (rightShape : shape right = .unknown name)
    : Ends left right start (.ok start)
  | boundLeft {name} (leftShape : shape left = .unknown name)
    (other : shape right ≠ .unknown name)
    : Ends left right start (.ok (start.extend name (clone right)))
  | boundRight {name} (known : Known left) (rightShape : shape right = .unknown name)
    : Ends left right start (.ok (start.extend name (clone left)))
  | matched (matching : Matches left right) : Ends left right start (.ok start)
  | clashed {failure} (clash : Clash left right failure)
    : Ends left right start (.error failure)

/-- Where values are the same as their copies, the other root is bound itself. -/
theorem Ends.bindLeft [LawfulClone α] {name : Var} (leftShape : shape left = .unknown name)
    (other : shape right ≠ .unknown name)
    : Ends left right start (.ok (start.extend name right)) := by
  have ends : Ends left right start _ := .boundLeft leftShape other
  rwa [LawfulClone.clone_eq] at ends

theorem Ends.bindRight [LawfulClone α] {name : Var} (known : Known left)
    (rightShape : shape right = .unknown name)
    : Ends left right start (.ok (start.extend name left)) := by
  have ends : Ends left right start _ := .boundRight known rightShape
  rwa [LawfulClone.clone_eq] at ends

/-- Where a run ends at two roots, it has that answer whatever becomes of the fields. -/
theorem Ends.unifyRoots (unifyPair : α → α → Substitution α → Option (Run α)) (depth : Nat)
    {answer : Except Failure (Substitution α)}
    (ends : Ends left right start answer)
    : ∃ run, unifyRoots unifyPair depth left right start = some run ∧ run.answer = answer := by
  cases ends with
  | same leftShape rightShape =>
      exact ⟨.succeed start, by simp [Unification.unifyRoots, leftShape, rightShape], rfl⟩
  | @boundLeft name leftShape other =>
      refine
        ⟨(Run.succeed (start.extend name (clone right))).report (.bound name depth), ?_, rfl⟩
      cases rightShape : shape right with
      | unknown second =>
          have different : name ≠ second := fun same => other (same ▸ rightShape)
          simp [Unification.unifyRoots, leftShape, rightShape, different]
      | atomic _ | compound _ => simp [Unification.unifyRoots, leftShape, rightShape]
  | @boundRight name known rightShape =>
      refine
        ⟨(Run.succeed (start.extend name (clone left))).report (.bound name depth), ?_, rfl⟩
      cases leftShape : shape left with
      | unknown first => exact (known first leftShape).elim
      | atomic _ | compound _ => simp [Unification.unifyRoots, leftShape, rightShape]
  | matched matching =>
      refine ⟨.succeed start, ?_, rfl⟩
      cases matching with
      | object leftShape rightShape same =>
          simp [Unification.unifyRoots, leftShape, rightShape, same]
      | @value first second leftShape rightShape notObjects same =>
          cases first <;> cases second <;>
            simp_all [Unification.unifyRoots]
  | clashed clash =>
      refine ⟨.fail _, ?_, rfl⟩
      cases clash with
      | heads leftShape rightShape different =>
          simp [Unification.unifyRoots, leftShape, rightShape, different]
      | objects leftShape rightShape different =>
          simp [Unification.unifyRoots, leftShape, rightShape, different]
      | @values first second leftShape rightShape notObjects different =>
          cases first <;> cases second <;>
            simp_all [Unification.unifyRoots]
      | compoundAtom leftShape rightShape | atomCompound leftShape rightShape =>
          simp [Unification.unifyRoots, leftShape, rightShape]

variable {unifyPair : α → α → Substitution α → Option (Run α)} {depth : Nat}

/-- Two compounds with the same head leave everything to their fields. -/
theorem unifyRoots_of_compounds {head : Head} (leftShape : shape left = .compound head)
    (rightShape : shape right = .compound head)
    : unifyRoots unifyPair depth left right start
      = (unifyFields unifyPair head left right head.arity 0 start).map
          (Run.report (.descended head depth)) := by
  simp [unifyRoots, leftShape, rightShape]

/-- Two values that are no variables match, clash, or are compounds with the same head. -/
theorem matches_or_clash_or_compounds (leftKnown : Known left) (rightKnown : Known right)
    : Matches left right
      ∨ (∃ failure, Clash left right failure)
      ∨ ∃ head, shape left = .compound head ∧ shape right = .compound head := by
  cases leftShape : shape left with
  | unknown name => exact (leftKnown name leftShape).elim
  | compound head =>
      cases rightShape : shape right with
      | unknown name => exact (rightKnown name rightShape).elim
      | atomic _ => exact .inr (.inl ⟨_, .compoundAtom leftShape rightShape⟩)
      | compound other =>
          by_cases same : head = other
          · exact .inr (.inr ⟨head, rfl, same ▸ rfl⟩)
          · exact .inr (.inl ⟨_, .heads leftShape rightShape same⟩)
  | atomic first =>
      cases rightShape : shape right with
      | unknown name => exact (rightKnown name rightShape).elim
      | compound _ => exact .inr (.inl ⟨_, .atomCompound leftShape rightShape⟩)
      | atomic second =>
          by_cases objects : first = .byObject ∧ second = .byObject
          · obtain ⟨rfl, rfl⟩ := objects
            cases same : Unifiable.sameObject left right with
            | true => exact .inl (.object leftShape rightShape same)
            | false => exact .inr (.inl ⟨_, .objects leftShape rightShape same⟩)
          · cases same : Unifiable.sameValue left right with
            | true => exact .inl (.value leftShape rightShape objects same)
            | false => exact .inr (.inl ⟨_, .values leftShape rightShape objects same⟩)

end Roots

-----------------------------------------------------------------------------------------
-- Runs that agree
-----------------------------------------------------------------------------------------

section Agreement

variable {α β : Type} {related : Substitution α → Substitution β → Prop}
  {failing : Failure → Failure → Prop} {first : Option (Run α)} {second : Option (Run β)}

/-- Two runs agree when neither has an answer, both succeed with related substitutions, or
both fail with related failures.
-/
inductive RunsAgree (related : Substitution α → Substitution β → Prop)
    (failing : Failure → Failure → Prop)
    : Option (Run α) → Option (Run β) → Prop
  | endless : RunsAgree related failing none none
  | succeeded {run other result later} (left : run.answer = .ok result)
    (right : other.answer = .ok later) (holds : related result later)
    : RunsAgree related failing (some run) (some other)
  | failed {run other failure later} (left : run.answer = .error failure)
    (right : other.answer = .error later) (holds : failing failure later)
    : RunsAgree related failing (some run) (some other)

theorem RunsAgree.mono {weaker : Substitution α → Substitution β → Prop}
    (agree : RunsAgree related failing first second)
    (implies : ∀ result later, related result later → weaker result later)
    : RunsAgree weaker failing first second := by
  cases agree with
  | endless => exact .endless
  | succeeded left right holds => exact .succeeded left right (implies _ _ holds)
  | failed left right holds => exact .failed left right holds

/-- Further reports of the first run make no difference. -/
theorem RunsAgree.map_left {change : Run α → Run α}
    (agree : RunsAgree related failing first second)
    (keeps : ∀ run, (change run).answer = run.answer)
    : RunsAgree related failing (first.map change) second := by
  cases agree with
  | endless => exact .endless
  | succeeded left right holds => exact .succeeded ((keeps _).trans left) right holds
  | failed left right holds => exact .failed ((keeps _).trans left) right holds

/-- Further reports of the second run make no difference. -/
theorem RunsAgree.map_right {change : Run β → Run β}
    (agree : RunsAgree related failing first second)
    (keeps : ∀ run, (change run).answer = run.answer)
    : RunsAgree related failing first (second.map change) := by
  cases agree with
  | endless => exact .endless
  | succeeded left right holds => exact .succeeded left ((keeps _).trans right) holds
  | failed left right holds => exact .failed left ((keeps _).trans right) holds

/-- Further reports make no difference. -/
theorem RunsAgree.map {change : Run α → Run α} {other : Run β → Run β}
    (agree : RunsAgree related failing first second)
    (keeps : ∀ run, (change run).answer = run.answer)
    (otherKeeps : ∀ run, (other run).answer = run.answer)
    : RunsAgree related failing (first.map change) (second.map other) :=
  (agree.map_left keeps).map_right otherKeeps

/-- Runs that agree go on alike when what follows agrees, after the successes that the runs
have come to.
-/
theorem RunsAgree.andThen_of_reached {next : Substitution α → Option (Run α)}
    {following : Substitution β → Option (Run β)}
    (agree : RunsAgree related failing first second)
    (further
      : ∀ run result later,
          first = some run
          → run.answer = .ok result
          → related result later
          → RunsAgree related failing (next result) (following later))
    : RunsAgree related failing (first.bind (fun run => run.andThen next))
        (second.bind (fun run => run.andThen following)) := by
  cases agree with
  | endless => exact .endless
  | succeeded left right holds =>
      rw [Option.bind_some, Option.bind_some, Run.andThen_of_ok left, Run.andThen_of_ok right]
      exact (further _ _ _ rfl left holds).map (fun _ => rfl) (fun _ => rfl)
  | failed left right holds =>
      rw [Option.bind_some, Option.bind_some, Run.andThen_of_error left,
        Run.andThen_of_error right]
      exact .failed left right holds

/-- Runs that agree go on alike when what follows agrees. -/
theorem RunsAgree.andThen {next : Substitution α → Option (Run α)}
    {following : Substitution β → Option (Run β)}
    (agree : RunsAgree related failing first second)
    (further
      : ∀ result later,
          related result later → RunsAgree related failing (next result) (following later))
    : RunsAgree related failing (first.bind (fun run => run.andThen next))
        (second.bind (fun run => run.andThen following)) :=
  agree.andThen_of_reached (fun _ result later _ _ => further result later)

/-- Runs that agree are both there or both missing. -/
theorem RunsAgree.isSome_eq (agree : RunsAgree related failing first second)
    : first.isSome = second.isSome := by
  cases agree <;> rfl

end Agreement

-----------------------------------------------------------------------------------------
-- Simulations
-----------------------------------------------------------------------------------------

section Simulation

variable {α β : Type} [Unifiable α] [Unifiable β]

/-- The fields at an index are there on all sides, and then they are related, or are lacking
in both runs.
-/
inductive FieldsCorrespond (pairs : α → α → β → β → Prop) (left right : α) (left' right' : β)
    (index : Nat)
    : Prop
  | present {first second first' second'} (leftField : field? left index = some first)
    (rightField : field? right index = some second)
    (leftField' : field? left' index = some first')
    (rightField' : field? right' index = some second')
    (pair : pairs first second first' second')
    : FieldsCorrespond pairs left right left' right' index
  | lacking (absent : field? left index = none ∨ field? right index = none)
    (absent' : field? left' index = none ∨ field? right' index = none)
    : FieldsCorrespond pairs left right left' right' index

/-- The steps at the roots of two pairs are related: both end, with related substitutions or
failures, or both descend to as many fields, which are related in order.
-/
inductive RootsCorrespond (related : Substitution α → Substitution β → Prop)
    (pairs : α → α → β → β → Prop) (failing : Failure → Failure → Prop)
    (start : Substitution α) (start' : Substitution β) (left right : α) (left' right' : β)
    : Prop
  | succeeded {result result'} (ends : Ends left right start (.ok result))
    (ends' : Ends left' right' start' (.ok result')) (holds : related result result')
    : RootsCorrespond related pairs failing start start' left right left' right'
  | failed {failure failure'} (ends : Ends left right start (.error failure))
    (ends' : Ends left' right' start' (.error failure')) (holds : failing failure failure')
    : RootsCorrespond related pairs failing start start' left right left' right'
  | descended {head head'} (leftShape : shape left = .compound head)
    (rightShape : shape right = .compound head) (leftShape' : shape left' = .compound head')
    (rightShape' : shape right' = .compound head') (arity : head.arity = head'.arity)
    (lacking : failing (.headsDiffer head head) (.headsDiffer head' head'))
    (fields : ∀ index < head.arity, FieldsCorrespond pairs left right left' right' index)
    : RootsCorrespond related pairs failing start start' left right left' right'

section SameRoots

/-- Failures other than for a depth are related to themselves. -/
def KeepsMismatches (failing : Failure → Failure → Prop) : Prop :=
  ∀ failure, (∀ limit, failure ≠ .tooDeep limit) → failing failure failure

theorem keepsMismatches_eq : KeepsMismatches Eq :=
  fun _ _ => rfl

theorem Clash.keeps {failing : Failure → Failure → Prop} {left right : α} {failure : Failure}
    (clash : Clash left right failure) (keeps : KeepsMismatches failing)
    : failing failure failure := by
  apply keeps
  intro limit
  cases clash <;> exact nofun

variable {related : Substitution α → Substitution α → Prop} {pairs : α → α → α → α → Prop}
  {failing : Failure → Failure → Prop} {start start' : Substitution α} {left right : α}

/-- Two values that are no variables are a related step of two runs that both come to them,
if their fields are related pairs.
-/
theorem RootsCorrespond.of_known (keeps : KeepsMismatches failing) (leftKnown : Known left)
    (rightKnown : Known right) (holds : related start start')
    (fields
      : ∀ {index first second},
          field? left index = some first → field? right index = some second
          → pairs first second first second)
    : RootsCorrespond related pairs failing start start' left right left right := by
  rcases matches_or_clash_or_compounds leftKnown rightKnown with
    matching | ⟨failure, clash⟩ | ⟨head, leftShape, rightShape⟩
  · exact .succeeded (.matched matching) (.matched matching) holds
  · exact .failed (.clashed clash) (.clashed clash) (clash.keeps keeps)
  · apply RootsCorrespond.descended leftShape rightShape leftShape rightShape rfl
      (keeps _ (fun _ => nofun))
    intro index _
    rcases exists_fields_or_lacking left right index with
      ⟨first, second, leftField, rightField⟩ | absent
    · exact .present leftField rightField leftField rightField (fields leftField rightField)
    · exact .lacking absent absent

/-- The same two roots are a related step of two runs, if the binding that they lead to keeps
the substitutions related and their fields are related pairs.
-/
theorem RootsCorrespond.of_same (keeps : KeepsMismatches failing)
    (holds : related start start')
    (boundLeft
      : ∀ name, shape left = .unknown name → shape right ≠ .unknown name →
          related (start.extend name (clone right)) (start'.extend name (clone right)))
    (boundRight
      : ∀ name, Known left → shape right = .unknown name →
          related (start.extend name (clone left)) (start'.extend name (clone left)))
    (fields
      : ∀ {index first second},
          field? left index = some first → field? right index = some second
          → pairs first second first second)
    : RootsCorrespond related pairs failing start start' left right left right := by
  by_cases leftKnown : Known left
  · by_cases rightKnown : Known right
    · exact .of_known keeps leftKnown rightKnown holds fields
    · obtain ⟨name, rightShape⟩ := exists_unknown_of_not_known rightKnown
      exact .succeeded (.boundRight leftKnown rightShape) (.boundRight leftKnown rightShape)
        (boundRight name leftKnown rightShape)
  · obtain ⟨name, leftShape⟩ := exists_unknown_of_not_known leftKnown
    by_cases same : shape right = .unknown name
    · exact .succeeded (.same leftShape same) (.same leftShape same) holds
    · exact .succeeded (.boundLeft leftShape same) (.boundLeft leftShape same)
        (boundLeft name leftShape same)

end SameRoots

/-- Related substitutions and related pairs lead to related steps at the roots. -/
structure Simulation (related : Substitution α → Substitution β → Prop)
    (pairs : α → α → β → β → Prop) (failing : Failure → Failure → Prop)
    : Prop where
  roots : ∀ {start start' left right left' right'},
    related start start'
    → pairs left right left' right'
    → RootsCorrespond related pairs failing start start' (start.walk left)
        (start.walk right) (start'.walk left') (start'.walk right')

variable {related : Substitution α → Substitution β → Prop} {pairs : α → α → β → β → Prop}
  {failing : Failure → Failure → Prop} {unifyPair : α → α → Substitution α → Option (Run α)}
  {unifyPair' : β → β → Substitution β → Option (Run β)} {start : Substitution α}
  {start' : Substitution β} {left right : α} {left' right' : β}

/-- Related fields unify alike when related pairs do, by induction on the fields that
remain.
-/
theorem unifyFields_agree
    (agree
      : ∀ left right left' right' start start',
          related start start'
          → pairs left right left' right'
          → RunsAgree related failing (unifyPair left right start)
              (unifyPair' left' right' start'))
    {head head' : Head}
    (lacking : failing (.headsDiffer head head) (.headsDiffer head' head'))
    (remaining index : Nat)
    (fields
      : ∀ position, index ≤ position → position < index + remaining →
          FieldsCorrespond pairs left right left' right' position)
    (holds : related start start')
    : RunsAgree related failing (unifyFields unifyPair head left right remaining index start)
        (unifyFields unifyPair' head' left' right' remaining index start') := by
  induction remaining generalizing index start start' with
  | zero => exact .succeeded rfl rfl holds
  | succ remaining ih =>
      cases fields index (Nat.le_refl index) (by omega) with
      | present leftField rightField leftField' rightField' pair =>
          rw [unifyFields_of_fields leftField rightField,
            unifyFields_of_fields leftField' rightField']
          apply (agree _ _ _ _ _ _ holds pair).andThen
          intro middle middle' middleHolds
          apply ih (index + 1) _ middleHolds
          intro position least most
          exact fields position (by omega) (by omega)
      | lacking absent absent' =>
          rw [unifyFields_of_lacking absent, unifyFields_of_lacking absent']
          exact .failed rfl rfl lacking

/-- Roots with related steps unify alike when related pairs do. -/
theorem RootsCorrespond.unifyRoots_agree {depth depth' : Nat}
    (roots : RootsCorrespond related pairs failing start start' left right left' right')
    (agree
      : ∀ left right left' right' start start',
          related start start'
          → pairs left right left' right'
          → RunsAgree related failing (unifyPair left right start)
              (unifyPair' left' right' start'))
    (holds : related start start')
    : RunsAgree related failing (unifyRoots unifyPair depth left right start)
        (unifyRoots unifyPair' depth' left' right' start') := by
  cases roots with
  | succeeded ends ends' resultHolds =>
      obtain ⟨run, found, answer⟩ := ends.unifyRoots unifyPair depth
      obtain ⟨run', found', answer'⟩ := ends'.unifyRoots unifyPair' depth'
      rw [found, found']
      exact .succeeded answer answer' resultHolds
  | failed ends ends' failureHolds =>
      obtain ⟨run, found, answer⟩ := ends.unifyRoots unifyPair depth
      obtain ⟨run', found', answer'⟩ := ends'.unifyRoots unifyPair' depth'
      rw [found, found']
      exact .failed answer answer' failureHolds
  | @descended head _ leftShape rightShape leftShape' rightShape' arity lacking fields =>
      rw [unifyRoots_of_compounds leftShape rightShape,
        unifyRoots_of_compounds leftShape' rightShape', ← arity]
      refine RunsAgree.map ?_ (fun _ => rfl) (fun _ => rfl)
      apply unifyFields_agree agree lacking head.arity 0 _ holds
      intro position _ most
      exact fields position (by omega)

/-- Runs on related pairs agree at every number of levels, by induction on the levels. Their
depths may differ as long as both settings refuse the same levels.
-/
theorem Simulation.descend_agree (simulation : Simulation related pairs failing)
    {config config' : Config} (levels depth depth' : Nat)
    (refusals
      : ∀ level, Option.Rel failing (config.refusal? (depth + level))
          (config'.refusal? (depth' + level)))
    (holds : related start start') (pair : pairs left right left' right')
    : RunsAgree related failing (descend config levels depth left right start)
        (descend config' levels depth' left' right' start') := by
  induction levels generalizing depth depth' left right left' right' start start' with
  | zero => exact .endless
  | succ levels ih =>
      have below (level : Nat)
          : Option.Rel failing (config.refusal? (depth + 1 + level))
              (config'.refusal? (depth' + 1 + level)) := by
        rw [Nat.add_assoc, Nat.add_assoc, Nat.add_comm 1]
        exact refusals (level + 1)
      have here := refusals 0
      rw [Nat.add_zero, Nat.add_zero] at here
      generalize refused : config.refusal? depth = refusal at here
      generalize refused' : config'.refusal? depth' = refusal' at here
      cases here with
      | some fails =>
          rw [descend_of_refused refused, descend_of_refused refused']
          exact .failed rfl rfl fails
      | none =>
          rw [descend_of_permitted refused, descend_of_permitted refused']
          apply (simulation.roots holds pair).unifyRoots_agree _ holds
          intro left right left' right' start start'
          exact ih (depth + 1) (depth' + 1) below

/-- A setting refuses the levels that it refuses. -/
theorem Config.refusals_agree (config : Config) (level : Nat)
    : Option.Rel Eq (config.refusal? level) (config.refusal? level) := by
  cases config.refusal? level with
  | none => exact .none
  | some failure => exact .some rfl

/-- A setting refuses a level with a failure that has no sides. -/
theorem Config.refusals_agree_swap (config : Config) (level : Nat)
    : Option.Rel (fun failure failure' : Failure => failure' = failure.swap)
        (config.refusal? level) (config.refusal? level) := by
  cases refusal : config.refusal? level with
  | none => exact .none
  | some failure =>
      obtain ⟨limit, _, _, rfl⟩ := config.refusal?_eq_some refusal
      exact .some rfl

end Simulation

end Unification
