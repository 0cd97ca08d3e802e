import Unification.Proofs.Built
import Unification.Proofs.DepthLimit
import Unification.Proofs.FiniteSolution
import Unification.Proofs.Ground
import Unification.Proofs.Layering
import Unification.Proofs.Locality
import Unification.Proofs.Soundness
import Unification.Proofs.Symmetry

/-! Matching, which is unification with a ground side. The run goes down with that side, so
it ends within its height, whatever variables are met on the other side and whatever ground
terms they are bound to. The bindings that it makes give parts of the ground side to the
variables of the pattern, and where it succeeds none of these is left without.
-/

namespace Unification

open Unifiable (shape field?)
open Term (var atom compound)

variable {pattern whole left right : Term} {start middle result : Substitution Term}
  {config : Config}

-----------------------------------------------------------------------------------------
-- Parts of a ground term
-----------------------------------------------------------------------------------------

/-- A property that passes to fields passes to all parts. -/
theorem Hereditary.of_subvalue {property : Term → Prop} (hereditary : Hereditary property)
    {part : Term} (inside : Subvalue part whole) (holds : property whole)
    : property part := by
  induction inside with
  | refl => exact holds
  | tail _ step ih =>
      obtain ⟨index, found⟩ := step
      exact hereditary _ index _ ih found

theorem Term.within_of_isGround {term : Term} (ground : term.isGround = true)
    (within : Var → Prop)
    : term.Within within := by
  intro name member
  have occurs := (Term.mem_vars name term).mp member
  rw [(Term.isGround_iff term).mp ground name] at occurs
  cases occurs

/-- A field is less high than its compound. -/
theorem Term.height_field_lt {term field : Term} {index : Nat}
    (found : field? term index = some field)
    : field.height < term.height := by
  have lower := Term.height_replace_field_lt var found
  rwa [Term.replace_var, Term.replace_var] at lower

-----------------------------------------------------------------------------------------
-- Bindings that match variables with parts
-----------------------------------------------------------------------------------------

/-- A goal of matching: its left value has only variables of the pattern, and its right
value is a part of the whole.
-/
def Goal.Matching (pattern whole : Term) : Goal Term → Prop
  | .pair left right => left.Within (· ∈ pattern.vars) ∧ Subvalue right whole
  | .roots left right => left.Within (· ∈ pattern.vars) ∧ Subvalue right whole
  | .fields _ left right _ _ => left.Within (· ∈ pattern.vars) ∧ Subvalue right whole

/-- A substitution that has bindings in front of those of another one, each of a variable of
the pattern to a part of the whole.
-/
def Substitution.MatchedFrom (pattern whole : Term) (start result : Substitution Term) : Prop :=
  ∃ added : List (Var × Term),
    result.bindings = added ++ start.bindings
    ∧ ∀ binding ∈ added, binding.1 ∈ pattern.vars ∧ Subvalue binding.2 whole

namespace Substitution.MatchedFrom

theorem refl (pattern whole : Term) (start : Substitution Term)
    : start.MatchedFrom pattern whole start :=
  ⟨[], rfl, by simp⟩

theorem extend {name : Var} {value : Term} (start : Substitution Term)
    (target : name ∈ pattern.vars) (inside : Subvalue value whole)
    : start.MatchedFrom pattern whole (start.extend name value) :=
  ⟨[(name, value)], rfl, List.forall_mem_cons.mpr ⟨⟨target, inside⟩, by simp⟩⟩

theorem trans (earlier : start.MatchedFrom pattern whole middle)
    (later : middle.MatchedFrom pattern whole result)
    : start.MatchedFrom pattern whole result := by
  obtain ⟨first, firstFront, firstEach⟩ := earlier
  obtain ⟨second, secondFront, secondEach⟩ := later
  refine ⟨second ++ first, ?_, ?_⟩
  · rw [secondFront, firstFront, List.append_assoc]
  · exact List.forall_mem_append.mpr ⟨secondEach, firstEach⟩

/-- A property that passes to fields holds of all bound terms if it holds of those at the
start and of the whole.
-/
theorem allBound {property : Term → Prop} (matched : start.MatchedFrom pattern whole result)
    (hereditary : Hereditary property) (all : start.AllBound property)
    (holds : property whole)
    : result.AllBound property := by
  obtain ⟨added, front, each⟩ := matched
  intro name value found
  unfold lookup? at found
  rw [front, List.find?_append] at found
  cases inFront : added.find? (fun binding => binding.1 == name) with
  | none =>
      rw [inFront, Option.none_or] at found
      exact all name value found
  | some binding =>
      rw [inFront] at found
      obtain rfl : binding.2 = value := by simpa using found
      have member := List.mem_of_find?_eq_some inFront
      exact hereditary.of_subvalue (each binding member).2 holds

end Substitution.MatchedFrom

namespace Goal.Matching

/-- A walk leaves a goal of matching one: what has a binding becomes a ground term, and the
part of the whole stays as it is.
-/
theorem walk (matching : (Goal.pair left right).Matching pattern whole)
    (ground : whole.isGround = true) (bound : start.AllBound (Term.isGround · = true))
    : (Goal.roots (start.walk left) (start.walk right)).Matching pattern whole := by
  have rightGround := Term.isGround_hereditary.of_subvalue matching.2 ground
  have overPattern : start.AllBound (Term.Within (· ∈ pattern.vars)) :=
    fun name value found => Term.within_of_isGround (bound name value found) _
  refine ⟨overPattern.walk matching.1, ?_⟩
  rw [Substitution.walk_of_known (Term.known_of_isGround rightGround)]
  exact matching.2

theorem field {index : Nat} {first second : Term}
    (matching : (Goal.roots left right).Matching pattern whole)
    (leftField : field? left index = some first) (rightField : field? right index = some second)
    : (Goal.pair first second).Matching pattern whole :=
  ⟨Term.within_hereditary _ _ _ _ matching.1 leftField, matching.2.tail ⟨index, rightField⟩⟩

end Goal.Matching

/-- A run on a goal of matching binds variables of the pattern to parts of the whole, by
induction on the derivation. A part of the whole is never a variable itself.
-/
theorem Settles.matchedFrom (ground : whole.isGround = true) {goal : Goal Term} {depth : Nat}
    {run : Run Term} (settled : Settles config goal depth start run)
    (succeeded : run.answer = .ok result) (bound : start.AllBound (Term.isGround · = true))
    (matching : goal.Matching pattern whole)
    : start.MatchedFrom pattern whole result := by
  induction settled generalizing result with
  | refused | clashed | lacking => cases succeeded
  | same | matched | finished =>
      cases succeeded
      exact .refl pattern whole _
  | walked _ _ ih => exact ih succeeded bound (Goal.Matching.walk matching ground bound)
  | boundLeft leftShape =>
      cases succeeded
      exact .extend _ (matching.1.of_shape leftShape) matching.2
  | boundRight _ rightShape =>
      have rightGround := Term.isGround_hereditary.of_subvalue matching.2 ground
      exact (Term.known_of_isGround rightGround _ rightShape).elim
  | descended _ _ _ ih => exact ih succeeded bound matching
  | stopped _ _ _ failed => simp [failed] at succeeded
  | advanced leftField rightField _ reached _ pairIH restIH =>
      have first := pairIH reached bound (Goal.Matching.field matching leftField rightField)
      have middleBound := first.allBound Term.isGround_hereditary bound ground
      exact first.trans (restIH succeeded middleBound matching)

-----------------------------------------------------------------------------------------
-- How deep matching goes
-----------------------------------------------------------------------------------------

/-- Every visited pair is one of matching, and the part of the whole is lower than the whole
by the depth, by induction on the visits.
-/
theorem Visits.matching_bound (ground : whole.isGround = true)
    (bound : start.AllBound (Term.isGround · = true)) {depth : Nat}
    (visits : Visits config pattern whole start depth left right middle)
    : depth + right.height ≤ whole.height
      ∧ middle.AllBound (Term.isGround · = true)
      ∧ (Goal.pair left right).Matching pattern whole := by
  induction visits with
  | outermost => exact ⟨by omega, bound, fun name member => member, .refl⟩
  | @field depth first second current middle head run leftField rightField levels index _ _
      leftShape rightShape before reached claimed leftFound rightFound ih =>
      obtain ⟨lower, currentBound, pair⟩ := ih
      have roots := pair.walk ground currentBound
      have settled := unifyFields_settles (descend_settles config levels (depth + 1)) _ _ _ _ _
        _ _ before
      have matched := settled.matchedFrom ground reached currentBound roots
      have secondGround := Term.isGround_hereditary.of_subvalue pair.2 ground
      have stays : current.walk second = second :=
        Substitution.walk_of_known (Term.known_of_isGround secondGround)
      have fieldLower := Term.height_field_lt (stays ▸ rightFound)
      exact ⟨by omega, matched.allBound Term.isGround_hereditary currentBound ground,
        Goal.Matching.field roots leftFound rightFound⟩

/-- A pair to match has an answer one level above the height of its ground side, since
without one it would visit a pair at that depth.
-/
theorem descend_isSome_of_ground (ground : whole.isGround = true)
    (bound : start.AllBound (Term.isGround · = true)) (config : Config) (pattern : Term)
    : (descend config (whole.height + 1) 0 pattern whole start).isSome = true := by
  rw [Option.isSome_iff_ne_none]
  intro unanswered
  obtain ⟨_, _, _, visits⟩ := Visits.outermost.exists_below unanswered
  have lower := (visits.matching_bound ground bound).1
  omega

/-- A run with an answer above the first forbidden level never fails for its depth, and it
is that of every call that permits as many levels or more.
-/
theorem exists_run_of_descend_isSome {limit : Nat}
    (answers : (descend .unlimited (limit + 1) 0 left right start).isSome = true)
    : ∃ run,
        unifyWith .unlimited left right start = some run
        ∧ (∀ most, run.answer ≠ .error (.tooDeep most))
        ∧ ∀ more, limit ≤ more
            → unifyWith (.limited more) left right start = some run := by
  obtain ⟨run, answered⟩ := Option.isSome_iff_exists.mp answers
  obtain ⟨unlimited, limited, _⟩ := unifyWith_of_descend_unlimited answered
  refine ⟨run.conclude, unlimited, ?_, limited⟩
  intro most failed
  obtain ⟨level, refusal⟩ := (descend_settles _ _ _ _ _ _ _ answered).exists_refusal failed
  cases refusal

-----------------------------------------------------------------------------------------
-- The ground side first
-----------------------------------------------------------------------------------------

/-- With a ground side, a step and the step with the sides exchanged make the same binding,
for only the other side can be a variable.
-/
theorem ground_exchange_simulation
    : Simulation
        (fun start start' => start = start' ∧ start.AllBound (Term.isGround · = true))
        (fun left right left' right' =>
          left = right' ∧ right = left' ∧ right.isGround = true)
        (fun failure failure' => failure' = failure.swap) where
  roots := by
    rintro start _ left right _ _ ⟨rfl, bound⟩ ⟨rfl, rfl, ground⟩
    have rightKnown := Term.known_of_isGround ground
    rw [Substitution.walk_of_known rightKnown]
    by_cases leftKnown : Known (start.walk left)
    · apply RootsCorrespond.exchanged_of_known leftKnown rightKnown ⟨rfl, bound⟩
      intro index first second _ rightField
      exact ⟨rfl, rfl, Term.isGround_hereditary _ _ _ ground rightField⟩
    · obtain ⟨name, leftShape⟩ := exists_unknown_of_not_known leftKnown
      exact .succeeded (.boundLeft leftShape (rightKnown name))
        (.boundRight rightKnown leftShape) ⟨rfl, bound.extend name ground⟩

/-- With the ground side first, a pair has an answer at the same levels. -/
theorem descend_isSome_of_ground_first (ground : whole.isGround = true)
    (bound : start.AllBound (Term.isGround · = true)) (config : Config) (pattern : Term)
    : (descend config (whole.height + 1) 0 whole pattern start).isSome = true := by
  have agree := ground_exchange_simulation.descend_agree (whole.height + 1) 0 0
    (fun level => config.refusals_agree_swap (0 + level)) (And.intro (Eq.refl start) bound)
    (And.intro (Eq.refl pattern) (And.intro (Eq.refl whole) ground))
  rw [← agree.isSome_eq]
  exact descend_isSome_of_ground ground bound config pattern

/-- With the ground side first, a call has the same result where it succeeds. -/
theorem exists_unifyWith_of_ground_first (ground : whole.isGround = true)
    (bound : start.AllBound (Term.isGround · = true)) {run : Run Term}
    (found : unifyWith config whole pattern start = some run)
    (succeeded : run.answer = .ok result)
    : ∃ other,
        unifyWith config pattern whole start = some other ∧ other.answer = .ok result := by
  have agree := ground_exchange_simulation.unifyWith_agree config.refusals_agree_swap
    (And.intro (Eq.refl start) bound)
    (And.intro (Eq.refl pattern) (And.intro (Eq.refl whole) ground))
  rw [found] at agree
  generalize unifyWith config pattern whole start = first at agree ⊢
  cases agree with
  | failed _ failed => simp [succeeded] at failed
  | succeeded reached later same =>
      cases succeeded.symm.trans later
      exact ⟨_, rfl, same.1 ▸ reached⟩

-----------------------------------------------------------------------------------------
-- What the result makes of the pattern
-----------------------------------------------------------------------------------------

namespace Substitution

variable {substitution : Substitution Term}

/-- Two terms that a substitution resolves to ground terms, or neither of which it does. -/
def GroundsAlike (substitution : Substitution Term) (left right : Term) : Prop :=
  (substitution.resolve left).isGround = (substitution.resolve right).isGround

theorem groundsAlike_composing (substitution : Substitution Term)
    : Composing substitution.GroundsAlike := by
  have equivalence : PartialEquivalence substitution.GroundsAlike :=
    ⟨Eq.symm, Eq.trans⟩
  refine equivalence.composing_of_terms (fun name => rfl) ?_ ?_
  · intro left right leftLeaf rightLeaf _
    rcases leftLeaf.eq_atom_or_lazy with ⟨_, rfl⟩ | ⟨_, rfl⟩ <;>
      rcases rightLeaf.eq_atom_or_lazy with ⟨_, rfl⟩ | ⟨_, rfl⟩ <;> rfl
  · intro tag left right lengths each
    have fields
        : left.map (fun field => (substitution.resolve field).isGround)
          = right.map (fun field => (substitution.resolve field).isGround) := by
      refine List.ext_getElem (by rw [List.length_map, List.length_map, lengths]) ?_
      intro index inLeft inRight
      rw [List.length_map] at inLeft inRight
      rw [List.getElem_map, List.getElem_map]
      exact each index _ _ (List.getElem?_eq_getElem inLeft) (List.getElem?_eq_getElem inRight)
    have all := congrArg (List.all · id) fields
    simpa only [GroundsAlike, resolve_compound, Term.isGround, Term.areGround_eq_all,
      List.all_map, Function.comp_def, id] using all

theorem Acyclic.satisfiedBy_groundsAlike (acyclic : substitution.Acyclic)
    : substitution.SatisfiedBy substitution.GroundsAlike :=
  fun _ _ hop => congrArg Term.isGround (acyclic.resolve_of_hop hop)

/-- Where a term resolves to a ground one, all of its variables are bound. -/
theorem lookup?_isSome_of_isGround_resolve {term : Term} {name : Var}
    (ground : (substitution.resolve term).isGround = true) (member : name ∈ term.vars)
    : (substitution.lookup? name).isSome = true := by
  have replaced : (substitution.resolve (var name)).isGround = true :=
    (Term.isGround_replace_iff term _).mp ground name ((Term.mem_vars name term).mp member)
  rw [Option.isSome_iff_ne_none]
  intro unbound
  rw [resolve_of_unbound unbound] at replaced
  cases replaced

end Substitution

-----------------------------------------------------------------------------------------
-- Calls with a ground side
-----------------------------------------------------------------------------------------

/-- Unification with a ground side, on either hand, over bindings to ground terms. Without a
deepest level the call ends, and every call that permits the height of the ground side as
its deepest level is the same, so none fails for its depth. Where any call succeeds, it has
bound variables of the other side to parts of the ground side and left none of them without
binding, so the result makes a ground term of the other side; and that term equals the ground
side if there are only numbers in it and in the bindings.
-/
theorem unifyWith_of_ground_side (pattern whole : Term) (start : Substitution Term)
    (ground : whole.isGround = true) (bound : start.AllBound (Term.isGround · = true))
    (left right : Term)
    (sides : (left = pattern ∧ right = whole) ∨ (left = whole ∧ right = pattern))
    : (∃ run,
        unifyWith .unlimited left right start = some run
        ∧ (∀ limit, run.answer ≠ .error (.tooDeep limit))
        ∧ ∀ limit, whole.height ≤ limit
            → unifyWith (.limited limit) left right start = some run)
      ∧ ∀ config run result,
          unifyWith config left right start = some run
          → run.answer = .ok result
          → (∀ name ∈ pattern.vars, (result.lookup? name).isSome = true)
            ∧ (∃ added : List (Var × Term),
                result.bindings = added ++ start.bindings
                ∧ ∀ binding ∈ added,
                    binding.1 ∈ pattern.vars ∧ Subvalue binding.2 whole)
            ∧ (result.resolve pattern).isGround = true
            ∧ (whole.nanFree = true
              → start.AllBound (Term.nanFree · = true)
              → (result.resolve pattern).sameValue whole = true) := by
  constructor
  · rcases sides with ⟨rfl, rfl⟩ | ⟨rfl, rfl⟩
    · exact exists_run_of_descend_isSome (descend_isSome_of_ground ground bound _ _)
    · exact exists_run_of_descend_isSome (descend_isSome_of_ground_first ground bound _ _)
  · intro config run result found succeeded
    -- on either hand, the call with the ground side second has the same result
    have ⟨other, otherFound, reached⟩
        : ∃ other,
            unifyWith config pattern whole start = some other ∧ other.answer = .ok result := by
      rcases sides with ⟨rfl, rfl⟩ | ⟨rfl, rfl⟩
      · exact ⟨run, found, succeeded⟩
      · exact exists_unifyWith_of_ground_first ground bound found succeeded
    obtain ⟨inner, settled, rfl⟩ := unifyWith_settles otherFound
    have matched : start.MatchedFrom pattern whole result :=
      settled.matchedFrom ground reached bound ⟨fun _ member => member, .refl⟩
    have resultBound := matched.allBound Term.isGround_hereditary bound ground
    have acyclic := Substitution.acyclic_of_ground resultBound
    have unchanged : result.resolve whole = whole := Substitution.resolve_of_isGround ground
    have grounded : (result.resolve pattern).isGround = true := by
      have alike : (result.resolve pattern).isGround = (result.resolve whole).isGround :=
        (settled.holds_of_result (Substitution.groundsAlike_composing result) reached trivial
          acyclic.satisfiedBy_groundsAlike).1
      rw [alike, unchanged, ground]
    refine ⟨?_, matched, grounded, ?_⟩
    · exact fun name member => Substitution.lookup?_isSome_of_isGround_resolve grounded member
    · intro wholeNumeric startNumeric
      have numeric := matched.allBound Term.nanFree_hereditary startNumeric wholeNumeric
      have alike : (result.resolve pattern).sameValue (result.resolve whole) = true :=
        (settled.holds_of_result (Substitution.resolvesAlike_composing numeric) reached trivial
          (acyclic.satisfiedBy_resolvesAlike numeric)).1
      rwa [unchanged] at alike

/-- A repeated variable on the right: its first place binds it to a compound, which is
compared again two levels down. A limit at the height of the ground side permits all of that,
and a limit below does not.
-/
theorem unifyWith_of_ground_side_on_the_left
    : (compound 3 [compound 5 [atom .unit], compound 4 [compound 5 [atom (.bool false)]],
          atom (.int 2)]).height
        = 3
      ∧ unifyWith (.limited 3)
          (compound 3 [compound 5 [atom .unit], compound 4 [compound 5 [atom (.bool false)]],
            atom (.int 2)])
          (compound 3 [var ⟨1⟩, compound 4 [var ⟨1⟩], var ⟨2⟩]) ⟨[(⟨2⟩, atom (.int 2))]⟩
        = some
            ⟨[.descended ⟨3, 3⟩ 0, .bound ⟨1⟩ 1, .descended ⟨4, 1⟩ 1, .descended ⟨5, 1⟩ 2,
                .succeeded 2],
              .ok ⟨[(⟨1⟩, compound 5 [atom .unit]), (⟨2⟩, atom (.int 2))]⟩⟩
      ∧ ((unifyWith (.limited 2)
            (compound 3 [compound 5 [atom .unit], compound 4 [compound 5 [atom (.bool false)]],
              atom (.int 2)])
            (compound 3 [var ⟨1⟩, compound 4 [var ⟨1⟩], var ⟨2⟩])
            ⟨[(⟨2⟩, atom (.int 2))]⟩).map
          Run.answer
        = some (.error (.tooDeep 2)))
      ∧ (Substitution.resolve ⟨[(⟨1⟩, compound 5 [atom .unit]), (⟨2⟩, atom (.int 2))]⟩
            (compound 3 [var ⟨1⟩, compound 4 [var ⟨1⟩], var ⟨2⟩])).sameValue
          (compound 3 [compound 5 [atom .unit], compound 4 [compound 5 [atom (.bool false)]],
            atom (.int 2)])
        = true := by
  obtain ⟨⟨run, found, _, limited⟩, calls⟩ := unifyWith_of_ground_side
    (compound 3 [var ⟨1⟩, compound 4 [var ⟨1⟩], var ⟨2⟩])
    (compound 3 [compound 5 [atom .unit], compound 4 [compound 5 [atom (.bool false)]],
      atom (.int 2)])
    ⟨[(⟨2⟩, atom (.int 2))]⟩ rfl (Substitution.allBound_of_bindings (by decide)) _ _
    (.inr ⟨rfl, rfl⟩)
  obtain ⟨_, _, _, same⟩ := calls .unlimited run _ found (by cases found.symm.trans rfl; rfl)
  exact ⟨rfl, (limited 3 (Nat.le_refl 3)).trans (found.symm.trans rfl), rfl,
    same rfl (Substitution.allBound_of_bindings (by decide))⟩

end Unification
