import Mathlib.Data.Finset.Card
import Unification.Proofs.Assignment
import Unification.Proofs.Descent

/-! Solutions in finite terms. When an assignment of terms to the variables satisfies a
substitution and makes two terms equal, their unification ends with success, and it descends
no deeper than the equal terms are high. The height bounds the depth, and the heights that
occur among the parts of the given terms bound the levels.
-/

namespace Unification

open Term (var atom compound)

namespace Term

-----------------------------------------------------------------------------------------
-- The height of a term
-----------------------------------------------------------------------------------------

mutual

/-- How deep compounds are nested in a term. Variables, atoms, suspended values and compounds
without fields have no height.
-/
def height : Term → Nat
  | var _ => 0
  | atom _ => 0
  | lazy _ => 0
  | compound _ fields => heightAbove fields

/-- The height of a compound with the given fields. -/
def heightAbove : List Term → Nat
  | [] => 0
  | field :: rest => max (height field + 1) (heightAbove rest)

end

theorem height_lt_heightAbove {field : Term} {fields : List Term} (member : field ∈ fields)
    : field.height < heightAbove fields := by
  induction fields with
  | nil => cases member
  | cons other rest ih =>
      unfold heightAbove
      rcases List.mem_cons.mp member with rfl | later
      · omega
      · have above := ih later
        omega

mutual

/-- Equal terms have the same height, by descent into both. -/
theorem height_of_sameValue {first second : Term} (same : first.sameValue second = true)
    : first.height = second.height := by
  cases first <;> cases second <;> simp only [sameValue, Bool.false_eq_true] at same
  case var.var | atom.atom | lazy.lazy => rfl
  case compound.compound =>
    rw [Bool.and_eq_true] at same
    exact heightAbove_of_sameValues same.2

/-- Equal fields make compounds of the same height. -/
theorem heightAbove_of_sameValues {first second : List Term}
    (same : sameValues first second = true)
    : heightAbove first = heightAbove second := by
  cases first <;> cases second <;> simp only [sameValues, Bool.false_eq_true] at same
  case nil.nil => rfl
  case cons.cons =>
    rw [Bool.and_eq_true] at same
    unfold heightAbove
    rw [height_of_sameValue same.1, heightAbove_of_sameValues same.2]

end

mutual

/-- Under an assignment, what is assigned to a variable is no higher than a term in which
the variable occurs.
-/
theorem height_le_height_replace {name : Var} (term : Term) (assigned : Var → Term)
    (occurs : term.occurs name = true)
    : (assigned name).height ≤ (term.replace assigned).height := by
  cases term with
  | var other =>
      obtain rfl : other = name := by simpa [Term.occurs] using occurs
      exact Nat.le_refl _
  | atom _ | lazy _ => cases occurs
  | compound tag fields =>
      exact Nat.le_of_lt (height_lt_heightAbove_replaceAll fields assigned occurs)

/-- It is less high than a compound of fields in which the variable occurs. -/
theorem height_lt_heightAbove_replaceAll {name : Var} (fields : List Term)
    (assigned : Var → Term) (occurs : occursInFields name fields = true)
    : (assigned name).height < heightAbove (replaceAll assigned fields) := by
  cases fields with
  | nil => cases occurs
  | cons field rest =>
      unfold replaceAll heightAbove
      rcases Bool.or_eq_true_iff.mp occurs with here | later
      · have least := height_le_height_replace field assigned here
        omega
      · have less := height_lt_heightAbove_replaceAll rest assigned later
        omega

end

/-- Under an assignment, a field is less high than its compound. -/
theorem height_replace_field_lt {term field : Term} {index : Nat} (assigned : Var → Term)
    (found : term.field? index = some field)
    : (field.replace assigned).height < (term.replace assigned).height := by
  have member := mem_fields_of_field? found
  cases term with
  | compound tag fields =>
      simp only [replace, height, replaceAll_eq_map]
      exact height_lt_heightAbove (List.mem_map_of_mem member)
  | var _ | atom _ | lazy _ => cases member

-----------------------------------------------------------------------------------------
-- The rank of a term among others
-----------------------------------------------------------------------------------------

/-- The heights below that of a term, as far as they occur among the given terms, all under
an assignment.
-/
def lowerHeights (assigned : Var → Term) (terms : List Term) (term : Term) : Finset Nat :=
  (terms.map (fun other => (other.replace assigned).height)).toFinset.filter
    (· < (term.replace assigned).height)

theorem mem_lowerHeights {assigned : Var → Term} {terms : List Term} {term : Term}
    {height : Nat}
    : height ∈ lowerHeights assigned terms term
      ↔ (∃ other ∈ terms, (other.replace assigned).height = height)
        ∧ height < (term.replace assigned).height := by
  simp [lowerHeights]

/-- The count of lower heights, which related terms share and which falls from a term to its
fields. It exceeds neither the height of the term nor the count of the given terms.
-/
def rankAmong (assigned : Var → Term) (terms : List Term) (term : Term) : Nat :=
  (lowerHeights assigned terms term).card

variable {assigned : Var → Term} {terms : List Term}

theorem rankAmong_le_height (term : Term)
    : rankAmong assigned terms term ≤ (term.replace assigned).height := by
  have below : lowerHeights assigned terms term
      ⊆ Finset.range (term.replace assigned).height :=
    fun height member => Finset.mem_range.mpr (mem_lowerHeights.mp member).2
  have most := Finset.card_le_card below
  rwa [Finset.card_range] at most

theorem rankAmong_le_length (term : Term)
    : rankAmong assigned terms term ≤ terms.length := by
  let heights := terms.map (fun other => (other.replace assigned).height)
  calc
    rankAmong assigned terms term
    _ ≤ heights.toFinset.card := Finset.card_filter_le _ _
    _ ≤ heights.length := List.toFinset_card_le heights
    _ = terms.length := List.length_map _

/-- Among terms that come with their fields, the count of lower heights is a rank for
equality under the assignment: the height of a field counts for the term, not for the field.
-/
theorem rankAmong_ranking (hereditary : Hereditary (· ∈ terms))
    : Ranking (· ∈ terms) (EqualUnder assigned) (rankAmong assigned terms) where
  toDiscerning := equalUnder_discerning
  hereditary := hereditary
  shared same := by
    unfold rankAmong lowerHeights
    rw [height_of_sameValue same]
  falls := by
    intro term index field member found
    have lower : (field.replace assigned).height < (term.replace assigned).height :=
      height_replace_field_lt assigned found
    apply Finset.card_lt_card
    refine (Finset.ssubset_iff_of_subset ?_).mpr ?_
    · intro height below
      obtain ⟨occurs, less⟩ := mem_lowerHeights.mp below
      exact mem_lowerHeights.mpr ⟨occurs, less.trans lower⟩
    · refine ⟨(field.replace assigned).height, ?_, ?_⟩
      · have fieldMember := hereditary term index field member found
        exact mem_lowerHeights.mpr ⟨⟨field, fieldMember, rfl⟩, lower⟩
      · exact fun below => Nat.lt_irrefl _ (mem_lowerHeights.mp below).2

end Term

-----------------------------------------------------------------------------------------
-- Completeness
-----------------------------------------------------------------------------------------

/-- An assignment of terms satisfies a substitution when each variable's term equals what
its active binding becomes.
-/
def Substitution.FinitelySolvedBy (assigned : Var → Term) (substitution : Substitution Term)
    : Prop :=
  ∀ name bound,
    substitution.lookup? name = some bound
    → (assigned name).sameValue (bound.replace assigned) = true

theorem length_lt_levelsNeeded {β : Type} [FinitelyBuilt β] (left right : β)
    (start : Substitution β)
    : (allParts left right start).length < levelsNeeded .unlimited left right start := by
  have atLeast := Nat.le_mul_of_pos_left ((allParts left right start).length + 1)
    (Nat.succ_pos ((allParts left right start).length * (allParts left right start).length))
  exact Nat.lt_succ_of_lt atLeast

/-- Where an assignment of finite terms satisfies the start and makes both sides equal, a
call without a deepest level ends with success. No run visits a pair deeper than the equal
sides are high, so a call with any deepest level from that height on takes the same course.
-/
theorem unifyWith_ok_of_finite_solution (left right : Term) (start : Substitution Term)
    (assigned : Var → Term) (solved : start.FinitelySolvedBy assigned)
    (same : (left.replace assigned).sameValue (right.replace assigned) = true)
    : ∃ run result,
        unifyWith .unlimited left right start = some run
        ∧ run.answer = .ok result
        ∧ (∀ config depth first second middle,
            Visits config left right start depth first second middle
            → depth ≤ (left.replace assigned).height)
        ∧ ∀ limit, (left.replace assigned).height ≤ limit
            → unifyWith (.limited limit) left right start = some run := by
  let terms := allParts left right start
  have ranking
      : Ranking (· ∈ terms) (Term.EqualUnder assigned) (Term.rankAmong assigned terms) :=
    Term.rankAmong_ranking (allParts_hereditary left right start)
  have startSolved : start.SolvedWithin (· ∈ terms) (Term.EqualUnder assigned) :=
    ⟨Substitution.satisfiedBy_iff_lookup?.mpr solved, allBound_allParts left right start⟩
  have pairSolved
      : (Goal.pair left right).SolvedWithin (· ∈ terms) (Term.EqualUnder assigned) :=
    ⟨same, left_mem_allParts left right start, right_mem_allParts left right start⟩
  have belowHeight : Term.rankAmong assigned terms left ≤ (left.replace assigned).height :=
    Term.rankAmong_le_height left
  -- one run, found at the fewest levels that suffice, answers every call
  obtain ⟨inner, result, found, succeeded⟩ := ranking.exists_success startSolved pairSolved
  refine ⟨inner.conclude, result, ?_, succeeded, ?_, ?_⟩
  · have enough
        : Term.rankAmong assigned terms left < levelsNeeded .unlimited left right start :=
      Nat.lt_of_le_of_lt (Term.rankAmong_le_length left)
        (length_lt_levelsNeeded left right start)
    unfold unifyWith
    rw [descend_mono .unlimited enough 0 left right start inner found, Option.map_some]
  · intro config depth first second middle visits
    have bound := (ranking.visits_bound visits startSolved pairSolved).1
    omega
  · intro limit high
    have enough : Term.rankAmong assigned terms left + 1 ≤ limit + 2 := by omega
    rw [← descend_limited_eq limit _ 0 left right start (by omega)] at found
    exact congrArg (Option.map Run.conclude)
      (descend_mono (.limited limit) enough 0 left right start inner found)

/-- Two variables that are bound to each other, below two compounds. One of them is bound
again, to an atom, at the greatest depth that the height allows.
-/
theorem unifyWith_ok_of_circular_variables
    : Substitution.FinitelySolvedBy (fun _ => atom (.int 3))
          ⟨[(⟨1⟩, var ⟨2⟩), (⟨2⟩, var ⟨1⟩)]⟩
      ∧ ((compound 4 [compound 5 [var ⟨1⟩]]).replace (fun _ => atom (.int 3))).sameValue
          ((compound 4 [compound 5 [atom (.int 3)]]).replace (fun _ => atom (.int 3)))
        = true
      ∧ ((compound 4 [compound 5 [var ⟨1⟩]]).replace (fun _ => atom (.int 3))).height = 2
      ∧ Visits .unlimited (compound 4 [compound 5 [var ⟨1⟩]])
          (compound 4 [compound 5 [atom (.int 3)]]) ⟨[(⟨1⟩, var ⟨2⟩), (⟨2⟩, var ⟨1⟩)]⟩ 2
          (var ⟨1⟩) (atom (.int 3)) ⟨[(⟨1⟩, var ⟨2⟩), (⟨2⟩, var ⟨1⟩)]⟩
      ∧ unifyWith (.limited 2) (compound 4 [compound 5 [var ⟨1⟩]])
          (compound 4 [compound 5 [atom (.int 3)]]) ⟨[(⟨1⟩, var ⟨2⟩), (⟨2⟩, var ⟨1⟩)]⟩
        = some
            ⟨[.descended ⟨4, 1⟩ 0, .descended ⟨5, 1⟩ 1, .bound ⟨1⟩ 2, .succeeded 3],
              .ok ⟨[(⟨1⟩, atom (.int 3)), (⟨1⟩, var ⟨2⟩), (⟨2⟩, var ⟨1⟩)]⟩⟩ := by
  have solved
      : Substitution.FinitelySolvedBy (fun _ => atom (.int 3))
          ⟨[(⟨1⟩, var ⟨2⟩), (⟨2⟩, var ⟨1⟩)]⟩ := by
    intro name bound found
    have member := Substitution.mem_bindings_of_lookup? found
    simp only [List.mem_cons, Prod.mk.injEq, List.not_mem_nil, or_false] at member
    rcases member with ⟨_, rfl⟩ | ⟨_, rfl⟩ <;> rfl
  have same
      : ((compound 4 [compound 5 [var ⟨1⟩]]).replace (fun _ => atom (.int 3))).sameValue
          ((compound 4 [compound 5 [atom (.int 3)]]).replace (fun _ => atom (.int 3)))
        = true :=
    rfl
  obtain ⟨run, _, found, _, _, limited⟩ := unifyWith_ok_of_finite_solution
    (compound 4 [compound 5 [var ⟨1⟩]]) (compound 4 [compound 5 [atom (.int 3)]])
    ⟨[(⟨1⟩, var ⟨2⟩), (⟨2⟩, var ⟨1⟩)]⟩ _ solved same
  refine ⟨solved, same, rfl, ?_, (limited 2 (Nat.le_refl 2)).trans (found.symm.trans rfl)⟩
  have middle : Visits .unlimited (compound 4 [compound 5 [var ⟨1⟩]])
      (compound 4 [compound 5 [atom (.int 3)]]) ⟨[(⟨1⟩, var ⟨2⟩), (⟨2⟩, var ⟨1⟩)]⟩ 1
      (compound 5 [var ⟨1⟩]) (compound 5 [atom (.int 3)])
      ⟨[(⟨1⟩, var ⟨2⟩), (⟨2⟩, var ⟨1⟩)]⟩ :=
    .field 0 0 .outermost rfl rfl rfl rfl rfl (by decide) rfl rfl
  exact .field 0 0 middle rfl rfl rfl rfl rfl (by decide) rfl rfl

end Unification
