import Unification.Proofs.FieldPairs

/-! Lists of terms. Each cell of a list is a compound of an element and of the list that
remains, so two lists unify element by element, and each pair of elements starts from what the
pairs before it have bound. Where one list ends first, its end, an atom, meets a cell.
-/

namespace Unification

open Unifiable (shape)
open Term (var atom compound)

/-- What two lists come to after the pairs of their elements: they end together, or the end of
one meets a cell of the other.
-/
def closeLists (left right : List Term) (result : Substitution Term) : Run Term :=
  if left.length = right.length then
    .succeed result
  else
    .fail .valuesDiffer

/-- The pairs of elements of two lists in order, as long as both have one, and then the ends of
the lists.
-/
def unifyElements (left right : List Term) (start : Substitution Term)
    : Option (Run Term) :=
  (unifyManyWith .unlimited (left.zip right) start).bind (fun run =>
    run.andThen (fun result => some (closeLists left right result)))

theorem unifyElements_cons (first second : Term) (leftRest rightRest : List Term)
    (start : Substitution Term)
    : unifyElements (first :: leftRest) (second :: rightRest) start
      = (unifyWith .unlimited first second start).bind (fun run =>
          run.andThen (unifyElements leftRest rightRest)) := by
  have ends
      : closeLists (first :: leftRest) (second :: rightRest) = closeLists leftRest rightRest := by
    funext result
    simp only [closeLists, List.length_cons, Nat.add_right_cancel_iff]
  rw [unifyElements, List.zip_cons_cons, unifyManyWith, Run.bind_andThen_assoc, ends]
  rfl

/-- The answer of the elements and ends of two lists, from that of the elements. -/
theorem unifyElements_answer_eq (left right : List Term) (start : Substitution Term)
    : (unifyElements left right start).map Run.answer
      = (unifyManyWith .unlimited (left.zip right) start).map (fun run =>
          run.answer.bind (fun result => (closeLists left right result).answer)) := by
  unfold unifyElements
  rcases unifyManyWith .unlimited (left.zip right) start with _ | ⟨log, failure | result⟩ <;> rfl

/-- A call without a deepest level on two values at which the run ends has that answer. -/
theorem Ends.unifyWith_agrees {left right : Term} {start : Substitution Term} {run : Run Term}
    (leftKnown : Known left) (rightKnown : Known right)
    (ends : Ends left right start run.answer)
    : RunsAgree Eq Eq (some run) (unifyWith .unlimited left right start) := by
  have roots : Ends (start.walk left) (start.walk right) start run.answer := by
    rwa [Substitution.walk_of_known leftKnown, Substitution.walk_of_known rightKnown]
  rw [runsAgree_iff_answer_eq]
  exact (roots.unifyWith_answer .unlimited).symm

/-- Two cells unify as their elements do and then the lists that remain. -/
theorem unifyWith_cells_agree (left right leftRest rightRest : Term) (start : Substitution Term)
    : RunsAgree Eq Eq
        ((unifyWith .unlimited left right start).bind (fun run =>
          run.andThen (unifyWith .unlimited leftRest rightRest)))
        (unifyWith .unlimited (.cons left leftRest) (.cons right rightRest) start) := by
  have pairs
      : unifyManyWith .unlimited [(left, right), (leftRest, rightRest)] start
        = (unifyWith .unlimited left right start).bind (fun run =>
            run.andThen (unifyWith .unlimited leftRest rightRest)) := by
    simp only [unifyManyWith, Run.bind_andThen_succeed]
  rw [← pairs]
  exact unifyManyWith_agrees_fields keepsMismatches_eq (fun _ => .none) rfl rfl rfl
    (Term.compounds_fieldsArePairs 0 [(left, right), (leftRest, rightRest)]) start

/-- Two lists unify as their elements do and then their ends, by induction on the lists. -/
theorem unifyWith_ofList_agrees (left right : List Term) (start : Substitution Term)
    : RunsAgree Eq Eq (unifyElements left right start)
        (unifyWith .unlimited (Term.ofList left) (Term.ofList right) start) := by
  induction left generalizing right start with
  | nil =>
      cases right with
      | nil =>
          have matching : Matches Term.nil Term.nil := .value rfl rfl nofun rfl
          exact (Ends.matched matching).unifyWith_agrees nofun nofun
      | cons second rightRest =>
          have clash : Clash Term.nil (Term.ofList (second :: rightRest)) .valuesDiffer :=
            .atomCompound rfl rfl
          exact (Ends.clashed clash).unifyWith_agrees nofun nofun
  | cons first leftRest ih =>
      cases right with
      | nil =>
          have clash : Clash (Term.ofList (first :: leftRest)) Term.nil .valuesDiffer :=
            .compoundAtom rfl rfl
          exact (Ends.clashed clash).unifyWith_agrees nofun nofun
      | cons second rightRest =>
          have elements
              : RunsAgree Eq Eq (unifyElements (first :: leftRest) (second :: rightRest) start)
                  ((unifyWith .unlimited first second start).bind (fun run =>
                    run.andThen
                      (unifyWith .unlimited (Term.ofList leftRest) (Term.ofList rightRest)))) := by
            rw [unifyElements_cons]
            apply (runsAgree_iff_answer_eq.mpr rfl).andThen
            rintro middle _ rfl
            exact ih rightRest middle
          have cells := unifyWith_cells_agree first second (Term.ofList leftRest)
            (Term.ofList rightRest) start
          rw [runsAgree_iff_answer_eq] at elements cells ⊢
          exact elements.trans cells

/-- Without a deepest level, two lists of the same length unify with the answer of the pairs of
their elements in order, or without end like them. Lists of different lengths fail as the
pairs of their common part do, and where these succeed they fail at the end of the shorter
list; they too run without end where the pairs do.
-/
theorem unify_ofList_answer_eq (left right : List Term)
    : (left.length = right.length →
        (unify .unlimited (Term.ofList left) (Term.ofList right)).map Run.answer
          = (unifyMany .unlimited (left.zip right)).map Run.answer)
      ∧ (left.length ≠ right.length →
          (unify .unlimited (Term.ofList left) (Term.ofList right)).map Run.answer
            = (unifyMany .unlimited (left.zip right)).map
                (fun run => run.answer.bind (fun _ => .error .valuesDiffer))) := by
  have elements
      : (unifyMany .unlimited (left.zip right)).map
          (fun run => run.answer.bind (fun result => (closeLists left right result).answer))
        = (unify .unlimited (Term.ofList left) (Term.ofList right)).map Run.answer :=
    (unifyElements_answer_eq left right .empty).symm.trans
      (runsAgree_iff_answer_eq.mp (unifyWith_ofList_agrees left right .empty))
  rw [← elements]
  constructor
  · intro sameLength
    simp only [closeLists, sameLength, if_true]
    congr 1
    funext ⟨log, answer⟩
    cases answer <;> rfl
  · intro different
    simp only [closeLists, different, if_false]
    rfl

/-- The pairs of elements bind two variables to compounds that contain each other. The list on
the left has a further element, which the end of the other list meets.
-/
theorem unify_ofList_answer_of_circular_elements
    : (unify .unlimited (Term.ofList [var ⟨0⟩, var ⟨1⟩])
          (Term.ofList [compound 4 [var ⟨1⟩], compound 4 [var ⟨0⟩]])).map
          Run.answer
        = some (.ok ⟨[(⟨1⟩, compound 4 [var ⟨0⟩]), (⟨0⟩, compound 4 [var ⟨1⟩])]⟩)
      ∧ (unify .unlimited (Term.ofList [var ⟨0⟩, var ⟨1⟩, var ⟨2⟩])
            (Term.ofList [compound 4 [var ⟨1⟩], compound 4 [var ⟨0⟩]])).map
            Run.answer
          = some (.error .valuesDiffer) := by
  have same := (unify_ofList_answer_eq [var ⟨0⟩, var ⟨1⟩]
    [compound 4 [var ⟨1⟩], compound 4 [var ⟨0⟩]]).1 rfl
  have different := (unify_ofList_answer_eq [var ⟨0⟩, var ⟨1⟩, var ⟨2⟩]
    [compound 4 [var ⟨1⟩], compound 4 [var ⟨0⟩]]).2 (by decide)
  exact ⟨same.trans rfl, different.trans rfl⟩

end Unification
