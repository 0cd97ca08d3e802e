import Unification.Proofs.LevelBound
import Unification.Proofs.Replacement
import Unification.Proofs.Solution

/-! Variables are only names. A renaming that keeps different variables apart is applied to a
term everywhere, suspended contents included. Comparisons do not notice it, lookups follow it,
and so do walks, resolutions and whole runs: no order of the identifiers is ever looked at.
-/

namespace Unification

open Unifiable (shape field?)
open Term (var atom lazy compound tuple)

-----------------------------------------------------------------------------------------
-- Renamed terms
-----------------------------------------------------------------------------------------

/-- The shape that a value shows once its variables are renamed. -/
def Shape.rename (renamed : Var → Var) : Shape → Shape
  | unknown name => unknown (renamed name)
  | other => other

namespace Term

mutual

/-- A term with every variable renamed, also where substitution cannot reach. -/
def rename (renamed : Var → Var) : Term → Term
  | var name => var (renamed name)
  | atom value => atom value
  | lazy contents => lazy (rename renamed contents)
  | compound tag fields => compound tag (renameAll renamed fields)

/-- Several terms with every variable renamed. -/
def renameAll (renamed : Var → Var) : List Term → List Term
  | [] => []
  | field :: rest => rename renamed field :: renameAll renamed rest

end

variable {renamed : Var → Var}

theorem renameAll_eq_map (terms : List Term)
    : renameAll renamed terms = terms.map (rename renamed) := by
  induction terms with
  | nil => rfl
  | cons term rest ih => simp [renameAll, ih]

theorem shape_rename {term : Term} {shown : Shape} (shows : shape term = shown)
    : shape (term.rename renamed) = shown.rename renamed := by
  subst shows
  cases term with
  | compound tag fields => simp [rename, shape, Shape.rename, renameAll_eq_map]
  | var _ | atom _ | lazy _ => rfl

theorem field?_rename (term : Term) (index : Nat)
    : (term.rename renamed).field? index = (term.field? index).map (rename renamed) := by
  cases term with
  | compound tag others =>
      simp only [rename, field?, Term.fields, renameAll_eq_map, List.getElem?_map]
  | var _ | atom _ | lazy _ => rfl

theorem sameObject_rename (first second : Term)
    : (first.rename renamed).sameObject (second.rename renamed) = first.sameObject second := by
  cases first <;> cases second <;> rfl

mutual

/-- Equality by representation is that of the renamed terms, by descent into both. Only at two
variables does it matter that the renaming keeps them apart.
-/
theorem sameValue_rename (injective : Function.Injective renamed) (first second : Term)
    : (first.rename renamed).sameValue (second.rename renamed) = first.sameValue second := by
  cases first <;> cases second <;> simp only [rename, sameValue]
  case var.var name other => rw [Bool.eq_iff_iff, beq_iff_eq, beq_iff_eq, injective.eq_iff]
  case lazy.lazy contents others => exact sameValue_rename injective contents others
  case compound.compound fields _ others => rw [sameValues_renameAll injective fields others]

/-- Equality of several terms in order is that of the renamed terms. -/
theorem sameValues_renameAll (injective : Function.Injective renamed)
    (first second : List Term)
    : sameValues (renameAll renamed first) (renameAll renamed second)
      = sameValues first second := by
  cases first <;> cases second <;> simp only [renameAll, sameValues]
  case cons.cons head tail other rest =>
    rw [sameValue_rename injective head other, sameValues_renameAll injective tail rest]

end

mutual

/-- Where assignments differ in the renaming alone, so do the terms after replacement. -/
theorem replace_rename (term : Term) {first second : Var → Term}
    (follows : ∀ name, second (renamed name) = (first name).rename renamed)
    : (term.rename renamed).replace second = (term.replace first).rename renamed := by
  cases term with
  | var name => exact follows name
  | atom _ | lazy _ => rfl
  | compound tag fields =>
      simp only [rename, replace, compound.injEq, true_and]
      exact replaceAll_renameAll fields follows

/-- Where assignments differ in the renaming alone, so do several terms after replacement. -/
theorem replaceAll_renameAll (fields : List Term) {first second : Var → Term}
    (follows : ∀ name, second (renamed name) = (first name).rename renamed)
    : replaceAll second (renameAll renamed fields)
      = renameAll renamed (replaceAll first fields) := by
  cases fields with
  | nil => rfl
  | cons field rest =>
      simp only [renameAll, replaceAll, replace_rename field follows,
        replaceAll_renameAll rest follows]

end

end Term

-----------------------------------------------------------------------------------------
-- Renamed substitutions
-----------------------------------------------------------------------------------------

namespace Substitution

variable {renamed : Var → Var}

/-- The same bindings in the same order, with the variables on both sides renamed. -/
def rename (renamed : Var → Var) (substitution : Substitution Term) : Substitution Term :=
  ⟨substitution.bindings.map (fun binding => (renamed binding.1, binding.2.rename renamed))⟩

theorem size_rename (substitution : Substitution Term)
    : (substitution.rename renamed).size = substitution.size :=
  List.length_map _

/-- A variable keeps its active binding: the same binding is the first to fit its name. -/
theorem lookup?_rename (injective : Function.Injective renamed)
    (substitution : Substitution Term) (name : Var)
    : (substitution.rename renamed).lookup? (renamed name)
      = (substitution.lookup? name).map (Term.rename renamed) := by
  have sameTest
      : (fun binding : Var × Term => binding.1 == renamed name)
            ∘ (fun binding : Var × Term => (renamed binding.1, binding.2.rename renamed))
        = fun binding : Var × Term => binding.1 == name := by
    funext binding
    rw [Function.comp_apply, Bool.eq_iff_iff, beq_iff_eq, beq_iff_eq, injective.eq_iff]
  unfold lookup? rename
  rw [List.find?_map, sameTest, Option.map_map, Option.map_map]
  rfl

theorem hop?_rename (injective : Function.Injective renamed)
    (substitution : Substitution Term) (term : Term)
    : (substitution.rename renamed).hop? (term.rename renamed)
      = (substitution.hop? term).map (Term.rename renamed) := by
  cases term with
  | var name => exact substitution.lookup?_rename injective name
  | atom _ | lazy _ | compound _ _ => rfl

/-- Walks hop in step, by induction on the hops. -/
theorem follow_rename (injective : Function.Injective renamed)
    (substitution : Substitution Term) (hops : Nat) (term : Term)
    : (substitution.rename renamed).follow hops (term.rename renamed)
      = (substitution.follow hops term).rename renamed := by
  induction hops generalizing term with
  | zero => rfl
  | succ hops ih =>
      unfold follow
      rw [substitution.hop?_rename injective]
      cases substitution.hop? term with
      | none => rfl
      | some bound => exact ih bound

theorem walk_rename (injective : Function.Injective renamed)
    (substitution : Substitution Term) (term : Term)
    : (substitution.rename renamed).walk (term.rename renamed)
      = (substitution.walk term).rename renamed := by
  unfold walk
  rw [size_rename, follow_rename injective]

/-- Expansions stop at the same variables, by induction on the depth that is left. -/
theorem expand_rename (injective : Function.Injective renamed)
    (substitution : Substitution Term) (depth : Nat) (passed : List Var) (name : Var)
    : (substitution.rename renamed).expand depth (passed.map renamed) (renamed name)
      = (substitution.expand depth passed name).rename renamed := by
  induction depth generalizing passed name with
  | zero => rfl
  | succ depth ih =>
      simp only [expand, List.mem_map_of_injective injective,
        substitution.lookup?_rename injective]
      split
      next => rfl
      next =>
        cases substitution.lookup? name with
        | none => rfl
        | some bound => exact bound.replace_rename (ih (name :: passed))

theorem resolve_rename (injective : Function.Injective renamed)
    (substitution : Substitution Term) (term : Term)
    : (substitution.rename renamed).resolve (term.rename renamed)
      = (substitution.resolve term).rename renamed := by
  apply term.replace_rename
  rw [size_rename]
  exact expand_rename injective substitution substitution.size []

end Substitution

-----------------------------------------------------------------------------------------
-- Renamed runs
-----------------------------------------------------------------------------------------

variable {renamed : Var → Var} {left right : Term}

theorem known_rename {term : Term} (known : Known term) : Known (term.rename renamed) := by
  cases term with
  | var name => exact (known name rfl).elim
  | atom _ | lazy _ | compound _ _ => nofun

/-- Renaming makes no two variables the same. -/
theorem unknown_of_shape_rename (injective : Function.Injective renamed) {term : Term}
    {name : Var} (shown : shape (term.rename renamed) = .unknown (renamed name))
    : shape term = .unknown name := by
  cases term with
  | var other => rw [← injective (Shape.unknown.inj shown)]; rfl
  | atom _ | lazy _ | compound _ _ => cases shown

theorem Matches.rename (injective : Function.Injective renamed) (matching : Matches left right)
    : Matches (left.rename renamed) (right.rename renamed) := by
  cases matching with
  | object leftShape rightShape same =>
      exact .object (Term.shape_rename leftShape) (Term.shape_rename rightShape)
        ((Term.sameObject_rename left right).trans same)
  | value leftShape rightShape notObjects same =>
      exact .value (Term.shape_rename leftShape) (Term.shape_rename rightShape) notObjects
        ((Term.sameValue_rename injective left right).trans same)

theorem Clash.rename (injective : Function.Injective renamed) {failure : Failure}
    (clash : Clash left right failure)
    : Clash (left.rename renamed) (right.rename renamed) failure := by
  cases clash with
  | heads leftShape rightShape different =>
      exact .heads (Term.shape_rename leftShape) (Term.shape_rename rightShape) different
  | objects leftShape rightShape different =>
      exact .objects (Term.shape_rename leftShape) (Term.shape_rename rightShape)
        ((Term.sameObject_rename left right).trans different)
  | values leftShape rightShape notObjects different =>
      exact .values (Term.shape_rename leftShape) (Term.shape_rename rightShape) notObjects
        ((Term.sameValue_rename injective left right).trans different)
  | compoundAtom leftShape rightShape =>
      exact .compoundAtom (Term.shape_rename leftShape) (Term.shape_rename rightShape)
  | atomCompound leftShape rightShape =>
      exact .atomCompound (Term.shape_rename leftShape) (Term.shape_rename rightShape)

/-- A field is there for the renamed terms exactly when it is there, and then it is renamed. -/
theorem fieldsCorrespond_rename (left right : Term) (index : Nat)
    : FieldsCorrespond
        (fun left right left' right' =>
          left' = left.rename renamed ∧ right' = right.rename renamed)
        left right (left.rename renamed) (right.rename renamed) index := by
  have leftFields : field? (left.rename renamed) index = _ := left.field?_rename index
  have rightFields : field? (right.rename renamed) index = _ := right.field?_rename index
  rcases exists_fields_or_lacking left right index with
    ⟨first, second, leftField, rightField⟩ | absent
  · exact .present leftField rightField
      (leftFields.trans (congrArg (Option.map (Term.rename renamed)) leftField))
      (rightFields.trans (congrArg (Option.map (Term.rename renamed)) rightField)) ⟨rfl, rfl⟩
  · apply FieldsCorrespond.lacking absent
    rw [leftFields, rightFields, Option.map_eq_none_iff, Option.map_eq_none_iff]
    exact absent

/-- Renamed roots lead to the renamed step: the same comparison, a binding of the renamed
variable, or the descent to the renamed fields.
-/
theorem renaming_simulation (injective : Function.Injective renamed)
    : Simulation (fun start start' => start' = start.rename renamed)
        (fun left right left' right' =>
          left' = left.rename renamed ∧ right' = right.rename renamed)
        Eq where
  roots := by
    rintro start _ left right _ _ rfl ⟨rfl, rfl⟩
    rw [start.walk_rename injective, start.walk_rename injective]
    by_cases leftKnown : Known (start.walk left)
    · by_cases rightKnown : Known (start.walk right)
      · rcases matches_or_clash_or_compounds leftKnown rightKnown with
          matching | ⟨failure, clash⟩ | ⟨head, leftShape, rightShape⟩
        · exact .succeeded (.matched matching) (.matched (matching.rename injective)) rfl
        · exact .failed (.clashed clash) (.clashed (clash.rename injective)) rfl
        · exact .descended leftShape rightShape (Term.shape_rename leftShape)
            (Term.shape_rename rightShape) rfl rfl
            (fun index _ => fieldsCorrespond_rename _ _ index)
      · obtain ⟨name, rightShape⟩ := exists_unknown_of_not_known rightKnown
        exact .succeeded (.boundRight leftKnown rightShape)
          (.boundRight (known_rename leftKnown) (Term.shape_rename rightShape)) rfl
    · obtain ⟨name, leftShape⟩ := exists_unknown_of_not_known leftKnown
      by_cases same : shape (start.walk right) = .unknown name
      · exact .succeeded (.same leftShape same)
          (.same (Term.shape_rename leftShape) (Term.shape_rename same)) rfl
      · exact .succeeded (.boundLeft leftShape same)
          (.boundLeft (Term.shape_rename leftShape)
            (fun shown => same (unknown_of_shape_rename injective shown))) rfl

/-- Under a renaming that keeps different variables apart, calls on the renamed terms, on top of
the renamed bindings, agree with the calls on the terms under every setting: neither returns,
both fail with the same failure, or both succeed and the renamed bindings are those of the
renamed result in their order. Walks and resolutions follow the renaming as well.
-/
theorem unifyWith_agrees_renamed (renamed : Var → Var) (injective : Function.Injective renamed)
    : (∀ (config : Config) (left right : Term) (start : Substitution Term),
        RunsAgree (fun result other => other = result.rename renamed) Eq
          (unifyWith config left right start)
          (unifyWith config (left.rename renamed) (right.rename renamed)
            (start.rename renamed)))
      ∧ ∀ (start : Substitution Term) (term : Term),
          (start.rename renamed).walk (term.rename renamed) = (start.walk term).rename renamed
          ∧ (start.rename renamed).resolve (term.rename renamed)
            = (start.resolve term).rename renamed := by
  constructor
  · intro config left right start
    exact (renaming_simulation injective).unifyWith_agree config.refusals_agree rfl ⟨rfl, rfl⟩
  · intro start term
    exact ⟨start.walk_rename injective term, start.resolve_rename injective term⟩

/-- Identifiers move up by one and wrap around, which turns the order of two variables. One of
them is bound twice, another lies on a cycle, and suspended contents are compared.
-/
theorem unifyWith_agrees_renamed_past_wrap
    : Function.Injective (fun name : Var => Var.mk (name.id + 1))
      ∧ (unifyWith .unlimited
            (tuple [var ⟨18446744073709551615⟩, lazy (var ⟨3⟩), compound 4 [var ⟨7⟩]])
            (tuple [var ⟨2⟩, lazy (var ⟨3⟩), compound 4 [atom .unit]])
            ⟨[(⟨2⟩, compound 4 [var ⟨2⟩]), (⟨7⟩, var ⟨8⟩), (⟨8⟩, var ⟨7⟩), (⟨2⟩, atom .unit)]⟩).map
          Run.answer
        = some
            (.ok
              ⟨[(⟨8⟩, atom .unit), (⟨18446744073709551615⟩, compound 4 [var ⟨2⟩]),
                  (⟨2⟩, compound 4 [var ⟨2⟩]), (⟨7⟩, var ⟨8⟩), (⟨8⟩, var ⟨7⟩), (⟨2⟩, atom .unit)]⟩)
      ∧ (unifyWith .unlimited (tuple [var ⟨0⟩, lazy (var ⟨4⟩), compound 4 [var ⟨8⟩]])
            (tuple [var ⟨3⟩, lazy (var ⟨4⟩), compound 4 [atom .unit]])
            ⟨[(⟨3⟩, compound 4 [var ⟨3⟩]), (⟨8⟩, var ⟨9⟩), (⟨9⟩, var ⟨8⟩), (⟨3⟩, atom .unit)]⟩).map
          Run.answer
        = some
            (.ok
              ⟨[(⟨9⟩, atom .unit), (⟨0⟩, compound 4 [var ⟨3⟩]), (⟨3⟩, compound 4 [var ⟨3⟩]),
                  (⟨8⟩, var ⟨9⟩), (⟨9⟩, var ⟨8⟩), (⟨3⟩, atom .unit)]⟩) := by
  have injective : Function.Injective (fun name : Var => Var.mk (name.id + 1)) := by
    intro first second same
    have moved : first.id + 1 = second.id + 1 := congrArg Var.id same
    rw [UInt64.add_left_inj] at moved
    exact congrArg Var.mk moved
  have agree := (unifyWith_agrees_renamed _ injective).1 .unlimited
    (tuple [var ⟨18446744073709551615⟩, lazy (var ⟨3⟩), compound 4 [var ⟨7⟩]])
    (tuple [var ⟨2⟩, lazy (var ⟨3⟩), compound 4 [atom .unit]])
    ⟨[(⟨2⟩, compound 4 [var ⟨2⟩]), (⟨7⟩, var ⟨8⟩), (⟨8⟩, var ⟨7⟩), (⟨2⟩, atom .unit)]⟩
  refine ⟨injective, rfl, ?_⟩
  cases agree with
  | succeeded left right holds =>
      cases left
      subst holds
      exact congrArg some right
  | failed left => cases left

end Unification
