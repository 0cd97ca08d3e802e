import Mathlib.Data.List.Forall2
import Unification.Proofs.LevelBound
import Unification.SymbolTree

/-! What unification asks of values, and all that it asks. Between two types of values, a
correspondence respects what may be asked of a value: its shape, the fields that its head
claims, the comparison that is due between two atoms, and its copy. Runs on corresponding
values then descend in step and make corresponding bindings, whatever the types have to say
beyond that. The copies count: values that otherwise look alike need not unify alike where the
objects of one type are not shared with their copies.
-/

namespace Unification

open Unifiable (shape field? sameObject sameValue clone)
open Term (var atom compound)

-----------------------------------------------------------------------------------------
-- What a call comes to
-----------------------------------------------------------------------------------------

section Outcome

variable {α : Type} [Unifiable α] {config : Config} {left right : α} {start : Substitution α}

/-- What a call comes to, also on values with parts without end: the run that has an answer
at some number of levels, with its outcome, or no result when none has.
-/
inductive ComesTo (config : Config) (left right : α) (start : Substitution α)
    : Option (Run α) → Prop
  | result {levels run} (answered : descend config levels 0 left right start = some run)
    : ComesTo config left right start (some run.conclude)
  | endless (unanswered : ∀ levels, descend config levels 0 left right start = none)
    : ComesTo config left right start none

theorem ComesTo.unique {found other : Option (Run α)}
    (first : ComesTo config left right start found)
    (second : ComesTo config left right start other)
    : found = other := by
  cases first with
  | result answered =>
      cases second with
      | result again => rw [descend_unique answered again]
      | endless unanswered => simp [unanswered] at answered
  | endless unanswered =>
      cases second with
      | result answered => simp [unanswered] at answered
      | endless _ => rfl

/-- On values with finitely many parts, a call comes to the result that is computed. -/
theorem comesTo_iff_eq_unifyWith {β : Type} [FinitelyBuilt β] {left right : β}
    {start : Substitution β} {found : Option (Run β)}
    : ComesTo config left right start found ↔ found = unifyWith config left right start := by
  have computed : ComesTo config left right start (unifyWith config left right start) := by
    cases found : unifyWith config left right start with
    | none => exact .endless (unifyWith_eq_none_iff.mp found)
    | some run =>
        obtain ⟨inner, answered, rfl⟩ := Option.map_eq_some_iff.mp found
        exact .result answered
  exact ⟨fun comesTo => comesTo.unique computed, fun same => same ▸ computed⟩

end Outcome

-----------------------------------------------------------------------------------------
-- Correspondences between two types of values
-----------------------------------------------------------------------------------------

section Correspondence

variable {α β : Type}

/-- Two substitutions with the same variables in the same order, bound to corresponding
values.
-/
def Substitution.Corresponds (corresponds : α → β → Prop) (first : Substitution α)
    (second : Substitution β)
    : Prop :=
  List.Forall₂ (fun binding other => binding.1 = other.1 ∧ corresponds binding.2 other.2)
    first.bindings second.bindings

namespace Substitution.Corresponds

variable {corresponds : α → β → Prop} {first : Substitution α} {second : Substitution β}

theorem extend (holds : first.Corresponds corresponds second) (name : Var) {value : α}
    {other : β} (related : corresponds value other)
    : (first.extend name value).Corresponds corresponds (second.extend name other) :=
  .cons ⟨rfl, related⟩ holds

/-- A variable has no binding in either substitution, or corresponding ones, by induction on
the bindings.
-/
theorem lookup? (holds : first.Corresponds corresponds second) (name : Var)
    : Option.Rel corresponds (first.lookup? name) (second.lookup? name) := by
  obtain ⟨bindings⟩ := first
  obtain ⟨others⟩ := second
  replace holds : List.Forall₂ _ bindings others := holds
  induction holds with
  | nil => exact .none
  | @cons binding other rest more related _ ih =>
      obtain ⟨same, related⟩ := related
      show Option.Rel corresponds
        ((Substitution.extend ⟨rest⟩ binding.1 binding.2).lookup? name)
        ((Substitution.extend ⟨more⟩ other.1 other.2).lookup? name)
      rw [lookup?_extend, lookup?_extend, ← same]
      split
      next => exact .some related
      next => exact ih

end Substitution.Corresponds

variable [Unifiable α] [Unifiable β]

/-- A relation between two types of values that look alike: related values show the same
shape, each field that a head claims is absent in both compounds or related, and two atoms
compare alike, as objects if both are compared as objects and by value otherwise.
-/
structure Likeness (corresponds : α → β → Prop) : Prop where
  shape : ∀ {value other}, corresponds value other → shape value = shape other
  field : ∀ {value other head}, corresponds value other → Unifiable.shape value = .compound head
    → ∀ index < head.arity, Option.Rel corresponds (field? value index) (field? other index)
  object : ∀ {left right left' right'}, corresponds left left' → corresponds right right'
    → Unifiable.shape left = .atomic .byObject → Unifiable.shape right = .atomic .byObject
    → sameObject left right = sameObject left' right'
  value : ∀ {left right left' right' first second}, corresponds left left'
    → corresponds right right' → Unifiable.shape left = .atomic first
    → Unifiable.shape right = .atomic second → ¬ (first = .byObject ∧ second = .byObject)
    → sameValue left right = sameValue left' right'

/-- A relation between two types of values that respects all that unification may ask. Related
values look alike, and so do their copies, to which variables are bound.
-/
structure Correspondence (corresponds : α → β → Prop) : Prop extends Likeness corresponds where
  clone : ∀ {value other}, corresponds value other → corresponds (clone value) (clone other)

namespace Substitution.Corresponds

variable {corresponds : α → β → Prop} {first : Substitution α} {second : Substitution β}
  {value : α} {other : β}

theorem hop? (holds : first.Corresponds corresponds second)
    (likeness : Likeness corresponds) (related : corresponds value other)
    : Option.Rel corresponds (first.hop? value) (second.hop? other) := by
  have sameShape := likeness.shape related
  by_cases known : Known value
  · rw [hop?_of_known known, hop?_of_known (fun name => sameShape ▸ known name)]
    exact .none
  · obtain ⟨name, valueShape⟩ := exists_unknown_of_not_known known
    rw [hop?_of_unknown valueShape, hop?_of_unknown (sameShape ▸ valueShape)]
    exact holds.lookup? name

/-- Walks from corresponding values hop in step, by induction on the hops. -/
theorem follow (holds : first.Corresponds corresponds second)
    (likeness : Likeness corresponds) (hops : Nat)
    (related : corresponds value other)
    : corresponds (first.follow hops value) (second.follow hops other) := by
  induction hops generalizing value other with
  | zero => exact related
  | succ hops ih =>
      have step := holds.hop? likeness related
      unfold Substitution.follow
      generalize first.hop? value = hop at step ⊢
      generalize second.hop? other = otherHop at step ⊢
      cases step with
      | none => exact related
      | some bound => exact ih bound

/-- Corresponding substitutions have as many bindings, so walks take as many hops in both. -/
theorem walk (holds : first.Corresponds corresponds second)
    (likeness : Likeness corresponds) (related : corresponds value other)
    : corresponds (first.walk value) (second.walk other) := by
  have sameSize : first.size = second.size := List.Forall₂.length_eq holds
  unfold Substitution.walk
  rw [← sameSize]
  exact holds.follow likeness first.size related

end Substitution.Corresponds

namespace Likeness

variable {corresponds : α → β → Prop} {left right : α} {left' right' : β}

theorem matching (likeness : Likeness corresponds)
    (leftRelated : corresponds left left') (rightRelated : corresponds right right')
    (matching : Matches left right)
    : Matches left' right' := by
  have leftSame := likeness.shape leftRelated
  have rightSame := likeness.shape rightRelated
  cases matching with
  | object leftShape rightShape same =>
      apply Matches.object (leftSame ▸ leftShape) (rightSame ▸ rightShape)
      rwa [← likeness.object leftRelated rightRelated leftShape rightShape]
  | value leftShape rightShape notObjects same =>
      apply Matches.value (leftSame ▸ leftShape) (rightSame ▸ rightShape) notObjects
      rwa [← likeness.value leftRelated rightRelated leftShape rightShape notObjects]

theorem clash (likeness : Likeness corresponds)
    (leftRelated : corresponds left left') (rightRelated : corresponds right right')
    {failure : Failure} (clash : Clash left right failure)
    : Clash left' right' failure := by
  have leftSame := likeness.shape leftRelated
  have rightSame := likeness.shape rightRelated
  cases clash with
  | heads leftShape rightShape different =>
      exact .heads (leftSame ▸ leftShape) (rightSame ▸ rightShape) different
  | objects leftShape rightShape different =>
      apply Clash.objects (leftSame ▸ leftShape) (rightSame ▸ rightShape)
      rwa [← likeness.object leftRelated rightRelated leftShape rightShape]
  | values leftShape rightShape notObjects different =>
      apply Clash.values (leftSame ▸ leftShape) (rightSame ▸ rightShape) notObjects
      rwa [← likeness.value leftRelated rightRelated leftShape rightShape notObjects]
  | compoundAtom leftShape rightShape =>
      exact .compoundAtom (leftSame ▸ leftShape) (rightSame ▸ rightShape)
  | atomCompound leftShape rightShape =>
      exact .atomCompound (leftSame ▸ leftShape) (rightSame ▸ rightShape)

/-- A claimed field is there on all four sides, or it is lacking in both runs. -/
theorem fields (likeness : Likeness corresponds)
    (leftRelated : corresponds left left') (rightRelated : corresponds right right')
    {head : Head} (leftShape : Unifiable.shape left = .compound head)
    (rightShape : Unifiable.shape right = .compound head) {index : Nat}
    (claimed : index < head.arity)
    : FieldsCorrespond
        (fun left right left' right' => corresponds left left' ∧ corresponds right right')
        left right left' right' index := by
  have leftFields := likeness.field leftRelated leftShape index claimed
  have rightFields := likeness.field rightRelated rightShape index claimed
  generalize leftField : field? left index = first at leftFields
  generalize leftField' : field? left' index = first' at leftFields
  generalize rightField : field? right index = second at rightFields
  generalize rightField' : field? right' index = second' at rightFields
  cases leftFields with
  | none => exact .lacking (.inl leftField) (.inl leftField')
  | some firstRelated =>
      cases rightFields with
      | none => exact .lacking (.inr rightField) (.inr rightField')
      | some secondRelated =>
          exact .present leftField rightField leftField' rightField'
            ⟨firstRelated, secondRelated⟩

end Likeness

/-- Where all atoms are compared as objects, no comparison by value is due. -/
theorem sameValue_eq_of_objects {corresponds : α → β → Prop} {left right : α}
    {left' right' : β} {first second : Comparison}
    (objects
      : ∀ {value other comparison},
          corresponds value other
          → shape value = .atomic comparison
          → comparison = .byObject)
    (leftRelated : corresponds left left') (rightRelated : corresponds right right')
    (leftShape : shape left = .atomic first) (rightShape : shape right = .atomic second)
    (notObjects : ¬ (first = .byObject ∧ second = .byObject))
    : sameValue left right = sameValue left' right' :=
  (notObjects ⟨objects leftRelated leftShape, objects rightRelated rightShape⟩).elim

/-- Corresponding roots lead to the same step: the same comparison, a binding of the same
variable, or the descent to as many fields.
-/
theorem Correspondence.simulation {corresponds : α → β → Prop}
    (correspondence : Correspondence corresponds)
    : Simulation (Substitution.Corresponds corresponds)
        (fun left right left' right' => corresponds left left' ∧ corresponds right right')
        Eq where
  roots := by
    rintro start start' left right left' right' holds ⟨leftGiven, rightGiven⟩
    have leftRelated := holds.walk correspondence.toLikeness leftGiven
    have rightRelated := holds.walk correspondence.toLikeness rightGiven
    have leftSame := correspondence.shape leftRelated
    have rightSame := correspondence.shape rightRelated
    by_cases leftKnown : Known (start.walk left)
    · by_cases rightKnown : Known (start.walk right)
      · rcases matches_or_clash_or_compounds leftKnown rightKnown with
          matching | ⟨failure, clash⟩ | ⟨head, leftShape, rightShape⟩
        · exact .succeeded (.matched matching)
            (.matched (correspondence.matching leftRelated rightRelated matching)) holds
        · exact .failed (.clashed clash)
            (.clashed (correspondence.clash leftRelated rightRelated clash)) rfl
        · exact .descended leftShape rightShape (leftSame ▸ leftShape) (rightSame ▸ rightShape)
            rfl rfl
            (fun index => correspondence.fields leftRelated rightRelated leftShape rightShape)
      · obtain ⟨name, rightShape⟩ := exists_unknown_of_not_known rightKnown
        exact .succeeded (.boundRight leftKnown rightShape)
          (.boundRight (fun other => leftSame ▸ leftKnown other) (rightSame ▸ rightShape))
          (holds.extend name (correspondence.clone leftRelated))
    · obtain ⟨name, leftShape⟩ := exists_unknown_of_not_known leftKnown
      by_cases same : Unifiable.shape (start.walk right) = .unknown name
      · exact .succeeded (.same leftShape same)
          (.same (leftSame ▸ leftShape) (rightSame ▸ same))
          holds
      · exact .succeeded (.boundLeft leftShape same)
          (.boundLeft (leftSame ▸ leftShape) (rightSame ▸ same))
          (holds.extend name (correspondence.clone rightRelated))

end Correspondence

-----------------------------------------------------------------------------------------
-- Calls on corresponding values
-----------------------------------------------------------------------------------------

section Call

variable {α β : Type} [Unifiable α] [Unifiable β]
  {related : Substitution α → Substitution β → Prop}
  {pairs : α → α → β → β → Prop} {config : Config} {left right : α} {left' right' : β}
  {start : Substitution α} {start' : Substitution β}

/-- What calls on related pairs come to agrees: at the levels of both answers the runs agree,
and an answer of one run is never without an answer of the other.
-/
theorem Simulation.comesTo_agree (simulation : Simulation related pairs Eq)
    (holds : related start start') (pair : pairs left right left' right')
    {found : Option (Run α)} {found' : Option (Run β)}
    (outcome : ComesTo config left right start found)
    (outcome' : ComesTo config left' right' start' found')
    : RunsAgree related Eq found found' := by
  have agree (levels : Nat) :=
    simulation.descend_agree levels 0 0 (fun _ => config.refusals_agree _) holds pair
  cases outcome with
  | @result levels run answered =>
      cases outcome' with
      | @result more run' answered' =>
          have most := agree (max levels more)
          rw [descend_mono config (Nat.le_max_left levels more) 0 left right start run answered,
            descend_mono config (Nat.le_max_right levels more) 0 left' right' start' run'
              answered'] at most
          exact most.map (fun _ => rfl) (fun _ => rfl)
      | endless unanswered' =>
          have same := (agree levels).isSome_eq
          simp [answered, unanswered'] at same
  | endless unanswered =>
      cases outcome' with
      | @result more run' answered' =>
          have same := (agree more).isSome_eq
          simp [answered', unanswered] at same
      | endless _ => exact .endless

theorem exists_comesTo (config : Config) (left right : α) (start : Substitution α)
    : ∃ result, ∀ found, ComesTo config left right start found ↔ found = result := by
  have outcome : ∃ result, ComesTo config left right start result := by
    by_cases ends : ∃ levels run, descend config levels 0 left right start = some run
    · obtain ⟨levels, run, answered⟩ := ends
      exact ⟨some run.conclude, .result answered⟩
    · refine ⟨none, .endless ?_⟩
      intro levels
      cases answered : descend config levels 0 left right start with
      | none => rfl
      | some run => exact (ends ⟨levels, run, answered⟩).elim
  obtain ⟨result, comesTo⟩ := outcome
  exact ⟨result, fun found => ⟨fun other => other.unique comesTo, fun same => same ▸ comesTo⟩⟩

/-- Calls on corresponding values, from substitutions that bind the same variables in the same
order to corresponding values, come to a single outcome each, under every setting, and the two
outcomes agree: both calls run for ever, both fail with the same failure, or both succeed with
the same variables bound in the same order to corresponding values. With equality as the
correspondence, two ways to make values of one type unifiable unify alike as soon as they
agree on what may be asked.
-/
theorem exists_corresponding_outcomes {corresponds : α → β → Prop}
    (correspondence : Correspondence corresponds) (config : Config) (left right : α)
    (left' right' : β) (start : Substitution α) (start' : Substitution β)
    (leftRelated : corresponds left left') (rightRelated : corresponds right right')
    (startRelated : start.Corresponds corresponds start')
    : ∃ result result',
        (∀ found, ComesTo config left right start found ↔ found = result)
        ∧ (∀ found, ComesTo config left' right' start' found ↔ found = result')
        ∧ RunsAgree (Substitution.Corresponds corresponds) Eq result result' := by
  obtain ⟨result, outcome⟩ := exists_comesTo config left right start
  obtain ⟨result', outcome'⟩ := exists_comesTo config left' right' start'
  refine ⟨result, result', outcome, outcome', ?_⟩
  exact correspondence.simulation.comesTo_agree startRelated ⟨leftRelated, rightRelated⟩
    ((outcome result).mpr rfl) ((outcome' result').mpr rfl)

end Call

-----------------------------------------------------------------------------------------
-- Terms depicted by symbol trees
-----------------------------------------------------------------------------------------

/-- A symbol tree depicts a term of functions: functions become identities, and a compound
claims as many fields as the term has. What a tree has beyond them is of no account.
-/
inductive Depicts : Term → SymbolTree → Prop
  | var (name : Var) : Depicts (.var name) (.var name)
  | function (name : String) : Depicts (.atom (.function ⟨name⟩)) (.identity name)
  | compound (tag : UInt8) {fields : List Term} {trees : List SymbolTree}
    (enough : fields.length ≤ trees.length)
    (each
      : ∀ (index : Nat) field tree,
          fields[index]? = some field → trees[index]? = some tree → Depicts field tree)
    : Depicts (.compound tag fields) (.compound ⟨tag, fields.length⟩ trees)

theorem Depicts.compound_append {fields : List Term} {trees : List SymbolTree} (tag : UInt8)
    (each : List.Forall₂ Depicts fields trees) (others : List SymbolTree)
    : Depicts (.compound tag fields) (.compound ⟨tag, fields.length⟩ (trees ++ others)) := by
  apply Depicts.compound tag
  · rw [List.length_append, each.length_eq]
    exact Nat.le_add_right _ _
  · intro index field tree found foundTree
    obtain ⟨below, rfl⟩ := List.getElem?_eq_some_iff.mp found
    have inTrees : index < trees.length := each.length_eq ▸ below
    rw [List.getElem?_append_left inTrees, List.getElem?_eq_getElem inTrees] at foundTree
    cases foundTree
    exact each.get below inTrees

/-- Between terms and the trees that depict them, shapes, claimed fields and objects are the
same, and there are no atoms that are compared by value.
-/
theorem depicts_correspondence : Correspondence Depicts where
  clone depicts := depicts
  shape depicts := by cases depicts <;> rfl
  field := by
    intro term tree head depicts shape index claimed
    cases depicts with
    | var | function => cases shape
    | @compound tag fields trees enough each =>
        cases shape
        have inTrees : index < trees.length := Nat.lt_of_lt_of_le claimed enough
        have found := List.getElem?_eq_getElem claimed
        have foundTree := List.getElem?_eq_getElem inTrees
        show Option.Rel Depicts fields[index]? trees[index]?
        rw [found, foundTree]
        exact .some (each index _ _ found foundTree)
  object := by
    intro left right left' right' leftDepicts rightDepicts leftShape rightShape
    cases leftDepicts with
    | var | compound => cases leftShape
    | function first =>
        cases rightDepicts with
        | var | compound => cases rightShape
        | function second =>
            show decide (FunctionRef.mk first = FunctionRef.mk second) = decide (first = second)
            simp
  value := by
    refine sameValue_eq_of_objects ?_
    intro term tree comparison depicts shape
    cases depicts <;> cases shape
    rfl

/-- Trees with more fields than they claim depict a circular binding and two terms. Where the
run on the terms binds two variables, so does the run on the trees, to depicting trees.
-/
theorem exists_corresponding_outcomes_of_trees
    : ∃ result result',
        unifyWith .unlimited
            (compound 3 [var ⟨1⟩, atom (.function ⟨"f"⟩), var ⟨2⟩])
            (compound 3 [var ⟨0⟩, atom (.function ⟨"f"⟩), compound 4 [var ⟨1⟩]])
            ⟨[(⟨0⟩, compound 4 [var ⟨0⟩])]⟩
          = some
              ⟨[.descended ⟨3, 3⟩ 0, .bound ⟨1⟩ 1, .bound ⟨2⟩ 1, .succeeded 3], .ok result⟩
        ∧ unifyWith .unlimited
            (SymbolTree.compound ⟨3, 3⟩ [.var ⟨1⟩, .identity "f", .var ⟨2⟩, .symbol "more"])
            (.compound ⟨3, 3⟩
              [.var ⟨0⟩, .identity "f", .compound ⟨4, 1⟩ [.var ⟨1⟩, .identity "g"]])
            ⟨[(⟨0⟩, .compound ⟨4, 1⟩ [.var ⟨0⟩, .var ⟨9⟩])]⟩
          = some
              ⟨[.descended ⟨3, 3⟩ 0, .bound ⟨1⟩ 1, .bound ⟨2⟩ 1, .succeeded 3], .ok result'⟩
        ∧ result.Corresponds Depicts result' := by
  have circular : Depicts (compound 4 [var ⟨0⟩]) (.compound ⟨4, 1⟩ [.var ⟨0⟩, .var ⟨9⟩]) :=
    .compound_append 4 (.cons (.var ⟨0⟩) .nil) [.var ⟨9⟩]
  have leftDepicted
      : Depicts (compound 3 [var ⟨1⟩, atom (.function ⟨"f"⟩), var ⟨2⟩])
          (.compound ⟨3, 3⟩ [.var ⟨1⟩, .identity "f", .var ⟨2⟩, .symbol "more"]) :=
    .compound_append 3 (.cons (.var ⟨1⟩) (.cons (.function "f") (.cons (.var ⟨2⟩) .nil)))
      [.symbol "more"]
  have inner : Depicts (compound 4 [var ⟨1⟩]) (.compound ⟨4, 1⟩ [.var ⟨1⟩, .identity "g"]) :=
    .compound_append 4 (.cons (.var ⟨1⟩) .nil) [.identity "g"]
  have rightDepicted
      : Depicts (compound 3 [var ⟨0⟩, atom (.function ⟨"f"⟩), compound 4 [var ⟨1⟩]])
          (.compound ⟨3, 3⟩
            [.var ⟨0⟩, .identity "f", .compound ⟨4, 1⟩ [.var ⟨1⟩, .identity "g"]]) :=
    .compound_append 3 (.cons (.var ⟨0⟩) (.cons (.function "f") (.cons inner .nil))) []
  obtain ⟨result, result', outcome, outcome', agree⟩ :=
    exists_corresponding_outcomes depicts_correspondence .unlimited _ _ _ _
      ⟨[(⟨0⟩, compound 4 [var ⟨0⟩])]⟩ ⟨[(⟨0⟩, .compound ⟨4, 1⟩ [.var ⟨0⟩, .var ⟨9⟩])]⟩
      leftDepicted rightDepicted (.cons ⟨rfl, circular⟩ .nil)
  obtain rfl := (outcome _).mp (comesTo_iff_eq_unifyWith.mpr rfl)
  obtain rfl := (outcome' _).mp (comesTo_iff_eq_unifyWith.mpr rfl)
  cases agree with
  | succeeded left right holds =>
      cases left
      cases right
      exact ⟨_, _, rfl, rfl, holds⟩
  | failed left => cases left

-----------------------------------------------------------------------------------------
-- Objects that are not their copies
-----------------------------------------------------------------------------------------

/-- A tree with variables and objects at its leaves. An object knows how many copies lie
between it and an original, and is the same object as another if they agree on that.
-/
inductive CopyTree
  | var (name : Var)
  | object (copies : Nat)
  | compound (tag : UInt8) (fields : List CopyTree)

namespace CopyTree

def shape : CopyTree → Shape
  | var name => .unknown name
  | object _ => .atomic .byObject
  | compound tag fields => .compound ⟨tag, fields.length⟩

def field? : CopyTree → Nat → Option CopyTree
  | compound _ fields, index => fields[index]?
  | _, _ => none

def sameObject : CopyTree → CopyTree → Bool
  | object first, object second => first == second
  | _, _ => false

mutual

/-- A copy has copies of all objects. -/
def copy : CopyTree → CopyTree
  | var name => var name
  | object copies => object (copies + 1)
  | compound tag fields => compound tag (copyFields fields)

/-- Copies of several trees in order. -/
def copyFields : List CopyTree → List CopyTree
  | [] => []
  | field :: rest => copy field :: copyFields rest

end

/-- No leaf is compared by value. -/
instance : Unifiable CopyTree where
  shape := shape
  field? := field?
  sameObject := sameObject
  sameValue _ _ := false
  clone := copy

/-- A tree of originals looks like the term with a function in place of the object. -/
inductive LooksLike : CopyTree → Term → Prop
  | var (name : Var) : LooksLike (.var name) (.var name)
  | original : LooksLike (object 0) (.atom (.function ⟨"p"⟩))
  | compound (tag : UInt8) {fields : List CopyTree} {terms : List Term}
    (each : List.Forall₂ LooksLike fields terms)
    : LooksLike (.compound tag fields) (.compound tag terms)

/-- Originals are all the same object, as is a function in all its places. -/
theorem looksLike_likeness : Likeness LooksLike where
  shape looks := by
    cases looks with
    | var | original => rfl
    | compound tag each =>
        show Shape.compound _ = Shape.compound _
        rw [each.length_eq]
  field := by
    intro tree term head looks shape index claimed
    cases looks with
    | var | original => cases shape
    | @compound tag fields terms each =>
        cases shape
        have inTerms : index < terms.length := each.length_eq ▸ claimed
        show Option.Rel LooksLike fields[index]? terms[index]?
        rw [List.getElem?_eq_getElem claimed, List.getElem?_eq_getElem inTerms]
        exact .some (each.get claimed inTerms)
  object := by
    intro left right left' right' leftLooks rightLooks leftShape rightShape
    cases leftLooks with
    | var | compound => cases leftShape
    | original =>
        cases rightLooks with
        | var | compound => cases rightShape
        | original => rfl
  value := by
    refine sameValue_eq_of_objects ?_
    intro tree term comparison looks shape
    cases looks <;> cases shape
    rfl

end CopyTree

/-- Where copies are other objects, values that look alike need not unify alike. A variable
stands in both fields of one compound, and one object in both fields of the other. The first
pair of fields binds the variable to a copy of the object, which is not the object that it
meets in the second pair; a function would have been met again.
-/
theorem outcomes_differ_of_copied_objects
    : Likeness CopyTree.LooksLike
      ∧ CopyTree.LooksLike (.compound 0 [.var ⟨0⟩, .var ⟨0⟩]) (compound 0 [var ⟨0⟩, var ⟨0⟩])
      ∧ CopyTree.LooksLike (.compound 0 [.object 0, .object 0])
          (compound 0 [atom (.function ⟨"p"⟩), atom (.function ⟨"p"⟩)])
      ∧ Substitution.Corresponds CopyTree.LooksLike .empty .empty
      ∧ ∃ run run',
          ComesTo .unlimited (.compound 0 [.var ⟨0⟩, .var ⟨0⟩])
            (CopyTree.compound 0 [.object 0, .object 0]) .empty (some run)
          ∧ run.answer = .error .objectsDiffer
          ∧ ComesTo .unlimited (compound 0 [var ⟨0⟩, var ⟨0⟩])
              (compound 0 [atom (.function ⟨"p"⟩), atom (.function ⟨"p"⟩)]) .empty (some run')
          ∧ run'.answer = .ok (.singleton ⟨0⟩ (atom (.function ⟨"p"⟩)))
          ∧ ¬ RunsAgree (Substitution.Corresponds CopyTree.LooksLike) Eq (some run)
              (some run') := by
  have unknowns : CopyTree.LooksLike (.compound 0 [.var ⟨0⟩, .var ⟨0⟩])
      (compound 0 [var ⟨0⟩, var ⟨0⟩]) :=
    .compound 0 (.cons (.var ⟨0⟩) (.cons (.var ⟨0⟩) .nil))
  have originals : CopyTree.LooksLike (.compound 0 [.object 0, .object 0])
      (compound 0 [atom (.function ⟨"p"⟩), atom (.function ⟨"p"⟩)]) :=
    .compound 0 (.cons .original (.cons .original .nil))
  have copied : descend .unlimited 2 0 (.compound 0 [.var ⟨0⟩, .var ⟨0⟩])
      (CopyTree.compound 0 [.object 0, .object 0]) .empty
      = some ⟨[.descended ⟨0, 2⟩ 0, .bound ⟨0⟩ 1], .error .objectsDiffer⟩ :=
    rfl
  have shared : descend .unlimited 2 0 (compound 0 [var ⟨0⟩, var ⟨0⟩])
      (compound 0 [atom (.function ⟨"p"⟩), atom (.function ⟨"p"⟩)]) .empty
      = some ⟨[.descended ⟨0, 2⟩ 0, .bound ⟨0⟩ 1],
          .ok (.singleton ⟨0⟩ (atom (.function ⟨"p"⟩)))⟩ :=
    rfl
  refine ⟨CopyTree.looksLike_likeness, unknowns, originals, .nil, _, _, .result copied, rfl,
    .result shared, rfl, ?_⟩
  intro agree
  cases agree with
  | succeeded left => cases left
  | failed _ right => cases right

end Unification
