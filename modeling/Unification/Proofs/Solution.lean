import Unification.Proofs.Bindings
import Unification.Proofs.ValueEquality
import Unification.Term.Unifiable

/-! Solutions as relations between values, and what a run has to do with them. A relation
that is built up from the bindings of the final substitution relates both sides of
everything that has been unified; and a relation that can be taken apart, such as equality
under an assignment of the variables, is respected by every binding and refuted by every
mismatch.
-/

namespace Unification

open Relation
open Unifiable (shape field?)

variable {α : Type} [Unifiable α]

/-- A relation holds of a goal when it relates its two values. Of fields it holds when they
are all there and related pairwise.
-/
def Goal.Holds (related : α → α → Prop) : Goal α → Prop
  | .pair left right => related left right
  | .roots left right => related left right
  | .fields _ left right remaining index =>
      ∀ position, index ≤ position → position < index + remaining →
        ∃ first second,
          field? left position = some first
          ∧ field? right position = some second
          ∧ related first second

theorem Goal.Holds.field {related : α → α → Prop} {head : Head} {left right first second : α}
    {remaining index position : Nat}
    (holds : (Goal.fields head left right remaining index).Holds related)
    (least : index ≤ position) (most : position < index + remaining)
    (leftField : field? left position = some first)
    (rightField : field? right position = some second)
    : related first second := by
  obtain ⟨other, another, leftFound, rightFound, related⟩ := holds position least most
  rw [Option.some.inj (leftField.symm.trans leftFound),
    Option.some.inj (rightField.symm.trans rightFound)]
  exact related

theorem Goal.Holds.rest {related : α → α → Prop} {head : Head} {left right : α}
    {remaining index : Nat}
    (holds : (Goal.fields head left right (remaining + 1) index).Holds related)
    : (Goal.fields head left right remaining (index + 1)).Holds related :=
  fun position least most => holds position (by omega) (by omega)

/-- A relation satisfies a substitution when it relates each variable to the value that it
is bound to.
-/
def Substitution.SatisfiedBy (related : α → α → Prop) (substitution : Substitution α)
    : Prop :=
  ∀ value bound, substitution.hop? value = some bound → related value bound

theorem Substitution.satisfiedBy_empty (related : α → α → Prop)
    : (empty : Substitution α).SatisfiedBy related := by
  intro value bound hop
  obtain ⟨name, _, found⟩ := hop?_eq_some_iff.mp hop
  simp at found

/-- A relation that is symmetric and transitive. It need not relate a value to itself. -/
structure PartialEquivalence (related : α → α → Prop) : Prop where
  symm : ∀ {left right}, related left right → related right left
  trans : ∀ {first second third}, related first second → related second third
    → related first third

/-- A partial equivalence that relates whatever is built alike from related values. -/
structure Composing (related : α → α → Prop) : Prop extends PartialEquivalence related where
  unknown : ∀ {left right name}, shape left = .unknown name → shape right = .unknown name
    → related left right
  compound : ∀ {left right head}, shape left = .compound head
    → shape right = .compound head
    → (Goal.fields head left right head.arity 0).Holds related
    → related left right
  matching : ∀ {left right}, Matches left right → related left right

/-- A partial equivalence that relates no two roots that clash, and of two compounds only
such as have related fields. A variable stands for all values that show it.
-/
structure Discerning (related : α → α → Prop) : Prop extends PartialEquivalence related where
  unknown : ∀ {left other right name}, shape left = .unknown name
    → shape other = .unknown name → related left right → related other right
  noClash : ∀ {left right failure}, Clash left right failure → ¬ related left right
  fields : ∀ {left right head}, shape left = .compound head → shape right = .compound head
    → related left right
    → (Goal.fields head left right head.arity 0).Holds related

theorem PartialEquivalence.iff_of_hops {related : α → α → Prop}
    (equivalence : PartialEquivalence related) {substitution : Substitution α}
    (satisfied : substitution.SatisfiedBy related) {value root other : α}
    (path : ReflTransGen substitution.Hops value root)
    : related value other ↔ related root other := by
  induction path with
  | refl => rfl
  | tail _ hop ih =>
      have step := satisfied _ _ hop
      exact ih.trans ⟨equivalence.trans (equivalence.symm step), equivalence.trans step⟩

/-- Two values are related exactly when their roots are. -/
theorem PartialEquivalence.iff_walk {related : α → α → Prop}
    (equivalence : PartialEquivalence related) {substitution : Substitution α}
    (satisfied : substitution.SatisfiedBy related) (left right : α)
    : related left right ↔ related (substitution.walk left) (substitution.walk right) := by
  have commutes (first second : α) : related first second ↔ related second first :=
    ⟨equivalence.symm, equivalence.symm⟩
  rw [equivalence.iff_of_hops satisfied (Substitution.walk_reaches substitution left),
    commutes,
    equivalence.iff_of_hops satisfied (Substitution.walk_reaches substitution right),
    commutes]

-----------------------------------------------------------------------------------------
-- What has been unified is related
-----------------------------------------------------------------------------------------

theorem Substitution.SatisfiedBy.of_extended {related : α → α → Prop}
    {earlier later : Substitution α} (extended : earlier.ExtendedBy later)
    (satisfied : later.SatisfiedBy related)
    : earlier.SatisfiedBy related :=
  fun value bound hop => satisfied value bound (extended.hop? hop)

/-- What a composing relation satisfies after the binding of a loose variable, it satisfied
before. If the binding redirects a variable on a cycle, the rest of the cycle still relates
the variable to the value that it was bound to.
-/
theorem Substitution.Loose.satisfiedBy_of_extend {related : α → α → Prop}
    {start : Substitution α} {name : Var} {value : α} (loose : start.Loose name)
    (composing : Composing related)
    (satisfied : (start.extend name value).SatisfiedBy related)
    : start.SatisfiedBy related := by
  have elsewhere {origin bound : α} {first : Var} (originShape : shape origin = .unknown first)
      (found : start.lookup? first = some bound) (other : name ≠ first)
      : related origin bound := by
    apply satisfied
    rw [hop?_of_unknown originShape, lookup?_extend, if_neg other, found]
  -- along the rest of a cycle to the variable, all values are related to it
  have along {first : Var} (path : ReflTransGen start.Aliases first name) {origin last : α}
      (originShape : shape origin = .unknown first) (lastShape : shape last = .unknown name)
      : related origin last := by
    induction path using ReflTransGen.head_induction_on generalizing origin with
    | refl => exact composing.unknown originShape lastShape
    | @head first _ link _ ih =>
        by_cases same : name = first
        · exact composing.unknown originShape (same ▸ lastShape)
        · obtain ⟨bound, found, boundShape⟩ := link
          exact composing.trans (elsewhere originShape found same) (ih boundShape)
  intro origin bound hop
  obtain ⟨first, originShape, found⟩ := hop?_eq_some_iff.mp hop
  by_cases same : name = first
  · subst same
    rcases loose with unbound | cycle
    · simp [unbound] at found
    · obtain ⟨next, ⟨other, again, otherShape⟩, back⟩ := TransGen.head'_iff.mp cycle
      obtain rfl := Option.some.inj (again.symm.trans found)
      exact composing.symm (along back otherShape originShape)
  · exact elsewhere originShape found same

theorem Substitution.hop?_extend_self {start : Substitution α} {value bound : α} {name : Var}
    (valueShape : shape value = .unknown name)
    : (start.extend name bound).hop? value = some bound :=
  (hop?_of_unknown valueShape).trans (lookup?_extend_self start name bound)

/-- A composing relation that satisfies the result of a run holds of its goal and satisfied
the start, also where variables are bound to each other in cycles there. By induction on the
derivation, from the last binding back to the first.
-/
theorem Settles.holds_of_result [LawfulClone α] {related : α → α → Prop}
    (composing : Composing related) {config : Config} {goal : Goal α} {depth : Nat}
    {start result : Substitution α} {run : Run α}
    (settled : Settles config goal depth start run) (succeeded : run.answer = .ok result)
    (rooted : goal.AtRoots start) (satisfied : result.SatisfiedBy related)
    : goal.Holds related ∧ start.SatisfiedBy related := by
  induction settled generalizing result with
  | refused | clashed | lacking => cases succeeded
  | walked _ _ ih =>
      obtain ⟨holds, startSatisfied⟩ := ih succeeded
        ⟨Substitution.isRoot_walk _ _, Substitution.isRoot_walk _ _⟩ satisfied
      exact ⟨(composing.iff_walk startSatisfied _ _).mpr holds, startSatisfied⟩
  | same leftShape rightShape =>
      cases succeeded
      exact ⟨composing.unknown leftShape rightShape, satisfied⟩
  | boundLeft leftShape =>
      cases succeeded
      rw [LawfulClone.clone_eq] at satisfied
      have holds := satisfied _ _ (Substitution.hop?_extend_self leftShape)
      exact ⟨holds, (rooted.1 _ leftShape).satisfiedBy_of_extend composing satisfied⟩
  | boundRight _ rightShape =>
      cases succeeded
      rw [LawfulClone.clone_eq] at satisfied
      have holds := satisfied _ _ (Substitution.hop?_extend_self rightShape)
      exact ⟨composing.symm holds,
        (rooted.2 _ rightShape).satisfiedBy_of_extend composing satisfied⟩
  | descended leftShape rightShape _ ih =>
      obtain ⟨holds, startSatisfied⟩ := ih succeeded trivial satisfied
      exact ⟨composing.compound leftShape rightShape holds, startSatisfied⟩
  | matched matching =>
      cases succeeded
      exact ⟨composing.matching matching, satisfied⟩
  | finished =>
      cases succeeded
      exact ⟨fun position least most => by omega, satisfied⟩
  | stopped _ _ _ failed => simp [failed] at succeeded
  | advanced leftField rightField _ reached _ pairIH restIH =>
      obtain ⟨beyond, middleSatisfied⟩ := restIH succeeded trivial satisfied
      obtain ⟨atIndex, startSatisfied⟩ := pairIH reached trivial middleSatisfied
      refine ⟨?_, startSatisfied⟩
      intro position least most
      rcases Nat.eq_or_lt_of_le least with rfl | further
      · exact ⟨_, _, leftField, rightField, atIndex⟩
      · exact beyond position further (by omega)

/-- A composing relation that satisfies a later substitution holds of every goal that a run
has settled on the way there, since the later substitution has the bindings of the result.
-/
theorem Settles.holds [LawfulClone α] {related : α → α → Prop} (composing : Composing related)
    {config : Config} {goal : Goal α} {depth : Nat} {start result later : Substitution α}
    {run : Run α} (settled : Settles config goal depth start run)
    (succeeded : run.answer = .ok result) (rooted : goal.AtRoots start)
    (extended : result.ExtendedBy later) (satisfied : later.SatisfiedBy related)
    : goal.Holds related :=
  (settled.holds_of_result composing succeeded rooted (satisfied.of_extended extended)).1

-----------------------------------------------------------------------------------------
-- What is related unifies
-----------------------------------------------------------------------------------------

/-- The result of a run keeps a relation: a success is satisfied by it, and a failure is
the refusal of a depth.
-/
structure Run.Keeps (related : α → α → Prop) (config : Config) (run : Run α) : Prop where
  success : ∀ result, run.answer = .ok result → result.SatisfiedBy related
  failure : ∀ failure, run.answer = .error failure
    → ∃ limit, config.maxDepth = some limit ∧ failure = .tooDeep limit

theorem Run.keeps_of_ok {related : α → α → Prop} {config : Config} {run : Run α}
    {result : Substitution α} (succeeded : run.answer = .ok result)
    (satisfied : result.SatisfiedBy related)
    : run.Keeps related config where
  success other again := by
    rw [succeeded] at again
    cases again
    exact satisfied
  failure failure failed := by simp [succeeded] at failed

theorem Discerning.satisfied_extend {related : α → α → Prop}
    (discerning : Discerning related) {start : Substitution α}
    (satisfied : start.SatisfiedBy related) {name : Var} {value bound : α}
    (valueShape : shape value = .unknown name) (holds : related value bound)
    : (start.extend name bound).SatisfiedBy related := by
  intro other target hop
  obtain ⟨otherName, otherShape, found⟩ := Substitution.hop?_eq_some_iff.mp hop
  rw [Substitution.lookup?_extend] at found
  split at found
  next same =>
    subst same
    exact Option.some.inj found ▸ discerning.unknown valueShape otherShape holds
  next => exact satisfied _ _ ((Substitution.hop?_of_unknown otherShape).trans found)

/-- A discerning relation that satisfies the start and holds of the goal is kept by the run,
by induction on the derivation: each binding is made between related roots, and related
roots do not clash. Cycles in the start do no harm, since hops lead between related values.
-/
theorem Settles.keeps [LawfulClone α] {related : α → α → Prop}
    (discerning : Discerning related) {config : Config} {goal : Goal α} {depth : Nat}
    {start : Substitution α} {run : Run α} (settled : Settles config goal depth start run)
    (satisfied : start.SatisfiedBy related) (holds : goal.Holds related)
    : run.Keeps related config := by
  induction settled with
  | refused refusal =>
      obtain ⟨limit, limited, _, same⟩ := Config.refusal?_eq_some refusal
      exact ⟨nofun, fun failure failed => ⟨limit, limited, by cases failed; exact same⟩⟩
  | walked _ _ ih => exact ih satisfied ((discerning.iff_walk satisfied _ _).mp holds)
  | same | matched | finished => exact Run.keeps_of_ok rfl satisfied
  | boundLeft leftShape =>
      rw [LawfulClone.clone_eq]
      exact Run.keeps_of_ok rfl (discerning.satisfied_extend satisfied leftShape holds)
  | boundRight _ rightShape =>
      rw [LawfulClone.clone_eq]
      exact Run.keeps_of_ok rfl
        (discerning.satisfied_extend satisfied rightShape (discerning.symm holds))
  | descended leftShape rightShape _ ih =>
      have kept := ih satisfied (discerning.fields leftShape rightShape holds)
      exact ⟨kept.success, kept.failure⟩
  | clashed clash => exact (discerning.noClash clash holds).elim
  | lacking absent =>
      obtain ⟨first, second, leftField, rightField, _⟩ := holds _ (Nat.le_refl _) (by omega)
      simp [leftField, rightField] at absent
  | stopped leftField rightField _ _ ih =>
      exact ih satisfied (holds.field (Nat.le_refl _) (by omega) leftField rightField)
  | advanced leftField rightField _ reached _ pairIH restIH =>
      have atIndex := holds.field (Nat.le_refl _) (by omega) leftField rightField
      have middle := (pairIH satisfied atIndex).success _ reached
      have kept := restIH middle holds.rest
      exact ⟨kept.success, kept.failure⟩

-----------------------------------------------------------------------------------------
-- Relations between terms
-----------------------------------------------------------------------------------------

namespace Term

/-- Atoms and suspended values, at which terms end without a variable. -/
def IsLeaf (term : Term) : Prop :=
  ∃ comparison, term.shape = .atomic comparison

theorem IsLeaf.eq_atom_or_lazy {term : Term} (leaf : term.IsLeaf)
    : (∃ value, term = atom value) ∨ ∃ contents, term = lazy contents := by
  obtain ⟨comparison, shape⟩ := leaf
  cases term with
  | atom value => exact .inl ⟨value, rfl⟩
  | lazy contents => exact .inr ⟨contents, rfl⟩
  | var _ | compound _ _ => cases shape

theorem eq_var_of_shape {term : Term} {name : Var} (shape : term.shape = .unknown name)
    : term = var name := by
  cases term <;> cases shape
  rfl

theorem eq_compound_of_shape {term : Term} {head : Head} (shape : term.shape = .compound head)
    : ∃ fields, term = compound head.tag fields ∧ head.arity = fields.length := by
  cases term with
  | compound tag fields =>
      cases shape
      exact ⟨fields, rfl, rfl⟩
  | var _ | atom _ | lazy _ => cases shape

theorem sameObject_eq_sameValue {left right : Term} (leftShape : left.shape = .atomic .byObject)
    (rightShape : right.shape = .atomic .byObject)
    : left.sameObject right = left.sameValue right := by
  cases left <;> simp only [Term.shape, reduceCtorEq, Shape.atomic.injEq] at leftShape
  cases right <;> simp only [Term.shape, reduceCtorEq, Shape.atomic.injEq] at rightShape
  next left right =>
    cases left <;> simp only [Atom.comparison, reduceCtorEq] at leftShape
    cases right <;> simp only [Atom.comparison, reduceCtorEq] at rightShape
    rfl

end Term

/-- Terms that are variables are those from which hops start. -/
theorem Substitution.satisfiedBy_iff_lookup? {related : Term → Term → Prop}
    {substitution : Substitution Term}
    : substitution.SatisfiedBy related
      ↔ ∀ name bound,
          substitution.lookup? name = some bound → related (.var name) bound := by
  constructor
  · exact fun satisfied name bound found => satisfied (.var name) bound found
  · intro satisfied term bound hop
    obtain ⟨name, shape, found⟩ := Substitution.hop?_eq_some_iff.mp hop
    exact Term.eq_var_of_shape shape ▸ satisfied name bound found

/-- Between terms, a relation composes when it relates each variable to itself, equal
leaves, and compounds with the same tag and pairwise related fields.
-/
theorem PartialEquivalence.composing_of_terms {related : Term → Term → Prop}
    (equivalence : PartialEquivalence related) (var : ∀ name, related (.var name) (.var name))
    (leaf
      : ∀ left right, left.IsLeaf → right.IsLeaf → left.sameValue right = true
          → related left right)
    (compound
      : ∀ tag (left right : List Term),
          left.length = right.length
          → (∀ (index : Nat) first second,
              left[index]? = some first → right[index]? = some second → related first second)
          → related (.compound tag left) (.compound tag right))
    : Composing related where
  toPartialEquivalence := equivalence
  unknown leftShape rightShape := by
    rw [Term.eq_var_of_shape leftShape, Term.eq_var_of_shape rightShape]
    exact var _
  compound leftShape rightShape holds := by
    obtain ⟨left, rfl, leftLength⟩ := Term.eq_compound_of_shape leftShape
    obtain ⟨right, rfl, rightLength⟩ := Term.eq_compound_of_shape rightShape
    refine compound _ left right (leftLength.symm.trans rightLength) ?_
    intro index first second leftField rightField
    obtain ⟨below, _⟩ := List.getElem?_eq_some_iff.mp leftField
    exact Goal.Holds.field holds (Nat.zero_le index) (by omega) leftField rightField
  matching matching := by
    cases matching with
    | object leftShape rightShape same =>
        exact leaf _ _ ⟨_, leftShape⟩ ⟨_, rightShape⟩
          ((Term.sameObject_eq_sameValue leftShape rightShape).symm.trans same)
    | value leftShape rightShape _ same => exact leaf _ _ ⟨_, leftShape⟩ ⟨_, rightShape⟩ same

/-- Between terms, a relation discerns when it relates leaves only to equal leaves, and
compounds only to compounds with the same tag and pairwise related fields.
-/
theorem PartialEquivalence.discerning_of_terms {related : Term → Term → Prop}
    (equivalence : PartialEquivalence related)
    (leaf
      : ∀ left right, left.IsLeaf → right.IsLeaf → related left right
          → left.sameValue right = true)
    (mixed : ∀ tag fields leaf, leaf.IsLeaf → ¬ related (.compound tag fields) leaf)
    (compound
      : ∀ tag other (left right : List Term),
          related (.compound tag left) (.compound other right)
          → tag = other
            ∧ left.length = right.length
            ∧ ∀ (index : Nat) first second,
                left[index]? = some first → right[index]? = some second
                → related first second)
    : Discerning related where
  toPartialEquivalence := equivalence
  unknown leftShape otherShape holds := by
    rw [Term.eq_var_of_shape otherShape]
    exact Term.eq_var_of_shape leftShape ▸ holds
  noClash clash holds := by
    cases clash with
    | @heads first second leftShape rightShape different =>
        obtain ⟨left, rfl, leftLength⟩ := Term.eq_compound_of_shape leftShape
        obtain ⟨right, rfl, rightLength⟩ := Term.eq_compound_of_shape rightShape
        obtain ⟨sameTag, sameLength, _⟩ := compound _ _ _ _ holds
        apply different
        cases first
        cases second
        rw [Head.mk.injEq]
        exact ⟨sameTag, leftLength.trans (sameLength.trans rightLength.symm)⟩
    | objects leftShape rightShape different =>
        have same := leaf _ _ ⟨_, leftShape⟩ ⟨_, rightShape⟩ holds
        rw [← Term.sameObject_eq_sameValue leftShape rightShape] at same
        exact Bool.false_ne_true (different.symm.trans same)
    | values leftShape rightShape _ different =>
        have same := leaf _ _ ⟨_, leftShape⟩ ⟨_, rightShape⟩ holds
        exact Bool.false_ne_true (different.symm.trans same)
    | compoundAtom leftShape rightShape =>
        obtain ⟨fields, rfl, _⟩ := Term.eq_compound_of_shape leftShape
        exact mixed _ fields _ ⟨_, rightShape⟩ holds
    | atomCompound leftShape rightShape =>
        obtain ⟨fields, rfl, _⟩ := Term.eq_compound_of_shape rightShape
        exact mixed _ fields _ ⟨_, leftShape⟩ (equivalence.symm holds)
  fields leftShape rightShape holds := by
    obtain ⟨left, rfl, leftLength⟩ := Term.eq_compound_of_shape leftShape
    obtain ⟨right, rfl, rightLength⟩ := Term.eq_compound_of_shape rightShape
    obtain ⟨_, _, each⟩ := compound _ _ _ _ holds
    intro position _ most
    have leftField := List.getElem?_eq_getElem (l := left) (i := position) (by omega)
    have rightField := List.getElem?_eq_getElem (l := right) (i := position) (by omega)
    exact ⟨_, _, leftField, rightField, each position _ _ leftField rightField⟩

end Unification
