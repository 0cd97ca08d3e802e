import Mathlib.Data.Set.Card
import Unification.Proofs.Bindings
import Unification.Proofs.VariableClasses

/-! Counting the classes of variables that have no value. A binding leads to a substitution
that is alike, or it gives a value to one of these classes or joins two of them, so that
fewer are left. No more of them have members among given values than there are values, which
bounds how often a run can change what its variables stand for.
-/

namespace Unification

open Relation
open Unifiable (shape)

namespace Substitution

variable {α : Type} [Unifiable α] {terms : List α} {start later : Substitution α}

/-- The variables in the class of a variable. -/
def classOf (substitution : Substitution α) (name : Var) : Set Var :=
  {member | substitution.Linked name member}

theorem classOf_eq_iff {name other : Var}
    : start.classOf name = start.classOf other ↔ start.Linked name other := by
  have equivalence := linked_equivalence start
  constructor
  · intro same
    have member : other ∈ start.classOf other := equivalence.refl other
    rwa [← same] at member
  · intro linked
    ext member
    exact ⟨equivalence.trans (equivalence.symm linked), equivalence.trans linked⟩

/-- The classes without value that have a member among the given values. -/
def openClasses (terms : List α) (substitution : Substitution α) : Set (Set Var) :=
  {members |
    ∃ value ∈ terms, ∃ name,
      shape value = .unknown name
      ∧ ¬ Known (substitution.walk value)
      ∧ substitution.classOf name = members}

/-- How many classes among the given values are without value. -/
noncomputable def openCount (terms : List α) (substitution : Substitution α) : Nat :=
  (substitution.openClasses terms).ncard

/-- Each open class is that of one of the given values. -/
theorem openClasses_subset (terms : List α) (substitution : Substitution α)
    : ∃ classes : List (Set Var),
        classes.length ≤ terms.length
        ∧ substitution.openClasses terms ⊆ {members | members ∈ classes} := by
  let shown (value : α) : Set Var :=
    {member | ∃ name, shape value = .unknown name ∧ substitution.Linked name member}
  refine ⟨terms.map shown, Nat.le_of_eq (List.length_map shown), ?_⟩
  rintro members ⟨value, member, name, valueShape, _, rfl⟩
  refine List.mem_map.mpr ⟨value, member, ?_⟩
  ext last
  constructor
  · rintro ⟨other, otherShape, linked⟩
    exact Shape.unknown.inj (valueShape.symm.trans otherShape) ▸ linked
  · exact fun linked => ⟨name, valueShape, linked⟩

theorem openClasses_finite (terms : List α) (substitution : Substitution α)
    : (substitution.openClasses terms).Finite := by
  obtain ⟨classes, _, included⟩ := openClasses_subset terms substitution
  exact classes.finite_toSet.subset included

theorem openCount_le_length (terms : List α) (substitution : Substitution α)
    : substitution.openCount terms ≤ terms.length := by
  classical
  obtain ⟨classes, short, included⟩ := openClasses_subset terms substitution
  calc substitution.openCount terms
      ≤ {members | members ∈ classes}.ncard := Set.ncard_le_ncard included classes.finite_toSet
    _ = classes.toFinset.card := by rw [← Set.ncard_coe_finset, List.coe_toFinset]
    _ ≤ classes.length := List.toFinset_card_le classes
    _ ≤ terms.length := short

theorem Alike.openClasses_eq (alike : start.Alike later) (terms : List α)
    : start.openClasses terms = later.openClasses terms := by
  have sameClass (name : Var) : start.classOf name = later.classOf name := by
    ext member
    exact alike.linked name member
  have sameKnown (value : α) : Known (start.walk value) ↔ Known (later.walk value) := by
    constructor
    · intro known
      rwa [(alike.valued value _ known).mp rfl]
    · intro known
      rwa [(alike.valued value _ known).mpr rfl]
  simp only [openClasses, sameClass, sameKnown]

theorem Alike.openCount_eq (alike : start.Alike later) (terms : List α)
    : start.openCount terms = later.openCount terms :=
  congrArg Set.ncard (alike.openClasses_eq terms)

/-- The class of a loose variable is open when one of the given values shows it. -/
theorem Loose.classOf_mem_openClasses {value : α} {name : Var} (loose : start.Loose name)
    (valueShape : shape value = .unknown name) (given : value ∈ terms)
    : start.classOf name ∈ start.openClasses terms :=
  ⟨value, given, name, valueShape,
    loose.not_known_of_hops valueShape (walk_reaches start value), rfl⟩

/-- The variables that a substitution links with one of the given variables. -/
def linkedWith (substitution : Substitution α) (members : Set Var) : Set Var :=
  {last | ∃ member ∈ members, substitution.Linked member last}

section Extend

variable {name : Var} {value : α}

/-- After a binding a class is what it was, with all that is linked to it now. -/
theorem Loose.linkedWith_classOf (loose : start.Loose name) (member : Var)
    : (start.extend name value).linkedWith (start.classOf member)
      = (start.extend name value).classOf member := by
  have equivalence := linked_equivalence (start.extend name value)
  ext last
  constructor
  · rintro ⟨earlier, within, link⟩
    exact equivalence.trans (loose.linked_extend within) link
  · intro link
    exact ⟨member, (linked_equivalence start).refl member, link⟩

/-- The classes that are open after a binding come from those that were open before, without
that of the bound variable. It has a value now, or it is part of the class of another
variable.
-/
theorem Loose.openClasses_extend_subset (loose : start.Loose name) (root : start.IsRoot value)
    (given : value ∈ terms)
    (separate : ∀ shown, shape value = .unknown shown → ¬ start.Linked name shown)
    : (start.extend name value).openClasses terms
      ⊆ (start.extend name value).linkedWith ''
          (start.openClasses terms \ {start.classOf name}) := by
  rintro _ ⟨first, firstGiven, member, firstShape, unknown, rfl⟩
  by_cases within : start.Linked member name
  · have valueUnknown : ¬ Known value := by
      intro known
      rw [(loose.walk_extend_eq_iff root known).mpr
        (.inr ⟨rfl, member, firstShape, within⟩)] at unknown
      exact unknown known
    obtain ⟨shown, valueShape⟩ := exists_unknown_of_not_known valueUnknown
    refine ⟨start.classOf shown, ⟨?_, ?_⟩, ?_⟩
    · exact (root shown valueShape).classOf_mem_openClasses valueShape given
    · intro same
      exact separate shown valueShape (classOf_eq_iff.mp (Set.mem_singleton_iff.mp same).symm)
    · have equivalence := linked_equivalence (start.extend name value)
      rw [loose.linkedWith_classOf, classOf_eq_iff]
      exact equivalence.symm
        (equivalence.trans (loose.linked_extend within) (linked_extend_self valueShape))
  · have stillOpen : ¬ Known (start.walk first) := by
      intro known
      rw [(loose.walk_extend_eq_iff root known).mpr (.inl rfl)] at unknown
      exact unknown known
    refine ⟨start.classOf member, ⟨?_, ?_⟩, loose.linkedWith_classOf member⟩
    · exact ⟨first, firstGiven, member, firstShape, stillOpen, rfl⟩
    · exact fun same => within (classOf_eq_iff.mp (Set.mem_singleton_iff.mp same))

/-- A binding of a loose variable outside its class leaves fewer classes open. -/
theorem Loose.openCount_extend_lt (loose : start.Loose name) (root : start.IsRoot value)
    {target : α} (targetShape : shape target = .unknown name) (targetGiven : target ∈ terms)
    (valueGiven : value ∈ terms)
    (separate : ∀ shown, shape value = .unknown shown → ¬ start.Linked name shown)
    : (start.extend name value).openCount terms < start.openCount terms := by
  have finite := openClasses_finite terms start
  have included := loose.openClasses_extend_subset root valueGiven separate
  have nameOpen := loose.classOf_mem_openClasses targetShape targetGiven
  calc (start.extend name value).openCount terms
      ≤ ((start.extend name value).linkedWith ''
          (start.openClasses terms \ {start.classOf name})).ncard :=
        Set.ncard_le_ncard included (finite.sdiff.image _)
    _ ≤ (start.openClasses terms \ {start.classOf name}).ncard :=
        Set.ncard_image_le finite.sdiff
    _ < start.openCount terms := Set.ncard_sdiff_singleton_lt_of_mem nameOpen finite

end Extend

/-- A binding leads to a substitution that is alike, or it leaves fewer classes open. -/
theorem Binds.alike_or_openCount_lt (step : Binds (· ∈ terms) start later)
    : start.Alike later ∨ later.openCount terms < start.openCount terms := by
  cases step with
  | @bind _ value name targetShape loose root _ targetGiven valueGiven =>
      by_cases within : ∃ shown, shape value = .unknown shown ∧ start.Linked name shown
      · obtain ⟨shown, valueShape, linked⟩ := within
        exact .inl (.extend_self loose valueShape (root shown valueShape) linked)
      · refine .inr (loose.openCount_extend_lt root targetShape targetGiven valueGiven ?_)
        exact fun shown valueShape linked => within ⟨shown, valueShape, linked⟩

/-- A sequence of bindings leads to a substitution that is alike, or it leaves fewer classes
open, by induction on the sequence.
-/
theorem alike_or_openCount_lt_of_binds (steps : ReflTransGen (Binds (· ∈ terms)) start later)
    : start.Alike later ∨ later.openCount terms < start.openCount terms := by
  induction steps with
  | refl => exact .inl (.refl start)
  | tail _ step ih =>
      rcases ih with alike | fewer
      all_goals rcases step.alike_or_openCount_lt with next | less
      · exact .inl (alike.trans next)
      · exact .inr (by rwa [alike.openCount_eq terms])
      · exact .inr (by rwa [← next.openCount_eq terms])
      · exact .inr (less.trans fewer)

end Substitution

end Unification
