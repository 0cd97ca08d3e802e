import Unification.Proofs.Solution

/-! Several pairs unified in order, each from the result of the one before. What a successful
call keeps, the whole sequence keeps, so the final substitution still settles every pair.
-/

namespace Unification

variable {α : Type} [FinitelyBuilt α] {config : Config}

/-- Several pairs succeed when the first one does and the others do from its result. -/
theorem unifyManyWith_cons_ok {left right : α} {rest : List (α × α)}
    {start result : Substitution α} {run : Run α}
    (found : unifyManyWith config ((left, right) :: rest) start = some run)
    (succeeded : run.answer = .ok result)
    : ∃ first middle later,
        unifyWith config left right start = some first
        ∧ first.answer = .ok middle
        ∧ unifyManyWith config rest middle = some later
        ∧ later.answer = .ok result :=
  exists_of_bind_andThen found succeeded

/-- Pairs unified in order lead from the start to the result by one call after the other. -/
theorem growsInto_of_unifyManyWith {pairs : List (α × α)} {start result : Substitution α}
    {run : Run α} (found : unifyManyWith config pairs start = some run)
    (succeeded : run.answer = .ok result)
    : start.GrowsInto result := by
  induction pairs generalizing start run with
  | nil =>
      cases found
      cases succeeded
      exact .refl
  | cons pair rest ih =>
      obtain ⟨first, middle, later, firstFound, reached, laterFound, final⟩ :=
        unifyManyWith_cons_ok found succeeded
      have call : start.Precedes middle :=
        ⟨config, pair.1, pair.2, first, firstFound, reached⟩
      exact .head call (ih laterFound final)

/-- Pairs unified in order keep all active bindings and close no cycle of variables. -/
theorem unifyManyWith_growth {pairs : List (α × α)} {start result : Substitution α}
    {run : Run α} (found : unifyManyWith config pairs start = some run)
    (succeeded : run.answer = .ok result) (acyclic : start.ChainAcyclic)
    : start.ExtendedBy result ∧ result.ChainAcyclic :=
  (growsInto_of_unifyManyWith found succeeded).growth acyclic

/-- A property that passes to fields holds of all values bound on the way. -/
theorem unifyManyWith_allBound {property : α → Prop} (hereditary : Hereditary property)
    {pairs : List (α × α)} {start result : Substitution α} {run : Run α}
    (found : unifyManyWith config pairs start = some run)
    (succeeded : run.answer = .ok result) (all : start.AllBound property)
    (within : ∀ pair ∈ pairs, property pair.1 ∧ property pair.2)
    : result.AllBound property := by
  induction pairs generalizing start run with
  | nil =>
      cases found
      cases succeeded
      exact all
  | cons pair rest ih =>
      obtain ⟨_, middle, later, firstFound, reached, laterFound, final⟩ :=
        unifyManyWith_cons_ok found succeeded
      obtain ⟨inner, settled, rfl⟩ := unifyWith_settles firstFound
      obtain ⟨first, others⟩ := List.forall_mem_cons.mp within
      exact ih laterFound final (settled.allBound hereditary reached all first) others

/-- A composing relation that satisfies the final substitution relates the sides of every
pair, by induction on the pairs: the bindings that settled a pair are there at the end.
-/
theorem unifyManyWith_holds {related : α → α → Prop} (composing : Composing related)
    {pairs : List (α × α)} {start result : Substitution α} {run : Run α}
    (found : unifyManyWith config pairs start = some run)
    (succeeded : run.answer = .ok result) (acyclic : start.ChainAcyclic)
    (satisfied : result.SatisfiedBy related)
    : ∀ pair ∈ pairs, related pair.1 pair.2 := by
  induction pairs generalizing start run with
  | nil => simp
  | cons pair rest ih =>
      obtain ⟨_, middle, later, firstFound, reached, laterFound, final⟩ :=
        unifyManyWith_cons_ok found succeeded
      obtain ⟨inner, settled, rfl⟩ := unifyWith_settles firstFound
      have grown := settled.growth reached acyclic trivial
      have extended := (unifyManyWith_growth laterFound final grown.2).1
      refine List.forall_mem_cons.mpr ⟨?_, ih laterFound final grown.2⟩
      exact settled.holds composing reached trivial extended satisfied

/-- A discerning relation that satisfies the start and relates the sides of every pair
satisfies the final substitution, by induction on the pairs.
-/
theorem unifyManyWith_satisfied {related : α → α → Prop} (discerning : Discerning related)
    {pairs : List (α × α)} {start result : Substitution α} {run : Run α}
    (found : unifyManyWith config pairs start = some run)
    (succeeded : run.answer = .ok result) (satisfied : start.SatisfiedBy related)
    (holds : ∀ pair ∈ pairs, related pair.1 pair.2)
    : result.SatisfiedBy related := by
  induction pairs generalizing start run with
  | nil =>
      cases found
      cases succeeded
      exact satisfied
  | cons pair rest ih =>
      obtain ⟨_, middle, later, firstFound, reached, laterFound, final⟩ :=
        unifyManyWith_cons_ok found succeeded
      obtain ⟨inner, settled, rfl⟩ := unifyWith_settles firstFound
      obtain ⟨here, others⟩ := List.forall_mem_cons.mp holds
      have middleSatisfied := (settled.keeps discerning satisfied here).success _ reached
      exact ih laterFound final middleSatisfied others

end Unification
