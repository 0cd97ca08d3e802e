import Mathlib.Logic.Relation
import Unification.Substitution.Walk

/-! Chains of bindings. Where no variable leads back to itself, a chain passes every bound
variable at most once, so as many hops as there are bindings bring a walk to its end. The
end is a value at which no hop starts, and a chain has only one. In general a walk comes to
the end of its chain if there is one, and else to a cycle of variables, which it never
leaves.
-/

namespace Unification

/-- A value that is no variable. -/
abbrev Known {α : Type} [Unifiable α] (value : α) : Prop :=
  ∀ name, Unifiable.shape value ≠ .unknown name

theorem exists_unknown_of_not_known {α : Type} [Unifiable α] {value : α}
    (unknown : ¬ Known value)
    : ∃ name, Unifiable.shape value = .unknown name :=
  Classical.not_forall_not.mp unknown

namespace Substitution

open Relation

-----------------------------------------------------------------------------------------
-- Trails of variables, and the budget of steps that the bindings allow
-----------------------------------------------------------------------------------------

section Trail

variable {α : Type}

/-- The bound variables are those on the left of a binding. -/
theorem lookup?_isSome_iff (substitution : Substitution α) (name : Var)
    : (substitution.lookup? name).isSome = true
      ↔ name ∈ substitution.bindings.map Prod.fst := by
  simp [lookup?]

/-- An active binding is one of the bindings. -/
theorem mem_bindings_of_lookup? {substitution : Substitution α} {name : Var} {bound : α}
    (found : substitution.lookup? name = some bound)
    : (name, bound) ∈ substitution.bindings := by
  obtain ⟨binding, first, rfl⟩ := Option.map_eq_some_iff.mp found
  have same : binding.1 = name := by simpa using List.find?_some first
  exact same ▸ List.mem_of_find?_eq_some first

/-- Where some rank falls with every step, no variable leads back to itself. -/
theorem no_cycle_of_rank {leads : Var → Var → Prop} (rank : Var → Nat)
    (falls : ∀ first second, leads first second → rank second < rank first) (name : Var)
    : ¬ TransGen leads name name := by
  have below {last : Var} (path : TransGen leads name last) : rank last < rank name := by
    induction path with
    | single step => exact falls _ _ step
    | tail _ step ih => exact Nat.lt_trans (falls _ _ step) ih
  exact fun cycle => Nat.lt_irrefl _ (below cycle)

/-- A trail of bound variables, each passed once, and each leading on to the variable at
hand. The steps that remain and the variables passed account for all bindings.
-/
structure Trail (substitution : Substitution α) (leads : Var → Var → Prop)
    (remaining : Nat) (passed : List Var) (name : Var)
    : Prop where
  unique : passed.Nodup
  bound : ∀ other ∈ passed, (substitution.lookup? other).isSome = true
  leading : ∀ other ∈ passed, TransGen leads other name
  budget : substitution.size ≤ remaining + passed.length

variable {substitution : Substitution α} {leads : Var → Var → Prop} {remaining : Nat}
  {passed : List Var} {name : Var}

/-- A trail starts at any variable, with one step for each binding. -/
theorem Trail.start (substitution : Substitution α) (leads : Var → Var → Prop) (name : Var)
    : Trail substitution leads substitution.size [] name where
  unique := List.nodup_nil
  bound := by simp
  leading := by simp
  budget := Nat.le_add_right _ _

/-- Without cycles, the variable at hand has not been passed. -/
theorem Trail.fresh (trail : Trail substitution leads remaining passed name)
    (acyclic : ∀ other, ¬ TransGen leads other other)
    : name ∉ passed :=
  fun member => acyclic name (trail.leading name member)

/-- A bound variable that has not been passed extends its trail, at the cost of a step. -/
theorem Trail.extend_of_fresh (trail : Trail substitution leads (remaining + 1) passed name)
    (fresh : name ∉ passed) (bound : (substitution.lookup? name).isSome = true) {next : Var}
    (step : leads name next)
    : Trail substitution leads remaining (name :: passed) next where
  unique := List.nodup_cons.mpr ⟨fresh, trail.unique⟩
  bound := List.forall_mem_cons.mpr ⟨bound, trail.bound⟩
  leading :=
    List.forall_mem_cons.mpr
      ⟨.single step, fun other member => (trail.leading other member).tail step⟩
  budget := by
    have budget := trail.budget
    simp only [List.length_cons]
    omega

/-- Without cycles, a bound variable always extends its trail. -/
theorem Trail.extend (trail : Trail substitution leads (remaining + 1) passed name)
    (acyclic : ∀ other, ¬ TransGen leads other other)
    (bound : (substitution.lookup? name).isSome = true) {next : Var}
    (step : leads name next)
    : Trail substitution leads remaining (name :: passed) next :=
  trail.extend_of_fresh (trail.fresh acyclic) bound step

/-- At the end of the budget the trail has passed all bound variables, since they are no
more than the bindings.
-/
theorem Trail.passed_or_unbound (trail : Trail substitution leads 0 passed name)
    : name ∈ passed ∨ substitution.lookup? name = none := by
  by_cases fresh : name ∈ passed
  · exact .inl fresh
  · right
    cases lookup : substitution.lookup? name with
    | none => rfl
    | some value =>
        have included : name :: passed ⊆ substitution.bindings.map Prod.fst := by
          intro other member
          rw [← lookup?_isSome_iff]
          rcases List.mem_cons.mp member with rfl | earlier
          · simp [lookup]
          · exact trail.bound other earlier
        have distinct := List.nodup_cons.mpr ⟨fresh, trail.unique⟩
        have most := distinct.length_le_of_subset included
        have budget := trail.budget
        simp only [List.length_cons, List.length_map] at most
        simp only [size] at budget
        omega

theorem Trail.unbound (trail : Trail substitution leads 0 passed name)
    (acyclic : ∀ other, ¬ TransGen leads other other)
    : substitution.lookup? name = none :=
  trail.passed_or_unbound.resolve_left (trail.fresh acyclic)

end Trail

-----------------------------------------------------------------------------------------
-- Walks along chains of variables
-----------------------------------------------------------------------------------------

section Walk

variable {α : Type} [Unifiable α]

/-- A variable whose active binding is another variable. -/
def Aliases (substitution : Substitution α) (name other : Var) : Prop :=
  ∃ value, substitution.lookup? name = some value ∧ Unifiable.shape value = .unknown other

/-- No variable leads back to itself through variables alone. A variable may still be bound
to a compound that contains it.
-/
def ChainAcyclic (substitution : Substitution α) : Prop :=
  ∀ name, ¬ TransGen substitution.Aliases name name

/-- One hop along an active binding. -/
def Hops (substitution : Substitution α) (value bound : α) : Prop :=
  substitution.hop? value = some bound

variable {substitution : Substitution α}

/-- There are no cycles of variables when some rank falls from each variable to the one that
it is bound to, if it is bound to one.
-/
theorem chainAcyclic_of_rank (rank : Var → Nat)
    (falls
      : ∀ binding ∈ substitution.bindings,
          ∀ other, Unifiable.shape binding.2 = .unknown other → rank other < rank binding.1)
    : substitution.ChainAcyclic := by
  apply no_cycle_of_rank rank
  rintro name other ⟨value, found, valueShape⟩
  exact falls _ (mem_bindings_of_lookup? found) other valueShape

/-- A hop starts at a variable and ends at the value it is bound to. -/
theorem hop?_eq_some_iff {value bound : α}
    : substitution.hop? value = some bound
      ↔ ∃ name,
          Unifiable.shape value = .unknown name
          ∧ substitution.lookup? name = some bound := by
  unfold hop?
  split
  next name shape => simp [shape]
  next other => simpa using fun name shape => (other name shape).elim

/-- At a variable a hop is a lookup. -/
theorem hop?_of_unknown {value : α} {name : Var}
    (shape : Unifiable.shape value = .unknown name)
    : substitution.hop? value = substitution.lookup? name := by
  simp [hop?, shape]

/-- At a value that is no variable no hop starts. -/
theorem hop?_of_known {value : α} (known : Known value)
    : substitution.hop? value = none := by
  unfold hop?
  split
  next name shape => exact (known name shape).elim
  next => rfl

/-- A walk leads along hops from a value to its root, by induction on their number. -/
theorem follow_reaches (substitution : Substitution α) (hops : Nat) (value : α)
    : ReflTransGen substitution.Hops value (substitution.follow hops value) := by
  induction hops generalizing value with
  | zero => exact .refl
  | succ hops ih =>
      unfold follow
      split
      next bound hop => exact .head hop (ih bound)
      next => exact .refl

/-- The root of a value is reached by hops. -/
theorem walk_reaches (substitution : Substitution α) (value : α)
    : ReflTransGen substitution.Hops value (substitution.walk value) :=
  follow_reaches substitution substitution.size value

/-- A variable on a cycle of variables. -/
def OnCycle (substitution : Substitution α) (name : Var) : Prop :=
  TransGen substitution.Aliases name name

/-- A variable that leads to no value: it has no binding, or it lies on a cycle. -/
def Loose (substitution : Substitution α) (name : Var) : Prop :=
  substitution.lookup? name = none ∨ substitution.OnCycle name

/-- A value at which a walk may end. -/
def IsRoot (substitution : Substitution α) (value : α) : Prop :=
  ∀ name, Unifiable.shape value = .unknown name → substitution.Loose name

/-- From a variable on a cycle, a hop leads to a variable on a cycle. -/
theorem OnCycle.hop {value bound : α} {name : Var} (cycle : substitution.OnCycle name)
    (valueShape : Unifiable.shape value = .unknown name)
    (hop : substitution.hop? value = some bound)
    : ∃ next, Unifiable.shape bound = .unknown next ∧ substitution.OnCycle next := by
  obtain ⟨next, ⟨other, found, nextShape⟩, back⟩ := TransGen.head'_iff.mp cycle
  have same : other = bound :=
    Option.some.inj (found.symm.trans ((hop?_of_unknown valueShape).symm.trans hop))
  subst same
  exact ⟨next, nextShape, TransGen.tail' back ⟨other, found, nextShape⟩⟩

/-- Hops never leave a cycle, by induction on their number. -/
theorem OnCycle.of_hops {value root : α} {name : Var} (cycle : substitution.OnCycle name)
    (valueShape : Unifiable.shape value = .unknown name)
    (path : ReflTransGen substitution.Hops value root)
    : ∃ last, Unifiable.shape root = .unknown last ∧ substitution.OnCycle last := by
  induction path with
  | refl => exact ⟨name, valueShape, cycle⟩
  | tail _ hop ih =>
      obtain ⟨middle, middleShape, onCycle⟩ := ih
      exact onCycle.hop middleShape hop

/-- A variable on a cycle is bound. -/
theorem OnCycle.lookup?_ne_none {name : Var} (cycle : substitution.OnCycle name)
    : substitution.lookup? name ≠ none := by
  obtain ⟨_, ⟨value, found, _⟩, _⟩ := TransGen.head'_iff.mp cycle
  simp [found]

/-- A walk whose budget covers its trail ends where no hop starts or on a cycle, by
induction on the budget. The trail is one of variables off all cycles, which no variable
leads back to.
-/
theorem hop?_follow_eq_none_or_onCycle (hops : Nat) (value : α) (passed : List Var)
    (trail
      : ∀ name, Unifiable.shape value = .unknown name →
          Trail substitution
            (fun first second =>
              substitution.Aliases first second ∧ ¬ substitution.OnCycle first)
            hops passed name)
    : substitution.hop? (substitution.follow hops value) = none
      ∨ ∃ name,
          Unifiable.shape (substitution.follow hops value) = .unknown name
          ∧ substitution.OnCycle name := by
  have acyclic (other : Var)
      : ¬ TransGen
          (fun first second =>
            substitution.Aliases first second ∧ ¬ substitution.OnCycle first)
          other other := by
    intro path
    obtain ⟨_, ⟨_, offCycle⟩, _⟩ := TransGen.head'_iff.mp path
    exact offCycle (TransGen.mono (fun _ _ link => link.1) other other path)
  induction hops generalizing value passed with
  | zero =>
      left
      cases hop : substitution.hop? value with
      | none => exact hop
      | some bound =>
          obtain ⟨name, shape, lookup⟩ := hop?_eq_some_iff.mp hop
          simp [(trail name shape).unbound acyclic] at lookup
  | succ hops ih =>
      unfold follow
      split
      next bound hop =>
        obtain ⟨name, shape, lookup⟩ := hop?_eq_some_iff.mp hop
        by_cases cycle : substitution.OnCycle name
        · right
          exact cycle.of_hops shape (.head hop (follow_reaches substitution hops bound))
        · apply ih bound (name :: passed)
          intro next nextShape
          exact (trail name shape).extend acyclic (by simp [lookup])
            ⟨⟨bound, lookup, nextShape⟩, cycle⟩
      next stopped => exact .inl stopped

/-- A walk ends where no hop starts, or on a cycle. -/
theorem hop?_walk_eq_none_or_onCycle (substitution : Substitution α) (value : α)
    : substitution.hop? (substitution.walk value) = none
      ∨ ∃ name,
          Unifiable.shape (substitution.walk value) = .unknown name
          ∧ substitution.OnCycle name :=
  hop?_follow_eq_none_or_onCycle substitution.size value [] (fun name _ => .start _ _ name)

/-- A walk ends at a root. -/
theorem isRoot_walk (substitution : Substitution α) (value : α)
    : substitution.IsRoot (substitution.walk value) := by
  intro name shape
  rcases hop?_walk_eq_none_or_onCycle substitution value with ends | ⟨other, otherShape, cycle⟩
  · exact .inl ((hop?_of_unknown shape).symm.trans ends)
  · have same : other = name := Shape.unknown.inj (otherShape.symm.trans shape)
    exact .inr (same ▸ cycle)

/-- Without cycles of variables no hop starts at a root. -/
theorem ChainAcyclic.hop?_walk (acyclic : substitution.ChainAcyclic) (value : α)
    : substitution.hop? (substitution.walk value) = none := by
  rcases hop?_walk_eq_none_or_onCycle substitution value with ends | ⟨name, _, cycle⟩
  · exact ends
  · exact (acyclic name cycle).elim

/-- Without cycles of variables a root that is a variable is not bound. -/
theorem ChainAcyclic.lookup?_walk (acyclic : substitution.ChainAcyclic) {value : α}
    {name : Var} (shape : Unifiable.shape (substitution.walk value) = .unknown name)
    : substitution.lookup? name = none := by
  rw [← hop?_of_unknown shape]
  exact acyclic.hop?_walk value

theorem hops_rightUnique (substitution : Substitution α)
    : Relator.RightUnique substitution.Hops :=
  fun _ _ _ toLeft toRight => Option.some.inj (toLeft.symm.trans toRight)

/-- No path leads on from where no hop starts. -/
theorem eq_of_hops_of_ends {origin target : α} (ends : substitution.hop? origin = none)
    (path : ReflTransGen substitution.Hops origin target)
    : target = origin := by
  rcases path.cases_head with same | ⟨next, hop, _⟩
  · exact same.symm
  · exact (Option.some_ne_none next (hop.symm.trans ends)).elim

/-- Hops lead to a single end, since each value allows one hop at most. -/
theorem hops_end_unique {value first second : α}
    (toFirst : ReflTransGen substitution.Hops value first)
    (firstEnds : substitution.hop? first = none)
    (toSecond : ReflTransGen substitution.Hops value second)
    (secondEnds : substitution.hop? second = none)
    : first = second := by
  rcases ReflTransGen.total_of_right_unique (hops_rightUnique substitution) toFirst toSecond
    with path | path
  · exact (eq_of_hops_of_ends firstEnds path).symm
  · exact eq_of_hops_of_ends secondEnds path

/-- A loose variable leads to no end but itself. -/
theorem Loose.eq_of_hops {value root : α} {name : Var} (loose : substitution.Loose name)
    (valueShape : Unifiable.shape value = .unknown name)
    (path : ReflTransGen substitution.Hops value root)
    (ends : substitution.hop? root = none)
    : root = value := by
  rcases loose with unbound | cycle
  · exact eq_of_hops_of_ends ((hop?_of_unknown valueShape).trans unbound) path
  · obtain ⟨last, lastShape, onCycle⟩ := cycle.of_hops valueShape path
    exact (onCycle.lookup?_ne_none ((hop?_of_unknown lastShape).symm.trans ends)).elim

/-- A walk comes to the end of its chain if there is one, since it would else be on a cycle,
from which no end is reached.
-/
theorem walk_eq_of_hops {value root : α} (path : ReflTransGen substitution.Hops value root)
    (ends : substitution.hop? root = none)
    : substitution.walk value = root := by
  have walked := walk_reaches substitution value
  rcases hop?_walk_eq_none_or_onCycle substitution value with stops | ⟨name, shape, cycle⟩
  · exact hops_end_unique walked stops path ends
  · rcases ReflTransGen.total_of_right_unique (hops_rightUnique substitution) walked path
      with onward | back
    · exact (Loose.eq_of_hops (.inr cycle) shape onward ends).symm
    · exact eq_of_hops_of_ends ends back

/-- A value that is no variable is its own root. -/
theorem walk_of_known {value : α} (known : Known value) : substitution.walk value = value :=
  walk_eq_of_hops .refl (hop?_of_known known)

/-- Without cycles of variables, a root does not change along a hop. -/
theorem ChainAcyclic.walk_of_hop (acyclic : substitution.ChainAcyclic) {value bound : α}
    (hop : substitution.hop? value = some bound)
    : substitution.walk value = substitution.walk bound :=
  walk_eq_of_hops (.head hop (walk_reaches _ bound)) (acyclic.hop?_walk bound)

end Walk

end Substitution

end Unification
