import Unification.Proofs.Chain
import Unification.Term.Unifiable

/-! The number of hops of a walk. A chain of bindings that ends by itself is never cut short by
the number of bindings, since it passes each bound variable once. A chain without end has come
to its cycle by then, however long the way there is and however many bindings are hidden.
-/

namespace Unification

open Relation
open Unifiable (shape)
open Term (var atom)

namespace Substitution

variable {α : Type} [Unifiable α] {substitution : Substitution α} {value : α}

/-- The value after exactly so many hops, if there are as many. -/
def after? (substitution : Substitution α) : Nat → α → Option α
  | 0, value => some value
  | hops + 1, value => (substitution.hop? value).bind (after? substitution hops)

/-- A value from which no binding leads on: it is no variable, or one without binding. -/
def EndsAt (substitution : Substitution α) (value : α) : Prop :=
  Known value ∨ ∃ name, shape value = .unknown name ∧ substitution.lookup? name = none

theorem endsAt_iff : substitution.EndsAt value ↔ substitution.hop? value = none := by
  constructor
  · rintro (known | ⟨name, valueShape, unbound⟩)
    · exact hop?_of_known known
    · rw [hop?_of_unknown valueShape, unbound]
  · intro stopped
    by_cases known : Known value
    · exact .inl known
    · obtain ⟨name, valueShape⟩ := exists_unknown_of_not_known known
      exact .inr ⟨name, valueShape, (hop?_of_unknown valueShape).symm.trans stopped⟩

/-- What is reached after some number of hops is reached by hops. -/
theorem hops_of_after? {hops : Nat} {root : α}
    (reached : substitution.after? hops value = some root)
    : ReflTransGen substitution.Hops value root := by
  induction hops generalizing value with
  | zero =>
      cases reached
      exact .refl
  | succ hops ih =>
      obtain ⟨bound, hop, rest⟩ := Option.bind_eq_some_iff.mp reached
      exact .head hop (ih rest)

/-- A chain without end allows any number of hops, and a walk of that many takes them all. -/
theorem after?_eq_follow
    (endless
      : ∀ hops root, substitution.after? hops value = some root → ¬ substitution.EndsAt root)
    (hops : Nat)
    : substitution.after? hops value = some (substitution.follow hops value) := by
  induction hops generalizing value with
  | zero => rfl
  | succ hops ih =>
      cases hop : substitution.hop? value with
      | none => exact (endless 0 value rfl (endsAt_iff.mpr hop)).elim
      | some bound =>
          have onward (more : Nat)
              : substitution.after? (more + 1) value = substitution.after? more bound := by
            rw [after?, hop, Option.bind_some]
          rw [onward, follow, hop]
          apply ih
          intro more root reached
          exact endless (more + 1) root ((onward more).trans reached)

/-- From a variable on a cycle no end is reached. -/
theorem OnCycle.not_endsAt {name : Var} (cycle : substitution.OnCycle name)
    (valueShape : shape value = .unknown name) {hops : Nat} {root : α}
    (reached : substitution.after? hops value = some root)
    : ¬ substitution.EndsAt root := by
  obtain ⟨last, rootShape, onCycle⟩ := cycle.of_hops valueShape (hops_of_after? reached)
  rw [endsAt_iff, hop?_of_unknown rootShape]
  exact onCycle.lookup?_ne_none

/-- A walk is exact, whatever the bindings are. If the chain of active bindings ends after any
number of hops, the walk comes to that end, and from there nowhere else. If it does not end,
the walk takes as many hops as there are bindings, hidden ones included, and it stops on a
variable that leads back to itself.
-/
theorem walk_exact (substitution : Substitution α) (value : α)
    : (∀ hops root,
        substitution.after? hops value = some root
        → substitution.EndsAt root
        → substitution.walk value = root ∧ substitution.walk root = root)
      ∧ ((∀ hops root,
            substitution.after? hops value = some root → ¬ substitution.EndsAt root)
          → substitution.after? substitution.size value = some (substitution.walk value)
            ∧ ∃ name,
                shape (substitution.walk value) = .unknown name
                ∧ substitution.OnCycle name) := by
  constructor
  · intro hops root reached ends
    have stopped := endsAt_iff.mp ends
    exact ⟨walk_eq_of_hops (hops_of_after? reached) stopped, walk_eq_of_hops .refl stopped⟩
  · intro endless
    have counted := after?_eq_follow endless substitution.size
    refine ⟨counted, (hop?_walk_eq_none_or_onCycle substitution value).resolve_left ?_⟩
    intro stopped
    exact endless _ _ counted (endsAt_iff.mpr stopped)

/-- A chain of as many hops as there are bindings, and a chain that leads into a cycle of two
variables, of which one has a hidden binding to an atom.
-/
theorem walk_exact_at_chain_and_cycle
    : Substitution.walk ⟨[(⟨1⟩, atom .unit), (⟨0⟩, var ⟨1⟩)]⟩ (var ⟨0⟩) = atom .unit
      ∧ Substitution.after?
            ⟨[(⟨0⟩, var ⟨1⟩), (⟨1⟩, var ⟨2⟩), (⟨2⟩, var ⟨1⟩), (⟨2⟩, atom .unit)]⟩ 4 (var ⟨0⟩)
          = some (var ⟨2⟩)
      ∧ Substitution.walk
            ⟨[(⟨0⟩, var ⟨1⟩), (⟨1⟩, var ⟨2⟩), (⟨2⟩, var ⟨1⟩), (⟨2⟩, atom .unit)]⟩ (var ⟨0⟩)
          = var ⟨2⟩ := by
  have ending := (walk_exact ⟨[(⟨1⟩, atom .unit), (⟨0⟩, var ⟨1⟩)]⟩ (var ⟨0⟩)).1 2 (atom .unit)
    rfl (endsAt_iff.mpr rfl)
  have cycle
      : Substitution.OnCycle
          ⟨[(⟨0⟩, var ⟨1⟩), (⟨1⟩, var ⟨2⟩), (⟨2⟩, var ⟨1⟩), (⟨2⟩, atom .unit)]⟩ ⟨1⟩ :=
    .tail (.single ⟨var ⟨2⟩, rfl, rfl⟩) ⟨var ⟨1⟩, rfl, rfl⟩
  have circular := (walk_exact
    ⟨[(⟨0⟩, var ⟨1⟩), (⟨1⟩, var ⟨2⟩), (⟨2⟩, var ⟨1⟩), (⟨2⟩, atom .unit)]⟩ (var ⟨0⟩)).2
  refine ⟨ending.1, (circular ?_).1, rfl⟩
  intro hops root reached ends
  cases hops with
  | zero =>
      cases reached
      cases endsAt_iff.mp ends
  | succ hops =>
      have onward
          : Substitution.after?
              ⟨[(⟨0⟩, var ⟨1⟩), (⟨1⟩, var ⟨2⟩), (⟨2⟩, var ⟨1⟩), (⟨2⟩, atom .unit)]⟩ hops
              (var ⟨1⟩)
            = some root :=
        reached
      exact cycle.not_endsAt rfl onward ends

end Substitution

end Unification
