import Unification.Proofs.LevelBound
import Unification.Proofs.WalkBound

/-! Unification against a cycle of variables. No call closes such a cycle, but a substitution
may be given with some. A variable whose chain leads into a cycle has no value, so the first
value that it is unified with becomes its own: the variable on the cycle at which the walk
stops is bound once more. The new binding hides one of the cycle, so all chains that led into
the cycle now come to the value, and no chain that had an end passes it.
-/

namespace Unification

open Relation
open Unifiable (shape)
open Term (var atom compound)

namespace Substitution

variable {α : Type} [Unifiable α] {start : Substitution α} {name member : Var} {value : α}

/-- A variable on the cycle that the chain of another variable leads into. -/
def CycleAhead (substitution : Substitution α) (name member : Var) : Prop :=
  ReflTransGen substitution.Aliases name member ∧ substitution.OnCycle member

/-- A chain that leads into a cycle has no end. -/
theorem CycleAhead.not_ends (ahead : start.CycleAhead name member)
    (valueShape : shape value = .unknown name) {root : α}
    (path : ReflTransGen start.Hops value root)
    : start.hop? root ≠ none := by
  intro ends
  obtain ⟨bearer, bearerShape, toBearer⟩ := exists_hops_of_aliases valueShape ahead.1
  -- There is one way onward from a term, so the end would itself be on the cycle.
  have same : root = bearer := by
    rcases ReflTransGen.total_of_right_unique (hops_rightUnique start) toBearer path
      with onward | back
    · exact Loose.eq_of_hops (.inr ahead.2) bearerShape onward ends
    · exact (eq_of_hops_of_ends ends back).symm
  rw [same, hop?_of_unknown bearerShape] at ends
  exact ahead.2.lookup?_ne_none ends

/-- A walk along a chain that leads into a cycle stops on that cycle. -/
theorem CycleAhead.exists_walk (ahead : start.CycleAhead name member)
    (valueShape : shape value = .unknown name)
    : ∃ stop, shape (start.walk value) = .unknown stop ∧ start.CycleAhead name stop := by
  have path := walk_reaches start value
  rcases hop?_walk_eq_none_or_onCycle start value with ends | ⟨stop, rootShape, cycle⟩
  · exact (ahead.not_ends valueShape path ends).elim
  · exact ⟨stop, rootShape, aliases_of_hops valueShape rootShape path, cycle⟩

/-- Once a variable on the cycle has a value, all chains that led into the cycle come to it,
since their variables are in one class.
-/
theorem CycleAhead.walk_extend (ahead : start.CycleAhead name member) (known : Known value)
    {entry origin : Var} (entryAhead : start.CycleAhead name entry)
    (toEntry : ReflTransGen start.Aliases origin entry) {other : α}
    (otherShape : shape other = .unknown origin)
    : (start.extend member value).walk other = value := by
  have equivalence := linked_equivalence start
  have linked {first last : Var} (path : ReflTransGen start.Aliases first last)
      : start.Linked first last :=
    EqvGen.reflTransGen_le_eqvGen _ _ _ path
  have toMember : start.Linked origin member :=
    equivalence.trans (linked toEntry)
      (equivalence.trans (equivalence.symm (linked entryAhead.1)) (linked ahead.1))
  have root : start.IsRoot value := fun shown valueShape => (known shown valueShape).elim
  exact (Loose.walk_extend_eq_iff (.inr ahead.2) root known).mpr
    (.inr ⟨rfl, origin, otherShape, toMember⟩)

/-- A binding of a variable on a cycle leaves alone every walk that came to an end. -/
theorem OnCycle.walk_extend_of_endsAt (cycle : start.OnCycle name) {other : α}
    (ends : start.EndsAt (start.walk other))
    : (start.extend name value).walk other = start.walk other := by
  have path : ReflTransGen (start.extend name value).Hops other (start.walk other) :=
    Loose.hops_extend (.inr cycle) (walk_reaches start other) (endsAt_iff.mp ends)
  refine walk_eq_of_hops path ?_
  -- The end of a walk is on no cycle, so it is not the variable that is bound.
  rcases ends with known | ⟨last, rootShape, unbound⟩
  · exact hop?_of_known known
  · have different : name ≠ last := by
      rintro rfl
      exact cycle.lookup?_ne_none unbound
    rw [hop?_of_unknown rootShape, lookup?_extend, if_neg different, unbound]

end Substitution

/-- A variable whose chain leads into a cycle of variables unifies with every term that has a
value, on either side and under every setting. One binding is made, of the variable on the
cycle at which the walk stops, to the value. After it the walks of all variables whose chains
led into the cycle end at the value, and all walks that came to an end still end there.
-/
theorem unifyWith_repairs_cycle {α : Type} [FinitelyBuilt α] (config : Config)
    (start : Substitution α) (target value : α) (name : Var)
    (targetShape : shape target = .unknown name) (circular : ∃ entry, start.CycleAhead name entry)
    (known : Known (start.walk value))
    : ∃ member result,
        shape (start.walk target) = .unknown member
        ∧ start.CycleAhead name member
        ∧ result = start.extend member (start.walk value)
        ∧ (unifyWith config target value start).map Run.answer = some (.ok result)
        ∧ (unifyWith config value target start).map Run.answer = some (.ok result)
        ∧ (∀ other origin entry,
            shape other = .unknown origin
            → ReflTransGen start.Aliases origin entry
            → start.CycleAhead name entry
            → result.walk other = start.walk value)
        ∧ ∀ other, start.EndsAt (start.walk other) → result.walk other = start.walk other := by
  obtain ⟨entry, entryAhead⟩ := circular
  obtain ⟨member, rootShape, ahead⟩ := entryAhead.exists_walk targetShape
  refine ⟨member, start.extend member (start.walk value), rootShape, ahead, rfl, ?_, ?_, ?_, ?_⟩
  · exact Ends.unifyWith_answer config (.bindLeft rootShape (known member))
  · exact Ends.unifyWith_answer config (.bindRight known rootShape)
  · intro other origin entry otherShape path entryAhead
    exact ahead.walk_extend known entryAhead path otherShape
  · intro other ends
    exact ahead.2.walk_extend_of_endsAt ends

/-- A chain leads into a cycle of two variables, of which one has a hidden binding to an atom,
and there is a further cycle. The chain is unified with a variable that is bound to a compound
around it.
-/
theorem unifyWith_repairs_cycle_behind_chain
    : (unifyWith (.limited 0) (var ⟨3⟩) (var ⟨0⟩)
            ⟨[(⟨3⟩, compound 5 [var ⟨0⟩]), (⟨4⟩, var ⟨4⟩), (⟨0⟩, var ⟨1⟩), (⟨1⟩, var ⟨2⟩),
                (⟨2⟩, var ⟨1⟩), (⟨2⟩, atom .unit)]⟩).map
          Run.answer
        = some
            (.ok
              ⟨[(⟨2⟩, compound 5 [var ⟨0⟩]), (⟨3⟩, compound 5 [var ⟨0⟩]), (⟨4⟩, var ⟨4⟩),
                  (⟨0⟩, var ⟨1⟩), (⟨1⟩, var ⟨2⟩), (⟨2⟩, var ⟨1⟩), (⟨2⟩, atom .unit)]⟩)
      ∧ Substitution.walk
            ⟨[(⟨2⟩, compound 5 [var ⟨0⟩]), (⟨3⟩, compound 5 [var ⟨0⟩]), (⟨4⟩, var ⟨4⟩),
                (⟨0⟩, var ⟨1⟩), (⟨1⟩, var ⟨2⟩), (⟨2⟩, var ⟨1⟩), (⟨2⟩, atom .unit)]⟩
            (var ⟨0⟩)
          = compound 5 [var ⟨0⟩]
      ∧ Substitution.walk
            ⟨[(⟨2⟩, compound 5 [var ⟨0⟩]), (⟨3⟩, compound 5 [var ⟨0⟩]), (⟨4⟩, var ⟨4⟩),
                (⟨0⟩, var ⟨1⟩), (⟨1⟩, var ⟨2⟩), (⟨2⟩, var ⟨1⟩), (⟨2⟩, atom .unit)]⟩
            (var ⟨5⟩)
          = var ⟨5⟩ := by
  have ahead
      : Substitution.CycleAhead (α := Term)
          ⟨[(⟨3⟩, compound 5 [var ⟨0⟩]), (⟨4⟩, var ⟨4⟩), (⟨0⟩, var ⟨1⟩), (⟨1⟩, var ⟨2⟩),
              (⟨2⟩, var ⟨1⟩), (⟨2⟩, atom .unit)]⟩
          ⟨0⟩ ⟨1⟩ :=
    ⟨.single ⟨var ⟨1⟩, rfl, rfl⟩, .tail (.single ⟨var ⟨2⟩, rfl, rfl⟩) ⟨var ⟨1⟩, rfl, rfl⟩⟩
  obtain ⟨member, result, stops, _, rfl, _, answer, repaired, kept⟩ :=
    unifyWith_repairs_cycle (.limited 0) _ (var ⟨0⟩) (var ⟨3⟩) ⟨0⟩ rfl ⟨⟨1⟩, ahead⟩
      (fun _ valueShape => nomatch valueShape)
  obtain rfl : ⟨2⟩ = member := Shape.unknown.inj stops
  exact ⟨answer, repaired (var ⟨0⟩) ⟨0⟩ ⟨1⟩ rfl ahead.1 ahead,
    kept (var ⟨5⟩) (.inr ⟨⟨5⟩, rfl, rfl⟩)⟩

end Unification
