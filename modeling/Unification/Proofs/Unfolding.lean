import Unification.Proofs.Solution

/-! Soundness of unification where bindings may be circular. A term is unfolded to a depth
by walking to its root and going on with the fields below; the unfoldings of two unified
terms agree to every depth, in the result and in whatever it grows into.
-/

namespace Unification

open Term (var atom lazy compound)

/-- A term unfolded to some depth, with holes where the depth ends. A leaf is an atom or a
suspended value. A walk that ends on a cycle of variables leaves one that is bound.
-/
inductive Unfolding
  | hole
  | unbound (name : Var)
  | circular (name : Var)
  | leaf (term : Term)
  | node (tag : UInt8) (children : List Unfolding)

/-- Unfoldings that agree: the same unbound variables, identical or equal leaves, and nodes
with the same tag and as many children, which agree in order.
-/
inductive Unfolding.Agrees : Unfolding → Unfolding → Prop
  | hole : Agrees .hole .hole
  | unbound (name : Var) : Agrees (.unbound name) (.unbound name)
  | identical (term : Term) : Agrees (.leaf term) (.leaf term)
  | equal {left right : Term} (same : left.sameValue right = true)
    : Agrees (.leaf left) (.leaf right)
  | node (tag : UInt8) {left right : List Unfolding} (lengths : left.length = right.length)
    (each
      : ∀ (index : Nat) first second,
          left[index]? = some first → right[index]? = some second → Agrees first second)
    : Agrees (.node tag left) (.node tag right)

theorem Unfolding.Agrees.symm {left right : Unfolding} (agrees : left.Agrees right)
    : right.Agrees left := by
  induction agrees with
  | hole => exact .hole
  | unbound name => exact .unbound name
  | identical term => exact .identical term
  | equal same => exact .equal ((Term.sameValue_comm _ _).trans same)
  | node tag lengths _ ih =>
      exact .node tag lengths.symm
        (fun index first second atFirst atSecond => ih index second first atSecond atFirst)

theorem Unfolding.Agrees.trans {first second third : Unfolding} (left : first.Agrees second)
    (right : second.Agrees third)
    : first.Agrees third := by
  induction left generalizing third with
  | hole | unbound | identical => exact right
  | equal same =>
      cases right with
      | identical => exact .equal same
      | equal next => exact .equal (Term.sameValue_trans same next)
  | node tag lengths _ ih =>
      cases right with
      | node _ others next =>
          refine .node tag (lengths.trans others) ?_
          intro index outer inner atFirst atThird
          obtain ⟨below, _⟩ := List.getElem?_eq_some_iff.mp atFirst
          have atSecond := List.getElem?_eq_getElem (lengths ▸ below)
          exact ih index _ _ atFirst atSecond (next index _ _ atSecond atThird)

namespace Substitution

/-- The unfolding of a term to a depth: its root, and below a compound the unfoldings of
the fields.
-/
def unfold (substitution : Substitution Term) : Nat → Term → Unfolding
  | 0, _ => .hole
  | depth + 1, term =>
      match substitution.walk term with
      | .var name =>
          if (substitution.lookup? name).isSome then
            .circular name
          else
            .unbound name
      | .atom value => .leaf (.atom value)
      | .lazy contents => .leaf (.lazy contents)
      | .compound tag fields => .node tag (fields.map (unfold substitution depth))

/-- Two terms whose unfoldings agree to every depth. -/
def UnfoldsAlike (substitution : Substitution Term) (left right : Term) : Prop :=
  ∀ depth, (substitution.unfold depth left).Agrees (substitution.unfold depth right)

variable {substitution : Substitution Term}

/-- Without cycles of variables the unfoldings of a term agree with themselves, by induction
on the depth. This asks for no numbers, since identical leaves agree.
-/
theorem ChainAcyclic.unfoldsAlike_self (acyclic : substitution.ChainAcyclic) (term : Term)
    : substitution.UnfoldsAlike term term := by
  intro depth
  induction depth generalizing term with
  | zero => exact .hole
  | succ depth ih =>
      unfold unfold
      split
      next name root =>
        have rootShape : Unifiable.shape (substitution.walk term) = .unknown name :=
          congrArg Term.shape root
        have unbound := acyclic.lookup?_walk rootShape
        simp only [unbound, Option.isSome_none, Bool.false_eq_true, if_false]
        exact .unbound name
      next => exact .identical _
      next => exact .identical _
      next tag fields _ =>
        refine .node tag rfl ?_
        intro index first second atFirst atSecond
        rw [List.getElem?_map] at atFirst atSecond
        obtain ⟨field, found, rfl⟩ := Option.map_eq_some_iff.mp atFirst
        obtain ⟨other, again, rfl⟩ := Option.map_eq_some_iff.mp atSecond
        rw [Option.some.inj (found.symm.trans again)]
        exact ih other

theorem unfoldsAlike_partialEquivalence : PartialEquivalence substitution.UnfoldsAlike where
  symm agree depth := (agree depth).symm
  trans left right depth := (left depth).trans (right depth)

theorem unfold_leaf (depth : Nat) {term : Term} (leaf : term.IsLeaf)
    : substitution.unfold (depth + 1) term = .leaf term := by
  obtain ⟨comparison, shape⟩ := leaf
  have root : substitution.walk term = term :=
    walk_of_known (fun _ unknown => Shape.noConfusion (shape.symm.trans unknown))
  rw [unfold, root]
  cases term with
  | atom _ | lazy _ => rfl
  | var _ | compound _ _ => cases shape

theorem unfold_compound (depth : Nat) (tag : UInt8) (fields : List Term)
    : substitution.unfold (depth + 1) (.compound tag fields)
      = .node tag (fields.map (substitution.unfold depth)) := by
  have root : substitution.walk (.compound tag fields) = .compound tag fields :=
    walk_of_known nofun
  rw [unfold, root]

/-- Terms built alike from terms unfolded alike are unfolded alike. -/
theorem ChainAcyclic.unfoldsAlike_composing (acyclic : substitution.ChainAcyclic)
    : Composing substitution.UnfoldsAlike := by
  refine unfoldsAlike_partialEquivalence.composing_of_terms ?_ ?_ ?_
  · exact fun name => acyclic.unfoldsAlike_self (.var name)
  · intro left right leftLeaf rightLeaf same depth
    cases depth with
    | zero => exact .hole
    | succ depth =>
        rw [unfold_leaf depth leftLeaf, unfold_leaf depth rightLeaf]
        exact .equal same
  · intro tag left right lengths each depth
    cases depth with
    | zero => exact .hole
    | succ depth =>
        rw [unfold_compound, unfold_compound]
        refine .node tag (by rw [List.length_map, List.length_map, lengths]) ?_
        intro index first second atFirst atSecond
        rw [List.getElem?_map] at atFirst atSecond
        obtain ⟨_, leftFound, rfl⟩ := Option.map_eq_some_iff.mp atFirst
        obtain ⟨_, rightFound, rfl⟩ := Option.map_eq_some_iff.mp atSecond
        exact each index _ _ leftFound rightFound depth

theorem ChainAcyclic.satisfiedBy_unfoldsAlike (acyclic : substitution.ChainAcyclic)
    : substitution.SatisfiedBy substitution.UnfoldsAlike := by
  intro term bound hop depth
  have same : substitution.unfold depth term = substitution.unfold depth bound := by
    cases depth with
    | zero => rfl
    | succ depth => simp only [unfold, acyclic.walk_of_hop hop]
  rw [same]
  exact acyclic.unfoldsAlike_self bound depth

end Substitution

/-- When a call that starts without cycles of variables succeeds, the two terms unfold alike
to every depth under its result, and still do after any further successful calls. Bindings
to compounds may be circular, before the call and after it.
-/
theorem unfold_agrees_of_unifyWith (config : Config) (left right : Term)
    (start result : Substitution Term) (run : Run Term) (acyclic : start.ChainAcyclic)
    (found : unifyWith config left right start = some run)
    (succeeded : run.answer = .ok result)
    : (∀ depth, (result.unfold depth left).Agrees (result.unfold depth right))
      ∧ ∀ later, result.GrowsInto later
          → ∀ depth, (later.unfold depth left).Agrees (later.unfold depth right) := by
  obtain ⟨inner, settled, rfl⟩ := unifyWith_settles found
  have grown := settled.growth succeeded acyclic trivial
  have alike (later : Substitution Term) (grows : result.GrowsInto later)
      : later.UnfoldsAlike left right := by
    have further := grows.growth grown.2
    exact settled.holds further.2.unfoldsAlike_composing succeeded trivial further.1
      further.2.satisfiedBy_unfoldsAlike
  exact ⟨alike result .refl, alike⟩

/-- A variable bound to a compound that contains it, unified with a further level of that
compound around another variable.
-/
theorem unfold_agrees_of_circular_binding
    : (Substitution.singleton ⟨0⟩ (compound 4 [var ⟨0⟩])).ChainAcyclic
      ∧ unifyWith .unlimited (compound 4 [var ⟨1⟩]) (var ⟨0⟩)
          (.singleton ⟨0⟩ (compound 4 [var ⟨0⟩]))
        = some
            ⟨[.descended ⟨4, 1⟩ 0, .bound ⟨1⟩ 1, .succeeded 2],
              .ok ⟨[(⟨1⟩, compound 4 [var ⟨0⟩]), (⟨0⟩, compound 4 [var ⟨0⟩])]⟩⟩
      ∧ ∀ depth,
          (Substitution.unfold ⟨[(⟨1⟩, compound 4 [var ⟨0⟩]), (⟨0⟩, compound 4 [var ⟨0⟩])]⟩ depth
              (compound 4 [var ⟨1⟩])).Agrees
            (Substitution.unfold ⟨[(⟨1⟩, compound 4 [var ⟨0⟩]), (⟨0⟩, compound 4 [var ⟨0⟩])]⟩
              depth (var ⟨0⟩)) := by
  have acyclic : (Substitution.singleton ⟨0⟩ (compound 4 [var ⟨0⟩])).ChainAcyclic :=
    Substitution.chainAcyclic_empty.extend rfl nofun
  exact ⟨acyclic, rfl, (unfold_agrees_of_unifyWith .unlimited _ _ _ _ _ acyclic rfl rfl).1⟩

end Unification
