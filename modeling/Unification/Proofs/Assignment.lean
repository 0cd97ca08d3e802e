import Unification.Proofs.Replacement
import Unification.Proofs.Solution

/-! Assignments of finite terms to the variables. Terms are equal under an assignment when
they become equal once every variable in reach is replaced. Such equality composes as long
as the assigned terms hold only numbers, and it always discerns.
-/

namespace Unification

namespace Term

/-- Two terms that become equal when their variables are replaced. -/
def EqualUnder (assigned : Var → Term) (left right : Term) : Prop :=
  (left.replace assigned).sameValue (right.replace assigned) = true

variable {assigned : Var → Term}

theorem equalUnder_partialEquivalence : PartialEquivalence (EqualUnder assigned) where
  symm same := (sameValue_comm _ _).trans same
  trans := sameValue_trans

theorem IsLeaf.replace_eq {term : Term} (leaf : term.IsLeaf)
    : term.replace assigned = term := by
  rcases leaf.eq_atom_or_lazy with ⟨_, rfl⟩ | ⟨_, rfl⟩ <;> rfl

theorem IsLeaf.compound_sameValue {leaf : Term} (isLeaf : leaf.IsLeaf) (tag : UInt8)
    (fields : List Term)
    : (compound tag fields).sameValue leaf = false := by
  rcases isLeaf.eq_atom_or_lazy with ⟨_, rfl⟩ | ⟨_, rfl⟩ <;> rfl

/-- Compounds are equal under an assignment when their tags are the same and their fields
are pairwise equal under it.
-/
theorem equalUnder_compound {tag other : UInt8} {left right : List Term}
    : EqualUnder assigned (.compound tag left) (.compound other right)
      ↔ tag = other
        ∧ left.length = right.length
        ∧ ∀ (index : Nat) first second,
            left[index]? = some first
            → right[index]? = some second
            → EqualUnder assigned first second := by
  unfold EqualUnder
  simp only [replace, sameValue, Bool.and_eq_true, beq_iff_eq, sameValues_iff,
    replaceAll_eq_map, List.length_map, List.getElem?_map]
  refine and_congr_right fun _ => and_congr_right fun _ => ?_
  constructor
  · intro each index first second leftField rightField
    exact each index _ _ (congrArg (Option.map _) leftField)
      (congrArg (Option.map _) rightField)
  · intro each index first second leftField rightField
    obtain ⟨_, leftFound, rfl⟩ := Option.map_eq_some_iff.mp leftField
    obtain ⟨_, rightFound, rfl⟩ := Option.map_eq_some_iff.mp rightField
    exact each index _ _ leftFound rightFound

/-- Terms built alike from equal terms are equal. Only a variable asks for numbers, since it
is compared with itself.
-/
theorem equalUnder_composing (numeric : ∀ name, (assigned name).nanFree = true)
    : Composing (EqualUnder assigned) := by
  refine equalUnder_partialEquivalence.composing_of_terms ?_ ?_ ?_
  · exact fun name => (sameValue_self _).trans (numeric name)
  · intro left right leftLeaf rightLeaf same
    unfold EqualUnder
    rw [leftLeaf.replace_eq, rightLeaf.replace_eq, same]
  · exact fun tag left right lengths each => equalUnder_compound.mpr ⟨rfl, lengths, each⟩

theorem equalUnder_discerning : Discerning (EqualUnder assigned) := by
  refine equalUnder_partialEquivalence.discerning_of_terms ?_ ?_ ?_
  · intro left right leftLeaf rightLeaf same
    unfold EqualUnder at same
    rwa [leftLeaf.replace_eq, rightLeaf.replace_eq] at same
  · intro tag fields leaf isLeaf same
    unfold EqualUnder at same
    rw [isLeaf.replace_eq] at same
    exact Bool.false_ne_true ((isLeaf.compound_sameValue tag _).symm.trans same)
  · exact fun tag other left right => equalUnder_compound.mp

end Term

end Unification
