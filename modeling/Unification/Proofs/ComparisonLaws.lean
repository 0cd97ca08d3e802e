import Unification.Proofs.Expansion
import Unification.Proofs.Solution

/-! The three comparisons of terms side by side. Being the same object implies equal syntax,
and equal syntax implies equality by representation. The last is a partial equivalence that
only a word that is no number keeps from being an equivalence, and resolution respects it as
long as the bindings bring in no such word.
-/

namespace Unification

-----------------------------------------------------------------------------------------
-- From finer comparisons to coarser ones
-----------------------------------------------------------------------------------------

namespace Atom

/-- Atoms of one kind with one payload are equal by value, whether they are immediate or not.
-/
theorem sameValue_of_sameSyntax {first second : Atom} (same : first.sameSyntax second = true)
    : first.sameValue second = true := by
  have together := immediate?_eq_of_sameSyntax same
  rw [sameValue_iff]
  cases immediate : first.immediate? with
  | none => exact .inr ⟨rfl, together.symm.trans immediate, same⟩
  | some number => exact .inl ⟨number, rfl, together.symm.trans immediate⟩

/-- Only functions are objects, and their syntax is the object. -/
theorem sameSyntax_of_sameObject {first second : Atom} (same : first.sameObject second = true)
    : first.sameSyntax second = true := by
  cases first <;> try cases same
  cases second <;> try cases same
  exact same

end Atom

namespace Term

mutual

/-- Terms of equal syntax are equal by representation, by descent into the first term. -/
theorem sameValue_of_sameSyntax {first second : Term} (same : first.sameSyntax second = true)
    : first.sameValue second = true := by
  cases first <;> cases second <;> simp only [sameSyntax, Bool.false_eq_true] at same <;>
    simp only [sameValue]
  case var.var => exact same
  case atom.atom => exact Atom.sameValue_of_sameSyntax same
  case lazy.lazy => exact sameValue_of_sameSyntax same
  case compound.compound =>
    rw [Bool.and_eq_true] at same ⊢
    exact ⟨same.1, sameValues_of_sameSyntaxes same.2⟩

/-- The same of several terms in order. -/
theorem sameValues_of_sameSyntaxes {first second : List Term}
    (same : sameSyntaxes first second = true)
    : sameValues first second = true := by
  cases first <;> cases second <;> simp only [sameSyntaxes, Bool.false_eq_true] at same <;>
    simp only [sameValues]
  case cons.cons =>
    rw [Bool.and_eq_true] at same ⊢
    exact ⟨sameValue_of_sameSyntax same.1, sameValues_of_sameSyntaxes same.2⟩

end

theorem sameSyntax_of_sameObject {first second : Term} (same : first.sameObject second = true)
    : first.sameSyntax second = true := by
  cases first <;> try cases same
  cases second <;> try cases same
  exact Atom.sameSyntax_of_sameObject same

/-- Equality by representation is a partial equivalence on all terms. A term equals itself
exactly when it holds no word at any depth that is not a number. Terms of equal syntax are
equal, and so are terms that are the same object. Where no active binding holds such a word,
equal terms resolve to equal terms.
-/
theorem sameValue_partialEquivalence
    : PartialEquivalence (fun first second : Term => first.sameValue second = true)
      ∧ (∀ term : Term,
          term.sameValue term = true ↔ ∀ word, term.HoldsWord word → word.isNaN = false)
      ∧ (∀ first second : Term, first.sameSyntax second = true → first.sameValue second = true)
      ∧ (∀ first second : Term, first.sameObject second = true → first.sameValue second = true)
      ∧ ∀ (substitution : Substitution Term) (first second : Term),
          substitution.AllBound
            (fun term => ∀ word, term.HoldsWord word → word.isNaN = false)
          → first.sameValue second = true
          → (substitution.resolve first).sameValue (substitution.resolve second) = true := by
  refine ⟨⟨?_, sameValue_trans⟩, ?_, ?_, ?_, ?_⟩
  · exact fun same => (sameValue_comm _ _).trans same
  · intro term
    rw [sameValue_self, nanFree_iff]
  · exact fun _ _ => sameValue_of_sameSyntax
  · exact fun _ _ same => sameValue_of_sameSyntax (sameSyntax_of_sameObject same)
  · intro substitution first second numbers same
    have numeric : substitution.AllBound (Term.nanFree · = true) :=
      fun name term found => (nanFree_iff term).mpr (numbers name term found)
    exact sameValue_replace (Substitution.nanFree_expand numeric _ _) same

/-- A truth value, the unit and an integer have one representation, as do the two zeros, and a
variable next to them resolves to the same suspended value. A suspended word that is no number
does not equal itself, and a function equals itself as an object.
-/
theorem sameValue_partialEquivalence_across_kinds
    : (compound 1 [atom (.bool false), atom (.float ⟨0⟩), var ⟨0⟩]).sameValue
          (compound 1 [atom (.int 0), atom (.float ⟨0x8000000000000000⟩), var ⟨0⟩])
        = true
      ∧ (Substitution.resolve ⟨[(⟨0⟩, lazy (atom (.floats [⟨0⟩])))]⟩
            (compound 1 [atom (.bool false), atom (.float ⟨0⟩), var ⟨0⟩])).sameValue
          (Substitution.resolve ⟨[(⟨0⟩, lazy (atom (.floats [⟨0⟩])))]⟩
            (compound 1 [atom (.int 0), atom (.float ⟨0x8000000000000000⟩), var ⟨0⟩]))
        = true
      ∧ (lazy (atom (.floats [⟨0⟩, ⟨0x7ff8000000000000⟩]))).sameValue
          (lazy (atom (.floats [⟨0⟩, ⟨0x7ff8000000000000⟩])))
        = false
      ∧ (atom (.function ⟨"id"⟩)).sameValue (atom (.function ⟨"id"⟩)) = true := by
  obtain ⟨equivalence, reflexive, _, objects, resolved⟩ := sameValue_partialEquivalence
  have left
      : (compound 1 [atom .unit, atom (.float ⟨0x8000000000000000⟩), var ⟨0⟩]).sameValue
          (compound 1 [atom (.bool false), atom (.float ⟨0⟩), var ⟨0⟩])
        = true := by decide
  have right
      : (compound 1 [atom .unit, atom (.float ⟨0x8000000000000000⟩), var ⟨0⟩]).sameValue
          (compound 1 [atom (.int 0), atom (.float ⟨0x8000000000000000⟩), var ⟨0⟩])
        = true := by decide
  have numeric
      : Substitution.AllBound (nanFree · = true) ⟨[(⟨0⟩, lazy (atom (.floats [⟨0⟩])))]⟩ :=
    Substitution.allBound_of_bindings (by decide)
  have same := equivalence.trans (equivalence.symm left) right
  refine ⟨same, resolved _ _ _ ?_ same, ?_, objects _ _ (by decide)⟩
  · exact fun name term found => (nanFree_iff term).mp (numeric name term found)
  · rw [Bool.eq_false_iff]
    intro itself
    have number := (reflexive _).mp itself ⟨0x7ff8000000000000⟩ (.lazy (.atom (by decide)))
    exact Bool.false_ne_true (number.symm.trans (by decide))

end Term

end Unification
