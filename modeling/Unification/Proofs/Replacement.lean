import Unification.Proofs.ValueEquality

/-! Terms under replacement of their variables. Replacement looks only at the variables
that occur, composes, and keeps equality by representation as long as the assigned terms
hold only numbers.
-/

namespace Unification

namespace Term

mutual

/-- Replacement depends on the occurring variables only, by descent into the term. -/
theorem replace_congr (term : Term) {first second : Var → Term}
    (agree : ∀ name, term.occurs name = true → first name = second name)
    : term.replace first = term.replace second := by
  cases term with
  | var name => exact agree name (by simp [occurs])
  | atom _ | lazy _ => rfl
  | compound tag fields =>
      simp only [replace, compound.injEq, true_and]
      exact replaceAll_congr fields agree

/-- Replacement in several terms depends on the variables in them only. -/
theorem replaceAll_congr (fields : List Term) {first second : Var → Term}
    (agree : ∀ name, occursInFields name fields = true → first name = second name)
    : replaceAll first fields = replaceAll second fields := by
  cases fields with
  | nil => rfl
  | cons field rest =>
      simp only [replaceAll, List.cons.injEq]
      constructor
      · exact replace_congr field
          (fun name occurs => agree name (by simp [occursInFields, occurs]))
      · exact replaceAll_congr rest
          (fun name occurs => agree name (by simp [occursInFields, occurs]))

end

mutual

/-- Two replacements in a row are one, which replaces in the assigned terms. -/
theorem replace_replace (term : Term) (first second : Var → Term)
    : (term.replace first).replace second
      = term.replace (fun name => (first name).replace second) := by
  cases term with
  | var _ | atom _ | lazy _ => rfl
  | compound tag fields => simp only [replace, replaceAll_replaceAll fields first second]

/-- Two replacements in a row in several terms are one. -/
theorem replaceAll_replaceAll (fields : List Term) (first second : Var → Term)
    : replaceAll second (replaceAll first fields)
      = replaceAll (fun name => (first name).replace second) fields := by
  cases fields with
  | nil => rfl
  | cons field rest =>
      simp only [replaceAll, replace_replace field, replaceAll_replaceAll rest]

end

mutual

/-- Terms of numbers in a term of numbers hold only numbers. -/
theorem nanFree_replace (term : Term) {assigned : Var → Term}
    (numeric : ∀ name, (assigned name).nanFree = true) (termNumeric : term.nanFree = true)
    : (term.replace assigned).nanFree = true := by
  cases term with
  | var name => exact numeric name
  | atom _ | lazy _ => exact termNumeric
  | compound tag fields => exact areNanFree_replaceAll fields numeric termNumeric

/-- Terms of numbers in several terms of numbers hold only numbers. -/
theorem areNanFree_replaceAll (fields : List Term) {assigned : Var → Term}
    (numeric : ∀ name, (assigned name).nanFree = true)
    (fieldsNumeric : areNanFree fields = true)
    : areNanFree (replaceAll assigned fields) = true := by
  cases fields with
  | nil => rfl
  | cons field rest =>
      simp only [areNanFree, replaceAll, Bool.and_eq_true] at fieldsNumeric ⊢
      exact ⟨nanFree_replace field numeric fieldsNumeric.1,
        areNanFree_replaceAll rest numeric fieldsNumeric.2⟩

end

mutual

/-- Equal terms stay equal when their variables are replaced by terms of numbers. -/
theorem sameValue_replace {first second : Term} {assigned : Var → Term}
    (numeric : ∀ name, (assigned name).nanFree = true) (same : first.sameValue second = true)
    : (first.replace assigned).sameValue (second.replace assigned) = true := by
  cases first <;> cases second <;> simp only [sameValue, Bool.false_eq_true] at same
  case var.var name other =>
    rw [beq_iff_eq] at same
    rw [same, sameValue_self]
    exact numeric other
  case atom.atom => exact same
  case lazy.lazy => exact same
  case compound.compound =>
    simp only [replace, sameValue, Bool.and_eq_true] at same ⊢
    exact ⟨same.1, sameValues_replaceAll numeric same.2⟩

/-- Several equal terms stay equal when their variables are replaced by terms of numbers.
-/
theorem sameValues_replaceAll {first second : List Term} {assigned : Var → Term}
    (numeric : ∀ name, (assigned name).nanFree = true) (same : sameValues first second = true)
    : sameValues (replaceAll assigned first) (replaceAll assigned second) = true := by
  cases first <;> cases second <;> simp only [sameValues, Bool.false_eq_true] at same
  case nil.nil => rfl
  case cons.cons =>
    simp only [replaceAll, sameValues, Bool.and_eq_true] at same ⊢
    exact ⟨sameValue_replace numeric same.1, sameValues_replaceAll numeric same.2⟩

end

mutual

/-- A term of numbers becomes equal terms under two replacements that assign equal ones. -/
theorem sameValue_of_replacements (term : Term) {first second : Var → Term}
    (same : ∀ name, (first name).sameValue (second name) = true)
    (numeric : term.nanFree = true)
    : (term.replace first).sameValue (term.replace second) = true := by
  cases term with
  | var name => exact same name
  | atom _ | lazy _ => exact (sameValue_self _).trans numeric
  | compound tag fields =>
      simp only [replace, sameValue, Bool.and_eq_true, beq_iff_eq]
      exact ⟨trivial, sameValues_of_replacements fields same numeric⟩

/-- Several terms of numbers become equal terms under such replacements. -/
theorem sameValues_of_replacements (fields : List Term) {first second : Var → Term}
    (same : ∀ name, (first name).sameValue (second name) = true)
    (numeric : areNanFree fields = true)
    : sameValues (replaceAll first fields) (replaceAll second fields) = true := by
  cases fields with
  | nil => rfl
  | cons field rest =>
      simp only [areNanFree, replaceAll, sameValues, Bool.and_eq_true] at numeric ⊢
      exact ⟨sameValue_of_replacements field same numeric.1,
        sameValues_of_replacements rest same numeric.2⟩

end

end Term

end Unification
