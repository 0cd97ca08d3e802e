import Mathlib.Data.List.Forall2
import Unification.Proofs.DecimalDigits
import Unification.Term.Display
import Unification.Term.Equality

/-! The display form of symbolic terms is canonical: terms made of variables, immediate atoms
and compounds are displayed alike exactly when they are equal by representation. A symbolic
term in front of a text is determined by the text up to that equality, as long as no digit
follows it, and the text tells where the term ends. Fields and bindings are always followed
by a letter that is no digit, so they can be told apart in turn.
-/

namespace Unification

open Numeric
open Term (var atom compound)

-----------------------------------------------------------------------------------------
-- Integers in front of a text
-----------------------------------------------------------------------------------------

/-- An integer is written as its digits, behind a sign when it is negative. -/
theorem toList_toString_int (number : Int)
    : (toString number).toList
      = (if 0 ≤ number then [] else ['-']) ++ Nat.toDigits 10 number.natAbs := by
  rw [Int.toString_eq_repr, Int.repr_eq_if]
  split
  case isTrue positive =>
    rw [Nat.toList_repr, List.nil_append, show number.toNat = number.natAbs by omega]
  case isFalse negative =>
    rw [String.toList_append, Nat.toList_repr, show (-number).toNat = number.natAbs by omega]
    rfl

/-- A text that starts with an integer starts with a sign or a digit. -/
theorem toString_int_append_ne_cons {number : Int} {letter : Char} {rest other : List Char}
    (noSign : letter ≠ '-') (noDigit : letter.isDigit = false)
    : (toString number).toList ++ rest ≠ letter :: other := by
  rw [toList_toString_int]
  split
  case isTrue positive => exact toDigits_append_ne_cons noDigit
  case isFalse negative => exact fun same => noSign (List.cons.inj same).1.symm

/-- An integer in front of a text is determined by the text, and so is what follows it. -/
theorem toString_int_append_inj {first second : Int} {rest other : List Char}
    (ends : EndsDigits rest) (otherEnds : EndsDigits other)
    (same : (toString first).toList ++ rest = (toString second).toList ++ other)
    : first = second ∧ rest = other := by
  rw [toList_toString_int, toList_toString_int] at same
  split at same <;> split at same
  case isTrue.isTrue =>
    obtain ⟨magnitudes, rests⟩ := toDigits_append_inj ends otherEnds same
    exact ⟨by omega, rests⟩
  case isTrue.isFalse => exact (toDigits_append_ne_cons (by decide) same).elim
  case isFalse.isTrue => exact (toDigits_append_ne_cons (by decide) same.symm).elim
  case isFalse.isFalse =>
    obtain ⟨magnitudes, rests⟩ := toDigits_append_inj ends otherEnds (List.cons.inj same).2
    exact ⟨by omega, rests⟩

-----------------------------------------------------------------------------------------
-- Symbolic terms and their texts
-----------------------------------------------------------------------------------------

/-- An immediate atom is displayed as the integer that represents it. -/
theorem Atom.display_of_immediate {value : Atom} {number : Int64}
    (immediate : value.immediate? = some number)
    : value.display = toString number.toInt := by
  cases value with
  | int =>
      cases immediate
      rfl
  | char letter =>
      cases immediate
      have small : letter.toNat < 2 ^ 63 := Nat.lt_trans letter.val.toNat_lt (by decide)
      rw [display, Int64.toInt_ofNat_of_lt small]
      rfl
  | bool truth =>
      cases immediate
      cases truth <;> rfl
  | unit =>
      cases immediate
      rfl
  | _ => cases immediate

namespace Term

/-- A term is symbolic when it is built of variables, immediate atoms and compounds only. -/
inductive Symbolic : Term → Prop
  | var (name : Var) : Symbolic (var name)
  | immediate {value number} (represented : Atom.immediate? value = some number)
    : Symbolic (atom value)
  | compound {tag fields} (each : ∀ field ∈ fields, Symbolic field)
    : Symbolic (compound tag fields)

theorem toList_display_var (name : Var)
    : (var name).display.toList = ['<', 'v'] ++ (Nat.toDigits 10 name.id.toNat ++ ['>']) := by
  simp [display, Var.display]

theorem toList_display_compound (tag : UInt8) (fields : List Term)
    : (compound tag fields).display.toList
      = 'C' :: (Nat.toDigits 10 tag.toNat
          ++ '(' :: ((displayFields fields).toList ++ [')'])) := by
  simp [display]

theorem toList_displayFields_cons (field : Term) (fields : List Term)
    : (displayFields (field :: fields)).toList
      = '(' :: (field.display.toList ++ ')' :: (displayFields fields).toList) := by
  simp [displayFields]

mutual

/-- Symbolic terms that are equal by representation are displayed alike, by descent into the
first of them.
-/
theorem Symbolic.display_eq {first second : Term} (left : Symbolic first)
    (right : Symbolic second) (same : first.sameValue second = true)
    : first.display = second.display := by
  cases left <;> cases right <;> simp only [sameValue, Bool.false_eq_true] at same
  case var.var => rw [beq_iff_eq.mp same]
  case immediate.immediate _ _ represented _ _ again =>
    rw [Atom.sameValue, represented, again] at same
    rw [display, display, Atom.display_of_immediate represented,
      Atom.display_of_immediate again, beq_iff_eq.mp same]
  case compound.compound _ _ each _ _ eachOther =>
    rw [Bool.and_eq_true, beq_iff_eq] at same
    rw [display, display, same.1, displayFields_eq each eachOther same.2]

/-- The same of several terms in order. -/
theorem displayFields_eq {first second : List Term} (left : ∀ field ∈ first, Symbolic field)
    (right : ∀ field ∈ second, Symbolic field) (same : sameValues first second = true)
    : displayFields first = displayFields second := by
  cases first <;> cases second <;> simp only [sameValues, Bool.false_eq_true] at same
  case nil.nil => rfl
  case cons.cons =>
    rw [Bool.and_eq_true] at same
    rw [List.forall_mem_cons] at left right
    rw [displayFields, displayFields, left.1.display_eq right.1 same.1,
      displayFields_eq left.2 right.2 same.2]

end

mutual

/-- A symbolic term in front of a text is determined by the text up to equality by
representation, and so is what follows it, by descent into the term. The first letter tells
which of the three kinds it is.
-/
theorem Symbolic.display_append_inj {first second : Term} (left : Symbolic first)
    (right : Symbolic second) {rest other : List Char} (ends : EndsDigits rest)
    (otherEnds : EndsDigits other)
    (same : first.display.toList ++ rest = second.display.toList ++ other)
    : first.sameValue second = true ∧ rest = other := by
  cases left with
  | var name =>
      cases right with
      | var again =>
          simp only [toList_display_var, List.append_assoc] at same
          obtain ⟨numbers, tails⟩ := toDigits_append_inj (endsDigits_cons (by decide))
            (endsDigits_cons (by decide)) (List.append_cancel_left same)
          rw [sameValue, (Var.eq_iff name again).mpr numbers]
          exact ⟨beq_self_eq_true _, (List.cons.inj tails).2⟩
      | immediate represented =>
          rw [toList_display_var, display, Atom.display_of_immediate represented] at same
          exact (toString_int_append_ne_cons (by decide) (by decide) same.symm).elim
      | compound _ =>
          rw [toList_display_var, toList_display_compound] at same
          exact absurd (List.cons.inj same).1 (by decide)
  | immediate represented =>
      rw [display, Atom.display_of_immediate represented] at same
      cases right with
      | var name =>
          rw [toList_display_var] at same
          exact (toString_int_append_ne_cons (by decide) (by decide) same).elim
      | immediate again =>
          rw [display, Atom.display_of_immediate again] at same
          obtain ⟨numbers, rests⟩ := toString_int_append_inj ends otherEnds same
          rw [sameValue, Atom.sameValue, represented, again]
          exact ⟨beq_iff_eq.mpr (Int64.toInt_inj.mp numbers), rests⟩
      | compound _ =>
          rw [toList_display_compound] at same
          exact (toString_int_append_ne_cons (by decide) (by decide) same).elim
  | compound each =>
      cases right with
      | var name =>
          rw [toList_display_var, toList_display_compound] at same
          exact absurd (List.cons.inj same).1 (by decide)
      | immediate represented =>
          rw [toList_display_compound, display, Atom.display_of_immediate represented] at same
          exact (toString_int_append_ne_cons (by decide) (by decide) same.symm).elim
      | compound eachOther =>
          simp only [toList_display_compound, List.cons_append, List.append_assoc,
            List.nil_append] at same
          obtain ⟨tags, tails⟩ := toDigits_append_inj (endsDigits_cons (by decide))
            (endsDigits_cons (by decide)) (List.cons.inj same).2
          obtain ⟨fields, rests⟩ :=
            displayFields_append_inj each eachOther (List.cons.inj tails).2
          rw [sameValue, UInt8.toNat_inj.mp tags, fields]
          exact ⟨by simp, rests⟩

/-- The same of several terms, each between parentheses, in front of the parenthesis that
closes their compound.
-/
theorem displayFields_append_inj {first second : List Term} {rest other : List Char}
    (left : ∀ field ∈ first, Symbolic field) (right : ∀ field ∈ second, Symbolic field)
    (same : (displayFields first).toList ++ ')' :: rest
      = (displayFields second).toList ++ ')' :: other)
    : sameValues first second = true ∧ rest = other := by
  cases first <;> cases second
  case nil.nil => exact ⟨rfl, (List.cons.inj same).2⟩
  case nil.cons => simp [displayFields] at same
  case cons.nil => simp [displayFields] at same
  case cons.cons field fields again others =>
    rw [List.forall_mem_cons] at left right
    simp only [toList_displayFields_cons, List.cons_append, List.append_assoc] at same
    obtain ⟨heads, tails⟩ := left.1.display_append_inj right.1 (endsDigits_cons (by decide))
      (endsDigits_cons (by decide)) (List.cons.inj same).2
    obtain ⟨rests, ends⟩ := displayFields_append_inj left.2 right.2 (List.cons.inj tails).2
    exact ⟨by rw [sameValues, heads, rests, Bool.and_self], ends⟩

end

end Term

-----------------------------------------------------------------------------------------
-- Bindings and their texts
-----------------------------------------------------------------------------------------

namespace Substitution

/-- The text of the bindings behind the first one, each with the separator before it. -/
def laterText : List (Var × Term) → List Char
  | [] => []
  | binding :: rest =>
      [' ', ',', ' '] ++ ((displayBinding binding).toList ++ laterText rest)

/-- What follows a binding starts with a blank, if it is not empty. -/
theorem endsDigits_laterText (bindings : List (Var × Term))
    : EndsDigits (laterText bindings) := by
  cases bindings with
  | nil => exact endsDigits_nil
  | cons binding rest => exact endsDigits_cons (by decide)

theorem toList_display_cons (binding : Var × Term) (rest : List (Var × Term))
    : (display ⟨binding :: rest⟩).toList
      = (displayBinding binding).toList ++ laterText rest := by
  induction rest generalizing binding with
  | nil => simp [display, laterText]
  | cons next rest ih =>
      have shown := ih next
      simp only [display, List.map_cons] at shown ⊢
      rw [String.intercalate_cons_cons, String.toList_append, String.toList_append, shown,
        laterText, List.append_assoc]
      rfl

/-- The text of a binding is that of its variable as a term, a stroke and the text of the
value.
-/
theorem toList_displayBinding (binding : Var × Term)
    : (displayBinding binding).toList
      = (var binding.1).display.toList ++ ' ' :: '/' :: ' ' :: binding.2.display.toList := by
  simp [displayBinding, Term.display]

/-- A binding in front of a text is determined by the text, the value up to equality by
representation, and so is what follows it.
-/
theorem displayBinding_append_inj {first second : Var × Term} {rest other : List Char}
    (left : first.2.Symbolic) (right : second.2.Symbolic) (ends : EndsDigits rest)
    (otherEnds : EndsDigits other)
    (same : (displayBinding first).toList ++ rest = (displayBinding second).toList ++ other)
    : (first.1 = second.1 ∧ first.2.sameValue second.2 = true) ∧ rest = other := by
  simp only [toList_displayBinding, List.append_assoc, List.cons_append] at same
  obtain ⟨names, tails⟩ := (Term.Symbolic.var first.1).display_append_inj (.var second.1)
    (endsDigits_cons (by decide)) (endsDigits_cons (by decide)) same
  simp only [List.cons.injEq, true_and] at tails
  obtain ⟨values, rests⟩ := left.display_append_inj right ends otherEnds tails
  exact ⟨⟨beq_iff_eq.mp names, values⟩, rests⟩

/-- Bindings behind others are determined by their text, by induction on them. -/
theorem laterText_inj {first second : List (Var × Term)}
    (left : ∀ binding ∈ first, binding.2.Symbolic)
    (right : ∀ binding ∈ second, binding.2.Symbolic)
    (same : laterText first = laterText second)
    : List.Forall₂ (fun bound other => bound.1 = other.1 ∧ bound.2.sameValue other.2 = true)
        first second := by
  induction first generalizing second with
  | nil =>
      cases second with
      | nil => exact .nil
      | cons _ _ => cases same
  | cons bound first ih =>
      cases second with
      | nil => cases same
      | cons other second =>
          rw [List.forall_mem_cons] at left right
          obtain ⟨agree, rests⟩ := displayBinding_append_inj left.1 right.1
            (endsDigits_laterText first) (endsDigits_laterText second)
            (List.append_cancel_left same)
          exact .cons agree (ih left.2 right.2 rests)

/-- A substitution with a binding has a text, which starts with the variable. -/
theorem display_cons_ne_empty (binding : Var × Term) (rest : List (Var × Term))
    : display ⟨binding :: rest⟩ ≠ "" := by
  intro same
  have letters := congrArg String.toList same
  rw [toList_display_cons, toList_displayBinding, Term.toList_display_var] at letters
  cases letters

/-- Substitutions with symbolic values are displayed alike exactly when their bindings agree
one by one.
-/
theorem display_eq_iff_forall₂ {first second : List (Var × Term)}
    (left : ∀ binding ∈ first, binding.2.Symbolic)
    (right : ∀ binding ∈ second, binding.2.Symbolic)
    : display ⟨first⟩ = display ⟨second⟩
      ↔ List.Forall₂ (fun bound other => bound.1 = other.1 ∧ bound.2.sameValue other.2 = true)
          first second := by
  constructor
  · intro same
    cases first <;> cases second
    case nil.nil => exact .nil
    case nil.cons => exact (display_cons_ne_empty _ _ same.symm).elim
    case cons.nil => exact (display_cons_ne_empty _ _ same).elim
    case cons.cons =>
      have letters := congrArg String.toList same
      rw [toList_display_cons, toList_display_cons] at letters
      exact laterText_inj left right (congrArg ([' ', ',', ' '] ++ ·) letters)
  · intro agree
    have texts : first.map displayBinding = second.map displayBinding := by
      induction agree with
      | nil => rfl
      | cons bound _ ih =>
          rw [List.forall_mem_cons] at left right
          rw [List.map_cons, List.map_cons, ih left.2 right.2, displayBinding, displayBinding,
            bound.1, left.1.display_eq right.1 bound.2]
    rw [display, display, texts]

end Substitution

/-- Symbolic terms are displayed alike exactly when they are equal by representation. Two
substitutions all of whose values are symbolic, those in hidden bindings included, are
displayed alike exactly when they have the same number of bindings and, at each place, the
same variable and values equal by representation.
-/
theorem display_canonical
    : (∀ first second : Term,
        first.Symbolic
        → second.Symbolic
        → (first.display = second.display ↔ first.sameValue second = true))
      ∧ ∀ first second : Substitution Term,
          (∀ binding ∈ first.bindings, binding.2.Symbolic)
          → (∀ binding ∈ second.bindings, binding.2.Symbolic)
          → (first.display = second.display
            ↔ first.size = second.size
              ∧ ∀ (index : Nat) (bound other : Var × Term),
                  first.bindings[index]? = some bound
                  → second.bindings[index]? = some other
                  → bound.1 = other.1 ∧ bound.2.sameValue other.2 = true) := by
  constructor
  · intro first second left right
    refine ⟨fun same => ?_, left.display_eq right⟩
    exact (left.display_append_inj right endsDigits_nil endsDigits_nil (by rw [same])).1
  · intro first second left right
    rw [Substitution.display_eq_iff_forall₂ left right, List.forall₂_iff_get]
    refine and_congr_right fun lengths => ⟨?_, ?_⟩
    · intro agree index bound other atBound atOther
      obtain ⟨within, rfl⟩ := List.getElem?_eq_some_iff.mp atBound
      obtain ⟨also, rfl⟩ := List.getElem?_eq_some_iff.mp atOther
      exact agree index within also
    · intro agree index within also
      exact agree index _ _ (List.getElem?_eq_getElem within) (List.getElem?_eq_getElem also)

/-- A character is displayed as its integer, also within a compound, and another tag shows. So
do two substitutions with the same variables, the one of which binds unit where the other
binds false.
-/
theorem display_canonical_of_nested_compounds
    : (compound 1 [compound 2 [], atom (.char 'a')]).display
        = (compound 1 [compound 2 [], atom (.int 97)]).display
      ∧ (compound 1 [compound 2 [], atom (.char 'a')]).display
        ≠ (compound 12 [compound 2 [], atom (.int 97)]).display
      ∧ Substitution.display ⟨[(⟨0⟩, var ⟨1⟩), (⟨0⟩, atom .unit)]⟩
        = Substitution.display ⟨[(⟨0⟩, var ⟨1⟩), (⟨0⟩, atom (.bool false))]⟩ := by
  obtain ⟨terms, substitutions⟩ := display_canonical
  have symbolic (tag : UInt8) {last : Atom} {number : Int64}
      (represented : last.immediate? = some number)
      : (compound tag [compound 2 [], atom last]).Symbolic :=
    .compound (List.forall_mem_cons.mpr
      ⟨.compound nofun, List.forall_mem_singleton.mpr (.immediate represented)⟩)
  have values {last : Atom} {number : Int64} (represented : last.immediate? = some number)
      : ∀ binding ∈ [((⟨0⟩ : Var), var ⟨1⟩), (⟨0⟩, atom last)], binding.2.Symbolic :=
    List.forall_mem_cons.mpr ⟨.var _, List.forall_mem_singleton.mpr (.immediate represented)⟩
  refine ⟨(terms _ _ (symbolic 1 rfl) (symbolic 1 rfl)).mpr (by decide), ?_, ?_⟩
  · intro same
    have equal := (terms _ _ (symbolic 1 rfl) (symbolic 12 rfl)).mp same
    exact absurd equal (by decide)
  · refine (substitutions _ _ (values rfl) (values rfl)).mpr ⟨rfl, ?_⟩
    rintro (_ | _ | index) bound other atBound atOther <;> cases atBound <;> cases atOther <;>
      exact ⟨rfl, by decide⟩

end Unification
