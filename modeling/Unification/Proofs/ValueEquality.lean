import Unification.Substitution.Resolve

/-! Laws of equality by representation. It is symmetric and transitive on all terms, and a
term equals itself exactly when no floating-point payload in it, suspended contents
included, is something other than a number.
-/

namespace Unification

namespace Numeric.Binary64

/-- Numeric equality does not depend on the order of its sides. -/
theorem equal_comm (first second : Binary64) : first.equal second = second.equal first := by
  rw [equal, equal, Bool.and_comm (!first.isNaN), Bool.and_comm first.isZero]
  rw [show (first.bits == second.bits) = (second.bits == first.bits) from Bool.beq_comm]

/-- A word equals itself exactly when it is a number. -/
theorem equal_self (number : Binary64) : number.equal number = !number.isNaN := by
  simp [equal]

/-- Equality chains through one word or through the two zeros. -/
theorem equal_trans {first second third : Binary64} (left : first.equal second = true)
    (right : second.equal third = true)
    : first.equal third = true := by
  simp only [equal, Bool.and_eq_true, Bool.or_eq_true, Bool.not_eq_true', beq_iff_eq]
    at left right ⊢
  obtain ⟨⟨firstNumber, _⟩, sameLeft⟩ := left
  obtain ⟨⟨_, thirdNumber⟩, sameRight⟩ := right
  refine ⟨⟨firstNumber, thirdNumber⟩, ?_⟩
  rcases sameLeft with sameWord | ⟨firstZero, secondZero⟩
  · have same : first = second := congrArg Binary64.mk sameWord
    rw [same]
    exact sameRight
  · rcases sameRight with sameWord | ⟨_, thirdZero⟩
    · have same : second = third := congrArg Binary64.mk sameWord
      exact .inr ⟨firstZero, same ▸ secondZero⟩
    · exact .inr ⟨firstZero, thirdZero⟩

/-- Equality of several numbers in order is symmetric, by induction on the list. -/
theorem isEqv_equal_comm (first second : List Binary64)
    : first.isEqv second equal = second.isEqv first equal := by
  induction first generalizing second with
  | nil => cases second <;> rfl
  | cons head tail ih =>
      cases second with
      | nil => rfl
      | cons other rest => simp only [List.isEqv_cons_cons, ih, equal_comm head]

/-- Equality of several numbers in order is transitive, by induction on the list. -/
theorem isEqv_equal_trans {first second third : List Binary64}
    (left : first.isEqv second equal = true) (right : second.isEqv third equal = true)
    : first.isEqv third equal = true := by
  induction first generalizing second third with
  | nil =>
      cases second with
      | nil => exact right
      | cons _ _ => cases left
  | cons head tail ih =>
      cases second with
      | nil => cases left
      | cons middle rest =>
          cases third with
          | nil => cases right
          | cons last others =>
              simp only [List.isEqv_cons_cons, Bool.and_eq_true] at left right ⊢
              exact ⟨equal_trans left.1 right.1, ih left.2 right.2⟩

/-- Several words equal themselves exactly when all of them are numbers. -/
theorem isEqv_equal_self (numbers : List Binary64)
    : numbers.isEqv numbers equal = numbers.all (fun number => !number.isNaN) := by
  induction numbers with
  | nil => rfl
  | cons head tail ih => simp [List.isEqv_cons_cons, ih, equal_self]

end Numeric.Binary64

namespace Atom

/-- Whether every floating-point payload of an atom is a number. -/
def nanFree : Atom → Bool
  | float value => !value.isNaN
  | floats values => values.all (fun value => !value.isNaN)
  | _ => true

/-- The floating-point words in an atom. -/
def words : Atom → List Numeric.Binary64
  | float word => [word]
  | floats words => words
  | _ => []

theorem nanFree_iff (value : Atom)
    : value.nanFree = true ↔ ∀ word ∈ value.words, word.isNaN = false := by
  cases value <;> simp [nanFree, words]

/-- Equality of kind and payload does not depend on the order of its sides. -/
theorem sameSyntax_comm (first second : Atom)
    : first.sameSyntax second = second.sameSyntax first := by
  cases first <;> cases second <;>
    first
    | rfl
    | exact Bool.beq_comm
    | exact Numeric.Binary64.equal_comm _ _
    | exact Numeric.Binary64.isEqv_equal_comm _ _

/-- Equality of kind and payload is transitive: all three atoms are of one kind. -/
theorem sameSyntax_trans {first second third : Atom} (left : first.sameSyntax second = true)
    (right : second.sameSyntax third = true)
    : first.sameSyntax third = true := by
  cases first <;> cases second <;> try cases left
  all_goals cases third <;> try cases right
  case float => exact Numeric.Binary64.equal_trans left right
  case floats => exact Numeric.Binary64.isEqv_equal_trans left right
  case unit => rfl
  all_goals exact beq_iff_eq.mpr ((beq_iff_eq.mp left).trans (beq_iff_eq.mp right))

/-- An atom is of its own kind, and its payload equals itself unless it is not a number. -/
theorem sameSyntax_self (value : Atom) : value.sameSyntax value = value.nanFree := by
  cases value
  case float value => exact Numeric.Binary64.equal_self value
  case floats values => exact Numeric.Binary64.isEqv_equal_self values
  case unit => rfl
  all_goals exact beq_self_eq_true _

/-- Immediate atoms hold no floating-point payload. -/
theorem nanFree_of_immediate {value : Atom} {number : Int64}
    (immediate : value.immediate? = some number)
    : value.nanFree = true := by
  cases value <;> first | rfl | cases immediate

/-- Atoms equal in kind and payload are represented by one integer, or neither is by any. -/
theorem immediate?_eq_of_sameSyntax {first second : Atom}
    (same : first.sameSyntax second = true)
    : first.immediate? = second.immediate? := by
  cases first <;> cases second <;> try cases same
  case int | char | bool => rw [beq_iff_eq.mp same]
  all_goals rfl

/-- Atoms are equal by value when both are immediate with one integer, or neither is and
they agree in kind and payload. A boxed atom never equals an immediate one.
-/
theorem sameValue_iff (first second : Atom)
    : first.sameValue second = true
      ↔ (∃ number, first.immediate? = some number ∧ second.immediate? = some number)
        ∨ (first.immediate? = none
          ∧ second.immediate? = none
          ∧ first.sameSyntax second = true) := by
  have together : first.sameSyntax second = true
      → first.immediate?.isSome = second.immediate?.isSome :=
    fun same => congrArg Option.isSome (immediate?_eq_of_sameSyntax same)
  unfold sameValue
  cases left : first.immediate? <;> cases right : second.immediate? <;>
    simp only [left, right, Option.isSome_none, Option.isSome_some] at together ⊢
  · simp
  · simpa using together
  · simpa using together
  · simp only [beq_iff_eq, Option.some.injEq, exists_eq_left', reduceCtorEq, false_and,
      or_false]
    exact eq_comm

/-- Equality by value does not depend on the order of its sides. -/
theorem sameValue_comm (first second : Atom)
    : first.sameValue second = second.sameValue first := by
  rw [Bool.eq_iff_iff, sameValue_iff, sameValue_iff, sameSyntax_comm first second]
  simp only [and_comm, and_left_comm]

/-- Equality by value is transitive, in each of its two cases. -/
theorem sameValue_trans {first second third : Atom} (left : first.sameValue second = true)
    (right : second.sameValue third = true)
    : first.sameValue third = true := by
  rw [sameValue_iff] at left right ⊢
  rcases left with ⟨number, atFirst, atSecond⟩ | ⟨atFirst, atSecond, same⟩
  · rcases right with ⟨other, again, atThird⟩ | ⟨again, _, _⟩
    · rw [atSecond] at again
      exact .inl ⟨number, atFirst, again ▸ atThird⟩
    · simp [atSecond] at again
  · rcases right with ⟨other, again, _⟩ | ⟨_, atThird, next⟩
    · simp [atSecond] at again
    · exact .inr ⟨atFirst, atThird, sameSyntax_trans same next⟩

/-- An atom equals itself exactly when its payload holds nothing but numbers. -/
theorem sameValue_self (value : Atom) : value.sameValue value = value.nanFree := by
  cases immediate : value.immediate? with
  | none => simp only [sameValue, immediate, sameSyntax_self]
  | some number => simp [sameValue, immediate, nanFree_of_immediate immediate]

end Atom

namespace Term

mutual

/-- Whether every floating-point payload of a term is a number, also those in suspended
contents.
-/
def nanFree : Term → Bool
  | var _ => true
  | atom value => value.nanFree
  | lazy contents => nanFree contents
  | compound _ fields => areNanFree fields

/-- Whether every floating-point payload of several terms is a number. -/
def areNanFree : List Term → Bool
  | [] => true
  | field :: rest => nanFree field && areNanFree rest

end

/-- Several terms hold only numbers exactly when each of them does. -/
theorem areNanFree_iff (fields : List Term)
    : areNanFree fields = true ↔ ∀ field ∈ fields, field.nanFree = true := by
  induction fields with
  | nil => simp [areNanFree]
  | cons field rest ih => simp [areNanFree, ih]

/-- A floating-point word that a term holds at some depth, also inside suspended values. -/
inductive HoldsWord : Term → Numeric.Binary64 → Prop
  | atom {value word} (member : word ∈ Atom.words value) : HoldsWord (atom value) word
  | lazy {contents word} (inside : HoldsWord contents word) : HoldsWord (lazy contents) word
  | field {tag fields field word} (member : field ∈ fields) (inside : HoldsWord field word)
    : HoldsWord (compound tag fields) word

mutual

/-- A term is free of words that are no numbers when it holds none at any depth, by descent
into the term.
-/
theorem nanFree_iff (term : Term)
    : term.nanFree = true ↔ ∀ word, term.HoldsWord word → word.isNaN = false := by
  cases term with
  | var name =>
      refine ⟨fun _ word held => ?_, fun _ => rfl⟩
      cases held
  | atom value =>
      rw [nanFree, Atom.nanFree_iff]
      exact ⟨fun numbers word (.atom member) => numbers word member,
        fun numbers word member => numbers word (.atom member)⟩
  | lazy contents =>
      rw [nanFree, nanFree_iff contents]
      exact ⟨fun numbers word (.lazy inside) => numbers word inside,
        fun numbers word inside => numbers word (.lazy inside)⟩
  | compound tag fields =>
      rw [nanFree, areNanFree_iff_holdsWord fields]
      exact ⟨fun numbers word (.field member inside) => numbers _ member word inside,
        fun numbers field member word inside => numbers word (.field member inside)⟩

/-- The same of several terms. -/
theorem areNanFree_iff_holdsWord (fields : List Term)
    : areNanFree fields = true
      ↔ ∀ field ∈ fields, ∀ word, HoldsWord field word → word.isNaN = false := by
  cases fields with
  | nil => simp [areNanFree]
  | cons field rest =>
      rw [areNanFree, Bool.and_eq_true, nanFree_iff field, areNanFree_iff_holdsWord rest,
        List.forall_mem_cons]

end

mutual

/-- Equality by representation does not depend on the order of its sides. -/
theorem sameValue_comm (first second : Term)
    : first.sameValue second = second.sameValue first := by
  cases first <;> cases second <;> simp only [sameValue]
  case var.var => exact Bool.beq_comm
  case atom.atom => exact Atom.sameValue_comm _ _
  case lazy.lazy left right => exact sameValue_comm left right
  case compound.compound tag fields other others =>
    rw [show (tag == other) = (other == tag) from Bool.beq_comm, sameValues_comm fields others]

/-- Equality of several terms in order does not depend on the order of its sides. -/
theorem sameValues_comm (first second : List Term)
    : sameValues first second = sameValues second first := by
  cases first <;> cases second <;> simp only [sameValues]
  case cons.cons head tail other rest =>
    rw [sameValue_comm head other, sameValues_comm tail rest]

end

mutual

/-- Equality by representation is transitive, by descent into the first term. -/
theorem sameValue_trans {first second third : Term} (left : first.sameValue second = true)
    (right : second.sameValue third = true)
    : first.sameValue third = true := by
  cases first <;> cases second <;> simp only [sameValue, Bool.false_eq_true] at left <;>
    cases third <;> simp only [sameValue, Bool.false_eq_true] at right ⊢
  case var =>
    rw [beq_iff_eq] at left right ⊢
    exact left.trans right
  case atom => exact Atom.sameValue_trans left right
  case lazy => exact sameValue_trans left right
  case compound =>
    rw [Bool.and_eq_true, beq_iff_eq] at left right ⊢
    exact ⟨left.1.trans right.1, sameValues_trans left.2 right.2⟩

/-- Equality of several terms in order is transitive. -/
theorem sameValues_trans {first second third : List Term}
    (left : sameValues first second = true) (right : sameValues second third = true)
    : sameValues first third = true := by
  cases first <;> cases second <;> simp only [sameValues, Bool.false_eq_true] at left <;>
    cases third <;> simp only [sameValues, Bool.false_eq_true] at right ⊢
  case cons =>
    rw [Bool.and_eq_true] at left right ⊢
    exact ⟨sameValue_trans left.1 right.1, sameValues_trans left.2 right.2⟩

end

mutual

/-- A term equals itself exactly when it holds only numbers. -/
theorem sameValue_self (term : Term) : term.sameValue term = term.nanFree := by
  cases term with
  | var name => simp [sameValue, nanFree]
  | atom value => exact Atom.sameValue_self value
  | lazy contents => exact sameValue_self contents
  | compound tag fields => simp [sameValue, nanFree, sameValues_self fields]

/-- Several terms equal themselves exactly when all of them hold only numbers. -/
theorem sameValues_self (fields : List Term)
    : sameValues fields fields = areNanFree fields := by
  cases fields with
  | nil => rfl
  | cons field rest => simp only [sameValues, areNanFree, sameValue_self, sameValues_self]

end

/-- Equality of several terms in order is equality at every index. -/
theorem sameValues_iff (first second : List Term)
    : sameValues first second = true
      ↔ first.length = second.length
        ∧ ∀ (index : Nat) (left right : Term),
            first[index]? = some left
            → second[index]? = some right
            → left.sameValue right = true := by
  induction first generalizing second with
  | nil => cases second <;> simp [sameValues]
  | cons head tail ih =>
      cases second with
      | nil => simp [sameValues]
      | cons other rest =>
          simp only [sameValues, Bool.and_eq_true, ih, List.length_cons,
            Nat.add_right_cancel_iff]
          constructor
          · rintro ⟨same, lengths, tails⟩
            refine ⟨lengths, ?_⟩
            intro index left right atLeft atRight
            cases index with
            | zero =>
                cases atLeft
                cases atRight
                exact same
            | succ index => exact tails index left right atLeft atRight
          · rintro ⟨lengths, each⟩
            exact ⟨each 0 head other rfl rfl, lengths,
              fun index left right => each (index + 1) left right⟩

end Term

end Unification
