import Mathlib.Algebra.Order.Group.Unbundled.Abs
import Mathlib.Tactic.NormNum
import Unification.VarSupply

/-! The order in which a supply issues its variables can be read off their identifiers. The
numbering goes round modulo the word range, so variables issued less than a full round apart
are distinct, and the lead of one over another is the difference of their places as long as
that fits a signed word.
-/

namespace Unification

open Term (var)

/-- The lead of a variable is the difference of the identifiers, reduced to a signed word. -/
theorem Var.toInt_lead (first second : Var)
    : (first.lead second).toInt
      = ((first.id.toNat : Int) - second.id.toNat).bmod (2 ^ 64) := by
  have signed (word : UInt64) : word.toInt64.toInt = (word.toNat : Int).bmod (2 ^ 64) :=
    BitVec.toInt_eq_toNat_bmod _
  rw [lead, Int64.toInt_sub, signed, signed, Int.bmod_sub_bmod, Int.sub_bmod_bmod]

namespace VarSupply

variable {supply : VarSupply} {requests : List Request}

/-- Either way of asking gives the next variable and moves the supply one word further. -/
theorem answer_eq (supply : VarSupply) (request : Request)
    : supply.answer request = (var ⟨supply.next⟩, ⟨supply.next + 1⟩) := by
  cases request <;> rfl

theorem length_issue (requests : List Request) (supply : VarSupply)
    : (issue requests supply).1.length = requests.length := by
  induction requests generalizing supply with
  | nil => rfl
  | cons request rest ih => simp [issue, ih]

/-- Each request moves the supply one word further, by induction on the requests. -/
theorem next_issue (requests : List Request) (supply : VarSupply)
    : (issue requests supply).2.next = supply.next + UInt64.ofNat requests.length := by
  induction requests generalizing supply with
  | nil => simp [issue]
  | cons request rest ih =>
      rw [issue, answer_eq]
      simp only [ih, List.length_cons, UInt64.ofNat_add, UInt64.ofNat_one]
      rw [UInt64.add_assoc, UInt64.add_comm 1]

/-- The place of a variable among those issued is how far its identifier lies from the first,
by induction on the requests.
-/
theorem getElem?_issue (requests : List Request) (supply : VarSupply) (index : Nat)
    (within : index < requests.length)
    : (issue requests supply).1[index]?
      = some (var ⟨supply.next + UInt64.ofNat index⟩) := by
  induction requests generalizing supply index with
  | nil => simp at within
  | cons request rest ih =>
      rw [issue, answer_eq]
      cases index with
      | zero => simp
      | succ index =>
          simp only [List.getElem?_cons_succ]
          rw [ih _ index (Nat.lt_of_succ_lt_succ within), UInt64.add_assoc,
            UInt64.add_comm 1, UInt64.ofNat_add, UInt64.ofNat_one]

/-- The identifier at a place goes round modulo the word range. -/
theorem toNat_id_of_issue {name : Var} {index : Nat}
    (issued : (issue requests supply).1[index]? = some (var name))
    : name.id.toNat = (supply.next.toNat + index) % 2 ^ 64 := by
  have within : index < requests.length := by
    rw [← length_issue requests supply]
    exact (List.getElem?_eq_some_iff.mp issued).1
  rw [getElem?_issue requests supply index within] at issued
  obtain rfl := Term.var.inj (Option.some.inj issued)
  rw [UInt64.toNat_add, UInt64.toNat_ofNat', Nat.add_mod_mod]

/-- However its variables are asked for, a supply issues one for each request and is left at
as many words behind its start, modulo the word range. Any two of the variables issued less
than a full round apart are distinct. The lead of one over another is the difference of
their places exactly when that difference fits a signed word, wherever the numbering went
round.
-/
theorem issue_order (first : UInt64) (requests : List Request)
    : (issue requests (startingAt first)).2.next.toNat
        = (first.toNat + requests.length) % 2 ^ 64
      ∧ (issue requests (startingAt first)).1.length = requests.length
      ∧ (∀ term ∈ (issue requests (startingAt first)).1, ∃ name, term = var name)
      ∧ ∀ (i j : Nat) (left right : Var),
          (issue requests (startingAt first)).1[i]? = some (var left)
          → (issue requests (startingAt first)).1[j]? = some (var right)
          → (0 < |(i : Int) - j| ∧ |(i : Int) - j| < 2 ^ 64 → left ≠ right)
            ∧ (((var left).lead? (var right)).map Int64.toInt = some ((i : Int) - j)
              ↔ -2 ^ 63 ≤ (i : Int) - j ∧ (i : Int) - j < 2 ^ 63) := by
  refine ⟨?_, length_issue requests _, ?_, ?_⟩
  · rw [next_issue, UInt64.toNat_add, UInt64.toNat_ofNat', Nat.add_mod_mod]
    rfl
  · intro term member
    obtain ⟨index, within, rfl⟩ := List.getElem_of_mem member
    have issued := getElem?_issue requests (startingAt first) index
      (length_issue requests _ ▸ within)
    exact ⟨_, Option.some.inj ((List.getElem?_eq_getElem within).symm.trans issued)⟩
  · intro i j left right issuedLeft issuedRight
    have leftId := toNat_id_of_issue issuedLeft
    have rightId := toNat_id_of_issue issuedRight
    constructor
    · rintro ⟨apart, near⟩ rfl
      rw [abs_pos] at apart
      rw [abs_lt] at near
      omega
    · -- The identifiers differ from the places by multiples of the word range only.
      have places
          : ((2 ^ 64 : Nat) : Int)
            ∣ ((i : Int) - j) - ((left.id.toNat : Int) - right.id.toNat) := by
        omega
      simp only [Term.lead?, Option.map_some, Option.some.injEq, Var.toInt_lead]
      rw [Int.bmod_eq_iff (by norm_num)]
      constructor
      · rintro ⟨lower, upper, _⟩
        omega
      · rintro ⟨lower, upper⟩
        exact ⟨by omega, by omega, places⟩

/-- The numbering goes round between the second variable and the third. The last variable has a
smaller number than the first, and is still three places ahead of it.
-/
theorem issue_order_past_wrap
    : (issue [.name, .term, .name, .term] (startingAt 0xfffffffffffffffe)).2.next.toNat = 2
      ∧ (issue [.name, .term, .name, .term] (startingAt 0xfffffffffffffffe)).1
        = [var ⟨0xfffffffffffffffe⟩, var ⟨0xffffffffffffffff⟩, var ⟨0⟩, var ⟨1⟩]
      ∧ (⟨1⟩ : Var) ≠ ⟨0xfffffffffffffffe⟩
      ∧ ((var ⟨1⟩).lead? (var ⟨0xfffffffffffffffe⟩)).map Int64.toInt = some 3 := by
  obtain ⟨next, _, _, order⟩ :=
    issue_order 0xfffffffffffffffe [.name, .term, .name, .term]
  obtain ⟨distinct, lead⟩ := order 3 0 ⟨1⟩ ⟨0xfffffffffffffffe⟩ rfl rfl
  exact ⟨next.trans rfl, rfl, distinct (by decide), lead.mpr (by decide)⟩

end VarSupply

end Unification
