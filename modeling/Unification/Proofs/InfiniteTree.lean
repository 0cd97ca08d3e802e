import Unification.Proofs.Solution

/-! Solutions in possibly infinite trees. An assignment of trees to the variables solves a
substitution when each variable's tree is that of its binding. A run loses no solution of
its start that makes both sides equal, and ends in no mismatch where there is one.
-/

namespace Unification

open Term (var compound)

-----------------------------------------------------------------------------------------
-- Trees as labels at paths
-----------------------------------------------------------------------------------------

/-- What stands at a place of a tree: a node with its tag and the count of its children, an
atom, a suspended value, or a constant that stands for a variable.
-/
inductive TreeLabel
  | node (tag : UInt8) (arity : Nat)
  | atom (value : Atom)
  | lazy (contents : Term)
  | constant (name : Var)

/-- Labels agree when they are of one sort with the same tag and arity, equal values, or the
same variable.
-/
def TreeLabel.agrees : TreeLabel → TreeLabel → Bool
  | node tag arity, node other count => tag == other && arity == count
  | atom left, atom right => left.sameValue right
  | lazy left, lazy right => left.sameValue right
  | constant left, constant right => left == right
  | _, _ => false

/-- A possibly infinite tree: the label at each path of child indices, if the path leads to
a place of the tree. There is a root, and below a place there are as many children as its
label says.
-/
structure Tree where
  label : List Nat → Option TreeLabel
  rooted : (label []).isSome = true
  branching : ∀ path index, (label (path ++ [index])).isSome = true
    ↔ ∃ tag arity, label path = some (.node tag arity) ∧ index < arity

namespace Tree

/-- Trees are the same when their labels agree at every path. -/
def Same (left right : Tree) : Prop :=
  ∀ path, Option.Rel (fun first second => first.agrees second = true) (left.label path)
    (right.label path)

/-- The infinite tree whose every node has the same tag and a single child. -/
def tower (tag : UInt8) : Tree where
  label path := if path.all (· == 0) then some (.node tag 1) else none
  rooted := rfl
  branching path index := by
    cases straight : path.all (· == 0) <;> simp [List.all_append, straight, and_assoc]

end Tree

theorem TreeLabel.agrees_comm (left right : TreeLabel)
    : left.agrees right = right.agrees left := by
  cases left <;> cases right <;> simp only [agrees]
  case node.node tag arity other count =>
    rw [show (tag == other) = (other == tag) from Bool.beq_comm,
      show (arity == count) = (count == arity) from Bool.beq_comm]
  case atom.atom => exact Atom.sameValue_comm _ _
  case lazy.lazy => exact Term.sameValue_comm _ _
  case constant.constant => exact Bool.beq_comm

theorem TreeLabel.agrees_trans {first second third : TreeLabel}
    (left : first.agrees second = true) (right : second.agrees third = true)
    : first.agrees third = true := by
  cases first <;> cases second <;> simp only [agrees, Bool.false_eq_true] at left <;>
    cases third <;> simp only [agrees, Bool.false_eq_true] at right ⊢
  case node =>
    simp only [Bool.and_eq_true, beq_iff_eq] at left right ⊢
    exact ⟨left.1.trans right.1, left.2.trans right.2⟩
  case atom => exact Atom.sameValue_trans left right
  case lazy => exact Term.sameValue_trans left right
  case constant =>
    rw [beq_iff_eq] at left right ⊢
    exact left.trans right

theorem agrees_symm {left right : Option TreeLabel}
    (agree : Option.Rel (fun first second => first.agrees second = true) left right)
    : Option.Rel (fun first second => first.agrees second = true) right left := by
  cases agree with
  | some agrees => exact .some ((TreeLabel.agrees_comm _ _).trans agrees)
  | none => exact .none

theorem agrees_trans {first second third : Option TreeLabel}
    (left : Option.Rel (fun first second => first.agrees second = true) first second)
    (right : Option.Rel (fun first second => first.agrees second = true) second third)
    : Option.Rel (fun first second => first.agrees second = true) first third := by
  cases left with
  | some agrees =>
      cases right with
      | some next => exact .some (TreeLabel.agrees_trans agrees next)
  | none => exact right

theorem Tree.Same.agrees {left right : Tree} (same : left.Same right) (path : List Nat)
    {first second : TreeLabel} (leftLabel : left.label path = some first)
    (rightLabel : right.label path = some second)
    : first.agrees second = true := by
  have agree := same path
  rw [leftLabel, rightLabel] at agree
  cases agree with
  | some agrees => exact agrees

-----------------------------------------------------------------------------------------
-- Terms whose variables stand for trees
-----------------------------------------------------------------------------------------

namespace Term

/-- The label at a path of a term in which each variable stands for a tree. -/
def labelAt (assigned : Var → Tree) : List Nat → Term → Option TreeLabel
  | path, .var name => (assigned name).label path
  | [], .atom value => some (.atom value)
  | [], .lazy contents => some (.lazy contents)
  | [], .compound tag fields => some (.node tag fields.length)
  | index :: path, .compound _ fields => fields[index]?.bind (labelAt assigned path)
  | _ :: _, _ => none

variable (assigned : Var → Tree)

@[simp] theorem labelAt_var (path : List Nat) (name : Var)
    : labelAt assigned path (.var name) = (assigned name).label path := by
  cases path <;> rfl

theorem labelAt_rooted (term : Term) : (labelAt assigned [] term).isSome = true := by
  cases term with
  | var name => exact (assigned name).rooted
  | atom _ | lazy _ | compound _ _ => rfl

/-- Below a place of a term there are as many places as its label says, by induction on the
path: it leads into a field, or into the tree of a variable.
-/
theorem labelAt_branching (term : Term) (path : List Nat) (index : Nat)
    : (labelAt assigned (path ++ [index]) term).isSome = true
      ↔ ∃ tag arity, labelAt assigned path term = some (.node tag arity) ∧ index < arity := by
  induction path generalizing term with
  | nil =>
      cases term with
      | var name => exact (assigned name).branching [] index
      | atom _ | lazy _ => simp [labelAt]
      | compound tag fields =>
          cases found : fields[index]? with
          | none => simpa [labelAt, found] using List.getElem?_eq_none_iff.mp found
          | some field =>
              obtain ⟨below, _⟩ := List.getElem?_eq_some_iff.mp found
              simp [labelAt, labelAt_rooted, below, and_assoc]
  | cons first rest ih =>
      cases term with
      | var name => exact (assigned name).branching (first :: rest) index
      | atom _ | lazy _ => simp [labelAt]
      | compound tag fields =>
          cases found : fields[first]? with
          | none => simp [labelAt, found]
          | some field => simpa [labelAt, found] using ih field

/-- The tree that a term becomes when each variable stands for a tree. The contents of
suspended values stay as they are.
-/
def graft (term : Term) : Tree where
  label path := labelAt assigned path term
  rooted := labelAt_rooted assigned term
  branching := labelAt_branching assigned term

theorem graft_var (name : Var) : (Term.var name).graft assigned = assigned name := by
  simp only [graft, labelAt_var]

/-- Terms that become the same tree are related as solutions ask for. Not being a number
needs no exception: it agrees with nothing, so no assignment makes it equal to anything.
-/
theorem graft_same_discerning
    : Discerning (fun left right => (graft assigned left).Same (graft assigned right)) := by
  have equivalence
      : PartialEquivalence
          (fun left right => (graft assigned left).Same (graft assigned right)) :=
    ⟨fun same path => agrees_symm (same path),
      fun left right path => agrees_trans (left path) (right path)⟩
  refine equivalence.discerning_of_terms ?_ ?_ ?_
  · intro left right leftLeaf rightLeaf same
    rcases leftLeaf.eq_atom_or_lazy with ⟨value, rfl⟩ | ⟨contents, rfl⟩ <;>
      rcases rightLeaf.eq_atom_or_lazy with ⟨other, rfl⟩ | ⟨others, rfl⟩
    · exact same.agrees [] rfl rfl
    · exact (nomatch same.agrees [] rfl rfl)
    · exact (nomatch same.agrees [] rfl rfl)
    · exact same.agrees [] rfl rfl
  · intro tag fields leaf isLeaf same
    rcases isLeaf.eq_atom_or_lazy with ⟨value, rfl⟩ | ⟨contents, rfl⟩
    · exact (nomatch same.agrees [] rfl rfl)
    · exact (nomatch same.agrees [] rfl rfl)
  · intro tag other left right same
    have root : (tag == other && left.length == right.length) = true :=
      same.agrees [] rfl rfl
    rw [Bool.and_eq_true, beq_iff_eq, beq_iff_eq] at root
    refine ⟨root.1, root.2, ?_⟩
    intro index first second leftField rightField path
    have below := same (index :: path)
    simp only [graft, labelAt, leftField, rightField, Option.bind_some] at below
    exact below

end Term

/-- An assignment of trees satisfies a substitution when each variable's tree is the one
that its active binding becomes.
-/
def Substitution.SolvedBy (assigned : Var → Tree) (substitution : Substitution Term)
    : Prop :=
  ∀ name bound,
    substitution.lookup? name = some bound → (assigned name).Same (bound.graft assigned)

theorem Substitution.solvedBy_iff {assigned : Var → Tree} {substitution : Substitution Term}
    : substitution.SolvedBy assigned
      ↔ substitution.SatisfiedBy
          (fun left right => (left.graft assigned).Same (right.graft assigned)) := by
  rw [satisfiedBy_iff_lookup?]
  simp only [SolvedBy, Term.graft_var]

/-- A call loses no solution, finite or infinite: under any assignment of trees that
satisfies the start and makes both sides the same tree, the only failure is the refusal of
a depth, and a success is satisfied by the same assignment.
-/
theorem solvedBy_of_unifyWith (config : Config) (left right : Term)
    (start : Substitution Term) (assigned : Var → Tree) (solved : start.SolvedBy assigned)
    (same : (left.graft assigned).Same (right.graft assigned)) (run : Run Term)
    (found : unifyWith config left right start = some run)
    : (∀ failure, run.answer = .error failure →
        ∃ limit, config.maxDepth = some limit ∧ failure = .tooDeep limit)
      ∧ ∀ result, run.answer = .ok result → result.SolvedBy assigned := by
  obtain ⟨inner, settled, rfl⟩ := unifyWith_settles found
  have kept := settled.keeps (Term.graft_same_discerning assigned)
    (Substitution.solvedBy_iff.mp solved) same
  exact ⟨kept.failure,
    fun result succeeded => Substitution.solvedBy_iff.mpr (kept.success result succeeded)⟩

theorem Tree.tower_same (tag : UInt8) (name : Var)
    : (tower tag).Same ((compound tag [var name]).graft (fun _ => tower tag)) := by
  intro path
  cases path with
  | nil => exact .some (by simp [TreeLabel.agrees])
  | cons index rest =>
      cases index with
      | zero =>
          have below : (tower tag).label (0 :: rest) = (tower tag).label rest := by
            simp [tower]
          simp only [Term.graft, Term.labelAt, List.getElem?_cons_zero, Option.bind_some,
            Term.labelAt_var, below]
          unfold tower
          dsimp only
          split
          next => exact .some (by simp [TreeLabel.agrees])
          next => exact .none
      | succ index =>
          have beside : (tower tag).label ((index + 1) :: rest) = none := by simp [tower]
          simp only [Term.graft, Term.labelAt, beside, List.getElem?_cons_succ,
            List.getElem?_nil, Option.bind_none]
          exact .none

/-- The infinite tower solves a variable that is bound to a compound around itself, and a
call on such bindings keeps it as a solution of the further binding that it makes.
-/
theorem solvedBy_tower_of_unifyWith
    : (Substitution.singleton ⟨0⟩ (compound 4 [var ⟨0⟩])).SolvedBy (fun _ => .tower 4)
      ∧ ((compound 4 [var ⟨1⟩]).graft (fun _ => .tower 4)).Same
          ((var ⟨0⟩).graft (fun _ => .tower 4))
      ∧ unifyWith .unlimited (compound 4 [var ⟨1⟩]) (var ⟨0⟩)
          (.singleton ⟨0⟩ (compound 4 [var ⟨0⟩]))
        = some
            ⟨[.descended ⟨4, 1⟩ 0, .bound ⟨1⟩ 1, .succeeded 2],
              .ok ⟨[(⟨1⟩, compound 4 [var ⟨0⟩]), (⟨0⟩, compound 4 [var ⟨0⟩])]⟩⟩
      ∧ Substitution.SolvedBy (fun _ => .tower 4)
          ⟨[(⟨1⟩, compound 4 [var ⟨0⟩]), (⟨0⟩, compound 4 [var ⟨0⟩])]⟩ := by
  have solved
      : (Substitution.singleton ⟨0⟩ (compound 4 [var ⟨0⟩])).SolvedBy (fun _ => .tower 4) := by
    intro name bound found
    rw [Substitution.singleton, Substitution.lookup?_extend] at found
    split at found
    next =>
      cases found
      exact Tree.tower_same 4 ⟨0⟩
    next => cases found
  have same
      : ((compound 4 [var ⟨1⟩]).graft (fun _ => .tower 4)).Same
          ((var ⟨0⟩).graft (fun _ => .tower 4)) := by
    rw [Term.graft_var]
    exact fun path => agrees_symm (Tree.tower_same 4 ⟨1⟩ path)
  exact ⟨solved, same, rfl,
    (solvedBy_of_unifyWith .unlimited _ _ _ _ solved same _ rfl).2 _ rfl⟩

end Unification
