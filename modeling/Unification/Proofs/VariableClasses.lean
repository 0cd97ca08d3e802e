import Unification.Proofs.Growth

/-! Classes of variables. The chains of a substitution divide the variables into classes,
and a class has a value when its chains end at one. A binding joins two classes without
value, or gives a value to one. Substitutions with the same classes and the same values are
alike, even where their chains run differently or end on cycles.
-/

namespace Unification

open Relation
open Unifiable (shape field?)

namespace Substitution

variable {α : Type} [Unifiable α] {start other : Substitution α}

-----------------------------------------------------------------------------------------
-- Chains of variables within a class
-----------------------------------------------------------------------------------------

/-- Two variables in one class: chains of aliases link them in whatever direction. -/
def Linked (substitution : Substitution α) : Var → Var → Prop :=
  EqvGen substitution.Aliases

theorem linked_equivalence (substitution : Substitution α)
    : Equivalence substitution.Linked :=
  EqvGen.is_equivalence substitution.Aliases

theorem aliases_rightUnique (substitution : Substitution α)
    : Relator.RightUnique substitution.Aliases := by
  rintro name first second ⟨value, found, firstShape⟩ ⟨bound, again, secondShape⟩
  have same : value = bound := Option.some.inj (found.symm.trans again)
  subst same
  exact Shape.unknown.inj (firstShape.symm.trans secondShape)

/-- Every variable that a cycle leads to leads back to it. -/
theorem OnCycle.leads_back {first second : Var} (cycle : start.OnCycle first)
    (path : ReflTransGen start.Aliases first second)
    : ReflTransGen start.Aliases second first := by
  induction path with
  | refl => exact .refl
  | tail path link ih =>
      have around := TransGen.trans_right ih (cycle.trans_left path)
      obtain ⟨next, onward, back⟩ := TransGen.head'_iff.mp around
      have same := aliases_rightUnique start link onward
      exact (same ▸ back).trans ih

/-- The chains of all variables in the class of a loose variable lead to it. Chains in one
class meet, since each variable is an alias of one other at most.
-/
theorem Loose.leads_of_linked {name member : Var} (loose : start.Loose name)
    (linked : start.Linked member name)
    : ReflTransGen start.Aliases member name := by
  have meeting : Equivalence (Join (ReflTransGen start.Aliases)) := by
    apply equivalence_join_reflTransGen
    intro first second third toSecond toThird
    rw [aliases_rightUnique start toSecond toThird]
    exact ⟨third, .refl, .refl⟩
  have meet : Join (ReflTransGen start.Aliases) member name :=
    meeting.eqvGen_iff.mp
      (EqvGen.mono (fun _ second link => ⟨second, .single link, .refl⟩) _ _ linked)
  obtain ⟨common, fromMember, fromName⟩ := meet
  rcases loose with unbound | cycle
  · rcases fromName.cases_head with rfl | ⟨_, ⟨_, found, _⟩, _⟩
    · exact fromMember
    · simp [unbound] at found
  · exact fromMember.trans (cycle.leads_back fromName)

/-- Hops between variables follow aliases. -/
theorem aliases_of_hops {value root : α} {first last : Var}
    (valueShape : shape value = .unknown first) (rootShape : shape root = .unknown last)
    (path : ReflTransGen start.Hops value root)
    : ReflTransGen start.Aliases first last := by
  induction path generalizing last with
  | refl =>
      rw [Shape.unknown.inj (valueShape.symm.trans rootShape)]
  | @tail _ bound _ hop ih =>
      obtain ⟨name, middleShape, found⟩ := hop?_eq_some_iff.mp hop
      exact (ih middleShape).tail ⟨bound, found, rootShape⟩

/-- Along aliases there are hops to a value that shows the last variable. -/
theorem exists_hops_of_aliases {value : α} {first last : Var}
    (valueShape : shape value = .unknown first)
    (path : ReflTransGen start.Aliases first last)
    : ∃ root, shape root = .unknown last ∧ ReflTransGen start.Hops value root := by
  induction path with
  | refl => exact ⟨value, valueShape, .refl⟩
  | tail _ link ih =>
      obtain ⟨middle, middleShape, hops⟩ := ih
      obtain ⟨bound, found, boundShape⟩ := link
      exact ⟨bound, boundShape, hops.tail ((hop?_of_unknown middleShape).trans found)⟩

/-- A loose variable leads to no value. -/
theorem Loose.not_known_of_hops {value root : α} {name : Var} (loose : start.Loose name)
    (valueShape : shape value = .unknown name) (path : ReflTransGen start.Hops value root)
    : ¬ Known root := by
  intro known
  have same := loose.eq_of_hops valueShape path (hop?_of_known known)
  exact known name (same ▸ valueShape)

/-- A root leads to no end but itself. -/
theorem IsRoot.eq_of_hops {value last : α} (root : start.IsRoot value)
    (path : ReflTransGen start.Hops value last) (ends : start.hop? last = none)
    : last = value := by
  by_cases known : Known value
  · exact eq_of_hops_of_ends (hop?_of_known known) path
  · obtain ⟨name, valueShape⟩ := exists_unknown_of_not_known known
    exact (root name valueShape).eq_of_hops valueShape path ends

-----------------------------------------------------------------------------------------
-- A new binding of a loose variable
-----------------------------------------------------------------------------------------

section Extend

variable {name : Var} {value : α}

theorem aliases_extend_of_ne {first second : Var} (link : start.Aliases first second)
    (different : first ≠ name)
    : (start.extend name value).Aliases first second := by
  obtain ⟨bound, found, boundShape⟩ := link
  refine ⟨bound, ?_, boundShape⟩
  rw [lookup?_extend, if_neg (Ne.symm different)]
  exact found

/-- Chains to a variable need no binding of that variable. -/
theorem leads_extend_self (value : α) {member : Var}
    (path : ReflTransGen start.Aliases member name)
    : ReflTransGen (start.extend name value).Aliases member name := by
  induction path using ReflTransGen.head_induction_on with
  | refl => exact .refl
  | @head first _ link _ ih =>
      by_cases same : first = name
      · exact same ▸ .refl
      · exact ih.head (aliases_extend_of_ne link same)

/-- A binding of a loose variable divides no class. If the variable had a binding, it was
one along a cycle, which still leads to the variable from behind.
-/
theorem Loose.linked_extend (loose : start.Loose name) {first second : Var}
    (linked : start.Linked first second)
    : (start.extend name value).Linked first second := by
  have equivalence := linked_equivalence (start.extend name value)
  refine equivalence.eqvGen_iff.mp (EqvGen.mono ?_ _ _ linked)
  intro first second link
  by_cases same : first = name
  · subst same
    have cycle : start.OnCycle first := by
      obtain ⟨_, found, _⟩ := link
      exact loose.resolve_left (by simp [found])
    have back := leads_extend_self value (cycle.leads_back (.single link))
    exact equivalence.symm (EqvGen.reflTransGen_le_eqvGen _ _ _ back)
  · exact .rel _ _ (aliases_extend_of_ne link same)

/-- A binding links its variable with the variable it is bound to. -/
theorem linked_extend_self {target : Var} (valueShape : shape value = .unknown target)
    : (start.extend name value).Linked name target :=
  .rel _ _ ⟨value, lookup?_extend_self start name value, valueShape⟩

/-- The classes after a binding are the finest that keep those from before and hold the new
link.
-/
theorem linked_of_extend {related : Var → Var → Prop} (equivalence : Equivalence related)
    (keeps : ∀ first second, start.Linked first second → related first second)
    (joins : ∀ target, shape value = .unknown target → related name target)
    {first second : Var} (linked : (start.extend name value).Linked first second)
    : related first second := by
  refine equivalence.eqvGen_iff.mp (EqvGen.mono ?_ _ _ linked)
  intro first second link
  rcases aliases_extend link with ⟨rfl, target⟩ | earlier
  · exact joins second target
  · exact keeps first second (.rel _ _ earlier)

/-- Hops to an end do not pass a loose variable, so they stay when it is bound. -/
theorem Loose.hops_extend (loose : start.Loose name) {first root : α}
    (path : ReflTransGen start.Hops first root) (ends : start.hop? root = none)
    : ReflTransGen (start.extend name value).Hops first root := by
  induction path using ReflTransGen.head_induction_on with
  | refl => exact .refl
  | @head first _ hop rest ih =>
      obtain ⟨passed, firstShape, found⟩ := hop?_eq_some_iff.mp hop
      have different : name ≠ passed := by
        rintro rfl
        rw [loose.eq_of_hops firstShape (.head hop rest) ends] at ends
        exact Option.some_ne_none _ (hop.symm.trans ends)
      refine ih.head (hop?_eq_some_iff.mpr ⟨passed, firstShape, ?_⟩)
      rw [lookup?_extend, if_neg different]
      exact found

/-- After a binding of a loose variable to a root, a walk ends at a value when it did so
before, or when it starts in the class of the variable and the root is that value.
-/
theorem Loose.walk_extend_eq_iff (loose : start.Loose name) (root : start.IsRoot value)
    {first last : α} (known : Known last)
    : (start.extend name value).walk first = last
      ↔ start.walk first = last
        ∨ (value = last
          ∧ ∃ member, shape first = .unknown member ∧ start.Linked member name) := by
  have ends : start.hop? last = none := hop?_of_known known
  constructor
  · intro walked
    have path : ReflTransGen (start.extend name value).Hops first last :=
      walked ▸ walk_reaches _ first
    clear walked
    induction path using ReflTransGen.head_induction_on with
    | refl => exact .inl (walk_eq_of_hops .refl ends)
    | @head first next hop _ ih =>
        obtain ⟨passed, firstShape, found⟩ := hop?_eq_some_iff.mp hop
        rw [lookup?_extend] at found
        split at found
        next same =>
          -- the path goes through the new binding, and its value is where the path ends
          subst same
          cases found
          rcases ih with walked | ⟨same, _⟩
          · have path : ReflTransGen start.Hops value last := walked ▸ walk_reaches _ value
            exact .inr ⟨(root.eq_of_hops path ends).symm, name, firstShape, .refl _⟩
          · exact .inr ⟨same, name, firstShape, .refl _⟩
        next =>
          have hop : start.Hops first next := (hop?_of_unknown firstShape).trans found
          rcases ih with walked | ⟨same, member, nextShape, linked⟩
          · have path : ReflTransGen start.Hops next last := walked ▸ walk_reaches _ next
            exact .inl (walk_eq_of_hops (path.head hop) ends)
          · have link : start.Aliases passed member := ⟨next, found, nextShape⟩
            exact .inr ⟨same, passed, firstShape, .trans _ _ _ (.rel _ _ link) linked⟩
  · rintro (walked | ⟨rfl, member, firstShape, linked⟩)
    · have path : ReflTransGen start.Hops first last := walked ▸ walk_reaches _ first
      exact walk_eq_of_hops (loose.hops_extend path ends) (hop?_of_known known)
    · obtain ⟨bearer, bearerShape, hops⟩ := exists_hops_of_aliases firstShape
        (leads_extend_self value (loose.leads_of_linked linked))
      have hop : (start.extend name value).hop? bearer = some value :=
        (hop?_of_unknown bearerShape).trans (lookup?_extend_self start name value)
      exact walk_eq_of_hops (hops.tail hop) (hop?_of_known known)

end Extend

-----------------------------------------------------------------------------------------
-- Substitutions with the same classes and values
-----------------------------------------------------------------------------------------

/-- Two substitutions have the same classes of variables and the same values for them. -/
structure Alike (first second : Substitution α) : Prop where
  linked : ∀ name member, first.Linked name member ↔ second.Linked name member
  valued : ∀ value root, Known root → (first.walk value = root ↔ second.walk value = root)

theorem Alike.refl (substitution : Substitution α) : substitution.Alike substitution :=
  ⟨fun _ _ => .rfl, fun _ _ _ => .rfl⟩

theorem Alike.symm (alike : start.Alike other) : other.Alike start :=
  ⟨fun name member => (alike.linked name member).symm,
    fun value root known => (alike.valued value root known).symm⟩

theorem Alike.trans {third : Substitution α} (left : start.Alike other)
    (right : other.Alike third)
    : start.Alike third :=
  ⟨fun name member => (left.linked name member).trans (right.linked name member),
    fun value root known =>
      (left.valued value root known).trans (right.valued value root known)⟩

/-- The root of a variable lies in the class of the variable. -/
theorem linked_walk {value : α} {name root : Var} (valueShape : shape value = .unknown name)
    (rootShape : shape (start.walk value) = .unknown root)
    : start.Linked name root :=
  EqvGen.reflTransGen_le_eqvGen _ _ _
    (aliases_of_hops valueShape rootShape (walk_reaches start value))

/-- Under substitutions that are alike, a walk ends at the same value, or at loose variables
of the same class.
-/
theorem Alike.walk_cases (alike : start.Alike other) (value : α)
    : (Known (start.walk value) ∧ other.walk value = start.walk value)
      ∨ ∃ name name',
          shape (start.walk value) = .unknown name
          ∧ shape (other.walk value) = .unknown name'
          ∧ start.Linked name name' := by
  by_cases known : Known (start.walk value)
  · exact .inl ⟨known, (alike.valued value _ known).mp rfl⟩
  right
  have otherUnknown : ¬ Known (other.walk value) := by
    intro otherKnown
    rw [(alike.valued value _ otherKnown).mpr rfl] at known
    exact known otherKnown
  have valueUnknown : ¬ Known value := by
    intro valueKnown
    rw [walk_of_known valueKnown] at known
    exact known valueKnown
  obtain ⟨name, rootShape⟩ := exists_unknown_of_not_known known
  obtain ⟨name', otherShape⟩ := exists_unknown_of_not_known otherUnknown
  obtain ⟨first, valueShape⟩ := exists_unknown_of_not_known valueUnknown
  have linked := linked_walk valueShape rootShape
  have linked' := (alike.linked _ _).mpr (linked_walk valueShape otherShape)
  exact ⟨name, name', rootShape, otherShape, .trans _ _ _ (.symm _ _ linked) linked'⟩

section Extend

variable {name name' : Var} {value value' : α}

/-- Substitutions that are alike stay so when one class is given a value in both. -/
theorem Alike.extend_known (alike : start.Alike other) (loose : start.Loose name)
    (loose' : other.Loose name') (linked : start.Linked name name') (known : Known value)
    : (start.extend name value).Alike (other.extend name' value) where
  linked first second := by
    have kept {substitution : Substitution α} {name : Var} (loose : substitution.Loose name)
        : (substitution.extend name value).Linked first second
          ↔ substitution.Linked first second := by
      refine ⟨?_, loose.linked_extend⟩
      apply linked_of_extend (linked_equivalence substitution) (fun _ _ => id)
      intro target valueShape
      exact (known target valueShape).elim
    rw [kept loose, kept loose']
    exact alike.linked first second
  valued first last lastKnown := by
    have root {substitution : Substitution α} : substitution.IsRoot value :=
      fun target valueShape => (known target valueShape).elim
    have sameClass (member : Var)
        : start.Linked member name ↔ other.Linked member name' := by
      rw [← alike.linked]
      exact ⟨fun toName => .trans _ _ _ toName linked,
        fun toName' => .trans _ _ _ toName' (.symm _ _ linked)⟩
    rw [loose.walk_extend_eq_iff root lastKnown, loose'.walk_extend_eq_iff root lastKnown,
      alike.valued first last lastKnown]
    simp only [sameClass]

/-- Where a class has no value, a binding to a loose variable gives it none. -/
theorem Loose.walk_extend_unknown {target : Var} (loose : start.Loose name)
    (valueShape : shape value = .unknown target) (targetLoose : start.Loose target)
    {first last : α} (known : Known last)
    : (start.extend name value).walk first = last ↔ start.walk first = last := by
  have root : start.IsRoot value := by
    intro shown valueShape'
    exact Shape.unknown.inj (valueShape.symm.trans valueShape') ▸ targetLoose
  rw [loose.walk_extend_eq_iff root known, or_iff_left]
  rintro ⟨rfl, _⟩
  exact known target valueShape

/-- Substitutions that are alike stay so when the same two classes without value are joined
in both, whichever of the variables is bound to the other.
-/
theorem Alike.extend_unknown (alike : start.Alike other) {target target' : Var}
    (loose : start.Loose name) (loose' : other.Loose name')
    (valueShape : shape value = .unknown target) (valueShape' : shape value' = .unknown target')
    (targetLoose : start.Loose target) (targetLoose' : other.Loose target')
    (joins : (other.extend name' value').Linked name target)
    (joins' : (start.extend name value).Linked name' target')
    : (start.extend name value).Alike (other.extend name' value') where
  linked first second := by
    constructor
    · apply linked_of_extend (linked_equivalence _)
      · exact fun _ _ linked => loose'.linked_extend ((alike.linked _ _).mp linked)
      · intro shown shape
        exact Shape.unknown.inj (valueShape.symm.trans shape) ▸ joins
    · apply linked_of_extend (linked_equivalence _)
      · exact fun _ _ linked => loose.linked_extend ((alike.linked _ _).mpr linked)
      · intro shown shape
        exact Shape.unknown.inj (valueShape'.symm.trans shape) ▸ joins'
  valued first last lastKnown := by
    rw [loose.walk_extend_unknown valueShape targetLoose lastKnown,
      loose'.walk_extend_unknown valueShape' targetLoose' lastKnown]
    exact alike.valued first last lastKnown

/-- Substitutions that are alike stay so when classes without value are joined in both, by
binding any variable of the one class to any variable of the other.
-/
theorem Alike.extend_linked (alike : start.Alike other) {target target' : Var}
    (loose : start.Loose name) (loose' : other.Loose name')
    (valueShape : shape value = .unknown target) (valueShape' : shape value' = .unknown target')
    (targetLoose : start.Loose target) (targetLoose' : other.Loose target')
    (linked : start.Linked name name') (targetLinked : start.Linked target target')
    : (start.extend name value).Alike (other.extend name' value') := by
  have joined := linked_equivalence (start.extend name value)
  have joined' := linked_equivalence (other.extend name' value')
  apply alike.extend_unknown loose loose' valueShape valueShape' targetLoose targetLoose'
  · apply joined'.trans (loose'.linked_extend ((alike.linked _ _).mp linked))
    exact joined'.trans (linked_extend_self valueShape')
      (joined'.symm (loose'.linked_extend ((alike.linked _ _).mp targetLinked)))
  · apply joined.trans (joined.symm (loose.linked_extend linked))
    exact joined.trans (linked_extend_self valueShape) (loose.linked_extend targetLinked)

/-- It makes no difference which of two variables is bound to the other. -/
theorem Loose.alike_extend_exchanged {target : Var} (loose : start.Loose name)
    (targetLoose : start.Loose target) (valueShape : shape value = .unknown target)
    (valueShape' : shape value' = .unknown name)
    : (start.extend name value).Alike (start.extend target value') :=
  (Alike.refl start).extend_unknown loose targetLoose valueShape valueShape' targetLoose loose
    ((linked_equivalence _).symm (linked_extend_self valueShape'))
    ((linked_equivalence _).symm (linked_extend_self valueShape))

/-- A binding within a class without value changes nothing. -/
theorem Alike.extend_self {target : Var} (loose : start.Loose name)
    (valueShape : shape value = .unknown target) (targetLoose : start.Loose target)
    (linked : start.Linked name target)
    : start.Alike (start.extend name value) where
  linked first second := by
    refine ⟨loose.linked_extend, ?_⟩
    apply linked_of_extend (linked_equivalence start) (fun _ _ => id)
    intro shown shape
    exact Shape.unknown.inj (valueShape.symm.trans shape) ▸ linked
  valued first last lastKnown :=
    (loose.walk_extend_unknown valueShape targetLoose lastKnown).symm

end Extend

end Substitution

end Unification
