import Unification.Proofs.Growth

/-! A successful run as a sequence of bindings. Each of them binds a variable that leads to
no value to another root, and both are among the values that the run was given. What a
binding keeps, a run keeps, and so does any sequence of runs.
-/

namespace Unification

open Relation
open Unifiable (shape field?)

variable {α : Type} [Unifiable α]

/-- A step that binds a loose variable to a root other than itself, both from among the
given values.
-/
inductive Substitution.Binds (given : α → Prop)
    : Substitution α → Substitution α → Prop
  | bind {start target value name} (targetShape : shape target = .unknown name)
    (loose : start.Loose name) (root : start.IsRoot value)
    (other : shape value ≠ .unknown name) (targetGiven : given target)
    (valueGiven : given value)
    : Binds given start (start.extend name value)

/-- The roots of a goal are roots under a substitution. -/
def Goal.AtRoots (start : Substitution α) : Goal α → Prop
  | .roots left right => start.IsRoot left ∧ start.IsRoot right
  | _ => True

/-- A successful run is a sequence of bindings among the given values, by induction on its
derivation. The given values have to come with their fields, and to include all values bound
at the start, so that they include all roots that are met.
-/
theorem Settles.binds [LawfulClone α] {given : α → Prop} (hereditary : Hereditary given)
    {config : Config} {goal : Goal α} {depth : Nat} {start result : Substitution α}
    {run : Run α} (settled : Settles config goal depth start run)
    (succeeded : run.answer = .ok result) (all : start.AllBound given)
    (within : goal.Within given) (rooted : goal.AtRoots start)
    : ReflTransGen (Substitution.Binds given) start result := by
  induction settled generalizing result with
  | refused | clashed | lacking => cases succeeded
  | same | matched | finished =>
      cases succeeded
      exact .refl
  | walked _ _ ih =>
      exact ih succeeded all ⟨all.walk within.1, all.walk within.2⟩
        ⟨Substitution.isRoot_walk _ _, Substitution.isRoot_walk _ _⟩
  | @boundLeft _ _ _ _ name leftShape other =>
      cases succeeded
      rw [LawfulClone.clone_eq]
      exact .single
        (.bind leftShape (rooted.1 name leftShape) rooted.2 other within.1 within.2)
  | @boundRight _ _ _ _ name known rightShape =>
      cases succeeded
      rw [LawfulClone.clone_eq]
      exact .single
        (.bind rightShape (rooted.2 name rightShape) rooted.1 (known name) within.2 within.1)
  | descended _ _ _ ih => exact ih succeeded all within trivial
  | stopped _ _ _ failed => simp [failed] at succeeded
  | advanced leftField rightField settled reached _ pairIH restIH =>
      have fieldsGiven :=
        And.intro (hereditary _ _ _ within.1 leftField) (hereditary _ _ _ within.2 rightField)
      have middleAll := settled.allBound hereditary reached all fieldsGiven
      exact (pairIH reached all fieldsGiven trivial).trans
        (restIH succeeded middleAll within trivial)

namespace Substitution

variable {given : α → Prop} {start result : Substitution α}

/-- Without cycles of variables a loose variable has no binding. -/
theorem ChainAcyclic.lookup?_of_loose (acyclic : start.ChainAcyclic) {name : Var}
    (loose : start.Loose name)
    : start.lookup? name = none := by
  rcases loose with unbound | cycle
  · exact unbound
  · exact (acyclic name cycle).elim

/-- Without cycles of variables no hop starts at a root. -/
theorem ChainAcyclic.hop?_of_isRoot (acyclic : start.ChainAcyclic) {value : α}
    (root : start.IsRoot value)
    : start.hop? value = none := by
  cases hop : start.hop? value with
  | none => rfl
  | some bound =>
      obtain ⟨name, valueShape, found⟩ := hop?_eq_some_iff.mp hop
      simp [acyclic.lookup?_of_loose (root name valueShape)] at found

/-- A binding keeps all active bindings and closes no cycle of variables. -/
theorem Binds.growth (step : Binds given start result) (acyclic : start.ChainAcyclic)
    : start.ExtendedBy result ∧ result.ChainAcyclic := by
  cases step with
  | bind _ loose root other =>
      exact ⟨extendedBy_extend (acyclic.lookup?_of_loose loose) _,
        acyclic.extend (acyclic.hop?_of_isRoot root) other⟩

/-- A sequence of bindings keeps all active bindings and closes no cycle of variables. -/
theorem growth_of_binds (steps : ReflTransGen (Binds given) start result)
    (acyclic : start.ChainAcyclic)
    : start.ExtendedBy result ∧ result.ChainAcyclic := by
  induction steps with
  | refl => exact ⟨.refl _, acyclic⟩
  | tail _ step ih =>
      have next := step.growth ih.2
      exact ⟨ih.1.trans next.1, next.2⟩

end Substitution

/-- A successful run keeps all active bindings and closes no cycle of variables, since it is
a sequence of bindings.
-/
theorem Settles.growth [LawfulClone α] {config : Config} {goal : Goal α} {depth : Nat}
    {start result : Substitution α} {run : Run α}
    (settled : Settles config goal depth start run) (succeeded : run.answer = .ok result)
    (acyclic : start.ChainAcyclic) (rooted : goal.AtRoots start)
    : start.ExtendedBy result ∧ result.ChainAcyclic := by
  have anything : Hereditary (fun _ : α => True) := fun _ _ _ _ _ => trivial
  have within : goal.Within (fun _ => True) := by
    cases goal <;> exact ⟨trivial, trivial⟩
  have steps := settled.binds anything succeeded (fun _ _ _ => trivial) within rooted
  exact Substitution.growth_of_binds steps acyclic

/-- A single call leads from one substitution to another when it succeeds, whatever its
setting and the values it unifies.
-/
def Substitution.Precedes {β : Type} [FinitelyBuilt β] (start result : Substitution β)
    : Prop :=
  ∃ config left right run,
    unifyWith config left right start = some run ∧ run.answer = .ok result

/-- Any number of further successful calls lead from one substitution to another. -/
def Substitution.GrowsInto {β : Type} [FinitelyBuilt β] (start later : Substitution β)
    : Prop :=
  ReflTransGen Substitution.Precedes start later

/-- Further calls keep all active bindings and close no cycle of variables, by induction on
the calls.
-/
theorem Substitution.GrowsInto.growth {β : Type} [FinitelyBuilt β]
    {start later : Substitution β} (grows : start.GrowsInto later)
    (acyclic : start.ChainAcyclic)
    : start.ExtendedBy later ∧ later.ChainAcyclic := by
  induction grows with
  | refl => exact ⟨.refl _, acyclic⟩
  | tail _ call ih =>
      obtain ⟨config, left, right, run, found, succeeded⟩ := call
      obtain ⟨inner, settled, rfl⟩ := unifyWith_settles found
      have next := settled.growth succeeded ih.2 trivial
      exact ⟨ih.1.trans next.1, next.2⟩

-----------------------------------------------------------------------------------------
-- The bindings that a sequence puts in front
-----------------------------------------------------------------------------------------

namespace Substitution

variable {given : α → Prop} {start result : Substitution α}

/-- The bindings that a sequence puts in front: they concern distinct variables that had no
binding, and variables and bound values are among the given ones.
-/
structure Adds (given : α → Prop) (start : Substitution α) (added : List (Var × α))
    (result : Substitution α)
    : Prop where
  bindings : result.bindings = added ++ start.bindings
  distinct : (added.map Prod.fst).Nodup
  unbound : ∀ binding ∈ added, start.lookup? binding.1 = none
  target
    : ∀ binding ∈ added, ∃ target, shape target = .unknown binding.1 ∧ given target
  value : ∀ binding ∈ added, given binding.2

theorem Adds.nothing (given : α → Prop) (start : Substitution α)
    : Adds given start [] start where
  bindings := rfl
  distinct := List.nodup_nil
  unbound := by simp
  target := by simp
  value := by simp

/-- A further binding comes in front of those that were added before. Its variable is none
of theirs, since they are all bound by now.
-/
theorem Adds.bind {added : List (Var × α)} (adds : Adds given start added result)
    {name : Var} {target value : α} (targetShape : shape target = .unknown name)
    (fresh : result.lookup? name = none) (targetGiven : given target) (valueGiven : given value)
    : Adds given start ((name, value) :: added) (result.extend name value) := by
  have absent : name ∉ result.bindings.map Prod.fst := by
    rw [← lookup?_isSome_iff, fresh]
    simp
  rw [adds.bindings, List.map_append, List.mem_append, not_or] at absent
  have unbound : start.lookup? name = none := by
    rw [← Option.not_isSome_iff_eq_none, lookup?_isSome_iff]
    exact absent.2
  exact {
    bindings := congrArg ((name, value) :: ·) adds.bindings
    distinct := List.nodup_cons.mpr ⟨absent.1, adds.distinct⟩
    unbound := List.forall_mem_cons.mpr ⟨unbound, adds.unbound⟩
    target := List.forall_mem_cons.mpr ⟨⟨target, targetShape, targetGiven⟩, adds.target⟩
    value := List.forall_mem_cons.mpr ⟨valueGiven, adds.value⟩
  }

/-- A sequence of bindings adds bindings of distinct variables that were not bound before,
by induction on the sequence.
-/
theorem exists_adds (steps : ReflTransGen (Binds given) start result)
    (acyclic : start.ChainAcyclic)
    : ∃ added, Adds given start added result := by
  induction steps with
  | refl => exact ⟨[], .nothing given start⟩
  | tail earlier step ih =>
      obtain ⟨added, adds⟩ := ih
      have middleAcyclic := (growth_of_binds earlier acyclic).2
      cases step with
      | bind targetShape loose _ _ targetGiven valueGiven =>
          exact ⟨_, adds.bind targetShape (middleAcyclic.lookup?_of_loose loose) targetGiven
            valueGiven⟩

/-- Where bindings stay active, a walk that ends at no variable ends there still. -/
theorem ExtendedBy.walk_of_known {earlier later : Substitution α}
    (extended : earlier.ExtendedBy later) {value : α} (known : Known (earlier.walk value))
    : later.walk value = earlier.walk value := by
  have path : ReflTransGen later.Hops value (earlier.walk value) :=
    ReflTransGen.mono (fun _ _ hop => extended.hop? hop) _ _ (walk_reaches earlier value)
  exact walk_eq_of_hops path (hop?_of_known known)

end Substitution

end Unification
