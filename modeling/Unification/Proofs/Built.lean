import Unification.Proofs.Bindings
import Unification.Proofs.Sequence

/-! The substitutions that unification builds from the empty one. They bind no variable
twice and hold no cycle of variables, however circular their compounds are, and each call
only puts bindings of further variables in front.
-/

namespace Unification

open Relation
open Unifiable (shape field?)
open Term (var compound tuple)

/-- An ascending list repeats no variable. -/
theorem VarSet.nodup (names : VarSet) : names.toList.Nodup := by
  apply names.ascending.imp
  rintro name _ less rfl
  exact Nat.lt_irrefl _ ((Var.lt_iff name name).mp less)

/-- A list without repetitions has as many elements as its set. -/
theorem VarSet.size_ofList {names : List Var} (distinct : names.Nodup)
    : (VarSet.ofList names).size = names.length := by
  have same (name : Var) : name ∈ (VarSet.ofList names).toList ↔ name ∈ names :=
    VarSet.mem_ofList name names
  exact ((List.perm_ext_iff_of_nodup (VarSet.nodup _) distinct).mpr same).length_eq

variable {α : Type} [FinitelyBuilt α]

-----------------------------------------------------------------------------------------
-- What a call is given
-----------------------------------------------------------------------------------------

/-- A value that is reached from another one by going down into fields any number of times.
-/
def Subvalue (part whole : α) : Prop :=
  ReflTransGen (fun value field => ∃ index, field? value index = some field) whole part

/-- A part of one of two values, or of a value that a substitution binds. -/
def Supplied (left right : α) (start : Substitution α) (part : α) : Prop :=
  ∃ whole,
    (whole = left ∨ whole = right ∨ ∃ name, (name, whole) ∈ start.bindings)
    ∧ Subvalue part whole

theorem supplied_hereditary (left right : α) (start : Substitution α)
    : Hereditary (Supplied left right start) := by
  intro value index field supplied found
  obtain ⟨whole, given, part⟩ := supplied
  exact ⟨whole, given, part.tail ⟨index, found⟩⟩

theorem allBound_supplied (left right : α) (start : Substitution α)
    : start.AllBound (Supplied left right start) := by
  intro name value found
  have bound := Substitution.mem_bindings_of_lookup? found
  exact ⟨value, .inr (.inr ⟨name, bound⟩), .refl⟩

/-- A successful call is a sequence of bindings among the parts of what it is given. -/
theorem unifyWith_binds {config : Config} {left right : α} {start result : Substitution α}
    {run : Run α} (found : unifyWith config left right start = some run)
    (succeeded : run.answer = .ok result)
    : ReflTransGen (Substitution.Binds (Supplied left right start)) start result := by
  obtain ⟨inner, settled, rfl⟩ := unifyWith_settles found
  have leftSupplied : Supplied left right start left := ⟨left, .inl rfl, .refl⟩
  have rightSupplied : Supplied left right start right := ⟨right, .inr (.inl rfl), .refl⟩
  exact settled.binds (supplied_hereditary left right start) succeeded
    (allBound_supplied left right start) ⟨leftSupplied, rightSupplied⟩ trivial

-----------------------------------------------------------------------------------------
-- The substitutions that are built
-----------------------------------------------------------------------------------------

/-- A substitution that is built from the empty one: by successful calls one after the
other, each on any values under any setting, or by a successful call on several pairs.
-/
inductive Substitution.Built : Substitution α → Prop
  | empty : Built .empty
  | call {config left right start run result} (built : Built start)
    (found : unifyWith config left right start = some run)
    (succeeded : run.answer = .ok result)
    : Built result
  | pairs {config pairs run result} (found : unifyMany config pairs = some run)
    (succeeded : run.answer = .ok result)
    : Built result

/-- A call on several pairs is a call for each pair, so single calls build everything. -/
theorem Substitution.Built.growsInto {substitution : Substitution α}
    (built : substitution.Built)
    : Substitution.empty.GrowsInto substitution := by
  induction built with
  | empty => exact .refl
  | call _ found succeeded ih => exact .tail ih ⟨_, _, _, _, found, succeeded⟩
  | pairs found succeeded => exact growsInto_of_unifyManyWith found succeeded

/-- Further calls bind no variable twice, by induction on the calls: each one puts bindings
of distinct unbound variables in front.
-/
theorem Substitution.GrowsInto.nodup {start later : Substitution α}
    (grows : start.GrowsInto later) (acyclic : start.ChainAcyclic)
    (distinct : (start.bindings.map Prod.fst).Nodup)
    : (later.bindings.map Prod.fst).Nodup := by
  induction grows with
  | refl => exact distinct
  | @tail middle _ earlier call ih =>
      obtain ⟨config, left, right, run, found, succeeded⟩ := call
      have middleAcyclic := (GrowsInto.growth earlier acyclic).2
      obtain ⟨added, adds⟩ := exists_adds (unifyWith_binds found succeeded) middleAcyclic
      rw [adds.bindings, List.map_append]
      refine List.nodup_append.mpr ⟨adds.distinct, ih, ?_⟩
      rintro name inAdded _ inMiddle rfl
      obtain ⟨binding, member, rfl⟩ := List.mem_map.mp inAdded
      rw [← lookup?_isSome_iff, adds.unbound binding member] at inMiddle
      cases inMiddle

/-- A substitution that has been built binds no variable twice and holds no cycle of
variables, so every walk ends at a value that is no variable or at an unbound variable. A
further successful call puts bindings in front of those that are there: of distinct
variables without binding, all parts of what the call is given; and no walk that ended at a
value ends elsewhere.
-/
theorem bindings_distinct_of_built (start : Substitution α) (built : start.Built)
    : (start.bindings.map Prod.fst).Nodup
      ∧ start.size = start.domain.size
      ∧ start.ChainAcyclic
      ∧ (∀ value name,
          shape (start.walk value) = .unknown name → start.lookup? name = none)
      ∧ ∀ config left right run result,
          unifyWith config left right start = some run
          → run.answer = .ok result
          → ∃ added : List (Var × α),
              result.bindings = added ++ start.bindings
              ∧ (added.map Prod.fst).Nodup
              ∧ (∀ binding ∈ added,
                  start.lookup? binding.1 = none
                  ∧ (∃ part,
                      shape part = .unknown binding.1 ∧ Supplied left right start part)
                  ∧ Supplied left right start binding.2)
              ∧ ∀ value, Known (start.walk value) → result.walk value = start.walk value := by
  have acyclic : start.ChainAcyclic :=
    (built.growsInto.growth Substitution.chainAcyclic_empty).2
  have distinct : (start.bindings.map Prod.fst).Nodup :=
    built.growsInto.nodup Substitution.chainAcyclic_empty List.nodup_nil
  have sizes : start.size = start.domain.size := by
    rw [Substitution.domain, VarSet.size_ofList distinct, List.length_map, Substitution.size]
  refine ⟨distinct, sizes, acyclic, fun value name => acyclic.lookup?_walk, ?_⟩
  intro config left right run result found succeeded
  have steps := unifyWith_binds found succeeded
  obtain ⟨added, adds⟩ := Substitution.exists_adds steps acyclic
  refine ⟨added, adds.bindings, adds.distinct, ?_, ?_⟩
  · intro binding member
    exact ⟨adds.unbound binding member, adds.target binding member, adds.value binding member⟩
  · intro value known
    exact (Substitution.growth_of_binds steps acyclic).1.walk_of_known known

/-- The first call makes a variable an alias of another one and binds that one to a compound
around the first. The second call goes through the circular binding and adds two bindings.
-/
theorem bindings_distinct_of_circular_build
    : Substitution.Built ⟨[(⟨1⟩, compound 4 [var ⟨0⟩]), (⟨0⟩, var ⟨1⟩)]⟩
      ∧ unifyWith .unlimited (tuple [var ⟨0⟩, var ⟨2⟩]) (tuple [compound 4 [var ⟨3⟩], var ⟨0⟩])
          ⟨[(⟨1⟩, compound 4 [var ⟨0⟩]), (⟨0⟩, var ⟨1⟩)]⟩
        = some
            ⟨[.descended ⟨0, 2⟩ 0, .descended ⟨4, 1⟩ 1, .bound ⟨3⟩ 2, .bound ⟨2⟩ 1,
                .succeeded 4],
              .ok
                ⟨[(⟨2⟩, compound 4 [var ⟨0⟩]), (⟨3⟩, compound 4 [var ⟨0⟩]),
                    (⟨1⟩, compound 4 [var ⟨0⟩]), (⟨0⟩, var ⟨1⟩)]⟩⟩
      ∧ ∃ added : List (Var × Term),
          [(⟨2⟩, compound 4 [var ⟨0⟩]), (⟨3⟩, compound 4 [var ⟨0⟩]),
              (⟨1⟩, compound 4 [var ⟨0⟩]), (⟨0⟩, var ⟨1⟩)]
            = added ++ [(⟨1⟩, compound 4 [var ⟨0⟩]), (⟨0⟩, var ⟨1⟩)]
          ∧ (added.map Prod.fst).Nodup := by
  have built : Substitution.Built ⟨[(⟨1⟩, compound 4 [var ⟨0⟩]), (⟨0⟩, var ⟨1⟩)]⟩ := by
    have found
        : unifyWith .unlimited (tuple [var ⟨0⟩, var ⟨1⟩]) (tuple [var ⟨1⟩, compound 4 [var ⟨0⟩]])
            .empty
          = some
              ⟨[.descended ⟨0, 2⟩ 0, .bound ⟨0⟩ 1, .bound ⟨1⟩ 1, .succeeded 2],
                .ok ⟨[(⟨1⟩, compound 4 [var ⟨0⟩]), (⟨0⟩, var ⟨1⟩)]⟩⟩ :=
      rfl
    exact .call .empty found rfl
  obtain ⟨_, _, _, _, calls⟩ := bindings_distinct_of_built _ built
  obtain ⟨added, front, distinct, _⟩ := calls .unlimited (tuple [var ⟨0⟩, var ⟨2⟩])
    (tuple [compound 4 [var ⟨3⟩], var ⟨0⟩]) _ _ rfl rfl
  exact ⟨built, rfl, added, front, distinct⟩

end Unification
