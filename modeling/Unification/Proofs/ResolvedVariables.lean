import Unification.Proofs.Dependency

/-! What resolution leaves in a term. Resolution ends whatever the bindings are, since no
variable is expanded inside its own expansion. It leaves a variable in place only where there
is no binding, or where an expansion has come back to the variable. A path to a variable
without binding can be cut short until it passes no variable twice, and expansion follows it
to its end.
-/

namespace Unification

open Relation
open Term (var atom compound)

namespace Term

mutual

/-- After a replacement, the variables are those of the terms put in place of the occurring
ones, by descent into the term.
-/
theorem occurs_replace_iff (term : Term) (assigned : Var → Term) (sought : Var)
    : (term.replace assigned).occurs sought = true
      ↔ ∃ name, term.occurs name = true ∧ (assigned name).occurs sought = true := by
  cases term with
  | var name => simp [replace, occurs]
  | atom _ | lazy _ => simp [replace, occurs]
  | compound tag fields => exact occursInFields_replaceAll_iff fields assigned sought

/-- The same of several terms, in which a variable occurs when it occurs in one of them. -/
theorem occursInFields_replaceAll_iff (fields : List Term) (assigned : Var → Term)
    (sought : Var)
    : occursInFields sought (replaceAll assigned fields) = true
      ↔ ∃ name, occursInFields name fields = true ∧ (assigned name).occurs sought = true := by
  cases fields with
  | nil => simp [replaceAll, occursInFields]
  | cons field rest =>
      simp only [replaceAll, occursInFields, Bool.or_eq_true, or_and_right, exists_or,
        occurs_replace_iff field, occursInFields_replaceAll_iff rest]

end

theorem mem_vars_replace {term : Term} {assigned : Var → Term} {sought : Var}
    : sought ∈ (term.replace assigned).vars
      ↔ ∃ name ∈ term.vars, sought ∈ (assigned name).vars := by
  simp only [mem_vars, occurs_replace_iff]

theorem mem_vars_var {name sought : Var} : sought ∈ (var name).vars ↔ sought = name := by
  rw [mem_vars, occurs, beq_iff_eq, eq_comm]

end Term

namespace Substitution

-----------------------------------------------------------------------------------------
-- Resolution as a derivation
-----------------------------------------------------------------------------------------

mutual

/-- The resolution of a term while the listed variables are being expanded. A variable stays
in place when it is one of them or has no binding; else its binding is resolved in its place,
with one more variable being expanded, and there may be no more than so many at once.
-/
inductive Resolves (substitution : Substitution Term) (most : Nat)
    : List Var → Term → Term → Prop
  | passed {expanding name} (member : name ∈ expanding)
    : Resolves substitution most expanding (.var name) (.var name)
  | unbound {expanding name} (absent : substitution.lookup? name = none)
    : Resolves substitution most expanding (.var name) (.var name)
  | bound {expanding name term result} (fresh : name ∉ expanding)
    (found : substitution.lookup? name = some term) (room : expanding.length < most)
    (inner : Resolves substitution most (name :: expanding) term result)
    : Resolves substitution most expanding (.var name) result
  | atom {expanding value} : Resolves substitution most expanding (.atom value) (.atom value)
  | lazy {expanding contents}
    : Resolves substitution most expanding (.lazy contents) (.lazy contents)
  | compound {expanding tag fields results}
    (each : ResolvesEach substitution most expanding fields results)
    : Resolves substitution most expanding (.compound tag fields) (.compound tag results)

/-- The resolution of several terms, each while the same variables are being expanded. -/
inductive ResolvesEach (substitution : Substitution Term) (most : Nat)
    : List Var → List Term → List Term → Prop
  | nil {expanding} : ResolvesEach substitution most expanding [] []
  | cons {expanding field result rest results}
    (first : Resolves substitution most expanding field result)
    (others : ResolvesEach substitution most expanding rest results)
    : ResolvesEach substitution most expanding (field :: rest) (result :: results)

end

mutual

/-- Whatever may be expanded at once, a term resolves to a single one, by descent into the
first derivation.
-/
theorem Resolves.unique {substitution : Substitution Term} {most more : Nat}
    {expanding : List Var} {term result other : Term}
    (first : substitution.Resolves most expanding term result)
    (second : substitution.Resolves more expanding term other)
    : result = other := by
  cases first with
  | passed member =>
      cases second with
      | passed | unbound => rfl
      | bound fresh => exact (fresh member).elim
  | unbound absent =>
      cases second with
      | passed | unbound => rfl
      | bound _ found => simp [absent] at found
  | bound fresh found _ inner =>
      cases second with
      | passed member => exact (fresh member).elim
      | unbound absent => simp [absent] at found
      | bound _ again _ innerAgain =>
          obtain rfl := Option.some.inj (found.symm.trans again)
          exact Resolves.unique inner innerAgain
  | atom | lazy =>
      cases second
      rfl
  | compound each =>
      cases second with
      | compound eachAgain => rw [ResolvesEach.unique each eachAgain]

/-- The same of several terms. -/
theorem ResolvesEach.unique {substitution : Substitution Term} {most more : Nat}
    {expanding : List Var} {fields results others : List Term}
    (first : substitution.ResolvesEach most expanding fields results)
    (second : substitution.ResolvesEach more expanding fields others)
    : results = others := by
  cases first with
  | nil =>
      cases second
      rfl
  | cons field rest =>
      cases second with
      | cons fieldAgain restAgain =>
          rw [Resolves.unique field fieldAgain, ResolvesEach.unique rest restAgain]

end

variable {substitution : Substitution Term} {most steps : Nat} {expanding passed : List Var}
  {name last : Var}

mutual

/-- A replacement resolves a term when it resolves each of its variables. -/
theorem Resolves.of_replace (term : Term) {assigned : Var → Term}
    (each
      : ∀ name, term.occurs name = true →
          substitution.Resolves most expanding (var name) (assigned name))
    : substitution.Resolves most expanding term (term.replace assigned) := by
  cases term with
  | var name => exact each name (by simp [Term.occurs])
  | atom _ => exact .atom
  | lazy _ => exact .lazy
  | compound tag fields => exact .compound (ResolvesEach.of_replaceAll fields each)

/-- A replacement resolves several terms when it resolves each of their variables. -/
theorem ResolvesEach.of_replaceAll (fields : List Term) {assigned : Var → Term}
    (each
      : ∀ name, Term.occursInFields name fields = true →
          substitution.Resolves most expanding (var name) (assigned name))
    : substitution.ResolvesEach most expanding fields (Term.replaceAll assigned fields) := by
  cases fields with
  | nil => exact .nil
  | cons field rest =>
      simp only [Term.occursInFields, Bool.or_eq_true] at each
      exact .cons (Resolves.of_replace field (fun name occurs => each name (.inl occurs)))
        (ResolvesEach.of_replaceAll rest (fun name occurs => each name (.inr occurs)))

end

/-- Before a further bound variable, a trail has passed fewer variables than are bound. -/
theorem Trail.length_lt_size_domain {leads : Var → Var → Prop}
    (trail : Trail substitution leads steps passed name) (fresh : name ∉ passed)
    (bound : (substitution.lookup? name).isSome = true)
    : passed.length < substitution.domain.size := by
  have included : name :: passed ⊆ substitution.domain.toList := by
    intro other member
    refine (mem_domain substitution other).mpr ?_
    rcases List.mem_cons.mp member with rfl | earlier
    · exact bound
    · exact trail.bound other earlier
  exact (List.nodup_cons.mpr ⟨fresh, trail.unique⟩).length_le_of_subset included

theorem Resolves.of_stops (stops : name ∈ passed ∨ substitution.lookup? name = none)
    : substitution.Resolves most passed (var name) (var name) :=
  stops.elim .passed .unbound

/-- Expansion along a trail resolves the variable at hand, by induction on the steps. The
steps do not come to their end before all bound variables have been passed.
-/
theorem Trail.expand_resolves (trail : Trail substitution substitution.Depends steps passed name)
    : substitution.Resolves substitution.domain.size passed (var name)
        (substitution.expand steps passed name) := by
  induction steps generalizing passed name with
  | zero =>
      rw [expand_of_passed_or_unbound trail.passed_or_unbound]
      exact .of_stops trail.passed_or_unbound
  | succ steps ih =>
      rcases substitution.stops_or_bound passed name with stops | ⟨fresh, bound, found⟩
      · rw [expand_of_passed_or_unbound stops]
        exact .of_stops stops
      · have isBound : (substitution.lookup? name).isSome = true := by rw [found]; rfl
        rw [expand_succ_of_bound fresh found]
        refine .bound fresh found (trail.length_lt_size_domain fresh isBound)
          (Resolves.of_replace bound fun next occurs => ?_)
        exact ih (trail.extend_of_fresh fresh isBound
          ⟨bound, found, (Term.mem_vars next bound).mpr occurs⟩)

/-- A term resolves along the trails that start at its variables. -/
theorem resolve_resolves (substitution : Substitution Term) (term : Term)
    : substitution.Resolves substitution.domain.size [] term (substitution.resolve term) :=
  Resolves.of_replace term (fun name _ => (Trail.start _ _ name).expand_resolves)

-----------------------------------------------------------------------------------------
-- The variables that are left
-----------------------------------------------------------------------------------------

/-- Where a trail stops, the variable at hand stays, and if it has been passed it leads back
to itself.
-/
theorem Trail.depends_of_stops
    (trail : Trail substitution substitution.Depends steps passed name)
    (stops : name ∈ passed ∨ substitution.lookup? name = none)
    (member : last ∈ (substitution.expand steps passed name).vars)
    : ReflTransGen substitution.Depends name last
      ∧ (substitution.lookup? last = none ∨ TransGen substitution.Depends last last) := by
  rw [expand_of_passed_or_unbound stops, Term.mem_vars_var] at member
  subst member
  exact ⟨.refl, stops.symm.imp_right (trail.leading last)⟩

/-- Along a trail, expansion leaves variables that the one at hand leads to, and of these only
such as have no binding or lead back to themselves, by induction on the steps.
-/
theorem Trail.depends_of_mem_expand
    (trail : Trail substitution substitution.Depends steps passed name)
    (member : last ∈ (substitution.expand steps passed name).vars)
    : ReflTransGen substitution.Depends name last
      ∧ (substitution.lookup? last = none ∨ TransGen substitution.Depends last last) := by
  induction steps generalizing passed name with
  | zero => exact trail.depends_of_stops trail.passed_or_unbound member
  | succ steps ih =>
      rcases substitution.stops_or_bound passed name with stops | ⟨fresh, bound, found⟩
      · exact trail.depends_of_stops stops member
      · rw [expand_succ_of_bound fresh found, Term.mem_vars_replace] at member
        obtain ⟨next, occurs, inner⟩ := member
        have link : substitution.Depends name next := ⟨bound, found, occurs⟩
        obtain ⟨path, ends⟩ := ih (trail.extend_of_fresh fresh (by simp [found]) link) inner
        exact ⟨.head link path, ends⟩

/-- A path of dependencies that leads on from none of the listed variables. -/
def LeadsPast (substitution : Substitution Term) (passed : List Var) : Var → Var → Prop :=
  ReflTransGen (fun first second => substitution.Depends first second ∧ first ∉ passed)

/-- A path either does not lead on from a further variable, or it does so once for the last
time.
-/
theorem LeadsPast.cases_last_visit {first : Var}
    (path : substitution.LeadsPast passed first last)
    : substitution.LeadsPast (name :: passed) first last
      ∨ ∃ next,
          substitution.Depends name next
          ∧ substitution.LeadsPast (name :: passed) next last := by
  induction path using ReflTransGen.head_induction_on with
  | refl => exact .inl .refl
  | @head first second link _ ih =>
      rcases ih with onward | again
      · by_cases same : first = name
        · exact .inr ⟨second, same ▸ link.1, onward⟩
        · exact .inl (.head ⟨link.1, List.not_mem_cons_of_ne_of_not_mem same link.2⟩ onward)
      · exact .inr again

/-- A path to another variable goes on from its last visit to the first one. -/
theorem LeadsPast.exists_onward (path : substitution.LeadsPast passed name last)
    (different : name ≠ last)
    : ∃ next,
        substitution.Depends name next ∧ substitution.LeadsPast (name :: passed) next last := by
  rcases path.cases_last_visit with onward | again
  · rcases onward.cases_head with same | ⟨_, link, _⟩
    · exact (different same).elim
    · exact (link.2 List.mem_cons_self).elim
  · exact again

/-- Where a trail stops, no path goes on, and the variable at hand stays. -/
theorem LeadsPast.mem_expand_of_stops (path : substitution.LeadsPast passed name last)
    (stops : name ∈ passed ∨ substitution.lookup? name = none) (steps : Nat)
    : last ∈ (substitution.expand steps passed name).vars := by
  rw [expand_of_passed_or_unbound stops, Term.mem_vars_var]
  rcases path.cases_head with same | ⟨_, ⟨⟨bound, found, _⟩, fresh⟩, _⟩
  · exact same.symm
  · rcases stops with member | unbound
    · exact (fresh member).elim
    · simp [unbound] at found

/-- Along a trail, expansion comes to every variable without binding that the variable at hand
leads to past those on the trail, by induction on the steps.
-/
theorem Trail.mem_expand_of_leadsPast
    (trail : Trail substitution substitution.Depends steps passed name)
    (path : substitution.LeadsPast passed name last)
    (unbound : substitution.lookup? last = none)
    : last ∈ (substitution.expand steps passed name).vars := by
  induction steps generalizing passed name with
  | zero => exact path.mem_expand_of_stops trail.passed_or_unbound 0
  | succ steps ih =>
      rcases substitution.stops_or_bound passed name with stops | ⟨fresh, value, isBound⟩
      · exact path.mem_expand_of_stops stops (steps + 1)
      · have different : name ≠ last := by
          rintro rfl
          simp [unbound] at isBound
        obtain ⟨next, ⟨bound, found, occurs⟩, onward⟩ := path.exists_onward different
        rw [expand_succ_of_bound fresh found, Term.mem_vars_replace]
        exact ⟨next, occurs,
          ih (trail.extend_of_fresh fresh (by simp [found]) ⟨bound, found, occurs⟩) onward⟩

/-- Resolution always ends, with no more variables being expanded at once than are bound, and
no other term comes out if more may be. Of the variables without binding it leaves exactly
those that the term reaches through active bindings. Of the bound variables it leaves only
such as the term reaches and as lead back to themselves.
-/
theorem resolve_leaves_unbound_or_circular (substitution : Substitution Term) (term : Term)
    : substitution.Resolves substitution.domain.size [] term (substitution.resolve term)
      ∧ (∀ most result,
          substitution.Resolves most [] term result → result = substitution.resolve term)
      ∧ (∀ name,
          substitution.lookup? name = none
          → (name ∈ (substitution.resolve term).vars ↔ substitution.Reaches term name))
      ∧ ∀ name ∈ (substitution.resolve term).vars,
          (substitution.lookup? name).isSome = true
          → substitution.Reaches term name ∧ TransGen substitution.Depends name name := by
  have left {name : Var} (member : name ∈ (substitution.resolve term).vars)
      : substitution.Reaches term name
        ∧ (substitution.lookup? name = none ∨ TransGen substitution.Depends name name) := by
    obtain ⟨first, occurs, inner⟩ := Term.mem_vars_replace.mp member
    obtain ⟨path, ends⟩ := (Trail.start _ _ first).depends_of_mem_expand inner
    exact ⟨⟨first, occurs, path⟩, ends⟩
  have resolved := resolve_resolves substitution term
  refine ⟨resolved, fun _ _ other => other.unique resolved, ?_, ?_⟩
  · intro name unbound
    refine ⟨fun member => (left member).1, ?_⟩
    rintro ⟨first, occurs, path⟩
    have past : substitution.LeadsPast [] first name :=
      ReflTransGen.mono (fun _ _ link => ⟨link, List.not_mem_nil⟩) _ _ path
    exact Term.mem_vars_replace.mpr
      ⟨first, occurs, (Trail.start _ _ first).mem_expand_of_leadsPast past unbound⟩
  · intro name member bound
    obtain ⟨reached, ends⟩ := left member
    refine ⟨reached, ends.resolve_left ?_⟩
    exact Option.isSome_iff_ne_none.mp bound

/-- Two variables are bound to compounds that contain each other. The one that the term holds
is left inside its own binding, beside the two variables without binding; the other one is
expanded.
-/
theorem resolve_leaves_unbound_or_circular_of_two_compounds
    : Substitution.resolve
          ⟨[(⟨0⟩, compound 4 [var ⟨1⟩, var ⟨2⟩]), (⟨1⟩, compound 5 [var ⟨0⟩])]⟩
          (compound 3 [var ⟨1⟩, var ⟨3⟩])
        = compound 3 [compound 5 [compound 4 [var ⟨1⟩, var ⟨2⟩]], var ⟨3⟩]
      ∧ Substitution.Reaches
          ⟨[(⟨0⟩, compound 4 [var ⟨1⟩, var ⟨2⟩]), (⟨1⟩, compound 5 [var ⟨0⟩])]⟩
          (compound 3 [var ⟨1⟩, var ⟨3⟩]) ⟨2⟩
      ∧ TransGen
          (Substitution.Depends
            ⟨[(⟨0⟩, compound 4 [var ⟨1⟩, var ⟨2⟩]), (⟨1⟩, compound 5 [var ⟨0⟩])]⟩)
          ⟨1⟩ ⟨1⟩ := by
  obtain ⟨_, _, unbound, circular⟩ := resolve_leaves_unbound_or_circular
    ⟨[(⟨0⟩, compound 4 [var ⟨1⟩, var ⟨2⟩]), (⟨1⟩, compound 5 [var ⟨0⟩])]⟩
    (compound 3 [var ⟨1⟩, var ⟨3⟩])
  exact ⟨rfl, (unbound ⟨2⟩ rfl).mp (by decide), (circular ⟨1⟩ (by decide) rfl).2⟩

end Substitution

end Unification
