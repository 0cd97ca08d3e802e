import Unification.Proofs.Bindings
import Unification.Proofs.Dependency
import Unification.Proofs.LevelBound

/-! Only what is reached matters. Two substitutions that bind alike within a class of values
that is closed under fields and bindings lead walks, resolutions and runs on values of the
class alike, however many other bindings they have: walks and resolutions end by themselves
before their budgets do. The new bindings stay in the class, so calls on pairs that reach
different variables do not disturb each other.
-/

namespace Unification

open Relation
open Unifiable (shape field?)
open Term (var atom compound tuple)

-----------------------------------------------------------------------------------------
-- Substitutions that agree within a class of values
-----------------------------------------------------------------------------------------

section Agreement

variable {α : Type} [Unifiable α] {given : α → Prop} {first second : Substitution α}
  {value : α}

/-- Two substitutions without cycles of variables that agree within a class: hops from values
of the class are the same under both, and they never leave it.
-/
structure Substitution.AgreeWithin (given : α → Prop) (first second : Substitution α)
    : Prop where
  closed : ∀ {value bound}, given value → first.hop? value = some bound → given bound
  same : ∀ {value}, given value → first.hop? value = second.hop? value
  chains : first.ChainAcyclic
  otherChains : second.ChainAcyclic

namespace Substitution.AgreeWithin

theorem of_hops (agree : first.AgreeWithin given second) (holds : given value) {root : α}
    (path : ReflTransGen first.Hops value root)
    : given root ∧ ReflTransGen second.Hops value root := by
  induction path with
  | refl => exact ⟨holds, .refl⟩
  | tail _ hop ih =>
      exact ⟨agree.closed ih.1 hop, ih.2.tail ((agree.same ih.1).symm.trans hop)⟩

/-- Walks from values of the class end at the same value of the class. -/
theorem walk (agree : first.AgreeWithin given second) (holds : given value)
    : given (first.walk value) ∧ second.walk value = first.walk value := by
  obtain ⟨rootGiven, path⟩ := agree.of_hops holds (walk_reaches first value)
  refine ⟨rootGiven, walk_eq_of_hops path ?_⟩
  rw [← agree.same rootGiven]
  exact agree.chains.hop?_walk value

theorem symm (agree : first.AgreeWithin given second) : second.AgreeWithin given first where
  closed holds hop := agree.closed holds ((agree.same holds).trans hop)
  same holds := (agree.same holds).symm
  chains := agree.otherChains
  otherChains := agree.chains

/-- A binding of a variable to a root of the class keeps the agreement. -/
theorem extend (agree : first.AgreeWithin given second) {name : Var} (holds : given value)
    (root : first.hop? value = none) (apart : shape value ≠ .unknown name)
    : (first.extend name value).AgreeWithin given (second.extend name value) where
  closed := by
    intro origin bound originGiven hop
    obtain ⟨other, originShape, found⟩ := hop?_eq_some_iff.mp hop
    rw [lookup?_extend] at found
    split at found
    next => exact Option.some.inj found ▸ holds
    next => exact agree.closed originGiven ((hop?_of_unknown originShape).trans found)
  same := by
    intro origin originGiven
    have same := agree.same originGiven
    by_cases known : Known origin
    · rw [hop?_of_known known, hop?_of_known known]
    · obtain ⟨other, originShape⟩ := exists_unknown_of_not_known known
      rw [hop?_of_unknown originShape] at same ⊢
      rw [hop?_of_unknown originShape] at same ⊢
      rw [lookup?_extend, lookup?_extend, same]
  chains := agree.chains.extend root apart
  otherChains := agree.otherChains.extend ((agree.same holds).symm.trans root) apart

/-- Bindings of variables outside of the class keep the agreement. -/
theorem append_of_apart (agree : first.AgreeWithin given second) {added : List (Var × α)}
    (apart
      : ∀ binding ∈ added, ∀ value, given value → shape value ≠ .unknown binding.1)
    (chains : (⟨added ++ second.bindings⟩ : Substitution α).ChainAcyclic)
    : first.AgreeWithin given ⟨added ++ second.bindings⟩ where
  closed := agree.closed
  same := by
    intro value holds
    rw [agree.same holds]
    by_cases known : Known value
    · rw [hop?_of_known known, hop?_of_known known]
    · obtain ⟨name, valueShape⟩ := exists_unknown_of_not_known known
      have absent : added.find? (fun binding => binding.1 == name) = none := by
        rw [List.find?_eq_none]
        intro binding member same
        exact apart binding member value holds (valueShape.trans (by rw [beq_iff_eq.mp same]))
      rw [hop?_of_unknown valueShape, hop?_of_unknown valueShape]
      unfold lookup?
      rw [List.find?_append, absent, Option.none_or]
  chains := agree.chains
  otherChains := chains

end Substitution.AgreeWithin

/-- Two substitutions that came from others by the same new bindings, and still agree within
a class, to which the new bindings belong.
-/
structure GrownAlike (given : α → Prop) (first second upper lower : Substitution α)
    : Prop where
  agree : upper.AgreeWithin given lower
  added
    : ∃ added,
        Substitution.Adds given first added upper ∧ Substitution.Adds given second added lower

theorem GrownAlike.start (agree : first.AgreeWithin given second)
    : GrownAlike given first second first second :=
  ⟨agree, [], .nothing given first, .nothing given second⟩

theorem GrownAlike.extend {upper lower : Substitution α} {target : α} {name : Var}
    (grown : GrownAlike given first second upper lower)
    (targetShape : shape target = .unknown name) (fresh : upper.lookup? name = none)
    (targetGiven : given target) (holds : given value) (root : upper.hop? value = none)
    (apart : shape value ≠ .unknown name)
    : GrownAlike given first second (upper.extend name value) (lower.extend name value) := by
  obtain ⟨added, adds, otherAdds⟩ := grown.added
  have otherFresh : lower.lookup? name = none := by
    rw [← Substitution.hop?_of_unknown targetShape, ← grown.agree.same targetGiven,
      Substitution.hop?_of_unknown targetShape, fresh]
  exact ⟨grown.agree.extend holds root apart, (name, value) :: added,
    adds.bind targetShape fresh targetGiven holds,
    otherAdds.bind targetShape otherFresh targetGiven holds⟩

/-- Values of the class lead to the same step under both substitutions, and a binding is one
of a variable of the class to a value of the class.
-/
theorem locality_simulation [LawfulClone α] (hereditary : Hereditary given)
    (first second : Substitution α)
    : Simulation (GrownAlike given first second)
        (fun left right left' right' =>
          left = left' ∧ right = right' ∧ given left ∧ given right)
        Eq where
  roots := by
    rintro upper lower left right _ _ grown ⟨rfl, rfl, leftGiven, rightGiven⟩
    obtain ⟨leftRootGiven, leftSame⟩ := grown.agree.walk leftGiven
    obtain ⟨rightRootGiven, rightSame⟩ := grown.agree.walk rightGiven
    have chains := grown.agree.chains
    rw [leftSame, rightSame]
    refine .of_same keepsMismatches_eq grown ?_ ?_ ?_
    · intro name leftShape apart
      rw [LawfulClone.clone_eq]
      exact grown.extend leftShape (chains.lookup?_walk leftShape) leftRootGiven
        rightRootGiven (chains.hop?_walk right) apart
    · intro name leftKnown rightShape
      rw [LawfulClone.clone_eq]
      exact grown.extend rightShape (chains.lookup?_walk rightShape) rightRootGiven
        leftRootGiven (chains.hop?_walk left) (leftKnown name)
    · intro index first second leftField rightField
      exact ⟨rfl, rfl, hereditary _ _ _ leftRootGiven leftField,
        hereditary _ _ _ rightRootGiven rightField⟩

/-- Calls on values of the class agree, and they make the same new bindings within it. -/
theorem Substitution.AgreeWithin.unifyWith_agree {β : Type} [FinitelyBuilt β]
    {given : β → Prop} {first second : Substitution β}
    (agree : first.AgreeWithin given second) (hereditary : Hereditary given)
    (config : Config) {left right : β} (leftGiven : given left) (rightGiven : given right)
    : RunsAgree (GrownAlike given first second) Eq (unifyWith config left right first)
        (unifyWith config left right second) :=
  (locality_simulation hereditary first second).unifyWith_agree config.refusals_agree
    (.start agree) ⟨rfl, rfl, leftGiven, rightGiven⟩

end Agreement

-----------------------------------------------------------------------------------------
-- Terms over a class of variables
-----------------------------------------------------------------------------------------

section Within

variable {within : Var → Prop} {first second : Substitution Term}

/-- A term whose variables all belong to a class. -/
def Term.Within (within : Var → Prop) (term : Term) : Prop :=
  ∀ name ∈ term.vars, within name

instance [DecidablePred within] (term : Term) : Decidable (term.Within within) :=
  inferInstanceAs (Decidable (∀ name ∈ term.vars.toList, within name))

theorem Term.within_hereditary (within : Var → Prop) : Hereditary (Term.Within within) :=
  fun _ _ _ holds found name member => holds name (Term.vars_of_field? found member)

theorem Term.Within.of_shape {term : Term} (holds : term.Within within) {name : Var}
    (termShape : shape term = .unknown name)
    : within name := by
  obtain rfl := Term.eq_var_of_shape termShape
  exact holds name (by simp [Term.mem_vars, Term.occurs])

namespace Substitution

/-- A class of variables that bindings do not lead out of. -/
def ClosedUnder (within : Var → Prop) (substitution : Substitution Term) : Prop :=
  ∀ name bound, within name → substitution.lookup? name = some bound → bound.Within within

theorem agreeWithin_of_lookup? (closed : first.ClosedUnder within)
    (same : ∀ name, within name → first.lookup? name = second.lookup? name)
    (chains : first.ChainAcyclic) (otherChains : second.ChainAcyclic)
    : first.AgreeWithin (Term.Within within) second where
  closed := by
    intro term bound holds hop
    obtain ⟨name, termShape, found⟩ := hop?_eq_some_iff.mp hop
    exact closed name bound (holds.of_shape termShape) found
  same := by
    intro term holds
    cases term with
    | var name => exact same name (holds.of_shape rfl)
    | atom _ | lazy _ | compound _ _ => rfl
  chains := chains
  otherChains := otherChains

/-- Expansions that have passed the same variables are the same, with whatever budget covers
them, by induction on the first budget. At the end of either budget there is no variable
left that could be expanded further, also where bindings are circular.
-/
theorem expand_congr (closed : first.ClosedUnder within)
    (same : ∀ name, within name → first.lookup? name = second.lookup? name)
    (steps others : Nat) {passed : List Var} {name : Var} (holds : within name)
    (trail : Trail first first.Depends steps passed name)
    (other : Trail second second.Depends others passed name)
    : first.expand steps passed name = second.expand others passed name := by
  induction steps generalizing others passed name with
  | zero =>
      have stops := trail.passed_or_unbound
      rw [expand_of_passed_or_unbound stops]
      rw [same name holds] at stops
      rw [expand_of_passed_or_unbound stops]
  | succ steps ih =>
      rcases second.stops_or_bound passed name with stops | ⟨fresh, bound, otherFound⟩
      · rw [expand_of_passed_or_unbound stops]
        rw [← same name holds] at stops
        rw [expand_of_passed_or_unbound stops]
      · have found := (same name holds).trans otherFound
        cases others with
        | zero => simpa [fresh, otherFound] using other.passed_or_unbound
        | succ others =>
            rw [expand_succ_of_bound fresh found, expand_succ_of_bound fresh otherFound]
            refine bound.replace_congr ?_
            intro next occurs
            have member := (Term.mem_vars next bound).mpr occurs
            exact ih others (closed name bound holds found next member)
              (trail.extend_of_fresh fresh (by simp [found]) ⟨bound, found, member⟩)
              (other.extend_of_fresh fresh (by simp [otherFound]) ⟨bound, otherFound, member⟩)

theorem resolve_congr (closed : first.ClosedUnder within)
    (same : ∀ name, within name → first.lookup? name = second.lookup? name) {term : Term}
    (holds : term.Within within)
    : first.resolve term = second.resolve term := by
  refine term.replace_congr ?_
  intro name occurs
  exact expand_congr closed same first.size second.size
    (holds name ((Term.mem_vars name term).mpr occurs)) (.start _ _ name) (.start _ _ name)

end Substitution

end Within

-----------------------------------------------------------------------------------------
-- Calls under substitutions that agree on what is reached
-----------------------------------------------------------------------------------------

namespace Substitution

/-- A variable that is reached from one of two terms. -/
def ReachedBy (substitution : Substitution Term) (left right : Term) (name : Var) : Prop :=
  substitution.Reaches left name ∨ substitution.Reaches right name

variable {start other : Substitution Term} {left right : Term}

theorem closedUnder_reachedBy (start : Substitution Term) (left right : Term)
    : start.ClosedUnder (start.ReachedBy left right) := by
  intro name bound reached found next member
  exact reached.imp
    (fun ⟨origin, occurs, path⟩ => ⟨origin, occurs, path.tail ⟨bound, found, member⟩⟩)
    (fun ⟨origin, occurs, path⟩ => ⟨origin, occurs, path.tail ⟨bound, found, member⟩⟩)

/-- Bindings do not lead out of a class if the contents of each of them belong to it. -/
theorem closedUnder_of_bindings {within : Var → Prop}
    (holds : ∀ binding ∈ start.bindings, binding.2.Within within)
    : start.ClosedUnder within :=
  fun _ _ _ found => holds _ (mem_bindings_of_lookup? found)

theorem left_within_reachedBy (start : Substitution Term) (left right : Term)
    : left.Within (start.ReachedBy left right) :=
  fun name member => .inl ⟨name, member, .refl⟩

theorem right_within_reachedBy (start : Substitution Term) (left right : Term)
    : right.Within (start.ReachedBy left right) :=
  fun name member => .inr ⟨name, member, .refl⟩

/-- What two terms reach belongs to every class that holds their variables and that bindings
do not lead out of.
-/
theorem ReachedBy.mem {within : Var → Prop} {name : Var}
    (reached : start.ReachedBy left right name) (closed : start.ClosedUnder within)
    (leftWithin : left.Within within) (rightWithin : right.Within within)
    : within name := by
  have along {origin last : Var} (holds : within origin)
      (path : ReflTransGen start.Depends origin last)
      : within last := by
    induction path with
    | refl => exact holds
    | tail _ link ih =>
        obtain ⟨bound, found, member⟩ := link
        exact closed _ bound ih found _ member
  rcases reached with ⟨origin, occurs, path⟩ | ⟨origin, occurs, path⟩
  · exact along (leftWithin origin occurs) path
  · exact along (rightWithin origin occurs) path

/-- Two substitutions act alike on a pair of terms: both terms have the same walk and the
same resolution under them, and under every setting calls on the pair agree. Neither call
returns, both fail with the same failure, or both succeed with the same bindings in front.
-/
structure ActsAlike (first second : Substitution Term) (left right : Term) : Prop where
  walks : first.walk left = second.walk left ∧ first.walk right = second.walk right
  resolves
    : first.resolve left = second.resolve left ∧ first.resolve right = second.resolve right
  calls
    : ∀ config,
        RunsAgree
          (fun result other =>
            ∃ added : List (Var × Term),
              result.bindings = added ++ first.bindings
              ∧ other.bindings = added ++ second.bindings)
          Eq (unifyWith config left right first) (unifyWith config left right second)

/-- Substitutions without cycles of variables act alike on a pair of terms if they have the
same active bindings of all variables that the pair reaches.
-/
theorem actsAlike_of_lookup? (chains : start.ChainAcyclic) (otherChains : other.ChainAcyclic)
    (same : ∀ name, start.ReachedBy left right name → start.lookup? name = other.lookup? name)
    : start.ActsAlike other left right := by
  have closed := closedUnder_reachedBy start left right
  have agree := agreeWithin_of_lookup? closed same chains otherChains
  have leftWithin := left_within_reachedBy start left right
  have rightWithin := right_within_reachedBy start left right
  refine ⟨⟨(agree.walk leftWithin).2.symm, (agree.walk rightWithin).2.symm⟩,
    ⟨resolve_congr closed same leftWithin, resolve_congr closed same rightWithin⟩, ?_⟩
  intro config
  apply (agree.unifyWith_agree (Term.within_hereditary _) config leftWithin rightWithin).mono
  rintro result later ⟨_, added, adds, otherAdds⟩
  exact ⟨added, adds.bindings, otherAdds.bindings⟩

end Substitution

-----------------------------------------------------------------------------------------
-- Hidden bindings
-----------------------------------------------------------------------------------------

namespace Substitution

/-- A binding behind another one of the same variable is never looked up. -/
theorem lookup?_of_hidden {α : Type} {front : List (Var × α)} {name : Var}
    (hidden : name ∈ front.map Prod.fst) (value : α) (back : List (Var × α)) (sought : Var)
    : (⟨front ++ (name, value) :: back⟩ : Substitution α).lookup? sought
      = (⟨front ++ back⟩ : Substitution α).lookup? sought := by
  unfold lookup?
  rw [List.find?_append, List.find?_append]
  cases found : front.find? (fun binding => binding.1 == sought) with
  | some binding => rfl
  | none =>
      have different : name ≠ sought := by
        rintro rfl
        obtain ⟨binding, member, same⟩ := List.mem_map.mp hidden
        have apart := List.find?_eq_none.mp found binding member
        simp [same] at apart
      simp [different]

/-- Cycles of variables depend on the active bindings alone. -/
theorem ChainAcyclic.of_lookup? {α : Type} [Unifiable α] {first second : Substitution α}
    (chains : first.ChainAcyclic) (same : ∀ name, first.lookup? name = second.lookup? name)
    : second.ChainAcyclic := by
  intro name cycle
  apply chains name
  refine TransGen.mono ?_ name name cycle
  rintro origin target ⟨value, found, valueShape⟩
  exact ⟨value, (same origin).trans found, valueShape⟩

end Substitution

-----------------------------------------------------------------------------------------
-- Calls one after the other
-----------------------------------------------------------------------------------------

/-- A call on two terms under a setting. -/
structure Call where
  config : Config
  left : Term
  right : Term

namespace Call

/-- A call succeeds and puts bindings in front of those that are there. -/
def Adds (call : Call) (start : Substitution Term) (added : List (Var × Term)) : Prop :=
  ∃ run,
    unifyWith call.config call.left call.right start = some run
    ∧ run.answer = .ok ⟨added ++ start.bindings⟩

/-- No variable is reached from the terms of both calls. -/
def ApartFrom (start : Substitution Term) (call other : Call) : Prop :=
  ∀ name,
    start.ReachedBy call.left call.right name → ¬ start.ReachedBy other.left other.right name

/-- Calls made one after the other, each on top of the bindings of those before it, succeed
and add the bindings that stand beside them.
-/
def AddInOrder : List (Call × List (Var × Term)) → Substitution Term → Prop
  | [], _ => True
  | (call, added) :: rest, start =>
      call.Adds start added ∧ AddInOrder rest ⟨added ++ start.bindings⟩

variable {start current : Substitution Term} {call : Call} {added : List (Var × Term)}

/-- A call adds the same bindings under substitutions that agree within a class to which its
terms belong, and the agreement goes on.
-/
theorem Adds.transfer {within : Var → Prop} (adds : call.Adds start added)
    (agree : start.AgreeWithin (Term.Within within) current)
    (leftWithin : call.left.Within within) (rightWithin : call.right.Within within)
    : call.Adds current added
      ∧ Substitution.Adds (Term.Within within) start added ⟨added ++ start.bindings⟩
      ∧ (⟨added ++ current.bindings⟩ : Substitution Term).ChainAcyclic := by
  obtain ⟨run, found, succeeded⟩ := adds
  have alike := agree.unifyWith_agree (Term.within_hereditary within) call.config leftWithin
    rightWithin
  rw [found] at alike
  generalize otherFound : unifyWith call.config call.left call.right current = other at alike
  cases alike with
  | failed failed => simp [succeeded] at failed
  | @succeeded _ other result later reached otherReached grown =>
      cases reached.symm.trans succeeded
      obtain ⟨agree, front, fronts, otherFronts⟩ := grown
      obtain rfl : added = front := List.append_cancel_right fronts.bindings
      obtain ⟨bindings⟩ := later
      obtain rfl : bindings = added ++ current.bindings := otherFronts.bindings
      exact ⟨⟨other, otherFound, otherReached⟩, fronts, agree.otherChains⟩

/-- Calls that are apart from each other at the start add their bindings in order, on top of
any bindings that do not concern them, exactly when each of them adds its bindings to the
start alone. By induction on the calls: what one adds does not concern the others.
-/
theorem addInOrder_iff {calls : List (Call × List (Var × Term))}
    (agree
      : ∀ entry ∈ calls,
          start.AgreeWithin (Term.Within (start.ReachedBy entry.1.left entry.1.right)) current)
    (apart : calls.Pairwise (fun entry other => entry.1.ApartFrom start other.1))
    : AddInOrder calls current ↔ ∀ entry ∈ calls, entry.1.Adds start entry.2 := by
  induction calls generalizing current with
  | nil => simp [AddInOrder]
  | cons entry rest ih =>
      obtain ⟨call, added⟩ := entry
      obtain ⟨here, others⟩ := List.forall_mem_cons.mp agree
      obtain ⟨apartHere, apartRest⟩ := List.pairwise_cons.mp apart
      have leftWithin := Substitution.left_within_reachedBy start call.left call.right
      have rightWithin := Substitution.right_within_reachedBy start call.left call.right
      have sameCall : call.Adds current added ↔ call.Adds start added :=
        ⟨fun adds => (adds.transfer here.symm leftWithin rightWithin).1,
          fun adds => (adds.transfer here leftWithin rightWithin).1⟩
      rw [AddInOrder, List.forall_mem_cons, sameCall]
      refine and_congr_right ?_
      intro adds
      obtain ⟨_, fronts, chains⟩ := adds.transfer here leftWithin rightWithin
      apply ih _ apartRest
      intro other member
      refine (others other member).append_of_apart ?_ chains
      intro binding inAdded value valueWithin valueShape
      obtain ⟨target, targetShape, targetWithin⟩ := fronts.target binding inAdded
      exact apartHere other member binding.1 (targetWithin.of_shape targetShape)
        (valueWithin.of_shape valueShape)

end Call

/-- Substitutions without cycles of variables act alike on two terms if they bind alike all
variables that the terms reach under the first. So a hidden binding may as well be left out;
and calls on pairs that reach different variables, any number of them, add the same bindings
in whichever order they are made.
-/
theorem actsAlike_of_reached (start : Substitution Term) (chains : start.ChainAcyclic)
    : (∀ left right other,
        Substitution.ChainAcyclic other
        → (∀ name,
            start.ReachedBy left right name → start.lookup? name = other.lookup? name)
        → start.ActsAlike other left right)
      ∧ (∀ left right front name value back,
          start.bindings = front ++ (name, value) :: back
          → name ∈ front.map Prod.fst
          → start.ActsAlike ⟨front ++ back⟩ left right)
      ∧ ∀ calls order : List (Call × List (Var × Term)),
          calls.Perm order
          → calls.Pairwise (fun entry other => entry.1.ApartFrom start other.1)
          → (Call.AddInOrder calls start ↔ Call.AddInOrder order start) := by
  refine ⟨fun left right other => Substitution.actsAlike_of_lookup? chains, ?_, ?_⟩
  · intro left right front name value back split hidden
    obtain ⟨bindings⟩ := start
    obtain rfl : bindings = front ++ (name, value) :: back := split
    have same := Substitution.lookup?_of_hidden hidden value back
    exact Substitution.actsAlike_of_lookup? chains (chains.of_lookup? same)
      (fun name _ => same name)
  · intro calls order permuted apart
    have alone (entry : Call × List (Var × Term))
        : start.AgreeWithin (Term.Within (start.ReachedBy entry.1.left entry.1.right)) start :=
      Substitution.agreeWithin_of_lookup? (Substitution.closedUnder_reachedBy _ _ _)
        (fun _ _ => rfl) chains chains
    have symmetric {entry other : Call × List (Var × Term)}
        (apart : entry.1.ApartFrom start other.1)
        : other.1.ApartFrom start entry.1 :=
      fun name reached others => apart name others reached
    have orderApart := (permuted.pairwise_iff symmetric).mp apart
    rw [Call.addInOrder_iff (fun entry _ => alone entry) apart,
      Call.addInOrder_iff (fun entry _ => alone entry) orderApart]
    exact forall_congr' fun entry => imp_congr_left permuted.mem_iff

/-- A circular binding and an alias, with a hidden binding behind them. The same two bindings
in another order, with one of a variable that is not reached, make no difference, nor does it
to leave out the hidden one. Two calls that reach different variables add their bindings in
either order.
-/
theorem actsAlike_of_reached_beside_other_bindings
    : Substitution.ActsAlike
          ⟨[(⟨1⟩, compound 4 [var ⟨1⟩]), (⟨0⟩, var ⟨1⟩), (⟨1⟩, atom .unit)]⟩
          ⟨[(⟨7⟩, var ⟨8⟩), (⟨0⟩, var ⟨1⟩), (⟨1⟩, compound 4 [var ⟨1⟩])]⟩
          (tuple [var ⟨0⟩, var ⟨2⟩]) (tuple [compound 4 [var ⟨3⟩], var ⟨1⟩])
      ∧ Substitution.ActsAlike
          ⟨[(⟨1⟩, compound 4 [var ⟨1⟩]), (⟨0⟩, var ⟨1⟩), (⟨1⟩, atom .unit)]⟩
          ⟨[(⟨1⟩, compound 4 [var ⟨1⟩]), (⟨0⟩, var ⟨1⟩)]⟩
          (tuple [var ⟨0⟩, var ⟨2⟩]) (tuple [compound 4 [var ⟨3⟩], var ⟨1⟩])
      ∧ Call.AddInOrder
          [(⟨.limited 1, var ⟨0⟩, compound 4 [var ⟨3⟩]⟩, [(⟨3⟩, compound 4 [var ⟨1⟩])]),
            (⟨.unlimited, var ⟨5⟩, var ⟨6⟩⟩, [(⟨5⟩, var ⟨6⟩)])]
          ⟨[(⟨1⟩, compound 4 [var ⟨1⟩]), (⟨0⟩, var ⟨1⟩), (⟨1⟩, atom .unit)]⟩
      ∧ Call.AddInOrder
          [(⟨.unlimited, var ⟨5⟩, var ⟨6⟩⟩, [(⟨5⟩, var ⟨6⟩)]),
            (⟨.limited 1, var ⟨0⟩, compound 4 [var ⟨3⟩]⟩, [(⟨3⟩, compound 4 [var ⟨1⟩])])]
          ⟨[(⟨1⟩, compound 4 [var ⟨1⟩]), (⟨0⟩, var ⟨1⟩), (⟨1⟩, atom .unit)]⟩ := by
  have chains
      : Substitution.ChainAcyclic (α := Term)
          ⟨[(⟨1⟩, compound 4 [var ⟨1⟩]), (⟨0⟩, var ⟨1⟩), (⟨1⟩, atom .unit)]⟩ := by
    apply Substitution.chainAcyclic_of_rank (fun name => if name = ⟨0⟩ then 1 else 0)
    intro binding member other valueShape
    simp only [List.mem_cons, List.not_mem_nil, or_false] at member
    rcases member with rfl | rfl | rfl <;> cases valueShape
    decide
  have otherChains
      : Substitution.ChainAcyclic (α := Term)
          ⟨[(⟨7⟩, var ⟨8⟩), (⟨0⟩, var ⟨1⟩), (⟨1⟩, compound 4 [var ⟨1⟩])]⟩ := by
    apply Substitution.chainAcyclic_of_rank
      (fun name => if name = ⟨0⟩ ∨ name = ⟨7⟩ then 1 else 0)
    intro binding member other valueShape
    simp only [List.mem_cons, List.not_mem_nil, or_false] at member
    rcases member with rfl | rfl | rfl <;> cases valueShape <;> decide
  obtain ⟨alike, hidden, orders⟩ := actsAlike_of_reached _ chains
  have inOrder
      : Call.AddInOrder
          [(⟨.limited 1, var ⟨0⟩, compound 4 [var ⟨3⟩]⟩, [(⟨3⟩, compound 4 [var ⟨1⟩])]),
            (⟨.unlimited, var ⟨5⟩, var ⟨6⟩⟩, [(⟨5⟩, var ⟨6⟩)])]
          ⟨[(⟨1⟩, compound 4 [var ⟨1⟩]), (⟨0⟩, var ⟨1⟩), (⟨1⟩, atom .unit)]⟩ :=
    ⟨⟨_, rfl, rfl⟩, ⟨_, rfl, rfl⟩, trivial⟩
  refine ⟨alike _ _ _ otherChains ?_, ?_, inOrder,
    (orders _ _ (.swap _ _ []) (List.pairwise_pair.mpr ?_)).mp inOrder⟩
  · intro name reached
    have listed : name ∈ [⟨0⟩, ⟨1⟩, ⟨2⟩, ⟨3⟩] :=
      reached.mem (Substitution.closedUnder_of_bindings (by decide)) (by decide) (by decide)
    simp only [List.mem_cons, List.not_mem_nil, or_false] at listed
    rcases listed with rfl | rfl | rfl | rfl <;> rfl
  · exact hidden _ _ [(⟨1⟩, compound 4 [var ⟨1⟩]), (⟨0⟩, var ⟨1⟩)] ⟨1⟩ (atom .unit) [] rfl
      (by decide)
  · intro name reached otherReached
    have listed : name ∈ [⟨0⟩, ⟨1⟩, ⟨3⟩] :=
      reached.mem (Substitution.closedUnder_of_bindings (by decide)) (by decide) (by decide)
    have otherListed : name = ⟨5⟩ ∨ name = ⟨6⟩ := by
      apply otherReached.mem _ (by decide) (by decide)
      intro origin bound within found
      rcases within with rfl | rfl <;> cases found
    rcases otherListed with rfl | rfl <;> simp at listed

end Unification
