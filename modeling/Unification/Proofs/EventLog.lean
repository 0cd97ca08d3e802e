import Unification.Proofs.Derivation
import Unification.Term.Unifiable

/-! The log of a run as an account of it. The variables that are reported as bound are those of
the new bindings, in the order in which they were bound. The reports nest as the run descends:
each one below the outermost depth comes after a descent one level above it, and everything
between the two lies deeper than that descent.
-/

namespace Unification

open Term (var atom compound tuple)

-----------------------------------------------------------------------------------------
-- What a report says
-----------------------------------------------------------------------------------------

namespace Event

/-- The depth of a report made on the way. The report of an outcome has none. -/
def depth? : Event → Option Nat
  | bound _ depth => some depth
  | descended _ depth => some depth
  | succeeded _ => none
  | failed _ => none

/-- The variable that is reported as bound. -/
def boundName? : Event → Option Var
  | bound name _ => some name
  | _ => none

/-- The line of a report made on the way starts with the level of tracing. -/
theorem display_of_depth? {event : Event} {depth : Nat} (placed : event.depth? = some depth)
    : ∃ text, event.display = "TRACE " ++ text := by
  cases event with
  | bound name level =>
      refine ⟨"binding variable var=" ++ toString name.id.toNat
        ++ " depth=" ++ toString level, ?_⟩
      unfold display
      rw [show "TRACE binding variable var=" = "TRACE " ++ "binding variable var=" by decide]
      simp only [String.append_assoc]
  | descended head level =>
      refine ⟨"unifying fields tag=" ++ toString head.tag.toNat ++ " arity="
        ++ toString head.arity ++ " depth=" ++ toString level, ?_⟩
      unfold display
      rw [show "TRACE unifying fields tag=" = "TRACE " ++ "unifying fields tag=" by decide]
      simp only [String.append_assoc]
  | succeeded _ | failed _ => cases placed

end Event

/-- The variables that are reported as bound, in the order of the reports. -/
def boundNames (log : List Event) : List Var :=
  log.filterMap Event.boundName?

theorem boundNames_append (first second : List Event)
    : boundNames (first ++ second) = boundNames first ++ boundNames second :=
  List.filterMap_append

-----------------------------------------------------------------------------------------
-- Reports that nest
-----------------------------------------------------------------------------------------

/-- The last report before a place that is no deeper than some depth is that of a descent at
this very depth, into compounds that have fields.
-/
def DescendedBefore (before : List Event) (depth : Nat) : Prop :=
  ∃ earlier head between,
    before = earlier ++ .descended head depth :: between
    ∧ 0 < head.arity
    ∧ ∀ event ∈ between, ∀ level, event.depth? = some level → depth < level

theorem DescendedBefore.prepend {before : List Event} {depth : Nat}
    (descended : DescendedBefore before depth) (front : List Event)
    : DescendedBefore (front ++ before) depth := by
  obtain ⟨earlier, head, between, rfl, fields, deeper⟩ := descended
  exact ⟨front ++ earlier, head, between, (List.append_assoc ..).symm, fields, deeper⟩

/-- Reports that nest from a depth on: each of them is at that depth, or lies one level below a
descent that is the last one before it.
-/
def NestedFrom (depth : Nat) (log : List Event) : Prop :=
  ∀ before event after,
    log = before ++ event :: after
    → event.depth? = some depth
      ∨ ∃ above,
          depth ≤ above
          ∧ event.depth? = some (above + 1)
          ∧ DescendedBefore before above

/-- A place in a list that was joined from two is a place in one of them. -/
theorem split_append {α : Type} {first second before after : List α} {element : α}
    (joined : first ++ second = before ++ element :: after)
    : (∃ rest, first = before ++ element :: rest)
      ∨ ∃ front, before = first ++ front ∧ second = front ++ element :: after := by
  rcases List.append_eq_append_iff.mp joined with
    ⟨front, atFront, rest⟩ | ⟨front, atFront, rest⟩
  · exact .inr ⟨front, atFront, rest⟩
  · cases front with
    | nil => exact .inr ⟨[], by simpa using atFront.symm, rest.symm⟩
    | cons other front =>
        obtain ⟨rfl, _⟩ := List.cons.inj rest
        exact .inl ⟨front, atFront⟩

namespace NestedFrom

variable {depth : Nat} {log first second : List Event}

theorem nil (depth : Nat) : NestedFrom depth [] := by
  intro before event after empty
  simp at empty

theorem single {event : Event} (placed : event.depth? = some depth)
    : NestedFrom depth [event] := by
  intro before other after split
  cases before with
  | nil =>
      obtain ⟨rfl, _⟩ := List.cons.inj split
      exact .inl placed
  | cons _ before => simp at split

theorem append (firstNested : NestedFrom depth first) (secondNested : NestedFrom depth second)
    : NestedFrom depth (first ++ second) := by
  intro before event after joined
  rcases split_append joined with ⟨rest, inFirst⟩ | ⟨front, rfl, inSecond⟩
  · exact firstNested before event rest inFirst
  · exact (secondNested front event after inSecond).imp_right
      (fun ⟨above, least, placed, descended⟩ => ⟨above, least, placed, descended.prepend first⟩)

/-- Every report is at the depth or below it. -/
theorem exists_depth (nested : NestedFrom depth log) {event : Event} (member : event ∈ log)
    : ∃ level, event.depth? = some level ∧ depth ≤ level := by
  obtain ⟨before, after, split⟩ := List.append_of_mem member
  rcases nested before event after split with placed | ⟨above, least, placed, _⟩
  · exact ⟨depth, placed, Nat.le_refl depth⟩
  · exact ⟨above + 1, placed, by omega⟩

/-- A descent comes one level above all that is reported about the fields. -/
theorem descend (nested : NestedFrom (depth + 1) log) {head : Head} (fields : 0 < head.arity)
    : NestedFrom depth (.descended head depth :: log) := by
  intro before event after split
  cases before with
  | nil =>
      obtain ⟨rfl, _⟩ := List.cons.inj split
      exact .inl rfl
  | cons other before =>
      obtain ⟨rfl, rest⟩ := List.cons.inj split
      right
      rcases nested before event after rest with placed | ⟨above, least, placed, descended⟩
      · refine ⟨depth, Nat.le_refl depth, placed, [], head, before, rfl, fields, ?_⟩
        intro earlier member level earlierPlaced
        have inLog : earlier ∈ log := rest ▸ List.mem_append_left _ member
        obtain ⟨found, foundPlaced, least⟩ := nested.exists_depth inLog
        cases earlierPlaced.symm.trans foundPlaced
        exact least
      · exact ⟨above, by omega, placed, descended.prepend [.descended head depth]⟩

end NestedFrom

-----------------------------------------------------------------------------------------
-- The reports of a run
-----------------------------------------------------------------------------------------

section Reports

variable {α : Type} [Unifiable α] {config : Config} {goal : Goal α} {depth : Nat}
  {start : Substitution α} {run : Run α}

/-- The depth of the outermost reports on a goal. Fields report as pairs one level deeper. -/
def Goal.reportDepth (goal : Goal α) (depth : Nat) : Nat :=
  match goal with
  | .pair _ _ => depth
  | .roots _ _ => depth
  | .fields _ _ _ _ _ => depth + 1

/-- The depth of a goal whose depth has been looked at already is permitted. -/
def Goal.Permitted (config : Config) (goal : Goal α) (depth : Nat) : Prop :=
  match goal with
  | .pair _ _ => True
  | .roots _ _ => config.refusal? depth = none
  | .fields _ _ _ _ _ => config.refusal? depth = none

/-- The reports of a run nest, by induction on the derivation: those on the fields of two
compounds come after the descent into them, and without fields there are none.
-/
theorem Settles.nested (settled : Settles config goal depth start run)
    : NestedFrom (goal.reportDepth depth) run.log := by
  induction settled with
  | refused | same | matched | clashed | finished | lacking => exact .nil _
  | boundLeft | boundRight => exact .single rfl
  | walked _ _ ih | stopped _ _ _ _ ih => exact ih
  | @descended _ _ _ _ head run _ _ settled ih =>
      rcases Nat.eq_zero_or_pos head.arity with none | fields
      · have silent : run.log = [] := by
          rw [none] at settled
          cases settled
          rfl
        show NestedFrom _ (.descended head _ :: run.log)
        rw [silent]
        exact .single rfl
      · exact ih.descend fields
  | advanced _ _ _ _ _ pairIH restIH => exact pairIH.append restIH

/-- Every report of a run is at a permitted depth, by induction on the derivation. -/
theorem Settles.permitted (settled : Settles config goal depth start run)
    (permitted : goal.Permitted config depth)
    : ∀ event ∈ run.log, ∀ level, event.depth? = some level → config.refusal? level = none := by
  induction settled with
  | refused | same | matched | clashed | finished | lacking => simp [Run.fail, Run.succeed]
  | boundLeft | boundRight =>
      intro event member level placed
      obtain rfl := List.mem_singleton.mp member
      cases placed
      exact permitted
  | walked here _ ih => exact ih here
  | stopped _ _ _ _ ih => exact ih trivial
  | descended _ _ _ ih =>
      refine List.forall_mem_cons.mpr ⟨?_, ih permitted⟩
      intro level placed
      cases placed
      exact permitted
  | advanced _ _ _ _ _ pairIH restIH =>
      exact List.forall_mem_append.mpr ⟨pairIH trivial, restIH permitted⟩

/-- A successful run puts bindings in front, and reports their variables in the order in which
they were bound, by induction on the derivation.
-/
theorem Settles.exists_reported {result : Substitution α}
    (settled : Settles config goal depth start run) (succeeded : run.answer = .ok result)
    : ∃ added : List (Var × α),
        result.bindings = added ++ start.bindings
        ∧ boundNames run.log = (added.map Prod.fst).reverse := by
  induction settled generalizing result with
  | refused | clashed | lacking => cases succeeded
  | same | matched | finished =>
      cases succeeded
      exact ⟨[], rfl, rfl⟩
  | boundLeft | boundRight =>
      cases succeeded
      exact ⟨[_], rfl, rfl⟩
  | walked _ _ ih | descended _ _ _ ih => exact ih succeeded
  | stopped _ _ _ failed => simp [failed] at succeeded
  | advanced _ _ _ reached _ pairIH restIH =>
      obtain ⟨first, firstFront, firstNames⟩ := pairIH reached
      obtain ⟨later, laterFront, laterNames⟩ := restIH succeeded
      refine ⟨later ++ first, ?_, ?_⟩
      · rw [laterFront, firstFront, List.append_assoc]
      · rw [boundNames_append, firstNames, laterNames, List.map_append, List.reverse_append]

end Reports

-----------------------------------------------------------------------------------------
-- The account that a call gives
-----------------------------------------------------------------------------------------

section Account

variable {α : Type} {config : Config} {start : Substitution α}

/-- The log of a call from a substitution: reports made on the way, and then a single one of
the outcome, with the size of the result or the message of the failure. The variables that are
reported as bound are those of the new bindings, the oldest first.
-/
structure Run.Account (config : Config) (start : Substitution α) (traces : List Event)
    (run : Run α)
    : Prop where
  traced
    : ∀ event ∈ traces, ∃ depth text,
        event.depth? = some depth ∧ event.display = "TRACE " ++ text
  succeeded
    : ∀ result, run.answer = .ok result →
        run.log = traces ++ [.succeeded result.size]
        ∧ run.log.map Event.display
          = traces.map Event.display
            ++ ["DEBUG unification succeeded bindings=" ++ toString result.size]
        ∧ ∃ added : List (Var × α),
            result.bindings = added ++ start.bindings
            ∧ boundNames traces = (added.map Prod.fst).reverse
  failed
    : ∀ failure, run.answer = .error failure →
        run.log = traces ++ [.failed failure]
        ∧ run.log.map Event.display
          = traces.map Event.display ++ ["DEBUG unification failed error=" ++ failure.message]
  limited
    : ∀ limit, config.maxDepth = some limit →
        ∀ event ∈ traces, ∀ depth, event.depth? = some depth → depth ≤ limit
  nested
    : ∀ before event after depth,
        traces = before ++ event :: after
        → event.depth? = some (depth + 1)
        → DescendedBefore before depth

namespace Run.Account

variable {result : Substitution α} {traces : List Event} {run : Run α}

theorem concluded (account : run.Account config start traces)
    : run.log = traces ++ [run.outcome] := by
  cases answer : run.answer with
  | ok result => rw [(account.succeeded result answer).1, outcome, answer]
  | error failure => rw [(account.failed failure answer).1, outcome, answer]

/-- The bindings after a successful call are those from before and the reported ones. -/
theorem size_result (account : run.Account config start traces)
    (succeeded : run.answer = .ok result)
    : result.size = start.size + (boundNames traces).length := by
  obtain ⟨_, _, added, front, names⟩ := account.succeeded result succeeded
  rw [names, List.length_reverse, List.length_map, Substitution.size, front,
    List.length_append, Nat.add_comm, Substitution.size]

/-- A call that reports success counts the bindings from before and the reported ones. -/
theorem size_reported (account : run.Account config start traces) {before after : List Event}
    {size : Nat} (split : run.log = before ++ .succeeded size :: after)
    : size = start.size + (boundNames before).length := by
  rw [account.concluded] at split
  rcases split_append split with ⟨rest, inTraces⟩ | ⟨front, rfl, last⟩
  · obtain ⟨depth, _, placed, _⟩ :=
      account.traced (.succeeded size) (inTraces ▸ List.mem_append_right _ List.mem_cons_self)
    cases placed
  · obtain ⟨rfl, reported⟩ : front = [] ∧ run.outcome = .succeeded size := by
      cases front with
      | nil => exact ⟨rfl, (List.cons.inj last).1⟩
      | cons _ front => simp at last
    rw [List.append_nil]
    cases answer : run.answer with
    | error failure => simp [outcome, answer] at reported
    | ok result =>
        simp only [outcome, answer, Event.succeeded.injEq] at reported
        rw [← reported, account.size_result answer]

/-- The report of the outcome names no variable. -/
theorem boundNames_log (account : run.Account config start traces)
    : boundNames run.log = boundNames traces := by
  rw [account.concluded, boundNames_append]
  cases answer : run.answer <;> simp [outcome, answer, boundNames, Event.boundName?]

end Run.Account

/-- A derivation at the outermost depth accounts for the call that it concludes. -/
theorem Settles.account [Unifiable α] {left right : α} {run : Run α}
    (settled : Settles config (.pair left right) 0 start run)
    : run.conclude.Account config start run.log where
  traced := by
    intro event member
    obtain ⟨depth, placed, _⟩ := settled.nested.exists_depth member
    obtain ⟨text, line⟩ := Event.display_of_depth? placed
    exact ⟨depth, text, placed, line⟩
  succeeded := by
    intro result answer
    have concluded : run.conclude.log = run.log ++ [.succeeded result.size] := by
      simp only [Run.conclude, Run.outcome, show run.answer = .ok result from answer]
    refine ⟨concluded, ?_, settled.exists_reported answer⟩
    rw [concluded, List.map_append]
    rfl
  failed := by
    intro failure answer
    have concluded : run.conclude.log = run.log ++ [.failed failure] := by
      simp only [Run.conclude, Run.outcome, show run.answer = .error failure from answer]
    refine ⟨concluded, ?_⟩
    rw [concluded, List.map_append]
    rfl
  limited := by
    intro limit limited event member depth placed
    have permitted := settled.permitted trivial event member depth placed
    simpa [Config.refusal?, limited] using permitted
  nested := by
    intro before event after depth split placed
    rcases settled.nested before event after split with outermost | ⟨above, _, below, descended⟩
    · cases placed.symm.trans outermost
    · cases placed.symm.trans below
      exact descended

variable [FinitelyBuilt α]

theorem unifyWith_account {left right : α} {run : Run α}
    (found : unifyWith config left right start = some run)
    : ∃ traces, run.Account config start traces := by
  obtain ⟨inner, settled, rfl⟩ := unifyWith_settles found
  exact ⟨inner.log, settled.account⟩

/-- The runs on several pairs in order, from a substitution: one for each pair, up to the first
that fails, each from the result of the one before.
-/
inductive PairRuns (config : Config)
    : List (α × α) → Substitution α → List (Run α) → Except Failure (Substitution α) → Prop
  | done {start : Substitution α} : PairRuns config [] start [] (.ok start)
  | stopped {left right rest run failure} {start : Substitution α}
    (found : unifyWith config left right start = some run)
    (failed : run.answer = .error failure)
    : PairRuns config ((left, right) :: rest) start [run] (.error failure)
  | advanced {left right rest run middle runs answer} {start : Substitution α}
    (found : unifyWith config left right start = some run)
    (succeeded : run.answer = .ok middle)
    (others : PairRuns config rest middle runs answer)
    : PairRuns config ((left, right) :: rest) start (run :: runs) answer

/-- Several pairs unified in order report what the calls on them report. -/
theorem exists_pairRuns {pairs : List (α × α)} {run : Run α}
    (found : unifyManyWith config pairs start = some run)
    : ∃ runs, PairRuns config pairs start runs run.answer ∧ run.log = runs.flatMap Run.log := by
  induction pairs generalizing start run with
  | nil =>
      cases found
      exact ⟨[], .done, rfl⟩
  | cons pair rest ih =>
      obtain ⟨first, firstFound, others⟩ := Option.bind_eq_some_iff.mp found
      cases answer : first.answer with
      | error failure =>
          rw [Run.andThen_of_error answer] at others
          cases others
          exact ⟨[run], answer ▸ .stopped firstFound answer, (List.append_nil _).symm⟩
      | ok middle =>
          rw [Run.andThen_of_ok answer] at others
          obtain ⟨later, laterFound, rfl⟩ := Option.map_eq_some_iff.mp others
          obtain ⟨runs, laterRuns, log⟩ := ih laterFound
          exact ⟨first :: runs, .advanced firstFound answer laterRuns,
            congrArg (first.log ++ ·) log⟩

/-- Where one of several calls reports success, it counts the bindings from before and all that
have been reported so far, by induction on the calls.
-/
theorem PairRuns.size_reported {pairs : List (α × α)} {runs : List (Run α)}
    {answer : Except Failure (Substitution α)}
    (chain : PairRuns config pairs start runs answer) {before after : List Event} {size : Nat}
    (split : runs.flatMap Run.log = before ++ .succeeded size :: after)
    : size = start.size + (boundNames before).length := by
  induction chain generalizing before with
  | done => simp at split
  | stopped found _ =>
      obtain ⟨traces, account⟩ := unifyWith_account found
      rw [List.flatMap_singleton] at split
      exact account.size_reported split
  | advanced found succeeded _ ih =>
      obtain ⟨traces, account⟩ := unifyWith_account found
      rw [List.flatMap_cons] at split
      rcases split_append split with ⟨rest, inFirst⟩ | ⟨front, rfl, later⟩
      · exact account.size_reported inFirst
      · rw [ih later, account.size_result succeeded, boundNames_append, account.boundNames_log,
          List.length_append, Nat.add_assoc]

/-- The log of a call is an account of its run; and the log of several pairs unified in order is
made up of the logs of the calls on them, up to the first that fails, where each success counts
the bindings that have been reported by then.
-/
theorem log_accounts_for_runs (config : Config)
    : (∀ (left right : α) (start : Substitution α) (run : Run α),
        unifyWith config left right start = some run
        → ∃ traces, run.Account config start traces)
      ∧ ∀ (pairs : List (α × α)) (run : Run α),
          unifyMany config pairs = some run
          → ∃ runs,
              PairRuns config pairs .empty runs run.answer
              ∧ run.log = runs.flatMap Run.log
              ∧ ∀ before size after,
                  run.log = before ++ .succeeded size :: after
                  → size = (boundNames before).length := by
  refine ⟨fun left right start run => unifyWith_account, ?_⟩
  intro pairs run found
  obtain ⟨runs, chain, log⟩ := exists_pairRuns found
  refine ⟨runs, chain, log, ?_⟩
  intro before size after split
  have sizes := chain.size_reported (log.symm.trans split)
  rwa [show (Substitution.empty : Substitution α).size = 0 from rfl, Nat.zero_add] at sizes

end Account

/-- Two pairs under a deepest level. The first reports a variable two levels down, after the
descent into the compound around it; the second fails, on top of the two bindings counted.
-/
theorem log_accounts_for_runs_of_nested_pairs
    : unifyMany (.limited 2)
          [(tuple [var ⟨0⟩, compound 1 [var ⟨1⟩]],
              tuple [compound 2 [], compound 1 [atom (.int 5)]]),
            (compound 1 [var ⟨1⟩], compound 1 [atom (.int 6)])]
        = some
            ⟨[.descended ⟨0, 2⟩ 0, .bound ⟨0⟩ 1, .descended ⟨1, 1⟩ 1, .bound ⟨1⟩ 2, .succeeded 2,
                .descended ⟨1, 1⟩ 0, .failed .valuesDiffer],
              .error .valuesDiffer⟩
      ∧ DescendedBefore [.descended ⟨0, 2⟩ 0, .bound ⟨0⟩ 1, .descended ⟨1, 1⟩ 1] 1
      ∧ ∃ runs,
          PairRuns (.limited 2)
            [(tuple [var ⟨0⟩, compound 1 [var ⟨1⟩]],
                tuple [compound 2 [], compound 1 [atom (.int 5)]]),
              (compound 1 [var ⟨1⟩], compound 1 [atom (.int 6)])]
            .empty runs (.error .valuesDiffer)
          ∧ runs.flatMap Run.log
            = [.descended ⟨0, 2⟩ 0, .bound ⟨0⟩ 1, .descended ⟨1, 1⟩ 1, .bound ⟨1⟩ 2,
                .succeeded 2, .descended ⟨1, 1⟩ 0, .failed .valuesDiffer] := by
  obtain ⟨calls, sequences⟩ := log_accounts_for_runs (α := Term) (.limited 2)
  refine ⟨rfl, ?_, ?_⟩
  · obtain ⟨traces, account⟩ := calls (tuple [var ⟨0⟩, compound 1 [var ⟨1⟩]])
      (tuple [compound 2 [], compound 1 [atom (.int 5)]]) .empty _ rfl
    have same
        : traces
          = [.descended ⟨0, 2⟩ 0, .bound ⟨0⟩ 1, .descended ⟨1, 1⟩ 1, .bound ⟨1⟩ 2] :=
      List.append_cancel_right account.concluded.symm
    exact account.nested _ (.bound ⟨1⟩ 2) [] 1 same rfl
  · obtain ⟨runs, chain, log, _⟩ := sequences
      [(tuple [var ⟨0⟩, compound 1 [var ⟨1⟩]],
          tuple [compound 2 [], compound 1 [atom (.int 5)]]),
        (compound 1 [var ⟨1⟩], compound 1 [atom (.int 6)])] _ rfl
    exact ⟨runs, chain, log.symm⟩

end Unification
