import RunnersMux.Foundations.Transitions
import RunnersMux.Mux.Conformance
import RunnersMux.Standalone.Sole

/-! Which steps of the standalone manager follow the table of the lifecycle.

A step changes entries, and may be a `Transition` whose error nobody looks at. In
runs whose starts find the runner at rest a lifecycle is in one of three stages,
each with the states that its entry can be in, and what is left to ask of a step
is short.
-/

set_option autoImplicit false

namespace RunnersMux

open Foundations

namespace Standalone

/-- The `Transition` that a step of a goroutine calls. -/
def requests (s : Standalone) : Call → Option (RunnerName × RunnerState)
  | .own (.run t _) =>
      match s.threads.lookup t with
      | some (.lifecycle runner (.transition goal :: _)) => some (runner, goal)
      | _ => none
  | _ => none

/-- The step changes states as the table has it, and its `Transition` is accepted. -/
def Lawful (s : Standalone) (call : Call) (after : Standalone) : Prop :=
  s.manager.processes.Follows after.manager.processes ∧
    ∀ request ∈ s.requests call, s.manager.processes.Accepts request.1 request.2

instance (s : Standalone) (call : Call) (after : Standalone) : Decidable (s.Lawful call after) := inferInstanceAs (Decidable (_ ∧ _))

/-- What a step needs in order to be lawful. -/
def Conforms (s : Standalone) : Call → Prop
  | .own (.stop _ runner _) => s.manager.processes.getState runner ≠ some .registering
  | .own (.run t _) =>
      match s.threads.lookup t with
      | some (.lifecycle runner (.transition goal :: _)) =>
          ∃ state ∈ s.manager.processes.getState runner, state ∈ goal.sources
      | some (.lifecycle runner (.fail address _ :: _)) =>
          ∀ entry, s.manager.processes.lookup runner = some entry → entry.address = address →
            entry.state ∈ [RunnerState.registering, .online, .busy, .failed]
      | _ => True
  | .markBusy runner => s.manager.processes.getState runner ≠ some .paused
  | .markIdle runner => ∀ entry, s.manager.processes.lookup runner = some entry → entry.state = .busy →
      entry.activeWorkers ≤ 1 → s.manager.globalPaused = false
  | _ => True

theorem lawful_quiet {s after : Standalone} {call : Call} (quiet : s.requests call = none) :
    s.Lawful call after ↔ s.manager.processes.Follows after.manager.processes := by
  unfold Lawful
  rw [quiet]
  simp

/-- A sweep moves Online to Paused or back. -/
theorem follows_sweep (m : StandaloneManager) (outcome : Finset Pid) {source goal : RunnerState} (sent : Signal)
    (spared : Finset RunnerName) (valid : goal ∈ validTransitions source) :
    m.processes.Follows (m.sweep outcome source goal sent spared).processes := by
  apply Processes.follows_mapValues
  intro name entry found
  split
  · next moved =>
      intro _
      rw [StandaloneManager.target_state found moved.2]
      exact valid
  · exact ProcessState.follows_same rfl

theorem lawful_perform {s after : Standalone} {t : ThreadID} {answer : Answer} {runner : RunnerName} {head : Section}
    {rest todo : List Section} {manager : StandaloneManager}
    (found : s.threads.lookup t = some (.lifecycle runner (head :: rest)))
    (performed : s.manager.perform runner answer head = some (manager, todo)) (same : after.manager = manager) :
    s.Lawful (.own (.run t answer)) after ↔ s.Conforms (.own (.run t answer)) := by
  unfold Lawful
  rw [same]
  simp only [requests, Conforms, found]
  cases head with
  | transition goal =>
      cases performed
      simp [Processes.accepts_iff, StandaloneManager.transition, Processes.follows_transitioned]
  | fail address text =>
      cases performed
      simp [Processes.follows_fail]
  | setError text =>
      cases performed
      simp [StandaloneManager.setError, Processes.follows_setError]
  | _ =>
      rcases perform_processes performed with kept | ⟨_, other, _⟩ | ⟨_, other, _⟩ | ⟨_, _, other, _⟩
      · simp [kept, Processes.follows_refl]
      all_goals cases other

theorem lawful_iff {s after : Standalone} {call : Call} (taken : s.step call = some after) :
    s.Lawful call after ↔ s.Conforms call := by
  cases call with
  | own event =>
      cases act_moves taken with
      | start fresh started =>
          rw [lawful_quiet rfl]
          exact iff_true_intro (Processes.follows_start started)
      | stop fresh stopped =>
          rw [lawful_quiet rfl]
          exact Processes.follows_stop stopped
      | perform found performed => exact lawful_perform found performed rfl
      | @advance t answer runner phase next manager found advanced =>
          rw [lawful_quiet (by simp only [requests, found])]
          simp only [Conforms, found, iff_true]
          change s.manager.processes.Follows manager.processes
          rw [(advance_frame advanced).1]
          exact Processes.follows_refl _
      | exit alive =>
          rw [lawful_quiet rfl]
          exact iff_true_intro (Processes.follows_refl _)
  | lockOthers outcome activeRunners =>
      cases taken
      rw [lawful_quiet rfl]
      exact iff_true_intro (follows_sweep s.manager outcome .stop activeRunners (by decide))
  | unlockOthers outcome =>
      cases taken
      rw [lawful_quiet rfl]
      exact iff_true_intro (follows_sweep s.manager outcome .cont ∅ (by decide))
  | markBusy runner =>
      cases taken
      rw [lawful_quiet rfl]
      exact Processes.follows_markBusy
  | markIdle runner =>
      cases taken
      rw [lawful_quiet rfl]
      refine Processes.follows_markIdle.trans ?_
      refine forall_congr' fun entry => forall_congr' fun _ => forall_congr' fun _ => forall_congr' fun _ => ?_
      cases s.manager.globalPaused <;> decide

end Standalone

/-- What a lifecycle is about. -/
inductive Stage where
  | launching
  /-- A launch that has failed, and has yet to report it to its entry. -/
  | failing
  | serving
  | ended

/-- The states of the entry that the lifecycle is for. -/
def Stage.admits : Stage → RunnerState → Prop
  | .launching, state => state = .registering
  | .failing, state => state = .registering ∨ state = .failed
  | .serving, state => state = .online ∨ state = .busy ∨ state = .paused ∨ state = .draining
  | .ended, _ => True

/-- A section that changes no state. -/
def Section.quiet : Section → Bool
  | .setError _ | .forget _ | .disarm _ => true
  | _ => false

/-- The lists of sections that a lifecycle without retries comes to. -/
inductive Leg : Stage → List Section → Prop where
  | initializeEnvironment {entry : Nat} : Leg .launching [.initializeEnvironment entry]
  | store {entry : Nat} : Leg .launching [.store entry]
  | spawn {entry : Nat} : Leg .launching [.spawn (.launch entry)]
  | record {entry : Nat} {pid : Pid} : Leg .launching [.record (.launch entry) pid]
  | abort {entry : Nat} {pid : Pid} : Leg .launching [.abort (.launch entry) pid]
  | refused {entry : Nat} {text : String} : Leg .launching ((Caller.launch entry).failure text)
  | launched {goal : RunnerState} {pid : Pid} {caller : Caller} (up : goal = .online ∨ goal = .paused) :
      Leg .launching (launched goal pid caller)
  | explain {entry : Nat} {text : String} : Leg .failing [.setError text, .fail entry text]
  | fail {entry : Nat} {text : String} : Leg .failing [.fail entry text]
  | cleared {text : String} {pid : Pid} {attempt : Nat} : Leg .serving [.setError text, .serve pid attempt]
  | serve {pid : Pid} {attempt : Nat} : Leg .serving [.serve pid attempt]
  | exited {status : ExitStatus} {attempt : Nat} {fast : Bool} : Leg .serving [.exited status attempt fast]
  | decide {draining : Bool} {status : ExitStatus} {attempt : Nat} {fast : Bool} :
      Leg .serving [.decide draining status attempt fast]
  | retry {data : Option Nat} {channel attempt : Nat} : Leg .serving
      [.transition .registering, .setError "", .arm data channel, .backoff channel attempt data]
  | finish {rest : List Section} (ends : ∀ later ∈ rest, later.quiet = true) :
      Leg .serving (.transition .offline :: rest)
  | ended {rest : List Section} (ends : ∀ later ∈ rest, later.quiet = true) : Leg .ended rest

/-- The stage needs the runner. -/
def Stage.holds : Stage → Bool
  | .launching | .serving => true
  | .failing | .ended => false

theorem Leg.engaged {stage : Stage} {todo : List Section} (leg : Leg stage todo) (holds : stage.holds = true) :
    Engaged todo := by
  cases leg with
  | refused => exact ⟨_, List.mem_cons_self, .inr rfl⟩
  | launched => exact ⟨_, List.mem_cons_of_mem _ (List.mem_cons_of_mem _ List.mem_cons_self), .inl rfl⟩
  | cleared => exact ⟨_, List.mem_cons_of_mem _ List.mem_cons_self, .inl rfl⟩
  | retry => exact ⟨_, List.mem_of_mem_getLast? rfl, .inl rfl⟩
  | finish => exact ⟨_, List.mem_cons_self, .inr rfl⟩
  | explain | fail | ended => cases holds
  | _ => exact ⟨_, List.mem_cons_self, .inl rfl⟩

/-- What the stage of a lifecycle says of its entry. A failing launch has one only as long as the
table still has it. -/
def Knows (m : StandaloneManager) (runner : RunnerName) (stage : Stage) (todo : List Section) : Prop :=
  ∀ entry, m.processes.lookup runner = some entry →
    (stage = .failing → ∃ later ∈ todo, entry.address ∈ later.entry) → stage.admits entry.state

namespace Standalone

def Staged (s : Standalone) : Prop :=
  ∀ t runner todo, s.threads.lookup t = some (.lifecycle runner todo) →
    ∃ stage, Leg stage todo ∧ Knows s.manager runner stage todo

/-- What is left to ask of a step if every `Start` finds its runner at rest. -/
def Regular (s : Standalone) : Call → Prop
  | .own (.stop _ runner _) => s.manager.processes.getState runner ≠ some .registering
  | .own (.run t _) =>
      match s.threads.lookup t with
      | some (.lifecycle runner (.transition goal :: _)) => goal ≠ .registering ∧ goal ≠ .paused ∧
          (goal = .offline → s.manager.processes.getState runner ≠ some .busy ∧
            s.manager.processes.getState runner ≠ some .paused)
      | _ => True
  | .markBusy runner => s.manager.processes.getState runner ≠ some .paused
  | .markIdle runner => ∀ entry, s.manager.processes.lookup runner = some entry → entry.state = .busy →
      entry.activeWorkers ≤ 1 → s.manager.globalPaused = false
  | _ => True

end Standalone

section
variable {m after : StandaloneManager} {runner name : RunnerName} {answer : Answer} {head : Section}
  {rest todo : List Section} {stage : Stage}

/-- Every entry of a runner comes from one of the same address, in a state that fits wherever
that one's did. -/
def Processes.Within (before after : Processes) (name : RunnerName) : Prop :=
  ∀ kept, after.lookup name = some kept → ∃ entry, before.lookup name = some entry ∧
    entry.address = kept.address ∧ ∀ stage : Stage, stage.admits entry.state → stage.admits kept.state

theorem perform_other (performed : m.perform runner answer head = some (after, todo)) (other : name ≠ runner) :
    after.processes.lookup name = m.processes.lookup name := by
  rcases perform_processes performed with same | ⟨goal, _, same⟩ | ⟨text, _, same⟩ | ⟨address, text, _, same⟩
  · rw [same]
  · rw [same, Processes.lookup_transitioned, if_neg other]
  · rw [same, Processes.setError, Map.lookup_modify, if_neg other]
  · rw [same, Processes.fail, Map.lookup_modify, if_neg other]

/-- A section leaves an entry its address. -/
theorem perform_entry (performed : m.perform runner answer head = some (after, todo)) {kept : ProcessState}
    (looked : after.processes.lookup runner = some kept) :
    ∃ entry, m.processes.lookup runner = some entry ∧ entry.address = kept.address := by
  rcases perform_processes performed with same | ⟨goal, _, same⟩ | ⟨text, _, same⟩ | ⟨address, text, _, same⟩
  · exact ⟨kept, same ▸ looked, rfl⟩
  · rw [same, Processes.lookup_transitioned, if_pos rfl] at looked
    obtain ⟨entry, found, rfl⟩ := Option.map_eq_some_iff.mp looked
    refine ⟨entry, found, ?_⟩
    split <;> rfl
  · rw [same, Processes.setError, Map.lookup_modify, if_pos rfl] at looked
    obtain ⟨entry, found, rfl⟩ := Option.map_eq_some_iff.mp looked
    exact ⟨entry, found, rfl⟩
  · rw [same, Processes.fail, Map.lookup_modify, if_pos rfl] at looked
    obtain ⟨entry, found, rfl⟩ := Option.map_eq_some_iff.mp looked
    refine ⟨entry, found, ?_⟩
    split <;> rfl

/-- A section that neither moves nor fails the entry. -/
theorem perform_within (performed : m.perform runner answer head = some (after, todo))
    (still : ∀ goal, head ≠ .transition goal)
    (stale : ∀ address text, head = .fail address text →
      ∀ entry, m.processes.lookup runner = some entry → entry.address ≠ address) :
    m.processes.Within after.processes runner := by
  intro kept looked
  rcases perform_processes performed with same | ⟨goal, moves, _⟩ | ⟨text, _, same⟩ | ⟨address, text, fails, same⟩
  · rw [same] at looked
    exact ⟨kept, looked, rfl, fun _ => id⟩
  · exact absurd moves (still goal)
  · rw [same, Processes.setError, Map.lookup_modify, if_pos rfl] at looked
    obtain ⟨entry, found, rfl⟩ := Option.map_eq_some_iff.mp looked
    exact ⟨entry, found, rfl, fun _ => id⟩
  · rw [same, Processes.fail, Map.lookup_modify, if_pos rfl] at looked
    obtain ⟨entry, found, rfl⟩ := Option.map_eq_some_iff.mp looked
    rw [if_neg (stale address text fails entry found)]
    exact ⟨entry, found, rfl, fun _ => id⟩

theorem Knows.ended : Knows m runner .ended todo := fun _ _ _ => trivial

/-- A section that leaves the entry as it is, and may tell more of it. -/
theorem Knows.stays {next : Stage} {old : List Section} (knows : Knows m runner stage old)
    (within : m.processes.Within after.processes runner) (weaker : ∀ state, stage.admits state → next.admits state)
    (named : stage = .failing → ∀ address : Nat, (next = .failing → ∃ later ∈ todo, address ∈ later.entry) →
      ∃ later ∈ old, address ∈ later.entry) : Knows after runner next todo := by
  intro kept looked mine
  obtain ⟨entry, found, same, admits⟩ := within kept looked
  refine weaker kept.state (admits stage (knows entry found fun failing => ?_))
  rw [same]
  exact named failing kept.address mine

/-- A `Transition` that the entry's stage has in the table. -/
theorem Knows.moves {next : Stage} {old : List Section} {goal : RunnerState} (knows : Knows m runner stage old)
    (holds : stage ≠ .failing) (same : after.processes = m.processes.transitioned runner goal)
    (valid : ∀ state, stage.admits state → goal ∈ validTransitions state) (arrives : next.admits goal) :
    Knows after runner next todo := by
  intro kept looked _
  rw [same, Processes.lookup_transitioned, if_pos rfl] at looked
  obtain ⟨entry, found, rfl⟩ := Option.map_eq_some_iff.mp looked
  have admits := knows entry found fun failing => absurd failing holds
  rw [if_pos (valid entry.state admits)]
  exact arrives

theorem leg_next (leg : Leg stage (head :: rest)) (performed : m.perform runner answer head = some (after, todo))
    (allowed : ∀ goal, head = .transition goal → goal ≠ .registering ∧ goal ≠ .paused)
    (knows : Knows m runner stage (head :: rest)) :
    ∃ next, Leg next (todo ++ rest) ∧ Knows after runner next (todo ++ rest) := by
  have stays {next : Stage} (holds : stage ≠ .failing) (still : ∀ goal, head ≠ .transition goal)
      (unfailing : ∀ address text, head ≠ .fail address text) (weaker : ∀ state, stage.admits state → next.admits state) :
      Knows after runner next (todo ++ rest) :=
    knows.stays (perform_within performed still fun address text fails => absurd fails (unfailing address text))
      weaker fun failing => absurd failing holds
  have same (state : RunnerState) (admits : stage.admits state) : stage.admits state := admits
  -- A retry and a launch that ends in a pause are what the condition rules out.
  cases leg with
  | initializeEnvironment =>
      cases perform_performs performed with
      | prepareFail failed => exact ⟨.failing, .fail, stays nofun nofun nofun fun _ => .inl⟩
      | prepare clean => exact ⟨.launching, .store, stays nofun nofun nofun same⟩
  | store =>
      cases perform_performs performed
      exact ⟨.launching, .spawn, stays nofun nofun nofun same⟩
  | spawn =>
      cases perform_performs performed with
      | spawnFail failed => exact ⟨.launching, .refused, stays nofun nofun nofun same⟩
      | spawn clean nonzero free => exact ⟨.launching, .record, stays nofun nofun nofun same⟩
  | record =>
      cases perform_performs performed with
      | record records =>
          refine ⟨.launching, ?_, stays nofun nofun nofun same⟩
          cases records with
          | cancelled => exact .abort
          | frozen => exact .launched (.inr rfl)
          | missed | free => exact .launched (.inl rfl)
  | abort =>
      cases perform_performs performed
      exact ⟨.launching, .refused, stays nofun nofun nofun same⟩
  | refused =>
      cases perform_performs performed
      refine ⟨.failing, .explain, knows.moves nofun rfl ?_ (.inr rfl)⟩
      rintro state rfl
      decide
  | launched up =>
      cases perform_performs performed
      rcases up with rfl | rfl
      · refine ⟨.serving, .cleared, knows.moves nofun rfl ?_ (.inl rfl)⟩
        rintro state rfl
        decide
      · exact absurd rfl (allowed .paused rfl).2
  | explain =>
      have within := perform_within performed nofun nofun
      cases perform_performs performed
      refine ⟨.failing, .fail, knows.stays within same fun _ address mine => ?_⟩
      obtain ⟨later, member, named⟩ := mine rfl
      exact ⟨later, List.mem_cons_of_mem _ member, named⟩
  | fail =>
      cases perform_performs performed
      exact ⟨.ended, .ended nofun, .ended⟩
  | cleared =>
      have knows' := stays nofun nofun nofun same
      cases perform_performs performed
      exact ⟨.serving, .serve, knows'⟩
  | serve =>
      cases perform_performs performed
      exact ⟨.serving, .exited, stays nofun nofun nofun same⟩
  | exited =>
      cases perform_performs performed
      exact ⟨.serving, .decide, stays nofun nofun nofun same⟩
  | decide =>
      refine ⟨.serving, ?_, stays nofun nofun nofun same⟩
      cases perform_performs performed with
      | finish | giveUp => exact .finish (by simp [Section.quiet])
      | retry => exact .retry
  | retry => exact absurd rfl (allowed .registering rfl).1
  | finish ends =>
      cases perform_performs performed
      exact ⟨.ended, .ended ends, .ended⟩
  | ended ends =>
      have ⟨quiet, rests⟩ := List.forall_mem_cons.mp ends
      refine ⟨.ended, .ended ?_, .ended⟩
      cases perform_performs performed <;> first | exact rests | cases quiet

/-- Under a change that keeps the address and the stage of an entry. -/
theorem Knows.within (knows : Knows m runner stage todo) (within : m.processes.Within after.processes runner) :
    Knows after runner stage todo := by
  apply knows.stays within fun _ => id
  intro failing address mine
  exact mine failing

end

namespace Standalone

variable {s after : Standalone} {t : ThreadID} {runner : RunnerName}

/-- A step that leaves the lifecycles where they are. -/
theorem Staged.steady (staged : s.Staged)
    (within : ∀ name, s.manager.processes.Within after.manager.processes name)
    (threads : ∀ t runner todo, after.threads.lookup t = some (.lifecycle runner todo) ↔
      s.threads.lookup t = some (.lifecycle runner todo)) : after.Staged := by
  intro t runner todo found
  obtain ⟨stage, leg, knows⟩ := staged t runner todo ((threads _ _ _).mp found)
  exact ⟨stage, leg, knows.within (within runner)⟩

/-- What a thread does to the entry of another one's lifecycle. -/
theorem Staged.aside {answer : Answer} {head : Section} {rest todo others : List Section} {manager : StandaloneManager}
    {other : ThreadID} {stage : Stage} (staged : s.Staged) (sole : s.Sole fun _ => True)
    (found : s.threads.lookup t = some (.lifecycle runner (head :: rest)))
    (performed : s.manager.perform runner answer head = some (manager, todo)) (apart : other ≠ t)
    (here : s.threads.lookup other = some (.lifecycle runner others)) (leg : Leg stage others)
    (knows : Knows s.manager runner stage others) : Knows manager runner stage others := by
  obtain ⟨mine, way, _⟩ := staged t runner _ found
  -- The runner has one tenant, so that one of the two lifecycles does not need it.
  have single (holds : mine.holds = true) (also : stage.holds = true) : False :=
    apart (sole.single other t runner ⟨trivial, _, here, leg.engaged also⟩ ⟨trivial, _, found, way.engaged holds⟩)
  have lost (holds : mine.holds = true) (entry : ProcessState) (looked : s.manager.processes.lookup runner = some entry)
      (named : ∃ later ∈ others, entry.address ∈ later.entry) : False :=
    sole.stale t other runner entry.address ⟨trivial, _, found, way.engaged holds⟩ ⟨others, here, named⟩ apart entry
      looked rfl
  cases holds : mine.holds with
  | true =>
      cases stage with
      | launching | serving => exact (single holds rfl).elim
      | ended => exact .ended
      | failing =>
          -- The lifecycle that is engaged has an entry of its own, and the failing one has none.
          intro kept looked named
          obtain ⟨entry, known, same⟩ := perform_entry performed looked
          exact (lost holds entry known (same ▸ named rfl)).elim
  | false =>
      have still (goal : RunnerState) : head ≠ .transition goal := by
        rintro rfl
        cases way with
        | refused | launched | retry | finish => cases holds
        | ended ends => cases (List.forall_mem_cons.mp ends).1
      by_cases fails : ∃ address text, head = .fail address text
      · obtain ⟨address, text, rfl⟩ := fails
        cases way with
        | ended ends => cases (List.forall_mem_cons.mp ends).1
        | fail =>
            cases stage with
            | ended => exact .ended
            | failing =>
                cases performed
                intro kept looked named
                rw [Processes.fail, Map.lookup_modify, if_pos rfl] at looked
                obtain ⟨entry, known, rfl⟩ := Option.map_eq_some_iff.mp looked
                split
                · exact .inr rfl
                · next foreign =>
                    rw [if_neg foreign] at named
                    exact knows entry known named
            | launching | serving =>
                refine knows.within (perform_within performed still ?_)
                rintro _ _ ⟨⟩ entry known same
                exact sole.stale other t runner entry.address ⟨trivial, _, here, leg.engaged rfl⟩
                  ⟨_, found, _, List.mem_cons_self, congrArg some same.symm⟩ (Ne.symm apart) entry known rfl
      · refine knows.within (perform_within performed still ?_)
        intro address text equal
        exact absurd ⟨address, text, equal⟩ fails

theorem Staged.perform {answer : Answer} {head : Section} {rest todo : List Section} {manager : StandaloneManager}
    (staged : s.Staged) (sole : s.Sole fun _ => True) (found : s.threads.lookup t = some (.lifecycle runner (head :: rest)))
    (performed : s.manager.perform runner answer head = some (manager, todo))
    (regular : s.Regular (.own (.run t answer))) : Staged (s.resume t (.lifecycle runner (todo ++ rest)) manager) := by
  have allowed (goal : RunnerState) (moves : head = .transition goal) : goal ≠ .registering ∧ goal ≠ .paused := by
    subst moves
    simp only [Regular, found] at regular
    exact ⟨regular.1, regular.2.1⟩
  intro other name others here
  rw [lookup_resume] at here
  split at here
  · cases here
    obtain ⟨stage, leg, knows⟩ := staged t runner _ found
    exact leg_next leg performed allowed knows
  · next apart =>
      obtain ⟨stage, leg, knows⟩ := staged other name others here
      refine ⟨stage, leg, ?_⟩
      by_cases same : name = runner
      · subst same
        exact staged.aside sole found performed apart here leg knows
      · intro kept looked named
        exact knows kept ((perform_other performed same).symm.trans looked) named

/-- A change of states within the serving ones. -/
theorem within_of {before after : Processes} {name : RunnerName}
    (changes : ∀ kept, after.lookup name = some kept → ∃ entry, before.lookup name = some entry ∧
      entry.address = kept.address ∧ (kept.state = entry.state ∨
        Stage.admits .serving entry.state ∧ Stage.admits .serving kept.state)) : before.Within after name := by
  intro kept looked
  obtain ⟨entry, found, same, states⟩ := changes kept looked
  refine ⟨entry, found, same, fun stage admits => ?_⟩
  rcases states with equal | ⟨was, is⟩
  · rw [equal]
    exact admits
  · cases stage with
    | serving => exact is
    | ended => trivial
    | launching | failing =>
        unfold Stage.admits at was admits
        cases state : entry.state <;> simp [state] at was admits

theorem within_modify {processes : Processes} {name : RunnerName} {change : ProcessState → ProcessState}
    (changes : ∀ entry, (change entry).address = entry.address ∧ ((change entry).state = entry.state ∨
      Stage.admits .serving entry.state ∧ Stage.admits .serving (change entry).state)) (other : RunnerName) :
    processes.Within (processes.modify name change) other := by
  apply within_of
  intro kept looked
  rw [Map.lookup_modify] at looked
  split at looked
  · obtain ⟨entry, found, rfl⟩ := Option.map_eq_some_iff.mp looked
    exact ⟨entry, found, (changes entry).1.symm, (changes entry).2⟩
  · exact ⟨kept, looked, rfl, .inl rfl⟩

theorem within_sweep (m : StandaloneManager) (outcome : Finset Pid) {source goal : RunnerState} (sent : Signal)
    (spared : Finset RunnerName) (was : Stage.admits .serving source) (is : Stage.admits .serving goal)
    (name : RunnerName) : m.processes.Within (m.sweep outcome source goal sent spared).processes name := by
  apply within_of
  intro kept looked
  obtain ⟨entry, found, rfl⟩ := Option.map_eq_some_iff.mp ((Map.lookup_mapValues _ _ _).symm.trans looked)
  refine ⟨entry, found, ?_⟩
  split
  · next moved =>
      have state : entry.state = source := StandaloneManager.target_state found moved.2
      exact ⟨rfl, .inr ⟨state ▸ was, is⟩⟩
  · exact ⟨rfl, .inl rfl⟩

theorem within_busy (processes : Processes) (name other : RunnerName) :
    processes.Within (processes.markBusy name) other := by
  apply within_modify
  intro entry
  refine ⟨rfl, ?_⟩
  unfold ProcessState.busy Stage.admits
  cases state : entry.state <;> simp

theorem within_idle (processes : Processes) (name : RunnerName) {goal : RunnerState}
    (up : Stage.admits .serving goal) (other : RunnerName) : processes.Within (processes.markIdle name goal) other := by
  apply within_modify
  intro entry
  refine ⟨rfl, ?_⟩
  unfold ProcessState.idle
  dsimp only
  split
  · next last => exact .inr ⟨last.2 ▸ .inr (.inl rfl), up⟩
  · exact .inl rfl

theorem within_stop {processes stopped : Processes} {name : RunnerName} (stops : processes.stop name = .ok (some stopped))
    (launched : processes.getState name ≠ some .registering) (other : RunnerName) : processes.Within stopped other := by
  have up := Processes.stop_up stops
  obtain ⟨process, found, rfl⟩ := Processes.stop_ok stops
  rw [down_lookup, found] at up
  change process.state.down = false at up
  unfold Processes.getState at launched
  rw [found] at launched
  apply within_of
  intro kept looked
  rcases Map.lookup_of_insert looked with ⟨rfl, rfl⟩ | ⟨_, old⟩
  · refine ⟨process, found, rfl, .inr ⟨?_, .inr (.inr (.inr rfl))⟩⟩
    unfold Stage.admits
    cases state : process.state <;> simp [state, RunnerState.down] at up launched ⊢
  · exact ⟨kept, old, rfl, .inl rfl⟩

/-- A `Start` at rest replaces an entry that nobody holds. -/
theorem Staged.start {processes : Processes} (staged : s.Staged) (custody : Custody s) (sole : s.Sole fun _ => True)
    (rested : s.manager.processes.resting runner = true)
    (started : s.manager.processes.start runner s.manager.next = .ok processes) :
    Staged (s.resume t (.lifecycle runner [.initializeEnvironment s.manager.next])
      { s.manager with processes, next := s.manager.next + 1 }) := by
  obtain ⟨_, rfl⟩ := Processes.start_ok started
  intro other name todo here
  rw [lookup_resume] at here
  split at here
  · cases here
    refine ⟨.launching, .initializeEnvironment, ?_⟩
    intro entry looked _
    cases (Finmap.lookup_insert _).symm.trans looked
    rfl
  · obtain ⟨stage, leg, knows⟩ := staged other name todo here
    refine ⟨stage, leg, ?_⟩
    intro entry looked named
    by_cases same : name = runner
    · subst same
      cases (Finmap.lookup_insert _).symm.trans looked
      cases stage with
      | ended => trivial
      | launching | serving =>
          exact Bool.noConfusion (rested.symm.trans (sole.up other name ⟨trivial, todo, here, leg.engaged rfl⟩))
      | failing =>
          obtain ⟨later, member, names⟩ := named rfl
          exact absurd ((custody.kept other name todo here).dated later member _ names) (Nat.lt_irrefl _)
    · exact knows entry ((Finmap.lookup_insert_of_ne _ same).symm.trans looked) named

/-- A `Start` finds its runner at rest. -/
def Rested (s : Standalone) (call : Call) : Prop :=
  ∀ runner ∈ call.starts, s.manager.processes.resting runner = true

instance (s : Standalone) (call : Call) : Decidable (s.Rested call) :=
  inferInstanceAs (Decidable (∀ runner ∈ call.starts, _))

theorem Staged.step {call : Call} (staged : s.Staged) (custody : Custody s) (sole : s.Sole fun _ => True)
    (rested : s.Rested call) (regular : s.Regular call) (taken : s.step call = some after) : after.Staged := by
  cases call with
  | own event =>
      cases act_moves taken with
      | start fresh started => exact staged.start custody sole (rested _ rfl) started
      | stop fresh stopped =>
          refine staged.steady (within_stop stopped regular) (lookup_resume_stop ?_)
          intro name todo found
          cases fresh.symm.trans found
      | perform found performed => exact staged.perform sole found performed regular
      | @advance t answer runner phase next manager found advanced =>
          refine staged.steady (fun name => ?_) (lookup_resume_stop ?_)
          · change s.manager.processes.Within manager.processes name
            rw [(advance_frame advanced).1]
            exact fun kept looked => ⟨kept, looked, rfl, fun _ => id⟩
          · intro name todo lifecycle
            cases found.symm.trans lifecycle
      | exit alive =>
          exact staged.steady (fun name kept looked => ⟨kept, looked, rfl, fun _ => id⟩) fun _ _ _ => Iff.rfl
  | lockOthers outcome activeRunners =>
      cases taken
      exact staged.steady (within_sweep s.manager outcome .stop activeRunners (.inl rfl) (.inr (.inr (.inl rfl))))
        fun _ _ _ => Iff.rfl
  | unlockOthers outcome =>
      cases taken
      exact staged.steady (within_sweep s.manager outcome .cont ∅ (.inr (.inr (.inl rfl))) (.inl rfl))
        fun _ _ _ => Iff.rfl
  | markBusy runner =>
      cases taken
      exact staged.steady (within_busy _ runner) fun _ _ _ => Iff.rfl
  | markIdle runner =>
      cases taken
      refine staged.steady (within_idle _ runner ?_) fun _ _ _ => Iff.rfl
      split
      · exact .inr (.inr (.inl rfl))
      · exact .inl rfl

theorem reached_staged (reached : Reaches step (· = .new) (fun s call => s.Rested call ∧ s.Regular call) s) :
    Custody s ∧ s.Sole (fun _ => True) ∧ s.Staged := by
  apply reached.invariant
  · rintro _ rfl
    refine ⟨new_custody, new_sole _, ?_⟩
    intro t runner todo found
    cases found
  · rintro state call next _ ⟨custody, sole, staged⟩ ⟨rested, regular⟩ taken
    exact ⟨custody.step taken, sole.step custody (fun runner mine _ => rested runner mine) taken,
      staged.step custody sole rested regular taken⟩

/-- In a run whose starts are at rest, a `Transition` fails where the short list says so. -/
theorem regular_iff {call : Call} (sole : s.Sole fun _ => True) (staged : s.Staged) : s.Conforms call ↔ s.Regular call := by
  cases call with
  | own event =>
      cases event with
      | run t answer =>
          unfold Conforms Regular
          dsimp only
          split
          · next runner goal rest found =>
              rw [found]
              obtain ⟨stage, leg, knows⟩ := staged t runner _ found
              have state (holds : stage.holds = true) :
                  ∃ entry, s.manager.processes.lookup runner = some entry ∧ stage.admits entry.state := by
                obtain ⟨entry, known, _⟩ := sole.entry (t := t) ⟨trivial, _, found, leg.engaged holds⟩
                refine ⟨entry, known, knows entry known ?_⟩
                rintro rfl
                cases holds
              unfold Processes.getState
              cases leg with
              | refused =>
                  obtain ⟨entry, known, admits⟩ := state rfl
                  simp [known, show entry.state = .registering from admits, RunnerState.sources]
              | launched up =>
                  obtain ⟨entry, known, admits⟩ := state rfl
                  rcases up with rfl | rfl <;>
                    simp [known, show entry.state = .registering from admits, RunnerState.sources]
              | retry | finish =>
                  obtain ⟨entry, known, admits⟩ := state rfl
                  rcases admits with is | is | is | is <;> simp [known, is, RunnerState.sources]
              | ended ends => cases (List.forall_mem_cons.mp ends).1
          · next runner address text rest found =>
              rw [found]
              simp only [iff_true]
              obtain ⟨stage, leg, knows⟩ := staged t runner _ found
              intro entry known same
              cases leg with
              | fail =>
                  have admits := knows entry known fun _ => ⟨_, List.mem_cons_self, congrArg some same.symm⟩
                  rcases admits with is | is <;> simp [is]
              | ended ends => cases (List.forall_mem_cons.mp ends).1
          · next others unfailing =>
              split
              · next runner goal rest found => exact absurd found (others runner goal rest)
              · exact Iff.rfl
      | _ => exact Iff.rfl
  | _ => exact Iff.rfl

end Standalone

end RunnersMux
