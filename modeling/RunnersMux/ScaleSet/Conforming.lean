import RunnersMux.Foundations.Transitions
import RunnersMux.Mux.Conformance
import RunnersMux.ScaleSet.Sole

/-! Which steps of the scale set manager follow the table of the lifecycle.

The listener's goroutine asks for two transitions in its life, and nobody pauses
its runner.
-/

set_option autoImplicit false

namespace RunnersMux

open Foundations

namespace ScaleSet

/-- The `Transition` that a step of a goroutine calls. -/
def requests (s : ScaleSet) : ScaleSetEvent → Option (RunnerName × RunnerState)
  | .run t reply =>
      match s.threads.lookup t with
      | some (.listener runner (.starting _)) => if reply.flag then none else some (runner, .online)
      | some (.listener runner (.ending failure)) => some (runner, if failure.isSome then .failed else .offline)
      | _ => none
  | _ => none

/-- The step changes states as the table has it, and its `Transition` is accepted. -/
def Lawful (s : ScaleSet) (event : ScaleSetEvent) (after : ScaleSet) : Prop :=
  s.manager.processes.Follows after.manager.processes ∧
    ∀ request ∈ s.requests event, s.manager.processes.Accepts request.1 request.2

instance (s : ScaleSet) (event : ScaleSetEvent) (after : ScaleSet) : Decidable (s.Lawful event after) := inferInstanceAs (Decidable (_ ∧ _))

/-- What a step needs in order to be lawful. -/
def Conforms (s : ScaleSet) : ScaleSetEvent → Prop
  | .stop _ runner => s.manager.processes.getState runner ≠ some .registering
  | .run t reply =>
      match s.threads.lookup t with
      | some (.listener runner (.starting _)) =>
          reply.flag = false → ∃ state ∈ s.manager.processes.getState runner, state ∈ RunnerState.online.sources
      | some (.listener runner (.ending failure)) => ∃ state ∈ s.manager.processes.getState runner,
          state ∈ (if failure.isSome then RunnerState.failed else .offline).sources
      | some (.launch runner (.failing address _)) =>
          ∀ entry, s.manager.processes.lookup runner = some entry → entry.address = address →
            entry.state ∈ [RunnerState.registering, .online, .busy, .failed]
      | _ => True
  | .markBusy runner => s.manager.processes.getState runner ≠ some .paused
  | _ => True

theorem lawful_quiet {s after : ScaleSet} {event : ScaleSetEvent} (quiet : s.requests event = none) :
    s.Lawful event after ↔ s.manager.processes.Follows after.manager.processes := by
  unfold Lawful
  rw [quiet]
  simp

theorem lawful_launch {s after : ScaleSet} {t : ThreadID} {reply : Reply} {runner : RunnerName}
    {phase next : LaunchPhase} {manager : ScaleSetManager} (found : s.threads.lookup t = some (.launch runner phase))
    (launches : Launches s.manager runner phase manager next) (same : after.manager = manager) :
    s.Lawful (.run t reply) after ↔ s.Conforms (.run t reply) := by
  rw [lawful_quiet (by simp only [requests, found]), same]
  unfold Conforms
  cases launches with
  | fail => simp only [found, Processes.follows_fail]
  | _ => simp only [found, iff_true]; exact Processes.follows_refl _

theorem lawful_listen {s after : ScaleSet} {t : ThreadID} {reply : Reply} {runner : RunnerName}
    {phase next : ListenerPhase} {manager : ScaleSetManager} (found : s.threads.lookup t = some (.listener runner phase))
    (listened : s.manager.listen runner reply phase = some (manager, next)) (same : after.manager = manager) :
    s.Lawful (.run t reply) after ↔ s.Conforms (.run t reply) := by
  have follows : s.manager.processes.Follows manager.processes := by
    cases listen_listens listened with
    | online | finish => exact Processes.follows_transitioned _ _ _
    | report => exact Processes.follows_setError _
    | _ => exact Processes.follows_refl _
  unfold Lawful
  rw [same]
  cases phase with
  | starting context =>
      cases flag : reply.flag <;> simp [requests, Conforms, found, flag, Processes.accepts_iff, follows]
  | ending failure => simp [requests, Conforms, found, Processes.accepts_iff, follows]
  | _ => simp [requests, Conforms, found, follows]

theorem lawful_iff {s after : ScaleSet} {event : ScaleSetEvent} (taken : s.step event = some after) :
    s.Lawful event after ↔ s.Conforms event := by
  cases step_moves taken with
  | start fresh started =>
      rw [lawful_quiet rfl]
      exact iff_true_intro (Processes.follows_start started)
  | spawn found fresh =>
      rw [lawful_quiet rfl]
      exact iff_true_intro (Processes.follows_refl _)
  | stop fresh stopped =>
      rw [lawful_quiet rfl]
      exact Processes.follows_stop stopped
  | launch found launches => exact lawful_launch found launches rfl
  | @listen t reply runner phase next manager found listens =>
      simp only [step, run, found] at taken
      obtain ⟨_, listened, same⟩ := Option.map_eq_some_iff.mp taken
      exact lawful_listen found listened (congrArg ScaleSet.manager same).symm
  | @halt t reply runner phase next manager found table counter =>
      rw [lawful_quiet (by simp only [requests, found])]
      simp only [Conforms, found, iff_true]
      change s.manager.processes.Follows manager.processes
      rw [table]
      exact Processes.follows_refl _
  | markBusy =>
      rw [lawful_quiet rfl]
      exact Processes.follows_markBusy
  | markIdle =>
      rw [lawful_quiet rfl]
      exact iff_true_intro (Processes.follows_markIdle.mpr fun _ _ _ _ _ => by decide)

/-- What is left to ask of a step if every `Start` finds its runner at rest. -/
def Regular (s : ScaleSet) : ScaleSetEvent → Prop
  | .stop _ runner => s.manager.processes.getState runner ≠ some .registering
  | .run t _ =>
      match s.threads.lookup t with
      | some (.listener runner (.ending failure)) =>
          s.manager.processes.getState runner ≠ some (if failure.isSome then .draining else .busy)
      | _ => True
  | _ => True

end ScaleSet

/-- The states of a runner whose listener has come online. -/
def RunnerState.serves : RunnerState → Prop
  | .online | .busy | .draining => True
  | _ => False

namespace ScaleSetThread

def runner : ScaleSetThread → RunnerName
  | .launch runner _ | .listener runner _ | .halt runner _ => runner

/-- How a thread finds the entry of its runner. -/
def admits (address : Nat) (state : RunnerState) : ScaleSetThread → Prop
  | .launch _ (.storing _) | .launch _ (.spawning _ _) | .listener _ (.starting _) => state = .registering
  | .launch _ (.failing entry _) => address = entry → state = .failed
  | .listener _ (.listening _) => state.serves
  | .listener _ (.exited _ _) | .listener _ (.ending _) => state = .registering ∨ state.serves
  | _ => True

/-- A state that serves as the other did fits as well. -/
theorem admits_of {thread : ScaleSetThread} {address : Nat} {before after : RunnerState}
    (admits : thread.admits address before) (states : after = before ∨ before.serves ∧ after.serves) :
    thread.admits address after := by
  rcases states with rfl | ⟨was, is⟩
  · exact admits
  · have up : before ≠ .registering ∧ before ≠ .failed := by
      constructor <;> rintro rfl <;> exact was
    cases thread with
    | launch runner phase =>
        cases phase with
        | storing | spawning => exact absurd admits up.1
        | failing entry text => exact fun own => absurd (admits own) up.2
        | _ => trivial
    | listener runner phase =>
        cases phase with
        | starting => exact absurd admits up.1
        | listening => exact is
        | exited | ending => exact .inr is
        | _ => trivial
    | halt => trivial

end ScaleSetThread

namespace ScaleSet

/-- Nobody is Paused, and every thread finds the entry of its runner as its phase has it. -/
structure Phased (s : ScaleSet) : Prop where
  running : ∀ name entry, s.manager.processes.lookup name = some entry → entry.state ≠ .paused
  phased : ∀ t thread, s.threads.lookup t = some thread →
    ∀ entry, s.manager.processes.lookup thread.runner = some entry → thread.admits entry.address entry.state

/-- How a call on the table may change an entry that a thread knows. -/
def Drifts (before after : Processes) (name : RunnerName) : Prop :=
  ∀ kept, after.lookup name = some kept → ∃ entry, before.lookup name = some entry ∧
    kept.address = entry.address ∧ (kept.state = entry.state ∨ entry.state.serves ∧ kept.state.serves)

variable {s after : ScaleSet} {t : ThreadID} {thread : ScaleSetThread} {manager : ScaleSetManager}

theorem drifts_refl (processes : Processes) (name : RunnerName) : Drifts processes processes name :=
  fun kept looked => ⟨kept, looked, rfl, .inl rfl⟩

theorem drifts_modify {processes : Processes} {name : RunnerName} {change : ProcessState → ProcessState}
    (changes : ∀ entry, processes.lookup name = some entry → (change entry).address = entry.address ∧
      ((change entry).state = entry.state ∨ entry.state.serves ∧ (change entry).state.serves)) (other : RunnerName) :
    Drifts processes (processes.modify name change) other := by
  intro kept looked
  rw [Map.lookup_modify] at looked
  split at looked
  · next same =>
      obtain ⟨entry, found, rfl⟩ := Option.map_eq_some_iff.mp looked
      exact ⟨entry, found, changes entry (same ▸ found)⟩
  · exact ⟨kept, looked, rfl, .inl rfl⟩

theorem drifts_running {before after : Processes} {name : RunnerName} (drifts : Drifts before after name)
    (running : ∀ entry, before.lookup name = some entry → entry.state ≠ .paused) :
    ∀ kept, after.lookup name = some kept → kept.state ≠ .paused := by
  intro kept looked
  obtain ⟨entry, found, _, equal | ⟨_, serves⟩⟩ := drifts kept looked
  · rw [equal]
    exact running entry found
  · intro paused
    rw [paused] at serves
    exact serves

/-- One thread moves, and no entry does more than drift. -/
theorem Phased.drifts (phased : s.Phased) (drifts : ∀ name, Drifts s.manager.processes manager.processes name)
    (own : ∀ entry, manager.processes.lookup thread.runner = some entry → thread.admits entry.address entry.state) :
    Phased (s.resume t thread manager) := by
  constructor
  · intro name
    exact drifts_running (drifts name) (phased.running name)
  · intro other now found entry looked
    rw [lookup_resume] at found
    split at found
    · cases found
      exact own entry looked
    · obtain ⟨old, known, same, states⟩ := drifts _ entry looked
      rw [same]
      exact ScaleSetThread.admits_of (phased.phased other now found old known) states

/-- A thread whose phase tells no more than the one before. -/
theorem Phased.stays {old : ScaleSetThread} (phased : s.Phased) (found : s.threads.lookup t = some old)
    (mine : thread.runner = old.runner) (same : manager.processes = s.manager.processes)
    (weaker : ∀ address state, old.admits address state → thread.admits address state) : Phased (s.resume t thread manager) := by
  refine phased.drifts (fun name => by rw [same]; exact drifts_refl _ name) fun entry looked => ?_
  rw [same, mine] at looked
  exact weaker _ _ (phased.phased t old found entry looked)

theorem Phased.launch {runner : RunnerName} {phase next : LaunchPhase} (phased : s.Phased)
    (found : s.threads.lookup t = some (.launch runner phase)) (launches : Launches s.manager runner phase manager next) :
    Phased (s.resume t (.launch runner next) manager) := by
  have mine := phased.phased t _ found
  cases launches with
  | store => exact phased.stays found rfl rfl fun _ _ => id
  | leave => exact phased.stays found rfl rfl fun _ _ => id
  | failed known down =>
      refine phased.drifts (drifts_refl _) ?_
      intro entry looked _
      cases known.symm.trans looked
      exact down
  | fail =>
      refine phased.drifts (fun name => drifts_modify ?_ name) fun _ _ => trivial
      intro entry looked
      split
      · next own => exact ⟨rfl, .inl (mine entry looked own).symm⟩
      · exact ⟨rfl, .inl rfl⟩

/-- A listener's `Transition` takes its entry up, or down. No other thread knows that entry. -/
theorem Phased.moves {runner : RunnerName} {phase next : ListenerPhase} {goal : RunnerState} (phased : s.Phased)
    (sole : s.Sole) (found : s.threads.lookup t = some (.listener runner phase)) (engaged : phase.engaged = true)
    (unpaused : goal ≠ .paused)
    (own : ∀ entry, s.manager.processes.lookup runner = some entry →
      ScaleSetThread.admits entry.address (if goal ∈ validTransitions entry.state then goal else entry.state)
        (.listener runner next)) :
    Phased (s.resume t (.listener runner next)
      { s.manager with processes := s.manager.processes.transitioned runner goal }) := by
  have tenant : s.engaged t runner := .inr ⟨phase, found, engaged⟩
  have moved (name : RunnerName) (kept : ProcessState)
      (looked : (s.manager.processes.transitioned runner goal).lookup name = some kept) :
      ∃ entry, s.manager.processes.lookup name = some entry ∧ kept.address = entry.address ∧
        (name ≠ runner ∧ kept.state = entry.state ∨
          name = runner ∧ kept.state = if goal ∈ validTransitions entry.state then goal else entry.state) := by
    rw [Processes.lookup_transitioned] at looked
    split at looked
    · next same =>
        obtain ⟨entry, known, rfl⟩ := Option.map_eq_some_iff.mp looked
        refine ⟨entry, known, ?_, .inr ⟨same, ?_⟩⟩ <;> split <;> rfl
    · next different => exact ⟨kept, looked, rfl, .inl ⟨different, rfl⟩⟩
  constructor
  · intro name kept looked
    obtain ⟨entry, known, _, ⟨_, same⟩ | ⟨_, same⟩⟩ := moved name kept looked
    · rw [same]
      exact phased.running name entry known
    · rw [same]
      split
      · exact unpaused
      · exact phased.running name entry known
  · intro other now here kept looked
    obtain ⟨entry, known, same, ⟨different, state⟩ | ⟨mine, state⟩⟩ := moved _ kept looked
    · rw [lookup_resume] at here
      split at here
      · cases here
        exact absurd rfl different
      · rw [same, state]
        exact phased.phased other now here entry known
    · rw [lookup_resume] at here
      split at here
      · cases here
        rw [same, state]
        exact own entry known
      · next apart =>
          have admits := phased.phased other now here entry known
          -- Only a tenant expects a state of the entry, and there is no other tenant.
          have idle (also : s.engaged other runner) : False := apart (sole.single other t runner also tenant)
          cases now with
          | launch name now =>
              cases mine
              cases now with
              | storing | spawning => exact (idle (.inl ⟨_, here, rfl⟩)).elim
              | failing address text =>
                  intro mine
                  have failed := admits (same.symm.trans mine)
                  obtain ⟨held, there, alive⟩ := sole.toTenancy.entry tenant
                  cases known.symm.trans there
                  rw [failed] at alive
                  cases alive
              | _ => trivial
          | listener name now =>
              cases mine
              cases now with
              | reporting | dropping | done => trivial
              | _ => exact (idle (.inr ⟨_, here, rfl⟩)).elim
          | halt => trivial

theorem Phased.listen {runner : RunnerName} {phase next : ListenerPhase} (phased : s.Phased) (sole : s.Sole)
    (found : s.threads.lookup t = some (.listener runner phase)) (listens : Listens s.manager runner phase manager next) :
    Phased (s.resume t (.listener runner next) manager) := by
  have mine := phased.phased t _ found
  cases listens with
  | online =>
      refine phased.moves sole found rfl nofun fun entry known => ?_
      -- The listener finds its entry as its launch has left it.
      rw [show entry.state = .registering from mine entry known]
      trivial
  | abandon => exact phased.stays found rfl rfl fun _ _ => .inl
  | leave => exact phased.stays found rfl rfl fun _ _ => .inr
  | decide => exact phased.stays found rfl rfl fun _ _ => id
  | finish down =>
      refine phased.moves sole found rfl ?_ fun _ _ => trivial
      rintro rfl
      cases down
  | report => exact phased.drifts (drifts_modify fun _ _ => ⟨rfl, .inl rfl⟩) fun _ _ => trivial
  | drop => exact phased.stays found rfl rfl fun _ _ _ => trivial

/-- A `Start` at rest replaces an entry that nobody knows. -/
theorem Phased.start {runner : RunnerName} {processes : Processes} (phased : s.Phased) (sole : s.Sole)
    (rested : s.manager.processes.resting runner = true)
    (started : s.manager.processes.start runner s.manager.next = .ok processes) :
    Phased (s.resume t (.launch runner (.storing s.manager.next))
      { s.manager with processes, next := s.manager.next + 1 }) := by
  obtain ⟨_, rfl⟩ := Processes.start_ok started
  have idle (other : ThreadID) (engaged : s.engaged other runner) : False :=
    Bool.noConfusion (rested.symm.trans (sole.toTenancy.up other runner engaged))
  constructor
  · intro name entry looked
    rcases Map.lookup_of_insert looked with ⟨_, rfl⟩ | ⟨_, old⟩
    · nofun
    · exact phased.running name entry old
  · intro other now here entry looked
    rw [lookup_resume] at here
    split at here
    · cases here
      rcases Map.lookup_of_insert looked with ⟨_, rfl⟩ | ⟨apart, _⟩
      · rfl
      · exact absurd rfl apart
    · rcases Map.lookup_of_insert looked with ⟨mine, rfl⟩ | ⟨_, old⟩
      · -- Whoever still has the old entry's name in hand writes it only under its address.
        cases now with
        | launch name now =>
            cases mine
            cases now with
            | storing | spawning => exact (idle other (.inl ⟨_, here, rfl⟩)).elim
            | failing address text =>
                rintro rfl
                exact absurd (sole.dated other _ _ here _ rfl) (Nat.lt_irrefl _)
            | _ => trivial
        | listener name now =>
            cases mine
            cases now with
            | reporting | dropping | done => trivial
            | _ => exact (idle other (.inr ⟨_, here, rfl⟩)).elim
        | halt => trivial
      · exact phased.phased other now here entry old

theorem Phased.spawn {g : ThreadID} {runner : RunnerName} {entry context : Nat} (phased : s.Phased)
    (found : s.threads.lookup t = some (.launch runner (.spawning entry context))) :
    Phased ((s.resume t (.launch runner (.waiting entry)) s.manager).resume g
      (.listener runner (.starting context)) s.manager) := by
  have waits : Phased (s.resume t (.launch runner (.waiting entry)) s.manager) :=
    phased.stays found rfl rfl fun _ _ _ => trivial
  exact waits.drifts (drifts_refl _) fun kept looked => phased.phased t _ found kept looked

theorem Phased.stop {runner : RunnerName} {processes : Processes} (phased : s.Phased)
    (launched : s.manager.processes.getState runner ≠ some .registering)
    (stopped : s.manager.processes.stop runner = .ok (some processes)) :
    Phased (s.resume t (.halt runner .halting) { s.manager with processes }) := by
  have up := Processes.stop_up stopped
  obtain ⟨process, found, rfl⟩ := Processes.stop_ok stopped
  have running := phased.running runner process found
  rw [down_lookup, found] at up
  change process.state.down = false at up
  unfold Processes.getState at launched
  rw [found] at launched
  refine phased.drifts (fun name kept looked => ?_) fun _ _ => trivial
  rcases Map.lookup_of_insert looked with ⟨rfl, rfl⟩ | ⟨_, old⟩
  · refine ⟨process, found, rfl, .inr ⟨?_, trivial⟩⟩
    cases state : process.state <;> simp [state, RunnerState.down, RunnerState.serves] at up running launched ⊢
  · exact ⟨kept, old, rfl, .inl rfl⟩

/-- A call of the orchestrator. -/
theorem Phased.marks (phased : s.Phased) {processes : Processes}
    (drifts : ∀ name, Drifts s.manager.processes processes name) :
    Phased { s with manager := { s.manager with processes } } := by
  constructor
  · intro name
    exact drifts_running (drifts name) (phased.running name)
  · intro other now found entry looked
    obtain ⟨old, known, same, states⟩ := drifts _ entry looked
    rw [same]
    exact ScaleSetThread.admits_of (phased.phased other now found old known) states

theorem Phased.step {event : ScaleSetEvent} (phased : s.Phased) (sole : s.Sole) (rested : s.Rested event)
    (regular : s.Regular event) (taken : s.step event = some after) : after.Phased := by
  cases step_moves taken with
  | start fresh started => exact phased.start sole (rested _ rfl) started
  | spawn found fresh => exact phased.spawn found
  | stop fresh stopped => exact phased.stop regular stopped
  | launch found launches => exact phased.launch found launches
  | listen found listens => exact phased.listen sole found listens
  | halt found table counter => exact phased.stays found rfl table fun _ _ _ => trivial
  | @markBusy runner =>
      refine phased.marks (drifts_modify fun entry found => ⟨rfl, ?_⟩)
      have running := phased.running runner entry found
      unfold ProcessState.busy
      cases state : entry.state <;> simp [state, RunnerState.serves] at running ⊢
  | @markIdle runner =>
      refine phased.marks (drifts_modify fun entry found => ⟨rfl, ?_⟩)
      unfold ProcessState.idle
      dsimp only
      split
      · next last =>
          rw [last.2]
          exact .inr ⟨trivial, trivial⟩
      · exact .inl rfl

theorem reached_phased (reached : Reaches step (· = .new) (fun s event => s.Rested event ∧ s.Regular event) s) :
    s.Sole ∧ s.Phased := by
  apply reached.invariant
  · rintro _ rfl
    refine ⟨new_sole, ?_, ?_⟩
    · intro name entry found
      cases found
    · intro t thread found
      cases found
  · rintro state event next _ ⟨sole, phased⟩ ⟨rested, regular⟩ taken
    exact ⟨sole.step rested taken, phased.step sole rested regular taken⟩

theorem regular_iff {event : ScaleSetEvent} (sole : s.Sole) (phased : s.Phased) : s.Conforms event ↔ s.Regular event := by
  have entry {t : ThreadID} {runner : RunnerName} {phase : ListenerPhase}
      (found : s.threads.lookup t = some (.listener runner phase)) (engaged : phase.engaged = true) :
      ∃ entry, s.manager.processes.lookup runner = some entry ∧
        ScaleSetThread.admits entry.address entry.state (.listener runner phase) := by
    obtain ⟨entry, known, _⟩ := sole.toTenancy.entry (.inr ⟨phase, found, engaged⟩)
    exact ⟨entry, known, phased.phased t _ found entry known⟩
  cases event with
  | run t reply =>
      cases found : s.threads.lookup t with
      | none => simp only [Conforms, Regular, found]
      | some thread =>
          cases thread with
          | launch runner phase =>
              cases phase with
              | failing address text =>
                  simp only [Conforms, Regular, found, iff_true]
                  intro entry known own
                  have failed : entry.state = .failed := phased.phased t _ found entry known own
                  simp [failed]
              | _ => simp only [Conforms, Regular, found]
          | listener runner phase =>
              cases phase with
              | starting context =>
                  obtain ⟨entry, known, admits⟩ := entry found rfl
                  simp only [Conforms, Regular, found, iff_true, Processes.getState, known]
                  intro _
                  exact ⟨entry.state, rfl, by simp [show entry.state = .registering from admits, RunnerState.sources]⟩
              | ending failure =>
                  obtain ⟨entry, known, admits⟩ := entry found rfl
                  simp only [Conforms, Regular, found, Processes.getState, known]
                  cases failure <;> cases state : entry.state <;>
                    simp [ScaleSetThread.admits, state, RunnerState.serves, RunnerState.sources] at admits ⊢
              | _ => simp only [Conforms, Regular, found]
          | halt runner phase => simp only [Conforms, Regular, found]
  | markBusy runner =>
      simp only [Conforms, Regular, iff_true, Processes.getState]
      cases known : s.manager.processes.lookup runner with
      | none => nofun
      | some entry => exact fun paused => phased.running runner entry known (Option.some.inj paused)
  | _ => exact Iff.rfl

end ScaleSet

end RunnersMux
