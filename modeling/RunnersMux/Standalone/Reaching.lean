import RunnersMux.Standalone.Records
import RunnersMux.Standalone.Reporting

/-! What a `Stop` reaches.

`Halt` looks once: at the process that is recorded, or at the channel of a
back-off. It reaches the lifecycle if that is served or backing off by then. A
lifecycle that is past its last look at the channel, or before its first, goes
on to launch a listener that nobody has signalled.
-/

set_option autoImplicit false

namespace RunnersMux

open Foundations

namespace Section

/-- A section that leads to a launch which `Halt` cannot call off: the first
launch, a retry whose timer has fired, and a retry that is decided on and has yet
to arm its channel. -/
def outruns : Section → Bool
  | .initializeEnvironment _ | .store _ | .spawn _ | .record _ _ | .arm _ _ => true
  | .decide draining status attempt fast =>
      !draining && status != .clean && (attempt < maxListenerRetries) && fast
  | _ => false

/-- No launch comes of the section: a back-off finds its channel closed. -/
def calledOff (closed : Finset Nat) : Section → Bool
  | .backoff channel _ _ => channel ∈ closed
  | head => !head.outruns

end Section

def CalledOff (closed : Finset Nat) (todo : List Section) : Prop := ∀ later ∈ todo, later.calledOff closed = true

def Thread.outruns (runner : RunnerName) : Thread → Bool
  | .lifecycle name todo => decide (name = runner) && todo.any Section.outruns
  | .stop _ _ => false

namespace StopPhase

/-- The locked section has found something, or nothing to do. -/
def searched : StopPhase → Bool
  | .halting _ | .returned (some _) => false
  | _ => true

/-- The process that a termination signal is about to go to. -/
def targets : StopPhase → Option Pid
  | .killing pgid => some pgid
  | .resuming leader _ | .interrupting leader _ => some leader
  | _ => none

end StopPhase

namespace StandaloneManager

def terminated (m : StandaloneManager) (pid : Pid) : Bool := (m.groups.lookup pid).any (·.terminated)

/-- A process that is live has been, and the signals it was sent stay sent. -/
def Carries (m after : StandaloneManager) (pid : Pid) : Prop :=
  after.live pid = true → m.live pid = true ∧ (m.terminated pid = true → after.terminated pid = true)

variable {m after : StandaloneManager} {pid : Pid}

theorem Carries.same (groups : after.groups.lookup pid = m.groups.lookup pid) : m.Carries after pid := by
  intro live
  unfold StandaloneManager.live StandaloneManager.terminated at *
  rw [groups] at live ⊢
  exact ⟨live, id⟩

theorem deliver_terminated (sent : Signal) {group : ProcessGroup} (before : group.terminated = true) :
    (group.deliver sent).terminated = true := by
  unfold ProcessGroup.deliver
  split
  · cases sent <;> first | exact before | rfl
  · exact before

theorem carries_signal (groups : ∃ pgids sent, after.groups = (m.signal pgids sent).groups) : m.Carries after pid := by
  obtain ⟨pgids, sent, same⟩ := groups
  intro live
  have alive : after.live pid = (m.signal pgids sent).live pid := by
    unfold StandaloneManager.live
    rw [same]
  rw [alive, live_signal] at live
  refine ⟨(Bool.and_eq_true_iff.mp live).1, fun before => ?_⟩
  obtain ⟨group, known, was⟩ := (Option.any_eq_true _ _).mp before
  unfold StandaloneManager.terminated
  rw [same, lookup_signal, known]
  change (ProcessGroup.terminated (if _ then _ else _)) = true
  split
  · exact deliver_terminated sent was
  · exact was

/-- A change of one group that keeps it dead or alive, and terminated. -/
theorem carries_modify {own : Pid} {change : ProcessGroup → ProcessGroup}
    (groups : after.groups = m.groups.modify own change)
    (keeps : ∀ group, m.groups.lookup own = some group → ((change group).live = true → group.live = true) ∧
      (group.terminated = true → (change group).terminated = true)) : m.Carries after pid := by
  intro live
  unfold StandaloneManager.live StandaloneManager.terminated at *
  rw [groups, Map.lookup_modify] at live ⊢
  split at live
  · next same =>
      subst same
      rw [if_pos rfl]
      cases known : m.groups.lookup pid with
      | none =>
          rw [known] at live
          cases live
      | some group =>
          rw [known] at live
          exact ⟨(keeps group known).1 live, (keeps group known).2⟩
  · next different =>
      rw [if_neg different]
      exact ⟨live, id⟩

theorem terminated_int {pgids : Finset Pid} (member : pid ∈ pgids) (live : m.live pid = true) :
    (m.signal pgids .int).terminated pid = true := by
  obtain ⟨group, known, alive⟩ := (Option.any_eq_true _ _).mp live
  unfold StandaloneManager.terminated
  rw [lookup_signal, known]
  change (ProcessGroup.terminated (if _ then _ else _)) = true
  rw [if_pos member]
  unfold ProcessGroup.deliver
  rw [if_pos alive]

end StandaloneManager

section
variable {m after : StandaloneManager} {runner : RunnerName} {answer : Answer} {head : Section}
  {todo rest : List Section} {pid : Pid}

theorem perform_carries (performed : m.perform runner answer head = some (after, todo))
    (old : pid ∉ head.forks answer) : m.Carries after pid := by
  cases perform_performs performed with
  | spawn clean nonzero free =>
      -- The new process has a number of its own.
      apply StandaloneManager.Carries.same
      refine Finmap.lookup_insert_of_ne _ ?_
      rintro rfl
      rw [Section.forks, if_pos clean] at old
      exact old rfl
  | record records =>
      cases records with
      | cancelled | free => exact .same rfl
      | frozen | missed => exact StandaloneManager.carries_signal ⟨_, _, rfl⟩
  | abort =>
      apply StandaloneManager.carries_modify rfl
      intro group _
      constructor
      · intro live
        change (group.deliver .kill).live = true at live
        rw [ProcessGroup.deliver_live] at live
        exact (Bool.and_eq_true_iff.mp live).1
      · exact StandaloneManager.deliver_terminated .kill
  | serve ended => exact StandaloneManager.carries_modify rfl fun group _ => ⟨id, id⟩
  | _ => exact .same rfl

theorem advance_carries {phase next : StopPhase} (advanced : m.advance runner answer phase = some (after, next)) :
    m.Carries after pid := by
  cases advance_advances advanced with
  | killing | resuming | interrupting | missed | expiring => exact StandaloneManager.carries_signal ⟨_, _, rfl⟩
  | _ => exact .same rfl

/-- The process that `Halt` is about to signal is signalled, or still about to be. -/
theorem advance_targets {phase next : StopPhase} (advanced : m.advance runner answer phase = some (after, next))
    (searched : next.searched = true) (target : pid ∈ phase.targets) (live : after.live pid = true) :
    after.terminated pid = true ∨ pid ∈ next.targets := by
  cases advance_advances advanced with
  | killing =>
      cases target
      rw [StandaloneManager.live_signal] at live
      simp at live
  | resuming => exact .inr target
  | interrupting =>
      cases target
      rw [StandaloneManager.live_signal_spared _ _ _ _ (by decide)] at live
      exact .inl (StandaloneManager.terminated_int (Finset.mem_singleton_self _) live)
  | missed => cases searched
  | _ => cases target

/-- A phase that follows the locked section follows one that did, too. -/
theorem advance_searched {phase next : StopPhase} (advanced : m.advance runner answer phase = some (after, next)) :
    phase.searched = true ∨ ∃ force, phase = .halting force := by
  cases advance_advances advanced with
  | missing | kill | resume | cancel | idle => exact .inr ⟨_, rfl⟩
  | _ => exact .inl rfl

theorem calledOff_failure {closed : Finset Nat} (caller : Caller) (text : String) :
    CalledOff closed (caller.failure text) := by
  cases caller <;> simp [CalledOff, Caller.failure, Section.calledOff, Section.outruns]

/-- A lifecycle that is called off stays so while its runner is Draining. -/
theorem CalledOff.performs (off : CalledOff m.closed (head :: rest))
    (performed : m.perform runner answer head = some (after, todo))
    (draining : Engaged (head :: rest) → m.processes.isDraining runner = true)
    (timer : ∀ channel attempt data, head = .backoff channel attempt data → answer.flag = true →
      channel ∉ m.closed) : CalledOff after.closed (todo ++ rest) := by
  rw [perform_closed performed]
  have first := off head List.mem_cons_self
  intro later member
  rcases List.mem_append.mp member with new | old
  · cases head with
    | exited status attempt fast =>
        -- The goroutine reads Draining, and so decides against a retry.
        cases performed
        rw [draining ⟨_, List.mem_cons_self, .inl rfl⟩] at new
        cases List.mem_singleton.mp new
        rfl
    | decide drained status attempt fast =>
        rcases decide_cases performed with ⟨_, rfl | rfl⟩ | ⟨retries, _⟩
        · simp at new
          rcases new with rfl | rfl | rfl <;> rfl
        · simp at new
          rcases new with rfl | rfl | rfl <;> rfl
        · simp [Section.calledOff, Section.outruns, retries] at first
    | backoff channel attempt data =>
        -- The channel is closed: the `select` may not take its timer.
        have closed : channel ∈ m.closed := of_decide_eq_true first
        cases perform_performs performed with
        | fire =>
            simp only [StandaloneManager.perform] at performed
            split at performed
            · next fired => exact absurd closed (timer channel attempt data rfl fired)
            · simp at performed
        | cancel =>
            simp at new
            rcases new with rfl | rfl <;> rfl
    | serve =>
        cases perform_performs performed with
        | serve ended =>
            cases List.mem_singleton.mp new
            rfl
    | abort caller own =>
        cases performed
        exact calledOff_failure caller _ later new
    | transition | setError | fail | forget | disarm =>
        cases performed
        cases new
    | _ => cases first
  · exact off later (List.mem_cons_of_mem _ old)

end

section
variable {closed : Finset Nat} {todo : List Section} {data : Option ListenerData}

/-- The record names the process that a lifecycle will wait for. -/
theorem Notes.serves (notes : Notes closed todo data) {pid : Pid} {attempt : Nat}
    (member : .serve pid attempt ∈ todo) : ∃ known, data = some known ∧ known.cmd = some pid ∧ known.pgid = pid := by
  induction todo generalizing data with
  | nil => cases member
  | cons head rest ih =>
      rcases List.mem_cons.mp member with rfl | later
      · exact notes.1
      · cases head with
        | transition | setError => exact ih notes later
        | forget | disarm =>
            obtain ⟨_, none_, _⟩ := ih (notes none) later
            cases none_
        | arm =>
            obtain ⟨known, _, _, next⟩ := notes
            obtain ⟨_, same, cmd, _⟩ := ih next later
            cases same
            cases cmd
        | fail | initializeEnvironment | store =>
            rw [show rest = [] from notes] at later
            cases later
        | _ =>
            rw [notes.2] at later
            cases later

/-- The record holds the channel of a back-off until a `Halt` has closed it. -/
theorem Notes.backs (notes : Notes closed todo data) {channel attempt : Nat} {pointer : Option Nat}
    (member : .backoff channel attempt pointer ∈ todo) (armed : ∀ later ∈ todo, later.outruns = false) :
    ∃ known, data = some known ∧ known.cmd = none ∧ (known.retryCancel = some channel ∨ channel ∈ closed) := by
  induction todo generalizing data with
  | nil => cases member
  | cons head rest ih =>
      have after := fun later member => armed later (List.mem_cons_of_mem head member)
      rcases List.mem_cons.mp member with rfl | later
      · exact notes.1
      · cases head with
        | transition | setError => exact ih notes later after
        | forget | disarm =>
            obtain ⟨_, none_, _⟩ := ih (notes none) later after
            cases none_
        | arm => cases armed _ List.mem_cons_self
        | fail | initializeEnvironment | store =>
            rw [show rest = [] from notes] at later
            cases later
        | _ =>
            rw [notes.2] at later
            cases later

end

namespace Processes

/-- A runner that is Draining stays so until its lifecycle takes it down. -/
def Drains (before after : Processes) (name : RunnerName) : Prop :=
  before.getState name = some .draining → after.getState name = some .draining ∨ after.resting name = true

theorem Drains.same {processes after : Processes} {name : RunnerName}
    (looked : after.lookup name = processes.lookup name) : processes.Drains after name := by
  intro draining
  unfold getState at *
  rw [looked]
  exact .inl draining

theorem drains_lookup {processes after : Processes} {name : RunnerName} {change : ProcessState → ProcessState}
    (looked : after.lookup name = (processes.lookup name).map change)
    (drains : ∀ entry, entry.state = .draining →
      (change entry).state = .draining ∨ (change entry).state.down = true) : processes.Drains after name := by
  intro draining
  obtain ⟨entry, known, state⟩ := Option.map_eq_some_iff.mp draining
  rw [known] at looked
  rw [resting_lookup, looked]
  unfold getState
  rw [looked]
  exact (drains entry state).imp (congrArg some) id

end Processes

theorem Processes.Drifts.drains {processes after : Processes} {name : RunnerName}
    (drifts : processes.Drifts after name) : processes.Drains after name := by
  intro draining
  obtain ⟨entry, known, state⟩ := Option.map_eq_some_iff.mp draining
  obtain ⟨moved, looked, _, drift⟩ := drifts entry known
  rw [state] at drift
  left
  unfold getState
  rw [looked]
  rcases drift with same | ⟨_, same⟩ | ⟨serving, _⟩
  · exact congrArg some same
  · exact congrArg some same
  · cases serving

theorem perform_drains {m after : StandaloneManager} {runner name : RunnerName} {answer : Answer} {head : Section}
    {todo : List Section} (performed : m.perform runner answer head = some (after, todo)) :
    m.processes.Drains after.processes name := by
  by_cases mine : name = runner
  · subst mine
    rcases perform_processes performed with same | ⟨goal, rfl, same⟩ | ⟨text, rfl, same⟩ | ⟨entry, text, rfl, same⟩
    · exact .same (by rw [same])
    · rw [same]
      apply Processes.drains_lookup ((Processes.lookup_transitioned ..).trans (if_pos rfl))
      intro entry state
      split
      · next allowed =>
          rw [state] at allowed
          cases List.mem_singleton.mp allowed
          exact .inr rfl
      · exact .inl state
    · rw [same]
      exact Processes.drains_lookup ((Map.lookup_modify ..).trans (if_pos rfl)) fun _ state => .inl state
    · rw [same]
      apply Processes.drains_lookup ((Map.lookup_modify ..).trans (if_pos rfl))
      intro old state
      split
      · exact .inr rfl
      · exact .inl state
  · exact .same ((perform_frame performed).2 name mine).1

namespace Standalone

variable {s after : Standalone} {runner : RunnerName} {t : ThreadID}

theorem step_drains {call : Call} (other : runner ∉ call.starts) (taken : s.step call = some after) :
    s.manager.processes.Drains after.manager.processes runner := by
  cases call with
  | own event =>
      cases act_moves taken with
      | @start t name processes fresh started =>
          obtain ⟨_, rfl⟩ := Processes.start_ok started
          refine .same (Finmap.lookup_insert_of_ne _ ?_)
          rintro rfl
          exact other rfl
      | stop fresh stopped => exact (Processes.drifts_stop stopped).drains
      | perform found performed => exact perform_drains performed
      | advance found advanced => exact .same (congrArg (Finmap.lookup runner) (advance_frame advanced).1)
      | exit alive => exact .same rfl
  | lockOthers outcome activeRunners =>
      cases taken
      exact (s.manager.drifts_sweep outcome .stop activeRunners runner rfl rfl).drains
  | unlockOthers outcome =>
      cases taken
      exact (s.manager.drifts_sweep outcome .cont ∅ runner rfl rfl).drains
  | markBusy name =>
      cases taken
      exact (Processes.drifts_markBusy _ runner name).drains
  | markIdle name =>
      cases taken
      refine (Processes.drifts_markIdle _ runner name ?_).drains
      split <;> rfl

/-- The locked section of a `Halt` of the runner that finds its record. -/
def halts (s : Standalone) (runner : RunnerName) : Call → Bool
  | .own (.run t _) =>
      match s.threads.lookup t with
      | some (.stop name (.halting _)) => decide (name = runner) && (s.manager.listenerData.lookup runner).isSome
      | _ => false
  | _ => false

/-- The channel of the runner's back-off, if its timer is taken. -/
def fires (s : Standalone) (runner : RunnerName) : Call → Option Nat
  | .own (.run t answer) =>
      match s.threads.lookup t with
      | some (.lifecycle name (.backoff channel _ _ :: _)) =>
          if name = runner ∧ answer.flag = true then some channel else none
      | _ => none
  | _ => none

/-- The runner is started at rest, a `Halt` that finds its record comes while no
launch is on its way, and a back-off does not take its timer when its channel is closed. -/
structure InTime (runner : RunnerName) (s : Standalone) (call : Call) : Prop where
  rested : runner ∈ call.starts → s.manager.processes.resting runner = true
  halts : s.halts runner call = true → ∀ t thread, s.threads.lookup t = some thread → thread.outruns runner = false
  timers : ∀ channel ∈ s.fires runner call, channel ∉ s.manager.closed

instance (runner : RunnerName) (s : Standalone) (call : Call) : Decidable (InTime runner s call) :=
  decidable_of_iff (_ ∧ _ ∧ _) ⟨fun all => ⟨all.1, all.2.1, all.2.2⟩, fun inTime =>
    ⟨inTime.rested, inTime.halts, inTime.timers⟩⟩

/-- What holds of one runner between its lifecycles, its entry and its records. -/
structure Sound (runner : RunnerName) (s : Standalone) : Prop where
  custody : Custody s
  sole : s.Sole (· = runner)
  noted : Noted runner s

theorem Sound.step {call : Call} (sound : Sound runner s)
    (rested : runner ∈ call.starts → s.manager.processes.resting runner = true) (taken : s.step call = some after) :
    Sound runner after := by
  refine ⟨sound.custody.step taken, sound.sole.step sound.custody ?_ taken, sound.noted.step sound.sole rested taken⟩
  rintro name started rfl
  exact rested started

/-- What a `Stop` has reached, of the threads that were there when it was accepted. -/
structure Stopping (runner : RunnerName) (t : ThreadID) (old : ThreadID → Prop) (s : Standalone) : Prop where
  known : ∀ u, old u → s.threads.lookup u ≠ none
  stop : ∃ phase, s.threads.lookup t = some (.stop runner phase)
  draining : ∀ u todo, old u → s.threads.lookup u = some (.lifecycle runner todo) → Engaged todo →
    s.manager.processes.getState runner = some .draining
  off : ∀ phase, s.threads.lookup t = some (.stop runner phase) → phase.searched = true → ∀ u todo, old u →
    s.threads.lookup u = some (.lifecycle runner todo) → CalledOff s.manager.closed todo
  signalled : ∀ phase, s.threads.lookup t = some (.stop runner phase) → phase.searched = true → ∀ u todo, old u →
    s.threads.lookup u = some (.lifecycle runner todo) → ∀ pid ∈ owners todo, s.manager.live pid = true →
      s.manager.terminated pid = true ∨ pid ∈ phase.targets ∨ ∃ caller, .abort caller pid ∈ todo

theorem CalledOff.mono {closed more : Finset Nat} {todo : List Section} (off : CalledOff closed todo)
    (grows : closed ⊆ more) : CalledOff more todo := by
  intro later member
  have before := off later member
  cases later with
  | backoff channel => exact decide_eq_true (grows (of_decide_eq_true before))
  | _ => exact before

theorem step_known {call : Call} {u : ThreadID} (taken : s.step call = some after)
    (known : s.threads.lookup u ≠ none) : after.threads.lookup u ≠ none := by
  have kept {w : ThreadID} {thread : Thread} {manager : StandaloneManager} :
      (s.resume w thread manager).threads.lookup u ≠ none := by
    rw [lookup_resume]
    split
    · simp
    · exact known
  cases call with
  | own event =>
      cases act_moves taken with
      | exit alive => exact known
      | _ => exact kept
  | lockOthers | unlockOthers | markBusy | markIdle =>
      cases taken
      exact known

theorem step_closed {call : Call} (taken : s.step call = some after) : s.manager.closed ⊆ after.manager.closed := by
  cases call with
  | own event =>
      cases act_moves taken with
      | perform found performed => exact (perform_closed performed).symm.subset
      | advance found advanced =>
          rcases advance_records advanced with ⟨_, closed⟩ | ⟨_, channel, _, _, _, closed, _⟩
          · exact closed.symm.subset
          · exact closed ▸ Finset.subset_insert _ _
      | _ => exact Finset.Subset.refl _
  | lockOthers | unlockOthers | markBusy | markIdle =>
      cases taken
      exact Finset.Subset.refl _

/-- A listener that a lifecycle owns is neither revived nor replaced. -/
theorem step_carries {call : Call} {u : ThreadID} {name : RunnerName} {todo : List Section} {pid : Pid}
    (custody : Custody s) (found : s.threads.lookup u = some (.lifecycle name todo)) (owns : pid ∈ owners todo)
    (taken : s.step call = some after) : s.manager.Carries after.manager pid := by
  cases call with
  | own event =>
      cases act_moves taken with
      | @perform t answer runner head todo rest manager here performed =>
          apply perform_carries performed
          intro forked
          obtain ⟨group, known, unreaped, _⟩ := (custody.kept u name _ found).unreaped pid owns
          cases unreaped.symm.trans ((perform_forked performed forked).1 group known)
      | advance here advanced => exact advance_carries advanced
      | exit alive =>
          apply StandaloneManager.carries_modify rfl
          intro group _
          exact ⟨fun live => (by cases live), id⟩
      | _ => exact .same rfl
  | lockOthers | unlockOthers =>
      cases taken
      exact StandaloneManager.carries_signal ⟨_, _, rfl⟩
  | markBusy | markIdle =>
      cases taken
      exact .same rfl

section
variable {old : ThreadID → Prop} {call : Call}

/-- The runner of a lifecycle that is still engaged is Draining. -/
theorem Stopping.drained (sound : Sound runner s) (stopping : Stopping runner t old s) (later : Sound runner after)
    (rested : runner ∈ call.starts → s.manager.processes.resting runner = true) (taken : s.step call = some after)
    {u : ThreadID} {todo : List Section} (was : old u) (found : after.threads.lookup u = some (.lifecycle runner todo))
    (engaged : Engaged todo) : after.manager.processes.getState runner = some .draining := by
  rcases engaged_step sound.custody taken ⟨todo, found, engaged⟩ with ⟨before, here, needs⟩ | ⟨_, fresh⟩
  · have other : runner ∉ call.starts := fun started =>
      Bool.noConfusion ((rested started).symm.trans (sound.sole.up u runner ⟨rfl, before, here, needs⟩))
    refine (step_drains other taken (stopping.draining u before was here needs)).resolve_right fun resting => ?_
    cases resting.symm.trans (later.sole.up u runner ⟨rfl, todo, found, engaged⟩)
  · exact absurd fresh (stopping.known u was)

/-- A step that the stop thread does not take. -/
theorem Stopping.kept (sound : Sound runner s) (stopping : Stopping runner t old s) (later : Sound runner after)
    (rested : runner ∈ call.starts → s.manager.processes.resting runner = true) (taken : s.step call = some after)
    (stop : after.threads.lookup t = s.threads.lookup t)
    (lifecycle : ∀ u todo, old u → after.threads.lookup u = some (.lifecycle runner todo) →
      ∃ before, s.threads.lookup u = some (.lifecycle runner before) ∧ (CalledOff s.manager.closed before →
        CalledOff after.manager.closed todo ∧ ∀ pid ∈ owners todo, pid ∈ owners before ∧
          ∀ caller, .abort caller pid ∈ before → .abort caller pid ∈ todo)) : Stopping runner t old after := by
  constructor
  · intro u was
    exact step_known taken (stopping.known u was)
  · rw [stop]
    exact stopping.stop
  · intro u todo was found engaged
    exact stopping.drained sound later rested taken was found engaged
  · intro phase here searched u todo was found
    obtain ⟨before, looked, carries⟩ := lifecycle u todo was found
    exact (carries (stopping.off phase (stop ▸ here) searched u before was looked)).1
  · intro phase here searched u todo was found pid owns live
    obtain ⟨before, looked, carries⟩ := lifecycle u todo was found
    have ⟨owned, aborts⟩ :=
      (carries (stopping.off phase (stop ▸ here) searched u before was looked)).2 pid owns
    have ⟨lived, sent⟩ := step_carries sound.custody looked owned taken live
    rcases stopping.signalled phase (stop ▸ here) searched u before was looked pid owned lived with
      terminated | target | ⟨caller, abort⟩
    · exact .inl (sent terminated)
    · exact .inr (.inl target)
    · exact .inr (.inr ⟨caller, aborts caller abort⟩)

/-- What the locked section of `Halt` leaves of a lifecycle that no launch is on its way in. -/
theorem halt_reaches {m manager : StandaloneManager} {force : Bool} {next : StopPhase} {todo : List Section}
    (halted : m.halt runner force = (manager, next)) (searched : next.searched = true)
    (notes : Notes m.closed todo (m.listenerData.lookup runner)) (armed : ∀ later ∈ todo, later.outruns = false) :
    CalledOff manager.closed todo ∧
      ∀ pid ∈ owners todo, pid ∈ next.targets ∨ ∃ caller, .abort caller pid ∈ todo := by
  rcases halt_cases halted with ⟨_, _, rfl⟩ | ⟨data, known, found⟩
  · cases searched
  · constructor
    · intro later member
      cases later with
      | backoff channel attempt pointer =>
          -- Either this `Halt` closes the channel, or another one has.
          obtain ⟨now, same, dead, channels⟩ := notes.backs member armed
          cases known.symm.trans same
          apply decide_eq_true
          rcases found with ⟨pid, cmd, _⟩ | ⟨other, _, held, _, rfl⟩ | ⟨_, quiet, rfl, _⟩
          · cases dead.symm.trans cmd
          · rcases channels with same | closed
            · cases held.symm.trans same
              exact Finset.mem_insert_self _ _
            · exact Finset.mem_insert_of_mem closed
          · exact channels.resolve_left fun held => by cases quiet.symm.trans held
      | _ => exact congrArg Bool.not (armed _ member)
    · intro pid owns
      obtain ⟨later, member, owned⟩ := List.mem_filterMap.mp owns
      cases later with
      | record => cases armed _ member
      | abort caller own =>
          cases owned
          exact .inr ⟨caller, member⟩
      | serve own attempt =>
          -- The process that is served is the one that the record names.
          cases owned
          obtain ⟨now, same, cmd, group⟩ := notes.serves member
          cases known.symm.trans same
          left
          rcases found with ⟨other, held, _, rfl⟩ | ⟨_, dead, _⟩ | ⟨dead, _⟩
          · cases cmd.symm.trans held
            cases force
            · rfl
            · exact congrArg some group
          · cases dead.symm.trans cmd
          · cases dead.symm.trans cmd
      | _ => cases owned

/-- A step of the stop thread itself. -/
theorem Stopping.advances {answer : Answer} {phase next : StopPhase} {manager : StandaloneManager}
    (sound : Sound runner s) (stopping : Stopping runner t old s)
    (later : Sound runner (s.resume t (.stop runner next) manager)) (inTime : InTime runner s (.own (.run t answer)))
    (found : s.threads.lookup t = some (.stop runner phase))
    (advanced : s.manager.advance runner answer phase = some (manager, next))
    (taken : s.step (.own (.run t answer)) = some (s.resume t (.stop runner next) manager)) :
    Stopping runner t old (s.resume t (.stop runner next) manager) := by
  have phased {now : StopPhase}
      (here : (s.resume t (.stop runner next) manager).threads.lookup t = some (.stop runner now)) : next = now := by
    rw [lookup_resume, if_pos rfl] at here
    cases here
    rfl
  have before {u : ThreadID} {todo : List Section}
      (here : (s.resume t (.stop runner next) manager).threads.lookup u = some (.lifecycle runner todo)) :
      s.threads.lookup u = some (.lifecycle runner todo) :=
    (lookup_resume_stop (fun _ _ lifecycle => by cases found.symm.trans lifecycle) u runner todo).mp here
  -- The locked section itself: no launch is on its way, unless there is no record.
  have searches {force : Bool} (halting : phase = .halting force) (searched : next.searched = true) {u : ThreadID}
      {todo : List Section} (here : s.threads.lookup u = some (.lifecycle runner todo)) :
      CalledOff manager.closed todo ∧
        ∀ pid ∈ owners todo, pid ∈ next.targets ∨ ∃ caller, .abort caller pid ∈ todo := by
    subst halting
    have halted : s.manager.halt runner force = (manager, next) := Option.some.inj advanced
    refine halt_reaches halted searched (sound.noted.notes u todo here) fun later member => ?_
    have recorded : s.halts runner (.own (.run t answer)) = true := by
      simp only [halts, found]
      rcases halt_cases halted with ⟨_, _, rfl⟩ | ⟨data, known, _⟩
      · cases searched
      · simp [known]
    have quiet := inTime.halts recorded u _ here
    simp only [Thread.outruns, decide_true, Bool.true_and, List.any_eq_false] at quiet
    exact Bool.eq_false_iff.mpr (quiet later member)
  constructor
  · intro u was
    exact step_known taken (stopping.known u was)
  · exact ⟨next, by rw [lookup_resume, if_pos rfl]⟩
  · intro u todo was here engaged
    exact stopping.drained sound later inTime.rested taken was here engaged
  · intro now here searched u todo was lifecycle
    cases phased here
    rcases advance_searched advanced with already | ⟨force, halting⟩
    · exact CalledOff.mono (stopping.off phase found already u todo was (before lifecycle)) (step_closed taken)
    · exact (searches halting searched (before lifecycle)).1
  · intro now here searched u todo was lifecycle pid owns live
    cases phased here
    -- After its locked section `Halt` goes on to signal what it has found.
    rcases advance_searched advanced with already | ⟨force, halting⟩
    · have ⟨lived, sent⟩ := step_carries sound.custody (before lifecycle) owns taken live
      rcases stopping.signalled phase found already u todo was (before lifecycle) pid owns lived with
        terminated | target | abort
      · exact .inl (sent terminated)
      · exact (advance_targets advanced searched target live).imp_right .inl
      · exact .inr (.inr abort)
    · exact .inr ((searches halting searched (before lifecycle)).2 pid owns)

/-- A step of a lifecycle of the runner. -/
theorem Stopping.performs {u : ThreadID} {answer : Answer} {head : Section} {todo rest : List Section}
    {manager : StandaloneManager} (sound : Sound runner s) (stopping : Stopping runner t old s)
    (later : Sound runner (s.resume u (.lifecycle runner (todo ++ rest)) manager))
    (inTime : InTime runner s (.own (.run u answer)))
    (found : s.threads.lookup u = some (.lifecycle runner (head :: rest)))
    (performed : s.manager.perform runner answer head = some (manager, todo))
    (taken : s.step (.own (.run u answer)) = some (s.resume u (.lifecycle runner (todo ++ rest)) manager)) :
    Stopping runner t old (s.resume u (.lifecycle runner (todo ++ rest)) manager) := by
  have other : t ≠ u := by
    rintro rfl
    obtain ⟨phase, here⟩ := stopping.stop
    cases found.symm.trans here
  apply stopping.kept sound later inTime.rested taken
  · rw [lookup_resume, if_neg other]
  · intro v others was here
    rw [lookup_resume] at here
    split at here
    · next same =>
        subst same
        cases here
        refine ⟨_, found, fun off => ⟨off.performs performed (fun engaged => ?_) ?_, ?_⟩⟩
        · obtain ⟨entry, known, state⟩ := Option.map_eq_some_iff.mp (stopping.draining v _ was found engaged)
          unfold Processes.isDraining
          rw [known]
          exact decide_eq_true state
        · rintro channel attempt data rfl fired
          apply inTime.timers channel
          simp [fires, found, fired]
        · intro pid owns
          have fate : pid ∈ owners rest ∨ pid ∈ head.owned ∧ pid ∉ head.reaps := by
            rcases List.mem_append.mp (owners_append .. ▸ owns) with new | old
            · rcases perform_owners performed new with forked | kept
              · -- A section that forks is not called off.
                cases head with
                | spawn => cases off _ List.mem_cons_self
                | _ => cases forked
              · exact .inr kept
            · exact .inl old
          constructor
          · rw [owners_cons]
            rcases fate with old | ⟨owned, _⟩
            · exact List.mem_append_right _ old
            · exact List.mem_append_left _ (Option.mem_toList.mpr owned)
          · intro caller abort
            rcases List.mem_cons.mp abort with rfl | behind
            · rcases fate with old | ⟨_, spared⟩
              · exact absurd old ((sound.custody.kept v runner _ found).alone rfl)
              · exact absurd rfl spared
            · exact List.mem_append_right _ behind
    · exact ⟨others, here, fun off => ⟨CalledOff.mono off (step_closed taken), fun pid owns => ⟨owns, fun _ => id⟩⟩⟩

/-- A step that leaves the stop thread and the lifecycles of its runner alone. -/
theorem Stopping.aside (sound : Sound runner s) (stopping : Stopping runner t old s) (later : Sound runner after)
    (rested : runner ∈ call.starts → s.manager.processes.resting runner = true) (taken : s.step call = some after)
    (stop : after.threads.lookup t = s.threads.lookup t)
    (lifecycle : ∀ u todo, old u → after.threads.lookup u = some (.lifecycle runner todo) →
      s.threads.lookup u = some (.lifecycle runner todo)) : Stopping runner t old after := by
  apply stopping.kept sound later rested taken stop
  intro u todo was here
  exact ⟨todo, lifecycle u todo was here,
    fun off => ⟨CalledOff.mono off (step_closed taken), fun pid owns => ⟨owns, fun _ => id⟩⟩⟩

theorem Stopping.step (sound : Sound runner s) (stopping : Stopping runner t old s) (inTime : InTime runner s call)
    (taken : s.step call = some after) : Stopping runner t old after := by
  have later := sound.step inTime.rested taken
  have known : s.threads.lookup t ≠ none := by
    obtain ⟨phase, here⟩ := stopping.stop
    simp [here]
  cases call with
  | own event =>
      cases act_moves taken with
      | start fresh moved | stop fresh moved =>
          apply stopping.aside sound later inTime.rested taken
          · rw [lookup_resume, if_neg (by rintro rfl; exact known fresh)]
          · intro v todo was here
            rwa [lookup_resume, if_neg (by rintro rfl; exact stopping.known v was fresh)] at here
      | @perform u answer name head todo rest manager found performed =>
          by_cases mine : name = runner
          · subst mine
            exact stopping.performs sound later inTime found performed taken
          · apply stopping.aside sound later inTime.rested taken
            · rw [lookup_resume, if_neg]
              rintro rfl
              obtain ⟨phase, here⟩ := stopping.stop
              cases found.symm.trans here
            · intro v others was here
              exact (lookup_resume_other found mine).mp here
      | @advance u answer name phase next manager found advanced =>
          by_cases own : u = t
          · subst own
            obtain ⟨now, here⟩ := stopping.stop
            cases found.symm.trans here
            exact stopping.advances sound later inTime found advanced taken
          · apply stopping.aside sound later inTime.rested taken
            · rw [lookup_resume, if_neg (Ne.symm own)]
            · intro v todo was here
              have unlike (name : RunnerName) (others : List Section) :
                  s.threads.lookup u ≠ some (.lifecycle name others) := by
                rw [found]
                simp
              exact (lookup_resume_stop unlike v runner todo).mp here
      | exit alive => exact stopping.aside sound later inTime.rested taken rfl fun _ _ _ => id
  | lockOthers | unlockOthers | markBusy | markIdle =>
      have same : after.threads = s.threads := by
        cases taken
        rfl
      apply stopping.aside sound later inTime.rested taken (by rw [same])
      intro v todo was here
      rwa [same] at here

/-- A `Stop` that is accepted has yet to look. -/
theorem stop_stopping {force : Bool} (stopped : s.step (.own (.stop t runner force)) = some after) :
    Stopping runner t (fun u => after.threads.lookup u ≠ none) after := by
  obtain ⟨processes, accepted, rfl⟩ : ∃ processes, s.manager.processes.stop runner = .ok (some processes) ∧
      after = s.resume t (.stop runner (.halting force)) { s.manager with processes } := by
    have taken : s.act (.stop t runner force) = some after := stopped
    cases act_moves taken with
    | stop fresh accepted => exact ⟨_, accepted, rfl⟩
  have unsearched {phase : StopPhase} (searched : phase.searched = true)
      (here : (s.resume t (.stop runner (.halting force)) { s.manager with processes }).threads.lookup t =
        some (.stop runner phase)) : False := by
    rw [lookup_resume, if_pos rfl] at here
    cases here
    cases searched
  constructor
  · exact fun _ known => known
  · exact ⟨_, by rw [lookup_resume, if_pos rfl]⟩
  · intro u todo _ _ _
    obtain ⟨entry, _, rfl⟩ := Processes.stop_ok accepted
    unfold Processes.getState
    exact congrArg (Option.map (·.state)) (Finmap.lookup_insert s.manager.processes)
  · intro phase here searched
    exact (unsearched searched here).elim
  · intro phase here searched
    exact (unsearched searched here).elim

end

theorem new_sound (runner : RunnerName) : Sound runner .new := ⟨new_custody, new_sole _, new_noted runner⟩

/-- Once the `Stop` has returned nil and the launches of its time are finished, no
listener of the runner goes on without a termination signal, unless a later
`Start` has launched it. -/
def Reached (runner : RunnerName) (t : ThreadID) (begun ended : Standalone) : Prop :=
  ended.threads.lookup t = some (.stop runner (.returned none)) →
    (∀ u todo, begun.threads.lookup u ≠ none → ended.threads.lookup u = some (.lifecycle runner todo) →
      todo.any Section.launching = false) →
    ∀ pid group, ended.manager.groups.lookup pid = some group → group.runner = runner → group.live = true →
      group.terminated = true ∨ ∃ u todo, begun.threads.lookup u = none ∧
        ended.threads.lookup u = some (.lifecycle runner todo) ∧ pid ∈ owners todo

/-- A `Stop` reaches every launch of its runner, as long as each `Halt` comes in time. -/
theorem stop_reaches (runner : RunnerName) (s begun ended : Standalone) (t : ThreadID) (force : Bool)
    (reached : Reaches step (· = .new) (InTime runner) s)
    (stopped : s.step (.own (.stop t runner force)) = some begun)
    (further : Reaches step (· = begun) (InTime runner) ended) : Reached runner t begun ended := by
  have sound : Sound runner s := by
    apply reached.invariant
    · rintro _ rfl
      exact new_sound runner
    · intro state call after _ sound inTime taken
      exact sound.step inTime.rested taken
  have both : Sound runner ended ∧ Stopping runner t (fun u => begun.threads.lookup u ≠ none) ended := by
    apply further.invariant
    · rintro _ rfl
      refine ⟨sound.step (fun starts => ?_) stopped, stop_stopping stopped⟩
      cases starts
    · intro state call after _ both inTime taken
      exact ⟨both.1.step inTime.rested taken, both.2.step both.1 inTime taken⟩
  intro returned finished pid group known mine live
  obtain ⟨u, todo, found, owns⟩ := both.1.custody.engaged known live
  rw [mine] at found
  -- Whoever owns the listener was started after the `Stop`, or has been reached by it.
  by_cases before : begun.threads.lookup u = none
  · exact .inr ⟨u, todo, before, found, owns⟩
  · left
    have alive : ended.manager.live pid = true := (Option.any_eq_true _ _).mpr ⟨group, known, live⟩
    rcases both.2.signalled _ returned rfl u todo before found pid owns alive with sent | target | ⟨caller, abort⟩
    · obtain ⟨same, looked, terminated⟩ := (Option.any_eq_true _ _).mp sent
      cases known.symm.trans looked
      exact terminated
    · cases target
    · exact absurd rfl (List.any_eq_false.mp (finished u todo before found) _ abort)

/-- A lifecycle that waits for its listener, of which a `Stop` that has returned nil has sent it nothing. -/
theorem unreached {begun ended : Standalone} {attempt : Nat}
    (threads : begun.threads.keys = {0, 1} ∧ ended.threads.keys = {0, 1})
    (returned : ended.threads.lookup 1 = some (.stop "a" (.returned none)))
    (serving : ended.threads.lookup 0 = some (.lifecycle "a" [.serve 1 attempt]))
    (listener : ended.manager.groups.lookup 1 = some (.launched "a")) : ¬Reached "a" 1 begun ended := by
  have lifecycle {u : ThreadID} {todo : List Section} (found : ended.threads.lookup u = some (.lifecycle "a" todo)) :
      u = 0 ∧ todo = [.serve 1 attempt] := by
    have key : u ∈ ended.threads.keys := Finmap.mem_keys.mpr (Finmap.lookup_isSome.mp (by simp [found]))
    rw [threads.2, Finset.mem_insert, Finset.mem_singleton] at key
    rcases key with rfl | rfl
    · cases serving.symm.trans found
      exact ⟨rfl, rfl⟩
    · cases returned.symm.trans found
  intro reached
  have finished (u : ThreadID) (todo : List Section) (_ : begun.threads.lookup u ≠ none)
      (found : ended.threads.lookup u = some (.lifecycle "a" todo)) : todo.any Section.launching = false := by
    cases (lifecycle found).2
    rfl
  rcases reached returned finished 1 _ listener rfl rfl with terminated | ⟨u, todo, later, found, _⟩
  · cases terminated
  · cases (lifecycle found).1
    have key : 0 ∈ begun.threads.keys := by simp [threads.1]
    exact Finmap.lookup_eq_none.mp later (Finmap.mem_keys.mp key)

/-- A run with one `Stop` in it. -/
theorem stop_replayed {allowed : Standalone → Call → Prop} [∀ s call, Decidable (allowed s call)]
    {shows : Standalone → Standalone → Standalone → Prop} [∀ s begun ended, Decidable (shows s begun ended)]
    (force : Bool) (earlier later : List Call)
    (played : ((replay step allowed .new earlier).any fun s => (s.step (.own (.stop 1 "a" force))).any fun begun =>
      (replay step allowed begun later).any fun ended => decide (shows s begun ended)) = true) :
    ∃ s begun ended, Reaches step (· = .new) allowed s ∧ s.step (.own (.stop 1 "a" force)) = some begun ∧
      Reaches step (· = begun) allowed ended ∧ shows s begun ended := by
  obtain ⟨s, first, rest⟩ := (Option.any_eq_true _ _).mp played
  obtain ⟨begun, stopped, rest⟩ := (Option.any_eq_true _ _).mp rest
  obtain ⟨ended, last, holds⟩ := (Option.any_eq_true _ _).mp rest
  exact ⟨s, begun, ended, Reaches.replay (.start rfl) first, stopped,
    Reaches.replay (.start rfl) last, of_decide_eq_true holds⟩

/-- A first listener that fails fast, up to the back-off. -/
def backingOff : List Call :=
  onlineListener ++ .own (.exit 1 (.error "exit status 1")) :: List.replicate 6 (advances 0 1)

/-- A `Stop` in front of a section, whose lifecycle it then misses. -/
def Misses (head : Section) : Prop := ∃ s begun ended, Reaches step (· = .new) everyStep s ∧
  s.step (.own (.stop 1 "a" false)) = some begun ∧ Reaches step (· = begun) everyStep ended ∧
  s.threads.lookup 0 = some (.lifecycle "a" [head]) ∧ ¬Reached "a" 1 begun ended

theorem misses (attempt : Nat) (head : Section) (earlier later : List Call)
    (played : ((replay step everyStep .new earlier).any fun s =>
      (s.step (.own (.stop 1 "a" false))).any fun begun =>
        (replay step everyStep begun later).any fun ended =>
          decide (s.threads.lookup 0 = some (.lifecycle "a" [head]) ∧
            (begun.threads.keys = {0, 1} ∧ ended.threads.keys = {0, 1}) ∧
            ended.threads.lookup 1 = some (.stop "a" (.returned none)) ∧
            ended.threads.lookup 0 = some (.lifecycle "a" [.serve 1 attempt]) ∧
            ended.manager.groups.lookup 1 = some (.launched "a"))) = true) : Misses head := by
  obtain ⟨s, begun, ended, first, stopped, last, found, threads, returned, serving, listener⟩ :=
    stop_replayed false earlier later played
  exact ⟨s, begun, ended, first, stopped, last, found, unreached threads returned serving listener⟩

/-- A `Stop` is too late for a launch before its process is recorded, in a start and
in a retry whose timer has fired, and a back-off may take its timer after the `Stop`. -/
theorem stop_misses : Misses (.spawn (.launch 0)) ∧ Misses (.spawn (.retry 0 (some 1))) ∧
    Misses (.backoff 2 0 (some 1)) := by
  refine ⟨?_, ?_, ?_⟩
  · refine misses 0 _ (.own (.start 0 "a") :: List.replicate 2 (advances 0 1))
      (advances 1 1 :: List.replicate 4 (advances 0 1)) ?_
    decide
  · refine misses 1 _ (backingOff ++ [advances 0 1]) (advances 1 1 :: List.replicate 4 (advances 0 1)) ?_
    decide
  · refine misses 1 _ backingOff (advances 1 1 :: List.replicate 5 (advances 0 1)) ?_
    decide

/-- A forced `Stop` of an Online runner, which is then started anew. -/
theorem stop_reaches_forced : ∃ s begun ended, Reaches step (· = .new) (InTime "a") s ∧
    s.step (.own (.stop 1 "a" true)) = some begun ∧ Reaches step (· = begun) (InTime "a") ended ∧
    (ended.threads.lookup 1 = some (.stop "a" (.returned none)) ∧ ended.threads.lookup 0 = some (.lifecycle "a" []) ∧
      ended.manager.live 1 = true) ∧ Reached "a" 1 begun ended := by
  obtain ⟨s, begun, ended, first, stopped, last, shape⟩ : ∃ s begun ended,
      Reaches step (· = .new) (InTime "a") s ∧ s.step (.own (.stop 1 "a" true)) = some begun ∧
      Reaches step (· = begun) (InTime "a") ended ∧
      ended.threads.lookup 1 = some (.stop "a" (.returned none)) ∧
      ended.threads.lookup 0 = some (.lifecycle "a" []) ∧ ended.manager.live 1 = true := by
    refine stop_replayed true onlineListener (List.replicate 2 (advances 1 1) ++ List.replicate 6 (advances 0 1) ++
      .own (.start 2 "a") :: List.replicate 6 (advances 2 1)) ?_
    decide
  exact ⟨s, begun, ended, first, stopped, last, shape, stop_reaches "a" s begun ended 1 true first stopped last⟩

end Standalone

end RunnersMux
