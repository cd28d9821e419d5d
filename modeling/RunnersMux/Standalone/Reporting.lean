import RunnersMux.Standalone.Custody

/-! What the recorded state of a runner says about its listener.

The wait goroutine drops the answers of its transitions. `Fits` annotates each
list of sections with what the entry has to say while it is left to run; it
holds along a run in which the entry takes the transitions that report a
listener as gone.
-/

set_option autoImplicit false

namespace RunnersMux

open Foundations

namespace RunnerState

/-- The goals by which a lifecycle says that its listener is gone. -/
def gone : RunnerState → Bool
  | .registering | .offline | .failed => true
  | _ => false

/-- The entry makes the transition, or says as much already: a retry of a
draining runner is not Registering. -/
def takes (state goal : RunnerState) : Bool :=
  goal ∈ validTransitions state || state = goal || (state = .draining && goal = .registering)

/-- What a transition that is taken leaves. -/
def lands (goal state : RunnerState) : Bool :=
  match goal with
  | .registering => state = .registering || state = .draining
  | .offline | .failed => state.down
  | _ => true

/-- A listener is said to be there. -/
def serving : RunnerState → Bool
  | .online | .busy | .paused => true
  | _ => false

/-- Where others than the lifecycle move a state. -/
def Drifts (state other : RunnerState) : Prop :=
  other = state ∨ state.down = false ∧ other = .draining ∨ state.serving = true ∧ other.serving = true

theorem Drifts.refl (state : RunnerState) : Drifts state state := .inl rfl

theorem takes_lands (state goal : RunnerState) (taken : goal.gone = true → state.takes goal = true) :
    goal.lands (if goal ∈ validTransitions state then goal else state) = true := by
  revert taken
  cases goal <;> cases state <;> decide

end RunnerState

namespace Section

def fails : Section → Bool
  | .fail _ _ => true
  | _ => false

end Section

/-- What the entry at an address has to say while a lifecycle is left with some
sections: that it is down when none is left, and Registering or Draining during
a back-off. -/
def Fits (address : Nat) : List Section → RunnerState → Prop
  | [], state => state.down = true
  -- A launch that fails writes the state after its transition, whatever that does.
  | .transition goal :: rest, _ =>
      ∀ state, (rest.any Section.fails = false → goal.lands state = true) → Fits address rest state
  | .setError _ :: rest, state | .forget _ :: rest, state | .arm _ _ :: rest, state | .disarm _ :: rest, state =>
      Fits address rest state
  | .fail entry _ :: rest, _ => entry = address ∧ Fits address rest .failed
  | .backoff _ _ _ :: rest, state => (state = .registering ∨ state = .draining) ∧ rest = []
  | .initializeEnvironment entry :: rest, _ | .store entry :: rest, _ => entry = address ∧ rest = []
  | .spawn (.launch entry) :: rest, _ | .record (.launch entry) _ :: rest, _ | .abort (.launch entry) _ :: rest, _ =>
      entry = address ∧ rest = []
  | .spawn _ :: rest, _ | .record _ _ :: rest, _ | .abort _ _ :: rest, _ | .serve _ _ :: rest, _
  | .exited _ _ _ :: rest, _ | .decide _ _ _ _ :: rest, _ => rest = []

section
variable {address : Nat} {todo : List Section} {state other : RunnerState}

theorem Fits.drifts (fits : Fits address todo state) (drifts : state.Drifts other) : Fits address todo other := by
  induction todo with
  | nil =>
      rcases drifts with rfl | ⟨up, _⟩ | ⟨serving, _⟩
      · exact fits
      · cases up.symm.trans fits
      · have down : state.down = true := fits
        cases state <;> simp [RunnerState.down, RunnerState.serving] at down serving
  | cons head rest ih =>
      cases head with
      | setError | forget | arm | disarm => exact ih fits
      | backoff =>
          refine ⟨?_, fits.2⟩
          rcases drifts with rfl | ⟨_, same⟩ | ⟨serving, _⟩
          · exact fits.1
          · exact .inr same
          · rcases fits.1 with rfl | rfl <;> cases serving
      | spawn caller | record caller | abort caller => cases caller <;> exact fits
      | _ => exact fits

theorem fits_failure {caller : Caller} (mine : ∀ entry, caller = .launch entry → entry = address) (text : String) :
    Fits address (caller.failure text) state := by
  cases caller with
  | launch entry =>
      intro after _
      exact ⟨mine entry rfl, rfl⟩
  | retry attempt data =>
      intro after lands
      exact lands rfl

theorem fits_caller {caller : Caller} {pid : Pid} {rest : List Section} {head : Section}
    (calls : head = .spawn caller ∨ head = .record caller pid ∨ head = .abort caller pid) :
    Fits address (head :: rest) state ↔ (∀ entry, caller = .launch entry → entry = address) ∧ rest = [] := by
  rcases calls with rfl | rfl | rfl <;> cases caller <;> simp [Fits]

end

section
variable {m after : StandaloneManager} {runner : RunnerName} {answer : Answer} {head : Section}
  {todo rest : List Section} {entry : ProcessState}

/-- A section of the runner's own lifecycle, in terms of its entry. -/
theorem Fits.performs (fits : Fits entry.address (head :: rest) entry.state)
    (performed : m.perform runner answer head = some (after, todo))
    (known : m.processes.lookup runner = some entry)
    (taken : ∀ goal, head = .transition goal → rest.any Section.fails = false → goal.gone = true →
      entry.state.takes goal = true) :
    ∃ moved, after.processes.lookup runner = some moved ∧ moved.address = entry.address ∧
      Fits moved.address (todo ++ rest) moved.state := by
  -- What follows a section that leaves others in its place is nothing.
  have goes (todo : List Section) (same : after.processes = m.processes) (none_ : rest = [])
      (next : Fits entry.address todo entry.state) : ∃ moved, after.processes.lookup runner = some moved ∧
        moved.address = entry.address ∧ Fits moved.address (todo ++ rest) moved.state := by
    refine ⟨entry, by rw [same, known], rfl, ?_⟩
    rw [none_, List.append_nil]
    exact next
  have mine (caller : Caller) (pid : Pid)
      (calls : head = .spawn caller ∨ head = .record caller pid ∨ head = .abort caller pid) :=
    (fits_caller calls).mp fits
  cases perform_performs performed with
  | prepareFail failed => exact goes _ rfl fits.2 ⟨fits.1, rfl⟩
  | prepare clean => exact goes _ rfl fits.2 ⟨fits.1, rfl⟩
  | store => exact goes _ rfl fits.2 ⟨fits.1, rfl⟩
  | @spawnFail caller text failed =>
      have ⟨own, none_⟩ := mine caller 0 (.inl rfl)
      exact goes _ rfl none_ (fits_failure own text)
  | @spawn caller clean nonzero free =>
      have ⟨own, none_⟩ := mine caller 0 (.inl rfl)
      exact goes _ rfl none_ ((fits_caller (.inr (.inl rfl))).mpr ⟨own, rfl⟩)
  | @record caller pid _ _ records =>
      have ⟨own, none_⟩ := mine caller pid (.inr (.inl rfl))
      cases records with
      | cancelled => exact goes _ rfl none_ ((fits_caller (.inr (.inr rfl))).mpr ⟨own, rfl⟩)
      | _ => exact goes _ rfl none_ fun state _ => rfl
  | @abort caller pid =>
      have ⟨own, none_⟩ := mine caller pid (.inr (.inr rfl))
      exact goes _ rfl none_ (fits_failure own _)
  | @transition goal =>
      have moved := Processes.lookup_transitioned m.processes runner runner goal
      rw [if_pos rfl, known, Option.map_some] at moved
      refine ⟨_, moved, by split <;> rfl, ?_⟩
      have lands := RunnerState.takes_lands entry.state goal
      by_cases allowed : goal ∈ validTransitions entry.state
      · rw [if_pos allowed] at lands ⊢
        exact fits goal fun heard => lands (taken goal rfl heard)
      · rw [if_neg allowed] at lands ⊢
        exact fits entry.state fun heard => lands (taken goal rfl heard)
  | @setError text =>
      refine ⟨{ entry with error := text }, ?_, rfl, fits⟩
      change (m.processes.setError runner text).lookup runner = _
      rw [Processes.setError, Map.lookup_modify, if_pos rfl, known]
      rfl
  | @fail address text =>
      refine ⟨{ entry with state := .failed, error := text }, ?_, rfl, fits.2⟩
      change (m.processes.fail runner address text).lookup runner = _
      rw [Processes.fail, Map.lookup_modify, if_pos rfl, known, Option.map_some, if_pos fits.1.symm]
  | serve ended => exact goes _ rfl fits rfl
  | exited => exact goes _ rfl fits rfl
  | finish => exact goes _ rfl fits fun state lands => lands rfl
  | retry =>
      refine goes _ rfl fits fun state lands => ⟨?_, rfl⟩
      have either := lands rfl
      simp only [RunnerState.lands, Bool.or_eq_true, decide_eq_true_eq] at either
      exact either
  | giveUp => exact goes _ rfl fits fun state lands => lands rfl
  | forget | arm | disarm => exact ⟨entry, known, rfl, fits⟩
  | fire => exact goes _ rfl fits.2 rfl
  | cancel closed => exact goes _ rfl fits.2 fun state lands => lands rfl

end

namespace Processes

/-- A change that no lifecycle of the runner makes. -/
def Drifts (before after : Processes) (name : RunnerName) : Prop :=
  ∀ entry, before.lookup name = some entry → ∃ moved, after.lookup name = some moved ∧
    moved.address = entry.address ∧ entry.state.Drifts moved.state

theorem Drifts.same {processes after : Processes} {name : RunnerName}
    (looked : after.lookup name = processes.lookup name) : processes.Drifts after name := by
  intro entry known
  exact ⟨entry, looked.trans known, rfl, .refl _⟩

theorem drifts_modify {processes : Processes} {name runner : RunnerName} {change : ProcessState → ProcessState}
    (drifts : ∀ entry, (change entry).address = entry.address ∧ entry.state.Drifts (change entry).state) :
    processes.Drifts (processes.modify runner change) name := by
  intro entry known
  rw [Map.lookup_modify, known]
  split
  · exact ⟨_, rfl, drifts entry⟩
  · exact ⟨entry, rfl, rfl, .refl _⟩

theorem drifts_markBusy (processes : Processes) (name runner : RunnerName) :
    processes.Drifts (processes.markBusy runner) name := by
  apply drifts_modify
  intro entry
  refine ⟨rfl, ?_⟩
  unfold ProcessState.busy
  dsimp only
  split
  · next either => rcases either with online | paused <;> simp [RunnerState.Drifts, RunnerState.serving, *]
  · exact .refl _

theorem drifts_markIdle (processes : Processes) (name runner : RunnerName) {idleState : RunnerState}
    (serving : idleState.serving = true) : processes.Drifts (processes.markIdle runner idleState) name := by
  apply drifts_modify
  intro entry
  refine ⟨rfl, ?_⟩
  unfold ProcessState.idle
  dsimp only
  split
  · next both => exact .inr (.inr ⟨by simp [both.2, RunnerState.serving], serving⟩)
  · exact .refl _

theorem drifts_stop {processes after : Processes} {name runner : RunnerName}
    (stopped : processes.stop runner = .ok (some after)) : processes.Drifts after name := by
  have up := stop_up stopped
  obtain ⟨process, found, rfl⟩ := stop_ok stopped
  intro entry known
  rw [Map.lookup_insert_if]
  split
  · next same =>
      subst same
      cases found.symm.trans known
      rw [down_lookup, found] at up
      exact ⟨_, rfl, rfl, .inr (.inl ⟨up, rfl⟩)⟩
  · exact ⟨entry, known, rfl, .refl _⟩

end Processes

theorem StandaloneManager.drifts_sweep (m : StandaloneManager) (outcome : Finset Pid) {source goal : RunnerState}
    (sent : Signal) (spared : Finset RunnerName) (name : RunnerName) (from_ : source.serving = true)
    (serving : goal.serving = true) : m.processes.Drifts (m.sweep outcome source goal sent spared).processes name := by
  intro entry known
  refine ⟨_, (Map.lookup_mapValues _ _ _).trans (congrArg _ known), ?_, ?_⟩
  · dsimp only
    split <;> rfl
  · dsimp only
    split
    · next swept =>
        have state : entry.state = source := target_state known swept.2
        exact .inr (.inr ⟨by rw [state]; exact from_, serving⟩)
    · exact .refl _

namespace Standalone

/-- The transition by which the lifecycle of a runner is about to report that its
listener is gone, unless it will write the state itself. -/
def asks (s : Standalone) (runner : RunnerName) : Call → Option RunnerState
  | .own (.run t _) =>
      match s.threads.lookup t with
      | some (.lifecycle name (.transition goal :: rest)) =>
          if name = runner ∧ goal.gone = true ∧ rest.any Section.fails = false then some goal else none
      | _ => none
  | _ => none

def StartedOnce (runner : RunnerName) (s : Standalone) (call : Call) : Prop :=
  runner ∈ call.starts → s.manager.processes.getState runner = none

instance (runner : RunnerName) (s : Standalone) (call : Call) : Decidable (StartedOnce runner s call) :=
  inferInstanceAs (Decidable (_ → _))

/-- The runner is started once, and its entry takes every report of its lifecycle. -/
structure Heard (runner : RunnerName) (s : Standalone) (call : Call) : Prop where
  once : StartedOnce runner s call
  taken : ∀ goal ∈ s.asks runner call, ∀ state ∈ s.manager.processes.getState runner, state.takes goal = true

instance (runner : RunnerName) (s : Standalone) (call : Call) : Decidable (Heard runner s call) :=
  decidable_of_iff (_ ∧ _) ⟨fun both => ⟨both.1, both.2⟩, fun heard => ⟨heard.once, heard.taken⟩⟩

/-- The runner's one lifecycle, and an entry that fits it. -/
structure Told (runner : RunnerName) (s : Standalone) : Prop where
  single : ∀ t other todo others, s.threads.lookup t = some (.lifecycle runner todo) →
    s.threads.lookup other = some (.lifecycle runner others) → t = other
  fits : ∀ t todo, s.threads.lookup t = some (.lifecycle runner todo) →
    ∃ entry, s.manager.processes.lookup runner = some entry ∧ Fits entry.address todo entry.state
  begun : ∀ entry, s.manager.processes.lookup runner = some entry →
    ∃ t todo, s.threads.lookup t = some (.lifecycle runner todo)

variable {s after : Standalone} {runner : RunnerName}

theorem getState_none {processes : Processes} : processes.getState runner = none ↔ processes.lookup runner = none :=
  Option.map_eq_none_iff

theorem new_told (runner : RunnerName) : Told runner .new := by
  constructor
  · intro t other todo others found
    cases found
  · intro t todo found
    cases found
  · intro entry known
    cases known

/-- A step that is none of the runner's lifecycle. -/
theorem Told.drifts (told : Told runner s) (drifts : s.manager.processes.Drifts after.manager.processes runner)
    (absent : s.manager.processes.lookup runner = none → after.manager.processes.lookup runner = none)
    (threads : ∀ t todo, after.threads.lookup t = some (.lifecycle runner todo) ↔
      s.threads.lookup t = some (.lifecycle runner todo)) : Told runner after := by
  constructor
  · intro t other todo others one two
    exact told.single t other todo others ((threads _ _).mp one) ((threads _ _).mp two)
  · intro t todo found
    obtain ⟨entry, known, fits⟩ := told.fits t todo ((threads _ _).mp found)
    obtain ⟨moved, looked, same, drift⟩ := drifts entry known
    exact ⟨moved, looked, by rw [same]; exact fits.drifts drift⟩
  · intro entry known
    cases before : s.manager.processes.lookup runner with
    | none => cases (absent before).symm.trans known
    | some old =>
        obtain ⟨t, todo, found⟩ := told.begun old before
        exact ⟨t, todo, (threads _ _).mpr found⟩

theorem Told.performs {t : ThreadID} {name : RunnerName} {head : Section} {rest todo : List Section} {answer : Answer}
    {manager : StandaloneManager} (told : Told runner s) (heard : Heard runner s (.own (.run t answer)))
    (found : s.threads.lookup t = some (.lifecycle name (head :: rest)))
    (performed : s.manager.perform name answer head = some (manager, todo)) :
    Told runner (s.resume t (.lifecycle name (todo ++ rest)) manager) := by
  by_cases mine : name = runner
  · subst mine
    obtain ⟨entry, known, fits⟩ := told.fits t _ found
    obtain ⟨moved, looked, _, now⟩ := fits.performs performed known (by
      intro goal same silent gone
      refine heard.taken goal ?_ entry.state ?_
      · simp [asks, found, same, silent, gone]
      · simp [Processes.getState, known])
    have only (other : ThreadID) (others : List Section)
        (here : (s.resume t (.lifecycle name (todo ++ rest)) manager).threads.lookup other =
          some (.lifecycle name others)) : other = t := by
      rw [lookup_resume] at here
      split at here
      · next same => exact same
      · exact told.single other t others _ here found
    constructor
    · intro first second one others here also
      exact (only first one here).trans (only second others also).symm
    · intro other others here
      have same := only other others here
      rw [lookup_resume, if_pos same] at here
      cases here
      exact ⟨moved, looked, now⟩
    · intro _ _
      exact ⟨t, todo ++ rest, (lookup_resume t).trans (if_pos rfl)⟩
  · have same := ((perform_frame performed).2 runner (Ne.symm mine)).1
    apply told.drifts (.same same) (fun absent => same.trans absent)
    intro other others
    exact lookup_resume_other found mine

theorem Told.step {call : Call} (told : Told runner s) (heard : Heard runner s call)
    (taken : s.step call = some after) : Told runner after := by
  have modified (name : RunnerName) (change : ProcessState → ProcessState)
      (absent : s.manager.processes.lookup runner = none) :
      (s.manager.processes.modify name change).lookup runner = none := by
    rw [Map.lookup_modify, absent]
    simp
  have swept (change : RunnerName → ProcessState → ProcessState)
      (absent : s.manager.processes.lookup runner = none) :
      (s.manager.processes.mapValues change).lookup runner = none := by
    rw [Map.lookup_mapValues, absent]
    rfl
  cases call with
  | own event =>
      cases act_moves taken with
      | @start t name processes fresh started =>
          obtain ⟨_, rfl⟩ := Processes.start_ok started
          by_cases mine : name = runner
          · subst mine
            have absent := getState_none.mp (heard.once rfl)
            have none_ (other : ThreadID) (todo : List Section)
                (here : s.threads.lookup other = some (.lifecycle name todo)) : False := by
              obtain ⟨entry, known, _⟩ := told.fits other todo here
              cases absent.symm.trans known
            have only {manager : StandaloneManager} (other : ThreadID) (others : List Section) (here : (s.resume t
                (.lifecycle name [.initializeEnvironment s.manager.next]) manager).threads.lookup other =
                  some (.lifecycle name others)) :
                other = t ∧ others = [.initializeEnvironment s.manager.next] := by
              rw [lookup_resume] at here
              split at here
              · next same =>
                  cases here
                  exact ⟨same, rfl⟩
              · exact (none_ other others here).elim
            constructor
            · intro first second one others here also
              exact (only first one here).1.trans (only second others also).1.symm
            · intro other others here
              rw [(only other others here).2]
              exact ⟨_, Finmap.lookup_insert _, rfl, rfl⟩
            · intro _ _
              exact ⟨t, _, (lookup_resume t).trans (if_pos rfl)⟩
          · have same : (s.manager.processes.insert name ⟨s.manager.next, .registering, "", 0⟩).lookup runner =
                s.manager.processes.lookup runner := Finmap.lookup_insert_of_ne _ (Ne.symm mine)
            apply told.drifts (.same same) (fun absent => same.trans absent)
            intro other others
            rw [lookup_resume]
            split
            · next equal =>
                subst equal
                rw [fresh]
                simp [mine]
            · exact Iff.rfl
      | @stop t name force processes fresh stopped =>
          refine told.drifts (Processes.drifts_stop stopped) ?_ ?_
          · obtain ⟨process, known, rfl⟩ := Processes.stop_ok stopped
            intro absent
            change (s.manager.processes.insert name _).lookup runner = none
            rw [Map.lookup_insert_if, if_neg, absent]
            rintro rfl
            cases known.symm.trans absent
          · intro other others
            exact lookup_resume_stop (fun name todo found => by cases fresh.symm.trans found) other runner others
      | perform found performed => exact told.performs heard found performed
      | @advance t answer name phase next manager found advanced =>
          have same : manager.processes.lookup runner = s.manager.processes.lookup runner := by
            rw [(advance_frame advanced).1]
          refine told.drifts (.same same) (fun absent => same.trans absent) ?_
          intro other others
          exact lookup_resume_stop (fun name todo lifecycle => by cases found.symm.trans lifecycle) other runner others
      | exit alive => exact told.drifts (.same rfl) id fun _ _ => Iff.rfl
  | lockOthers outcome activeRunners =>
      cases taken
      exact told.drifts (s.manager.drifts_sweep outcome .stop activeRunners runner rfl rfl) (swept _) fun _ _ => Iff.rfl
  | unlockOthers outcome =>
      cases taken
      exact told.drifts (s.manager.drifts_sweep outcome .cont ∅ runner rfl rfl) (swept _) fun _ _ => Iff.rfl
  | markBusy name =>
      cases taken
      exact told.drifts (Processes.drifts_markBusy _ runner name) (modified name _) fun _ _ => Iff.rfl
  | markIdle name =>
      cases taken
      refine told.drifts (Processes.drifts_markIdle _ runner name ?_) (modified name _) fun _ _ => Iff.rfl
      split <;> rfl

/-- A wait goroutine that has returned does not run again. -/
theorem ended_step {call : Call} {t : ThreadID} (taken : s.step call = some after)
    (ended : s.threads.lookup t = some (.lifecycle runner [])) :
    after.threads.lookup t = some (.lifecycle runner []) := by
  have kept {u : ThreadID} {thread : Thread} {manager : StandaloneManager}
      (other : s.threads.lookup u ≠ some (.lifecycle runner [])) :
      (s.resume u thread manager).threads.lookup t = some (.lifecycle runner []) := by
    rw [lookup_resume, if_neg, ended]
    rintro rfl
    exact other ended
  cases call with
  | own event =>
      cases act_moves taken with
      | start fresh started | stop fresh stopped => exact kept (by simp [fresh])
      | perform found performed | advance found advanced => exact kept (by simp [found])
      | exit alive => exact ended
  | lockOthers | unlockOthers | markBusy | markIdle =>
      cases taken
      exact ended

/-- Nothing of the runner is between two sections: its lifecycle has returned,
waits for a live process, or backs off. -/
def rests (s : Standalone) (runner : RunnerName) : Thread → Bool
  | .lifecycle name todo => name != runner || match todo with
      | [] | [.backoff _ _ _] => true
      | [.serve pid _] => s.manager.live pid
      | _ => false
  | .stop _ _ => true

def AtRest (s : Standalone) (runner : RunnerName) : Prop :=
  ∀ t thread, s.threads.lookup t = some thread → s.rests runner thread = true

instance (s : Standalone) (runner : RunnerName) : Decidable (s.AtRest runner) :=
  inferInstanceAs (Decidable (∀ t thread, s.threads.lookup t = some thread → _))

/-- The recorded state and the listener. -/
structure Agrees (s : Standalone) (runner : RunnerName) : Prop where
  serving : s.AtRest runner → ∀ state, s.manager.processes.getState runner = some state → state.serving = true →
    ∃ pid group, s.manager.groups.lookup pid = some group ∧ group.live = true ∧ group.runner = runner
  backoff : ∀ t channel attempt data,
    s.threads.lookup t = some (.lifecycle runner [.backoff channel attempt data]) →
    s.manager.processes.getState runner = some .registering ∨ s.manager.processes.getState runner = some .draining
  returned : ∀ t, s.threads.lookup t = some (.lifecycle runner []) →
    s.manager.processes.getState runner = some .offline ∨ s.manager.processes.getState runner = some .failed

theorem Told.agrees (custody : Custody s) (told : Told runner s) : s.Agrees runner := by
  have stated {entry : ProcessState} (known : s.manager.processes.lookup runner = some entry) :
      s.manager.processes.getState runner = some entry.state := by
    unfold Processes.getState
    rw [known]
    rfl
  constructor
  · intro rest state reads serving
    obtain ⟨entry, known, same⟩ := Option.map_eq_some_iff.mp reads
    obtain ⟨t, todo, found⟩ := told.begun entry known
    obtain ⟨again, looked, fits⟩ := told.fits t todo found
    cases known.symm.trans looked
    have settled := rest t _ found
    simp only [rests, bne_self_eq_false, Bool.false_or] at settled
    split at settled
    · have down : entry.state.down = true := fits
      rw [same] at down
      cases state <;> simp [RunnerState.down, RunnerState.serving] at down serving
    · have either := fits.1
      rw [same] at either
      rcases either with rfl | rfl <;> cases serving
    · next pid attempt =>
        obtain ⟨group, there, _, owner⟩ := (custody.kept t runner _ found).unreaped pid List.mem_cons_self
        unfold StandaloneManager.live at settled
        rw [there] at settled
        exact ⟨pid, group, there, settled, owner⟩
    · cases settled
  · intro t channel attempt data found
    obtain ⟨entry, known, fits⟩ := told.fits t _ found
    rw [stated known]
    exact fits.1.imp (congrArg some) (congrArg some)
  · intro t found
    obtain ⟨entry, known, fits⟩ := told.fits t _ found
    rw [stated known]
    have down : entry.state.down = true := fits
    cases state : entry.state <;> simp [RunnerState.down, state] at down ⊢

theorem reached_told (reached : Reaches step (· = .new) (Heard runner) s) : Custody s ∧ Told runner s := by
  apply reached.invariant
  · rintro _ rfl
    exact ⟨new_custody, new_told runner⟩
  · intro state call after _ both heard taken
    exact ⟨both.1.step taken, both.2.step heard taken⟩

/-- As long as the entry of a runner takes the reports of its one lifecycle, it
agrees with the listener, and stays down once the lifecycle has returned. -/
theorem state_agrees (runner : RunnerName) (s : Standalone) (reached : Reaches step (· = .new) (Heard runner) s) :
    s.Agrees runner ∧ ∀ t, s.threads.lookup t = some (.lifecycle runner []) →
      ∀ last, Reaches step (· = s) (Heard runner) last →
        last.manager.processes.getState runner = some .offline ∨
          last.manager.processes.getState runner = some .failed := by
  have agrees {s : Standalone} (reached : Reaches step (· = .new) (Heard runner) s) : s.Agrees runner :=
    (reached_told reached).2.agrees (reached_told reached).1
  refine ⟨agrees reached, fun t ended last further => ?_⟩
  refine (agrees (reached.trans further)).returned t ?_
  apply further.invariant
  · rintro _ rfl
    exact ended
  · intro state call after _ still _ taken
    exact ended_step taken still

/-- A step of a lifecycle to which the world answers with a process, and that a
listener has lived shortly. -/
def advances (t : ThreadID) (pid : Pid) : Call := .own (.run t ⟨none, pid, true, ∅⟩)

/-- A start up to the listener's being waited for. -/
def onlineListener : List Call := .own (.start 0 "a") :: List.replicate 6 (advances 0 1)

/-- A listener that fails fast is retried under an Online entry, and one that ends
while its runner is Busy leaves it Busy for good, or Online after the job. -/
theorem reports_rejected :
    (∃ s, Reaches step (· = .new) (StartedOnce "a") s ∧ (s.AtRest "a" ∧ s.manager.live 1 = false ∧
      s.threads.lookup 0 = some (.lifecycle "a" [.backoff 2 0 (some 1)])) ∧
        s.manager.processes.getState "a" = some .online ∧ ¬s.Agrees "a") ∧
      ∃ s, Reaches step (· = .new) (StartedOnce "a") s ∧
        s.threads.lookup 0 = some (.lifecycle "a" []) ∧ s.manager.processes.getState "a" = some .online ∧
        ¬s.Agrees "a" := by
  constructor
  · obtain ⟨s, reached, shape, state⟩ : ∃ s, Reaches step (· = .new) (StartedOnce "a") s ∧
        (s.AtRest "a" ∧ s.manager.live 1 = false ∧
          s.threads.lookup 0 = some (.lifecycle "a" [.backoff 2 0 (some 1)])) ∧
        s.manager.processes.getState "a" = some .online := by
      refine Reaches.of_replay rfl (onlineListener ++ .own (.exit 1 (.error "exit status 1")) ::
        List.replicate 6 (advances 0 1)) ?_
      decide
    refine ⟨s, reached, shape, state, fun agrees => ?_⟩
    have either := agrees.backoff 0 2 0 (some 1) shape.2.2
    rw [state] at either
    simp at either
  · obtain ⟨s, reached, ended, state⟩ : ∃ s, Reaches step (· = .new) (StartedOnce "a") s ∧
        s.threads.lookup 0 = some (.lifecycle "a" []) ∧ s.manager.processes.getState "a" = some .online := by
      refine Reaches.of_replay rfl (onlineListener ++ .markBusy "a" :: .own (.exit 1 .clean) ::
        List.replicate 6 (advances 0 1) ++ [.markIdle "a"]) ?_
      decide
    refine ⟨s, reached, ended, state, fun agrees => ?_⟩
    have either := agrees.returned 0 ended
    rw [state] at either
    simp at either

/-- A listener that ends while its runner is Online leaves it Offline. -/
theorem state_agrees_clean_exit : ∃ s, Reaches step (· = .new) (Heard "a") s ∧
    s.threads.lookup 0 = some (.lifecycle "a" []) ∧ s.Agrees "a" ∧
    ∀ last, Reaches step (· = s) (Heard "a") last →
      last.manager.processes.getState "a" = some .offline ∨ last.manager.processes.getState "a" = some .failed := by
  obtain ⟨s, reached, ended⟩ : ∃ s, Reaches step (· = .new) (Heard "a") s ∧
      s.threads.lookup 0 = some (.lifecycle "a" []) := by
    refine Reaches.of_replay rfl (onlineListener ++ .own (.exit 1 .clean) :: List.replicate 6 (advances 0 1)) ?_
    decide
  have both := state_agrees "a" s reached
  exact ⟨s, reached, ended, both.1, both.2 0 ended⟩

end Standalone

end RunnersMux
