import RunnersMux.Foundations.Transitions
import RunnersMux.Mux.Multiplexer
import RunnersMux.Orchestrator.Recovery

/-! The pause flag and the capacity.

Whoever changes the number of assigned workers goes on to evaluate the capacity,
so the flag is right or an evaluation is still owed. Two changes owe none:
`recoverState` and `UpdateSettings`.
-/

set_option autoImplicit false

namespace RunnersMux

open Foundations

/-- A call that still has to pass `evaluateCapacity`. -/
def Goroutine.evaluates : Goroutine → Bool
  | .boot .evaluating | .allocate _ (.registered _) | .allocate _ (.marked _) => true
  | .death .evaluating | .abort (.evaluating _) => true
  | _ => false

/-- The flag says whether the limit is reached. -/
def Orchestrator.Follows (o : Orchestrator) : Prop := o.isPaused = true ↔ o.maxWorkers ≤ o.totalAssigned

instance (o : Orchestrator) : Decidable o.Follows := inferInstanceAs (Decidable (_ ↔ _))

namespace Orchestrator

/-- `a` and `b` agree on what an evaluation reads and writes. -/
structure SameCapacity (a b : Orchestrator) : Prop where
  listeners : b.activeListeners = a.activeListeners
  limit : b.maxWorkers = a.maxWorkers
  flag : b.isPaused = a.isPaused

theorem SameCapacity.follows {a b : Orchestrator} (same : SameCapacity a b) (follows : a.Follows) : b.Follows := by
  unfold Follows totalAssigned at follows ⊢
  rw [same.listeners, same.limit, same.flag]
  exact follows

/-- Whatever the pauser is asked to do, an evaluation sets the flag right. -/
theorem evaluateCapacity_follows {Managers Outcome : Type} (pauser : GlobalPauser Managers Outcome)
    (outcome : Outcome) (o : Orchestrator) (managers : Managers) :
    (o.evaluateCapacity pauser outcome managers).1.Follows := by
  unfold evaluateCapacity
  split
  · next reached => exact ⟨fun _ => reached.1, fun _ => rfl⟩
  · next unreached =>
      split
      · next freed => exact ⟨nofun, fun reached => absurd reached (Int.not_le.mpr freed.1)⟩
      · next kept =>
          constructor
          · intro paused
            exact Int.not_lt.mp fun freed => kept ⟨freed, paused⟩
          · intro reached
            cases paused : o.isPaused with
            | true => rfl
            | false => exact absurd ⟨reached, paused⟩ unreached

end Orchestrator

namespace System

section
variable {Managers Event Outcome : Type} {state between : System Managers}

/-- Some call still has to pass `evaluateCapacity`. -/
def Owed (state : System Managers) : Prop :=
  ∃ g goroutine, state.goroutines.lookup g = some goroutine ∧ goroutine.evaluates = true

instance : Decidable state.Owed := inferInstanceAs (Decidable (∃ _ _, _ ∧ _))

/-- The flag is right, or will be. -/
def Tracked (state : System Managers) : Prop := state.orchestrator.Follows ∨ state.Owed

instance : Decidable state.Tracked := inferInstanceAs (Decidable (_ ∨ _))

theorem Owed.resume {g : GoroutineID} {new : Goroutine} (owed : state.Owed)
    (same : between.goroutines = state.goroutines)
    (keeps : ∀ old, state.goroutines.lookup g = some old → old.evaluates = true → new.evaluates = true) :
    (between.resume g new).Owed := by
  obtain ⟨other, goroutine, found, evaluates⟩ := owed
  by_cases mine : other = g
  · subst mine
    exact ⟨other, new, Finmap.lookup_insert _, keeps goroutine found evaluates⟩
  · refine ⟨other, goroutine, ?_, evaluates⟩
    rw [resume_goroutines, same, Finmap.lookup_insert_of_ne _ mine]
    exact found

theorem owed_resume {g : GoroutineID} {new : Goroutine} (evaluates : new.evaluates = true) :
    (between.resume g new).Owed :=
  ⟨g, new, Finmap.lookup_insert _, evaluates⟩

theorem Picked.capacity {o after : Orchestrator} {phase : AllocatePhase} (picked : Picked o after phase) :
    o.SameCapacity after := by
  cases picked with
  | claim found => exact ⟨rfl, rfl, rfl⟩
  | wait empty => exact ⟨rfl, rfl, rfl⟩

/-- The reaping of a container changes the counts only if an evaluation follows. -/
theorem Reaped.capacity {reporter : StatusReporter Managers} {id : ContainerID} {changed : Bool}
    (reaped : Reaped reporter state id between changed) : between.goroutines = state.goroutines ∧
      (changed = true ∨ state.orchestrator.SameCapacity between.orchestrator) := by
  cases reaped with
  | active found => exact ⟨rfl, .inl rfl⟩
  | warm absent found => exact ⟨rfl, .inr ⟨rfl, rfl, rfl⟩⟩
  | unknown absent missing => exact ⟨rfl, .inr ⟨rfl, rfl, rfl⟩⟩

/-- A new limit lies on the side of the old one, or an evaluation will see it. -/
def staysInStep (state : System Managers) (action : Action Event Outcome) : Prop :=
  ∀ settings ∈ action.settings,
    (state.orchestrator.isPaused = true ↔ settings.1 ≤ state.orchestrator.totalAssigned) ∨ state.Owed

instance (action : Action Event Outcome) : Decidable (staysInStep state action) :=
  inferInstanceAs (Decidable (∀ settings ∈ action.settings, _ ∨ _))

/-- A step other than an evaluation ends no call that owes one, and after a change
of the counts one is owed. -/
theorem effect_owes (interfaces : Interfaces Managers Event Outcome) {after : System Managers}
    {action : Action Event Outcome} (effect : Effect interfaces state action after)
    (other : ∀ g outcome, action ≠ .evaluate g outcome) :
    (state.Owed → after.Owed) ∧
      (after.Owed ∨ action.settings ≠ none ∨ state.orchestrator.SameCapacity after.orchestrator) := by
  -- Most sections neither change the capacity nor end a call that owes an evaluation.
  have idle {g : GoroutineID} {old new : Goroutine} (found : state.goroutines.lookup g = some old)
      (quiet : old.evaluates = false) {between : System Managers} (same : between.goroutines = state.goroutines)
      (capacity : state.orchestrator.SameCapacity between.orchestrator) :
      (state.Owed → (between.resume g new).Owed) ∧ ((between.resume g new).Owed ∨ action.settings ≠ none ∨
        state.orchestrator.SameCapacity (between.resume g new).orchestrator) := by
    refine ⟨fun owed => owed.resume same ?_, .inr (.inr capacity)⟩
    intro other here evaluates
    cases found.symm.trans here
    cases quiet.symm.trans evaluates
  have begun {g : GoroutineID} {new : Goroutine} (fresh : state.goroutines.lookup g = none)
      {between : System Managers} (same : between.goroutines = state.goroutines)
      (capacity : state.orchestrator.SameCapacity between.orchestrator) :
      (state.Owed → (between.resume g new).Owed) ∧ ((between.resume g new).Owed ∨ action.settings ≠ none ∨
        state.orchestrator.SameCapacity (between.resume g new).orchestrator) := by
    refine ⟨fun owed => owed.resume same ?_, .inr (.inr capacity)⟩
    intro other here _
    cases fresh.symm.trans here
  have owes {g : GoroutineID} {new : Goroutine} (evaluates : new.evaluates = true) (between : System Managers) :
      (state.Owed → (between.resume g new).Owed) ∧ ((between.resume g new).Owed ∨ action.settings ≠ none ∨
        state.orchestrator.SameCapacity (between.resume g new).orchestrator) :=
    ⟨fun _ => owed_resume evaluates, .inl (owed_resume evaluates)⟩
  cases effect with
  | poolLock | poolBlock | setStatusReporter | managers => exact ⟨id, .inr (.inr ⟨rfl, rfl, rfl⟩)⟩
  | poolBoot held short full fresh => exact begun fresh rfl ⟨rfl, rfl, rfl⟩
  | bootCreate found | bootCreateFail found | bootInspect found | bootPool found | bootGiveUp found
  | bootAlive found | bootDead found | cancel found | renameFail found | checkAlive found | checkDead found =>
      exact idle found rfl rfl ⟨rfl, rfl, rfl⟩
  | bootInspectFail found | discard found | kill found =>
      refine idle found rfl (remove_goroutines ..) ?_
      rw [remove_orchestrator]
      exact ⟨rfl, rfl, rfl⟩
  | rename found =>
      refine idle found rfl (containerRename_goroutines ..) ?_
      rw [containerRename_orchestrator]
      exact ⟨rfl, rfl, rfl⟩
  | @bootDeath g worker between changed found free reaped =>
      obtain ⟨goroutines, rfl | capacity⟩ := reaped.capacity
      · exact owes rfl _
      · exact idle found rfl goroutines capacity
  | bootBroadcast found free =>
      rcases found with found | found <;> exact idle found rfl rfl ⟨rfl, rfl, rfl⟩
  | allocate fresh free picked =>
      have capacity := picked.capacity
      exact begun fresh rfl ⟨capacity.listeners, capacity.limit, capacity.flag⟩
  | wake found closed free picked => exact idle found rfl rfl picked.capacity
  | retry found free picked =>
      have capacity := picked.capacity
      exact idle found rfl rfl ⟨capacity.listeners, capacity.limit, capacity.flag⟩
  | register found free => exact owes rfl _
  | markBusy found => exact owes rfl _
  | dieEvent known dead fresh free reaped =>
      obtain ⟨goroutines, rfl | capacity⟩ := reaped.capacity
      · exact owes rfl _
      · exact begun fresh goroutines capacity
  | abortActive found fresh free => exact owes rfl _
  | abortUnknown absent fresh free => exact owes rfl _
  | evaluate found goes free => exact absurd rfl (other _ _)
  | updateSettings free => exact ⟨id, .inr (.inl nofun)⟩
  | die alive =>
      unfold Owed
      rw [stop_orchestrator, stop_goroutines]
      exact ⟨id, .inr (.inr ⟨rfl, rfl, rfl⟩)⟩

theorem tracked_step (interfaces : Interfaces Managers Event Outcome) {after : System Managers}
    {action : Action Event Outcome} (tracked : state.Tracked) (inStep : staysInStep state action)
    (effect : Effect interfaces state action after) : after.Tracked := by
  by_cases evaluation : ∃ g outcome, action = .evaluate g outcome
  · obtain ⟨g, outcome, rfl⟩ := evaluation
    cases effect with
    | evaluate found goes free =>
        exact .inl (Orchestrator.evaluateCapacity_follows _ _ state.orchestrator state.managers)
  · have other (g : GoroutineID) (outcome : Outcome) (same : action = .evaluate g outcome) : False :=
      evaluation ⟨g, outcome, same⟩
    obtain ⟨owes, later | changed | same⟩ := effect_owes interfaces effect other
    · exact .inr later
    · cases effect with
      | updateSettings free => exact inStep _ rfl
      | _ => exact absurd rfl changed
    · exact tracked.imp same.follows owes

end

/-- Only an evaluation makes a call that moves the pause. -/
theorem standaloneCall_pause {state : System Multiplexer} {action : Action ManagerEvent (Finset Pid)} {call : Call}
    (made : call ∈ state.standaloneCall action) (other : ∀ g outcome, action ≠ .evaluate g outcome)
    (before : Bool) : call.pause before = before := by
  rcases standaloneCall_cases made with ⟨event, _, rfl⟩ | ⟨runner, rfl⟩ | ⟨runner, rfl⟩ | ⟨g, outcome, same⟩
  · rfl
  · rfl
  · rfl
  · exact absurd same (other g outcome)

/-- The pauser and the orchestrator agree on the pause. -/
def Agreed (state : System Multiplexer) : Prop :=
  state.managers.standalone.manager.globalPaused = state.orchestrator.isPaused

instance (state : System Multiplexer) : Decidable state.Agreed := inferInstanceAs (Decidable (_ = _))

theorem effect_flag {Managers Event Outcome : Type} {interfaces : Interfaces Managers Event Outcome}
    {state after : System Managers} {action : Action Event Outcome} (effect : Effect interfaces state action after)
    (other : ∀ g outcome, action ≠ .evaluate g outcome) :
    after.orchestrator.isPaused = state.orchestrator.isPaused := by
  cases effect with
  | evaluate found goes free => exact absurd rfl (other _ _)
  | bootInspectFail found | discard found | kill found =>
      exact congrArg Orchestrator.isPaused (remove_orchestrator _ _ _)
  | die alive => exact congrArg Orchestrator.isPaused (stop_orchestrator _ _)
  | rename found => exact congrArg Orchestrator.isPaused (containerRename_orchestrator _ _ _)
  | bootDeath found free reaped => cases reaped <;> rfl
  | dieEvent known dead fresh free reaped => cases reaped <;> rfl
  | allocate fresh free picked => cases picked <;> rfl
  | wake found closed free picked => cases picked <;> rfl
  | retry found free picked => cases picked <;> rfl
  | _ => rfl

theorem agreed_step {state after : System Multiplexer} {action : Action ManagerEvent (Finset Pid)}
    (agreed : state.Agreed) (effect : Effect Multiplexer.interfaces state action after) : after.Agreed := by
  by_cases evaluation : ∃ g outcome, action = .evaluate g outcome
  · obtain ⟨g, outcome, rfl⟩ := evaluation
    cases effect with
    | evaluate found goes free =>
        unfold Agreed at agreed ⊢
        rw [resume_managers, resume_orchestrator]
        unfold evaluateCapacity Orchestrator.evaluateCapacity
        dsimp only
        split
        · rfl
        · split
          · rfl
          · exact agreed
  · have other (g : GoroutineID) (outcome : Finset Pid) : action ≠ .evaluate g outcome := by
      rintro rfl
      exact evaluation ⟨g, outcome, rfl⟩
    have calls := effect_calls effect
    have flag := effect_flag effect other
    unfold Agreed at agreed ⊢
    unfold Calls at calls
    split at calls
    · next call made =>
        rw [flag, ← agreed, Standalone.step_pause calls]
        exact standaloneCall_pause made other _
    · rw [calls, flag]
      exact agreed

end System

/-- A container that `recoverState` counts for a runner. -/
def ListedContainer.assigned (container : ListedContainer) : Bool :=
  container.state = "running" ∧ hasPrefix (trimPrefix (container.names.headD "") "/") namePrefixActive = true

namespace Orchestrator

theorem totalAssigned_register (o : Orchestrator) (runner : RunnerName) (candidate : WarmWorker) :
    (o.register runner candidate).totalAssigned = o.totalAssigned + 1 := by
  unfold totalAssigned register getActiveCount
  rw [Map.weigh_insert]
  cases o.activeListeners.lookup runner with
  | none => simp
  | some count =>
      simp only [Option.getD_some, Map.found_some]
      omega

theorem recoverContainer_assigned (o : Orchestrator) (container : ListedContainer) :
    (o.recoverContainer container).totalAssigned = o.totalAssigned + if container.assigned then 1 else 0 := by
  unfold recoverContainer
  by_cases up : container.state = "running"
  · rw [if_neg (not_not.mpr up)]
    dsimp only
    by_cases active : hasPrefix (trimPrefix (container.names.headD "") "/") namePrefixActive = true
    · have counted : container.assigned = true := decide_eq_true ⟨up, active⟩
      rw [if_pos active, counted]
      exact o.totalAssigned_register _ _
    · have passed : container.assigned = false := decide_eq_false fun both => active both.2
      rw [if_neg active, passed]
      split <;> exact (Int.add_zero _).symm
  · have passed : container.assigned = false := decide_eq_false fun both => up both.1
    rw [if_pos up, passed]
    exact (Int.add_zero _).symm

/-- Recovery assigns one worker for every running container with an active name. -/
theorem recoverState_assigned (o : Orchestrator) (listing : List ListedContainer) :
    (o.recoverState (some listing)).totalAssigned = o.totalAssigned + listing.countP (·.assigned) := by
  change (listing.foldl recoverContainer o).totalAssigned = _
  induction listing generalizing o with
  | nil => exact (Int.add_zero _).symm
  | cons container rest ih =>
      rw [List.foldl_cons, ih, recoverContainer_assigned, List.countP_cons]
      push_cast
      omega

end Orchestrator

namespace System

/-- Start states in which the recovered active containers are below the limit. -/
def StartedBelow (maxWorkers warmWorkers : Int) (managers : Multiplexer) (state : System Multiplexer) : Prop :=
  ∃ docker listing, (∀ containers, listing = some containers → Lists docker containers) ∧
    ((listing.getD []).countP (·.assigned) : Int) < maxWorkers ∧
    state = booted maxWorkers warmWorkers docker listing managers

theorem follows_booted {maxWorkers warmWorkers : Int} {managers : Multiplexer} {state : System Multiplexer}
    (started : StartedBelow maxWorkers warmWorkers managers state) : state.orchestrator.Follows := by
  obtain ⟨docker, listing, _, below, rfl⟩ := started
  obtain ⟨warm, active, listeners, recovered⟩ :=
    (Orchestrator.newOrchestrator maxWorkers warmWorkers).recoverState_frame listing
  have assigned : ((Orchestrator.newOrchestrator maxWorkers warmWorkers).recoverState listing).totalAssigned =
      ((listing.getD []).countP (·.assigned) : Int) := by
    cases listing with
    | none => rfl
    | some containers =>
        rw [Orchestrator.recoverState_assigned]
        exact Int.zero_add _
  change Orchestrator.Follows ((Orchestrator.newOrchestrator maxWorkers warmWorkers).recoverState listing)
  unfold Orchestrator.Follows
  rw [assigned, recovered]
  exact ⟨nofun, fun reached => absurd reached (Int.not_le.mpr below)⟩

/-- If neither the recovery nor a change of settings crosses the limit, the flag
follows the capacity whenever no evaluation is owed, and the pauser the flag. -/
theorem pause_follows_capacity (maxWorkers warmWorkers : Int) (state : System Multiplexer)
    (reached : Reaches (step Multiplexer.interfaces) (StartedBelow maxWorkers warmWorkers .new) staysInStep state)
    (quiet : ¬state.Owed) : state.orchestrator.Follows ∧ state.Agreed := by
  have both : state.Tracked ∧ state.Agreed := by
    apply reached.invariant
    · intro start started
      refine ⟨.inl (follows_booted started), ?_⟩
      obtain ⟨docker, listing, _, _, rfl⟩ := started
      obtain ⟨warm, active, listeners, recovered⟩ :=
        (Orchestrator.newOrchestrator maxWorkers warmWorkers).recoverState_frame listing
      change false = ((Orchestrator.newOrchestrator maxWorkers warmWorkers).recoverState listing).isPaused
      rw [recovered]
      rfl
    · intro earlier action after _ ⟨tracked, agreed⟩ inStep taken
      have effect := step_effect Multiplexer.interfaces taken
      exact ⟨tracked_step _ tracked inStep effect, agreed_step agreed effect⟩
  exact ⟨both.1.resolve_right quiet, both.2⟩

/-- A restart of the orchestrator with the given containers and managers. -/
def restarted (maxWorkers warmWorkers : Int) (managers : Multiplexer) (listing : List ListedContainer) :
    System Multiplexer :=
  booted maxWorkers warmWorkers
    (listing.foldl (fun docker container =>
      docker.insert container.id ⟨container.names.headD "", "", container.state = "running"⟩) ∅)
    (some listing) managers

/-- A restart finds a limit of one already used, and nothing pauses the listeners. -/
theorem pause_missing_after_recovery : ∃ state : System Multiplexer,
    Reaches (step Multiplexer.interfaces) (Started 1 0 .new) everyStep state ∧
    ¬state.Owed ∧ ¬(state.orchestrator.Follows ∧ state.Agreed) := by
  refine ⟨restarted 1 0 .new [⟨"c1", ["/github-mux-active-r-1"], "running", []⟩], .start ⟨_, _, ?_, rfl⟩, ?_⟩
  · rintro containers ⟨⟩
    exact ⟨by decide, by decide⟩
  · decide

/-- The pause begins with the job of the only worker and ends with it. -/
theorem pause_follows_one_job : ∃ state : System Multiplexer,
    (state.orchestrator.totalAssigned = 1 ∧ state.orchestrator.isPaused = true) ∧
    state.orchestrator.Follows ∧ state.Agreed := by
  obtain ⟨state, reached, quiet, shape⟩ : ∃ state, Reaches (step Multiplexer.interfaces)
      (StartedBelow 1 0 .new) staysInStep state ∧ ¬state.Owed ∧
      state.orchestrator.totalAssigned = 1 ∧ state.orchestrator.isPaused = true := by
    have begins : StartedBelow 1 0 .new (restarted 1 0 .new [⟨"c1", ["/github-mux-warm-1"], "running", []⟩]) := by
      refine ⟨_, _, ?_, ?_, rfl⟩
      · rintro containers ⟨⟩
        exact ⟨by decide, by decide⟩
      · decide
    apply Reaches.of_replay begins [.allocate 0 "r" (some "c1"), .rename 0 none, .check 0 true,
      .register 0, .markBusy 0, .evaluate 0 ∅]
    decide
  exact ⟨state, shape, pause_follows_capacity 1 0 state reached quiet⟩

end System

end RunnersMux
