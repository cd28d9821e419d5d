import RunnersMux.Orchestrator.Assignment

/-! How often a container's job is counted.

`handleContainerDeath` counts a job when it takes the container out of
`activeWorkers`, and nothing puts it back: an ID that is counted is held by no
boot and no call. The count is one more summand next to the holders.
-/

set_option autoImplicit false

namespace RunnersMux

open Foundations

/-- The registration that a call of `AllocateWorker` has made. -/
def Goroutine.registered : Goroutine → Option (ContainerID × RunnerName)
  | .allocate runner (.registered candidate) | .allocate runner (.marked candidate)
  | .allocate runner (.returned candidate) => some (candidate.containerID, runner)
  | _ => none

namespace System

variable {Managers Event Outcome : Type}

/-- The container that a step passes to `handleContainerDeath`. -/
def handles (state : System Managers) : Action Event Outcome → Option ContainerID
  | .bootDeath g =>
      match state.goroutines.lookup g with
      | some (.boot (.dead worker)) => some worker.containerID
      | _ => none
  | .dieEvent _ id => some id
  | _ => none

/-- The call of `IncrementJobsCompleted` that a step issues. -/
def completes (state : System Managers) (action : Action Event Outcome) : Option (ContainerID × RunnerName) :=
  (state.handles action).bind fun id =>
    (state.orchestrator.activeWorkers.lookup id).map fun worker => (id, worker.runnerName)

/-- How many of the issued calls are for a container. -/
def issued (jobs : List (ContainerID × RunnerName)) (id : ContainerID) : Int := (jobs.map Prod.fst).count id

theorem issued_cons (jobs : List (ContainerID × RunnerName)) (key id : ContainerID) (runner : RunnerName) :
    issued ((key, runner) :: jobs) id = issued jobs id + mark id key := by
  unfold issued mark
  by_cases same : key = id <;> simp [same]

theorem issued_nonneg (jobs : List (ContainerID × RunnerName)) (id : ContainerID) : 0 ≤ issued jobs id :=
  Int.natCast_nonneg _

/-- A container before its registration, in `activeWorkers`, or counted. -/
def chances (state : System Managers) (id : ContainerID) : Int :=
  state.occupied id + state.orchestrator.activeAt id + issued state.jobsCompleted id

/-- A call has registered the container under the name, or recovery has. -/
def Registered (start state : System Managers) (id : ContainerID) (runner : RunnerName) : Prop :=
  (start.orchestrator.activeWorkers.lookup id).map (·.runnerName) = some runner ∨
    ∃ g, (state.goroutines.lookup g).bind Goroutine.registered = some (id, runner)

/-- Only a death that finds its container in `activeWorkers` is counted. -/
theorem Reaped.completes {reporter : StatusReporter Managers} {state between : System Managers}
    {id : ContainerID} {changed : Bool} (reaped : Reaped reporter state id between changed) :
    between.jobsCompleted = ((state.orchestrator.activeWorkers.lookup id).map
        fun worker => (id, worker.runnerName)).toList ++ state.jobsCompleted ∧
      id ∉ between.orchestrator.activeWorkers := by
  cases reaped with
  | active found =>
      rw [found]
      exact ⟨rfl, fun present => (Finmap.mem_erase.mp present).1 rfl⟩
  | warm absent found =>
      rw [absent]
      exact ⟨rfl, Finmap.lookup_eq_none.mp absent⟩
  | unknown absent missing =>
      rw [absent]
      exact ⟨rfl, Finmap.lookup_eq_none.mp absent⟩

/-- What a step issues, and that the container is then no longer active. -/
theorem effect_completes {interfaces : Interfaces Managers Event Outcome} {state after : System Managers}
    {action : Action Event Outcome} (effect : Effect interfaces state action after) :
    after.jobsCompleted = (state.completes action).toList ++ state.jobsCompleted ∧
      ∀ id ∈ state.handles action, id ∉ after.orchestrator.activeWorkers := by
  cases effect with
  | bootDeath found free reaped =>
      obtain ⟨jobs, gone⟩ := reaped.completes
      simp only [System.completes, handles, found]
      refine ⟨jobs, ?_⟩
      rintro _ ⟨⟩
      exact gone
  | dieEvent known dead fresh free reaped =>
      obtain ⟨jobs, gone⟩ := reaped.completes
      refine ⟨jobs, ?_⟩
      rintro _ ⟨⟩
      exact gone
  | bootInspectFail found | discard found | kill found =>
      refine ⟨remove_jobsCompleted .., ?_⟩
      rintro _ ⟨⟩
  | die alive =>
      refine ⟨stop_jobsCompleted .., ?_⟩
      rintro _ ⟨⟩
  | rename found =>
      constructor
      · unfold containerRename
        split <;> rfl
      · rintro _ ⟨⟩
  | evaluate found goes free =>
      obtain ⟨paused, managers, frame⟩ := state.evaluateCapacity_frame interfaces.pauser ‹_›
      rw [frame]
      refine ⟨rfl, ?_⟩
      rintro _ ⟨⟩
  | _ =>
      refine ⟨rfl, ?_⟩
      rintro _ ⟨⟩

/-- A death turns the active container into a counted one. -/
theorem Reaped.chances {reporter : StatusReporter Managers} {state between : System Managers}
    {key : ContainerID} {changed : Bool} (reaped : Reaped reporter state key between changed) (id : ContainerID) :
    between.orchestrator.warmAt id ≤ state.orchestrator.warmAt id ∧
      between.orchestrator.activeAt id + issued between.jobsCompleted id ≤
        state.orchestrator.activeAt id + issued state.jobsCompleted id := by
  cases reaped with
  | @active worker found =>
      refine ⟨Int.le_refl _, ?_⟩
      change Map.found (fun _ => 1) ((state.orchestrator.activeWorkers.erase key).lookup id) +
        issued ((key, worker.runnerName) :: state.jobsCompleted) id ≤ _
      rw [issued_cons, Map.lookup_erase_if]
      unfold Orchestrator.activeAt mark
      by_cases same : id = key
      · subst same
        rw [if_pos rfl, if_pos rfl, found, Map.found_none, Map.found_some]
        omega
      · rw [if_neg same, if_neg (Ne.symm same), Int.add_zero]
  | warm absent found => exact ⟨state.orchestrator.warmAt_erase id _, Int.le_refl _⟩
  | unknown absent missing => exact ⟨Int.le_refl _, Int.le_refl _⟩

/-- The goroutine that runs `handleContainerDeath` holds nothing before and after it. -/
theorem chances_resume {state between : System Managers} {g : GoroutineID} {old : Option Goroutine}
    {new : Goroutine} (id : ContainerID) (same : between.goroutines = state.goroutines)
    (found : state.goroutines.lookup g = old) (idle : Map.found (Goroutine.holds id) old = new.holds id)
    (warm : between.orchestrator.warmAt id ≤ state.orchestrator.warmAt id)
    (active : between.orchestrator.activeAt id + issued between.jobsCompleted id ≤
      state.orchestrator.activeAt id + issued state.jobsCompleted id) :
    (between.resume g new).chances id ≤ state.chances id := by
  unfold chances occupied
  rw [resume_orchestrator, resume_goroutines, tally_insert, same, found, idle]
  change _ + _ + issued between.jobsCompleted id ≤ _
  omega

/-- Every step but the creation of a container keeps or loses chances. -/
theorem effect_chances {interfaces : Interfaces Managers Event Outcome} {state after : System Managers}
    {action : Action Event Outcome} (keyed : state.orchestrator.Keyed)
    (effect : Effect interfaces state action after) :
    ((∀ id, after.chances id ≤ state.chances id) ∧
      ∀ id, after.docker.lookup id = none → state.docker.lookup id = none) ∨
    ∃ g id short ipAddress, action = .bootCreate g id short ipAddress := by
  rcases keeps_step interfaces keyed effect with keeps | created
  · refine .inl ⟨?_, keeps.known⟩
    intro id
    cases quiet : state.completes action with
    | none =>
        have same := (effect_completes effect).1
        rw [quiet] at same
        unfold chances
        rw [same]
        exact Int.add_le_add_right (keeps.apart id) _
    | some entry =>
        cases effect with
        | @bootDeath g worker between changed found free reaped =>
            obtain ⟨warm, active⟩ := reaped.chances id
            refine chances_resume id reaped.keeps.1 found ?_ warm active
            cases changed <;> rfl
        | @dieEvent g key container between changed known dead fresh free reaped =>
            obtain ⟨warm, active⟩ := reaped.chances id
            exact chances_resume id reaped.keeps.1 fresh rfl warm active
        | _ => cases quiet
  · exact .inr created

/-- The creation of a container adds a chance for its ID, which is new. -/
theorem chances_bootCreate {state : System Managers} {g : GoroutineID} {key : ContainerID} (container : Container)
    (found : state.goroutines.lookup g = some (.boot .starting)) (id : ContainerID) :
    System.chances ({ state with docker := state.docker.insert key container }.resume g (.boot (.inspecting key))) id =
      state.chances id + mark id key := by
  simp only [chances, occupied, resume_orchestrator, resume_goroutines, tally_insert, found, Map.found_some,
    Goroutine.holds]
  change _ + _ + issued state.jobsCompleted id = _
  omega

/-- A container is held, active or counted, and only one of them. -/
structure Ledger (state : System Managers) : Prop where
  once : ∀ id, state.chances id ≤ 1
  unknown : ∀ id, state.docker.lookup id = none → state.chances id ≤ 0

theorem ledger_step {interfaces : Interfaces Managers Event Outcome} {state after : System Managers}
    {action : Action Event Outcome} (keyed : state.orchestrator.Keyed) (ledger : Ledger state)
    (effect : Effect interfaces state action after) : Ledger after := by
  rcases effect_chances keyed effect with ⟨fewer, known⟩ | ⟨g, key, short, ipAddress, rfl⟩
  · constructor
    · exact fun id => (fewer id).trans (ledger.once id)
    · exact fun id absent => (fewer id).trans (ledger.unknown id (known id absent))
  · cases effect with
    | bootCreate found fresh =>
        constructor
        · intro id
          rw [chances_bootCreate _ found]
          have bound := ledger.once id
          have unused := ledger.unknown key fresh
          unfold mark
          split
          · next same =>
              subst same
              omega
          · omega
        · intro id absent
          rw [chances_bootCreate _ found]
          rw [resume_docker, Map.lookup_insert_if] at absent
          split at absent
          · cases absent
          · next other =>
              have bound := ledger.unknown id absent
              rw [mark, if_neg (Ne.symm other)]
              omega

/-- A container that is neither held nor active can never be counted any more. -/
structure Spent (state : System Managers) (id : ContainerID) : Prop where
  known : state.docker.lookup id ≠ none
  none_ : state.chances id ≤ 0

theorem spent_step {interfaces : Interfaces Managers Event Outcome} {state after : System Managers}
    {action : Action Event Outcome} {id : ContainerID} (keyed : state.orchestrator.Keyed) (spent : Spent state id)
    (effect : Effect interfaces state action after) : Spent after id := by
  rcases effect_chances keyed effect with ⟨fewer, known⟩ | ⟨g, key, short, ipAddress, rfl⟩
  · exact ⟨fun absent => spent.known (known id absent), (fewer id).trans spent.none_⟩
  · cases effect with
    | bootCreate found fresh =>
        have other : id ≠ key := by
          rintro rfl
          exact spent.known fresh
        constructor
        · rw [resume_docker, Finmap.lookup_insert_of_ne _ other]
          exact spent.known
        · rw [chances_bootCreate _ found, mark, if_neg other.symm, Int.add_zero]
          exact spent.none_

theorem Spent.uncounted {state : System Managers} {id : ContainerID} (spent : Spent state id) :
    id ∉ state.jobsCompleted.map Prod.fst := by
  have bound := spent.none_
  have held := state.occupied_nonneg id
  have active := state.orchestrator.activeAt_nonneg id
  unfold chances issued at bound
  exact List.count_eq_zero.mp (by omega)

theorem ledger_booted {maxWorkers warmWorkers : Int} {managers : Managers} {state : System Managers}
    (started : Started maxWorkers warmWorkers managers state) : Ledger state := by
  have assigned := assigned_booted started
  have nothing (id : ContainerID) : issued state.jobsCompleted id = 0 := by
    obtain ⟨docker, listing, answers, rfl⟩ := started
    rfl
  constructor
  · intro id
    rw [chances, nothing, Int.add_zero]
    exact assigned.apart id
  · intro id absent
    rw [chances, nothing, Int.add_zero]
    exact (assigned.unknown id absent).2

/-- A goroutine keeps the registration it has made. -/
theorem effect_registered {interfaces : Interfaces Managers Event Outcome} {state after : System Managers}
    {action : Action Event Outcome} (effect : Effect interfaces state action after) {g : GoroutineID}
    {entry : ContainerID × RunnerName}
    (made : (state.goroutines.lookup g).bind Goroutine.registered = some entry) :
    (after.goroutines.lookup g).bind Goroutine.registered = some entry := by
  have resumes := effect_resumes effect g
  generalize state.goroutines.lookup g = old, after.goroutines.lookup g = new at made resumes
  cases resumes with
  | same => exact made
  | progresses progress =>
      cases progress with
      | marks | returns => exact made
      | _ => cases made

/-- Only `register` makes one. -/
theorem effect_registers {interfaces : Interfaces Managers Event Outcome} {state after : System Managers}
    {action : Action Event Outcome} (effect : Effect interfaces state action after) {g : GoroutineID}
    {entry : ContainerID × RunnerName}
    (made : (after.goroutines.lookup g).bind Goroutine.registered = some entry) :
    (state.goroutines.lookup g).bind Goroutine.registered = some entry ∨ action = .register g := by
  have resumes := effect_resumes effect g
  generalize state.goroutines.lookup g = old, after.goroutines.lookup g = new at made resumes ⊢
  cases resumes with
  | same => exact .inl made
  | progresses progress =>
      cases progress with
      | marks | returns => exact .inl made
      | registers registered => exact .inr registered
      | begins _ picked | wakes picked | retries picked => cases picked <;> cases made
      | _ => cases made

/-- An entry of `activeWorkers` is made by the registration of a container that the call has claimed. -/
theorem effect_active {interfaces : Interfaces Managers Event Outcome} {state after : System Managers}
    {action : Action Event Outcome} (effect : Effect interfaces state action after) {id : ContainerID}
    {worker : ActiveWorker} (found : after.orchestrator.activeWorkers.lookup id = some worker) :
    state.orchestrator.activeWorkers.lookup id = some worker ∨
      ∃ g, state.Claims g id ∧
        (after.goroutines.lookup g).bind Goroutine.registered = some (id, worker.runnerName) := by
  have reaped {key : ContainerID} {between : System Managers} {changed : Bool}
      (reaped : Reaped interfaces.reporter state key between changed)
      (found : between.orchestrator.activeWorkers.lookup id = some worker) :
      state.orchestrator.activeWorkers.lookup id = some worker := by
    cases reaped with
    | active _ => exact Map.lookup_of_erase found
    | warm _ _ => exact found
    | unknown _ _ => exact found
  cases effect with
  | bootDeath _ _ death => exact .inl (reaped death found)
  | dieEvent _ _ _ _ death => exact .inl (reaped death found)
  | abortActive _ _ _ => exact .inl (Map.lookup_of_erase found)
  | bootInspectFail _ | discard _ | kill _ =>
      rw [resume_orchestrator, remove_orchestrator] at found
      exact .inl found
  | die _ =>
      rw [stop_orchestrator] at found
      exact .inl found
  | rename _ =>
      rw [resume_orchestrator, containerRename_orchestrator] at found
      exact .inl found
  | allocate _ _ picked =>
      cases picked with
      | claim _ => exact .inl found
      | wait _ => exact .inl found
  | wake _ _ _ picked =>
      cases picked with
      | claim _ => exact .inl found
      | wait _ => exact .inl found
  | retry _ _ picked =>
      cases picked with
      | claim _ => exact .inl found
      | wait _ => exact .inl found
  | @register g runner candidate here free =>
      change (state.orchestrator.activeWorkers.insert candidate.containerID _).lookup id = some worker at found
      rcases Map.lookup_of_insert found with ⟨same, rfl⟩ | ⟨_, old⟩
      · refine .inr ⟨g, ⟨_, _, here, congrArg some same.symm⟩, ?_⟩
        rw [resume_goroutines, Map.lookup_insert_if, if_pos rfl, same]
        rfl
      · exact .inl old
  | evaluate _ _ _ =>
      obtain ⟨paused, managers, frame⟩ := state.evaluateCapacity_frame interfaces.pauser ‹_›
      rw [frame] at found
      exact .inl found
  | _ => exact .inl found

/-- Active workers and counted jobs carry the name of their registration. -/
structure Traced (start state : System Managers) : Prop where
  active : ∀ id worker, state.orchestrator.activeWorkers.lookup id = some worker →
    Registered start state id worker.runnerName
  jobs : ∀ id runner, (id, runner) ∈ state.jobsCompleted → Registered start state id runner

theorem traced_step {interfaces : Interfaces Managers Event Outcome} {start state after : System Managers}
    {action : Action Event Outcome} (traced : Traced start state)
    (effect : Effect interfaces state action after) : Traced start after := by
  have kept {id : ContainerID} {runner : RunnerName} (registered : Registered start state id runner) :
      Registered start after id runner := by
    rcases registered with recovered | ⟨g, made⟩
    · exact .inl recovered
    · exact .inr ⟨g, effect_registered effect made⟩
  constructor
  · intro id worker found
    rcases effect_active effect found with before | ⟨g, _, made⟩
    · exact kept (traced.active id worker before)
    · exact .inr ⟨g, made⟩
  · intro id runner member
    rw [(effect_completes effect).1] at member
    rcases List.mem_append.mp member with new | old
    · obtain ⟨key, _, issued⟩ := Option.bind_eq_some_iff.mp (Option.mem_toList.mp new)
      obtain ⟨worker, found, same⟩ := Option.map_eq_some_iff.mp issued
      cases same
      exact kept (traced.active _ worker found)
    · exact kept (traced.jobs id runner old)

/-- `AbortWorker` takes an active container out uncounted. -/
theorem spent_abort {interfaces : Interfaces Managers Event Outcome} {state after : System Managers}
    {g : GoroutineID} {id : ContainerID} (ledger : Ledger state) (active : id ∈ state.orchestrator.activeWorkers)
    (effect : Effect interfaces state (.abort g id) after) : Spent after id := by
  have before := activeAt_mem active
  have once := ledger.once id
  have known : state.docker.lookup id ≠ none := by
    intro absent
    have unused := ledger.unknown id absent
    have held := state.occupied_nonneg id
    have counted := issued_nonneg state.jobsCompleted id
    unfold chances at unused
    omega
  cases effect with
  | abortUnknown absent fresh free => exact absurd active (Finmap.lookup_eq_none.mp absent)
  | @abortActive _ _ worker found fresh free =>
      refine ⟨known, ?_⟩
      have erased : (state.orchestrator.removeActive id worker.runnerName).activeAt id = 0 := by
        unfold Orchestrator.activeAt Orchestrator.removeActive
        rw [Finmap.lookup_erase, Map.found_none]
      simp only [chances, occupied, resume_orchestrator, resume_goroutines, tally_insert, fresh, Map.found_none,
        Goroutine.holds, erased] at once ⊢
      change state.orchestrator.warmAt id + _ + _ + issued state.jobsCompleted id ≤ 0
      omega

/-- A job is counted once, under the name of its registration, by the death that
ends it, and never after an abort. -/
structure CountedOnce (interfaces : Interfaces Managers Event Outcome) (start state : System Managers) : Prop where
  once : (state.jobsCompleted.map Prod.fst).Nodup
  named : ∀ id runner, (id, runner) ∈ state.jobsCompleted → Registered start state id runner
  issued : ∀ action after, state.step interfaces action = some after →
    after.jobsCompleted = (state.completes action).toList ++ state.jobsCompleted
  exactly : ∀ action after, state.step interfaces action = some after → ∀ id,
    (∃ runner, state.completes action = some (id, runner)) ↔ state.handles action = some id ∧
      id ∈ state.orchestrator.activeWorkers ∧ id ∉ after.orchestrator.activeWorkers
  aborted : ∀ g id after, id ∈ state.orchestrator.activeWorkers → state.step interfaces (.abort g id) = some after →
    ∀ later, Reaches (step interfaces) (· = after) everyStep later → id ∉ later.jobsCompleted.map Prod.fst

/-- Jobs are counted exactly once, whatever the interleaving and however often a
death is reported. -/
theorem jobs_counted_once (interfaces : Interfaces Managers Event Outcome) (maxWorkers warmWorkers : Int)
    (managers : Managers) (start state : System Managers) (started : Started maxWorkers warmWorkers managers start)
    (reached : Reaches (step interfaces) (· = start) everyStep state) : CountedOnce interfaces start state := by
  obtain ⟨assigned, ledger, traced⟩ : Assigned state ∧ Ledger state ∧ Traced start state := by
    apply reached.invariant
    · rintro _ rfl
      refine ⟨assigned_booted started, ledger_booted started, ?_, ?_⟩
      · intro id worker found
        exact .inl (by rw [found]; rfl)
      · obtain ⟨docker, listing, answers, rfl⟩ := started
        intro id runner member
        cases member
    · rintro earlier action after _ ⟨assigned, ledger, traced⟩ _ taken
      have effect := step_effect interfaces taken
      exact ⟨assigned_step interfaces assigned effect, ledger_step assigned.keyed ledger effect,
        traced_step traced effect⟩
  constructor
  · rw [List.nodup_iff_count_le_one]
    intro id
    have once := ledger.once id
    have held := state.occupied_nonneg id
    have active := state.orchestrator.activeAt_nonneg id
    unfold chances System.issued at once
    omega
  · exact traced.jobs
  · intro action after taken
    exact (effect_completes (step_effect interfaces taken)).1
  · intro action after taken id
    have gone := (effect_completes (step_effect interfaces taken)).2
    constructor
    · rintro ⟨runner, issued⟩
      obtain ⟨key, handled, entry⟩ := Option.bind_eq_some_iff.mp issued
      obtain ⟨worker, found, same⟩ := Option.map_eq_some_iff.mp entry
      cases same
      exact ⟨handled, Finmap.mem_of_lookup_eq_some found, gone _ handled⟩
    · rintro ⟨handled, active, _⟩
      obtain ⟨worker, found⟩ := Finmap.mem_iff.mp active
      refine ⟨worker.runnerName, ?_⟩
      rw [completes, handled, Option.bind_some, found]
      rfl
  · intro g id after active taken later since
    have effect := step_effect interfaces taken
    have spent : Assigned later ∧ Spent later id := by
      apply since.invariant
      · rintro _ rfl
        exact ⟨assigned_step interfaces assigned effect, spent_abort ledger active effect⟩
      · rintro earlier action next _ ⟨assigned, spent⟩ _ taken
        have effect := step_effect interfaces taken
        exact ⟨assigned_step interfaces assigned effect, spent_step assigned.keyed spent effect⟩
    exact spent.2.uncounted

/-- A job that has ended, reported twice. -/
theorem jobs_counted_once_twice : ∃ state : System Unit, state.jobsCompleted = [("c1", "r")] ∧
    CountedOnce Interfaces.silent (oneWarm 1 0) state := by
  obtain ⟨state, reached, counted⟩ : ∃ state, Reaches (step Interfaces.silent) (· = oneWarm 1 0) everyStep state ∧
      state.jobsCompleted = [("c1", "r")] := by
    refine Reaches.of_replay rfl [.allocate 0 "r" (some "c1"), .rename 0 none, .check 0 true, .register 0,
      .markBusy 0, .die "c1", .dieEvent 1 "c1", .dieEvent 2 "c1"] ?_
    decide
  exact ⟨state, counted, jobs_counted_once Interfaces.silent 1 0 () (oneWarm 1 0) state (oneWarm_started 1 0) reached⟩

end System

end RunnersMux
