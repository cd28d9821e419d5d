import RunnersMux.Foundations.Leases
import RunnersMux.Foundations.Simulations
import RunnersMux.Orchestrator.Jobs
import RunnersMux.Orchestrator.Orphans

/-! The orchestrator as a ledger of leases.

What the maps and the goroutines do to a container amounts to a life in which it
is created, leased to one runner and retired. Every step of every goroutine is a
transaction on that ledger, or none of its business.
-/

set_option autoImplicit false

namespace RunnersMux

open Foundations

namespace Goroutine

/-- The container that a goroutine keeps for the pool, or for its runner. -/
def tenancy : Goroutine → Option (ContainerID × Option RunnerName)
  | .boot (.inspecting id) => some (id, none)
  | .boot (.started worker) => some (worker.containerID, none)
  | .allocate runner (.claimed candidate) | .allocate runner (.renamed candidate)
  | .allocate runner (.dead candidate) | .allocate runner (.alive candidate) =>
      some (candidate.containerID, some runner)
  | _ => none

theorem tenancy_holds {goroutine : Goroutine} {id : ContainerID} {who : Option RunnerName}
    (tenant : goroutine.tenancy = some (id, who)) : goroutine.holds id = 1 := by
  unfold tenancy at tenant
  split at tenant <;> cases tenant <;> exact mark_self _

end Goroutine

/-- What the maps and one goroutine say of a container. -/
inductive Nearby (o : Orchestrator) (goroutine : Option Goroutine) (id : ContainerID) : Option RunnerName → Prop where
  | warm (pooled : id ∈ o.warmPool) : Nearby o goroutine id none
  | active {worker : ActiveWorker} (found : o.activeWorkers.lookup id = some worker) :
      Nearby o goroutine id (some worker.runnerName)
  | carried {who : Option RunnerName} (tenant : goroutine.bind Goroutine.tenancy = some (id, who)) :
      Nearby o goroutine id who

/-- Two views that agree on a container. -/
theorem Nearby.congr {o after : Orchestrator} {old new : Option Goroutine} {id : ContainerID}
    (warm : id ∈ after.warmPool ↔ id ∈ o.warmPool)
    (active : after.activeWorkers.lookup id = o.activeWorkers.lookup id)
    (tenants : ∀ who, new.bind Goroutine.tenancy = some (id, who) ↔ old.bind Goroutine.tenancy = some (id, who))
    (who : Option RunnerName) : Nearby after new id who ↔ Nearby o old id who := by
  constructor
  · rintro (pooled | found | tenant)
    · exact .warm (warm.mp pooled)
    · exact .active (active.symm.trans found)
    · exact .carried ((tenants who).mp tenant)
  · rintro (pooled | found | tenant)
    · exact .warm (warm.mpr pooled)
    · exact .active (active.trans found)
    · exact .carried ((tenants who).mpr tenant)

namespace System

variable {Managers Event Outcome : Type}

/-- A goroutine other than one says who has a container. -/
def Elsewhere (state : System Managers) (g : GoroutineID) (id : ContainerID) (who : Option RunnerName) : Prop :=
  ∃ h goroutine, h ≠ g ∧ state.goroutines.lookup h = some goroutine ∧ goroutine.tenancy = some (id, who)

/-- Somebody has a container: the pool or a boot, or else a runner. -/
def Held (state : System Managers) (id : ContainerID) (who : Option RunnerName) : Prop :=
  ∃ g, Nearby state.orchestrator (state.goroutines.lookup g) id who

/-- The stage of a container. -/
inductive Stands (state : System Managers) (id : ContainerID) : Tenure RunnerName → Prop where
  | absent (unknown : state.docker.lookup id = none) : Stands state id .absent
  | idle (held : state.Held id none) : Stands state id .idle
  | leased {runner : RunnerName} (held : state.Held id (some runner)) : Stands state id (.leased runner)
  | ended (known : state.docker.lookup id ≠ none) (free : ∀ who, ¬state.Held id who) : Stands state id .ended

def Reflects (state : System Managers) (ledger : LeaseBook ContainerID RunnerName) : Prop :=
  ∀ id, state.Stands id (ledger id)

/-- What a goroutine carries is in neither map. -/
theorem Assigned.carried_apart {state : System Managers} (assigned : Assigned state) {g : GoroutineID}
    {goroutine : Goroutine} {id : ContainerID} {who : Option RunnerName}
    (found : state.goroutines.lookup g = some goroutine) (tenant : goroutine.tenancy = some (id, who)) :
    id ∉ state.orchestrator.warmPool ∧ id ∉ state.orchestrator.activeWorkers := by
  have unique := assigned.apart id
  have working := state.orchestrator.activeAt_nonneg id
  have pooled := state.orchestrator.warmAt_nonneg id
  have carries := Map.found_le_weigh state.goroutines (fun _ => Goroutine.holds id)
    (fun _ => Goroutine.holds_nonneg id) g
  rw [found, Map.found_some, Goroutine.tenancy_holds tenant] at carries
  unfold occupied tally at unique
  constructor
  · intro member
    have counted := warmAt_mem member
    omega
  · intro member
    have counted := activeAt_mem member
    omega

/-- Where the maps and one goroutine know of a container, no other goroutine does. -/
theorem Assigned.alone {state : System Managers} (assigned : Assigned state) {g : GoroutineID} {id : ContainerID}
    {who other : Option RunnerName} (here : Nearby state.orchestrator (state.goroutines.lookup g) id who) :
    ¬state.Elsewhere g id other := by
  rintro ⟨h, goroutine, apart, found, tenant⟩
  obtain ⟨unpooled, inactive⟩ := assigned.carried_apart found tenant
  cases here with
  | warm member => exact unpooled member
  | active entry => exact inactive (Finmap.mem_of_lookup_eq_some entry)
  | carried mine =>
      obtain ⟨_, looked, mine⟩ := Option.bind_eq_some_iff.mp mine
      have unique := assigned.apart id
      have working := state.orchestrator.activeAt_nonneg id
      have pooled := state.orchestrator.warmAt_nonneg id
      have both := Map.found_add_le_weigh state.goroutines (fun _ => Goroutine.holds id)
        (fun _ => Goroutine.holds_nonneg id) apart
      rw [found, looked, Map.found_some, Map.found_some, Goroutine.tenancy_holds tenant, Goroutine.tenancy_holds mine]
        at both
      unfold occupied tally at unique
      omega

theorem held_iff {state : System Managers} (g : GoroutineID) {id : ContainerID} {who : Option RunnerName} :
    state.Held id who ↔ Nearby state.orchestrator (state.goroutines.lookup g) id who ∨ state.Elsewhere g id who := by
  constructor
  · rintro ⟨h, warm | active | tenant⟩
    · exact .inl (.warm ‹_›)
    · exact .inl (.active ‹_›)
    · obtain ⟨goroutine, found, tenant⟩ := Option.bind_eq_some_iff.mp tenant
      by_cases same : h = g
      · subst same
        exact .inl (.carried (Option.bind_eq_some_iff.mpr ⟨goroutine, found, tenant⟩))
      · exact .inr ⟨h, goroutine, same, found, tenant⟩
  · rintro (here | ⟨h, goroutine, apart, found, tenant⟩)
    · exact ⟨g, here⟩
    · exact ⟨h, .carried (Option.bind_eq_some_iff.mpr ⟨goroutine, found, tenant⟩)⟩

/-- A container is in one pair of hands. -/
theorem Assigned.one_holder {state : System Managers} (assigned : Assigned state) {id : ContainerID}
    {first second : Option RunnerName} (one : state.Held id first) (other : state.Held id second) : first = second := by
  obtain ⟨g, here⟩ := one
  rcases (held_iff g).mp other with also | there
  · cases here with
    | warm member =>
        cases also with
        | warm => rfl
        | active entry =>
            exact absurd (Finmap.mem_of_lookup_eq_some entry) (assigned.exclusive.warm_active id member)
        | carried tenant =>
            obtain ⟨_, looked, mine⟩ := Option.bind_eq_some_iff.mp tenant
            exact absurd member (assigned.carried_apart looked mine).1
    | active entry =>
        have member := Finmap.mem_of_lookup_eq_some entry
        cases also with
        | warm pooled => exact absurd member (assigned.exclusive.warm_active id pooled)
        | active again =>
            cases entry.symm.trans again
            rfl
        | carried tenant =>
            obtain ⟨_, looked, mine⟩ := Option.bind_eq_some_iff.mp tenant
            exact absurd member (assigned.carried_apart looked mine).2
    | carried tenant =>
        obtain ⟨_, looked, mine⟩ := Option.bind_eq_some_iff.mp tenant
        obtain ⟨unpooled, inactive⟩ := assigned.carried_apart looked mine
        cases also with
        | warm member => exact absurd member unpooled
        | active entry => exact absurd (Finmap.mem_of_lookup_eq_some entry) inactive
        | carried again =>
            cases tenant.symm.trans again
            rfl
  · exact absurd there (assigned.alone here)

/-- Nobody has a container that does not exist. -/
theorem Assigned.held_known {state : System Managers} (assigned : Assigned state) {id : ContainerID}
    {who : Option RunnerName} (held : state.Held id who) : state.docker.lookup id ≠ none := by
  intro absent
  have none_ := (assigned.unknown id absent).2
  have working := state.orchestrator.activeAt_nonneg id
  have pooled := state.orchestrator.warmAt_nonneg id
  have nonneg := tally_nonneg (Goroutine.holds_nonneg id) state.goroutines
  unfold occupied at none_
  obtain ⟨g, here⟩ := held
  cases here with
  | warm member =>
      have counted := warmAt_mem member
      omega
  | active entry =>
      have counted := activeAt_mem (Finmap.mem_of_lookup_eq_some entry)
      omega
  | carried tenant =>
      obtain ⟨mine, looked, tenant⟩ := Option.bind_eq_some_iff.mp tenant
      have most := Map.found_le_weigh state.goroutines (fun _ => Goroutine.holds id)
        (fun _ => Goroutine.holds_nonneg id) g
      rw [looked, Map.found_some, Goroutine.tenancy_holds tenant] at most
      unfold tally at none_
      omega

theorem Assigned.one_stage {state : System Managers} (assigned : Assigned state) {id : ContainerID}
    {first second : Tenure RunnerName} (one : state.Stands id first) (other : state.Stands id second) :
    first = second := by
  cases one with
  | absent unknown =>
      cases other with
      | absent => rfl
      | idle held | leased held => exact absurd unknown (assigned.held_known held)
      | ended known => exact absurd unknown known
  | idle held =>
      cases other with
      | absent unknown => exact absurd unknown (assigned.held_known held)
      | idle => rfl
      | leased also => cases assigned.one_holder held also
      | ended known free => exact absurd held (free _)
  | leased held =>
      cases other with
      | absent unknown => exact absurd unknown (assigned.held_known held)
      | idle also => cases assigned.one_holder held also
      | leased also =>
          cases assigned.one_holder held also
          rfl
      | ended known free => exact absurd held (free _)
  | ended known free =>
      cases other with
      | absent unknown => exact absurd unknown known
      | idle held | leased held => exact absurd held (free _)
      | ended => rfl

/-- Every container has a stage. -/
theorem stands (state : System Managers) (id : ContainerID) : ∃ stage, state.Stands id stage := by
  by_cases held : ∃ who, state.Held id who
  · obtain ⟨_ | runner, held⟩ := held
    · exact ⟨.idle, .idle held⟩
    · exact ⟨.leased runner, .leased held⟩
  · by_cases known : state.docker.lookup id = none
    · exact ⟨.absent, .absent known⟩
    · exact ⟨.ended, .ended known (not_exists.mp held)⟩

/-- A stage depends on the maps, on Docker and on who carries the container. -/
theorem Stands.congr {state after : System Managers} {id : ContainerID} {stage : Tenure RunnerName}
    (stands : state.Stands id stage) (known : after.docker.lookup id = none ↔ state.docker.lookup id = none)
    (held : ∀ who, after.Held id who ↔ state.Held id who) : after.Stands id stage := by
  cases stands with
  | absent unknown => exact .absent (known.mpr unknown)
  | idle has => exact .idle ((held _).mpr has)
  | leased has => exact .leased ((held _).mpr has)
  | ended exists_ free =>
      exact .ended (fun none_ => exists_ (known.mp none_)) fun who has => free who ((held who).mp has)

/-- One transaction on a ledger, or none. -/
def Books (ledger later : LeaseBook ContainerID RunnerName) : Prop :=
  later = ledger ∨ ∃ transaction, ledger.step transaction = some later

theorem Books.reaches {ledger later : LeaseBook ContainerID RunnerName} (books : Books ledger later) :
    Reaches LeaseBook.step (· = ledger) everyStep later := by
  rcases books with rfl | ⟨transaction, taken⟩
  · exact .start rfl
  · exact .once trivial taken

/-- A step that concerns no goroutine and no container. -/
theorem Reflects.idle {state after : System Managers} {ledger : LeaseBook ContainerID RunnerName}
    (reflects : state.Reflects ledger) (known : ∀ id, after.docker.lookup id = none ↔ state.docker.lookup id = none)
    (goroutines : after.goroutines = state.goroutines)
    (warm : after.orchestrator.warmPool = state.orchestrator.warmPool)
    (active : after.orchestrator.activeWorkers = state.orchestrator.activeWorkers) : after.Reflects ledger := by
  intro id
  apply (reflects id).congr (known id)
  intro who
  apply exists_congr
  intro g
  rw [goroutines]
  exact Nearby.congr (by rw [warm]) (by rw [active]) (fun _ => Iff.rfl) who

section
variable {state between : System Managers} {g : GoroutineID} {old : Option Goroutine} {new : Goroutine}

/-- After a section that ends with one goroutine in a new phase. -/
theorem held_resume (same : between.goroutines = state.goroutines) {id : ContainerID} {who : Option RunnerName} :
    (between.resume g new).Held id who ↔ Nearby between.orchestrator (some new) id who ∨ state.Elsewhere g id who := by
  rw [held_iff g]
  apply or_congr
  · rw [resume_orchestrator, resume_goroutines, Finmap.lookup_insert]
  · apply exists_congr
    intro h
    apply exists_congr
    intro goroutine
    apply and_congr_right
    intro apart
    rw [resume_goroutines, same, Finmap.lookup_insert_of_ne _ apart]

/-- The ledger after a section that concerns one container at most. -/
theorem Reflects.resume {ledger : LeaseBook ContainerID RunnerName} (reflects : state.Reflects ledger)
    (same : between.goroutines = state.goroutines) (looked : state.goroutines.lookup g = old) (key : ContainerID)
    (known : ∀ id, id ≠ key → (between.docker.lookup id = none ↔ state.docker.lookup id = none))
    (others : ∀ id, id ≠ key → ∀ who,
      Nearby between.orchestrator (some new) id who ↔ Nearby state.orchestrator old id who)
    {stage : Tenure RunnerName} (stands : (between.resume g new).Stands key stage) :
    (between.resume g new).Reflects (Function.update ledger key stage) := by
  intro id
  by_cases own : id = key
  · subst own
    rw [Function.update_self]
    exact stands
  · rw [Function.update_of_ne own]
    have docker : (between.resume g new).docker.lookup id = none ↔ state.docker.lookup id = none := known id own
    apply (reflects id).congr docker
    intro who
    rw [held_resume same, held_iff g, looked]
    exact or_congr_left (others id own who)

/-- Such a section that concerns none. -/
theorem Reflects.quiet {ledger : LeaseBook ContainerID RunnerName} (reflects : state.Reflects ledger)
    (same : between.goroutines = state.goroutines) (looked : state.goroutines.lookup g = old)
    (known : ∀ id, between.docker.lookup id = none ↔ state.docker.lookup id = none)
    (keeps : ∀ id who, Nearby between.orchestrator (some new) id who ↔ Nearby state.orchestrator old id who) :
    (between.resume g new).Reflects ledger := by
  intro id
  have docker : (between.resume g new).docker.lookup id = none ↔ state.docker.lookup id = none := known id
  apply (reflects id).congr docker
  intro who
  rw [held_resume same, held_iff g, looked]
  exact or_congr_left (keeps id who)

/-- A section that takes a container from whoever has it. -/
theorem Reflects.retire {ledger : LeaseBook ContainerID RunnerName} (reflects : state.Reflects ledger)
    (assigned : Assigned state) (same : between.goroutines = state.goroutines)
    (looked : state.goroutines.lookup g = old)
    {key : ContainerID} {who : Option RunnerName} (had : Nearby state.orchestrator old key who)
    (known : ∀ id, between.docker.lookup id = none ↔ state.docker.lookup id = none)
    (gone : ∀ who, ¬Nearby between.orchestrator (some new) key who)
    (others : ∀ id, id ≠ key → ∀ who,
      Nearby between.orchestrator (some new) id who ↔ Nearby state.orchestrator old id who) :
    ∃ later, Books ledger later ∧ (between.resume g new).Reflects later := by
  subst looked
  have held : state.Held key who := ⟨g, had⟩
  have stands : (between.resume g new).Stands key .ended := by
    constructor
    · exact fun absent => assigned.held_known held ((known key).mp absent)
    · intro other has
      rcases (held_resume same).mp has with here | there
      · exact gone other here
      · exact assigned.alone had there
  refine ⟨_, .inr ⟨.retire key, LeaseBook.step_next ?_⟩,
    reflects.resume same rfl key (fun id _ => known id) others stands⟩
  change (ledger key).next _ = _
  cases who with
  | none => rw [assigned.one_stage (reflects key) (.idle held), Tenure.next]
  | some runner => rw [assigned.one_stage (reflects key) (.leased held), Tenure.next]

/-- The loop body of `AllocateWorker` leases what it claims. -/
theorem Reflects.pick {ledger : LeaseBook ContainerID RunnerName} (reflects : state.Reflects ledger)
    (assigned : Assigned state) {runner : RunnerName} {start o : Orchestrator} {phase : AllocatePhase}
    (picked : Picked start o phase) (warm : start.warmPool = state.orchestrator.warmPool)
    (active : start.activeWorkers = state.orchestrator.activeWorkers) (looked : state.goroutines.lookup g = old)
    (idle : old.bind Goroutine.tenancy = none) :
    ∃ later, Books ledger later ∧
      ({ state with orchestrator := o }.resume g (.allocate runner phase)).Reflects later := by
  cases picked with
  | wait empty =>
      refine ⟨ledger, .inl rfl, reflects.quiet rfl looked (fun _ => Iff.rfl) fun id => Nearby.congr ?_ ?_ ?_⟩
      · rw [warm]
      · rw [active]
      · simp [idle, Goroutine.tenancy]
  | @claim key candidate found =>
      rw [warm] at found
      have named := assigned.keyed key candidate found
      have held : state.Held key none := ⟨g, .warm (Finmap.mem_of_lookup_eq_some found)⟩
      have stands : ({ state with orchestrator := start.claim key }.resume g
          (.allocate runner (.claimed candidate))).Stands key (.leased runner) := by
        apply Stands.leased
        apply (held_resume rfl).mpr
        left
        apply Nearby.carried
        rw [← named]
        rfl
      refine ⟨_, .inr ⟨.lease key runner, LeaseBook.step_next ?_⟩, reflects.resume ?_ looked key ?_ ?_ stands⟩
      · change (ledger key).next _ = _
        rw [assigned.one_stage (reflects key) (.idle held), Tenure.next]
      · rfl
      · exact fun _ _ => Iff.rfl
      · intro id other
        apply Nearby.congr
        · rw [← warm]
          simp [Orchestrator.claim, other]
        · rw [← active]
          rfl
        · simp [idle, Goroutine.tenancy, named, Ne.symm other]

/-- The death of a container that is in a map ends it; one that a call carries stays with the call. -/
theorem Reflects.reap {ledger : LeaseBook ContainerID RunnerName} (reflects : state.Reflects ledger)
    (assigned : Assigned state) {reporter : StatusReporter Managers} {key : ContainerID} {changed : Bool}
    (reaped : Reaped reporter state key between changed) (looked : state.goroutines.lookup g = old)
    (idle : old.bind Goroutine.tenancy = none) (bare : new.tenancy = none) :
    ∃ later, Books ledger later ∧ (between.resume g new).Reflects later := by
  have tenants (id : ContainerID) (who : Option RunnerName) :
      (some new).bind Goroutine.tenancy = some (id, who) ↔ old.bind Goroutine.tenancy = some (id, who) := by
    rw [idle, Option.bind_some, bare]
  have nobody {id : ContainerID} {who : Option RunnerName} :
      (some new).bind Goroutine.tenancy ≠ some (id, who) := by
    simp [bare]
  cases reaped with
  | @active worker found =>
      refine reflects.retire assigned rfl looked (.active found) (fun _ => Iff.rfl) ?_ ?_
      · rintro who (pooled | again | tenant)
        · exact absurd (Finmap.mem_of_lookup_eq_some found) (assigned.exclusive.warm_active key pooled)
        · have erased : (state.orchestrator.removeActive key worker.runnerName).broadcast.activeWorkers.lookup key =
              none := Finmap.lookup_erase key state.orchestrator.activeWorkers
          cases erased.symm.trans again
        · exact nobody tenant
      · intro id other
        exact Nearby.congr Iff.rfl (Finmap.lookup_erase_ne other) (tenants id)
  | warm absent found =>
      refine reflects.retire assigned rfl looked (.warm (Finmap.mem_of_lookup_eq_some found)) (fun _ => Iff.rfl) ?_ ?_
      · rintro who (pooled | again | tenant)
        · exact (Finmap.mem_erase.mp pooled).1 rfl
        · cases absent.symm.trans again
        · exact nobody tenant
      · intro id other
        refine Nearby.congr ?_ rfl (tenants id)
        simp [Orchestrator.removeWarm, Orchestrator.broadcast, other]
  | unknown absent missing =>
      exact ⟨ledger, .inl rfl, reflects.quiet rfl looked (fun _ => Iff.rfl) fun id =>
        Nearby.congr Iff.rfl rfl (tenants id)⟩

end

theorem stop_unknown {state : System Managers} {key id : ContainerID} :
    (state.stop key).docker.lookup id = none ↔ state.docker.lookup id = none :=
  ⟨stop_known, stop_absent⟩

theorem remove_unknown {state : System Managers} {removed : Bool} {key id : ContainerID} :
    (state.remove removed key).docker.lookup id = none ↔ state.docker.lookup id = none :=
  ⟨remove_known, remove_absent⟩

/-- A goroutine lets go of the container that it carries, removed or not. -/
theorem Reflects.drop {state : System Managers} {ledger : LeaseBook ContainerID RunnerName} {g : GoroutineID}
    {old new : Goroutine} {key : ContainerID} {removed : Bool} {who : Option RunnerName}
    (reflects : state.Reflects ledger) (assigned : Assigned state) (found : state.goroutines.lookup g = some old)
    (tenant : old.tenancy = some (key, who)) (bare : new.tenancy = none) :
    ∃ later, Books ledger later ∧ ((state.remove removed key).resume g new).Reflects later := by
  obtain ⟨unpooled, inactive⟩ := assigned.carried_apart found tenant
  refine reflects.retire assigned (remove_goroutines ..) found (.carried tenant) (fun _ => remove_unknown) ?_ ?_
  · rw [remove_orchestrator]
    rintro other (pooled | entry | tenant)
    · exact unpooled pooled
    · exact inactive (Finmap.mem_of_lookup_eq_some entry)
    · rw [Option.bind_some, bare] at tenant
      cases tenant
  · rw [remove_orchestrator]
    intro id other
    exact Nearby.congr Iff.rfl rfl (by simp [tenant, bare, Ne.symm other])

/-- Each step is one transaction on the ledger, or none. -/
theorem reflects_step (interfaces : Interfaces Managers Event Outcome) {state after : System Managers}
    {action : Action Event Outcome} {ledger : LeaseBook ContainerID RunnerName} (assigned : Assigned state)
    (reflects : state.Reflects ledger) (effect : Effect interfaces state action after) :
    ∃ later, Books ledger later ∧ after.Reflects later := by
  have unbooked (still : after.Reflects ledger) : ∃ later, Books ledger later ∧ after.Reflects later :=
    ⟨ledger, .inl rfl, still⟩
  cases effect with
  | poolLock | poolBlock | managers | setStatusReporter | updateSettings =>
      exact unbooked (reflects.idle (fun _ => Iff.rfl) rfl rfl rfl)
  | poolBoot held short full fresh =>
      exact unbooked (reflects.quiet rfl fresh (fun _ => Iff.rfl) fun id =>
        Nearby.congr Iff.rfl rfl (by simp [Goroutine.tenancy]))
  | @bootCreate g key short ipAddress found fresh =>
      have stands : ({ state with
          docker := state.docker.insert key ⟨namePrefixWarm ++ short, ipAddress, true⟩ }.resume g
          (.boot (.inspecting key))).Stands key .idle := by
        apply Stands.idle
        apply (held_resume rfl).mpr
        exact .inl (.carried rfl)
      refine ⟨_, .inr ⟨.create key, LeaseBook.step_next ?_⟩, reflects.resume ?_ found key ?_ ?_ stands⟩
      · change (ledger key).next _ = _
        rw [assigned.one_stage (reflects key) (.absent fresh), Tenure.next]
      · rfl
      · intro id other
        rw [Finmap.lookup_insert_of_ne _ other]
      · intro id other
        exact Nearby.congr Iff.rfl rfl (by simp [Goroutine.tenancy, Ne.symm other])
  | bootCreateFail found | bootInspect found | bootAlive found | bootDead found =>
      exact unbooked (reflects.quiet rfl found (fun _ => Iff.rfl) fun id => Nearby.congr Iff.rfl rfl (fun _ => Iff.rfl))
  | bootInspectFail found => exact reflects.drop assigned found rfl rfl
  | @bootPool g worker found free =>
      -- The boot hands its container over to the pool.
      refine unbooked (reflects.quiet rfl found (fun _ => Iff.rfl) ?_)
      intro id who
      constructor
      · rintro (pooled | found | tenant)
        · rcases Finmap.mem_insert.mp pooled with rfl | pooled
          · exact .carried rfl
          · exact .warm pooled
        · exact .active found
        · cases tenant
      · rintro (pooled | found | tenant)
        · exact .warm (Finmap.mem_insert.mpr (.inr pooled))
        · exact .active found
        · cases tenant
          exact .warm (Finmap.mem_insert.mpr (.inl rfl))
  | bootGiveUp found free =>
      exact unbooked (reflects.quiet rfl found (fun _ => Iff.rfl) fun id => Nearby.congr Iff.rfl rfl (fun _ => Iff.rfl))
  | bootDeath found free reaped =>
      exact reflects.reap assigned reaped found rfl (by split <;> rfl)
  | bootBroadcast found free =>
      rcases found with found | found <;>
        exact unbooked (reflects.quiet rfl found (fun _ => Iff.rfl) fun id =>
          Nearby.congr Iff.rfl rfl (fun _ => Iff.rfl))
  | allocate fresh free picked => exact reflects.pick assigned picked rfl rfl fresh rfl
  | wake found closed free picked => exact reflects.pick assigned picked rfl rfl found rfl
  | retry found free picked => exact reflects.pick assigned picked rfl rfl found rfl
  | cancel found free | markBusy found | renameFail found | checkAlive found | checkDead found =>
      exact unbooked (reflects.quiet rfl found (fun _ => Iff.rfl) fun id => Nearby.congr Iff.rfl rfl (fun _ => Iff.rfl))
  | rename found =>
      refine unbooked (reflects.quiet (containerRename_goroutines ..) found (fun _ => containerRename_unknown) ?_)
      rw [containerRename_orchestrator]
      exact fun id => Nearby.congr Iff.rfl rfl (fun _ => Iff.rfl)
  | discard found => exact reflects.drop assigned found rfl rfl
  | @register g runner candidate found free =>
      -- The call hands its container over to the map, under the same runner.
      refine unbooked (reflects.quiet rfl found (fun _ => Iff.rfl) ?_)
      have inactive := (assigned.carried_apart found rfl).2
      intro id who
      constructor
      · rintro (pooled | again | tenant)
        · exact .warm pooled
        · rcases Map.lookup_of_insert again with ⟨rfl, rfl⟩ | ⟨_, before⟩
          · exact .carried rfl
          · exact .active before
        · cases tenant
      · rintro (pooled | before | tenant)
        · exact .warm pooled
        · apply Nearby.active
          refine (Finmap.lookup_insert_of_ne _ ?_).trans before
          rintro rfl
          exact inactive (Finmap.mem_of_lookup_eq_some before)
        · cases tenant
          have entry : (state.orchestrator.register runner candidate).broadcast.activeWorkers.lookup
              candidate.containerID = some ⟨candidate.containerID, candidate.ipAddress, runner⟩ :=
                Finmap.lookup_insert _
          exact .active entry
  | @dieEvent g key container between changed known dead fresh free reaped =>
      obtain ⟨later, books, reflects⟩ := reflects.reap assigned reaped fresh rfl
        (show Goroutine.tenancy (.death (if changed then .evaluating else .finished)) = none from rfl)
      exact ⟨later, books, reflects.idle (fun _ => Iff.rfl) rfl rfl rfl⟩
  | @abortActive g key worker found fresh free =>
      refine reflects.retire assigned rfl fresh (.active found) (fun _ => Iff.rfl) ?_ ?_
      · rintro who (pooled | again | tenant)
        · exact absurd (Finmap.mem_of_lookup_eq_some found) (assigned.exclusive.warm_active key pooled)
        · have erased : (state.orchestrator.removeActive key worker.runnerName).activeWorkers.lookup key = none :=
            Finmap.lookup_erase key state.orchestrator.activeWorkers
          cases erased.symm.trans again
        · cases tenant
      · intro id other
        exact Nearby.congr Iff.rfl (Finmap.lookup_erase_ne other) (by simp [Goroutine.tenancy])
  | abortUnknown absent fresh free =>
      exact unbooked (reflects.quiet rfl fresh (fun _ => Iff.rfl) fun id =>
        Nearby.congr Iff.rfl rfl (by simp [Goroutine.tenancy]))
  | kill found =>
      refine unbooked (reflects.quiet (remove_goroutines ..) found (fun _ => remove_unknown) ?_)
      rw [remove_orchestrator]
      exact fun id => Nearby.congr Iff.rfl rfl (fun _ => Iff.rfl)
  | @evaluate g outcome caller later found goes free =>
      obtain ⟨paused, managers, frame⟩ := state.evaluateCapacity_frame interfaces.pauser outcome
      refine ⟨ledger, .inl rfl, ?_⟩
      rw [frame]
      refine reflects.quiet rfl found (fun _ => Iff.rfl) fun id => Nearby.congr Iff.rfl rfl fun who => ?_
      unfold afterEvaluation at goes
      split at goes <;> cases goes <;> exact Iff.rfl
  | die alive =>
      refine unbooked (reflects.idle (fun _ => stop_unknown) (stop_goroutines ..) ?_ ?_)
      · rw [stop_orchestrator]
      · rw [stop_orchestrator]

/-- Whoever a call has handed a container to has the lease, or it has ended. -/
def Awarded (state : System Managers) (ledger : LeaseBook ContainerID RunnerName) : Prop :=
  ∀ g goroutine id runner, state.goroutines.lookup g = some goroutine → goroutine.registered = some (id, runner) →
    .leased runner ≤ ledger id

/-- A call is awarded what it has the use of, and keeps its award. -/
theorem Progress.award {action : Action Event Outcome} {g : GoroutineID} {old : Option Goroutine} {new : Goroutine}
    {id : ContainerID} {runner : RunnerName} (progress : Progress action g old new)
    (awarded : new.registered = some (id, runner)) :
    ∃ before, old = some before ∧
      (before.registered = some (id, runner) ∨ before.tenancy = some (id, some runner)) := by
  cases progress with
  | boot | boots | death | deaths | abort | aborts | cancels | renames | lives | dies | discards => cases awarded
  | begins begun picked | wakes picked | retries picked =>
      cases picked <;> cases awarded
  | registers registered =>
      cases awarded
      exact ⟨_, rfl, .inr rfl⟩
  | marks | returns =>
      cases awarded
      exact ⟨_, rfl, .inl rfl⟩

theorem awarded_step (interfaces : Interfaces Managers Event Outcome) {state after : System Managers}
    {action : Action Event Outcome} {ledger later : LeaseBook ContainerID RunnerName} (assigned : Assigned state)
    (reflects : state.Reflects ledger) (awarded : state.Awarded ledger) (rises : ledger ≤ later)
    (effect : Effect interfaces state action after) : after.Awarded later := by
  intro g goroutine id runner found award
  apply le_trans _ (rises id)
  have resumes := effect_resumes effect g
  rw [found] at resumes
  generalize before : state.goroutines.lookup g = old at resumes
  cases resumes with
  | same => exact awarded g goroutine id runner before award
  | progresses progress =>
      obtain ⟨earlier, rfl, had | tenant⟩ := progress.award award
      · exact awarded g earlier id runner before had
      · have held : state.Held id (some runner) := by
          refine ⟨g, .carried ?_⟩
          rw [before]
          exact tenant
        rw [assigned.one_stage (reflects id) (.leased held)]

theorem exists_ledger (state : System Managers) : ∃ ledger, state.Reflects ledger :=
  ⟨fun id => (state.stands id).choose, fun id => (state.stands id).choose_spec⟩

/-- The relation of the simulation. -/
structure Leases (state : System Managers) (ledger : LeaseBook ContainerID RunnerName) : Prop where
  assigned : Assigned state
  reflects : state.Reflects ledger
  awarded : state.Awarded ledger

theorem Leases.stands_iff {state : System Managers} {ledger : LeaseBook ContainerID RunnerName}
    (leases : Leases state ledger)
    (id : ContainerID) (stage : Tenure RunnerName) : state.Stands id stage ↔ stage = ledger id := by
  constructor
  · intro stands
    exact leases.assigned.one_stage stands (leases.reflects id)
  · rintro rfl
    exact leases.reflects id

/-- A run of the orchestrator is a run of the ledger. -/
theorem Leases.run (interfaces : Interfaces Managers Event Outcome) {state after : System Managers}
    {ledger : LeaseBook ContainerID RunnerName} (leases : Leases state ledger)
    (further : Reaches (step interfaces) (· = state) everyStep after) :
    ∃ later, Reaches LeaseBook.step (· = ledger) everyStep later ∧ Leases after later := by
  apply further.simulated
  · rintro _ rfl
    exact ⟨ledger, rfl, leases⟩
  · intro between action after before _ _ leases _ taken
    have effect := step_effect interfaces taken
    obtain ⟨later, books, reflects⟩ := reflects_step interfaces leases.assigned leases.reflects effect
    have answered := books.reaches
    have awarded := awarded_step interfaces leases.assigned leases.reflects leases.awarded
      (LeaseBook.reaches_le answered) effect
    exact ⟨later, answered, assigned_step interfaces leases.assigned effect, reflects, awarded⟩

theorem started_leases {maxWorkers warmWorkers : Int} {managers : Managers} {state : System Managers}
    (started : Started maxWorkers warmWorkers managers state) : ∃ ledger, Leases state ledger := by
  obtain ⟨ledger, reflects⟩ := state.exists_ledger
  refine ⟨ledger, assigned_booted started, reflects, ?_⟩
  intro g goroutine id runner found
  rw [(started_sound started).1] at found
  cases found

/-- The orchestrator refines a ledger on which every container is leased at most once: between
any two states of a run the stages change by transactions alone, and only forwards. -/
theorem leases_refined (interfaces : Interfaces Managers Event Outcome) (maxWorkers warmWorkers : Int)
    (managers : Managers) (state after : System Managers)
    (reached : Reaches (step interfaces) (Started maxWorkers warmWorkers managers) everyStep state)
    (further : Reaches (step interfaces) (· = state) everyStep after) :
    ∃ before later : LeaseBook ContainerID RunnerName,
      (∀ id stage, state.Stands id stage ↔ stage = before id) ∧
      (∀ id stage, after.Stands id stage ↔ stage = later id) ∧
      Reaches LeaseBook.step (· = before) everyStep later ∧ before ≤ later ∧ after.Awarded later := by
  obtain ⟨first, started, reached⟩ := reached.origin
  obtain ⟨opening, leases⟩ := started_leases started
  obtain ⟨before, _, leases⟩ := leases.run interfaces reached
  obtain ⟨later, answered, still⟩ := leases.run interfaces further
  exact ⟨before, later, leases.stands_iff, still.stands_iff, answered, LeaseBook.reaches_le answered, still.awarded⟩

/-- A recovered container waits in the pool, and is then the lease of the call that claimed it. -/
theorem leases_refined_claimed : ∃ before later : LeaseBook ContainerID RunnerName, before "c1" = .idle ∧
    later "c1" = .leased "r" ∧ Reaches LeaseBook.step (· = before) everyStep later ∧ before ≤ later := by
  obtain ⟨after, further, held⟩ : ∃ after, Reaches (step Interfaces.silent) (· = oneWarm 1 1) everyStep after ∧
      after.orchestrator.activeWorkers.lookup "c1" = some ⟨"c1", "10.0.0.1", "r"⟩ := by
    refine Reaches.of_replay rfl [.allocate 0 "r" (some "c1"), .rename 0 (some "2"), .check 0 true, .register 0,
      .markBusy 0, .evaluate 0 ()] ?_
    decide
  obtain ⟨before, later, first, last, answered, rises, _⟩ :=
    leases_refined Interfaces.silent 1 1 () (oneWarm 1 1) after (.start (oneWarm_started 1 1)) further
  have pooled : (oneWarm 1 1).Stands "c1" .idle := .idle ⟨0, .warm (by decide)⟩
  have leased : after.Stands "c1" (.leased "r") := .leased ⟨0, .active held⟩
  exact ⟨before, later, ((first "c1" .idle).mp pooled).symm, ((last "c1" _).mp leased).symm, answered, rises⟩

end System

end RunnersMux
