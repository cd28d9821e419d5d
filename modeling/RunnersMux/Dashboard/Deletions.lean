import RunnersMux.Foundations.Transitions
import RunnersMux.Dashboard.Service
import RunnersMux.ScaleSet.Cancelling

/-! What a `DeleteRunner` does to a runner that is created later under its name.

The clean-up goes by name and mode. Whatever a step of it reaches therefore
belongs to a runner of the same mode, and to a later one as soon as there is one.
-/

set_option autoImplicit false

namespace RunnersMux

open Foundations

namespace Deletion

/-- The thread whose `Stop` a deletion waits for. -/
def waits (deletion : Deletion) : Option ThreadID :=
  match deletion.phase with
  | .halting t | .removing t => some t
  | _ => none

/-- The steps of a deletion: the request's own, and those of its `Stop` calls. -/
def acts (d : ClientID) (deletion : Deletion) : DeploymentEvent → Bool
  | .removeRunner own _ | .proceed own _ => own = d
  | .standalone (.own (.run t _)) => deletion.row.mode = "standalone" && deletion.waits = some t
  | .scaleset (.run t _) => deletion.row.mode = "scaleset" && deletion.waits = some t
  | _ => false

end Deletion

namespace Deployment

/-- No later runner of the name and the mode of a deletion is underway when the deletion takes a
step: no `InitializeEnvironment` of one has begun, and no listener goroutine has been spawned. -/
def Clear (s : Deployment) (event : DeploymentEvent) : Prop :=
  ∀ d deletion, s.deletions.lookup d = some deletion → deletion.acts d event = true →
    ∀ row ∈ s.underway, row.name = deletion.row.name → deletion.row.id < row.id → row.mode ≠ deletion.row.mode

instance (s : Deployment) (event : DeploymentEvent) : Decidable (s.Clear event) :=
  inferInstanceAs (Decidable (∀ d deletion, s.deletions.lookup d = some deletion → _))

section
variable (before after : Deployment) (row : RunnerRow)

/-- A listener of the runner is sent a signal that ends it, or has its context cancelled. -/
def Stops : Prop :=
  (∃ t todo pid, before.configs.lookup t = some row ∧
      before.service.standalone.threads.lookup t = some (.lifecycle row.name todo) ∧ pid ∈ owners todo ∧
      (before.service.standalone.manager.groups.lookup pid).any (fun group => group.live && !group.terminated) = true ∧
      (after.service.standalone.manager.groups.lookup pid).any ProcessGroup.terminated = true) ∨
    ∃ g phase context, before.launches.lookup g = some row ∧
      before.service.scaleset.threads.lookup g = some (.listener row.name phase) ∧
      (row.name, context) ∈ ScaleSetThread.holds (.listener row.name phase) ∧
      context ∉ before.service.scaleset.manager.cancelled ∧ context ∈ after.service.scaleset.manager.cancelled

def RemovesDirectory : Prop :=
  ∃ dir environment, before.dirs.lookup dir = some environment ∧ environment.user = row ∧ after.dirs.lookup dir = none

/-- A registration or a scale set of the runner is gone from GitHub. -/
def Deregisters : Prop :=
  (∃ registration, before.registrations.lookup registration = some row ∧
      after.registrations.lookup registration = none) ∨
    ∃ key scaleSet, before.scaleSets.lookup key = some scaleSet ∧ scaleSet.user = row ∧
      after.scaleSets.lookup key = none

end

end Deployment

namespace Deletion

variable {d : ClientID} {deletion : Deletion}

theorem acts_standalone {call : Call} (acts : deletion.acts d (.standalone call) = true) :
    deletion.row.mode = "standalone" := by
  unfold Deletion.acts at acts
  split at acts
  · next equal => cases equal
  · next equal => cases equal
  · exact of_decide_eq_true (Bool.and_eq_true_iff.mp acts).1
  · next equal => cases equal
  · cases acts

theorem acts_scaleset {event : ScaleSetEvent} (acts : deletion.acts d (.scaleset event) = true) :
    deletion.row.mode = "scaleset" := by
  unfold Deletion.acts at acts
  split at acts
  · next equal => cases equal
  · next equal => cases equal
  · next equal => cases equal
  · exact of_decide_eq_true (Bool.and_eq_true_iff.mp acts).1
  · cases acts

end Deletion

/-- A section that only a lifecycle whose environment is prepared comes to. -/
def Section.begun : Section → Bool
  | .initializeEnvironment _ | .fail _ _ => false
  | _ => true

/-- A lifecycle gets past `InitializeEnvironment` by that section, and by no other. -/
theorem begun_step {s after : Standalone} {call : Call} (taken : s.step call = some after) {t : ThreadID}
    {name : RunnerName} {todo : List Section} (found : after.threads.lookup t = some (.lifecycle name todo))
    (begun : ∃ later ∈ todo, later.begun = true) :
    (∃ old, s.threads.lookup t = some (.lifecycle name old) ∧ ∃ later ∈ old, later.begun = true) ∨
      ∃ answer entry rest, call = .own (.run t answer) ∧ answer.error = none ∧
        s.threads.lookup t = some (.lifecycle name (.initializeEnvironment entry :: rest)) := by
  cases call with
  | own event =>
      cases act_moves taken with
      | start fresh started =>
          rw [Standalone.lookup_resume] at found
          split at found
          · cases found
            obtain ⟨later, member, works⟩ := begun
            cases List.mem_singleton.mp member
            cases works
          · exact .inl ⟨todo, found, begun⟩
      | stop fresh stopped | advance here advanced =>
          rw [Standalone.lookup_resume] at found
          split at found
          · cases found
          · exact .inl ⟨todo, found, begun⟩
      | @perform u answer runner head added rest manager here performed =>
          rw [Standalone.lookup_resume] at found
          split at found
          · next same =>
              subst same
              cases found
              obtain ⟨later, member, works⟩ := begun
              rcases List.mem_append.mp member with new | old
              -- What a section adds is past the preparation only if the section is, or is the preparation.
              · cases own : head.begun with
                | true => exact .inl ⟨_, here, head, List.mem_cons_self, own⟩
                | false =>
                    cases head with
                    | initializeEnvironment entry =>
                        cases perform_performs performed with
                        | prepareFail failed =>
                            cases List.mem_singleton.mp new
                            cases works
                        | prepare clean => exact .inr ⟨answer, entry, rest, rfl, clean, here⟩
                    | fail entry text =>
                        cases performed
                        cases new
                    | _ => cases own
              · exact .inl ⟨_, here, later, List.mem_cons_of_mem _ old, works⟩
          · exact .inl ⟨todo, found, begun⟩
      | exit alive => exact .inl ⟨todo, found, begun⟩
  | lockOthers outcome activeRunners | unlockOthers outcome | markBusy name | markIdle name =>
      cases taken
      exact .inl ⟨todo, found, begun⟩

/-- A lifecycle is never given up. -/
theorem lifecycle_lasts {s after : Standalone} {call : Call} (taken : s.step call = some after) {t : ThreadID}
    {name : RunnerName} {todo : List Section} (found : s.threads.lookup t = some (.lifecycle name todo)) :
    ∃ later, after.threads.lookup t = some (.lifecycle name later) := by
  cases call with
  | own event =>
      cases act_moves taken with
      | @start u | @stop u =>
          refine ⟨todo, ?_⟩
          rw [Standalone.lookup_resume, if_neg, found]
          rintro rfl
          rename s.threads.lookup t = none => fresh
          cases fresh.symm.trans found
      | @advance u _ _ _ _ _ here =>
          refine ⟨todo, ?_⟩
          rw [Standalone.lookup_resume, if_neg, found]
          rintro rfl
          cases here.symm.trans found
      | @perform u answer runner head added rest manager here performed =>
          by_cases same : t = u
          · subst same
            cases here.symm.trans found
            exact ⟨added ++ rest, (Standalone.lookup_resume t).trans (if_pos rfl)⟩
          · exact ⟨todo, (Standalone.lookup_resume t).trans ((if_neg same).trans found)⟩
      | exit alive => exact ⟨todo, found⟩
  | lockOthers outcome activeRunners | unlockOthers outcome | markBusy name | markIdle name =>
      cases taken
      exact ⟨todo, found⟩

/-- A launch begins in a `Start`. -/
theorem launch_step {s after : ScaleSet} {event : ScaleSetEvent} (taken : s.step event = some after) {t : ThreadID}
    {name : RunnerName} {phase : LaunchPhase} (found : after.threads.lookup t = some (.launch name phase)) :
    (∃ old, s.threads.lookup t = some (.launch name old)) ∨ event = .start t name := by
  cases ScaleSet.step_moves taken with
  | start fresh started =>
      rw [ScaleSet.lookup_resume] at found
      split at found
      · next same =>
          cases found
          exact .inr (same ▸ rfl)
      · exact .inl ⟨phase, found⟩
  | spawn here fresh =>
      rw [ScaleSet.lookup_resume, ScaleSet.lookup_resume] at found
      split at found
      · cases found
      · split at found
        · next same =>
            cases found
            exact .inl ⟨_, same ▸ here⟩
        · exact .inl ⟨phase, found⟩
  | stop fresh stopped | listen here listens | halt here table counter =>
      rw [ScaleSet.lookup_resume] at found
      split at found
      · cases found
      · exact .inl ⟨phase, found⟩
  | launch here launches =>
      rw [ScaleSet.lookup_resume] at found
      split at found
      · next same =>
          cases found
          exact .inl ⟨_, same ▸ here⟩
      · exact .inl ⟨phase, found⟩
  | markBusy | markIdle => exact .inl ⟨phase, found⟩

/-- A listener is spawned by its launch. -/
theorem listener_step {s after : ScaleSet} {event : ScaleSetEvent} (taken : s.step event = some after) {g : ThreadID}
    {name : RunnerName} {phase : ListenerPhase} (found : after.threads.lookup g = some (.listener name phase)) :
    (∃ old, s.threads.lookup g = some (.listener name old)) ∨
      ∃ t entry context, event = .spawn t g ∧ s.threads.lookup t = some (.launch name (.spawning entry context)) := by
  cases ScaleSet.step_moves taken with
  | @spawn t other runner entry context here fresh =>
      rw [ScaleSet.lookup_resume, ScaleSet.lookup_resume] at found
      split at found
      · next same =>
          cases found
          exact .inr ⟨t, entry, context, same ▸ rfl, here⟩
      · split at found
        · cases found
        · exact .inl ⟨phase, found⟩
  | start fresh started | stop fresh stopped | launch here launches | halt here table counter =>
      rw [ScaleSet.lookup_resume] at found
      split at found
      · cases found
      · exact .inl ⟨phase, found⟩
  | listen here listens =>
      rw [ScaleSet.lookup_resume] at found
      split at found
      · next same =>
          cases found
          exact .inl ⟨_, same ▸ here⟩
      · exact .inl ⟨phase, found⟩
  | markBusy | markIdle => exact .inl ⟨phase, found⟩

/-- A mode that the table accepts. -/
def RunnerRow.Moded (row : RunnerRow) : Prop := row.mode = "standalone" ∨ row.mode = "scaleset"

/-- The mode of the runner for which a deletion has got to a phase. -/
def DeletePhase.mode : DeletePhase → Option String
  | .unregistering | .clearing => some "standalone"
  | .dropping _ => some "scaleset"
  | _ => none

namespace Deployment

/-- The rows that requests have in hand. -/
structure Tabled (s : Deployment) : Prop where
  rows : ∀ name row, s.rows.lookup name = some row → row.Moded
  creating : ∀ c row, s.creating.lookup c = some row → row.Moded
  updating : ∀ u row, s.updating.lookup u = some row → row.Moded
  deletions : ∀ d deletion, s.deletions.lookup d = some deletion → deletion.row.Moded ∧
    ∀ mode ∈ deletion.phase.mode, deletion.row.mode = mode

/-- A thread of a manager has a row of its mode, which is underway once there is anything of it
outside the process. -/
structure Staffed (s : Deployment) : Prop where
  configs : ∀ t row, s.configs.lookup t = some row → row.mode = "standalone"
  launches : ∀ t row, s.launches.lookup t = some row → row.mode = "scaleset"
  begun : ∀ t name todo row, s.service.standalone.threads.lookup t = some (.lifecycle name todo) →
    (∃ later ∈ todo, later.begun = true) → s.configs.lookup t = some row → row ∈ s.underway
  preparing : ∀ t phase, s.preparing.lookup t = some phase →
    (∃ name todo, s.service.standalone.threads.lookup t = some (.lifecycle name todo)) ∧
      ∃ row ∈ s.configs.lookup t, row ∈ s.underway
  launched : ∀ t name phase, s.service.scaleset.threads.lookup t = some (.launch name phase) →
    ∃ row, s.launches.lookup t = some row
  listening : ∀ g name phase row, s.service.scaleset.threads.lookup g = some (.listener name phase) →
    s.launches.lookup g = some row → row ∈ s.underway

/-- What there is outside the process was made for a runner of its mode that is underway. -/
structure Peopled (s : Deployment) : Prop where
  dirs : ∀ dir environment, s.dirs.lookup dir = some environment →
    environment.user ∈ s.underway ∧ environment.user.mode = "standalone"
  registrations : ∀ registration row, s.registrations.lookup registration = some row →
    row ∈ s.underway ∧ row.mode = "standalone"
  scaleSets : ∀ key scaleSet, s.scaleSets.lookup key = some scaleSet →
    scaleSet.user ∈ s.underway ∧ scaleSet.user.mode = "scaleset"

variable {s after : Deployment}

/-- No thread, no row of a thread and no runner underway is new. -/
theorem Staffed.same (staffed : s.Staffed)
    (lifecycles : ∀ t name todo, after.service.standalone.threads.lookup t = some (.lifecycle name todo) ↔
      s.service.standalone.threads.lookup t = some (.lifecycle name todo))
    (starts : ∀ t name phase, after.service.scaleset.threads.lookup t = some (.launch name phase) ↔
      s.service.scaleset.threads.lookup t = some (.launch name phase))
    (listeners : ∀ g name phase, after.service.scaleset.threads.lookup g = some (.listener name phase) ↔
      s.service.scaleset.threads.lookup g = some (.listener name phase))
    (configs : after.configs = s.configs) (launches : after.launches = s.launches)
    (preparing : after.preparing = s.preparing) (underway : after.underway = s.underway) : after.Staffed := by
  obtain ⟨modes, others, begun, prepares, launched, listening⟩ := staffed
  constructor
  · rw [configs]
    exact modes
  · rw [launches]
    exact others
  · rw [configs, underway]
    exact fun t name todo row found => begun t name todo row ((lifecycles t name todo).mp found)
  · intro t phase found
    rw [preparing] at found
    obtain ⟨⟨name, todo, here⟩, mine⟩ := prepares t phase found
    rw [configs, underway]
    exact ⟨⟨name, todo, (lifecycles t name todo).mpr here⟩, mine⟩
  · rw [launches]
    exact fun t name phase found => launched t name phase ((starts t name phase).mp found)
  · rw [launches, underway]
    exact fun g name phase row found => listening g name phase row ((listeners g name phase).mp found)

theorem Peopled.same (peopled : s.Peopled) (dirs : after.dirs = s.dirs)
    (registrations : after.registrations = s.registrations) (scaleSets : after.scaleSets = s.scaleSets)
    (underway : s.underway ⊆ after.underway) : after.Peopled := by
  constructor
  · rw [dirs]
    exact fun dir environment found => (peopled.dirs dir environment found).imp_left (underway ·)
  · rw [registrations]
    exact fun registration row found => (peopled.registrations registration row found).imp_left (underway ·)
  · rw [scaleSets]
    exact fun key scaleSet found => (peopled.scaleSets key scaleSet found).imp_left (underway ·)

/-- A step of the standalone manager that starts nothing. -/
theorem Staffed.standalone {call : Call} {standalone : Standalone} (staffed : s.Staffed)
    (taken : s.service.standalone.step call = some standalone)
    (service : after.service = { s.service with standalone }) (configs : after.configs = s.configs)
    (launches : after.launches = s.launches) (preparing : after.preparing = s.preparing)
    (underway : after.underway = s.underway) (ready : s.unprepared call = false) : after.Staffed := by
  constructor
  · rw [configs]
    exact staffed.configs
  · rw [launches]
    exact staffed.launches
  · intro t name todo row found begun mine
    rw [service] at found
    rw [configs] at mine
    rw [underway]
    rcases begun_step taken found begun with ⟨old, before, also⟩ | ⟨answer, entry, rest, rfl, clean, before⟩
    · exact staffed.begun t name old row before also mine
    · -- The section waits for the calls of its `InitializeEnvironment`.
      simp [unprepared, before] at ready
      obtain ⟨_, own, held, member⟩ := staffed.preparing t _ ready
      cases mine.symm.trans held
      exact member
  · intro t phase found
    rw [preparing] at found
    obtain ⟨⟨name, todo, here⟩, mine⟩ := staffed.preparing t phase found
    rw [service, configs, underway]
    exact ⟨(lifecycle_lasts taken here).elim fun later now => ⟨name, later, now⟩, mine⟩
  · rw [service, launches]
    exact staffed.launched
  · rw [service, launches, underway]
    exact staffed.listening

/-- A step of the scale set manager that starts nothing. -/
theorem Staffed.scaleset {event : ScaleSetEvent} {scaleset : ScaleSet} (staffed : s.Staffed)
    (idle : event.starts = none) (taken : s.service.scaleset.step event = some scaleset)
    (service : after.service = { s.service with scaleset }) (configs : after.configs = s.configs)
    (launches : after.launches = (s.spawned event).launches) (preparing : after.preparing = s.preparing)
    (underway : after.underway = (s.spawned event).underway) : after.Staffed := by
  -- A spawned goroutine has the row of its launch, and no other row changes.
  have spawns : (∃ t g name entry context row, event = .spawn t g ∧
      s.service.scaleset.threads.lookup t = some (.launch name (.spawning entry context)) ∧
      s.launches.lookup t = some row ∧ s.spawned event =
        { s with launches := s.launches.insert g row, underway := s.underway.insert row }) ∨
      (∀ t g, event ≠ .spawn t g) ∧ s.spawned event = s := by
    cases event with
    | spawn t g =>
        left
        cases ScaleSet.step_moves taken with
        | @spawn _ _ name entry context here fresh =>
            obtain ⟨row, mine⟩ := staffed.launched t name _ here
            refine ⟨t, g, name, entry, context, row, rfl, here, mine, ?_⟩
            simp only [spawned, mine]
    | _ => exact .inr ⟨nofun, rfl⟩
  have grows : s.underway ⊆ after.underway := by
    rw [underway]
    rcases spawns with ⟨_, _, _, _, _, _, _, _, _, same⟩ | ⟨_, same⟩ <;> rw [same]
    · exact List.subset_insert _ _
    · exact List.Subset.refl _
  have others {g : ThreadID} (old : ∀ t, event ≠ .spawn t g) : after.launches.lookup g = s.launches.lookup g := by
    rw [launches]
    rcases spawns with ⟨t, other, _, _, _, _, rfl, _, _, same⟩ | ⟨_, same⟩ <;> rw [same]
    refine Finmap.lookup_insert_of_ne _ ?_
    rintro rfl
    exact old t rfl
  constructor
  · rw [configs]
    exact staffed.configs
  · intro g row mine
    rw [launches] at mine
    rcases spawns with ⟨t, other, _, _, _, own, _, _, had, same⟩ | ⟨_, same⟩ <;> rw [same] at mine
    · rcases Map.lookup_of_insert mine with ⟨_, rfl⟩ | ⟨_, old⟩
      · exact staffed.launches t _ had
      · exact staffed.launches g row old
    · exact staffed.launches g row mine
  · rw [service, configs]
    exact fun t name todo row found begun mine => grows (staffed.begun t name todo row found begun mine)
  · rw [service, configs, preparing]
    intro t phase found
    obtain ⟨lifecycle, row, mine, member⟩ := staffed.preparing t phase found
    exact ⟨lifecycle, row, mine, grows member⟩
  · intro t name phase found
    rw [service] at found
    rcases launch_step taken found with ⟨old, before⟩ | rfl
    · obtain ⟨row, mine⟩ := staffed.launched t name old before
      refine ⟨row, (others fun u spawn => ?_).trans mine⟩
      subst spawn
      cases ScaleSet.step_moves taken with
      | spawn here fresh => cases before.symm.trans fresh
    · cases idle
  · intro g name phase row found mine
    rw [service] at found
    rcases listener_step taken found with ⟨old, before⟩ | ⟨t, entry, context, rfl, here⟩
    · refine grows (staffed.listening g name old row before ((others fun u spawn => ?_).symm.trans mine))
      subst spawn
      cases ScaleSet.step_moves taken with
      | spawn here fresh => cases before.symm.trans fresh
    · obtain ⟨own, had⟩ := staffed.launched t name _ here
      rw [launches] at mine
      rw [underway]
      simp only [spawned, had] at mine ⊢
      cases (Finmap.lookup_insert _).symm.trans mine
      exact List.mem_insert_self

/-- An accepted `Start`, whatever becomes of the pending requests. -/
theorem Staffed.started {t : ThreadID} {row : RunnerRow} {service : RunnerService} (staffed : s.Staffed)
    (moded : row.Moded) (added : s.service.addRunner t row.name row.mode = some service) (updates : Map UpdateID Update) :
    Staffed (s.started t row { service with updates }) := by
  unfold RunnerService.addRunner at added
  rcases moded with mode | mode
  · rw [if_pos (.inl mode)] at added
    obtain ⟨standalone, taken, rfl⟩ := Option.map_eq_some_iff.mp added
    have stepped : s.service.standalone.step (.own (.start t row.name)) = some standalone := taken
    -- The thread is a new one, so that no lifecycle of it can be past its preparation.
    have fresh (name : RunnerName) (old : List Section)
        (before : s.service.standalone.threads.lookup t = some (.lifecycle name old)) : False := by
      cases act_moves taken with
      | start fresh started => cases before.symm.trans fresh
    simp only [Deployment.started, mode]
    rw [if_neg (by decide)]
    constructor
    · intro other own mine
      rcases Map.lookup_of_insert mine with ⟨_, rfl⟩ | ⟨_, old⟩
      · exact mode
      · exact staffed.configs other own old
    · exact staffed.launches
    · intro other name todo own found begun mine
      rcases begun_step stepped found begun with ⟨old, before, also⟩ | ⟨_, _, _, ⟨⟩, _⟩
      rcases Map.lookup_of_insert mine with ⟨same, _⟩ | ⟨_, kept⟩
      · exact (fresh name old (same ▸ before)).elim
      · exact staffed.begun other name old own before also kept
    · intro other phase found
      obtain ⟨⟨name, todo, here⟩, own, mine, member⟩ := staffed.preparing other phase found
      have apart : other ≠ t := fun same => fresh name todo (same ▸ here)
      exact ⟨(lifecycle_lasts stepped here).elim fun later now => ⟨name, later, now⟩, own,
        (Finmap.lookup_insert_of_ne _ apart).trans mine, member⟩
    · exact staffed.launched
    · exact staffed.listening
  · rw [mode, if_neg (by decide), if_pos rfl] at added
    obtain ⟨scaleset, taken, rfl⟩ := Option.map_eq_some_iff.mp added
    have fresh : s.service.scaleset.threads.lookup t = none := by
      cases ScaleSet.step_moves taken with
      | start fresh started => exact fresh
    simp only [Deployment.started, mode]
    rw [if_pos trivial]
    constructor
    · exact staffed.configs
    · intro other own mine
      rcases Map.lookup_of_insert mine with ⟨_, rfl⟩ | ⟨_, old⟩
      · exact mode
      · exact staffed.launches other own old
    · exact staffed.begun
    · exact staffed.preparing
    · intro other name phase found
      by_cases same : other = t
      · exact ⟨row, same ▸ Finmap.lookup_insert _⟩
      · rcases launch_step taken found with ⟨old, before⟩ | equal
        · obtain ⟨own, mine⟩ := staffed.launched other name old before
          exact ⟨own, (Finmap.lookup_insert_of_ne _ same).trans mine⟩
        · cases equal
          exact absurd rfl same
    · intro g name phase own found mine
      rcases listener_step taken found with ⟨old, before⟩ | ⟨_, _, _, ⟨⟩, _⟩
      rcases Map.lookup_of_insert mine with ⟨same, _⟩ | ⟨_, kept⟩
      · rw [same, fresh] at before
        cases before
      · exact staffed.listening g name old own before kept

/-- The first section of a `Stop` moves no thread but its own, which is no tenant. -/
theorem removeRunner_frame {service : RunnerService} {t : ThreadID} {name : RunnerName} {force halts : Bool}
    {mode : String} (removed : s.service.removeRunner t name force mode = some (service, halts)) :
    (∀ other name todo, service.standalone.threads.lookup other = some (.lifecycle name todo) ↔
        s.service.standalone.threads.lookup other = some (.lifecycle name todo)) ∧
      (∀ other name phase, service.scaleset.threads.lookup other = some (.launch name phase) ↔
        s.service.scaleset.threads.lookup other = some (.launch name phase)) ∧
      (∀ other name phase, service.scaleset.threads.lookup other = some (.listener name phase) ↔
        s.service.scaleset.threads.lookup other = some (.listener name phase)) ∧
      service.standalone.manager.groups = s.service.standalone.manager.groups ∧
      service.scaleset.manager.cancelled = s.service.scaleset.manager.cancelled := by
  unfold RunnerService.removeRunner at removed
  split at removed
  · split at removed
    · obtain ⟨standalone, taken, same⟩ := Option.map_eq_some_iff.mp removed
      cases same
      refine ⟨?_, fun _ _ _ => Iff.rfl, fun _ _ _ => Iff.rfl, ?_, rfl⟩
      · cases act_moves taken with
        | stop fresh stopped =>
            refine Standalone.lookup_resume_stop fun name todo found => ?_
            cases fresh.symm.trans found
      · cases act_moves taken with
        | stop fresh stopped => rfl
    · cases removed
      exact ⟨fun _ _ _ => Iff.rfl, fun _ _ _ => Iff.rfl, fun _ _ _ => Iff.rfl, rfl, rfl⟩
  · split at removed
    · split at removed
      · obtain ⟨scaleset, taken, same⟩ := Option.map_eq_some_iff.mp removed
        cases same
        cases ScaleSet.step_moves taken with
        | @stop _ _ processes fresh stopped =>
            have kept (other : ThreadID) (thread : ScaleSetThread) (no : ∀ name phase, thread ≠ .halt name phase) :
                (s.service.scaleset.resume t (.halt name .halting)
                    { s.service.scaleset.manager with processes }).threads.lookup other = some thread ↔
                  s.service.scaleset.threads.lookup other = some thread := by
              rw [ScaleSet.lookup_resume]
              split
              · next same =>
                  subst same
                  rw [fresh]
                  constructor
                  · rintro ⟨⟩
                    exact absurd rfl (no name .halting)
                  · nofun
              · exact Iff.rfl
            exact ⟨fun _ _ _ => Iff.rfl, fun other name phase => kept other _ nofun,
              fun other name phase => kept other _ nofun, rfl, rfl⟩
      · cases removed
        exact ⟨fun _ _ _ => Iff.rfl, fun _ _ _ => Iff.rfl, fun _ _ _ => Iff.rfl, rfl, rfl⟩
    · cases removed
      exact ⟨fun _ _ _ => Iff.rfl, fun _ _ _ => Iff.rfl, fun _ _ _ => Iff.rfl, rfl, rfl⟩

/-- What a deletion does besides its `Stop` calls. -/
inductive Deletes (s : Deployment) (row : RunnerRow) (phase : DeletePhase) : Deployment → Prop where
  | nothing : Deletes s row phase s
  | deleteRow (is : phase = .deleting) : Deletes s row phase { s with rows := s.rows.erase row.name }
  | unregister {user : RunnerRow} {registration : Nat} (is : phase = .unregistering)
      (found : s.dirs.lookup row.dir = some ⟨user, some registration⟩) : Deletes s row phase { s with
        dirs := s.dirs.insert row.dir ⟨user, none⟩
        registrations := s.registrations.erase registration }
  | clear (is : phase = .clearing) : Deletes s row phase { s with dirs := s.dirs.erase row.dir }
  | drop {id : Nat} (is : phase = .dropping id) :
      Deletes s row phase { s with scaleSets := s.scaleSets.erase row.scaleSetKey }

/-- The next phase of a deletion is for the mode of its row as well. -/
theorem delete_deletes {deletion : Deletion} {ok : Bool} {phase : DeletePhase}
    (deleted : s.delete deletion ok = some (after, phase)) (moded : deletion.row.Moded)
    (mine : ∀ mode ∈ deletion.phase.mode, deletion.row.mode = mode) :
    Deletes s deletion.row deletion.phase after ∧ ∀ mode ∈ phase.mode, deletion.row.mode = mode := by
  unfold delete at deleted
  generalize old : deletion.phase = before at deleted mine
  cases before with
  | halting t | removing t =>
      dsimp only at deleted
      split at deleted <;> cases deleted
      exact ⟨.nothing, nofun⟩
  | deleting =>
      cases deleted
      exact ⟨.deleteRow rfl, nofun⟩
  | deregistering =>
      dsimp only at deleted
      split at deleted
      · next standalone =>
          split at deleted
          · cases deleted
            refine ⟨.nothing, ?_⟩
            split <;> rintro _ ⟨⟩ <;> exact standalone
          · cases deleted
            refine ⟨.nothing, ?_⟩
            rintro _ ⟨⟩
            exact standalone
      · next other =>
          have scaleset := moded.resolve_left other
          split at deleted
          · cases deleted
            refine ⟨.nothing, ?_⟩
            split
            · rintro _ ⟨⟩
              exact scaleset
            · nofun
          · cases deleted
            exact ⟨.nothing, nofun⟩
  | unregistering =>
      have standalone := mine "standalone" rfl
      have clears : ∀ mode ∈ DeletePhase.clearing.mode, deletion.row.mode = mode := by
        rintro _ ⟨⟩
        exact standalone
      dsimp only at deleted
      split at deleted
      · next user registration found =>
          split at deleted <;> cases deleted
          · exact ⟨.unregister rfl found, clears⟩
          · exact ⟨.nothing, clears⟩
      · cases deleted
        exact ⟨.nothing, clears⟩
  | clearing =>
      cases deleted
      refine ⟨?_, nofun⟩
      split
      · exact .nothing
      · exact .clear rfl
  | dropping id =>
      dsimp only at deleted
      split at deleted
      · split at deleted <;> cases deleted
        · exact ⟨.drop rfl, nofun⟩
        · exact ⟨.nothing, nofun⟩
      · cases deleted
        exact ⟨.nothing, nofun⟩
  | stopping | sleeping | done => cases deleted

/-- A row keeps its mode in every request, and a deletion its row. -/
theorem Tabled.step {event : DeploymentEvent} (tabled : s.Tabled) (taken : s.step event = some after) : after.Tabled := by
  obtain ⟨rows, creating, updating, deletions⟩ := tabled
  cases step_moves taken with
  | createRunner fresh unused valid is =>
      subst is
      exact ⟨Map.forall_insert rows valid, Map.forall_insert creating valid, updating, deletions⟩
  | @start c t row service found added =>
      obtain ⟨_, _, same⟩ := s.started_frame t row service
      rw [same]
      exact ⟨rows, Map.forall_erase creating c, updating, deletions⟩
  | @refuse c row found refused => exact ⟨rows, Map.forall_erase creating c, updating, deletions⟩
  | updateRunner found asked => exact ⟨rows, creating, Map.forall_insert updating (rows _ _ found), deletions⟩
  | ask asked => exact ⟨rows, creating, updating, deletions⟩
  | edit found known same =>
      have moded := rows _ _ known
      exact ⟨Map.forall_insert rows moded, creating, Map.forall_insert updating moded, deletions⟩
  | @add u t row service updates found added =>
      obtain ⟨_, _, same⟩ := s.started_frame t row { service with updates }
      rw [same]
      exact ⟨rows, creating, Map.forall_erase updating u, deletions⟩
  | deleteRunner found => exact ⟨rows, creating, updating, Map.forall_insert deletions ⟨rows _ _ found, nofun⟩⟩
  | removeRunner found removed goes =>
      refine ⟨rows, creating, updating, Map.forall_insert deletions ⟨(deletions _ _ found).1, ?_⟩⟩
      rcases goes with rfl | rfl | rfl | rfl <;> nofun
  | proceed found deleted =>
      have ⟨moded, mine⟩ := deletions _ _ found
      obtain ⟨deletes, next⟩ := delete_deletes deleted moded mine
      cases deletes with
      | deleteRow => exact ⟨Map.forall_erase rows _, creating, updating, Map.forall_insert deletions ⟨moded, next⟩⟩
      | _ => exact ⟨rows, creating, updating, Map.forall_insert deletions ⟨moded, next⟩⟩
  | prepare here mine prepares =>
      obtain ⟨_, _, _, rfl⟩ := prepares.frame
      exact ⟨rows, creating, updating, deletions⟩
  | standalone idle taken ready => exact ⟨rows, creating, updating, deletions⟩
  | @scaleset event scaleset idle taken =>
      obtain ⟨_, _, same, _⟩ := s.spawned_frame event
      rw [same]
      exact ⟨rows, creating, updating, deletions⟩
  | acquire here mine => exact ⟨rows, creating, updating, deletions⟩

/-- A check of `UpdateRunner` moves neither manager. -/
theorem asked_frame {service after : RunnerService} {u : UpdateID}
    (asked : (∃ runner mode, service.step (.updateRunner u runner mode) = some after) ∨ service.step (.ask u) = some after) :
    after.standalone = service.standalone ∧ after.scaleset = service.scaleset := by
  rcases asked with ⟨runner, mode, asked⟩ | asked
  · simp only [RunnerService.step] at asked
    split at asked
    · split at asked
      · split at asked <;> cases asked
        exact ⟨rfl, rfl⟩
      · cases asked
        exact ⟨rfl, rfl⟩
    · cases asked
  · simp only [RunnerService.step] at asked
    split at asked
    · split at asked <;> cases asked
      exact ⟨rfl, rfl⟩
    · cases asked

theorem Staffed.step {event : DeploymentEvent} (tabled : s.Tabled) (staffed : s.Staffed) (taken : s.step event = some after) :
    after.Staffed := by
  have unmoved {after : Deployment} (standalone : after.service.standalone = s.service.standalone)
      (scaleset : after.service.scaleset = s.service.scaleset) (configs : after.configs = s.configs)
      (launches : after.launches = s.launches) (preparing : after.preparing = s.preparing)
      (underway : after.underway = s.underway) : after.Staffed := by
    refine staffed.same ?_ ?_ ?_ configs launches preparing underway
    · rw [standalone]
      exact fun _ _ _ => Iff.rfl
    · rw [scaleset]
      exact fun _ _ _ => Iff.rfl
    · rw [scaleset]
      exact fun _ _ _ => Iff.rfl
  cases step_moves taken with
  | start found added =>
      obtain ⟨configs, launches, begun, preparing, launched, listening⟩ :=
        staffed.started (tabled.creating _ _ found) added _
      exact ⟨configs, launches, begun, preparing, launched, listening⟩
  | add found added =>
      obtain ⟨configs, launches, begun, preparing, launched, listening⟩ :=
        staffed.started (tabled.updating _ _ found) added _
      exact ⟨configs, launches, begun, preparing, launched, listening⟩
  | createRunner | refuse | edit | deleteRunner | acquire => exact unmoved rfl rfl rfl rfl rfl rfl
  | updateRunner found asked =>
      have ⟨standalone, scaleset⟩ := asked_frame (.inl ⟨_, _, asked⟩)
      exact unmoved standalone scaleset rfl rfl rfl rfl
  | ask asked =>
      have ⟨standalone, scaleset⟩ := asked_frame (.inr asked)
      exact unmoved standalone scaleset rfl rfl rfl rfl
  | removeRunner found removed goes =>
      obtain ⟨lifecycles, starts, listeners, _⟩ := removeRunner_frame removed
      exact staffed.same lifecycles starts listeners rfl rfl rfl rfl
  | proceed found deleted =>
      have ⟨moded, mine⟩ := tabled.deletions _ _ found
      cases (delete_deletes deleted moded mine).1 <;> exact unmoved rfl rfl rfl rfl rfl rfl
  | @prepare t ran name entry rest row between phase here mine prepares =>
      obtain ⟨_, _, _, rfl⟩ := prepares.frame
      have grows : s.underway ⊆ s.underway.insert row := List.subset_insert _ _
      refine ⟨staffed.configs, staffed.launches, ?_, ?_, staffed.launched, ?_⟩
      · exact fun u name todo own found begun held => grows (staffed.begun u name todo own found begun held)
      · intro u other found
        rcases Map.lookup_of_insert found with ⟨rfl, _⟩ | ⟨_, old⟩
        · exact ⟨⟨name, _, here⟩, row, mine, List.mem_insert_self⟩
        · obtain ⟨lifecycle, own, held, member⟩ := staffed.preparing u other old
          exact ⟨lifecycle, own, held, grows member⟩
      · exact fun g name phase own found held => grows (staffed.listening g name phase own found held)
  | standalone idle stepped ready => exact staffed.standalone stepped rfl rfl rfl rfl rfl ready
  | @scaleset event scaleset idle stepped =>
      obtain ⟨_, _, same, _⟩ := s.spawned_frame event
      refine staffed.scaleset idle stepped rfl ?_ rfl ?_ rfl <;> rw [same]

theorem Peopled.step {event : DeploymentEvent} (tabled : s.Tabled) (staffed : s.Staffed) (peopled : s.Peopled)
    (taken : s.step event = some after) : after.Peopled := by
  cases step_moves taken with
  | start | add =>
      unfold Deployment.started
      split <;> exact peopled.same rfl rfl rfl (List.Subset.refl _)
  | proceed found deleted =>
      have ⟨moded, mine⟩ := tabled.deletions _ _ found
      cases (delete_deletes deleted moded mine).1 with
      | nothing | deleteRow => exact peopled.same rfl rfl rfl (List.Subset.refl _)
      | unregister is here =>
          have own := peopled.dirs _ _ here
          exact ⟨Map.forall_insert peopled.dirs ⟨own.1, own.2⟩,
            Map.forall_erase peopled.registrations _, peopled.scaleSets⟩
      | clear => exact ⟨Map.forall_erase peopled.dirs _, peopled.registrations, peopled.scaleSets⟩
      | drop => exact ⟨peopled.dirs, peopled.registrations, Map.forall_erase peopled.scaleSets _⟩
  | @prepare t ran name entry rest row between phase here mine prepares =>
      have grown : Peopled { s with underway := s.underway.insert row } :=
        peopled.same rfl rfl rfl (List.subset_insert _ _)
      have own : row ∈ s.underway.insert row ∧ row.mode = "standalone" :=
        ⟨List.mem_insert_self, staffed.configs t row mine⟩
      cases prepares with
      | nothing => exact ⟨grown.dirs, grown.registrations, grown.scaleSets⟩
      | made => exact ⟨Map.forall_insert grown.dirs own, grown.registrations, grown.scaleSets⟩
      | @keeps registration =>
          refine ⟨grown.dirs, ?_, grown.scaleSets⟩
          intro other user found
          rw [Map.lookup_modify] at found
          split at found
          · obtain ⟨_, _, rfl⟩ := Option.map_eq_some_iff.mp found
            exact own
          · exact grown.registrations other user found
      | @registered saved =>
          refine ⟨?_, Map.forall_insert grown.registrations own, grown.scaleSets⟩
          cases saved with
          | true => exact Map.forall_insert grown.dirs own
          | false => exact grown.dirs
  | @scaleset event scaleset idle stepped =>
      obtain ⟨_, _, same, grown⟩ := s.spawned_frame event
      rw [same]
      exact peopled.same rfl rfl rfl grown
  | acquire here mine =>
      exact ⟨peopled.dirs, peopled.registrations,
        Map.forall_insert peopled.scaleSets ⟨staffed.listening _ _ _ _ here mine, staffed.launches _ _ mine⟩⟩
  | _ => exact peopled.same rfl rfl rfl (List.Subset.refl _)

theorem reached_owned (reached : Reaches step (· = .new) everyStep s) : s.Tabled ∧ s.Staffed ∧ s.Peopled := by
  apply reached.invariant
  · rintro _ rfl
    refine ⟨⟨nofun, nofun, nofun, nofun⟩, ⟨nofun, nofun, nofun, nofun, nofun, nofun⟩, nofun, nofun, nofun⟩
  · rintro state event next _ ⟨tabled, staffed, peopled⟩ _ taken
    exact ⟨tabled.step taken, staffed.step tabled taken, peopled.step tabled staffed taken⟩

/-- What a step does to a runner. -/
def Touches (s after : Deployment) (row : RunnerRow) : Prop :=
  s.Stops after row ∨ s.RemovesDirectory after row ∨ s.Deregisters after row

/-- A listener that a step stops is that of a runner underway, of the mode whose manager the step is for. -/
theorem stops_underway {row : RunnerRow} (staffed : s.Staffed) (stops : s.Stops after row) :
    row ∈ s.underway ∧
      (row.mode = "standalone" ∧ after.service.standalone.manager.groups ≠ s.service.standalone.manager.groups ∨
        row.mode = "scaleset" ∧
          after.service.scaleset.manager.cancelled ≠ s.service.scaleset.manager.cancelled) := by
  rcases stops with ⟨t, todo, pid, mine, found, owns, live, terminated⟩ | ⟨g, phase, context, mine, found, _, still, cancelled⟩
  · have works : ∃ later ∈ todo, later.begun = true := by
      obtain ⟨later, member, own⟩ := List.mem_filterMap.mp owns
      exact ⟨later, member, by cases later <;> first | rfl | cases own⟩
    refine ⟨staffed.begun t row.name todo row found works mine, .inl ⟨staffed.configs t row mine, fun same => ?_⟩⟩
    rw [same] at terminated
    cases known : s.service.standalone.manager.groups.lookup pid with
    | none =>
        rw [known] at live
        cases live
    | some group =>
        rw [known] at live terminated
        simp only [Option.any_some] at live terminated
        rw [terminated] at live
        simp at live
  · refine ⟨staffed.listening g row.name phase row found mine, .inr ⟨staffed.launches g row mine, fun same => ?_⟩⟩
    rw [same] at cancelled
    exact still cancelled

/-- A step that makes the directories and registrations no fewer can but stop a listener. -/
theorem touches_stops {row : RunnerRow} (touches : s.Touches after row)
    (dirs : ∀ dir environment, s.dirs.lookup dir = some environment → after.dirs.lookup dir ≠ none)
    (registrations : ∀ registration user, s.registrations.lookup registration = some user →
      after.registrations.lookup registration ≠ none)
    (scaleSets : after.scaleSets = s.scaleSets) : s.Stops after row := by
  rcases touches with stops | ⟨dir, environment, known, _, gone⟩ | ⟨registration, known, gone⟩ | ⟨key, _, known, _, gone⟩
  · exact stops
  · exact absurd gone (dirs dir environment known)
  · exact absurd gone (registrations registration row known)
  · rw [scaleSets, known] at gone
    cases gone

/-- A step of a deletion reaches runners of its own mode only. -/
theorem touches_mode {event : DeploymentEvent} {d : ClientID} {deletion : Deletion} {row : RunnerRow}
    (owned : s.Tabled ∧ s.Staffed ∧ s.Peopled) (found : s.deletions.lookup d = some deletion)
    (acts : deletion.acts d event = true) (taken : s.step event = some after) (touches : s.Touches after row) :
    row ∈ s.underway ∧ row.mode = deletion.row.mode := by
  obtain ⟨tabled, staffed, peopled⟩ := owned
  have ⟨moded, mine⟩ := tabled.deletions d deletion found
  have some_ {Key Value : Type} [DecidableEq Key] (map : Map Key Value) (key : Key) (value : Value)
      (known : map.lookup key = some value) : map.lookup key ≠ none := by
    rw [known]
    nofun
  cases step_moves taken with
  | @removeRunner own t other service force halts phase here removed goes =>
      obtain ⟨_, _, _, groups, cancelled⟩ := removeRunner_frame removed
      -- A `Stop` that only begins reaches nothing yet.
      have stops := touches_stops touches (some_ s.dirs) (some_ s.registrations) rfl
      rcases (stops_underway staffed stops).2 with ⟨_, changed⟩ | ⟨_, changed⟩
      · exact absurd groups changed
      · exact absurd cancelled changed
  | @proceed own ok other between phase here deleted =>
      obtain rfl : own = d := of_decide_eq_true acts
      cases found.symm.trans here
      -- These steps are made outside the managers, so they stop no listener.
      have still (stops : s.Stops between row) (service : between.service = s.service) : False := by
        rcases (stops_underway staffed stops).2 with ⟨_, changed⟩ | ⟨_, changed⟩
        · exact changed (by rw [service])
        · exact changed (by rw [service])
      cases (delete_deletes deleted moded mine).1 with
      | nothing | deleteRow =>
          exact (still (touches_stops touches (some_ s.dirs) (some_ s.registrations) rfl) rfl).elim
      | unregister is known =>
          rcases touches with stops | ⟨dir, environment, had, _, gone⟩ | ⟨registration, had, gone⟩ | ⟨key, _, had, _, gone⟩
          · exact (still stops rfl).elim
          · exact absurd gone (Map.lookup_insert_known had)
          · have ⟨member, mode⟩ := peopled.registrations registration row had
            exact ⟨member, mode.trans (mine "standalone" (by rw [is]; rfl)).symm⟩
          · cases had.symm.trans gone
      | clear is =>
          rcases touches with stops | ⟨dir, environment, had, rfl, gone⟩ | ⟨registration, had, gone⟩ | ⟨key, _, had, _, gone⟩
          · exact (still stops rfl).elim
          · have ⟨member, mode⟩ := peopled.dirs dir environment had
            exact ⟨member, mode.trans (mine "standalone" (by rw [is]; rfl)).symm⟩
          · cases had.symm.trans gone
          · cases had.symm.trans gone
      | @drop id is =>
          rcases touches with stops | ⟨dir, environment, had, _, gone⟩ | ⟨registration, had, gone⟩ | ⟨key, scaleSet, had, rfl, gone⟩
          · exact (still stops rfl).elim
          · cases had.symm.trans gone
          · cases had.symm.trans gone
          · have ⟨member, mode⟩ := peopled.scaleSets key scaleSet had
            exact ⟨member, mode.trans (mine "scaleset" (by rw [is]; rfl)).symm⟩
  | @standalone call standalone idle stepped ready =>
      have stops := touches_stops touches (some_ s.dirs) (some_ s.registrations) rfl
      -- A step of one manager cannot have stopped a listener of the other.
      obtain ⟨member, ⟨mode, _⟩ | ⟨_, changed⟩⟩ := stops_underway staffed stops
      · exact ⟨member, mode.trans (Deletion.acts_standalone acts).symm⟩
      · exact absurd rfl changed
  | @scaleset event scaleset idle stepped =>
      obtain ⟨_, _, same, _⟩ := s.spawned_frame event
      rw [same] at touches
      have stops := touches_stops touches (some_ s.dirs) (some_ s.registrations) rfl
      obtain ⟨member, ⟨_, changed⟩ | ⟨mode, _⟩⟩ := stops_underway staffed stops
      · exact absurd rfl changed
      · exact ⟨member, mode.trans (Deletion.acts_scaleset acts).symm⟩
  | _ => cases acts

/-- A step of a deletion that reaches the runner now in the table under its name. -/
def Harms (harm : Deployment → Deployment → RunnerRow → Prop) : Prop :=
  ∃ s, Reaches step (· = .new) everyStep s ∧ ∃ event after d deletion row, s.deletions.lookup d = some deletion ∧
    deletion.acts d event = true ∧ s.rows.lookup deletion.row.name = some row ∧ deletion.row.id < row.id ∧
    s.step event = some after ∧ harm s after row

/-- One section of a thread that goes well. -/
def advances (t : ThreadID) (pid : Pid) : DeploymentEvent :=
  .standalone (.own (.run t (RunnerService.forks pid)))

/-- The first runner of the name "a", and the second. -/
def firstRow : RunnerRow := ⟨1, "a", "standalone", "https://github.com/o/r", "/opt/runners/a", "", ""⟩

def secondRow : RunnerRow := ⟨2, "a", "standalone", "https://github.com/o/r", "/opt/runners/a", "", ""⟩

/-- A call of `InitializeEnvironment` that goes well, in a directory with no template in it. -/
def prepares (t : ThreadID) : DeploymentEvent := .initializeEnvironment t ⟨none, false, true, true⟩

/-- A runner is created and deleted up to the `Sleep` of its clean-up. -/
def deleted : List DeploymentEvent :=
  [.createRunner 0 "a" "standalone" "https://github.com/o/r" "" "", .start 0 0] ++ List.replicate 8 (prepares 0) ++
    List.replicate 6 (advances 0 1) ++
    [.deleteRunner 0 "a" true "token", .removeRunner 0 1, advances 1 1, advances 1 1, .proceed 0 true] ++
    List.replicate 6 (advances 0 1) ++ [.proceed 0 true]

/-- It is created again, and the clean-up has its second `Stop` at the new listener. -/
def recreated : List DeploymentEvent :=
  deleted ++ [.createRunner 1 "a" "standalone" "https://github.com/o/r" "" "", .start 1 2] ++
    List.replicate 7 (prepares 2) ++ List.replicate 6 (advances 2 2) ++ [.removeRunner 0 3, advances 3 2]

/-- A runner of the other mode has its listener before the clean-up begins. -/
def replaced : List DeploymentEvent :=
  deleted ++ [.createRunner 1 "a" "scaleset" "https://github.com/o/r" "" "", .start 1 2,
    .scaleset (.run 2 ⟨false, none, false⟩), .scaleset (.spawn 2 10), .removeRunner 0 3, .proceed 0 true, .proceed 0 true]

end Deployment

end RunnersMux
