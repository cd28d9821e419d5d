import RunnersMux.Foundations.Strings
import RunnersMux.Foundations.Transitions
import RunnersMux.Orchestrator.Effects
import RunnersMux.Orchestrator.Recovery

/-! The settings: the table, what `NewApp` reads from it, and `updateSettings`.

The handler guards each key before it stores it, and hands both values to the
orchestrator as they came. What is live and what a restart would load part
where a guard, or the clamp of the loader, has something to say.
-/

set_option autoImplicit false

namespace RunnersMux

open Foundations

/-- The table `settings`, keyed by `key`. -/
abbrev Settings := Map String String

namespace Settings

def defaultMaxWorkers : Int := 5

/-- `GetSetting`; the error of a missing row is ignored. -/
def get (settings : Settings) (key : String) : String := (settings.lookup key).getD ""

def maxWorkers (settings : Settings) : Int :=
  match atoi (settings.get "max_workers") with
  | some value => if 0 < value then value else defaultMaxWorkers
  | none => defaultMaxWorkers

/-- The number of warm workers that `NewApp` starts the orchestrator with. -/
def warmWorkers (settings : Settings) : Int :=
  min (match atoi (settings.get "warm_workers") with
    | some value => if 0 ≤ value then value else 0
    | none => 0) settings.maxWorkers

theorem maxWorkers_pos (settings : Settings) : 1 ≤ settings.maxWorkers := by
  unfold maxWorkers
  split
  · split
    · omega
    · decide
  · decide

theorem warmWorkers_bounds (settings : Settings) :
    0 ≤ settings.warmWorkers ∧ settings.warmWorkers ≤ settings.maxWorkers := by
  have positive := settings.maxWorkers_pos
  unfold warmWorkers
  refine ⟨?_, min_le_right _ _⟩
  apply le_min
  · split
    · split
      · assumption
      · exact Int.le_refl 0
    · exact Int.le_refl 0
  · omega

end Settings

/-- A decoded body; the values are those of an `int`. -/
structure Payload where
  values : Map String Int
  fits : ∀ key value, values.lookup key = some value → InRange value

namespace Payload

/-- A missing key reads as zero. -/
def get (payload : Payload) (key : String) : Int := (payload.values.lookup key).getD 0

theorem get_fits (payload : Payload) (key : String) : InRange (payload.get key) := by
  unfold get
  cases found : payload.values.lookup key with
  | none => decide
  | some value => exact payload.fits key value found

def maxWorkers (payload : Payload) : Int := payload.get "max_workers"

def warmWorkers (payload : Payload) : Int := payload.get "warm_workers"

/-- A positive limit, and no more warm workers than it allows. -/
def Sensible (payload : Payload) : Prop :=
  0 < payload.maxWorkers ∧ 0 ≤ payload.warmWorkers ∧ payload.warmWorkers ≤ payload.maxWorkers

instance (payload : Payload) : Decidable payload.Sensible := inferInstanceAs (Decidable (_ ∧ _))

end Payload

namespace Settings

/-- The writes of `updateSettings`, which all succeed. -/
def store (settings : Settings) (payload : Payload) : Settings :=
  let stored := if 0 < payload.maxWorkers then
    settings.insert "max_workers" (itoa payload.maxWorkers) else settings
  if 0 ≤ payload.warmWorkers then stored.insert "warm_workers" (itoa payload.warmWorkers) else stored

theorem maxWorkers_store (settings : Settings) (payload : Payload) :
    (settings.store payload).maxWorkers =
      if 0 < payload.maxWorkers then payload.maxWorkers else settings.maxWorkers := by
  have fits : InRange payload.maxWorkers := payload.get_fits _
  have kept : (settings.store payload).get "max_workers" =
      if 0 < payload.maxWorkers then itoa payload.maxWorkers else settings.get "max_workers" := by
    unfold get store
    dsimp only
    split <;> split <;> simp
  by_cases positive : 0 < payload.maxWorkers
  · rw [if_pos positive] at kept ⊢
    unfold maxWorkers
    rw [kept, atoi_itoa fits]
    exact if_pos positive
  · rw [if_neg positive] at kept ⊢
    unfold maxWorkers
    rw [kept]

theorem warmWorkers_store (settings : Settings) (payload : Payload) (stored : 0 ≤ payload.warmWorkers) :
    (settings.store payload).warmWorkers = min payload.warmWorkers (settings.store payload).maxWorkers := by
  have fits : InRange payload.warmWorkers := payload.get_fits _
  have kept : (settings.store payload).get "warm_workers" = itoa payload.warmWorkers := by
    unfold get store
    rw [if_pos stored, Map.lookup_insert_if, if_pos rfl]
    rfl
  unfold warmWorkers
  rw [kept, atoi_itoa fits]
  simp only [if_pos stored]

/-- The values of a payload are what a restart would load exactly where they are sensible. -/
theorem store_loads (settings : Settings) (payload : Payload) :
    payload.maxWorkers = (settings.store payload).maxWorkers ∧
        payload.warmWorkers = (settings.store payload).warmWorkers ↔ payload.Sensible := by
  constructor
  · rintro ⟨max, warm⟩
    have positive := (settings.store payload).maxWorkers_pos
    have bounds := (settings.store payload).warmWorkers_bounds
    exact ⟨by omega, by omega, by omega⟩
  · rintro ⟨positive, nonneg, below⟩
    have max := settings.maxWorkers_store payload
    have warm := settings.warmWorkers_store payload nonneg
    rw [if_pos positive] at max
    rw [max] at warm
    exact ⟨max.symm, by omega⟩

end Settings

namespace System

variable {Managers Event Outcome : Type}

/-- Both settings are the same in two records. -/
def SameSettings (state after : System Managers) : Prop :=
  after.orchestrator.maxWorkers = state.orchestrator.maxWorkers ∧
    after.orchestrator.warmWorkersConfig = state.orchestrator.warmWorkersConfig

/-- Nothing but `UpdateSettings` writes the settings. -/
theorem effect_settings {interfaces : Interfaces Managers Event Outcome} {state after : System Managers}
    {action : Action Event Outcome} (effect : Effect interfaces state action after) (other : action.settings = none) :
    state.SameSettings after := by
  unfold SameSettings
  cases effect with
  | updateSettings free => cases other
  | bootInspectFail found | discard found | kill found =>
      rw [resume_orchestrator, remove_orchestrator]
      exact ⟨rfl, rfl⟩
  | die alive =>
      rw [stop_orchestrator]
      exact ⟨rfl, rfl⟩
  | rename found =>
      rw [resume_orchestrator, containerRename_orchestrator]
      exact ⟨rfl, rfl⟩
  | bootDeath found free reaped => cases reaped <;> exact ⟨rfl, rfl⟩
  | dieEvent known dead fresh free reaped => cases reaped <;> exact ⟨rfl, rfl⟩
  | allocate fresh free picked => cases picked <;> exact ⟨rfl, rfl⟩
  | wake found closed free picked => cases picked <;> exact ⟨rfl, rfl⟩
  | retry found free picked => cases picked <;> exact ⟨rfl, rfl⟩
  | evaluate found goes free =>
      obtain ⟨paused, managers, frame⟩ := state.evaluateCapacity_frame interfaces.pauser ‹_›
      rw [frame]
      exact ⟨rfl, rfl⟩
  | _ => exact ⟨rfl, rfl⟩

end System

/-- The settings table next to the running orchestrator. -/
structure SettingsApp (Managers : Type) where
  settings : Settings
  system : System Managers

/-- A request of `PUT /settings`, whose body may not decode, or a step of the orchestrator. -/
inductive SettingsEvent (Event Outcome : Type) where
  | updateSettings (body : Option Payload)
  | run (action : Action Event Outcome)

namespace SettingsApp

variable {Managers Event Outcome : Type}

/-- Only the handler calls `UpdateSettings`. -/
def step (interfaces : Interfaces Managers Event Outcome) (s : SettingsApp Managers) :
    SettingsEvent Event Outcome → Option (SettingsApp Managers)
  | .updateSettings none => some s
  | .updateSettings (some payload) =>
      (s.system.step interfaces (.updateSettings payload.maxWorkers payload.warmWorkers)).map fun system =>
        ⟨s.settings.store payload, system⟩
  | .run action =>
      if action.settings = none then (s.system.step interfaces action).map fun system => { s with system } else none

/-- `NewApp`, over any table. -/
def Started (managers : Managers) (s : SettingsApp Managers) : Prop :=
  System.Started s.settings.maxWorkers s.settings.warmWorkers managers s.system

/-- The orchestrator has what `NewApp` would compute from the table. -/
def Live (s : SettingsApp Managers) : Prop :=
  s.system.orchestrator.maxWorkers = s.settings.maxWorkers ∧
    s.system.orchestrator.warmWorkersConfig = s.settings.warmWorkers

/-- The bounds on the live values. -/
def Bounded (s : SettingsApp Managers) : Prop :=
  1 ≤ s.system.orchestrator.maxWorkers ∧ 0 ≤ s.system.orchestrator.warmWorkersConfig ∧
    s.system.orchestrator.warmWorkersConfig ≤ s.system.orchestrator.maxWorkers

instance (s : SettingsApp Managers) : Decidable s.Live := inferInstanceAs (Decidable (_ ∧ _))
instance (s : SettingsApp Managers) : Decidable s.Bounded := inferInstanceAs (Decidable (_ ∧ _))

/-- Every payload that decodes is sensible. -/
def SensibleOnly (_ : SettingsApp Managers) : SettingsEvent Event Outcome → Prop
  | .updateSettings (some payload) => payload.Sensible
  | _ => True

instance (s : SettingsApp Managers) (event : SettingsEvent Event Outcome) : Decidable (s.SensibleOnly event) := by
  unfold SensibleOnly
  split <;> infer_instance

section
variable {interfaces : Interfaces Managers Event Outcome} {s after : SettingsApp Managers} {managers : Managers}

theorem started_live (started : s.Started managers) : s.Live := by
  obtain ⟨docker, listing, _, same⟩ := started
  obtain ⟨warm, active, listeners, frame⟩ :=
    (Orchestrator.newOrchestrator s.settings.maxWorkers s.settings.warmWorkers).recoverState_frame listing
  have record : s.system.orchestrator = _ := congrArg System.orchestrator same
  unfold Live
  rw [record]
  change ((Orchestrator.newOrchestrator s.settings.maxWorkers s.settings.warmWorkers).recoverState listing).maxWorkers =
    _ ∧ ((Orchestrator.newOrchestrator s.settings.maxWorkers s.settings.warmWorkers).recoverState
      listing).warmWorkersConfig = _
  rw [frame]
  exact ⟨rfl, rfl⟩

/-- A request that is carried out writes the values of its payload. -/
theorem updateSettings_writes {payload : Payload}
    (taken : s.step interfaces (.updateSettings (some payload)) = some after) :
    after.settings = s.settings.store payload ∧ after.system.orchestrator.maxWorkers = payload.maxWorkers ∧
      after.system.orchestrator.warmWorkersConfig = payload.warmWorkers := by
  obtain ⟨system, updated, rfl⟩ := Option.map_eq_some_iff.mp taken
  cases System.step_effect interfaces updated with
  | updateSettings free => exact ⟨rfl, rfl, rfl⟩

/-- After a request the live settings are those of a restart exactly where the payload is sensible. -/
theorem updateSettings_live {payload : Payload}
    (taken : s.step interfaces (.updateSettings (some payload)) = some after) : after.Live ↔ payload.Sensible := by
  obtain ⟨table, max, warm⟩ := updateSettings_writes taken
  unfold Live
  rw [table, max, warm]
  exact s.settings.store_loads payload

theorem updateSettings_bounded {payload : Payload}
    (taken : s.step interfaces (.updateSettings (some payload)) = some after) : after.Bounded ↔ payload.Sensible := by
  obtain ⟨_, max, warm⟩ := updateSettings_writes taken
  unfold Bounded
  rw [max, warm]
  rfl

/-- Any other step leaves the table and the live settings alone. -/
theorem Live.kept {event : SettingsEvent Event Outcome} (live : s.Live) (taken : s.step interfaces event = some after)
    (other : ∀ payload, event ≠ .updateSettings (some payload)) : after.Live := by
  cases event with
  | updateSettings body =>
      cases body with
      | none =>
          cases taken
          exact live
      | some payload => exact absurd rfl (other payload)
  | run action =>
      simp only [step] at taken
      split at taken
      · next quiet =>
          obtain ⟨system, moved, rfl⟩ := Option.map_eq_some_iff.mp taken
          obtain ⟨max, warm⟩ := System.effect_settings (System.step_effect interfaces moved) quiet
          exact ⟨max.trans live.1, warm.trans live.2⟩
      · cases taken

theorem Live.bounded (live : s.Live) : s.Bounded := by
  unfold Bounded
  rw [live.1, live.2]
  exact ⟨s.settings.maxWorkers_pos, s.settings.warmWorkers_bounds⟩

end

/-- As long as every payload is sensible, the live settings are those that a
restart would load; a payload that is not breaks this, and the bounds, at once. -/
theorem settings_live (interfaces : Interfaces Managers Event Outcome) (managers : Managers) :
    (∀ s, Reaches (step interfaces) (Started managers) SensibleOnly s → s.Live ∧ s.Bounded) ∧
      ∀ s payload after, Reaches (step interfaces) (Started managers) everyStep s →
        s.step interfaces (.updateSettings (some payload)) = some after →
        ((after.Live ↔ payload.Sensible) ∧ (after.Bounded ↔ payload.Sensible)) := by
  constructor
  · intro s reached
    have live : s.Live := by
      apply reached.invariant
      · intro state started
        exact started_live started
      · intro state event after _ live sensible taken
        cases event with
        | updateSettings body =>
            cases body with
            | none => exact live.kept taken (by simp)
            | some payload => exact (updateSettings_live taken).mpr sensible
        | run action => exact live.kept taken (by simp)
    exact ⟨live, live.bounded⟩
  · intro s payload after _ taken
    exact ⟨updateSettings_live taken, updateSettings_bounded taken⟩

/-- The table as the migrations seed it, and an orchestrator that has found no container. -/
def seeded : SettingsApp Unit where
  settings := ((∅ : Settings).insert "max_workers" "5").insert "warm_workers" "0"
  system := System.booted 5 0 ∅ none ()

theorem seeded_started : seeded.Started () := ⟨∅, none, nofun, rfl⟩

/-- The limit is missing: the table keeps 5, the orchestrator gets 0. -/
def warmOnly : Payload where
  values := (∅ : Map String Int).insert "warm_workers" 2
  fits := by decide

/-- A partial payload stores one key and applies both. -/
theorem settings_part : ∃ s, Reaches (step Interfaces.silent) (Started ()) everyStep s ∧
    s.settings.maxWorkers = 5 ∧ s.system.orchestrator.maxWorkers = 0 ∧ ¬s.Live ∧ ¬s.Bounded := by
  apply Reaches.of_replay seeded_started [.updateSettings (some warmOnly)]
  decide

def bothKeys : Payload where
  values := ((∅ : Map String Int).insert "warm_workers" 2).insert "max_workers" 3
  fits := by decide

theorem settings_live_both : ∃ s, Reaches (step Interfaces.silent) (Started ()) SensibleOnly s ∧
    s.settings.maxWorkers = 3 ∧ s.Live ∧ s.Bounded := by
  obtain ⟨s, reached, stored⟩ : ∃ s, Reaches (step Interfaces.silent) (Started ()) SensibleOnly s ∧
      s.settings.maxWorkers = 3 := by
    apply Reaches.of_replay seeded_started [.updateSettings (some bothKeys)]
    decide
  exact ⟨s, reached, stored, (settings_live Interfaces.silent ()).1 s reached⟩

end SettingsApp

end RunnersMux
