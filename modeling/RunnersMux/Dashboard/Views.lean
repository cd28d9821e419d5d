import RunnersMux.Mux.Statuses
import RunnersMux.Dashboard.Deletions

/-! `ListRunners` and `GetRunner`.

Neither asks only the manager of a runner's mode. The list merges what both
managers say, and the later one wins; the detail takes the first manager that
knows the name. `CanManage` is filled in by the handlers.
-/

set_option autoImplicit false

namespace RunnersMux

open Foundations

namespace RunnerService

/-- The table of the manager that `AddRunner` picks for a mode, and that of the other one. -/
def tables (s : RunnerService) (mode : String) : Processes × Processes :=
  let standalone := s.standalone.manager.processes
  let scaleset := s.scaleset.manager.processes
  if mode = "standalone" ∨ mode = "" then (standalone, scaleset) else (scaleset, standalone)

theorem tables_standalone (s : RunnerService) :
    s.tables "standalone" = (s.standalone.manager.processes, s.scaleset.manager.processes) := rfl

theorem tables_scaleset (s : RunnerService) :
    s.tables "scaleset" = (s.scaleset.manager.processes, s.standalone.manager.processes) := rfl

def getRunnerStatuses (s : RunnerService) (first : Range s.standalone.manager.processes)
    (second : Range s.scaleset.manager.processes) : List RunnerStatus :=
  s.standalone.manager.processes.listRunners "standalone" first ++
    s.scaleset.manager.processes.listRunners "scaleset" second

def getRunnerStatus (s : RunnerService) (name : RunnerName) : Option RunnerStatus :=
  (s.standalone.manager.processes.getStatus "standalone" name).or
    (s.scaleset.manager.processes.getStatus "scaleset" name)

/-- The merge of the two lists, under one name. -/
theorem lookup_statuses (s : RunnerService) (first : Range s.standalone.manager.processes)
    (second : Range s.scaleset.manager.processes) (name : RunnerName) :
    (collect RunnerStatus.name (s.getRunnerStatuses first second)).lookup name =
      (s.scaleset.manager.processes.getStatus "scaleset" name).or
        (s.standalone.manager.processes.getStatus "standalone" name) := by
  rw [lookup_collect, getRunnerStatuses, List.reverse_append, List.find?_append, Processes.find_listRunners,
    Processes.find_listRunners]

end RunnerService

structure CombinedRunner where
  runner : RunnerRow
  state : RunnerState
  activeWorkers : Nat
  error : String
  hasPat : Bool
  isRegistered : Bool
  deriving DecidableEq, Repr

/-- What a view shows of a runner that no manager knows. -/
def RunnerStatus.offline : RunnerStatus := ⟨"", "", .offline, "", 0⟩

namespace Deployment

/-- A row without its token, next to a status. -/
def combined (s : Deployment) (row : RunnerRow) (status : RunnerStatus) : CombinedRunner where
  runner := { row with pat := "" }
  state := status.state
  activeWorkers := status.activeWorkers
  error := status.error
  hasPat := row.pat ≠ ""
  isRegistered := row.mode = "standalone" ∧ row.dir ≠ "" ∧ ((s.dirs.lookup row.dir).bind (·.registration)).isSome

def listRunners (s : Deployment) (runners : Range s.rows) (first : Range s.service.standalone.manager.processes)
    (second : Range s.service.scaleset.manager.processes) : List CombinedRunner :=
  let statusMap := collect RunnerStatus.name (s.service.getRunnerStatuses first second)
  runners.entries.map fun entry => s.combined entry.2 ((statusMap.lookup entry.2.name).getD .offline)

def getRunner (s : Deployment) (name : RunnerName) : Option CombinedRunner :=
  (s.rows.lookup name).map fun row => s.combined row ((s.service.getRunnerStatus name).getD .offline)

/-- What the manager of the mode of a row holds for it. -/
def held (s : Deployment) (row : RunnerRow) : RunnerStatus :=
  ((s.service.tables row.mode).1.getStatus row.mode row.name).getD .offline

/-- Both views of a row show what the manager of its mode holds. -/
def Shown (s : Deployment) (row : RunnerRow) : Prop :=
  (∀ runners first second, (s.listRunners runners first second).find? (fun shown => shown.runner.name = row.name) =
      some (s.combined row (s.held row))) ∧
    s.getRunner row.name = some (s.combined row (s.held row))

/-- The other manager does not know the name, or holds for it what the manager of the mode does. -/
def Unshadowed (s : Deployment) (row : RunnerRow) : Prop :=
  ∀ other, (s.service.tables row.mode).2.lookup row.name = some other →
    other.state = (s.held row).state ∧ other.activeWorkers = (s.held row).activeWorkers ∧ other.error = (s.held row).error

/-- The row for which a step calls `Start`. -/
def starts (s : Deployment) : DeploymentEvent → Option RunnerRow
  | .start c _ => s.creating.lookup c
  | .add u _ => s.updating.lookup u
  | _ => none

/-- No `Start` under a name that the other manager knows. -/
def StartsApart (s : Deployment) (event : DeploymentEvent) : Prop :=
  ∀ row ∈ s.starts event, (s.service.tables row.mode).2.lookup row.name = none

instance (s : Deployment) (event : DeploymentEvent) : Decidable (s.StartsApart event) :=
  inferInstanceAs (Decidable (∀ row ∈ s.starts event, _))

/-- No `CreateRunner` of the row is on its way. -/
def Settled (s : Deployment) (row : RunnerRow) : Prop :=
  ∀ c pending, s.creating.lookup c = some pending → pending.id ≠ row.id

variable {s after : Deployment}

/-- A row is in the table under its name. -/
def Named (s : Deployment) : Prop := ∀ name row, s.rows.lookup name = some row → row.name = name

theorem find_listRunners (named : s.Named) (runners : Range s.rows) (first : Range s.service.standalone.manager.processes)
    (second : Range s.service.scaleset.manager.processes) (name : RunnerName) :
    (s.listRunners runners first second).find? (fun shown => shown.runner.name = name) =
      (s.rows.lookup name).map fun row => s.combined row
        (((s.service.scaleset.manager.processes.getStatus "scaleset" row.name).or
          (s.service.standalone.manager.processes.getStatus "standalone" row.name)).getD .offline) := by
  simp only [listRunners, RunnerService.lookup_statuses]
  let shown (_ : RunnerName) (row : RunnerRow) : CombinedRunner :=
    s.combined row (((s.service.scaleset.manager.processes.getStatus "scaleset" row.name).or
      (s.service.standalone.manager.processes.getStatus "standalone" row.name)).getD .offline)
  exact find_item (fun found : CombinedRunner => found.runner.name) (fun found => runners.mem_map shown found) named name

end Deployment

/-- Two statuses that a view shows alike. -/
def RunnerStatus.Alike (first second : RunnerStatus) : Prop :=
  first.state = second.state ∧ first.activeWorkers = second.activeWorkers ∧ first.error = second.error

theorem alike_refl (status : RunnerStatus) : status.Alike status := ⟨rfl, rfl, rfl⟩

/-- Whichever of two statuses is preferred, the one is shown: the other is missing or alike. -/
theorem alike_either (own other : Option RunnerStatus) :
    ((own.or other).getD .offline).Alike (own.getD .offline) ∧ ((other.or own).getD .offline).Alike (own.getD .offline) ↔
      ∀ status ∈ other, status.Alike (own.getD .offline) := by
  cases own <;> cases other <;> simp [alike_refl]

namespace Deployment

variable {s after : Deployment}

theorem combined_inj (row : RunnerRow) (first second : RunnerStatus) :
    some (s.combined row first) = some (s.combined row second) ↔ first.Alike second := by
  simp only [combined, Option.some.injEq, CombinedRunner.mk.injEq, RunnerStatus.Alike, true_and, and_true]

/-- What the list shows of a row, and what the detail does. -/
theorem shown_alike (named : s.Named) {row : RunnerRow} (here : s.rows.lookup row.name = some row) : s.Shown row ↔
    (((s.service.scaleset.manager.processes.getStatus "scaleset" row.name).or
        (s.service.standalone.manager.processes.getStatus "standalone" row.name)).getD .offline).Alike (s.held row) ∧
      (((s.service.standalone.manager.processes.getStatus "standalone" row.name).or
        (s.service.scaleset.manager.processes.getStatus "scaleset" row.name)).getD .offline).Alike (s.held row) := by
  obtain ⟨runners⟩ := Range.inhabited s.rows
  obtain ⟨first⟩ := Range.inhabited s.service.standalone.manager.processes
  obtain ⟨second⟩ := Range.inhabited s.service.scaleset.manager.processes
  have detail : s.getRunner row.name = some (s.combined row ((s.service.getRunnerStatus row.name).getD .offline)) := by
    rw [getRunner, here, Option.map_some]
  simp only [Shown, detail, find_listRunners named, here, Option.map_some, combined_inj]
  exact and_congr ⟨fun all => all runners first second, fun one _ _ _ => one⟩ Iff.rfl

theorem alike_getStatus (processes : Processes) (mode : String) (name : RunnerName) (status : RunnerStatus) :
    (∀ other ∈ processes.getStatus mode name, other.Alike status) ↔ ∀ other, processes.lookup name = some other →
      other.state = status.state ∧ other.activeWorkers = status.activeWorkers ∧ other.error = status.error := by
  unfold Processes.getStatus
  cases processes.lookup name <;> simp [RunnerStatus.Alike, ProcessState.status]

theorem shown_iff (named : s.Named) {row : RunnerRow} (moded : row.Moded) (here : s.rows.lookup row.name = some row) :
    s.Shown row ↔ s.Unshadowed row := by
  rw [shown_alike named here]
  rcases moded with mode | mode
  · rw [and_comm, Unshadowed, held, mode, RunnerService.tables_standalone]
    exact (alike_either _ _).trans (alike_getStatus _ _ _ _)
  · rw [Unshadowed, held, mode, RunnerService.tables_scaleset]
    exact (alike_either _ _).trans (alike_getStatus _ _ _ _)

end Deployment

/-- A step leaves the managers the runners that they know, and the one for which it calls `Start`. -/
structure RunnerService.Enters (before after : RunnerService) (started : Option RunnerRow) : Prop where
  standalone : ∀ name, after.standalone.manager.processes.lookup name = none ↔
    before.standalone.manager.processes.lookup name = none ∧
      ∀ row ∈ started, row.mode = "standalone" → row.name ≠ name
  scaleset : ∀ name, after.scaleset.manager.processes.lookup name = none ↔
    before.scaleset.manager.processes.lookup name = none ∧ ∀ row ∈ started, row.mode = "scaleset" → row.name ≠ name

namespace RunnerService

variable {before after : RunnerService}

theorem enters_none (standalone : before.standalone.manager.processes.Retains after.standalone.manager.processes)
    (scaleset : before.scaleset.manager.processes.Retains after.scaleset.manager.processes) :
    before.Enters after none := by
  constructor
  · intro name
    rw [standalone name]
    exact ⟨fun gone => ⟨gone, nofun⟩, fun both => both.1⟩
  · intro name
    rw [scaleset name]
    exact ⟨fun gone => ⟨gone, nofun⟩, fun both => both.1⟩

theorem retains_standalone {s after : Standalone} {call : Call} (idle : call.starts = none)
    (taken : s.step call = some after) : s.manager.processes.Retains after.manager.processes := by
  cases call with
  | own event =>
      cases act_moves taken with
      | start fresh started => cases idle
      | stop fresh stopped => exact Processes.retains_stop stopped
      | @perform _ _ _ _ _ _ manager found performed =>
          change s.manager.processes.Retains manager.processes
          rcases perform_processes performed with same | ⟨goal, _, same⟩ | ⟨text, _, same⟩ | ⟨entry, text, _, same⟩ <;>
            rw [same]
          · exact Processes.retains_refl _
          · exact Processes.retains_transitioned goal
          · exact Processes.retains_modify _
          · exact Processes.retains_modify _
      | @advance _ _ _ _ _ manager found advanced =>
          change s.manager.processes.Retains manager.processes
          rw [(advance_frame advanced).1]
          exact Processes.retains_refl _
      | exit alive => exact Processes.retains_refl _
  | lockOthers outcome activeRunners =>
      cases taken
      exact Processes.retains_mapValues _
  | unlockOthers outcome =>
      cases taken
      exact Processes.retains_mapValues _
  | markBusy name | markIdle name =>
      cases taken
      exact Processes.retains_modify _

theorem retains_scaleset {s after : ScaleSet} {event : ScaleSetEvent} (idle : event.starts = none)
    (taken : s.step event = some after) : s.manager.processes.Retains after.manager.processes := by
  by_cases busy : ∃ runner, event = .markBusy runner
  · obtain ⟨runner, rfl⟩ := busy
    cases taken
    exact Processes.retains_modify _
  by_cases rest : ∃ runner, event = .markIdle runner
  · obtain ⟨runner, rfl⟩ := rest
    cases taken
    exact Processes.retains_modify _
  rcases ScaleSet.step_table taken (fun runner same => busy ⟨runner, same⟩) (fun runner same => rest ⟨runner, same⟩) with
    same | ⟨request, _, starts, called⟩
  · rw [same]
    exact Processes.retains_refl _
  · exact Processes.retains_call called (starts.trans idle)

theorem retains_removeRunner {t : ThreadID} {name : RunnerName} {force halts : Bool} {mode : String}
    (removed : before.removeRunner t name force mode = some (after, halts)) : before.Enters after none := by
  unfold removeRunner at removed
  split at removed
  · split at removed
    · obtain ⟨standalone, taken, same⟩ := Option.map_eq_some_iff.mp removed
      cases same
      have stepped : before.standalone.step (.own (.stop t name force)) = some standalone := taken
      exact enters_none (retains_standalone rfl stepped) (Processes.retains_refl _)
    · cases removed
      exact enters_none (Processes.retains_refl _) (Processes.retains_refl _)
  · split at removed
    · split at removed
      · obtain ⟨scaleset, taken, same⟩ := Option.map_eq_some_iff.mp removed
        cases same
        exact enters_none (Processes.retains_refl _) (retains_scaleset rfl taken)
      · cases removed
        exact enters_none (Processes.retains_refl _) (Processes.retains_refl _)
    · cases removed
      exact enters_none (Processes.retains_refl _) (Processes.retains_refl _)

theorem start_names {processes started : Processes} {name : RunnerName} {address : Nat}
    (accepted : processes.start name address = .ok started) (other : RunnerName) :
    started.lookup other = none ↔ processes.lookup other = none ∧ name ≠ other := by
  obtain ⟨_, rfl⟩ := Processes.start_ok accepted
  rw [Map.lookup_insert_if]
  split
  · next same =>
      subst same
      exact ⟨nofun, fun both => absurd rfl both.2⟩
  · next other => exact ⟨fun gone => ⟨gone, Ne.symm other⟩, fun both => both.1⟩

/-- An accepted call of `AddRunner`. -/
theorem enters_addRunner {t : ThreadID} {row : RunnerRow} (moded : row.Moded)
    (added : before.addRunner t row.name row.mode = some after) : before.Enters after (some row) := by
  unfold addRunner at added
  rcases moded with mode | mode
  · rw [if_pos (.inl mode)] at added
    obtain ⟨standalone, taken, rfl⟩ := Option.map_eq_some_iff.mp added
    cases act_moves taken with
    | start fresh started =>
        constructor
        · intro name
          simp [mode, start_names started name, Standalone.resume]
        · intro name
          simp [mode]
  · rw [mode, if_neg (by decide), if_pos rfl] at added
    obtain ⟨scaleset, taken, rfl⟩ := Option.map_eq_some_iff.mp added
    cases ScaleSet.step_moves taken with
    | start fresh started =>
        constructor
        · intro name
          simp [mode]
        · intro name
          simp [mode, start_names started name, ScaleSet.resume]

end RunnerService

namespace Deployment

variable {s after : Deployment}

theorem step_enters {event : DeploymentEvent} (tabled : s.Tabled) (taken : s.step event = some after) :
    s.service.Enters after.service (s.starts event) := by
  have unmoved {service : RunnerService} (same : service.standalone = s.service.standalone ∧
      service.scaleset = s.service.scaleset) : s.service.Enters service none := by
    refine RunnerService.enters_none ?_ ?_
    · rw [same.1]
      exact Processes.retains_refl _
    · rw [same.2]
      exact Processes.retains_refl _
  cases step_moves taken with
  | start found added =>
      simp only [starts, found, started_service]
      exact RunnerService.enters_addRunner (tabled.creating _ _ found) added
  | add found added =>
      simp only [starts, found, started_service]
      obtain ⟨standalone, scaleset⟩ := RunnerService.enters_addRunner (tabled.updating _ _ found) added
      exact ⟨standalone, scaleset⟩
  | createRunner | refuse | edit | deleteRunner | acquire => exact unmoved ⟨rfl, rfl⟩
  | updateRunner found asked => exact unmoved (asked_frame (.inl ⟨_, _, asked⟩))
  | ask asked => exact unmoved (asked_frame (.inr asked))
  | removeRunner found removed goes => exact RunnerService.retains_removeRunner removed
  | proceed found deleted =>
      have ⟨moded, mine⟩ := tabled.deletions _ _ found
      cases (delete_deletes deleted moded mine).1 <;> exact unmoved ⟨rfl, rfl⟩
  | prepare here mine prepares =>
      obtain ⟨_, _, _, rfl⟩ := prepares.frame
      exact unmoved ⟨rfl, rfl⟩
  | standalone idle stepped ready =>
      exact RunnerService.enters_none (RunnerService.retains_standalone idle stepped) (Processes.retains_refl _)
  | scaleset idle stepped =>
      exact RunnerService.enters_none (Processes.retains_refl _) (RunnerService.retains_scaleset idle stepped)

/-- A row is being created, or known to the manager of its mode. -/
def Due (s : Deployment) (row : RunnerRow) : Prop :=
  (∃ c pending, s.creating.lookup c = some pending ∧ pending.id = row.id ∧ pending.name = row.name ∧
      pending.mode = row.mode) ∨ (s.service.tables row.mode).1.lookup row.name ≠ none

/-- Every row of the table is under its name, and due. -/
structure Entered (s : Deployment) : Prop where
  named : s.Named
  due : ∀ name row, s.rows.lookup name = some row → s.Due row

/-- No name is known to both managers. -/
def Apart (s : Deployment) : Prop :=
  ∀ name, s.service.standalone.manager.processes.lookup name = none ∨
    s.service.scaleset.manager.processes.lookup name = none

theorem starts_moded {event : DeploymentEvent} {row : RunnerRow} (tabled : s.Tabled) (started : s.starts event = some row) :
    row.Moded := by
  unfold starts at started
  split at started
  · exact tabled.creating _ _ started
  · exact tabled.updating _ _ started
  · cases started

theorem Apart.step {event : DeploymentEvent} (tabled : s.Tabled) (apart : s.Apart) (separate : s.StartsApart event)
    (taken : s.step event = some after) : after.Apart := by
  have enters := step_enters tabled taken
  intro name
  rw [enters.standalone name, enters.scaleset name]
  cases started : s.starts event with
  | none => exact (apart name).imp (⟨·, nofun⟩) (⟨·, nofun⟩)
  | some row =>
      -- Only under the name that is started does either table grow, and there the other has nothing.
      by_cases own : row.name = name
      · subst own
        have missing := separate row started
        rcases starts_moded tabled started with mode | mode
        · rw [mode, RunnerService.tables_standalone] at missing
          right
          refine ⟨missing, ?_⟩
          rintro _ ⟨⟩ other
          exact absurd (mode.symm.trans other) (by decide)
        · rw [mode, RunnerService.tables_scaleset] at missing
          left
          refine ⟨missing, ?_⟩
          rintro _ ⟨⟩ other
          exact absurd (mode.symm.trans other) (by decide)
      · refine (apart name).imp (⟨·, ?_⟩) (⟨·, ?_⟩) <;>
        · rintro _ ⟨⟩ _
          exact own

/-- A manager forgets nobody, and knows the runner that it has started. -/
theorem tables_kept {before after : RunnerService} {started : Option RunnerRow} (enters : before.Enters after started)
    {mode : String} (moded : mode = "standalone" ∨ mode = "scaleset") {name : RunnerName}
    (gone : (after.tables mode).1.lookup name = none) :
    (before.tables mode).1.lookup name = none ∧ ∀ row ∈ started, row.mode = mode → row.name ≠ name := by
  rcases moded with rfl | rfl
  · exact (enters.standalone name).mp gone
  · exact (enters.scaleset name).mp gone

/-- What becomes of the request that creates a row decides whether the row stays due. -/
theorem Due.kept {row : RunnerRow} {started : Option RunnerRow} (due : s.Due row) (moded : row.Moded)
    (enters : s.service.Enters after.service started)
    (creating : ∀ c pending, s.creating.lookup c = some pending → pending.name = row.name → pending.mode = row.mode →
      after.creating.lookup c = some pending ∨ (after.service.tables row.mode).1.lookup row.name ≠ none) :
    after.Due row := by
  rcases due with ⟨c, pending, found, id, name, mode⟩ | known
  · exact (creating c pending found name mode).imp_left fun still => ⟨c, pending, still, id, name, mode⟩
  · exact .inr fun gone => known (tables_kept enters moded gone).1

theorem refuses_known {service : RunnerService} {name : RunnerName} {mode : String}
    (refused : service.refuses name mode = true) : (service.tables mode).1.lookup name ≠ none := by
  unfold RunnerService.refuses at refused
  unfold RunnerService.tables
  intro missing
  split at missing <;>
  · next mode =>
      simp only [mode] at refused
      simp [Processes.start, missing, Except.toOption] at refused

theorem Entered.step {event : DeploymentEvent} (tabled : s.Tabled) (entered : s.Entered)
    (taken : s.step event = some after) : after.Entered := by
  have enters := step_enters tabled taken
  obtain ⟨named, due⟩ := entered
  -- A request that is not touched keeps its row due, and so does a manager, which forgets nobody.
  have kept {name : RunnerName} {row : RunnerRow} (found : s.rows.lookup name = some row)
      (same : after.creating = s.creating) : after.Due row :=
    (due name row found).kept (tabled.rows name row found) enters fun c pending found _ _ => .inl (same ▸ found)
  have unmoved (rows : after.rows = s.rows) (creating : after.creating = s.creating) : after.Entered :=
    ⟨fun name row found => named name row (rows ▸ found), fun name row found => kept (rows ▸ found) creating⟩
  cases step_moves taken with
  | @createRunner c name mode url pat runnerGroup fresh unused valid row is =>
      constructor
      · exact Map.forall_insert named (by rw [is])
      · apply Map.forall_insert
        · intro other old found
          refine (due other old found).kept (tabled.rows other old found) enters fun d pending known _ _ => .inl ?_
          refine (Finmap.lookup_insert_of_ne _ ?_).trans known
          rintro rfl
          cases fresh.symm.trans known
        · exact .inl ⟨c, row, Finmap.lookup_insert _, rfl, rfl, rfl⟩
  | @start c t row service found added =>
      constructor
      · intro name old here
        rw [started_rows] at here
        exact named name old here
      · intro name old here
        have there := here
        rw [started_rows] at there
        refine (due name old there).kept (tabled.rows name old there) enters fun d pending known own mode => ?_
        -- The request ends here, and leaves an entry in the manager of the mode.
        by_cases same : d = c
        · subst same
          cases found.symm.trans known
          exact .inr fun gone => (tables_kept enters (tabled.rows name old there) gone).2 row found mode own
        · exact .inl ((Finmap.lookup_erase_ne same).trans known)
  | @refuse c row found refused =>
      refine ⟨named, fun name old here => ?_⟩
      refine (due name old here).kept (tabled.rows name old here) enters fun d pending known own mode => ?_
      -- A `Start` is refused because there is an entry already.
      by_cases same : d = c
      · subst same
        cases found.symm.trans known
        exact .inr (mode ▸ own ▸ refuses_known refused)
      · exact .inl ((Finmap.lookup_erase_ne same).trans known)
  | @edit u pat runnerGroup row current found known same =>
      have edited : current.name = row.name := named _ _ known
      constructor
      · exact Map.forall_insert named edited
      · have stays : Due _ current := kept known rfl
        exact Map.forall_insert (fun name old here => kept here rfl) stays
  | @add u t row service updates found added =>
      exact unmoved (started_rows _ _ _ _) (started_creating _ _ _ _)
  | proceed found deleted =>
      have ⟨moded, mine⟩ := tabled.deletions _ _ found
      cases (delete_deletes deleted moded mine).1 with
      | deleteRow is =>
          exact ⟨Map.forall_erase named _, Map.forall_erase (fun name row here => kept here rfl) _⟩
      | _ => exact unmoved rfl rfl
  | @scaleset event scaleset idle stepped =>
      obtain ⟨_, _, same, _⟩ := s.spawned_frame event
      refine unmoved ?_ ?_ <;> rw [same]
  | prepare here mine prepares =>
      obtain ⟨_, _, _, rfl⟩ := prepares.frame
      exact unmoved rfl rfl
  | _ => exact unmoved rfl rfl

theorem reached_entered (reached : Reaches step (· = .new) everyStep s) : s.Tabled ∧ s.Entered := by
  apply reached.invariant
  · rintro _ rfl
    exact ⟨⟨nofun, nofun, nofun, nofun⟩, nofun, nofun⟩
  · rintro state event next _ ⟨tabled, entered⟩ _ taken
    exact ⟨tabled.step taken, entered.step tabled taken⟩

/-- In every state that is reached, both views of a row show what the manager of its mode holds just
where the other manager holds nothing else under its name; and they do for every row that is not
being created, as long as no `Start` is accepted under a name that the other manager knows. -/
theorem views_agree (reached : Reaches step (· = .new) everyStep s) :
    (∀ row, s.rows.lookup row.name = some row → (s.Shown row ↔ s.Unshadowed row)) ∧
      (Reaches step (· = .new) StartsApart s →
        ∀ row, s.rows.lookup row.name = some row → s.Settled row → s.Shown row) := by
  obtain ⟨tabled, entered⟩ := reached_entered reached
  refine ⟨fun row here => shown_iff entered.named (tabled.rows _ row here) here, fun separate row here settled => ?_⟩
  have apart : s.Apart := by
    have both : s.Tabled ∧ s.Apart := by
      apply separate.invariant
      · rintro _ rfl
        exact ⟨⟨nofun, nofun, nofun, nofun⟩, fun _ => .inl rfl⟩
      · rintro state event next _ ⟨tabled, apart⟩ starts taken
        exact ⟨tabled.step taken, apart.step tabled starts taken⟩
    exact both.2
  have moded := tabled.rows _ row here
  refine (shown_iff entered.named moded here).mpr fun other shadow => ?_
  rcases entered.due _ row here with ⟨c, pending, found, same, _⟩ | known
  · exact absurd same (settled c pending found)
  · rcases moded with mode | mode
    · rw [mode, RunnerService.tables_standalone] at known shadow
      cases ((apart row.name).resolve_left known).symm.trans shadow
    · rw [mode, RunnerService.tables_scaleset] at known shadow
      cases ((apart row.name).resolve_right known).symm.trans shadow

end Deployment

/-- A thread with nothing to do until its listener exits. -/
def Thread.idle : Thread → Bool
  | .lifecycle _ [] | .lifecycle _ [.serve _ _] | .stop _ (.returned _) => true
  | _ => false

def ScaleSetThread.idle : ScaleSetThread → Bool
  | .launch _ (.returned _) | .listener _ (.listening _) | .listener _ .done | .halt _ .returned => true
  | _ => false

namespace Deployment

/-- Nothing is in progress. -/
def Quiet (s : Deployment) : Prop :=
  (∀ c row, s.creating.lookup c = some row → False) ∧ (∀ u row, s.updating.lookup u = some row → False) ∧
    (∀ d deletion, s.deletions.lookup d = some deletion → deletion.phase = .done) ∧
    (∀ t thread, s.service.standalone.threads.lookup t = some thread → thread.idle = true) ∧
    ∀ t thread, s.service.scaleset.threads.lookup t = some thread → thread.idle = true

instance (s : Deployment) : Decidable s.Quiet := inferInstanceAs (Decidable (_ ∧ _))

/-- A deleted runner is created again in the other mode, and its listener is up. -/
def recast : List DeploymentEvent :=
  deleted ++ [.removeRunner 0 3, .proceed 0 true, .proceed 0 true, .proceed 0 true,
    .createRunner 1 "a" "scaleset" "https://github.com/o/r" "" "", .start 1 2, .scaleset (.run 2 ⟨false, none, false⟩),
    .scaleset (.spawn 2 10), .acquire 10, .scaleset (.run 10 ⟨false, none, false⟩),
    .scaleset (.run 2 ⟨false, none, false⟩)]

/-- The list shows the new runner online, and the detail the old one. -/
theorem views_disagree : ∃ s, Reaches step (· = .new) everyStep s ∧ s.Quiet ∧ ∃ row,
    s.rows.lookup "a" = some row ∧ (s.held row).state = .online ∧
      (∀ runners first second, ((s.listRunners runners first second).find? (fun shown => shown.runner.name = "a")).map
        CombinedRunner.state = some .online) ∧
      (s.getRunner "a").map (fun shown => (shown.state, shown.error)) = some (.offline, "signal: killed") := by
  obtain ⟨s, reached, quiet, here, mine, theirs⟩ : ∃ s, Reaches step (· = .new) everyStep s ∧ s.Quiet ∧
      s.rows.lookup "a" = some ⟨2, "a", "scaleset", "https://github.com/o/r", "", "", ""⟩ ∧
      s.service.scaleset.manager.processes.getStatus "scaleset" "a" = some ⟨"a", "scaleset", .online, "", 0⟩ ∧
      s.service.standalone.manager.processes.getStatus "standalone" "a" =
        some ⟨"a", "standalone", .offline, "signal: killed", 0⟩ := by
    refine Reaches.of_replay rfl recast ?_
    decide
  refine ⟨s, reached, quiet, _, here, ?_, fun runners first second => ?_, ?_⟩
  · rw [held, RunnerService.tables_scaleset, mine]
    rfl
  · rw [find_listRunners (reached_entered reached).2.named, here, Option.map_some, mine]
    rfl
  · rw [getRunner, here, Option.map_some, RunnerService.getRunnerStatus, theirs]
    rfl

/-- One runner, shown Offline with the error of its listener until it is deleted. -/
theorem views_agree_once : ∃ s row, Reaches step (· = .new) StartsApart s ∧ s.rows.lookup "a" = some row ∧
    s.Shown row ∧ s.Unshadowed row ∧ s.held row = ⟨"a", "standalone", .offline, "signal: killed", 0⟩ := by
  obtain ⟨s, reached, here, settled, mine⟩ : ∃ s, Reaches step (· = .new) StartsApart s ∧
      s.rows.lookup "a" = some firstRow ∧ (∀ c pending, s.creating.lookup c = some pending → pending.id ≠ firstRow.id) ∧
      s.held firstRow = ⟨"a", "standalone", .offline, "signal: killed", 0⟩ := by
    refine Reaches.of_replay rfl (deleted.take 27) ?_
    decide
  have ⟨exactly, shown⟩ := views_agree (reached.mono fun _ _ _ => trivial)
  have both := shown reached firstRow here settled
  exact ⟨s, firstRow, reached, here, both, (exactly firstRow here).mp both, mine⟩

end Deployment

end RunnersMux
