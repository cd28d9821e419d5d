import RunnersMux.Dashboard.Authorised
import RunnersMux.Dashboard.Secrecy
import RunnersMux.Foundations.Tables
import RunnersMux.Foundations.Transitions

/-! The table `runners` over a run of the statements that write to it.

A request makes at most one of them, between reads that anything may come in
between, and the orchestrator makes the last one. An identifier stands for one
runner for good: AUTOINCREMENT gives it out once, and no statement writes a name, a
mode, a URL or a directory a second time.
-/

set_option autoImplicit false

namespace RunnersMux

open Foundations

namespace Sqlc

/-- A statement that writes, and what it meets. -/
inductive Write where
  | createRunner (env : Surroundings) (params : CreateRunnerParams)
  | updateRunner (env : Surroundings) (params : UpdateRunnerParams)
  | deleteRunnerByName (env : Surroundings) (name : RunnerName)
  | incrementJobsCompleted (failure : Option String) (name : RunnerName)

namespace Runners

/-- The table that the migrations leave. -/
def new : Runners := ⟨[], 1⟩

/-- `failure` is the error of the statement, where the database fails. -/
def incrementJobsCompleted (failure : Option String) (table : Runners) (name : RunnerName) : Except String Runners :=
  match failure with
  | some err => .error err
  | none => .ok { table with rows := table.rows.map fun row =>
      if row.name = name then { row with jobsCompleted := row.jobsCompleted + 1 } else row }

/-- A statement that fails writes nothing. -/
def step (table : Runners) : Write → Option Runners
  | .createRunner env params => (table.createRunner env params).toOption.map Prod.snd
  | .updateRunner env params => (table.updateRunner env params).toOption.map Prod.snd
  | .deleteRunnerByName env name => (table.deleteRunnerByName env name).toOption
  | .incrementJobsCompleted failure name => (table.incrementJobsCompleted failure name).toOption

end Runners

/-- The row of a runner as the handlers make it. -/
structure Runner.Made (row : Runner) : Prop where
  name : blank row.name = false
  url : blank row.url = false
  mode : row.mode = "standalone" ∨ row.mode = "scaleset"
  dir : row.dir = RunnerRow.directory row.name row.mode

/-- The columns of two rows that no statement changes. -/
structure Runner.Same (row later : Runner) : Prop where
  id : row.id = later.id
  name : row.name = later.name
  mode : row.mode = later.mode
  url : row.url = later.url
  dir : row.dir = later.dir
  createdAt : row.createdAt = later.createdAt

/-- The handlers create a runner from a payload that they have checked, and choose its directory. -/
def Write.Issued : Write → Prop
  | .createRunner _ params => blank params.name = false ∧ blank params.url = false ∧
      params.dir = RunnerRow.directory params.name params.mode
  | _ => True

instance : (write : Write) → Decidable write.Issued
  | .createRunner _ params => inferInstanceAs (Decidable (blank params.name = false ∧ _))
  | .updateRunner .. | .deleteRunnerByName .. | .incrementJobsCompleted .. => isTrue trivial

namespace Runners

/-- Names are unique, and so are identifiers, below the next one. -/
structure Sound (table : Runners) : Prop where
  names : Keyed Runner.name table.rows
  ids : Keyed Runner.id table.rows
  old : ∀ row ∈ table.rows, row.id < table.nextID
  made : ∀ row ∈ table.rows, row.Made

/-- A row of the later table is that of the earlier one, with no fewer jobs, or is younger than the earlier table. -/
structure Persists (table later : Runners) : Prop where
  younger : table.nextID ≤ later.nextID
  kept : ∀ row ∈ later.rows, row.id < table.nextID →
    ∃ old ∈ table.rows, old.Same row ∧ old.jobsCompleted ≤ row.jobsCompleted

/-- What a statement does to the rows. -/
inductive Writes (table : Runners) : Write → Runners → Prop where
  | createRunner {env : Surroundings} {params : CreateRunnerParams} {row : Runner}
      (valid : params.mode = "standalone" ∨ params.mode = "scaleset")
      (unused : ∀ other ∈ table.rows, other.name ≠ params.name)
      (is : row = ⟨table.nextID, params.name, params.mode, params.url, params.dir, params.pat, params.maxRunners,
        params.labels, params.runnerGroup, 0, env.now⟩) :
      Writes table (.createRunner env params) ⟨table.rows ++ [row], table.nextID + 1⟩
  | updateRunner {env : Surroundings} {params : UpdateRunnerParams} {old : Runner}
      (found : rowAt Runner.id table.rows params.id = some old) : Writes table (.updateRunner env params)
        { table with rows := table.rows.map fun row => if row.id = params.id then coalesce row params else row }
  | deleteRunnerByName {env : Surroundings} {name : RunnerName} : Writes table (.deleteRunnerByName env name)
      { table with rows := table.rows.filter fun row => row.name ≠ name }
  | incrementJobsCompleted {name : RunnerName} : Writes table (.incrementJobsCompleted none name)
      { table with rows := table.rows.map fun row =>
          if row.name = name then { row with jobsCompleted := row.jobsCompleted + 1 } else row }

variable {table after : Runners}

theorem step_writes {write : Write} (taken : table.step write = some after) : Writes table write after := by
  cases write with
  | createRunner env params =>
      simp only [step, createRunner] at taken
      split at taken
      · cases taken
      · split at taken
        · cases taken
        · next valid =>
            rw [not_not] at valid
            split at taken
            · cases taken
            · next unused =>
                cases taken
                refine .createRunner valid ?_ rfl
                simpa using unused
  | updateRunner env params =>
      simp only [step, updateRunner] at taken
      split at taken
      · cases taken
      · split at taken <;> cases taken
        next found => exact .updateRunner found
  | deleteRunnerByName env name =>
      simp only [step, deleteRunnerByName] at taken
      split at taken <;> cases taken
      exact .deleteRunnerByName
  | incrementJobsCompleted failure name =>
      cases failure <;> cases taken
      exact .incrementJobsCompleted

end Runners

namespace Runner.Same

theorem refl (row : Runner) : row.Same row := ⟨rfl, rfl, rfl, rfl, rfl, rfl⟩

theorem trans {first second third : Runner} (one : first.Same second) (other : second.Same third) :
    first.Same third where
  id := one.id.trans other.id
  name := one.name.trans other.name
  mode := one.mode.trans other.mode
  url := one.url.trans other.url
  dir := one.dir.trans other.dir
  createdAt := one.createdAt.trans other.createdAt

theorem made {row later : Runner} (same : row.Same later) (made : row.Made) : later.Made where
  name := same.name ▸ made.name
  url := same.url ▸ made.url
  mode := same.mode ▸ made.mode
  dir := by rw [← same.dir, ← same.name, ← same.mode, made.dir]

end Runner.Same

namespace Runners

/-- What the two updates do to a row. -/
structure Revises (change : Runner → Runner) : Prop where
  same : ∀ row : Runner, row.Same (change row)
  jobs : ∀ row : Runner, row.jobsCompleted ≤ (change row).jobsCompleted

theorem revises_coalesce (params : UpdateRunnerParams) :
    Revises fun row => if row.id = params.id then coalesce row params else row := by
  constructor <;> intro row <;> split
  · exact ⟨rfl, rfl, rfl, rfl, rfl, rfl⟩
  · exact .refl row
  · exact Nat.le_refl _
  · exact Nat.le_refl _

theorem revises_increment (name : RunnerName) :
    Revises fun row => if row.name = name then { row with jobsCompleted := row.jobsCompleted + 1 } else row := by
  constructor <;> intro row <;> split
  · exact ⟨rfl, rfl, rfl, rfl, rfl, rfl⟩
  · exact .refl row
  · exact Nat.le_succ _
  · exact Nat.le_refl _

variable {table after : Runners}

theorem sound_new : new.Sound := ⟨List.nodup_nil, List.nodup_nil, by simp [new], by simp [new]⟩

theorem Sound.revise (sound : table.Sound) {change : Runner → Runner} (revises : Revises change) :
    Sound { table with rows := table.rows.map change } where
  names := sound.names.map fun row => (revises.same row).name.symm
  ids := sound.ids.map fun row => (revises.same row).id.symm
  old := by
    simp only [List.forall_mem_map]
    exact fun row member => (revises.same row).id ▸ sound.old row member
  made := by
    simp only [List.forall_mem_map]
    exact fun row member => (revises.same row).made (sound.made row member)

theorem sound_step {write : Write} (sound : table.Sound) (issued : write.Issued) (writes : Writes table write after) :
    after.Sound := by
  cases writes with
  | @createRunner env params new valid unused is =>
      subst is
      obtain ⟨named, located, placed⟩ := issued
      constructor
      · exact sound.names.append unused
      · exact sound.ids.append fun other member => Nat.ne_of_lt (sound.old other member)
      · intro other member
        rcases List.mem_append.mp member with before | own
        · exact Nat.lt_succ_of_lt (sound.old other before)
        · rw [List.mem_singleton.mp own]
          exact Nat.lt_succ_self _
      · intro other member
        rcases List.mem_append.mp member with before | own
        · exact sound.made other before
        · rw [List.mem_singleton.mp own]
          exact ⟨named, located, valid, placed⟩
  | updateRunner => exact sound.revise (revises_coalesce _)
  | deleteRunnerByName =>
      constructor
      · exact sound.names.filter _
      · exact sound.ids.filter _
      · exact fun other member => sound.old other (List.mem_of_mem_filter member)
      · exact fun other member => sound.made other (List.mem_of_mem_filter member)
  | incrementJobsCompleted => exact sound.revise (revises_increment _)

theorem Persists.refl (table : Runners) : table.Persists table :=
  ⟨Nat.le_refl _, fun row member _ => ⟨row, member, .refl row, Nat.le_refl _⟩⟩

theorem Persists.trans {earlier table later : Runners} (first : earlier.Persists table)
    (second : table.Persists later) :
    earlier.Persists later := by
  refine ⟨first.younger.trans second.younger, fun row member old => ?_⟩
  obtain ⟨middle, between, same, fewer⟩ := second.kept row member (Nat.lt_of_lt_of_le old first.younger)
  obtain ⟨start, before, also, least⟩ := first.kept middle between (same.id ▸ old)
  exact ⟨start, before, also.trans same, least.trans fewer⟩

theorem persists_revise {change : Runner → Runner} (revises : Revises change) :
    table.Persists { table with rows := table.rows.map change } := by
  refine ⟨Nat.le_refl _, ?_⟩
  simp only [List.forall_mem_map]
  exact fun row member _ => ⟨row, member, revises.same row, revises.jobs row⟩

theorem persists_step {write : Write} (writes : Writes table write after) : table.Persists after := by
  cases writes with
  | createRunner valid unused is =>
      refine ⟨Nat.le_succ _, fun other member old => ?_⟩
      rcases List.mem_append.mp member with before | own
      · exact ⟨other, before, .refl other, Nat.le_refl _⟩
      · rw [List.mem_singleton.mp own, is] at old
        exact absurd old (Nat.lt_irrefl _)
  | updateRunner => exact persists_revise (revises_coalesce _)
  | deleteRunnerByName =>
      exact ⟨Nat.le_refl _, fun other member _ => ⟨other, List.mem_of_mem_filter member, .refl other, Nat.le_refl _⟩⟩
  | incrementJobsCompleted => exact persists_revise (revises_increment _)

/-- A table that statements of the program have made. -/
abbrev Stored (table : Runners) : Prop := Reaches step (· = new) (fun _ write => write.Issued) table

theorem Stored.sound (stored : Stored table) : table.Sound := by
  apply stored.invariant
  · rintro _ rfl
    exact sound_new
  · intro earlier write after _ sound issued taken
    exact sound_step sound issued (step_writes taken)

end Runners

end Sqlc

namespace Api

open Sqlc (Write Runner)

variable {env : Surroundings} {table : Sqlc.Runners}

/-- What a request does to the table: one statement, or nothing. -/
def OneWrite (table after : Sqlc.Runners) : Prop :=
  after = table ∨ ∃ write : Write, write.Issued ∧ table.step write = some after

/-- The table after a `createRunner`, which has inserted a row or nothing. -/
theorem createRunner_cases (payload : Option CreatePayload) :
    (createRunner env table payload).2 = table ∨ ∃ input row after, payload = some input ∧
      blank input.name = false ∧ blank input.url = false ∧
      table.createRunner env (createParams input) = .ok (row, after) ∧ (createRunner env table payload).2 = after := by
  unfold createRunner
  split
  · exact .inl rfl
  · next payload =>
      split
      · exact .inl rfl
      · next checked =>
          simp only [Bool.or_eq_true, not_or, Bool.not_eq_true] at checked
          split
          · exact .inl rfl
          · next regToken _ =>
              cases created : table.createRunner env (createParams payload) with
              | error err => simp [serviceCreateRunner, created]
              | ok made =>
                  refine .inr ⟨payload, made.1, made.2, rfl, checked.1.1, checked.2, created, ?_⟩
                  unfold serviceCreateRunner
                  simp only [created]
                  split <;> next answered => split at answered <;> cases answered <;> rfl

theorem createRunner_writes (payload : Option CreatePayload) : OneWrite table (createRunner env table payload).2 := by
  rcases createRunner_cases payload with same | ⟨input, row, after, _, named, located, created, becomes⟩
  · exact .inl same
  · rw [becomes]
    refine .inr ⟨.createRunner env (createParams input), ⟨named, located, rfl⟩, ?_⟩
    simp [Sqlc.Runners.step, created, Except.toOption]

theorem edit_writes {row updated : Runner} {input : UpdatePayload} {after : Sqlc.Runners}
    (edited : edit env table row input = .ok (updated, after)) : OneWrite table after := by
  unfold edit at edited
  split at edited
  · cases edited
    exact .inl rfl
  · have taken : table.step (.updateRunner env (updateParams row.id input)) = some after := by
      simp [Sqlc.Runners.step, edited, Except.toOption]
    exact .inr ⟨.updateRunner env (updateParams row.id input), trivial, taken⟩

/-- The table after an `UpdateRunner`, which has edited the row of its name or nothing. -/
theorem serviceUpdateRunner_cases (name : RunnerName) (input : UpdatePayload) (regToken : String) :
    (serviceUpdateRunner env table name input regToken).2 = table ∨ ∃ row updated,
      readRow env table .getRunnerByName name = .ok row ∧
      edit env table row input = .ok (updated, (serviceUpdateRunner env table name input regToken).2) := by
  unfold serviceUpdateRunner
  split
  · exact .inl rfl
  · next row read =>
      split
      · exact .inl rfl
      · split
        · exact .inl rfl
        · next updated after edited =>
            refine .inr ⟨row, updated, read, ?_⟩
            split <;> exact edited

theorem updateRunner_cases (name : RunnerName) (payload : Option UpdatePayload) :
    (updateRunner env table name payload).2 = table ∨ ∃ input row updated, payload = some input ∧
      readRow env table .getRunnerByName name = .ok row ∧
      edit env table row input = .ok (updated, (updateRunner env table name payload).2) := by
  cases payload with
  | none => exact .inl rfl
  | some input =>
      have served : (updateRunner env table name (some input)).2 = table ∨
          ∃ regToken, (updateRunner env table name (some input)).2 =
            (serviceUpdateRunner env table name input regToken).2 := by
        unfold updateRunner
        dsimp only
        split
        · exact .inl rfl
        · split
          · exact .inl rfl
          · next regToken _ =>
              refine .inr ⟨regToken, ?_⟩
              split
              · next failed =>
                  rw [failed]
                  split <;> rfl
              · next fine => rw [fine]
      rcases served with same | ⟨regToken, same⟩
      · exact .inl same
      · rw [same]
        apply (serviceUpdateRunner_cases name input regToken).imp_right
        rintro ⟨row, updated, both⟩
        exact ⟨input, row, updated, rfl, both⟩

theorem updateRunner_writes (name : RunnerName) (payload : Option UpdatePayload) :
    OneWrite table (updateRunner env table name payload).2 := by
  rcases updateRunner_cases name payload with same | ⟨input, row, updated, _, _, edited⟩
  · exact .inl same
  · exact edit_writes edited

theorem deleteRunner_writes (name : RunnerName) : OneWrite table (deleteRunner env table name).2 := by
  unfold deleteRunner
  split
  · exact .inl rfl
  · split
    · exact .inl rfl
    · next after deleted =>
        refine .inr ⟨.deleteRunnerByName env name, trivial, ?_⟩
        unfold serviceDeleteRunner at deleted
        split at deleted
        · cases deleted
        · split at deleted <;> cases deleted
          next erased => simp [Sqlc.Runners.step, erased, Except.toOption]

/-- Every request keeps to the statements of the table. -/
theorem serve_writes (request : Request) : OneWrite table (serve env table request).2 := by
  unfold serve
  split
  · exact .inl rfl
  · cases request with
    | listRunners | getRunner => exact .inl rfl
    | createRunner payload => exact createRunner_writes payload
    | updateRunner name payload => exact updateRunner_writes name payload
    | deleteRunner name => exact deleteRunner_writes name

theorem OneWrite.stored {after : Sqlc.Runners} (written : OneWrite table after) (stored : table.Stored) :
    after.Stored := by
  rcases written with same | ⟨write, issued, taken⟩
  · rwa [same]
  · exact .next stored issued taken

end Api

namespace Sqlc.Runners

/-- An identifier is one runner's from its creation to its deletion, and nobody's afterwards; every request
goes on with one of these statements, or writes nothing. -/
theorem rows_persist (table later : Runners) (stored : Stored table)
    (reached : Reaches step (· = table) (fun _ write => write.Issued) later) :
    table.Sound ∧ later.Sound ∧ table.Persists later ∧
      ∀ env request, Api.OneWrite later (Api.serve env later request).2 := by
  have follows : later.Sound ∧ table.Persists later := by
    apply reached.invariant
    · rintro _ rfl
      exact ⟨stored.sound, .refl _⟩
    · rintro earlier write after _ ⟨sound, persists⟩ issued taken
      have writes := step_writes taken
      exact ⟨sound_step sound issued writes, persists.trans (persists_step writes)⟩
  exact ⟨stored.sound, follows.1, follows.2, fun env request => Api.serve_writes request⟩

def peopled : Runners where
  rows := [⟨1, "a", "scaleset", "https://github.com/o/r", "", "p", 0, "", "", 0, "now"⟩]
  nextID := 2

theorem peopled_stored : Stored peopled := by
  obtain ⟨table, stored, rfl⟩ : ∃ table, Reaches step (· = new) (fun _ write => write.Issued) table ∧
      table = peopled := by
    refine Reaches.of_replay rfl [.createRunner Api.quiet
      ⟨"a", "scaleset", "https://github.com/o/r", "", "p", 0, "", ""⟩] ?_
    decide +kernel
  exact stored

/-- A runner runs a job and goes, and another one gets its name. -/
theorem rows_persist_again : ∃ later : Runners,
    (later.rows.map fun row => (row.id, row.mode, row.jobsCompleted)) = [(2, "standalone", 0)] ∧
      peopled.Sound ∧ later.Sound ∧ peopled.Persists later := by
  obtain ⟨later, reached, one⟩ : ∃ later, Reaches step (· = peopled) (fun _ write => write.Issued) later ∧
      (later.rows.map fun row => (row.id, row.mode, row.jobsCompleted)) = [(2, "standalone", 0)] := by
    refine Reaches.of_replay rfl [.incrementJobsCompleted none "a", .deleteRunnerByName Api.quiet "a",
      .createRunner Api.quiet ⟨"a", "standalone", "https://github.com/o/r", "/opt/runners/a", "", 0, "", ""⟩] ?_
    decide +kernel
  obtain ⟨sound, still, persists, _⟩ := rows_persist peopled later peopled_stored reached
  exact ⟨later, one, sound, still, persists⟩

end Sqlc.Runners

/-- The columns that the service and its managers read. -/
def Sqlc.Runner.columns (row : Sqlc.Runner) : RunnerRow :=
  ⟨row.id, row.name, row.mode, row.url, row.dir, row.pat, row.runnerGroup⟩

/-- What `createRunner` checks before it calls the service. -/
def DeploymentEvent.Checked : DeploymentEvent → Prop
  | .createRunner _ name _ url _ _ => blank name = false ∧ blank url = false
  | _ => True

instance : (event : DeploymentEvent) → Decidable event.Checked
  | .createRunner _ name _ url _ _ => inferInstanceAs (Decidable (blank name = false ∧ blank url = false))
  | .start .. | .refuse .. | .updateRunner .. | .ask .. | .edit .. | .add .. | .deleteRunner .. | .removeRunner ..
  | .proceed .. | .initializeEnvironment .. | .standalone .. | .scaleset .. | .acquire .. => isTrue trivial

namespace Deployment

open Sqlc (Write Runner)

/-- The rows of a deployment, by name, are those of a table. -/
structure Stores (s : Deployment) (table : Sqlc.Runners) : Prop where
  rows : ∀ name, s.rows.lookup name = (rowAt Runner.name table.rows name).map Runner.columns
  nextID : s.nextID = table.nextID

variable {s after : Deployment} {table : Sqlc.Runners}

theorem stores_new : Stores new Sqlc.Runners.new := ⟨fun _ => rfl, rfl⟩

/-- The columns of a row after an edit. -/
theorem columns_coalesce (row : Runner) (id : Nat) (pat runnerGroup : String) :
    (Sqlc.Runners.coalesce row (Api.updateParams id ⟨pat, 0, [], runnerGroup⟩)).columns =
      row.columns.edited pat runnerGroup := by
  by_cases token : pat = "" <;> by_cases group : runnerGroup = "" <;>
    simp [Sqlc.Runners.coalesce, Api.updateParams, Runner.columns, RunnerRow.edited, token, group]

theorem delete_rows {deletion : Deletion} {ok : Bool} {phase : DeletePhase}
    (deleted : s.delete deletion ok = some (after, phase)) :
    after.nextID = s.nextID ∧ (after.rows = s.rows ∨ after.rows = s.rows.erase deletion.row.name) := by
  refine ⟨(delete_table deleted).2.2.1, ?_⟩
  unfold delete at deleted
  cases old : deletion.phase with
  | deleting =>
      rw [old] at deleted
      cases deleted
      exact .inr rfl
  | clearing =>
      rw [old] at deleted
      cases deleted
      split <;> exact .inl rfl
  | deregistering =>
      rw [old] at deleted
      dsimp only at deleted
      split at deleted <;> split at deleted <;> cases deleted <;> exact .inl rfl
  | halting t | removing t =>
      rw [old] at deleted
      dsimp only at deleted
      split at deleted <;> cases deleted
      exact .inl rfl
  | unregistering | dropping id =>
      rw [old] at deleted
      dsimp only at deleted
      split at deleted
      · split at deleted <;> cases deleted <;> exact .inl rfl
      · cases deleted
        exact .inl rfl
  | stopping | sleeping | done =>
      rw [old] at deleted
      cases deleted

/-- A step that is none of the table's business. -/
theorem Stores.idle (stores : s.Stores table) (rows : after.rows = s.rows) (nextID : after.nextID = s.nextID) :
    after.Stores table := by
  constructor
  · rw [rows]
    exact stores.rows
  · rw [nextID, stores.nextID]

theorem stores_create (stores : s.Stores table) (c : ClientID) {name : RunnerName} {mode url pat runnerGroup : String}
    (unused : s.rows.lookup name = none) (valid : mode = "standalone" ∨ mode = "scaleset") {row : RunnerRow}
    (is : row = ⟨s.nextID, name, mode, url, RunnerRow.directory name mode, pat, runnerGroup⟩) :
    ∃ later, table.step (.createRunner Api.quiet
        ⟨name, mode, url, RunnerRow.directory name mode, pat, 0, "", runnerGroup⟩) = some later ∧
      Stores
        { s with rows := s.rows.insert name row, nextID := s.nextID + 1, creating := s.creating.insert c row } later := by
  have free : ∀ other ∈ table.rows, other.name ≠ name := by
    apply rowAt_eq_none.mp
    have none_ := stores.rows name
    rw [unused] at none_
    exact Option.map_eq_none_iff.mp none_.symm
  let new : Runner := ⟨table.nextID, name, mode, url, RunnerRow.directory name mode, pat, 0, "", runnerGroup, 0, "now"⟩
  refine ⟨⟨table.rows ++ [new], table.nextID + 1⟩, ?_, ?_, ?_⟩
  · have unseen : ¬table.rows.any (fun other => other.name = name) = true := by simpa using free
    simp only [Sqlc.Runners.step, Sqlc.Runners.createRunner, Api.quiet, valid, not_true_eq_false, if_false,
      if_neg unseen]
    rfl
  · intro other
    dsimp only
    have fresh : ∀ other ∈ table.rows, Runner.name other ≠ Runner.name new := free
    rw [rowAt_append fresh, Map.lookup_insert_if, Function.update_apply, stores.rows other, is, stores.nextID]
    split <;> rfl
  · exact congrArg (· + 1) stores.nextID

theorem stores_edit (sound : table.Sound) (stores : s.Stores table) (u : UpdateID) {pat runnerGroup : String}
    {row current : RunnerRow} (known : s.rows.lookup row.name = some current) (same : current.id = row.id) :
    ∃ later, table.step (.updateRunner Api.quiet (Api.updateParams row.id ⟨pat, 0, [], runnerGroup⟩)) = some later ∧
      Stores { s with
        rows := s.rows.insert row.name (current.edited pat runnerGroup)
        updating := s.updating.insert u (current.edited pat runnerGroup) } later := by
  obtain ⟨stored, found, rfl⟩ := Option.map_eq_some_iff.mp ((stores.rows row.name).symm.trans known)
  obtain ⟨member, named⟩ := rowAt_mem found
  have selected : (table.rows.find? fun other => other.id = row.id) = some stored :=
    sound.ids.rowAt_eq_some.mpr ⟨member, same⟩
  let params := Api.updateParams row.id ⟨pat, 0, [], runnerGroup⟩
  let change (other : Runner) : Runner := if other.id = row.id then Sqlc.Runners.coalesce other params else other
  have keeps (other : Runner) : (change other).name = other.name := by
    unfold change
    split <;> rfl
  refine ⟨{ table with rows := table.rows.map change }, ?_, ?_, stores.nextID⟩
  · dsimp only [Sqlc.Runners.step, Sqlc.Runners.updateRunner, Api.quiet]
    rw [show (table.rows.find? fun other => other.id = params.id) = some stored from selected]
    rfl
  · intro other
    dsimp only
    rw [rowAt_map keeps, Map.lookup_insert_if, stores.rows other]
    by_cases own : other = row.name
    · subst own
      rw [if_pos rfl, found]
      change _ = some (change stored).columns
      rw [show change stored = _ from if_pos same, columns_coalesce]
    · rw [if_neg own]
      cases beside : rowAt Runner.name table.rows other with
      | none => rfl
      | some another =>
          -- It is another row, so the statement passes it by.
          obtain ⟨also, called⟩ := rowAt_mem beside
          have apart : another.id ≠ row.id := by
            intro equal
            rw [sound.ids.eq also member (equal.trans same.symm), named] at called
            exact own called.symm
          rw [Option.map_some, Option.map_some, Option.map_some, show change another = _ from if_neg apart]

theorem stores_delete (stores : s.Stores table) (name : RunnerName) (nextID : after.nextID = s.nextID)
    (rows : after.rows = s.rows.erase name) :
    ∃ later, table.step (.deleteRunnerByName Api.quiet name) = some later ∧ after.Stores later := by
  refine ⟨_, rfl, ?_, nextID.trans stores.nextID⟩
  intro other
  rw [rows, Map.lookup_erase_if, rowAt_filter, Function.update_apply, stores.rows other]
  split <;> rfl

/-- A step of the deployment is one statement on the table, or none. -/
theorem stores_step {event : DeploymentEvent} (sound : table.Sound) (stores : s.Stores table) (checked : event.Checked)
    (moves : DeploymentMoves s event after) :
    ∃ later, Api.OneWrite table later ∧ after.Stores later := by
  have nothing (rows : after.rows = s.rows) (nextID : after.nextID = s.nextID) :
      ∃ later, Api.OneWrite table later ∧ after.Stores later :=
    ⟨table, .inl rfl, stores.idle rows nextID⟩
  cases moves with
  | @createRunner c name mode url pat runnerGroup fresh unused valid row is =>
      obtain ⟨later, taken, stored⟩ := stores_create stores c unused valid is
      refine ⟨later, .inr ⟨_, ?_, taken⟩, stored⟩
      exact ⟨checked.1, checked.2, rfl⟩
  | @edit u pat runnerGroup row current found known same =>
      obtain ⟨later, taken, stored⟩ := stores_edit sound stores u known same
      refine ⟨later, .inr ⟨_, ?_, taken⟩, stored⟩
      trivial
  | @proceed d ok deletion between phase found deleted =>
      obtain ⟨nextID, same | gone⟩ := delete_rows deleted
      · exact nothing same nextID
      · obtain ⟨later, taken, stored⟩ : ∃ later,
            table.step (.deleteRunnerByName Api.quiet deletion.row.name) = some later ∧ between.Stores later :=
          stores_delete stores deletion.row.name nextID gone
        refine ⟨later, .inr ⟨_, ?_, taken⟩, stored.idle rfl rfl⟩
        trivial
  | start | add => exact nothing (started_rows _ _ _ _) (started_nextID _ _ _ _)
  | scaleset =>
      obtain ⟨launches, underway, same, _⟩ := s.spawned_frame ‹_›
      exact nothing (by rw [same]) (by rw [same])
  | prepare here mine prepares =>
      obtain ⟨_, _, _, rfl⟩ := prepares.frame
      exact nothing rfl rfl
  | refuse | updateRunner | ask | deleteRunner | removeRunner | standalone | acquire => exact nothing rfl rfl

/-- Whatever the requests and the managers do, the rows of the deployment are those of a table
that statements have made one by one. -/
theorem rows_stored (s : Deployment) (reached : Reaches step (· = new) (fun _ event => event.Checked) s) :
    ∃ table : Sqlc.Runners, table.Stored ∧ s.Stores table := by
  induction reached with
  | start begin => exact ⟨_, .start rfl, begin ▸ stores_new⟩
  | next _ checked taken ih =>
      obtain ⟨table, stored, stores⟩ := ih
      obtain ⟨later, same | ⟨write, issued, wrote⟩, still⟩ := stores_step stored.sound stores checked (step_moves taken)
      · exact ⟨table, stored, same ▸ still⟩
      · exact ⟨later, .next stored issued wrote, still⟩

theorem rows_stored_edited : ∃ (s : Deployment) (table : Sqlc.Runners),
    (s.rows.lookup "a").map RunnerRow.pat = some "q" ∧ table.Stored ∧ s.Stores table := by
  obtain ⟨s, reached, edited⟩ : ∃ s, Reaches step (· = new) (fun _ event => event.Checked) s ∧
      (s.rows.lookup "a").map RunnerRow.pat = some "q" := by
    refine Reaches.of_replay rfl [.createRunner 0 "a" "scaleset" "u" "p" "", .updateRunner 0 "a", .ask 0,
      .edit 0 "q" ""] ?_
    decide +kernel
  obtain ⟨table, stored⟩ := rows_stored s reached
  exact ⟨s, table, edited, stored⟩

end Deployment

end RunnersMux
