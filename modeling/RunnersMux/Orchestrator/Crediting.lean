import RunnersMux.Dashboard.Table
import RunnersMux.Orchestrator.Jobs

/-! What becomes of a counted job in the table.

`handleContainerDeath` leaves the increment to a goroutine of its own. It may run at
any later time, fail with a warning, or find no row of that name any more. As long
as a row stays, what it has gained and what is still owed to it make up the jobs
that were counted.
-/

set_option autoImplicit false

namespace RunnersMux

open Foundations

/-- The orchestrator with the table and the increments on their way to it. -/
structure Crediting (Managers : Type) where
  system : System Managers
  table : Sqlc.Runners
  /-- The goroutines that have yet to call `IncrementJobsCompleted`, by the names they were given. -/
  increments : List RunnerName
  /-- The names in the warnings about increments that have failed. -/
  failures : List RunnerName

inductive CreditingEvent (Event Outcome : Type) where
  | system (action : Action Event Outcome)
  | increment (name : RunnerName) (failure : Option String)
  | write (write : Sqlc.Write)

/-- A statement of the dashboard. -/
def Sqlc.Write.served : Sqlc.Write → Bool
  | .incrementJobsCompleted .. => false
  | .createRunner .. | .updateRunner .. | .deleteRunnerByName .. => true

namespace Crediting

variable {Managers Event Outcome : Type}

def step (interfaces : Interfaces Managers Event Outcome) (s : Crediting Managers) :
    CreditingEvent Event Outcome → Option (Crediting Managers)
  | .system action => (s.system.step interfaces action).map fun system =>
      { s with system, increments := (s.system.completes action).toList.map Prod.snd ++ s.increments }
  | .increment name failure =>
      if name ∈ s.increments then
        match s.table.incrementJobsCompleted failure name with
        | .ok table => some { s with table, increments := s.increments.erase name }
        | .error _ => some { s with increments := s.increments.erase name, failures := name :: s.failures }
      else none
  | .write write => if write.served then (s.table.step write).map fun table => { s with table } else none

/-- The process has started, on a table that earlier ones have left. -/
def Opens (maxWorkers warmWorkers : Int) (managers : Managers) (s : Crediting Managers) : Prop :=
  System.Started maxWorkers warmWorkers managers s.system ∧ s.table.Stored ∧ s.increments = [] ∧ s.failures = []

/-- The dashboard writes as its handlers do. -/
def Issued (_ : Crediting Managers) : CreditingEvent Event Outcome → Prop
  | .write write => write.Issued
  | _ => True

instance (s : Crediting Managers) : (event : CreditingEvent Event Outcome) → Decidable (s.Issued event)
  | .write write => inferInstanceAs (Decidable write.Issued)
  | .system _ | .increment .. => isTrue trivial

/-- The jobs of a runner that have been counted. -/
def counted (s : Crediting Managers) (name : RunnerName) : Nat := (s.system.jobsCompleted.map Prod.snd).count name

/-- The increments for a runner that are on their way, or have failed. -/
def owed (s : Crediting Managers) (name : RunnerName) : Nat := s.increments.count name + s.failures.count name

/-- The accounts of a run from one state to another. A row that is there at both ends has gained what
was counted for it, apart from what is owed; a younger one no more than that. -/
structure Credited (s later : Crediting Managers) : Prop where
  once : (later.system.jobsCompleted.map Prod.fst).Nodup
  kept : ∀ old ∈ s.table.rows, ∀ row ∈ later.table.rows, old.id = row.id →
    row.jobsCompleted + later.owed row.name + s.counted row.name =
      old.jobsCompleted + s.owed row.name + later.counted row.name
  younger : ∀ row ∈ later.table.rows, s.table.nextID ≤ row.id →
    row.jobsCompleted + later.owed row.name + s.counted row.name ≤ s.owed row.name + later.counted row.name

/-- What a run keeps apart from the accounts. -/
structure Booked (s : Crediting Managers) : Prop where
  assigned : System.Assigned s.system
  ledger : System.Ledger s.system
  sound : s.table.Sound

/-- The accounts, and that nothing is owed without a job. -/
structure Balanced (s later : Crediting Managers) : Prop extends Credited s later where
  owes : ∀ name, later.owed name + s.counted name ≤ s.owed name + later.counted name
  next : s.table.nextID ≤ later.table.nextID

/-- A statement of the dashboard credits nobody. -/
theorem served_rows {table after : Sqlc.Runners} {write : Sqlc.Write} (served : write.served = true)
    (writes : Sqlc.Runners.Writes table write after) {row : Sqlc.Runner} (member : row ∈ after.rows) :
    (∃ old ∈ table.rows, old.Same row ∧ old.jobsCompleted = row.jobsCompleted) ∨
      row.id = table.nextID ∧ row.jobsCompleted = 0 := by
  cases writes with
  | createRunner valid unused is =>
      rcases List.mem_append.mp member with before | own
      · exact .inl ⟨row, before, .refl row, rfl⟩
      · rw [List.mem_singleton.mp own, is]
        exact .inr ⟨rfl, rfl⟩
  | updateRunner =>
      obtain ⟨old, before, rfl⟩ := List.mem_map.mp member
      refine .inl ⟨old, before, (Sqlc.Runners.revises_coalesce _).same old, ?_⟩
      split <;> rfl
  | deleteRunnerByName => exact .inl ⟨row, List.mem_of_mem_filter member, .refl row, rfl⟩
  | incrementJobsCompleted => cases served

section
variable {s earlier after : Crediting Managers}

theorem balanced_refl (booked : s.Booked) (once : (s.system.jobsCompleted.map Prod.fst).Nodup) : Balanced s s where
  once := once
  kept := by
    intro old before row member same
    rw [booked.sound.ids.eq before member same]
  younger row member old := absurd (booked.sound.old row member) (Nat.not_lt.mpr old)
  owes _ := Nat.le_refl _
  next := Nat.le_refl _

/-- Only the orchestrator or the increments have moved, and what they count agrees. -/
theorem Balanced.recount (balanced : Balanced s earlier) (once : (after.system.jobsCompleted.map Prod.fst).Nodup)
    (table : after.table = earlier.table)
    (even : ∀ name, after.owed name + earlier.counted name = earlier.owed name + after.counted name) :
    Balanced s after where
  once := once
  kept := by
    rw [table]
    intro old before row member same
    have account := balanced.kept old before row member same
    have level := even row.name
    omega
  younger := by
    rw [table]
    intro row member old
    have account := balanced.younger row member old
    have level := even row.name
    omega
  owes name := by
    have account := balanced.owes name
    have level := even name
    omega
  next := table ▸ balanced.next

theorem balanced_write (booked : s.Booked) (balanced : Balanced s earlier) {write : Sqlc.Write} {table : Sqlc.Runners}
    (served : write.served = true) (writes : Sqlc.Runners.Writes earlier.table write table) :
    Balanced s { earlier with table } where
  once := balanced.once
  kept := by
    intro old before row member same
    rcases served_rows served writes member with ⟨middle, between, stays, jobs⟩ | ⟨new, _⟩
    · have account := balanced.kept old before middle between (same.trans stays.id.symm)
      rw [stays.name, jobs] at account
      exact account
    · -- A new row has an identifier that is none of the old ones.
      have bound := booked.sound.old old before
      have next := balanced.next
      omega
  younger := by
    intro row member old
    rcases served_rows served writes member with ⟨middle, between, stays, jobs⟩ | ⟨_, none_⟩
    · have account := balanced.younger middle between (stays.id ▸ old)
      rw [stays.name, jobs] at account
      exact account
    · have account := balanced.owes row.name
      rw [none_, Nat.zero_add]
      exact account
  owes := balanced.owes
  next := balanced.next.trans (Sqlc.Runners.persists_step writes).younger

/-- An increment that has run is no longer owed to a row of its name. -/
theorem balanced_increment (balanced : Balanced s earlier) {name : RunnerName} (pending : name ∈ earlier.increments)
    {table : Sqlc.Runners} (writes : Sqlc.Runners.Writes earlier.table (.incrementJobsCompleted none name) table) :
    Balanced s { earlier with table, increments := earlier.increments.erase name } := by
  cases writes
  let gain (other : RunnerName) : Nat := if other = name then 1 else 0
  have owed (other : RunnerName) : earlier.increments.count other =
      (earlier.increments.erase name).count other + gain other := by
    have positive := List.count_pos_iff.mpr pending
    unfold gain
    rw [List.count_erase]
    by_cases same : other = name
    · subst same
      simp only [beq_self_eq_true, if_true]
      omega
    · simp [same, Ne.symm same]
  -- The row that a row of the table comes from, and what it has gained.
  have origin {row : Sqlc.Runner} (member : row ∈ earlier.table.rows.map fun row =>
      if row.name = name then { row with jobsCompleted := row.jobsCompleted + 1 } else row) :
      ∃ old ∈ earlier.table.rows, old.Same row ∧ row.jobsCompleted = old.jobsCompleted + gain row.name := by
    obtain ⟨old, before, rfl⟩ := List.mem_map.mp member
    refine ⟨old, before, (Sqlc.Runners.revises_increment name).same old, ?_⟩
    unfold gain
    split <;> rfl
  refine ⟨⟨balanced.once, ?_, ?_⟩, ?_, balanced.next⟩
  · intro old before row member same
    obtain ⟨middle, between, stays, jobs⟩ := origin member
    have account := balanced.kept old before middle between (same.trans stays.id.symm)
    have less := owed row.name
    rw [stays.name] at account
    change row.jobsCompleted + ((earlier.increments.erase name).count row.name + earlier.failures.count row.name) +
      s.counted row.name = old.jobsCompleted + s.owed row.name + earlier.counted row.name
    unfold Crediting.owed at account ⊢
    omega
  · intro row member old
    obtain ⟨middle, between, stays, jobs⟩ := origin member
    have account := balanced.younger middle between (stays.id ▸ old)
    have less := owed row.name
    rw [stays.name] at account
    change row.jobsCompleted + ((earlier.increments.erase name).count row.name + earlier.failures.count row.name) +
      s.counted row.name ≤ s.owed row.name + earlier.counted row.name
    unfold Crediting.owed at account ⊢
    omega
  · intro other
    have account := balanced.owes other
    have less := owed other
    change (earlier.increments.erase name).count other + earlier.failures.count other + s.counted other ≤
      s.owed other + earlier.counted other
    unfold Crediting.owed at account ⊢
    omega

/-- A step of the orchestrator owes what it counts. -/
theorem recount_system {interfaces : Interfaces Managers Event Outcome} {action : Action Event Outcome}
    {system : System Managers} (effect : System.Effect interfaces earlier.system action system) (name : RunnerName) :
    owed { earlier with
        system, increments := (earlier.system.completes action).toList.map Prod.snd ++ earlier.increments } name +
      earlier.counted name = earlier.owed name + counted { earlier with system } name := by
  unfold owed counted
  dsimp only
  rw [(System.effect_completes effect).1, List.map_append, List.count_append, List.count_append]
  omega

/-- An increment that fails turns into a warning. -/
theorem owed_failure {name : RunnerName} (pending : name ∈ earlier.increments) (other : RunnerName) :
    owed { earlier with increments := earlier.increments.erase name, failures := name :: earlier.failures } other =
      earlier.owed other := by
  have positive := List.count_pos_iff.mpr pending
  unfold owed
  dsimp only
  rw [List.count_erase, List.count_cons]
  by_cases same : other = name
  · subst same
    simp only [beq_self_eq_true, if_true]
    omega
  · simp [Ne.symm same]

theorem booked_step {interfaces : Interfaces Managers Event Outcome} {event : CreditingEvent Event Outcome}
    (booked : s.Booked) (issued : s.Issued event) (taken : s.step interfaces event = some after) : after.Booked := by
  obtain ⟨assigned, ledger, sound⟩ := booked
  cases event with
  | system action =>
      obtain ⟨system, acted, rfl⟩ := Option.map_eq_some_iff.mp taken
      have effect := System.step_effect interfaces acted
      exact ⟨System.assigned_step interfaces assigned effect, System.ledger_step assigned.keyed ledger effect, sound⟩
  | increment name failure =>
      simp only [step] at taken
      split at taken
      · cases failure <;> cases taken
        · have issued : (Sqlc.Write.incrementJobsCompleted none name).Issued := trivial
          exact ⟨assigned, ledger, Sqlc.Runners.sound_step sound issued .incrementJobsCompleted⟩
        · exact ⟨assigned, ledger, sound⟩
      · cases taken
  | write write =>
      simp only [step] at taken
      split at taken
      · obtain ⟨table, wrote, rfl⟩ := Option.map_eq_some_iff.mp taken
        exact ⟨assigned, ledger, Sqlc.Runners.sound_step sound issued (Sqlc.Runners.step_writes wrote)⟩
      · cases taken

/-- No container is counted twice. -/
theorem Booked.once (booked : s.Booked) : (s.system.jobsCompleted.map Prod.fst).Nodup := by
  rw [List.nodup_iff_count_le_one]
  intro id
  have once := booked.ledger.once id
  have held := s.system.occupied_nonneg id
  have active := s.system.orchestrator.activeAt_nonneg id
  unfold System.chances System.issued at once
  omega

theorem balanced_step {interfaces : Interfaces Managers Event Outcome} {event : CreditingEvent Event Outcome}
    (booked : s.Booked) (balanced : Balanced s earlier) (still : after.Booked)
    (taken : earlier.step interfaces event = some after) : Balanced s after := by
  cases event with
  | system action =>
      obtain ⟨system, acted, rfl⟩ := Option.map_eq_some_iff.mp taken
      exact balanced.recount still.once rfl (recount_system (System.step_effect interfaces acted))
  | increment name failure =>
      simp only [step] at taken
      split at taken
      · next pending =>
          cases failure <;> cases taken
          · exact balanced_increment balanced pending .incrementJobsCompleted
          · exact balanced.recount still.once rfl fun other => congrArg (· + _) (owed_failure pending other)
      · cases taken
  | write write =>
      simp only [step] at taken
      split at taken
      · next served =>
          obtain ⟨table, wrote, rfl⟩ := Option.map_eq_some_iff.mp taken
          exact balanced_write booked balanced served (Sqlc.Runners.step_writes wrote)
      · cases taken

end

/-- Between any two states of a run every row has gained the jobs that were counted for its
runner, each for a container of its own, but for those that are on their way or have failed. -/
theorem jobs_credited (interfaces : Interfaces Managers Event Outcome) (maxWorkers warmWorkers : Int)
    (managers : Managers) (s later : Crediting Managers)
    (reached : Reaches (step interfaces) (Opens maxWorkers warmWorkers managers) Issued s)
    (further : Reaches (step interfaces) (· = s) Issued later) : Credited s later := by
  have booked : s.Booked := by
    apply reached.invariant
    · rintro first ⟨started, stored, _, _⟩
      exact ⟨System.assigned_booted started, System.ledger_booted started, stored.sound⟩
    · intro earlier event after _ booked issued taken
      exact booked_step booked issued taken
  have follows : later.Booked ∧ Balanced s later := by
    apply further.invariant
    · rintro _ rfl
      exact ⟨booked, balanced_refl booked booked.once⟩
    · rintro earlier event after _ ⟨still, balanced⟩ issued taken
      have kept := booked_step still issued taken
      exact ⟨kept, balanced_step booked balanced kept taken⟩
  exact follows.2.toCredited

/-- One warm container, one runner, and nothing on its way. -/
def opened : Crediting Unit where
  system := System.oneWarm 1 0
  table := Sqlc.Runners.peopled
  increments := []
  failures := []

/-- A job ends while the row of its runner is edited. -/
theorem jobs_credited_edited : ∃ later : Crediting Unit,
    (later.table.rows.map fun row => (row.name, row.pat, row.jobsCompleted)) = [("a", "q", 1)] ∧
      Credited opened later := by
  have opens : Opens 1 0 () opened := ⟨System.oneWarm_started 1 0, Sqlc.Runners.peopled_stored, rfl, rfl⟩
  obtain ⟨later, reached, edited⟩ : ∃ later, Reaches (step Interfaces.silent) (· = opened) Issued later ∧
      (later.table.rows.map fun row => (row.name, row.pat, row.jobsCompleted)) = [("a", "q", 1)] := by
    refine Reaches.of_replay rfl [.system (.allocate 0 "a" (some "c1")), .system (.rename 0 none),
      .system (.check 0 true),
      .system (.register 0), .system (.markBusy 0), .system (.die "c1"), .system (.dieEvent 1 "c1"),
      .write (.updateRunner Api.quiet ⟨some "q", none, none, none, 1⟩), .increment "a" none] ?_
    decide +kernel
  exact ⟨later, edited, jobs_credited Interfaces.silent 1 0 () opened later (.start opens) reached⟩

end Crediting

end RunnersMux
