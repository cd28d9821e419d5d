import RunnersMux.Mux.Lifecycle

/-! Who holds an entry, for any kind of threads.

An engaged thread needs the entry of its runner to be up; a thread that names an
address may yet write Failed through it. As long as `Start` is accepted only
where the runner rests, an entry has one engaged thread, and no other thread can
take it down.
-/

set_option autoImplicit false

namespace RunnersMux

open Foundations

namespace Processes

/-- A change under which the entry of a runner stays the same object and goes down no further. -/
def Keeps (before after : Processes) (name : RunnerName) : Prop :=
  ∀ entry, before.lookup name = some entry → ∃ kept, after.lookup name = some kept ∧
    kept.address = entry.address ∧ (kept.state.down = true → entry.state.down = true)

variable {processes after : Processes} {name : RunnerName}

theorem Keeps.same (looked : after.lookup name = processes.lookup name) : processes.Keeps after name := by
  intro entry found
  exact ⟨entry, looked.trans found, rfl, id⟩

theorem Keeps.refl (processes : Processes) (name : RunnerName) : processes.Keeps processes name := .same rfl

theorem keeps_modify {runner : RunnerName} {change : ProcessState → ProcessState}
    (keeps : runner = name → ∀ entry, processes.lookup name = some entry → (change entry).address = entry.address ∧
      ((change entry).state.down = true → entry.state.down = true)) :
    processes.Keeps (processes.modify runner change) name := by
  intro entry found
  rw [Map.lookup_modify, found]
  split
  · next same => exact ⟨_, rfl, keeps same.symm entry found⟩
  · exact ⟨entry, rfl, rfl, id⟩

theorem keeps_mapValues {change : RunnerName → ProcessState → ProcessState}
    (keeps : ∀ entry, (change name entry).address = entry.address ∧
      ((change name entry).state.down = true → entry.state.down = true)) :
    processes.Keeps (processes.mapValues change) name := by
  intro entry found
  rw [Map.lookup_mapValues, found]
  exact ⟨_, rfl, keeps entry⟩

theorem keeps_transitioned {runner : RunnerName} {goal : RunnerState} (up : runner = name → goal.down = false) :
    processes.Keeps (processes.transitioned runner goal) name := by
  intro entry found
  rw [lookup_transitioned, found]
  split
  · next same =>
      refine ⟨_, rfl, ?_, ?_⟩
      · dsimp only
        split <;> rfl
      · intro down
        dsimp only at down
        split at down
        · cases (up same.symm).symm.trans down
        · exact down
  · exact ⟨entry, rfl, rfl, id⟩

theorem keeps_setError (runner : RunnerName) (text : String) :
    processes.Keeps (processes.setError runner text) name :=
  keeps_modify fun _ _ _ => ⟨rfl, id⟩

/-- A failure that is reported to an entry which is no longer in the table. -/
theorem keeps_fail {runner : RunnerName} {address : Nat} {text : String}
    (stale : runner = name → ∀ entry, processes.lookup name = some entry → entry.address ≠ address) :
    processes.Keeps (processes.fail runner address text) name := by
  apply keeps_modify
  intro same entry found
  rw [if_neg (stale same entry found)]
  exact ⟨rfl, id⟩

theorem keeps_markBusy (runner : RunnerName) : processes.Keeps (processes.markBusy runner) name := by
  apply keeps_modify
  intro _ entry _
  refine ⟨rfl, fun down => ?_⟩
  unfold ProcessState.busy at down
  dsimp only at down
  split at down
  · cases down
  · exact down

theorem keeps_markIdle (runner : RunnerName) {idleState : RunnerState} (up : idleState.down = false) :
    processes.Keeps (processes.markIdle runner idleState) name := by
  apply keeps_modify
  intro _ entry _
  refine ⟨rfl, fun down => ?_⟩
  unfold ProcessState.idle at down
  dsimp only at down
  split at down
  · cases up.symm.trans down
  · exact down

theorem keeps_stop {runner : RunnerName} (stopped : processes.stop runner = .ok (some after)) :
    processes.Keeps after name := by
  obtain ⟨process, found, rfl⟩ := stop_ok stopped
  intro entry known
  rw [Map.lookup_insert_if]
  split
  · next same =>
      subst same
      cases found.symm.trans known
      exact ⟨_, rfl, rfl, fun down => by cases down⟩
  · exact ⟨entry, known, rfl, id⟩

end Processes

variable {ID : Type} {processes after : Processes} {engaged still : ID → RunnerName → Prop}
  {names named : ID → RunnerName → Nat → Prop}

/-- One engaged thread an entry, which no other thread's address leads to. -/
structure Tenancy (processes : Processes) (engaged : ID → RunnerName → Prop) (names : ID → RunnerName → Nat → Prop) :
    Prop where
  up : ∀ t runner, engaged t runner → processes.resting runner = false
  single : ∀ t other runner, engaged t runner → engaged other runner → t = other
  stale : ∀ t other runner address, engaged t runner → names other runner address → other ≠ t →
    ∀ entry, processes.lookup runner = some entry → entry.address ≠ address

namespace Tenancy

theorem entry (tenancy : Tenancy processes engaged names) {t : ID} {runner : RunnerName} (mine : engaged t runner) :
    ∃ entry, processes.lookup runner = some entry ∧ entry.state.down = false := by
  have up := tenancy.up t runner mine
  rw [resting_lookup] at up
  cases found : processes.lookup runner with
  | none =>
      rw [found] at up
      cases up
  | some entry =>
      rw [found] at up
      exact ⟨entry, rfl, up⟩

theorem of_keeps (tenancy : Tenancy processes engaged names) {t : ID} {runner : RunnerName} (mine : engaged t runner)
    (keeps : processes.Keeps after runner) : after.resting runner = false := by
  obtain ⟨entry, found, up⟩ := tenancy.entry mine
  obtain ⟨kept, looked, _, goes⟩ := keeps entry found
  rw [resting_lookup, looked]
  exact Bool.eq_false_iff.mpr fun down => Bool.noConfusion (up.symm.trans (goes down))

/-- A step in which no thread becomes engaged. -/
theorem moves (tenancy : Tenancy processes engaged names)
    (fewer : ∀ t runner, still t runner → engaged t runner)
    (writes : ∀ t runner address, named t runner address → names t runner address ∨
      ∀ other, still other runner → other = t)
    (keeps : ∀ t runner, still t runner → processes.Keeps after runner) : Tenancy after still named := by
  constructor
  · intro t runner mine
    exact tenancy.of_keeps (fewer t runner mine) (keeps t runner mine)
  · intro t other runner one two
    exact tenancy.single t other runner (fewer _ _ one) (fewer _ _ two)
  · intro t other runner address mine theirs different entry looked
    rcases writes other runner address theirs with before | only
    · obtain ⟨old, found, _⟩ := tenancy.entry (fewer t runner mine)
      obtain ⟨kept, now, same, _⟩ := keeps t runner mine old found
      cases now.symm.trans looked
      rw [same]
      exact tenancy.stale t other runner address (fewer t runner mine) before different old found
    · exact absurd (only t mine).symm different

/-- A thread that hands its engagement to a new one, and keeps no address. -/
theorem hands (tenancy : Tenancy processes engaged names) {t g : ID} {runner : RunnerName} (mine : engaged t runner)
    (passed : ∀ other name, still other name → other = g ∧ name = runner ∨ other ≠ t ∧ engaged other name)
    (writes : ∀ other name address, named other name address → other ≠ t ∧ names other name address) :
    Tenancy processes still named := by
  have idle (other : ID) (different : other ≠ t) (also : engaged other runner) : False :=
    different (tenancy.single other t runner also mine)
  constructor
  · intro other name now
    rcases passed other name now with ⟨_, rfl⟩ | ⟨_, before⟩
    · exact tenancy.up t name mine
    · exact tenancy.up other name before
  · intro first second name one two
    rcases passed first name one with ⟨rfl, rfl⟩ | ⟨different, before⟩ <;>
      rcases passed second name two with ⟨rfl, same⟩ | ⟨distinct, also⟩
    · rfl
    · exact (idle second distinct also).elim
    · exact (idle first different (same ▸ before)).elim
    · exact tenancy.single first second name before also
  · intro first second name address now theirs different
    have ⟨distinct, old⟩ := writes second name address theirs
    rcases passed first name now with ⟨_, rfl⟩ | ⟨_, before⟩
    · exact tenancy.stale t second name address mine old distinct
    · exact tenancy.stale first second name address before old different

/-- A `Start` that is accepted for a runner at rest, under a fresh address. -/
theorem begins (tenancy : Tenancy processes engaged names) {t : ID} {runner : RunnerName} {entry : ProcessState}
    (resting : processes.resting runner = true) (up : entry.state.down = false)
    (begun : ∀ other name, still other name → engaged other name ∨ other = t ∧ name = runner)
    (writes : ∀ other name address, named other name address → names other name address ∨
      other = t ∧ name = runner)
    (dated : ∀ other address, names other runner address → entry.address ≠ address) :
    Tenancy (processes.insert runner entry) still named := by
  have idle (other : ID) (mine : engaged other runner) : False :=
    Bool.noConfusion (resting.symm.trans (tenancy.up other runner mine))
  have others (other : ID) (name : RunnerName) (mine : engaged other name) : name ≠ runner := by
    rintro rfl
    exact idle other mine
  constructor
  · intro other name mine
    rw [resting_lookup, Map.lookup_insert_if]
    split
    · exact up
    · next different =>
        rcases begun other name mine with before | ⟨_, same⟩
        · rw [← resting_lookup]
          exact tenancy.up other name before
        · exact absurd same different
  · intro first second name one two
    rcases begun first name one with before | ⟨mine, same⟩ <;> rcases begun second name two with also | ⟨yours, equal⟩
    · exact tenancy.single first second name before also
    · exact absurd equal (others first name before)
    · exact absurd same (others second name also)
    · exact mine.trans yours.symm
  · intro first second name address mine theirs different found looked
    rw [Map.lookup_insert_if] at looked
    rcases begun first name mine with before | ⟨rfl, rfl⟩
    · rw [if_neg (others first name before)] at looked
      rcases writes second name address theirs with old | ⟨_, same⟩
      · exact tenancy.stale first second name address before old different found looked
      · exact absurd same (others first name before)
    · rw [if_pos rfl] at looked
      cases looked
      rcases writes second _ address theirs with old | ⟨same, _⟩
      · exact dated second address old
      · exact absurd same different

end Tenancy

end RunnersMux
