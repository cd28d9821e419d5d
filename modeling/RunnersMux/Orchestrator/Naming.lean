import RunnersMux.Orchestrator.Phantoms

/-! What the names of the containers say.

The only persistent copy of the two maps is the name of a container: a boot
gives it a warm one, and `AllocateWorker` renames it after its runner. Docker
rejects some names, the rejection is logged, and the allocation goes on.
-/

set_option autoImplicit false

namespace RunnersMux

open Foundations

/-- `createRunner` asks of a name that it is not blank. -/
def createRunnerAccepts (name : RunnerName) : Bool := !blank name

/-- A character that Docker allows in a container's name. -/
def nameChar (char : Char) : Bool := char.isAlphanum || char = '_' || char = '.' || char = '-'

/-- `[a-zA-Z0-9][a-zA-Z0-9_.-]+`. -/
def validName (name : String) : Bool :=
  match name.toList with
  | first :: second :: rest => first.isAlphanum && nameChar second && rest.all nameChar
  | _ => false

/-- What `shortID` returns: the first eight digits of a UUID. -/
def isShortID (text : String) : Bool :=
  text.toList.length = 8 && text.toList.all fun char => char.isDigit || ('a' ≤ char && char ≤ 'f')

def activeName (runner : RunnerName) (short : String) : String := namePrefixActive ++ runner ++ "-" ++ short

/-- Recovery takes the container for a warm one. -/
def readsWarm (name : String) : Prop := hasPrefix name namePrefixActive = false ∧ hasPrefix name namePrefixWarm = true

/-- Recovery takes the container for one of the runner's. -/
def readsActive (name : String) (runner : RunnerName) : Prop :=
  hasPrefix name namePrefixActive = true ∧ parseRunnerFromActiveName name = runner

instance (name : String) : Decidable (readsWarm name) := inferInstanceAs (Decidable (_ ∧ _))

theorem readsWarm_warm (short : String) : readsWarm (namePrefixWarm ++ short) := by
  refine ⟨?_, hasPrefix_append _ _⟩
  simp only [hasPrefix, String.toList_append]
  rfl

/-- A short ID has no dash, so the last dash of the name is the one before it. -/
theorem readsActive_active {runner : RunnerName} {short : String} (some_ : runner ≠ "")
    (unsplit : '-' ∉ short.toList) : readsActive (activeName runner short) runner := by
  have shape : activeName runner short = namePrefixActive ++ (runner ++ "-" ++ short) := by
    simp [activeName, String.append_assoc]
  have chars : (runner ++ "-" ++ short).toList = runner.toList ++ '-' :: short.toList := by
    simp
  rw [readsActive, shape]
  refine ⟨hasPrefix_append _ _, ?_⟩
  unfold parseRunnerFromActiveName
  rw [trimPrefix_append]
  dsimp only
  rw [chars, lastIndex_append unsplit]
  cases length : runner.toList.length with
  | zero =>
      have empty : runner.toList = [] := List.length_eq_zero_iff.mp length
      exact absurd (String.toList_eq_nil_iff.mp empty) some_
  | succ index =>
      dsimp only
      rw [← length, List.take_left, String.ofList_toList]

/-- Docker lists a name with a slash in front, and recovery takes that off. -/
theorem trimPrefix_listed {name listed : String} (named : hasPrefix name namePrefixActive = true)
    (member : listed ∈ [name, "/" ++ name]) : trimPrefix listed "/" = name := by
  have cases_ : listed = name ∨ listed = "/" ++ name := by simpa using member
  rcases cases_ with rfl | rfl
  · obtain ⟨rest, shape⟩ := List.isPrefixOf_iff_prefix.mp named
    unfold trimPrefix
    -- An active name begins with a letter.
    rw [if_neg]
    simp only [hasPrefix, ← shape]
    exact Bool.false_ne_true
  · exact trimPrefix_append "/" name

/-- The two prefixes differ after `github-mux-`, whatever follows them. -/
theorem active_not_warm {name : String} (named : hasPrefix name namePrefixActive = true) :
    hasPrefix name namePrefixWarm = false := by
  obtain ⟨rest, shape⟩ := List.isPrefixOf_iff_prefix.mp named
  simp only [hasPrefix, ← shape]
  rfl

/-- The name that `AllocateWorker` gives a container is read back as its runner, listed
with or without the slash, so no two runners are read from such names as one. -/
theorem active_names_decode (runner : RunnerName) (id : String) (some_ : runner ≠ "") (undashed : '-' ∉ id.toList) :
    (∀ listed ∈ [activeName runner id, "/" ++ activeName runner id],
      hasPrefix (trimPrefix listed "/") namePrefixActive = true ∧
      hasPrefix (trimPrefix listed "/") namePrefixWarm = false ∧
      parseRunnerFromActiveName (trimPrefix listed "/") = runner ∧
      ∀ (o : Orchestrator) (container : ListedContainer),
        container.state = "running" → container.names.head? = some listed →
          o.recoverContainer container = o.register runner ⟨container.id, firstIP container⟩) ∧
    ∀ other otherID, other ≠ "" → '-' ∉ otherID.toList → other ≠ runner →
      parseRunnerFromActiveName (activeName other otherID) ≠ parseRunnerFromActiveName (activeName runner id) := by
  obtain ⟨named, parsed⟩ := readsActive_active some_ undashed
  constructor
  · intro listed member
    have trimmed := trimPrefix_listed named member
    rw [trimmed]
    refine ⟨named, active_not_warm named, parsed, ?_⟩
    intro o container up first
    have name : trimPrefix (container.names.headD "") "/" = activeName runner id := by
      rw [List.headD_eq_head?_getD, first]
      exact trimmed
    unfold Orchestrator.recoverContainer
    rw [if_neg (by simp [up])]
    dsimp only
    rw [name, if_pos named, parsed]
  · intro other otherID otherSome otherUndashed differ same
    rw [parsed, (readsActive_active otherSome otherUndashed).2] at same
    exact differ same

/-- A runner that itself reads like a warm container, and ends in a dash. -/
theorem active_names_decode_warmly :
    parseRunnerFromActiveName (trimPrefix ("/" ++ activeName "github-mux-warm-x-" "0a1b2c3d") "/") =
      "github-mux-warm-x-" ∧
    parseRunnerFromActiveName (activeName "-" "0a1b2c3d") ≠
      parseRunnerFromActiveName (activeName "github-mux-warm-x-" "0a1b2c3d") := by
  have decode := active_names_decode "github-mux-warm-x-" "0a1b2c3d" (by decide +kernel) (by decide +kernel)
  constructor
  · exact (decode.1 _ (List.mem_cons_of_mem _ List.mem_cons_self)).2.2.1
  · exact decode.2 "-" "0a1b2c3d" (by decide +kernel) (by decide +kernel) (by decide +kernel)

/-- Neither prefix: recovery skips the container. -/
def unread (name : String) : Prop := hasPrefix name namePrefixActive = false ∧ hasPrefix name namePrefixWarm = false

/-- Whether Docker takes the name does not depend on the short ID. -/
theorem validName_active {runner : RunnerName} {short : String} (drawn : isShortID short = true) :
    validName (activeName runner short) = runner.toList.all nameChar := by
  have digits : short.toList.all nameChar = true := by
    unfold isShortID at drawn
    rw [Bool.and_eq_true, List.all_eq_true] at drawn
    rw [List.all_eq_true]
    intro char member
    have digit := drawn.2 char member
    change (((char.isUpper || (decide (char.val ≥ 97) && decide (char.val ≤ 122))) || char.isDigit) ||
      decide (char = '_') || decide (char = '.') || decide (char = '-')) = true
    simp only [Bool.or_eq_true, Bool.and_eq_true, decide_eq_true_eq] at digit ⊢
    rcases digit with digit | ⟨low, high⟩
    · exact .inl (.inl (.inl (.inr digit)))
    · exact .inl (.inl (.inl (.inl (.inr ⟨low, UInt32.le_trans high (show 'f'.val ≤ 122 by decide)⟩))))
  have shape : (activeName runner short).toList = namePrefixActive.toList ++ (runner.toList ++ '-' :: short.toList) := by
    simp [activeName]
  unfold validName
  rw [shape]
  change ('g'.isAlphanum && nameChar 'i' &&
    (['t', 'h', 'u', 'b', '-', 'm', 'u', 'x', '-', 'a', 'c', 't', 'i', 'v', 'e', '-'] ++
      (runner.toList ++ '-' :: short.toList)).all nameChar) = _
  have tail : ('-' :: short.toList).all nameChar = true := by
    rw [List.all_cons, digits]
    rfl
  rw [List.all_append, List.all_append, tail, Bool.and_true]
  rfl

/-- Docker knows the worker's container under a name that recovery takes for warm. -/
def Warmly (docker : Map ContainerID Container) (worker : WarmWorker) : Prop :=
  ∃ record, docker.lookup worker.containerID = some record ∧ record.ipAddress = worker.ipAddress ∧
    readsWarm record.name

def Actively (docker : Map ContainerID Container) (worker : WarmWorker) (runner : RunnerName) : Prop :=
  ∃ record, docker.lookup worker.containerID = some record ∧ record.ipAddress = worker.ipAddress ∧
    readsActive record.name runner

namespace Goroutine

/-- What the name of a goroutine's container says by the phase it is in. -/
def fits (docker : Map ContainerID Container) : Goroutine → Prop
  | .boot (.inspecting id) => ∃ ipAddress, Warmly docker ⟨id, ipAddress⟩
  | .boot (.started worker) | .allocate _ (.claimed worker) => Warmly docker worker
  | .boot (.pooled worker) => docker.lookup worker.containerID ≠ none
  | .boot (.dead worker) => ∃ record, docker.lookup worker.containerID = some record ∧ record.running = false
  | .allocate runner (.renamed worker) | .allocate runner (.alive worker) => Actively docker worker runner
  | _ => True

/-- A container that is in neither map while a call is about to record or remove it. -/
def carries (id : ContainerID) : Goroutine → Prop
  | .boot (.inspecting other) | .abort (.evaluating other) | .abort (.killing other) => other = id
  | .boot (.started worker) | .allocate _ (.claimed worker) | .allocate _ (.renamed worker)
  | .allocate _ (.dead worker) | .allocate _ (.alive worker) => worker.containerID = id
  | _ => False

/-- The same of what a lookup found. -/
def carriedBy (id : ContainerID) : Option Goroutine → Prop
  | some goroutine => goroutine.carries id
  | none => False

end Goroutine

/-- Containers keep their names and addresses, and none starts again. -/
def Lasting (docker after : Map ContainerID Container) : Prop :=
  ∀ id record, docker.lookup id = some record → ∃ kept, after.lookup id = some kept ∧
    kept.name = record.name ∧ kept.ipAddress = record.ipAddress ∧ (kept.running = true → record.running = true)

section
variable {docker after : Map ContainerID Container}

theorem Lasting.refl (docker : Map ContainerID Container) : Lasting docker docker :=
  fun _ record found => ⟨record, found, rfl, rfl, id⟩

theorem Lasting.warmly (lasting : Lasting docker after) {worker : WarmWorker} (warmly : Warmly docker worker) :
    Warmly after worker := by
  obtain ⟨record, found, address, reads⟩ := warmly
  obtain ⟨kept, looked, name, ipAddress, _⟩ := lasting _ record found
  exact ⟨kept, looked, ipAddress.trans address, name ▸ reads⟩

theorem Lasting.actively (lasting : Lasting docker after) {worker : WarmWorker} {runner : RunnerName}
    (actively : Actively docker worker runner) : Actively after worker runner := by
  obtain ⟨record, found, address, reads⟩ := actively
  obtain ⟨kept, looked, name, ipAddress, _⟩ := lasting _ record found
  exact ⟨kept, looked, ipAddress.trans address, name ▸ reads⟩

theorem Lasting.fits (lasting : Lasting docker after) {goroutine : Goroutine} (fits : goroutine.fits docker) :
    goroutine.fits after := by
  unfold Goroutine.fits at fits ⊢
  split at fits
  · obtain ⟨ipAddress, warmly⟩ := fits
    exact ⟨ipAddress, lasting.warmly warmly⟩
  · exact lasting.warmly fits
  · exact lasting.warmly fits
  · obtain ⟨record, found⟩ := Option.ne_none_iff_exists'.mp fits
    obtain ⟨kept, looked, _⟩ := lasting _ record found
    simp [looked]
  · obtain ⟨record, found, dead⟩ := fits
    obtain ⟨kept, looked, _, _, running⟩ := lasting _ record found
    refine ⟨kept, looked, ?_⟩
    cases alive : kept.running with
    | false => rfl
    | true => exact (running alive).symm.trans dead
  · exact lasting.actively fits
  · exact lasting.actively fits
  · trivial

end

namespace System

variable {Managers Event Outcome : Type}

theorem lasting_stop (state : System Managers) (key : ContainerID) : Lasting state.docker (state.stop key).docker := by
  intro id record found
  unfold stop
  split
  · next other known =>
      dsimp only
      rw [Map.lookup_insert_if]
      split
      · next same =>
          subst same
          cases known.symm.trans found
          exact ⟨_, rfl, rfl, rfl, by simp⟩
      · exact ⟨record, found, rfl, rfl, fun running => running⟩
  · exact ⟨record, found, rfl, rfl, fun running => running⟩

theorem stop_absent {state : System Managers} {key id : ContainerID} (absent : state.docker.lookup id = none) :
    (state.stop key).docker.lookup id = none := by
  unfold stop
  split
  · next other known =>
      dsimp only
      rw [Finmap.lookup_insert_of_ne, absent]
      rintro rfl
      cases absent.symm.trans known
  · exact absent

theorem stop_stopped {state : System Managers} {key : ContainerID} {record : Container}
    (found : (state.stop key).docker.lookup key = some record) : record.running = false := by
  unfold stop at found
  split at found
  · cases (Finmap.lookup_insert _).symm.trans found
    rfl
  · next missing => cases missing.symm.trans found

theorem lasting_remove (state : System Managers) (removed : Bool) (key : ContainerID) :
    Lasting state.docker (state.remove removed key).docker := by
  rcases state.remove_cases key removed with ⟨same, _⟩ | ⟨same, _⟩ <;> rw [same]
  · exact .refl _
  · exact lasting_stop state key

theorem remove_absent {state : System Managers} {removed : Bool} {key id : ContainerID}
    (absent : state.docker.lookup id = none) : (state.remove removed key).docker.lookup id = none := by
  rcases state.remove_cases key removed with ⟨same, _⟩ | ⟨same, _⟩ <;> rw [same]
  · exact absent
  · exact stop_absent absent

/-- A removal that fails only for a stopped container leaves a stopped one. -/
theorem remove_stopped {state : System Managers} {removed : Bool} {key : ContainerID} {record : Container}
    (spared : removed = false → state.running key = false)
    (found : (state.remove removed key).docker.lookup key = some record) : record.running = false := by
  rcases state.remove_cases key removed with ⟨same, fails⟩ | ⟨same, _⟩ <;> rw [same] at found
  · have stopped := spared fails
    unfold running at stopped
    rw [found] at stopped
    exact stopped
  · exact stop_stopped found

theorem lasting_insert {docker : Map ContainerID Container} {key : ContainerID} (fresh : docker.lookup key = none)
    (container : Container) : Lasting docker (docker.insert key container) := by
  intro id record found
  refine ⟨record, ?_, rfl, rfl, fun running => running⟩
  rw [Finmap.lookup_insert_of_ne, found]
  rintro rfl
  cases fresh.symm.trans found

def Carried (state : System Managers) (id : ContainerID) : Prop :=
  ∃ g goroutine, state.goroutines.lookup g = some goroutine ∧ goroutine.carries id

/-- The name `createRunner` has accepted is one that Docker takes. -/
def nameable (runner : RunnerName) : Prop := runner ≠ "" ∧ runner.toList.all nameChar = true

/-- The names of the containers say what the two maps record. -/
structure Readable (state : System Managers) : Prop where
  fits : ∀ g goroutine, state.goroutines.lookup g = some goroutine → goroutine.fits state.docker
  calls : ∀ g runner phase, state.goroutines.lookup g = some (.allocate runner phase) → nameable runner
  warm : ∀ id worker, state.orchestrator.warmPool.lookup id = some worker → Warmly state.docker worker
  active : ∀ id worker, state.orchestrator.activeWorkers.lookup id = some worker → worker.containerID = id ∧
    Actively state.docker ⟨id, worker.ipAddress⟩ worker.runnerName
  loose : ∀ id record, state.docker.lookup id = some record → record.running = true →
    id ∈ state.orchestrator.warmPool ∨ id ∈ state.orchestrator.activeWorkers ∨ state.Carried id ∨ unread record.name

/-- A step of one goroutine, in terms of what it takes out of the maps and puts into them. -/
theorem Readable.resume {state between : System Managers} {g : GoroutineID} {old : Option Goroutine} {new : Goroutine}
    (readable : Readable state) (same : between.goroutines = state.goroutines) (found : state.goroutines.lookup g = old)
    (lasting : Lasting state.docker between.docker) (fits : new.fits between.docker)
    (call : ∀ runner phase, new = .allocate runner phase → nameable runner)
    (warm : ∀ id worker, between.orchestrator.warmPool.lookup id = some worker →
      state.orchestrator.warmPool.lookup id = some worker ∨ Warmly between.docker worker)
    (active : ∀ id worker, between.orchestrator.activeWorkers.lookup id = some worker →
      state.orchestrator.activeWorkers.lookup id = some worker ∨
        worker.containerID = id ∧ Actively between.docker ⟨id, worker.ipAddress⟩ worker.runnerName)
    (loose : ∀ id record, between.docker.lookup id = some record → record.running = true →
      state.docker.lookup id = none ∨ id ∈ state.orchestrator.warmPool ∨ id ∈ state.orchestrator.activeWorkers ∨
        Goroutine.carriedBy id old →
      id ∈ between.orchestrator.warmPool ∨ id ∈ between.orchestrator.activeWorkers ∨ new.carries id) :
    Readable (between.resume g new) := by
  have looked (other : GoroutineID) : (between.resume g new).goroutines.lookup other =
      if other = g then some new else state.goroutines.lookup other := by
    rw [resume_goroutines, same, Map.lookup_insert_if]
  constructor
  · intro other goroutine here
    rw [looked] at here
    split at here
    · cases here
      exact fits
    · exact lasting.fits (readable.fits other goroutine here)
  · intro other runner phase here
    rw [looked] at here
    split at here
    · exact call runner phase (Option.some.inj here)
    · exact readable.calls other runner phase here
  · intro id worker here
    rcases warm id worker here with before | warmly
    · exact lasting.warmly (readable.warm id worker before)
    · exact warmly
  · intro id worker here
    rcases active id worker here with before | new
    · obtain ⟨keyed, actively⟩ := readable.active id worker before
      exact ⟨keyed, lasting.actively actively⟩
    · exact new
  · intro id record here running
    have tracked (cause : state.docker.lookup id = none ∨ id ∈ state.orchestrator.warmPool ∨
        id ∈ state.orchestrator.activeWorkers ∨ Goroutine.carriedBy id old) :
        id ∈ between.orchestrator.warmPool ∨ id ∈ between.orchestrator.activeWorkers ∨
          (between.resume g new).Carried id ∨ unread record.name := by
      rcases loose id record here running cause with warm | active | carries
      · exact .inl warm
      · exact .inr (.inl active)
      · exact .inr (.inr (.inl ⟨g, new, by rw [looked, if_pos rfl], carries⟩))
    cases before : state.docker.lookup id with
    | none => exact tracked (.inl before)
    | some earlier =>
        obtain ⟨kept, again, name, _, alive⟩ := lasting id earlier before
        cases here.symm.trans again
        rcases readable.loose id earlier before (alive running) with warm | active | ⟨other, goroutine, there, carries⟩ | skipped
        · exact tracked (.inr (.inl warm))
        · exact tracked (.inr (.inr (.inl active)))
        · by_cases mine : other = g
          · subst mine
            cases found.symm.trans there
            exact tracked (.inr (.inr (.inr carries)))
          · exact .inr (.inr (.inl ⟨other, goroutine, by rw [looked, if_neg mine, there], carries⟩))
        · exact .inr (.inr (.inr (name ▸ skipped)))

/-- A step that leaves the maps and Docker alone. -/
theorem Readable.quiet {state between : System Managers} {g : GoroutineID} {old : Option Goroutine} {new : Goroutine}
    (readable : Readable state) (same : between.goroutines = state.goroutines) (found : state.goroutines.lookup g = old)
    (docker : between.docker = state.docker) (warm : between.orchestrator.warmPool = state.orchestrator.warmPool)
    (active : between.orchestrator.activeWorkers = state.orchestrator.activeWorkers) (fits : new.fits state.docker)
    (call : ∀ runner phase, new = .allocate runner phase → nameable runner)
    (carries : ∀ id, Goroutine.carriedBy id old → new.carries id) :
    Readable (between.resume g new) := by
  apply readable.resume same found
  · rw [docker]
    exact .refl _
  · rw [docker]
    exact fits
  · exact call
  · intro id worker here
    rw [warm] at here
    exact .inl here
  · intro id worker here
    rw [active] at here
    exact .inl here
  · rw [docker, warm, active]
    rintro id record here _ (absent | warm | active | mine)
    · cases absent.symm.trans here
    · exact .inl warm
    · exact .inr (.inl active)
    · exact .inr (.inr (carries id mine))

/-- A death is handled for a container that is not running. -/
theorem Readable.reap {reporter : StatusReporter Managers} {state between : System Managers} {key : ContainerID}
    {changed : Bool} {g : GoroutineID} {old : Option Goroutine} {new : Goroutine} (readable : Readable state)
    (reaped : Reaped reporter state key between changed) (found : state.goroutines.lookup g = old)
    (dead : ∀ record, state.docker.lookup key = some record → record.running = false)
    (fits : new.fits state.docker) (call : ∀ runner phase, new = .allocate runner phase → nameable runner)
    (idle : ∀ id, ¬Goroutine.carriedBy id old) :
    Readable (between.resume g new) := by
  obtain ⟨goroutines, docker, _, _⟩ := reaped.keeps
  have alive (id : ContainerID) (record : Container) (here : state.docker.lookup id = some record)
      (running : record.running = true) : id ≠ key := by
    rintro rfl
    cases (dead record here).symm.trans running
  apply readable.resume goroutines found
  · rw [docker]
    exact .refl _
  · rw [docker]
    exact fits
  · exact call
  · intro id worker here
    cases reaped with
    | active _ => exact .inl here
    | warm _ _ => exact .inl (Map.lookup_of_erase here)
    | unknown _ _ => exact .inl here
  · intro id worker here
    cases reaped with
    | active _ => exact .inl (Map.lookup_of_erase here)
    | warm _ _ => exact .inl here
    | unknown _ _ => exact .inl here
  · rw [docker]
    rintro id record here running (absent | warm | active | mine)
    · cases absent.symm.trans here
    · left
      cases reaped with
      | active _ => exact warm
      | warm _ _ => exact Finmap.mem_erase.mpr ⟨alive id record here running, warm⟩
      | unknown _ _ => exact warm
    · right
      left
      cases reaped with
      | active _ => exact Finmap.mem_erase.mpr ⟨alive id record here running, active⟩
      | warm _ _ => exact active
      | unknown _ _ => exact active
    · exact absurd mine (idle id)

/-- The loop body of a call that carried nothing. -/
theorem Readable.pick {state : System Managers} {g : GoroutineID} {runner : RunnerName} {old : Option Goroutine}
    {between after : Orchestrator} {phase : AllocatePhase} (readable : Readable state)
    (keyed : state.orchestrator.Keyed) (picked : Picked between after phase) (found : state.goroutines.lookup g = old)
    (idle : ∀ id, ¬Goroutine.carriedBy id old)
    (warm : between.warmPool = state.orchestrator.warmPool)
    (active : between.activeWorkers = state.orchestrator.activeWorkers) (named : nameable runner) :
    Readable ({ state with orchestrator := after }.resume g (.allocate runner phase)) := by
  have call : ∀ name other, Goroutine.allocate runner phase = .allocate name other → nameable name := by
    rintro _ _ ⟨⟩
    exact named
  cases picked with
  | wait empty =>
      exact readable.quiet rfl found rfl warm active trivial call fun id mine => absurd mine (idle id)
  | @claim key candidate here =>
      rw [warm] at here
      refine readable.resume rfl found (.refl _) ?_ ?_ ?_ ?_ ?_
      · exact readable.warm key candidate here
      · exact call
      · intro id worker there
        left
        apply Map.lookup_of_erase
        rw [← warm]
        exact there
      · intro id worker there
        change between.activeWorkers.lookup id = some worker at there
        rw [active] at there
        exact .inl there
      · rintro id record there _ (absent | pooled | working | mine)
        · cases absent.symm.trans there
        · by_cases same : id = key
          · subst same
            exact .inr (.inr (keyed id candidate here))
          · left
            change id ∈ between.warmPool.erase key
            rw [warm]
            exact Finmap.mem_erase.mpr ⟨same, pooled⟩
        · right
          left
          change id ∈ between.activeWorkers
          rw [active]
          exact working
        · exact absurd mine (idle id)

/-- A new name for a container that no other goroutine holds. -/
theorem fits_rename {docker : Map ContainerID Container} {key : ContainerID} {record : Container} {name : String}
    {goroutine : Goroutine} (known : docker.lookup key = some record) (apart : goroutine.holds key = 0)
    (fits : goroutine.fits docker) : goroutine.fits (docker.insert key { record with name := name }) := by
  have away {id : ContainerID} (other : mark key id = 0) :
      (docker.insert key { record with name := name }).lookup id = docker.lookup id := by
    apply Finmap.lookup_insert_of_ne
    rintro rfl
    rw [mark_self] at other
    cases other
  unfold Goroutine.fits at fits ⊢
  split at fits
  · obtain ⟨ipAddress, entry, found, rest⟩ := fits
    exact ⟨ipAddress, entry, (away apart).trans found, rest⟩
  · obtain ⟨entry, found, rest⟩ := fits
    exact ⟨entry, (away apart).trans found, rest⟩
  · obtain ⟨entry, found, rest⟩ := fits
    exact ⟨entry, (away apart).trans found, rest⟩
  · rw [Map.lookup_insert_if]
    split
    · simp
    · exact fits
  · obtain ⟨entry, found, dead⟩ := fits
    rw [Map.lookup_insert_if]
    split
    · next same =>
        subst same
        cases known.symm.trans found
        exact ⟨_, rfl, dead⟩
    · exact ⟨entry, found, dead⟩
  · obtain ⟨entry, found, rest⟩ := fits
    exact ⟨entry, (away apart).trans found, rest⟩
  · obtain ⟨entry, found, rest⟩ := fits
    exact ⟨entry, (away apart).trans found, rest⟩
  · trivial

/-- `AllocateWorker` renames the container that it alone holds. -/
theorem Readable.rename {state : System Managers} {g : GoroutineID} {runner : RunnerName} {candidate : WarmWorker}
    {short : String} (readable : Readable state) (assigned : Assigned state)
    (found : state.goroutines.lookup g = some (.allocate runner (.claimed candidate)))
    (reads : readsActive (activeName runner short) runner) :
    Readable ((state.containerRename candidate.containerID (activeName runner short)).resume g
      (.allocate runner (.renamed candidate))) := by
  obtain ⟨record, known, address, _⟩ := readable.fits g _ found
  have exclusive := assigned.exclusive
  have claims : state.Claims g candidate.containerID := ⟨runner, _, found, rfl⟩
  have shape : state.containerRename candidate.containerID (activeName runner short) = { state with
      docker := state.docker.insert candidate.containerID { record with name := activeName runner short } } := by
    unfold containerRename
    rw [known]
  rw [shape]
  have away {id : ContainerID} (other : id ≠ candidate.containerID) :
      (state.docker.insert candidate.containerID { record with name := activeName runner short }).lookup id =
        state.docker.lookup id := Finmap.lookup_insert_of_ne _ other
  have looked (other : GoroutineID) : (System.resume { state with
      docker := state.docker.insert candidate.containerID { record with name := activeName runner short } } g
        (.allocate runner (.renamed candidate))).goroutines.lookup other =
      if other = g then some (.allocate runner (.renamed candidate)) else state.goroutines.lookup other :=
    Map.lookup_insert_if _ _ _ _
  constructor
  · intro other goroutine here
    rw [looked] at here
    split at here
    · cases here
      exact ⟨_, Finmap.lookup_insert _, address, reads⟩
    · next different =>
        apply fits_rename known _ (readable.fits other goroutine here)
        have both := Map.found_add_le_weigh state.goroutines (fun _ => Goroutine.holds candidate.containerID)
          (fun _ => Goroutine.holds_nonneg _) different
        have once := assigned.once candidate.containerID
        have warm := state.orchestrator.warmAt_nonneg candidate.containerID
        have owned := state.owned_nonneg candidate.containerID
        have nonneg := goroutine.holds_nonneg candidate.containerID
        rw [claims.holds, here, Map.found_some] at both
        simp only [occupied, tally] at once
        omega
  · intro other name phase here
    rw [looked] at here
    split at here
    · cases here
      exact readable.calls g runner _ found
    · exact readable.calls other name phase here
  · intro id worker here
    have other : id ≠ candidate.containerID := by
      rintro rfl
      exact exclusive.warm_claimed _ g (Finmap.mem_of_lookup_eq_some here) claims
    obtain ⟨entry, there, rest⟩ := readable.warm id worker here
    rw [assigned.keyed id worker here] at there
    refine ⟨entry, ?_, rest⟩
    rw [assigned.keyed id worker here, resume_docker, away other, there]
  · intro id worker here
    have other : id ≠ candidate.containerID := by
      rintro rfl
      exact exclusive.claimed_active _ g claims (Finmap.mem_of_lookup_eq_some here)
    obtain ⟨keyed, entry, there, rest⟩ := readable.active id worker here
    exact ⟨keyed, entry, (away other).trans there, rest⟩
  · intro id entry here running
    by_cases same : id = candidate.containerID
    · exact .inr (.inr (.inl ⟨g, .allocate runner (.renamed candidate), by rw [looked, if_pos rfl], same.symm⟩))
    · rw [resume_docker, away same] at here
      rcases readable.loose id entry here running with warm | active | ⟨other, goroutine, there, carries⟩ | skipped
      · exact .inl warm
      · exact .inr (.inl active)
      · by_cases mine : other = g
        · subst mine
          cases found.symm.trans there
          exact absurd carries.symm same
        · exact .inr (.inr (.inl ⟨other, goroutine, by rw [looked, if_neg mine, there], carries⟩))
      · exact .inr (.inr (.inr skipped))

/-- The call of `AllocateWorker` that is about to rename its container. -/
def claimant (state : System Managers) (g : GoroutineID) : Option RunnerName :=
  match state.goroutines.lookup g with
  | some (.allocate runner (.claimed _)) => some runner
  | _ => none

/-- The container that a boot goroutine finds dead, or fails to inspect. -/
def givesUp (state : System Managers) : Action Event Outcome → Option ContainerID
  | .bootCheck g false =>
      match state.goroutines.lookup g with
      | some (.boot (.pooled worker)) => some worker.containerID
      | _ => none
  | _ => none

/-- The container that a forced removal fails for. -/
def leaves (state : System Managers) : Action Event Outcome → Option ContainerID
  | .bootInspectFail g false =>
      match state.goroutines.lookup g with
      | some (.boot (.inspecting id)) => some id
      | _ => none
  | .discard g false =>
      match state.goroutines.lookup g with
      | some (.allocate _ (.dead candidate)) => some candidate.containerID
      | _ => none
  | .kill g false =>
      match state.goroutines.lookup g with
      | some (.abort (.killing id)) => some id
      | _ => none
  | _ => none

end System

def Action.renames {Event Outcome : Type} : Action Event Outcome → Option (GoroutineID × Option String)
  | .rename g short => some (g, short)
  | _ => none

/-- Docker renames a container to every valid name and to no other. -/
def Answers (runner : RunnerName) : Option String → Prop
  | some short => isShortID short = true ∧ validName (activeName runner short) = true
  | none => ∃ short, isShortID short = true ∧ validName (activeName runner short) = false

theorem answers_none {runner : RunnerName} : Answers runner none ↔ runner.toList.all nameChar = false := by
  constructor
  · rintro ⟨short, drawn, invalid⟩
    rw [validName_active drawn] at invalid
    exact invalid
  · intro foreign
    refine ⟨"00000000", by decide, ?_⟩
    rw [validName_active (by decide)]
    exact foreign

instance (runner : RunnerName) : (short : Option String) → Decidable (Answers runner short)
  | some _ => inferInstanceAs (Decidable (_ ∧ _))
  | none => decidable_of_iff _ answers_none.symm

namespace System

variable {Managers Event Outcome : Type}

/-- What the world answers: `createRunner` has accepted the names, and Docker's
verdict on a new name is that of its pattern. -/
structure Verdicts (state : System Managers) (action : Action Event Outcome) : Prop where
  accepted : ∀ runner ∈ action.requests, createRunnerAccepts runner = true
  renamed : ∀ call ∈ action.renames, ∀ runner ∈ state.claimant call.1, Answers runner call.2

instance (state : System Managers) (action : Action Event Outcome) : Decidable (Verdicts state action) :=
  decidable_of_iff (_ ∧ _) ⟨fun both => ⟨both.1, both.2⟩, fun verdicts => ⟨verdicts.accepted, verdicts.renamed⟩⟩

/-- Names that Docker takes, no live container given up for dead, and none that a removal fails for. -/
structure KeepsNames (state : System Managers) (action : Action Event Outcome) : Prop extends
    Verdicts state action where
  named : ∀ runner ∈ action.requests, runner.toList.all nameChar = true
  inspected : ∀ id ∈ state.givesUp action, state.running id = false
  removed : ∀ id ∈ state.leaves action, state.running id = false

instance (state : System Managers) (action : Action Event Outcome) : Decidable (KeepsNames state action) :=
  decidable_of_iff (_ ∧ _ ∧ _ ∧ _) ⟨fun all => ⟨all.1, all.2.1, all.2.2.1, all.2.2.2⟩, fun keeps =>
    ⟨keeps.toVerdicts, keeps.named, keeps.inspected, keeps.removed⟩⟩

/-- The container that a goroutine carried is removed. -/
theorem Readable.remove {state : System Managers} {g : GoroutineID} {old : Option Goroutine} {new : Goroutine}
    {key : ContainerID} {removed : Bool} (readable : Readable state) (found : state.goroutines.lookup g = old)
    (spared : removed = false → state.running key = false)
    (fits : ∀ docker, new.fits docker) (call : ∀ runner phase, new = .allocate runner phase → nameable runner)
    (only : ∀ id, Goroutine.carriedBy id old → key = id) :
    Readable ((state.remove removed key).resume g new) := by
  refine readable.resume (remove_goroutines ..) found (lasting_remove state removed key) (fits _) call ?_ ?_ ?_
  · intro id worker here
    rw [remove_orchestrator] at here
    exact .inl here
  · intro id worker here
    rw [remove_orchestrator] at here
    exact .inl here
  · rw [remove_orchestrator]
    rintro id record here running (absent | warm | active | mine)
    · cases (remove_absent absent).symm.trans here
    · exact .inl warm
    · exact .inr (.inl active)
    · cases only id mine
      cases (remove_stopped spared here).symm.trans running

/-- A container is created under a name of the pool. -/
theorem Readable.create {state : System Managers} {g : GoroutineID} {key : ContainerID} (readable : Readable state)
    (short ipAddress : String) (found : state.goroutines.lookup g = some (.boot .starting))
    (fresh : state.docker.lookup key = none) :
    Readable ({ state with
      docker := state.docker.insert key ⟨namePrefixWarm ++ short, ipAddress, true⟩ }.resume g
        (.boot (.inspecting key))) := by
  refine readable.resume rfl found (lasting_insert fresh _) ?_ (by simp) (fun _ _ => .inl) (fun _ _ => .inl) ?_
  · exact ⟨ipAddress, _, Finmap.lookup_insert _, rfl, readsWarm_warm short⟩
  · rintro id record here _ (absent | warm | active | mine)
    · right
      right
      change (state.docker.insert key _).lookup id = some record at here
      rcases Map.lookup_of_insert here with ⟨same, _⟩ | ⟨_, old⟩
      · exact same.symm
      · cases absent.symm.trans old
    · exact .inl warm
    · exact .inr (.inl active)
    · exact False.elim mine

/-- A booted container enters the pool. -/
theorem Readable.pool {state : System Managers} {g : GoroutineID} {worker : WarmWorker} (readable : Readable state)
    (found : state.goroutines.lookup g = some (.boot (.started worker))) :
    Readable ({ state with orchestrator := state.orchestrator.recordBoot (some worker) }.resume g
      (.boot (.pooled worker))) := by
  have fits : Warmly state.docker worker := readable.fits g _ found
  have known : state.docker.lookup worker.containerID ≠ none := by
    obtain ⟨record, known, _⟩ := fits
    simp [known]
  refine readable.resume rfl found (.refl _) ?_ (by simp) ?_ (fun _ _ => .inl) ?_
  · exact known
  · intro id other here
    change (state.orchestrator.warmPool.insert worker.containerID worker).lookup id = some other at here
    rcases Map.lookup_of_insert here with ⟨_, rfl⟩ | ⟨_, old⟩
    · exact .inr fits
    · exact .inl old
  · rintro id entry here _ (absent | warm | active | same)
    · cases absent.symm.trans here
    · exact .inl (Finmap.mem_insert.mpr (.inr warm))
    · exact .inr (.inl active)
    · exact .inl (Finmap.mem_insert.mpr (.inl (Eq.symm same)))

/-- A call registers the container that it has renamed. -/
theorem Readable.register {state : System Managers} {g : GoroutineID} {runner : RunnerName} {candidate : WarmWorker}
    (readable : Readable state) (found : state.goroutines.lookup g = some (.allocate runner (.alive candidate))) :
    Readable ({ state with
      orchestrator := (state.orchestrator.register runner candidate).broadcast }.resume g
        (.allocate runner (.registered candidate))) := by
  have actively : Actively state.docker ⟨candidate.containerID, candidate.ipAddress⟩ runner := readable.fits g _ found
  refine readable.resume rfl found (.refl _) trivial ?_ (fun _ _ => .inl) ?_ ?_
  · rintro _ _ ⟨⟩
    exact readable.calls g runner _ found
  · intro id worker here
    change (state.orchestrator.activeWorkers.insert candidate.containerID _).lookup id = some worker at here
    rcases Map.lookup_of_insert here with ⟨same, rfl⟩ | ⟨_, old⟩
    · rw [same]
      exact .inr ⟨rfl, actively⟩
    · exact .inl old
  · rintro id entry here _ (absent | warm | active | same)
    · cases absent.symm.trans here
    · exact .inl warm
    · exact .inr (.inl (Finmap.mem_insert.mpr (.inr active)))
    · exact .inr (.inl (Finmap.mem_insert.mpr (.inl (Eq.symm same))))

/-- An abort drops the entry of its container, and goes on to kill that. -/
theorem Readable.abort {state : System Managers} {g : GoroutineID} {key : ContainerID} (readable : Readable state)
    (runner : RunnerName) (managers : Managers) (fresh : state.goroutines.lookup g = none) :
    Readable ({ state with orchestrator := state.orchestrator.removeActive key runner, managers }.resume g
      (.abort (.evaluating key))) := by
  refine readable.resume rfl fresh (.refl _) trivial (by simp) (fun _ _ => .inl) ?_ ?_
  · intro id other here
    change (state.orchestrator.activeWorkers.erase key).lookup id = some other at here
    exact .inl (Map.lookup_of_erase here)
  · rintro id entry here _ (absent | warm | active | mine)
    · cases absent.symm.trans here
    · exact .inl warm
    · by_cases same : id = key
      · exact .inr (.inr same.symm)
      · exact .inr (.inl (Finmap.mem_erase.mpr ⟨same, active⟩))
    · exact False.elim mine

/-- A container stops by itself. -/
theorem Readable.die {state : System Managers} (readable : Readable state) (key : ContainerID) :
    Readable (state.stop key) := by
  have lasting := lasting_stop state key
  constructor
  · intro g goroutine here
    rw [stop_goroutines] at here
    exact lasting.fits (readable.fits g goroutine here)
  · rw [stop_goroutines]
    exact readable.calls
  · rw [stop_orchestrator]
    intro id worker here
    exact lasting.warmly (readable.warm id worker here)
  · rw [stop_orchestrator]
    intro id worker here
    obtain ⟨keyed, actively⟩ := readable.active id worker here
    exact ⟨keyed, lasting.actively actively⟩
  · unfold Carried
    rw [stop_orchestrator, stop_goroutines]
    intro id record here running
    obtain ⟨earlier, before⟩ := Option.ne_none_iff_exists'.mp fun absent => by
      cases (stop_absent absent).symm.trans here
    obtain ⟨kept, again, name, _, alive⟩ := lasting id earlier before
    cases here.symm.trans again
    rw [name]
    exact readable.loose id earlier before (alive running)

theorem readable_step {interfaces : Interfaces Managers Event Outcome} {state after : System Managers}
    {action : Action Event Outcome} (assigned : Assigned state) (readable : Readable state)
    (keeps : KeepsNames state action) (effect : Effect interfaces state action after) : Readable after := by
  cases effect with
  | poolLock | poolBlock | setStatusReporter | managers | updateSettings =>
      exact ⟨readable.fits, readable.calls, readable.warm, readable.active, readable.loose⟩
  | poolBoot held short full fresh => exact readable.quiet rfl fresh rfl rfl rfl trivial (by simp) (fun _ => False.elim)
  | @bootCreate g key short ipAddress found fresh => exact readable.create short ipAddress found fresh
  | bootCreateFail found | bootGiveUp found | bootAlive found =>
      exact readable.quiet rfl found rfl rfl rfl trivial (by simp) (fun _ => False.elim)
  | bootBroadcast found free =>
      rcases found with found | found <;>
        exact readable.quiet rfl found rfl rfl rfl trivial (by simp) (fun _ => False.elim)
  | @bootInspect g key container found known =>
      refine readable.quiet rfl found rfl rfl rfl ?_ (by simp) (fun _ => id)
      obtain ⟨ipAddress, record, looked, address, reads⟩ := readable.fits g _ found
      cases known.symm.trans looked
      exact ⟨container, known, rfl, reads⟩
  | @bootInspectFail g removed key found =>
      refine readable.remove found ?_ (fun _ => trivial) (by simp) (fun _ => id)
      rintro rfl
      exact keeps.removed key (by simp [leaves, found])
  | bootPool found free => exact readable.pool found
  | @bootDead g worker found =>
      refine readable.quiet rfl found rfl rfl rfl ?_ (by simp) (fun _ => False.elim)
      -- Only a container that has stopped is given up.
      obtain ⟨record, known⟩ := Option.ne_none_iff_exists'.mp (readable.fits g _ found)
      have stopped := keeps.inspected worker.containerID (by simp [givesUp, found])
      unfold running at stopped
      rw [known] at stopped
      exact ⟨record, known, stopped⟩
  | @bootDeath g worker between changed found free reaped =>
      obtain ⟨entry, known, dead⟩ := readable.fits g _ found
      refine readable.reap reaped found ?_ ?_ (by simp) (fun _ => id)
      · intro record here
        cases known.symm.trans here
        exact dead
      · cases changed <;> trivial
  | @allocate g runner choice o phase fresh free picked =>
      refine readable.pick assigned.keyed picked fresh (fun _ => id) rfl rfl ⟨?_, keeps.named runner rfl⟩
      rintro rfl
      exact absurd (keeps.accepted "" rfl) (by decide)
  | wake found closed free picked =>
      exact readable.pick assigned.keyed picked found (fun _ => id) rfl rfl
        (readable.calls _ _ _ found)
  | @cancel g runner channel found free =>
      refine readable.quiet rfl found rfl rfl rfl trivial ?_ (fun _ => False.elim)
      rintro _ _ ⟨⟩
      exact readable.calls g runner _ found
  | @rename g runner candidate short found =>
      apply readable.rename assigned found
      have drawn := (keeps.renamed (g, some short) rfl runner (by simp [claimant, found])).1
      apply readsActive_active (readable.calls g runner _ found).1
      intro member
      have digit := List.all_eq_true.mp (Bool.and_eq_true_iff.mp drawn).2 '-' member
      exact absurd digit (by decide)
  | @renameFail g runner candidate found =>
      have foreign := answers_none.mp (keeps.renamed (g, none) rfl runner (by simp [claimant, found]))
      cases foreign.symm.trans (readable.calls g runner _ found).2
  | @checkAlive g runner candidate found alive =>
      have actively : Actively state.docker candidate runner := readable.fits g _ found
      refine readable.quiet rfl found rfl rfl rfl actively ?_ (fun _ => id)
      rintro _ _ ⟨⟩
      exact readable.calls g runner _ found
  | @checkDead g runner candidate found =>
      refine readable.quiet rfl found rfl rfl rfl trivial ?_ (fun _ => id)
      rintro _ _ ⟨⟩
      exact readable.calls g runner _ found
  | @discard g removed runner candidate found =>
      refine readable.remove found ?_ (fun _ => trivial) ?_ (fun _ => id)
      · rintro rfl
        exact keeps.removed candidate.containerID (by simp [leaves, found])
      · rintro _ _ ⟨⟩
        exact readable.calls g runner _ found
  | retry found free picked =>
      exact readable.pick assigned.keyed picked found (fun _ => id) rfl rfl
        (readable.calls _ _ _ found)
  | register found free => exact readable.register found
  | @markBusy g runner candidate found =>
      refine readable.quiet rfl found rfl rfl rfl trivial ?_ (fun _ => False.elim)
      rintro _ _ ⟨⟩
      exact readable.calls g runner _ found
  | @dieEvent g key container between changed known dead fresh free reaped =>
      have kept : Readable (between.resume g (.death (if changed then .evaluating else .finished))) := by
        refine readable.reap reaped fresh ?_ trivial (by simp) (fun _ => False.elim)
        intro record here
        cases known.symm.trans here
        exact dead
      exact ⟨kept.fits, kept.calls, kept.warm, kept.active, kept.loose⟩
  | abortActive found fresh free => exact readable.abort _ _ fresh
  | abortUnknown absent fresh free => exact readable.quiet rfl fresh rfl rfl rfl trivial (by simp) (fun _ => False.elim)
  | @kill g removed key found =>
      refine readable.remove found ?_ (fun _ => trivial) (by simp) (fun _ => id)
      rintro rfl
      exact keeps.removed key (by simp [leaves, found])
  | @evaluate g outcome caller later found goes free =>
      obtain ⟨paused, managers, frame⟩ := state.evaluateCapacity_frame interfaces.pauser outcome
      rw [frame]
      unfold afterEvaluation at goes
      split at goes <;> cases goes
      · exact readable.quiet rfl found rfl rfl rfl trivial (by simp) (fun _ => False.elim)
      · refine readable.quiet rfl found rfl rfl rfl trivial ?_ (fun _ => False.elim)
        rintro _ _ ⟨⟩
        exact readable.calls g _ _ found
      · exact readable.quiet rfl found rfl rfl rfl trivial (by simp) (fun _ => False.elim)
      · exact readable.quiet rfl found rfl rfl rfl trivial (by simp) (fun _ => id)
  | die alive => exact readable.die _

end System

end RunnersMux
