import RunnersMux.Standalone.Environment
import RunnersMux.Standalone.Sole

/-! The listeners and the directories that they run in, over many processes of the proxy.

A listener starts whatever `bin/Runner.Worker` is in its directory, and that must be
the shim of the image that is running: the worker of the template would run
the job in the proxy. The volume with the directories outlives the process and its image.
-/

set_option autoImplicit false

namespace RunnersMux

open Foundations

/-- A call of `InitializeEnvironment`. -/
structure Init where
  cfg : Sqlc.Runner
  token : String
  phase : InitPhase

structure Fleet where
  standalone : Standalone
  image : Image
  files : Contents
  inits : Map ThreadID Init

inductive FleetEvent where
  | start (t : ThreadID) (cfg : Sqlc.Runner) (token : String)
  | initialise (t : ThreadID) (ran : Ran)
  | call (call : Call)
  /-- A file that `config.sh`, a listener or a job has written or removed. -/
  | write (runner : RunnerName) (inner : Location) (content : Option (List UInt8))
  /-- A part of the `RemoveAll` in `Cleanup` or in `SyncStaleRunners`. -/
  | remove (runner : RunnerName) (inner : Location)
  /-- The container is replaced. Its processes are gone, and the volume stays. -/
  | redeploy (image : Image)

/-- The sections of a lifecycle before its environment is there. -/
def Raw (todo : List Section) : Prop := ∃ entry, .initializeEnvironment entry ∈ todo

/-- The thread needs the directory of the runner. -/
def Thread.needs (runner : RunnerName) : Thread → Bool
  | .lifecycle name todo => name = runner && todo.any fun later => later.working || later.drops
  | .stop .. => false

namespace Fleet

def initializing (s : Fleet) (t : ThreadID) : Bool :=
  match s.standalone.threads.lookup t with
  | some (.lifecycle _ (.initializeEnvironment _ :: _)) => true
  | _ => false

/-- `Launch` goes on with what its `InitializeEnvironment` has returned. -/
def permits (s : Fleet) : Call → Bool
  | .own (.start _ _) => false
  | .own (.run t answer) =>
      !s.initializing t || (s.inits.lookup t).any fun init => init.phase = .returned answer.error
  | _ => true

def step (codec : MetaCodec) (s : Fleet) : FleetEvent → Option Fleet
  | .start t cfg token =>
      (s.standalone.step (.own (.start t cfg.name))).map fun standalone =>
        { s with standalone, inits := s.inits.insert t ⟨cfg, token, .making⟩ }
  | .initialise t ran =>
      if s.initializing t then
        (s.inits.lookup t).bind fun init =>
          (initializeEnvironment codec s.image init.cfg init.token ran s.files init.phase).map fun (files, phase) =>
            { s with files, inits := s.inits.insert t { init with phase } }
      else none
  | .call call => if s.permits call then (s.standalone.step call).map fun standalone => { s with standalone } else none
  | .write runner inner content => some { s with files := Function.update s.files (home runner ++ inner) content }
  | .remove runner inner =>
      some { s with files := fun place => if home runner ++ inner <+: place then none else s.files place }
  | .redeploy image => some { s with standalone := .new, image, inits := ∅ }

/-- A first process, on a volume that may hold directories of a version without the file of the name. -/
structure Opens (s : Fleet) : Prop where
  standalone : s.standalone = .new
  inits : s.inits = ∅
  unmarked : ∀ runner, s.files (metaPlace runner) = none

/-- A runner is started at rest, from a row of its own directory; what runs in a directory leaves the
shim and the file of the name alone; and no directory is removed that a lifecycle needs. -/
def Orderly (metas : Set MuxMeta) (s : Fleet) : FleetEvent → Prop
  | .start _ cfg _ => cfg.Housed ∧ ⟨cfg.name, cfg.url⟩ ∈ metas ∧
      s.standalone.manager.processes.resting cfg.name = true
  | .write _ inner _ => inner ≠ [metaFile] ∧ inner ≠ ["bin", "Runner.Worker"]
  | .remove runner _ => ∀ t thread, s.standalone.threads.lookup t = some thread → thread.needs runner = false
  | _ => True

instance (metas : Set MuxMeta) [DecidablePred (· ∈ metas)] (s : Fleet) :
    (event : FleetEvent) → Decidable (Orderly metas s event)
  | .start _ cfg _ => inferInstanceAs (Decidable (cfg.Housed ∧ (⟨cfg.name, cfg.url⟩ : MuxMeta) ∈ metas ∧ _))
  | .write _ inner _ => inferInstanceAs (Decidable (inner ≠ [metaFile] ∧ inner ≠ ["bin", "Runner.Worker"]))
  | .remove _ _ => inferInstanceAs (Decidable (∀ t thread, s.standalone.threads.lookup t = some thread → _))
  | .initialise .. | .call .. | .redeploy .. => isTrue trivial

/-- The executable of the shim of a runner. -/
def execPath (runner : RunnerName) : String :=
  Filepath.join (Filepath.join (standaloneDir runner) "bin") "Runner.Worker"

/-- What a listener of the runner would start, and what that would ask for. -/
structure Speaks (codec : MetaCodec) (s : Fleet) (runner : RunnerName) : Prop where
  shim : s.files (Filepath.locate (execPath runner)) = some s.image.shim
  request : shimRequest codec (fun path => s.files (Filepath.locate path)) (execPath runner) =
    ⟨runner, standaloneDir runner⟩
  configFiles : ∀ fname ∈ runnerConfigFileNames,
    Filepath.locate (Filepath.join (standaloneDir runner) fname) = home runner ++ [fname]

end Fleet

section
variable {m manager : StandaloneManager} {runner : RunnerName} {answer : Answer} {head : Section}
  {todo rest : List Section}

/-- No section puts the environment in its place. -/
theorem perform_raw (performed : m.perform runner answer head = some (manager, todo)) : ¬Raw todo := by
  rintro ⟨entry, member⟩
  cases perform_performs performed with
  | spawnFail | abort => cases ‹Caller› <;> simp [Caller.failure] at member
  | record records => cases records <;> simp [launched] at member
  | _ => simp at member

/-- After its environment a lifecycle has none ahead. -/
theorem perform_ready (alone : Raw (head :: rest) → ∃ entry, head :: rest = [.initializeEnvironment entry])
    (performed : m.perform runner answer head = some (manager, todo)) : ¬Raw (todo ++ rest) := by
  rintro ⟨entry, member⟩
  rcases List.mem_append.mp member with new | old
  · exact perform_raw performed ⟨entry, new⟩
  · obtain ⟨_, same⟩ := alone ⟨entry, .tail _ old⟩
    cases same
    cases old

end

namespace Standalone

/-- A lifecycle after a step: as before, started, or one section on. -/
theorem lifecycle_step {s after : Standalone} {call : Call} {t : ThreadID} {runner : RunnerName} {todo : List Section}
    (taken : s.step call = some after) (found : after.threads.lookup t = some (.lifecycle runner todo)) :
    s.threads.lookup t = some (.lifecycle runner todo) ∨
      (call = .own (.start t runner) ∧ ∃ entry, todo = [.initializeEnvironment entry]) ∨
      ∃ answer head rest new manager, call = .own (.run t answer) ∧
        s.threads.lookup t = some (.lifecycle runner (head :: rest)) ∧
        s.manager.perform runner answer head = some (manager, new) ∧ todo = new ++ rest := by
  cases call with
  | own event =>
      cases act_moves taken with
      | start | stop | perform | advance =>
          rw [lookup_resume] at found
          split at found
          · next same =>
              subst same
              cases found <;> first
                | exact .inr (.inl ⟨rfl, _, rfl⟩)
                | exact .inr (.inr ⟨_, _, _, _, _, rfl, ‹_›, ‹_›, rfl⟩)
          · exact .inl found
      | exit alive => exact .inl found
  | lockOthers outcome activeRunners | unlockOthers outcome | markBusy name | markIdle name =>
      cases taken
      exact .inl found

end Standalone

namespace Fleet

/-- A call of `InitializeEnvironment` for a lifecycle of the runner. -/
structure Begun (metas : Set MuxMeta) (image : Image) (files : Contents) (runner : RunnerName) (init : Init) :
    Prop where
  housed : init.cfg.Housed
  name : init.cfg.name = runner
  known : ⟨init.cfg.name, init.cfg.url⟩ ∈ metas
  planned : init.phase.Planned
  injected : init.phase.injected = true → files (workerPlace runner) = some image.shim

/-- What every lifecycle knows of the directory of its runner. -/
structure Furnished (codec : MetaCodec) (metas : Set MuxMeta) (s : Fleet) : Prop where
  custody : s.standalone.Custody
  sole : s.standalone.Sole fun _ => True
  alone : ∀ t runner todo, s.standalone.threads.lookup t = some (.lifecycle runner todo) → Raw todo →
    ∃ entry, todo = [.initializeEnvironment entry]
  begun : ∀ t runner todo, s.standalone.threads.lookup t = some (.lifecycle runner todo) → Raw todo →
    ∃ init, s.inits.lookup t = some init ∧ Begun metas s.image s.files runner init
  proper : ∀ t runner, s.standalone.engaged t runner → Proper runner
  ready : ∀ t runner todo, s.standalone.threads.lookup t = some (.lifecycle runner todo) → Engaged todo → ¬Raw todo →
    s.files (workerPlace runner) = some s.image.shim
  marked : ∀ runner data, s.files (metaPlace runner) = some data →
    ∃ mux ∈ metas, mux.runnerName = runner ∧ data <+: codec.marshal mux

section
variable {codec : MetaCodec} {metas : Set MuxMeta} {s after : Fleet}

theorem engaged_raw {todo : List Section} (raw : Raw todo) : Engaged todo := by
  obtain ⟨entry, member⟩ := raw
  exact ⟨_, member, .inl rfl⟩

theorem new_furnished {image : Image} {files : Contents} (marked : ∀ runner data, files (metaPlace runner) = some data →
    ∃ mux ∈ metas, mux.runnerName = runner ∧ data <+: codec.marshal mux) :
    Furnished codec metas ⟨.new, image, files, ∅⟩ where
  custody := Standalone.new_custody
  sole := Standalone.new_sole _
  alone _ _ _ found := by cases found
  begun _ _ _ found := by cases found
  proper := by
    rintro t runner ⟨_, found, _⟩
    cases found
  ready _ _ _ found := by cases found
  marked := marked

/-- A change of files that spares the shim of every runner with a lifecycle. -/
theorem Furnished.files (furnished : Furnished codec metas s) {files : Contents}
    (shims : ∀ t runner, s.standalone.engaged t runner → files (workerPlace runner) = s.files (workerPlace runner))
    (marked : ∀ runner data, files (metaPlace runner) = some data →
      ∃ mux ∈ metas, mux.runnerName = runner ∧ data <+: codec.marshal mux) :
    Furnished codec metas { s with files } where
  custody := furnished.custody
  sole := furnished.sole
  alone := furnished.alone
  begun := by
    intro t runner todo found raw
    obtain ⟨init, looked, begun⟩ := furnished.begun t runner todo found raw
    refine ⟨init, looked, begun.housed, begun.name, begun.known, begun.planned, fun injected => ?_⟩
    exact (shims t runner ⟨todo, found, engaged_raw raw⟩).trans (begun.injected injected)
  proper := furnished.proper
  ready := by
    intro t runner todo found engaged prepared
    exact (shims t runner ⟨todo, found, engaged⟩).trans (furnished.ready t runner todo found engaged prepared)
  marked := marked

/-- A step of the manager: a lifecycle is past its environment only if that has returned without an error. -/
theorem Furnished.moves (furnished : Furnished codec metas s) {standalone : Standalone} {inits : Map ThreadID Init}
    {call : Call} (moved : s.standalone.step call = some standalone)
    (rested : ∀ runner ∈ call.starts, s.standalone.manager.processes.resting runner = true)
    (proper : ∀ runner ∈ call.starts, Proper runner)
    (begun : ∀ t runner todo, standalone.threads.lookup t = some (.lifecycle runner todo) → Raw todo →
      ∃ init, inits.lookup t = some init ∧ Begun metas s.image s.files runner init)
    (passed : ∀ t answer runner todo, call = .own (.run t answer) →
      s.standalone.threads.lookup t = some (.lifecycle runner todo) → Raw todo → answer.error = none →
      s.files (workerPlace runner) = some s.image.shim) :
    Furnished codec metas { s with standalone, inits } where
  custody := furnished.custody.step moved
  sole := furnished.sole.step furnished.custody (fun runner starts _ => rested runner starts) moved
  alone := by
    intro t runner todo found raw
    rcases Standalone.lifecycle_step moved found with before | ⟨_, started⟩ | ⟨_, _, _, _, _, _, before, performed, rfl⟩
    · exact furnished.alone t runner todo before raw
    · exact started
    · exact absurd raw (perform_ready (furnished.alone t runner _ before) performed)
  begun := begun
  proper := by
    intro t runner engaged
    rcases Standalone.engaged_step furnished.custody moved engaged with before | ⟨starts, _⟩
    · exact furnished.proper t runner before
    · exact proper runner starts
  ready := by
    intro t runner todo found engaged prepared
    rcases Standalone.lifecycle_step moved found with
      before | ⟨_, entry, rfl⟩ | ⟨answer, head, rest, new, manager, run, before, performed, rfl⟩
    · exact furnished.ready t runner todo before engaged prepared
    · exact absurd ⟨entry, List.mem_singleton_self _⟩ prepared
    · have still := (Standalone.engaged_performs (furnished.custody.kept t runner _ before) performed engaged).1
      by_cases raw : Raw (head :: rest)
      · obtain ⟨entry, same⟩ := furnished.alone t runner _ before raw
        cases same
        cases failed : answer.error with
        | none => exact passed t answer runner _ run before raw failed
        | some text =>
            simp only [StandaloneManager.perform, failed] at performed
            cases performed
            obtain ⟨later, member, works⟩ := engaged
            rw [List.mem_singleton.mp member] at works
            rcases works with works | works <;> cases works
      · exact furnished.ready t runner _ before still raw
  marked := furnished.marked

theorem initializing_raw {t : ThreadID} (initializing : s.initializing t = true) :
    ∃ runner todo, s.standalone.threads.lookup t = some (.lifecycle runner todo) ∧ Raw todo := by
  unfold Fleet.initializing at initializing
  split at initializing
  · next runner entry rest found => exact ⟨runner, _, found, entry, List.mem_cons_self⟩
  · cases initializing

theorem raw_initializing (furnished : Furnished codec metas s) {t : ThreadID} {runner : RunnerName}
    {todo : List Section} (found : s.standalone.threads.lookup t = some (.lifecycle runner todo)) (raw : Raw todo) :
    s.initializing t = true := by
  obtain ⟨entry, rfl⟩ := furnished.alone t runner todo found raw
  unfold Fleet.initializing
  rw [found]

theorem permits_starts {call : Call} (permitted : s.permits call = true) : call.starts = none := by
  cases call with
  | own event =>
      cases event with
      | start => cases permitted
      | _ => rfl
  | _ => rfl

theorem not_home {runner other : RunnerName} (apart : other ≠ runner) (inner : Location) :
    ¬home runner <+: home other ++ inner := by
  unfold home
  rw [List.append_assoc, List.prefix_append_right_inj, List.singleton_append, List.singleton_prefix_cons_iff]
  exact fun same => apart same.symm

/-- A step of `InitializeEnvironment` stays in the directory of its runner, whose other lifecycles have ended. -/
theorem Furnished.initialises (furnished : Furnished codec metas s) {t : ThreadID} {runner : RunnerName}
    {todo : List Section} {init : Init} {ran : Ran} {files : Contents} {phase : InitPhase}
    (found : s.standalone.threads.lookup t = some (.lifecycle runner todo)) (raw : Raw todo)
    (looked : s.inits.lookup t = some init) (begun : Begun metas s.image s.files runner init)
    (taken : initializeEnvironment codec s.image init.cfg init.token ran s.files init.phase = some (files, phase)) :
    Furnished codec metas { s with files, inits := s.inits.insert t { init with phase } } := by
  have writes := initializeEnvironment_writes begun.housed begun.planned taken
  have single {u : ThreadID} {name : RunnerName} (engaged : s.standalone.engaged u name) (same : name = runner) :
      u = t := by
    subst same
    exact furnished.sole.single u t name ⟨trivial, engaged⟩ ⟨trivial, todo, found, engaged_raw raw⟩
  have elsewhere {name : RunnerName} (apart : name ≠ runner) (inner : Location) :
      files (home name ++ inner) = s.files (home name ++ inner) :=
    writes.outside (begun.name ▸ not_home apart inner)
  constructor
  · exact furnished.custody
  · exact furnished.sole
  · exact furnished.alone
  · intro u name others here rough
    by_cases own : u = t
    · subst own
      cases found.symm.trans here
      refine ⟨_, Finmap.lookup_insert _, begun.housed, begun.name, begun.known,
        initializeEnvironment_planned begun.planned taken, fun done => ?_⟩
      rcases initializeEnvironment_injected begun.housed taken done with ⟨before, same⟩ | now
      · rw [same]
        exact begun.injected before
      · rw [← begun.name]
        exact now
    · obtain ⟨other, known, goes⟩ := furnished.begun u name others here rough
      refine ⟨other, (Finmap.lookup_insert_of_ne _ own).trans known, goes.housed, goes.name, goes.known, goes.planned,
        fun done => ?_⟩
      have apart : name ≠ runner := fun same => own (single ⟨others, here, engaged_raw rough⟩ same)
      exact (elsewhere apart _).trans (goes.injected done)
  · exact furnished.proper
  · intro u name others here engaged prepared
    have apart : name ≠ runner := by
      intro same
      cases single ⟨others, here, engaged⟩ same
      cases found.symm.trans here
      exact prepared raw
    exact (elsewhere apart _).trans (furnished.ready u name others here engaged prepared)
  · intro name data written
    by_cases own : name = runner
    · subst own
      rcases begun.name ▸ writes.meta with same | ⟨own, now, begins⟩
      · exact furnished.marked _ data (same.symm.trans written)
      · cases now.symm.trans written
        exact ⟨⟨name, init.cfg.url⟩, begun.name ▸ begun.known, rfl, begins⟩
    · exact furnished.marked name data ((elsewhere own _).symm.trans written)

theorem furnished_step (furnished : Furnished codec metas s) {event : FleetEvent} (orderly : Orderly metas s event)
    (taken : step codec s event = some after) : Furnished codec metas after := by
  cases event with
  | start t cfg token =>
      obtain ⟨standalone, moved, rfl⟩ := Option.map_eq_some_iff.mp taken
      obtain ⟨housed, known, resting⟩ := orderly
      apply furnished.moves moved
      · rintro _ ⟨⟩
        exact resting
      · rintro _ ⟨⟩
        exact housed.proper
      · intro u runner todo found raw
        rcases Standalone.lifecycle_step moved found with before | ⟨starts, _⟩ | ⟨_, _, _, _, _, run, _⟩
        · obtain ⟨init, looked, begun⟩ := furnished.begun u runner todo before raw
          refine ⟨init, (Finmap.lookup_insert_of_ne _ ?_).trans looked, begun⟩
          rintro rfl
          have moves : Moves s.standalone (.start u cfg.name) standalone := act_moves moved
          cases moves with
          | start fresh started => cases fresh.symm.trans before
        · cases starts
          exact ⟨_, Finmap.lookup_insert _, housed, rfl, known, nofun, nofun⟩
        · cases run
      · intro _ _ _ _ run
        cases run
  | initialise t ran =>
      simp only [step] at taken
      split at taken
      · next initializing =>
          obtain ⟨runner, todo, found, raw⟩ := initializing_raw initializing
          obtain ⟨init, looked, begun⟩ := furnished.begun t runner todo found raw
          rw [looked] at taken
          obtain ⟨⟨files, phase⟩, went, rfl⟩ := Option.map_eq_some_iff.mp taken
          exact furnished.initialises found raw looked begun went
      · cases taken
  | call call =>
      simp only [step] at taken
      split at taken
      · next permitted =>
          obtain ⟨standalone, moved, rfl⟩ := Option.map_eq_some_iff.mp taken
          have none_ := permits_starts permitted
          apply furnished.moves moved
          · rw [none_]
            nofun
          · rw [none_]
            nofun
          · intro u runner todo found raw
            rcases Standalone.lifecycle_step moved found with
              before | ⟨starts, _⟩ | ⟨_, _, _, _, _, _, before, performed, rfl⟩
            · exact furnished.begun u runner todo before raw
            · rw [starts] at none_
              cases none_
            · exact absurd raw (perform_ready (furnished.alone u runner _ before) performed)
          · rintro t answer runner todo rfl found raw clean
            obtain ⟨init, looked, begun⟩ := furnished.begun t runner todo found raw
            apply begun.injected
            dsimp only [permits] at permitted
            rw [raw_initializing furnished found raw, looked, clean] at permitted
            have returned : init.phase = .returned none := by simpa using permitted
            rw [returned]
            rfl
      · cases taken
  | write runner inner content =>
      cases taken
      have spared {name : RunnerName} {other : Location} (apart : inner ≠ other) :
          Function.update s.files (home runner ++ inner) content (home name ++ other) =
            s.files (home name ++ other) := by
        apply Function.update_of_ne
        intro same
        unfold home at same
        rw [List.append_assoc, List.append_assoc, List.append_cancel_left_eq, List.singleton_append,
          List.singleton_append, List.cons.injEq] at same
        exact apart same.2.symm
      apply furnished.files
      · exact fun _ _ _ => spared orderly.2
      · intro name data written
        exact furnished.marked name data ((spared orderly.1).symm.trans written)
  | remove runner inner =>
      cases taken
      apply furnished.files
      · intro t name engaged
        rw [if_neg]
        intro within
        obtain ⟨todo, found, later, member, works⟩ := engaged
        by_cases own : name = runner
        · subst own
          have idle := orderly t _ found
          simp only [Thread.needs, decide_true, Bool.true_and, List.any_eq_false, Bool.or_eq_true] at idle
          exact idle later member works
        · exact not_home own _ ((List.prefix_append _ _).trans within)
      · intro name data written
        split at written
        · cases written
        · exact furnished.marked name data written
  | redeploy image =>
      cases taken
      exact new_furnished furnished.marked

theorem execPath_rooted {runner : RunnerName} (proper : Proper runner) :
    execPath runner = Filepath.rooted (workerPlace runner) := by
  unfold execPath
  rw [Filepath.join_rooted _ (by decide), Filepath.locate_join _ (by decide), locate_standaloneDir proper,
    List.append_assoc]
  rfl

/-- The shim finds its directory from its path, and in it its own name or none. -/
theorem Furnished.speaks (furnished : Furnished codec metas s) (decodes : codec.Decodes metas) {runner : RunnerName}
    (proper : Proper runner) (shim : s.files (workerPlace runner) = some s.image.shim) : Speaks codec s runner := by
  have named : ∀ name ∈ workerPlace runner, Proper name := by
    intro name member
    rcases List.mem_append.mp member with above | own
    · exact home_names proper name above
    · exact (by decide : ∀ name ∈ ["bin", "Runner.Worker"], Proper name) name own
  have up : Filepath.dir (Filepath.dir (execPath runner)) = standaloneDir runner := by
    have inner : ∀ name ∈ home runner ++ ["bin"], Proper name := by
      intro name member
      rcases List.mem_append.mp member with above | own
      · exact home_names proper name above
      · exact List.mem_singleton.mp own ▸ by decide
    have path : workerPlace runner = home runner ++ ["bin"] ++ ["Runner.Worker"] := by simp [workerPlace]
    rw [execPath_rooted proper, path, Filepath.dir_rooted inner (by decide),
      Filepath.dir_rooted (home_names proper) (by decide), standaloneDir_rooted]
  have last : Filepath.base (standaloneDir runner) = runner := by
    rw [standaloneDir_rooted]
    exact Filepath.base_rooted (by decide : ∀ name ∈ base, Proper name) proper
  have place (name : String) (fits : Proper name) :
      Filepath.locate (Filepath.join (standaloneDir runner) name) = home runner ++ [name] := by
    rw [Filepath.locate_join _ fits, locate_standaloneDir proper]
  constructor
  · rw [execPath_rooted proper, Filepath.locate_rooted named, shim]
  · dsimp only [shimRequest]
    rw [up, last, place metaFile (by decide)]
    cases written : s.files (home runner ++ [metaFile]) with
    | none => rfl
    | some data =>
        obtain ⟨mux, member, own, begins⟩ := furnished.marked runner data written
        by_cases whole : data = codec.marshal mux
        · simp [whole, decodes.whole mux member, own, proper.nonempty]
        · obtain ⟨err, fails⟩ := decodes.broken mux member data begins whole
          simp [fails]
  · intro fname member
    exact place fname ((by decide : ∀ fname ∈ runnerConfigFileNames, Proper fname) fname member)

/-- Every live listener of every process has the shim of the running image in its directory, and
that speaks for the listener's own runner, whatever was interrupted on the way. -/
theorem shim_speaks (codec : MetaCodec) (metas : Set MuxMeta) (decodes : codec.Decodes metas) (s : Fleet)
    (reached : Reaches (step codec) Opens (Orderly metas) s) (pid : Pid) (group : ProcessGroup)
    (known : s.standalone.manager.groups.lookup pid = some group) (live : group.live = true) :
    Speaks codec s group.runner := by
  have furnished : Furnished codec metas s := by
    apply reached.invariant
    · rintro ⟨standalone, image, files, inits⟩ ⟨rfl, rfl, unmarked⟩
      apply new_furnished
      intro runner data written
      cases (unmarked runner).symm.trans written
    · intro earlier event after _ furnished orderly taken
      exact furnished_step furnished orderly taken
  obtain ⟨t, todo, found, owns⟩ := furnished.custody.engaged known live
  have engaged := engaged_of_owner owns
  have prepared : ¬Raw todo := by
    intro raw
    obtain ⟨entry, rfl⟩ := furnished.alone t _ todo found raw
    cases owns
  exact furnished.speaks decodes (furnished.proper t _ ⟨todo, found, engaged⟩)
    (furnished.ready t _ todo found engaged prepared)

end

/-- The file of the one name that the next runs are about, as `encoding/json` has it. -/
def metaOfA : List UInt8 :=
  "\x7b\"runner_name\":\"a\",\"url\":\"u\"\x7d".toList.map fun char => UInt8.ofNat char.toNat

def codecOfA : MetaCodec where
  marshal _ := metaOfA
  unmarshal data := if data = metaOfA then .ok ⟨"a", "u"⟩ else .error "unexpected end of JSON input"

theorem codecOfA_decodes : codecOfA.Decodes {mux | mux = ⟨"a", "u"⟩} where
  whole := by
    rintro _ rfl
    simp [codecOfA]
  broken mux _ data _ short := ⟨_, if_neg short⟩

/-- A template with the two scripts that a start needs, and a version of the shim. -/
def release (version : UInt8) : Image where
  template place := if place = ["config.sh"] ∨ place = ["bin", "Runner.Worker"] then some [0] else none
  shim := [version]
  unmarked := by decide

def succeeds : Ran := ⟨none, fun _ => none, none⟩

/-- The first start is cut short twice, in the file of the name and by a new image; the second one finds the
runner registered. -/
theorem shim_speaks_replaced : ∃ s : Fleet, (s.image.shim = [2] ∧
    s.standalone.manager.groups.lookup 7 = some (.launched "a")) ∧ Speaks codecOfA s "a" := by
  let cfg : Sqlc.Runner := ⟨1, "a", "standalone", "u", "/opt/runners/a", "", 0, "", "", 0, "now"⟩
  let clean : Answer := ⟨none, 7, false, ∅⟩
  have opens : Opens ⟨.new, release 1, fun _ => none, ∅⟩ := ⟨rfl, rfl, fun _ => rfl⟩
  obtain ⟨s, reached, shape⟩ : ∃ s, Reaches (step codecOfA) Opens (Orderly {mux | mux = ⟨"a", "u"⟩}) s ∧
      s.image.shim = [2] ∧ s.standalone.manager.groups.lookup 7 = some (.launched "a") := by
    apply Reaches.of_replay opens
      ([.start 0 cfg "t", .initialise 0 succeeds,
        .initialise 0 ⟨some "no space left on device", fun _ => none, some 3⟩] ++
        List.replicate 5 (.initialise 0 succeeds) ++
        [.write "a" [".credentials"] (some [1]), .redeploy (release 2), .start 1 cfg ""] ++
        List.replicate 12 (.initialise 1 succeeds) ++ List.replicate 3 (.call (.own (.run 1 clean))))
    decide +kernel
  obtain ⟨image, known⟩ := shape
  exact ⟨s, ⟨image, known⟩,
    shim_speaks codecOfA {mux | mux = ⟨"a", "u"⟩} codecOfA_decodes s reached 7 _ known rfl⟩

end Fleet

end RunnersMux
