import RunnersMux.Dashboard.Directories
import RunnersMux.Foundations.Contents
import RunnersMux.Worker.Header

/-! The directory of a standalone runner, from `InitializeEnvironment` to the shim.

Each call is a row of file operations and commands. One that fails leaves what it was
writing in some state of its own, and the process can be replaced between any two.
The shim knows of all this no more than its own path.
-/

set_option autoImplicit false

namespace RunnersMux

open Foundations

/-- `api.MuxMeta`. -/
structure MuxMeta where
  runnerName : RunnerName
  url : String
  deriving DecidableEq, Repr

/-- The functions of `encoding/json` for it. -/
structure MetaCodec where
  marshal : MuxMeta → List UInt8
  unmarshal : List UInt8 → Except String MuxMeta

def metaFile : String := ".mux-meta.json"

/-- What the image of the proxy brings: `/actions-runner` and `/usr/local/bin/worker-shim`. -/
structure Image where
  template : Contents
  shim : List UInt8
  unmarked : template [metaFile] = none

/-- How a call or a command has ended, what it has left of its target if it has failed, and how
many bytes of a file it has then written. -/
structure Ran where
  error : Option String
  left : Contents
  written : Option Nat

/-- Where a call of `InitializeEnvironment` is. -/
inductive InitPhase where
  | making
  | marking
  | checking
  | provisioning (registered : Bool)
  | copying (registered : Bool)
  | syncing (registered : Bool) (subtree : String) (rest : List String)
  | scripting (registered : Bool) (file : String) (rest : List String)
  | linking (registered : Bool)
  | injecting (registered : Bool)
  | registering (args : List String)
  | returned (error : Option String)
  deriving DecidableEq, Repr

def configArgs (cfg : Sqlc.Runner) (token : String) : List String :=
  ["--url", cfg.url, "--token", token, "--name", cfg.name, "--work", "_work", "--unattended", "--replace",
    "--disableupdate"] ++
  (if cfg.labels.length > 0 then ["--labels", cfg.labels] else []) ++
  (if cfg.runnerGroup ≠ "" then ["--runnergroup", cfg.runnerGroup] else [])

section
variable (codec : MetaCodec) (image : Image) (cfg : Sqlc.Runner) (token : String) (ran : Ran) (files : Contents)

/-- `os.WriteFile` of a file in the directory. -/
def writeFile (place : Location) (data : List UInt8) : Contents :=
  match ran.error, ran.written with
  | none, _ => Function.update files place (some data)
  | some _, some bytes => Function.update files place (some (data.take bytes))
  | some _, none => files

/-- `cp` of one file. -/
def copyFile (place : Location) (data : List UInt8) : Contents :=
  Function.update files place (if ran.error = none then some data else ran.left [])

/-- The step of `InitializeEnvironment` that `ran` is the answer to. -/
def initializeEnvironment : InitPhase → Option (Contents × InitPhase)
  | .making =>
      match ran.error with
      | some err => some (files, .returned (some ("failed to create directory " ++ cfg.dir ++ ": " ++ err)))
      | none => some (files, .marking)
  -- Nobody looks at the error of this write.
  | .marking =>
      some (writeFile ran files (Filepath.locate (Filepath.join cfg.dir metaFile)) (codec.marshal ⟨cfg.name, cfg.url⟩),
        .checking)
  | .checking =>
      match ran.error with
      | some err => some (files, .returned (some ("failed to check for .credentials: " ++ err)))
      | none => some (files, .provisioning (files (Filepath.locate (Filepath.join cfg.dir ".credentials"))).isSome)
  -- A `Stat` that fails in any other way counts as a template that is there.
  | .provisioning registered =>
      some (files, if ran.error = none ∧ files (Filepath.locate (Filepath.join cfg.dir "config.sh")) = none then
        .copying registered else .syncing registered "bin" ["externals"])
  | .copying registered =>
      let target := Filepath.locate (cfg.dir ++ "/")
      match ran.error with
      | some err => some (files.copied image.template ran.left target,
          .returned (some ("failed to copy runner template to " ++ cfg.dir ++ ": " ++ err)))
      | none => some (files.copied image.template image.template target, .linking registered)
  | .syncing registered subtree rest =>
      let target := Filepath.locate (Filepath.join cfg.dir (subtree ++ "/"))
      match ran.error with
      | some err => some (files.mirrored ran.left target,
          .returned (some ("failed to sync " ++ subtree ++ " directory to " ++ cfg.dir ++ ": " ++ err)))
      | none => some (files.mirrored (image.template.below [subtree]) target,
          match rest with
          | [] => .scripting registered "config.sh" ["run.sh", "env.sh", "run-helper.sh"]
          | next :: later => .syncing registered next later)
  | .scripting registered file rest =>
      some (match image.template [file] with
        | some data => copyFile ran files (Filepath.locate (Filepath.join cfg.dir file)) data
        | none => files,
        match rest with
        | [] => .linking registered
        | next :: later => .scripting registered next later)
  | .linking registered =>
      match ran.error with
      | some err => some (files, .returned (some ("failed to create bin directory: " ++ err)))
      | none => some (files, .injecting registered)
  | .injecting registered =>
      let workerPath := Filepath.join (Filepath.join cfg.dir "bin") "Runner.Worker"
      some (copyFile ran files (Filepath.locate workerPath) image.shim,
        match ran.error with
        | some err => .returned (some ("failed to inject shim binary: " ++ err))
        | none =>
            if registered then .returned none
            else if token = "" then
              .returned (some ("[" ++ cfg.name ++ "] runner is not registered and no token was provided in config"))
            else .registering (configArgs cfg token))
  | .registering _ =>
      some (files, .returned (ran.error.map fun err => "[" ++ cfg.name ++ "] failed to register runner: " ++ err))
  | .returned _ => none

/-- The files, and how far `InitializeEnvironment` is, after some calls with an answer to each. -/
def initialized (answers : Nat → Ran) : Nat → Contents × InitPhase
  | 0 => (files, .making)
  | calls + 1 =>
      let (files, phase) := initialized answers calls
      (initializeEnvironment codec image cfg token (answers calls) files phase).getD (files, phase)

/-- The calls that `InitializeEnvironment` has still to make at most. -/
def InitPhase.left : InitPhase → Nat
  | .making => 13
  | .marking => 12
  | .checking => 11
  | .provisioning _ => 10
  | .copying _ => 4
  | .syncing _ _ rest => rest.length + 8
  | .scripting _ _ rest => rest.length + 4
  | .linking _ => 3
  | .injecting _ => 2
  | .registering _ => 1
  | .returned _ => 0

theorem initializeEnvironment_left {phase next : InitPhase} {after : Contents}
    (taken : initializeEnvironment codec image cfg token ran files phase = some (after, next)) :
    next.left < phase.left := by
  cases phase with
  | returned error => cases taken
  | syncing registered subtree rest =>
      simp only [initializeEnvironment] at taken
      split at taken <;> simp only [Option.some.injEq, Prod.mk.injEq] at taken <;> obtain ⟨_, rfl⟩ := taken
      · simp [InitPhase.left]
      · cases rest <;> simp [InitPhase.left]
  | scripting registered file rest =>
      simp only [initializeEnvironment, Option.some.injEq, Prod.mk.injEq] at taken
      obtain ⟨_, rfl⟩ := taken
      cases rest <;> simp [InitPhase.left]
  | provisioning registered | injecting registered | marking | registering =>
      simp only [initializeEnvironment, Option.some.injEq, Prod.mk.injEq] at taken
      obtain ⟨_, rfl⟩ := taken
      repeat' split
      all_goals simp [InitPhase.left]
  | making | checking | copying | linking =>
      simp only [initializeEnvironment] at taken
      split at taken <;> simp only [Option.some.injEq, Prod.mk.injEq] at taken <;> obtain ⟨_, rfl⟩ := taken <;>
        simp [InitPhase.left]

/-- Only a call that has returned has no next step. -/
theorem initializeEnvironment_ends {phase : InitPhase}
    (ends : initializeEnvironment codec image cfg token ran files phase = none) : phase.left = 0 := by
  cases phase with
  | returned error => rfl
  | _ =>
      simp only [initializeEnvironment] at ends
      first | contradiction | (split at ends <;> contradiction)

/-- `InitializeEnvironment` returns after thirteen calls at most. -/
theorem initialized_returned (answers : Nat → Ran) :
    (initialized codec image cfg token files answers InitPhase.making.left).2.left = 0 := by
  have left (calls : Nat) :
      (initialized codec image cfg token files answers calls).2.left ≤ InitPhase.making.left - calls := by
    induction calls with
    | zero => exact Nat.le_refl _
    | succ calls ih =>
        simp only [initialized]
        cases taken : initializeEnvironment codec image cfg token (answers calls)
            (initialized codec image cfg token files answers calls).1
            (initialized codec image cfg token files answers calls).2 with
        | none =>
            rw [Option.getD_none, initializeEnvironment_ends codec image cfg token (answers calls) _ taken]
            exact Nat.zero_le _
        | some after =>
            have fewer := initializeEnvironment_left codec image cfg token (answers calls) _ taken
            simp only [Option.getD_some]
            omega
  simpa using left InitPhase.making.left

/-- The error of a call that has returned. -/
def InitPhase.error : (phase : InitPhase) → phase.left = 0 → Option String
  | .returned error, _ => error
  | .syncing _ _ _, ended | .scripting _ _ _, ended => absurd ended (Nat.succ_ne_zero _)

/-- The error that `InitializeEnvironment` returns. -/
def environmentError (answers : Nat → Ran) : Option String :=
  (initialized codec image cfg token files answers InitPhase.making.left).2.error
    (initialized_returned codec image cfg token files answers)

end

/-- `api.AllocateRequest`, as the shim sends it. -/
structure AllocateBody where
  runnerName : RunnerName
  runnerDir : String
  deriving DecidableEq, Repr

/-- What the shim asks for, from the path of its executable. -/
def shimRequest (codec : MetaCodec) (readFile : String → Option (List UInt8)) (execPath : String) : AllocateBody :=
  let runnerDir := Filepath.dir (Filepath.dir execPath)
  let runnerName :=
    match readFile (Filepath.join runnerDir metaFile) with
    | some nameBytes =>
        match codec.unmarshal nameBytes with
        | .ok mux => if mux.runnerName ≠ "" then mux.runnerName else Filepath.base runnerDir
        | .error _ => Filepath.base runnerDir
    | none => Filepath.base runnerDir
  ⟨runnerName, runnerDir⟩

/-- What is written decodes, and what breaks off does not. -/
structure MetaCodec.Decodes (codec : MetaCodec) (metas : Set MuxMeta) : Prop where
  whole : ∀ mux ∈ metas, codec.unmarshal (codec.marshal mux) = .ok mux
  broken : ∀ mux ∈ metas, ∀ data, data <+: codec.marshal mux → data ≠ codec.marshal mux →
    ∃ err, codec.unmarshal data = .error err

/-- The directory of a runner, and the two files in it that speak for the runner. -/
def home (runner : RunnerName) : Location := base ++ [runner]

def metaPlace (runner : RunnerName) : Location := home runner ++ [metaFile]

def workerPlace (runner : RunnerName) : Location := home runner ++ ["bin", "Runner.Worker"]

/-- A row whose name can be that of a directory, and whose directory is the one of its name. -/
structure Sqlc.Runner.Housed (cfg : Sqlc.Runner) : Prop where
  proper : Proper cfg.name
  dir : cfg.dir = standaloneDir cfg.name

instance (cfg : Sqlc.Runner) : Decidable cfg.Housed :=
  decidable_of_iff (Proper cfg.name ∧ cfg.dir = standaloneDir cfg.name)
    ⟨fun both => ⟨both.1, both.2⟩, fun housed => ⟨housed.proper, housed.dir⟩⟩

namespace InitPhase

/-- The names that the phase has yet to put behind the directory. -/
def names : InitPhase → List String
  | .syncing _ subtree rest => subtree :: rest
  | .scripting _ file rest => file :: rest
  | _ => []

/-- They lead to something other than the file of the shim's name. -/
def Planned (phase : InitPhase) : Prop := ∀ name ∈ phase.names, Proper name ∧ name ≠ metaFile

/-- The shim is in place. -/
def injected : InitPhase → Bool
  | .registering _ | .returned none => true
  | _ => false

end InitPhase

theorem standaloneDir_rooted (name : RunnerName) : standaloneDir name = Filepath.rooted (home name) := by
  rw [← String.toList_inj]
  simp [standaloneDir, RunnerRow.directory, Filepath.rooted, home, base, List.intercalate]

theorem home_names {name : RunnerName} (proper : Proper name) : ∀ other ∈ home name, Proper other := by
  intro other member
  rcases List.mem_append.mp member with above | own
  · exact (by decide : ∀ name ∈ base, Proper name) other above
  · exact List.mem_singleton.mp own ▸ proper

theorem locate_standaloneDir {name : RunnerName} (proper : Proper name) :
    Filepath.locate (standaloneDir name) = home name := by
  rw [standaloneDir_rooted, Filepath.locate_rooted (home_names proper)]

/-- What a step of `InitializeEnvironment` can write, all of it in the directory of its runner. -/
inductive EnvironmentWrites (codec : MetaCodec) (image : Image) (cfg : Sqlc.Runner) (files : Contents) :
    Contents → Prop where
  | nothing : EnvironmentWrites codec image cfg files files
  | metaFile {data : List UInt8} (begun : data <+: codec.marshal ⟨cfg.name, cfg.url⟩) :
      EnvironmentWrites codec image cfg files (Function.update files (metaPlace cfg.name) (some data))
  | template {content : Contents} : EnvironmentWrites codec image cfg files
      (files.copied image.template content (home cfg.name))
  | subtree {content : Contents} {name : String} (other : name ≠ metaFile) :
      EnvironmentWrites codec image cfg files (files.mirrored content (home cfg.name ++ [name]))
  | script {content : Option (List UInt8)} {name : String} (other : name ≠ metaFile) :
      EnvironmentWrites codec image cfg files (Function.update files (home cfg.name ++ [name]) content)
  | worker {content : Option (List UInt8)} : EnvironmentWrites codec image cfg files
      (Function.update files (workerPlace cfg.name) content)

section
variable {codec : MetaCodec} {image : Image} {cfg : Sqlc.Runner} {token : String} {ran : Ran} {files after : Contents}
  {phase next : InitPhase}

theorem initializeEnvironment_writes (housed : cfg.Housed) (planned : phase.Planned)
    (taken : initializeEnvironment codec image cfg token ran files phase = some (after, next)) :
    EnvironmentWrites codec image cfg files after := by
  have here : Filepath.locate cfg.dir = home cfg.name := by rw [housed.dir, locate_standaloneDir housed.proper]
  have inside {name : String} (proper : Proper name) :
      Filepath.locate (Filepath.join cfg.dir name) = home cfg.name ++ [name] := by
    rw [Filepath.locate_join _ proper, here]
  cases phase with
  | making | checking | linking =>
      dsimp only [initializeEnvironment] at taken
      split at taken <;> cases taken <;> exact .nothing
  | provisioning | registering =>
      cases taken
      exact .nothing
  | marking =>
      cases taken
      rw [inside (by decide)]
      unfold writeFile
      split
      · exact .metaFile (List.prefix_refl _)
      · exact .metaFile (List.take_prefix _ _)
      · exact .nothing
  | copying registered =>
      dsimp only [initializeEnvironment] at taken
      rw [Filepath.locate_slash, here] at taken
      split at taken <;> cases taken <;> exact .template
  | syncing registered name rest =>
      obtain ⟨proper, other⟩ := planned name List.mem_cons_self
      dsimp only [initializeEnvironment] at taken
      rw [Filepath.locate_join_slash _ proper, here] at taken
      split at taken <;> cases taken <;> exact .subtree other
  | scripting registered name rest =>
      obtain ⟨proper, other⟩ := planned name List.mem_cons_self
      cases taken
      rw [inside proper]
      split
      · exact .script other
      · exact .nothing
  | injecting registered =>
      cases taken
      rw [Filepath.locate_join _ (by decide), inside (by decide), List.append_assoc]
      exact .worker
  | returned => cases taken

/-- Nothing outside the directory is touched. -/
theorem EnvironmentWrites.outside (writes : EnvironmentWrites codec image cfg files after) {place : Location}
    (outside : ¬home cfg.name <+: place) : after place = files place := by
  have other {inner : Location} (same : place = home cfg.name ++ inner) : False :=
    outside (same ▸ List.prefix_append _ _)
  cases writes with
  | nothing => rfl
  | template => exact Contents.copied_outside outside
  | subtree => exact Contents.mirrored_outside fun within => outside ((List.prefix_append _ _).trans within)
  | metaFile | script | worker => exact Function.update_of_ne other _ _

/-- The name of the runner is in its file from the first byte on, or what was there before is. -/
theorem EnvironmentWrites.meta (writes : EnvironmentWrites codec image cfg files after) :
    after (metaPlace cfg.name) = files (metaPlace cfg.name) ∨
      ∃ data, after (metaPlace cfg.name) = some data ∧ data <+: codec.marshal ⟨cfg.name, cfg.url⟩ := by
  cases writes with
  | nothing => exact .inl rfl
  | metaFile begun => exact .inr ⟨_, Function.update_self .., begun⟩
  | template =>
      left
      unfold metaPlace
      rw [Contents.copied_below, image.unmarked]
      rfl
  | @subtree content name other =>
      left
      apply Contents.mirrored_outside
      intro within
      rw [metaPlace, List.prefix_append_right_inj, List.singleton_prefix_cons_iff] at within
      exact other within
  | script other =>
      left
      apply Function.update_of_ne
      simpa [metaPlace] using other.symm
  | worker =>
      left
      apply Function.update_of_ne
      simp [metaPlace, workerPlace]

/-- The call goes on from the shim, or has just put it there. -/
theorem initializeEnvironment_injected (housed : cfg.Housed)
    (taken : initializeEnvironment codec image cfg token ran files phase = some (after, next))
    (done : next.injected = true) :
    phase.injected = true ∧ after = files ∨ after (workerPlace cfg.name) = some image.shim := by
  cases phase with
  | injecting registered =>
      right
      have worker : Filepath.locate (Filepath.join (Filepath.join cfg.dir "bin") "Runner.Worker") =
          workerPlace cfg.name := by
        rw [Filepath.locate_join _ (by decide), Filepath.locate_join _ (by decide), housed.dir,
          locate_standaloneDir housed.proper, List.append_assoc]
        rfl
      cases taken
      cases failed : ran.error with
      | some err =>
          rw [failed] at done
          cases done
      | none => rw [worker, copyFile, if_pos failed, Function.update_self]
  | registering =>
      cases taken
      exact .inl ⟨rfl, rfl⟩
  | returned => cases taken
  | provisioning | scripting =>
      cases taken
      split at done <;> cases done
  | marking =>
      cases taken
      cases done
  | syncing registered name rest =>
      dsimp only [initializeEnvironment] at taken
      generalize Filepath.locate (Filepath.join cfg.dir (name ++ "/")) = target at taken
      split at taken <;> cases taken
      · cases done
      · split at done <;> cases done
  | copying registered =>
      dsimp only [initializeEnvironment] at taken
      generalize Filepath.locate (cfg.dir ++ "/") = target at taken
      split at taken <;> cases taken <;> cases done
  | making | checking | linking =>
      dsimp only [initializeEnvironment] at taken
      split at taken <;> cases taken <;> cases done

theorem initializeEnvironment_planned (planned : phase.Planned)
    (taken : initializeEnvironment codec image cfg token ran files phase = some (after, next)) : next.Planned := by
  cases phase with
  | provisioning registered =>
      cases taken
      split
      · nofun
      · exact (by decide : ∀ name ∈ ["bin", "externals"], Proper name ∧ name ≠ metaFile)
  | syncing registered name rest =>
      dsimp only [initializeEnvironment] at taken
      generalize Filepath.locate (Filepath.join cfg.dir (name ++ "/")) = target at taken
      split at taken <;> cases taken
      · nofun
      · split
        · exact (by decide : ∀ name ∈ ["config.sh", "run.sh", "env.sh", "run-helper.sh"], Proper name ∧ name ≠ metaFile)
        · exact fun other member => planned other (.tail _ member)
  | scripting registered name rest =>
      cases taken
      split
      · nofun
      · exact fun other member => planned other (.tail _ member)
  | injecting registered =>
      cases taken
      split
      · nofun
      · split
        · nofun
        · split <;> nofun
  | marking | registering =>
      cases taken
      nofun
  | returned => cases taken
  | copying registered =>
      dsimp only [initializeEnvironment] at taken
      generalize Filepath.locate (cfg.dir ++ "/") = target at taken
      split at taken <;> cases taken <;> nofun
  | making | checking | linking =>
      dsimp only [initializeEnvironment] at taken
      split at taken <;> cases taken <;> nofun

end

end RunnersMux
