import RunnersMux.Dashboard.Service
import RunnersMux.Foundations.FileTrees
import RunnersMux.Orchestrator.Naming

/-! The directories of the standalone runners.

`createRunner` writes a name behind `/opt/runners/`. `InitializeEnvironment`
makes that path as it is, `Cleanup` removes the cleaned path, and
`SyncStaleRunners` compares absolute paths with the children of `/opt/runners`.
The three agree on names that lead to a child and nowhere else.
-/

set_option autoImplicit false

namespace RunnersMux

open Foundations

def baseDir : String := "/opt/runners"

def base : Location := ["opt", "runners"]

/-- `config.sh remove`, run in a directory. -/
abbrev ConfigScript (accepts : String → Bool) := Location → Tree accepts → Tree accepts

/-- The script changes nothing outside the directory that it is run in. -/
def Local {accepts : String → Bool} (script : ConfigScript accepts) : Prop :=
  ∀ cwd tree place, ¬cwd <+: place → (script cwd tree).node place = tree.node place

namespace StandaloneManager

variable {accepts : String → Bool}

/-- The command with `cmd.Dir`; it does not start where there is no directory. -/
def runConfig (script : ConfigScript accepts) (tree : Tree accepts) (dir : String) : Tree accepts :=
  match tree.stat dir with
  | .ok place => if tree.node place = some .dir then script place tree else tree
  | .error _ => tree

/-- The end of `Cleanup`. -/
def removeDir (tree : Tree accepts) (cfg : RunnerRow) : Tree accepts :=
  if cfg.dir ≠ "" then tree.removeAll (Filepath.clean cfg.dir) else tree

def cleanup (script : ConfigScript accepts) (tree : Tree accepts) (cfg : RunnerRow) (token : String) : Tree accepts :=
  match tree.stat (Filepath.join cfg.dir ".credentials") with
  | .error .notExist => removeDir tree cfg
  | _ => if token = "" then removeDir tree cfg else removeDir (runConfig script tree cfg.dir) cfg

/-- The body of the loop of `SyncStaleRunners`, for one entry of the listing. -/
def syncEntry (configuredDirs : List String) (tree : Tree accepts) (entry : String × Node) : Tree accepts :=
  if entry.2 ≠ .dir then tree
  else
    let runnerDir := Filepath.clean (Filepath.join baseDir entry.1)
    match tree.stat (Filepath.join runnerDir ".credentials") with
    | .error .notExist => tree
    | _ => if runnerDir ∈ configuredDirs then tree else tree.removeAll runnerDir

/-- `listing` is what `ReadDir` answers, or an error. -/
def syncStaleRunners (tree : Tree accepts) (runners : List RunnerRow) (listing : Option (List (String × Node))) :
    Tree accepts :=
  let configuredDirs := (runners.filter (·.dir ≠ "")).map fun runner => Filepath.clean runner.dir
  match listing with
  | some entries => entries.foldl (syncEntry configuredDirs) tree
  | none => tree

end StandaloneManager

section
variable {accepts : String → Bool} (script : ConfigScript accepts) (names : Set RunnerName)

/-- The place of a row's directory, cleaned. -/
def RunnerRow.location (row : RunnerRow) : Location := Filepath.locate row.dir

/-- The directory that `createRunner` gives a standalone runner. -/
def standaloneDir (name : RunnerName) : String := RunnerRow.directory name "standalone"

/-- A row that `createRunner` makes of one of the names. -/
structure Configured (row : RunnerRow) : Prop where
  name : row.name ∈ names
  dir : row.dir = standaloneDir row.name

/-- The rows that `SyncStaleRunners` is given; those of scale sets have no directory. -/
def Runners (rows : List RunnerRow) : Prop := ∀ row ∈ rows, row.dir ≠ "" → Configured names row

/-- What `ReadDir` answers on the base directory. -/
def ReadsDir (tree : Tree accepts) (listing : Option (List (String × Node))) : Prop :=
  ∀ entries ∈ listing, ∀ name kind, (name, kind) ∈ entries ↔ tree.node (base ++ [name]) = some kind

/-- In the directory of one of the runners, or outside the base directory. -/
def Sheltered (runners : List RunnerRow) (place : Location) : Prop :=
  ¬base <+: place ∨ ∃ other ∈ runners, other.dir ≠ "" ∧ other.location <+: place ∧ other.location ≠ place

/-- What is made or removed for a runner is a child of the base directory, and nothing else goes. -/
structure Isolated : Prop where
  created : ∀ (tree : Tree accepts) row, Configured names row → ∀ place,
    (tree.mkdirAll row.dir).node place ≠ none →
      tree.node place ≠ none ∨ place <+: base ∨ ∃ child, place = base ++ [child]
  cleaned : ∀ (tree : Tree accepts) row token, Configured names row →
    StandaloneManager.cleanup script tree row token = tree ∨
      ∃ child, StandaloneManager.cleanup script tree row token = tree.remove (base ++ [child])
  stale : ∀ (tree : Tree accepts) runners listing, Runners names runners → ReadsDir tree listing →
    ∃ children : List String, StandaloneManager.syncStaleRunners tree runners listing =
      children.foldl (fun tree child => tree.remove (base ++ [child])) tree
  deregistered : ∀ (tree : Tree accepts) row token runners, Configured names row → Runners names runners →
    (∀ other ∈ runners, other.name ≠ row.name) → ∀ place, Sheltered runners place → tree.node place ≠ none →
      (StandaloneManager.cleanup script tree row token).node place ≠ none
  synced : ∀ (tree : Tree accepts) runners listing, Runners names runners → ReadsDir tree listing →
    ∀ place, Sheltered runners place → tree.node place ≠ none →
      (StandaloneManager.syncStaleRunners tree runners listing).node place ≠ none

/-- Every name leads to a child of the base directory, through nothing but such children
and the base directory itself, and no two names to the same one. -/
structure Confined (accepts : String → Bool) (names : Set RunnerName) : Prop where
  made : ∀ name ∈ names, ∀ place ∈ Tree.visits accepts [] (Filepath.split (standaloneDir name)),
    place <+: base ∨ ∃ child, place = base ++ [child]
  removed : ∀ name ∈ names, (∀ element ∈ Filepath.locate (standaloneDir name), accepts element = true) →
    ∃ child, Filepath.locate (standaloneDir name) = base ++ [child]
  apart : ∀ name ∈ names, ∀ other ∈ names,
    (∀ element ∈ Filepath.locate (standaloneDir name), accepts element = true) →
      Filepath.locate (standaloneDir name) = Filepath.locate (standaloneDir other) → name = other

theorem standaloneDir_nonempty (name : RunnerName) : standaloneDir name ≠ "" := by
  change "/opt/runners/" ++ name ≠ ""
  simp

theorem locate_baseDir : Filepath.locate baseDir = base := by decide

namespace StandaloneManager

variable {script} {tree : Tree accepts} {cfg : RunnerRow}

theorem removeDir_eq (some_ : cfg.dir ≠ "") : removeDir tree cfg = tree.remove cfg.location := by
  unfold removeDir Tree.removeAll
  rw [if_pos some_, Filepath.locate_clean]
  rfl

theorem runConfig_outside (stays : Local script) {place : Location} (outside : ¬cfg.location <+: place) :
    (runConfig script tree cfg.dir).node place = tree.node place := by
  unfold runConfig
  split
  · next cwd found =>
      have same : cwd = cfg.location := Tree.walk_resolve found
      split
      · apply stays
        rw [same]
        exact outside
      · rfl
  · rfl

/-- What the script has done goes with the directory. -/
theorem remove_runConfig (stays : Local script) :
    (runConfig script tree cfg.dir).remove cfg.location = tree.remove cfg.location := by
  apply Tree.ext
  funext place
  rw [Tree.node_remove, Tree.node_remove]
  split
  · rfl
  · next kept =>
      by_cases top : place = []
      · rw [top, Tree.root, Tree.root]
      · exact runConfig_outside stays fun below => kept ⟨below, top⟩

/-- With the script or without it, `Cleanup` removes the directory. -/
theorem cleanup_eq (stays : Local script) (some_ : cfg.dir ≠ "") (token : String) :
    cleanup script tree cfg token = tree.remove cfg.location := by
  unfold cleanup
  rw [removeDir_eq some_, removeDir_eq some_, remove_runConfig stays]
  split
  · rfl
  · split <;> rfl

/-- One entry: nothing, or the removal of a child that is not configured. -/
theorem syncEntry_removes (configuredDirs : List String) {entry : String × Node} (proper : Proper entry.1) :
    syncEntry configuredDirs tree entry = tree ∨ Filepath.rooted (base ++ [entry.1]) ∉ configuredDirs ∧
      syncEntry configuredDirs tree entry = tree.remove (base ++ [entry.1]) := by
  have located : Filepath.locate (Filepath.join baseDir entry.1) = base ++ [entry.1] := by
    rw [Filepath.locate_join _ proper, locate_baseDir]
  have written : Filepath.clean (Filepath.join baseDir entry.1) = Filepath.rooted (base ++ [entry.1]) :=
    congrArg Filepath.rooted located
  have removes : tree.removeAll (Filepath.rooted (base ++ [entry.1])) = tree.remove (base ++ [entry.1]) := by
    rw [Tree.removeAll, ← written, Filepath.locate_clean, located]
  unfold syncEntry
  dsimp only
  rw [written]
  split
  · exact .inl rfl
  · split
    · exact .inl rfl
    · split
      · exact .inl rfl
      · next stale => exact .inr ⟨stale, removes⟩

/-- The loop removes children that are not configured. -/
theorem syncEntries_remove (configuredDirs : List String) {entries : List (String × Node)}
    (proper : ∀ entry ∈ entries, Proper entry.1) : ∃ children : List String,
      (∀ child ∈ children, Filepath.rooted (base ++ [child]) ∉ configuredDirs) ∧
      entries.foldl (syncEntry configuredDirs) tree =
        children.foldl (fun tree child => tree.remove (base ++ [child])) tree := by
  induction entries generalizing tree with
  | nil => exact ⟨[], nofun, rfl⟩
  | cons entry rest ih =>
      rw [List.forall_mem_cons] at proper
      rw [List.foldl_cons]
      rcases syncEntry_removes configuredDirs proper.1 with same | ⟨stale, removes⟩
      · rw [same]
        exact ih proper.2
      · rw [removes]
        obtain ⟨children, strangers, removed⟩ := ih proper.2
        exact ⟨entry.1 :: children, List.forall_mem_cons.mpr ⟨stale, strangers⟩, removed⟩

theorem removes_spare {children : List String} {place : Location} (known : tree.node place ≠ none)
    (beside : ∀ child ∈ children, ¬base ++ [child] <+: place) :
    (children.foldl (fun tree child => tree.remove (base ++ [child])) tree).node place ≠ none := by
  induction children generalizing tree with
  | nil => exact known
  | cons child rest ih =>
      rw [List.forall_mem_cons] at beside
      apply ih _ beside.2
      rw [Tree.node_remove, if_neg fun gone => beside.1 gone.1]
      exact known

end StandaloneManager

variable {script names} {tree : Tree accepts}

theorem Configured.some_ {row : RunnerRow} (configured : Configured names row) : row.dir ≠ "" := by
  rw [configured.dir]
  exact standaloneDir_nonempty row.name

theorem ReadsDir.proper {entries : List (String × Node)} (reads : ReadsDir tree (some entries)) :
    ∀ entry ∈ entries, Proper entry.1 := by
  rintro ⟨name, kind⟩ member
  have known := (reads entries rfl name kind).mp member
  exact (tree.nested base name (by simp [known])).2.1

theorem child_once {place : Location} {child other : String} (first : base ++ [child] <+: place)
    (second : base ++ [other] <+: place) : child = other := by
  have within := List.prefix_of_prefix_length_le first second (by simp)
  have same := within.eq_of_length (by simp)
  simpa using same

namespace Confined

variable (confined : Confined accepts names) {row : RunnerRow}
include confined

/-- A directory with something in it is a child of the base directory. -/
theorem child (configured : Configured names row) {place : Location} (known : tree.node place ≠ none)
    (below : row.location <+: place) : ∃ child, row.location = base ++ [child] := by
  have accepted := fun element member => Tree.names_accepted known element (below.subset member)
  unfold RunnerRow.location at accepted ⊢
  rw [configured.dir] at accepted ⊢
  exact confined.removed row.name configured.name accepted

/-- Two runners with something in both of their directories are one. -/
theorem once {other : RunnerRow} (configured : Configured names row) (also : Configured names other)
    {place : Location} (known : tree.node place ≠ none) (below : row.location <+: place)
    (within : other.location <+: place) : other.name = row.name := by
  obtain ⟨first, here⟩ := confined.child configured known below
  obtain ⟨second, there⟩ := confined.child also known within
  -- Both directories are children on the way to one place, so they are one child.
  have same : first = second := child_once (here ▸ below) (there ▸ within)
  have accepted := fun element member => Tree.names_accepted known element (below.subset member)
  unfold RunnerRow.location at accepted here there
  rw [configured.dir] at accepted here
  rw [also.dir] at there
  apply (confined.apart row.name configured.name other.name also.name accepted _).symm
  rw [here, there, same]

theorem isolated (stays : Local script) : Isolated script names where
  created := by
    intro tree row configured place made
    rcases Tree.mkdirFrom_adds made with before | visited
    · exact .inl before
    · rw [configured.dir] at visited
      exact .inr (confined.made row.name configured.name place visited)
  cleaned := by
    intro tree row token configured
    rw [StandaloneManager.cleanup_eq stays configured.some_]
    -- Where there is nothing to remove, any name will do.
    by_cases occupied : ∃ place, tree.node place ≠ none ∧ row.location <+: place
    · obtain ⟨place, known, below⟩ := occupied
      obtain ⟨child, located⟩ := confined.child configured known below
      exact .inr ⟨child, congrArg tree.remove located⟩
    · left
      apply Tree.ext
      funext place
      rw [Tree.node_remove]
      split
      · next gone =>
          by_contra known
          exact occupied ⟨place, Ne.symm known, gone.1⟩
      · rfl
  stale := by
    intro tree runners listing _ reads
    cases listing with
    | none => exact ⟨[], rfl⟩
    | some entries =>
        obtain ⟨children, _, removed⟩ := StandaloneManager.syncEntries_remove _ reads.proper
        exact ⟨children, removed⟩
  deregistered := by
    intro tree row token runners configured rows others place sheltered known
    rw [StandaloneManager.cleanup_eq stays configured.some_, Tree.node_remove, if_neg]
    · exact known
    · rintro ⟨below, _⟩
      rcases sheltered with outside | ⟨other, member, some_, within, _⟩
      · obtain ⟨child, located⟩ := confined.child configured known below
        exact outside ((List.prefix_append base [child]).trans (located ▸ below))
      · exact others other member (confined.once configured (rows other member some_) known below within)
  synced := by
    intro tree runners listing rows reads place sheltered known
    cases listing with
    | none => exact known
    | some entries =>
        obtain ⟨children, strangers, removed⟩ := StandaloneManager.syncEntries_remove
          ((runners.filter (·.dir ≠ "")).map fun runner => Filepath.clean runner.dir) reads.proper
        unfold StandaloneManager.syncStaleRunners
        dsimp only
        rw [removed]
        apply StandaloneManager.removes_spare known
        intro child member below
        rcases sheltered with outside | ⟨other, listed, some_, within, _⟩
        · exact outside ((List.prefix_append base [child]).trans below)
        · -- The child is the directory of a runner, and its path is in the set.
          obtain ⟨own, located⟩ := confined.child (rows other listed some_) known within
          obtain rfl := child_once below (located ▸ within)
          apply strangers child member
          rw [← located]
          exact List.mem_map.mpr ⟨other, List.mem_filter.mpr ⟨listed, by simpa using some_⟩, rfl⟩

end Confined

/-- A row for a name. -/
def standaloneRow (name : RunnerName) : RunnerRow where
  id := 0
  name := name
  mode := "standalone"
  url := ""
  dir := standaloneDir name
  pat := ""
  runnerGroup := ""

namespace Isolated

variable (isolated : Isolated script names) (stays : Local script)
include isolated

/-- An empty tree shows what `MkdirAll` makes. -/
theorem made {name : RunnerName} (member : name ∈ names) {place : Location}
    (visited : place ∈ Tree.visits accepts [] (Filepath.split (standaloneDir name))) :
    place <+: base ∨ ∃ child, place = base ++ [child] := by
  let empty : Tree accepts := Tree.spine [] nofun
  have bare (other : Location) : empty.node other ≠ some .file := by
    rw [Tree.node_spine]
    split <;> nofun
  have makes := Tree.mkdirFrom_makes bare empty.root (Filepath.split_slashless _) visited
  rcases isolated.created empty (standaloneRow name) ⟨member, rfl⟩ place makes with before | allowed
  · rw [Tree.node_spine] at before
    split at before
    · next top =>
        rw [List.prefix_nil.mp top]
        exact .inl List.nil_prefix
    · exact absurd rfl before
  · exact allowed

include stays

theorem cleanup_row {name : RunnerName} (member : name ∈ names) (tree : Tree accepts) :
    tree.remove (Filepath.locate (standaloneDir name)) = tree ∨
      ∃ child, tree.remove (Filepath.locate (standaloneDir name)) = tree.remove (base ++ [child]) := by
  have configured : Configured names (standaloneRow name) := ⟨member, rfl⟩
  have cleaned := isolated.cleaned tree (standaloneRow name) "" configured
  rw [StandaloneManager.cleanup_eq stays configured.some_] at cleaned
  exact cleaned

/-- Where there is nothing but the way to the directory, its removal shows that it is a child. -/
theorem removed (takes : ∀ element ∈ base, accepts element = true) {name : RunnerName} (member : name ∈ names)
    (accepted : ∀ element ∈ Filepath.locate (standaloneDir name), accepts element = true) :
    ∃ child, Filepath.locate (standaloneDir name) = base ++ [child] := by
  have proper := Filepath.locate_names (standaloneDir name)
  have cleaned := isolated.cleanup_row stays member
  generalize Filepath.locate (standaloneDir name) = place at *
  by_cases top : place = []
  · -- The whole tree goes, and the directory over the base directory with it.
    subst top
    have known : ∀ name ∈ base, Proper name ∧ accepts name = true := fun name own =>
      ⟨(by decide : ∀ name ∈ base, Proper name) name own, takes name own⟩
    rcases cleaned (Tree.spine base known) with same | ⟨child, same⟩
    all_goals
      have there := congrArg (fun tree => tree.node ["opt"]) same
      simp [Tree.node_remove, Tree.node_spine, base] at there
  · have known : ∀ name ∈ place, Proper name ∧ accepts name = true := fun name own => ⟨proper name own, accepted name own⟩
    rcases cleaned (Tree.spine place known) with same | ⟨child, same⟩
    · have there := congrArg (fun tree => tree.node place) same
      simp [Tree.node_remove, Tree.node_spine, top] at there
    · have below : base ++ [child] <+: place := by
        have there := congrArg (fun tree => tree.node place) same
        simpa [Tree.node_remove, Tree.node_spine, top] using there
      have within : place <+: base ++ [child] := by
        have there := congrArg (fun tree => tree.node (base ++ [child])) same
        simpa [Tree.node_remove, Tree.node_spine, below] using there
      exact ⟨child, within.eq_of_length (Nat.le_antisymm within.length_le below.length_le)⟩

/-- An entry in a directory that two names share is lost with either of them. -/
theorem apart (takes : ∀ element ∈ base, accepts element = true) {name other : RunnerName} (member : name ∈ names)
    (also : other ∈ names) (accepted : ∀ element ∈ Filepath.locate (standaloneDir name), accepts element = true)
    (same : Filepath.locate (standaloneDir name) = Filepath.locate (standaloneDir other)) : name = other := by
  by_contra differ
  have configured : Configured names (standaloneRow name) := ⟨member, rfl⟩
  have known : ∀ element ∈ Filepath.locate (standaloneDir name) ++ ["opt"], Proper element ∧ accepts element = true := by
    intro element own
    rcases List.mem_append.mp own with old | new
    · exact ⟨Filepath.locate_names _ element old, accepted element old⟩
    · rw [List.mem_singleton.mp new]
      exact ⟨by decide, takes "opt" (by decide)⟩
  have rows : Runners names [standaloneRow other] := by
    intro row listed _
    rw [List.mem_singleton.mp listed]
    exact ⟨also, rfl⟩
  have others : ∀ row ∈ [standaloneRow other], row.name ≠ (standaloneRow name).name := by
    intro row listed
    rw [List.mem_singleton.mp listed]
    exact Ne.symm differ
  have sheltered : Sheltered [standaloneRow other] (Filepath.locate (standaloneDir name) ++ ["opt"]) := by
    refine .inr ⟨standaloneRow other, List.mem_singleton_self _, standaloneDir_nonempty other, ?_, ?_⟩
    · rw [same]
      exact List.prefix_append _ _
    · rw [same]
      exact fun equal => absurd (congrArg List.length equal) (by simp [RunnerRow.location, standaloneRow])
  have spared := isolated.deregistered (Tree.spine _ known) (standaloneRow name) "" [standaloneRow other] configured
    rows others _ sheltered (by simp [Tree.node_spine])
  rw [StandaloneManager.cleanup_eq stays configured.some_, Tree.node_remove, if_pos] at spared
  · exact spared rfl
  · exact ⟨List.prefix_append _ _, by simp⟩

end Isolated

/-- The directories of the runners are isolated exactly if their names lead straight to
children of the base directory, and each to its own. -/
theorem directories_isolated (accepts : String → Bool) (takes : ∀ element ∈ base, accepts element = true)
    (script : ConfigScript accepts) (stays : Local script) (names : Set RunnerName) :
    Isolated script names ↔ Confined accepts names := by
  constructor
  · intro isolated
    constructor
    · intro name member place visited
      exact isolated.made member visited
    · intro name member accepted
      exact isolated.removed stays takes member accepted
    · intro name member other also accepted same
      exact isolated.apart stays takes member also accepted same
  · intro confined
    exact confined.isolated stays

/-- Names that are elements themselves are confined. -/
theorem confined_proper (takes : ∀ element ∈ base, accepts element = true) (proper : ∀ name ∈ names, Proper name) :
    Confined accepts names := by
  have cut {name : RunnerName} (member : name ∈ names) :
      Filepath.split (standaloneDir name) = ["", "opt", "runners", name] := by
    have own := Filepath.split_append baseDir name
    rw [Filepath.split_proper (proper name member)] at own
    exact own
  have located {name : RunnerName} (member : name ∈ names) : Filepath.locate (standaloneDir name) = base ++ [name] := by
    rw [Filepath.locate, cut member]
    exact descend_proper (proper name member) base
  constructor
  · intro name member place visited
    obtain ⟨nonempty, here, up, _⟩ := proper name member
    have route : Tree.visits accepts [] ["", "opt", "runners", name] =
        ["opt"] :: base :: if accepts name then [base ++ [name]] else [] := by
      simp [Tree.visits, takes "opt" (by decide), takes "runners" (by decide), nonempty, here, up, base]
    rw [cut member, route] at visited
    rcases List.mem_cons.mp visited with rfl | visited
    · exact .inl (by decide)
    · rcases List.mem_cons.mp visited with rfl | visited
      · exact .inl List.prefix_rfl
      · split at visited
        · exact .inr ⟨name, List.mem_singleton.mp visited⟩
        · cases visited
  · exact fun name member _ => ⟨name, located member⟩
  · intro name member other also _ same
    rw [located member, located also] at same
    simpa using same

end

/-- A runner named `..` takes the directory of every other with it. -/
theorem directories_shared : ∃ names : Set RunnerName, (∀ name ∈ names, createRunnerAccepts name = true) ∧
    ¬Isolated (fun _ tree => tree : ConfigScript fun _ => true) names := by
  refine ⟨{"backend", ".."}, ?_, fun isolated => ?_⟩
  · rintro name (rfl | rfl) <;> decide
  · have rows : Runners {"backend", ".."} [standaloneRow "backend"] := by
      intro row listed _
      rw [List.mem_singleton.mp listed]
      exact ⟨.inl rfl, rfl⟩
    have others : ∀ row ∈ [standaloneRow "backend"], row.name ≠ (standaloneRow "..").name := by decide
    have sheltered : Sheltered [standaloneRow "backend"] ["opt", "runners", "backend", ".credentials"] :=
      .inr ⟨standaloneRow "backend", List.mem_singleton_self _, by decide, by decide, by decide⟩
    have spared := isolated.deregistered (Tree.spine ["opt", "runners", "backend", ".credentials"] (by decide))
      (standaloneRow "..") "" [standaloneRow "backend"] ⟨.inr rfl, rfl⟩ rows others _ sheltered (by decide)
    exact absurd spared (by decide)

/-- Two runners whose names are single elements; the script removes the credentials. -/
theorem directories_isolated_two :
    Isolated (fun cwd tree => tree.remove (cwd ++ [".credentials"]) : ConfigScript fun name => !name.toList.contains '\x00')
      {"backend", "frontend"} := by
  refine (directories_isolated _ (by decide) _ ?_ _).mpr (confined_proper (by decide) ?_)
  · intro cwd tree place outside
    rw [Tree.node_remove, if_neg]
    exact fun gone => outside ((List.prefix_append _ _).trans gone.1)
  · rintro name (rfl | rfl) <;> decide

end RunnersMux
