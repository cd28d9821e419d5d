import RunnersMux.Dashboard.Table
import RunnersMux.Foundations.Encoding
import RunnersMux.Foundations.Trimming
import RunnersMux.Web.Submitting

/-! The labels of a runner on their way from a form to the table and back.

A page cuts what has been typed at its commas, the table keeps the pieces in one
column, and the form of the runner's own page starts from that column. So the
column has to be what the same text comes out as again.
-/

set_option autoImplicit false

namespace RunnersMux.Web

open Foundations

/-- The column that comes of a text in one of the two inputs for labels. -/
def labelsColumn (labels : Text) : String :=
  if labels = [] then "" else ",".intercalate ((splitLabels labels).map received)

/-- What they should be for a text that has been typed. -/
def typedLabels (labels : Text) : List String :=
  ((labels.splitOn comma).map fun label => trimSpace (received (trimText label))).filter (· ≠ "")

section
variable {text : Text} {column : String}

theorem codePoints_of (literal : String) : codePoints (Text.of literal) = literal.toList.map Char.toNat := by
  have valid : ∀ point ∈ literal.toList.map Char.toNat, point.isValidChar := by
    intro point member
    obtain ⟨char, _, rfl⟩ := List.mem_map.mp member
    exact char.valid
  rw [← codePoints_flatMap valid, List.flatMap_map]
  rfl

/-- A text of Go comes back as it was. -/
theorem received_of (literal : String) : received (Text.of literal) = literal := by
  have same : (fun point : Nat => if point.isValidChar then Char.ofNat point else '\uFFFD') ∘ Char.toNat = id := by
    funext char
    have valid : char.toNat.isValidChar := char.valid
    simp [valid]
  rw [received, codePoints_of, List.map_map, same, List.map_id, String.ofList_toList]

/-- A text of JavaScript comes back mended. -/
theorem of_received (text : Text) : Text.of (received text) = mend text := by
  unfold Text.of received mend
  rw [String.toList_ofList, List.flatMap_map]
  congr 1
  funext point
  unfold scalar
  split
  · next valid =>
      have same : (Char.ofNat point).toNat = point := by
        rw [Char.ofNat, dif_pos valid]
        rfl
      rw [same]
  · rfl

theorem received_mend (text : Text) : received (mend text) = received text := by
  rw [← of_received, received_of]

/-- Neither end is white. -/
def Trimmed (text : Text) : Prop :=
  (∀ unit ∈ text.head?, isWhite unit = false) ∧ ∀ unit ∈ text.getLast?, isWhite unit = false

theorem trimmed_trimText (text : Text) : Trimmed (trimText text) := by
  constructor
  · intro unit first
    have starts : trimText text <+: text.dropWhile isWhite := List.rdropWhile_prefix _ _
    have stays := List.head?_dropWhile_not isWhite text
    cases pieces : trimText text with
    | nil => simp [pieces] at first
    | cons head rest =>
        obtain ⟨more, same⟩ := starts
        rw [pieces] at first same
        rw [← same] at stays
        simp_all
  · exact last_rdropWhile isWhite _

theorem trimText_trimmed (trimmed : Trimmed text) : trimText text = text := by
  have front : text.dropWhile isWhite = text := by
    cases text with
    | nil => rfl
    | cons head rest =>
        have stays := trimmed.1 head rfl
        rw [List.dropWhile_cons_of_neg (by simp [stays])]
  unfold trimText
  rw [front, List.rdropWhile_eq_self_iff]
  intro some_
  have stays := trimmed.2 _ (List.getLast?_eq_getLast_of_ne_nil some_)
  simp [stays]

/-- What stands for a surrogate is no white space. -/
theorem white_mended {unit later : UInt16} (mended : Mended unit later) (black : isWhite unit = false) :
    isWhite later = false := by
  rcases mended with rfl | ⟨_, rfl⟩
  · exact black
  · decide

theorem comma_mended {unit later : UInt16} (mended : Mended unit later) (same : later = comma) : unit = comma := by
  rcases mended with rfl | ⟨_, rfl⟩
  · exact same
  · cases same

theorem trimmed_mend (trimmed : Trimmed text) : Trimmed (mend text) := by
  have ends {units : List UInt16} {later : List UInt16} (mended : List.Forall₂ Mended units later)
      (black : ∀ unit ∈ units.head?, isWhite unit = false) : ∀ unit ∈ later.head?, isWhite unit = false := by
    cases mended with
    | nil => exact black
    | cons first rest => simpa using white_mended first (by simpa using black)
  refine ⟨ends (mend_mended text) trimmed.1, ?_⟩
  have reversed : List.Forall₂ Mended text.reverse (mend text).reverse := List.rel_reverse (mend_mended text)
  simpa using ends reversed (by simpa using trimmed.2)

theorem comma_mend (apart : comma ∉ text) : comma ∉ mend text := by
  have mended := mend_mended text
  generalize mend text = later at mended
  induction mended with
  | nil => simp
  | cons first rest ih =>
      simp only [List.mem_cons, not_or] at apart ⊢
      exact ⟨fun same => apart.1 (comma_mended first same.symm).symm, ih apart.2⟩

theorem comma_received (apart : comma ∉ text) : ',' ∉ (received text).toList := by
  intro member
  apply comma_mend apart
  rw [← of_received]
  exact List.mem_flatMap.mpr ⟨',', member, by decide⟩

theorem comma_trimText (apart : comma ∉ text) : comma ∉ trimText text := by
  intro member
  exact apart ((List.dropWhile_sublist _).subset ((List.rdropWhile_prefix _ _).subset member))

theorem comma_splitLabels (labels : Text) : ∀ label ∈ splitLabels labels, comma ∉ label := by
  intro label member
  obtain ⟨piece, cut, rfl⟩ := List.mem_map.mp member
  exact comma_trimText (separator_splitOn labels piece cut)

theorem splitLabels_ne_nil (labels : Text) : splitLabels labels ≠ [] := by
  simp [splitLabels, List.splitOn_ne_nil]

/-- What is joined in the service is joined in the page. -/
theorem of_intercalate (pieces : List String) :
    Text.of (",".intercalate pieces) = [comma].intercalate (pieces.map Text.of) := by
  induction pieces with
  | nil => rfl
  | cons first rest ih =>
      cases rest with
      | nil => simp
      | cons second others =>
          rw [String.intercalate_cons_cons, List.map_cons, List.map_cons, List.intercalate_cons_cons,
            ← List.map_cons, ← ih]
          simp [Text.of, comma, utf16]

theorem labelsColumn_eq (labels : Text) :
    labelsColumn labels = ",".intercalate ((splitLabels labels).map received) := by
  unfold labelsColumn
  split
  · next none_ =>
      subst none_
      decide
  · rfl

/-- The form that starts from a column cuts it into the labels that it was made of. -/
theorem splitLabels_column (labels : Text) :
    splitLabels (Text.of (labelsColumn labels)) = (splitLabels labels).map mend := by
  have apart : ∀ piece ∈ (splitLabels labels).map mend, comma ∉ piece := by
    intro piece member
    obtain ⟨label, here, rfl⟩ := List.mem_map.mp member
    exact comma_mend (comma_splitLabels labels label here)
  have pieces : ((splitLabels labels).map received).map Text.of = (splitLabels labels).map mend := by
    rw [List.map_map]
    exact List.map_congr_left fun label _ => of_received label
  have some_ : (splitLabels labels).map mend ≠ [] := by simp [splitLabels_ne_nil]
  rw [labelsColumn_eq, of_intercalate, pieces, splitLabels, List.splitOn_intercalate comma apart some_, List.map_map]
  apply List.map_congr_left
  intro label member
  obtain ⟨piece, _, rfl⟩ := List.mem_map.mp member
  exact trimText_trimmed (trimmed_mend (trimmed_trimText piece))

/-- A column that is submitted again is the same. -/
theorem labelsColumn_again (labels : Text) : labelsColumn (Text.of (labelsColumn labels)) = labelsColumn labels := by
  rw [labelsColumn_eq (Text.of _), splitLabels_column, List.map_map, labelsColumn_eq]
  congr 1
  exact List.map_congr_left fun label _ => received_mend label

theorem registeredLabels_column (labels : Text) : registeredLabels (labelsColumn labels) = typedLabels labels := by
  have apart : ∀ piece ∈ ((splitLabels labels).map received).map String.toList, ',' ∉ piece := by
    simp only [List.forall_mem_map]
    exact fun label member => comma_received (comma_splitLabels labels label member)
  have pieces : splitAt (labelsColumn labels) ',' = (splitLabels labels).map received := by
    rw [labelsColumn_eq, splitAt, String.toList_intercalate,
      show ",".toList = [','] from rfl, List.splitOn_intercalate ',' apart (by simp [splitLabels_ne_nil]), List.map_map]
    simp [Function.comp_def]
  have cut : ((splitAt (labelsColumn labels) ',').map trimSpace).filter (· ≠ "") = typedLabels labels := by
    rw [pieces, splitLabels, typedLabels, List.map_map, List.map_map]
    rfl
  unfold registeredLabels
  split
  · next none_ =>
      rw [← cut, none_]
      decide
  · exact cut

end

/-- Whether an `int` of the service holds a number. -/
def isInt (number : Int) : Bool := -9223372036854775808 ≤ number && number ≤ 9223372036854775807

/-- What `createRunner` decodes; `none` when it cannot. -/
def AddRunnerPayload.decoded (payload : AddRunnerPayload) : Option Api.CreatePayload :=
  if isInt (payload.maxRunners.getD 0) then
    some {
      name := received payload.name
      mode := received payload.mode.text
      url := received payload.url
      pat := received (payload.pat.getD [])
      maxRunners := payload.maxRunners.getD 0
      labels := (payload.labels.getD []).map received
      runnerGroup := received (payload.runnerGroup.getD []) }
  else none

structure UpdateRunnerPayload where
  pat : Option Text
  maxRunners : Option Int
  labels : Option (List Text)
  runnerGroup : Option Text
  deriving DecidableEq

def UpdateRunnerPayload.decoded (payload : UpdateRunnerPayload) : Option Api.UpdatePayload :=
  if isInt (payload.maxRunners.getD 0) then
    some {
      pat := received (payload.pat.getD [])
      maxRunners := payload.maxRunners.getD 0
      labels := (payload.labels.getD []).map received
      runnerGroup := received (payload.runnerGroup.getD []) }
  else none

/-- The scope that `RunnerDetail` finds in a URL. -/
inductive ScopeKind where
  | organization
  | repository
  deriving DecidableEq, Repr

def Browser.scope (browser : Browser) (url : Text) : Option ScopeKind :=
  if url = [] then none
  else
    match browser.pathParts url with
    | some [_] => some .organization
    | some (_ :: _ :: _) => some .repository
    | _ => none

/-- The form of `RunnerDetail`. Its fields start from the runner that it is mounted with; the runner itself
is fetched again and again. -/
structure ConfigForm where
  runner : Api.CombinedRunner
  pat : Text
  group : Text
  labels : Text
  maxRunners : Int
  loading : Bool

inductive ConfigAction where
  | setPat (value : Text)
  | setGroup (value : Text)
  | setLabels (value : Text)
  | setMaxRunners (value : Int)

namespace ConfigForm

def mount (runner : Api.CombinedRunner) : ConfigForm :=
  ⟨runner, [], Text.of runner.runner.runnerGroup, Text.of runner.runner.labels, runner.runner.maxRunners, false⟩

variable (form : ConfigForm) (browser : Browser)

def isLive : Bool := form.runner.state.text ∈ ["Online", "Busy", "Registering", "Paused", "Draining"]

def isStandaloneRegistered : Bool := form.runner.runner.mode = "standalone" && form.runner.isRegistered

def isReadOnly : Bool := form.isLive || form.isStandaloneRegistered

def scope : Option ScopeKind := browser.scope (Text.of form.runner.runner.url)

def payload : UpdateRunnerPayload where
  pat := if form.runner.runner.mode = "scaleset" ∧ form.pat ≠ [] then some form.pat else none
  maxRunners := if form.runner.runner.mode = "scaleset" ∧ 0 < form.maxRunners then some form.maxRunners else none
  runnerGroup := if form.scope browser = some .organization ∧ form.group ≠ [] then some form.group else none
  labels := if form.labels ≠ [] then some (splitLabels form.labels) else none

/-- Whether the input of an action is there and not disabled. -/
def offers (action : ConfigAction) : Bool :=
  !form.isReadOnly &&
    match action with
    | .setPat _ => form.runner.runner.mode ≠ "standalone"
    | .setGroup _ => form.scope browser = some .organization
    | .setLabels _ => true
    | .setMaxRunners _ => form.runner.runner.mode = "scaleset"

def apply : ConfigAction → ConfigForm
  | .setPat value => { form with pat := value }
  | .setGroup value => { form with group := value }
  | .setLabels value => { form with labels := value }
  | .setMaxRunners value => { form with maxRunners := value }

/-- The submit button is there, and no required input is empty. -/
def enabled : Bool :=
  !form.isLive && !form.loading &&
    (form.runner.runner.mode = "standalone" || form.isReadOnly || form.runner.hasPat || form.pat ≠ [])

end ConfigForm

/-- What the input for labels held when it was saved, and what had been typed to get there, in this form or in the
one that the column comes from. -/
structure Save where
  field : Text
  typed : Text
  deriving DecidableEq

/-- The text of the last save whose input was not empty. -/
def standing (saves : List Save) : Text :=
  saves.foldl (fun text save => if save.field = [] then text else save.typed) []

@[simp] theorem standing_append (saves : List Save) (save : Save) :
    standing (saves ++ [save]) = if save.field = [] then standing saves else save.typed := by
  simp [standing]

theorem standing_singleton (text : Text) : standing [⟨text, text⟩] = text := by
  by_cases empty : text = [] <;> simp [standing, empty]

/-- An update on its way to its row. -/
structure SentUpdate where
  name : RunnerName
  payload : Api.UpdatePayload
  save : Save

/-- The table and the pages that are open. What is typed goes along from the input to the row and from
the row to the forms that show it; no step looks at it. -/
structure Configuring where
  table : Sqlc.Runners
  /-- All saves of a row, by its identifier, the creation first. -/
  saved : Nat → List Save
  /-- The responses of `getRunner`, any of which may still be on its way or in a cache. -/
  shown : List (Api.CombinedRunner × Text)
  forms : Map ClientID (ConfigForm × Text)
  sent : Map UpdateID SentUpdate
  /-- The updates that have read their row. -/
  editing : Map UpdateID (Sqlc.Runner × SentUpdate)

inductive ConfigEvent where
  /-- A request of the page that adds runners. -/
  | createRunner (env : Surroundings) (page : AddRunner) (mode : Mode) (drawn : List (Fin 36)) (repo : Scope)
  | getRunner (env : Surroundings) (name : RunnerName)
  | mount (c : ClientID) (n : Nat)
  | refresh (c : ClientID) (n : Nat)
  | input (c : ClientID) (action : ConfigAction)
  | submit (c : ClientID) (u : UpdateID)
  | settled (c : ClientID)
  | read (u : UpdateID) (env : Surroundings)
  | edit (u : UpdateID) (env : Surroundings)
  | deleteRunner (env : Surroundings) (name : RunnerName)
  | incrementJobsCompleted (failure : Option String) (name : RunnerName)

/-- An update has labels exactly where the input was not empty, and they are those of the text behind it. -/
structure SentUpdate.Carries (update : SentUpdate) : Prop where
  empty : update.payload.labels = [] ↔ update.save.field = []
  column : ",".intercalate update.payload.labels = labelsColumn update.save.typed

namespace Configuring

def new : Configuring := ⟨.new, fun _ => [], [], ∅, ∅, ∅⟩

/-- The text that stands for the labels of a form after an action. -/
def retyped (typed : Text) : ConfigAction → Text
  | .setLabels value => value
  | _ => typed

def step (browser : Browser) (s : Configuring) : ConfigEvent → Option Configuring
  | .createRunner env page mode drawn repo => some { s with
      table := (Api.createRunner env s.table (page.payload browser mode drawn repo).decoded).2
      saved := Function.update s.saved s.table.nextID [⟨page.labels, page.labels⟩] }
  | .getRunner env name =>
      match (Api.getRunner env s.table name).body with
      | .combined runner => some { s with shown := s.shown ++ [(runner, standing (s.saved runner.runner.id))] }
      | _ => none
  | .mount c n => s.shown[n]?.bind fun (runner, typed) =>
      if runner.canManage then some { s with forms := s.forms.insert c (.mount runner, typed) } else none
  | .refresh c n => (s.forms.lookup c).bind fun (form, typed) => s.shown[n]?.bind fun (runner, _) =>
      if runner.runner.name = form.runner.runner.name then some { s with
        forms := if runner.canManage then s.forms.insert c ({ form with runner }, typed) else s.forms.erase c }
      else none
  | .input c action => (s.forms.lookup c).bind fun (form, typed) =>
      if form.offers browser action then
        some { s with forms := s.forms.insert c (form.apply action, retyped typed action) }
      else none
  | .submit c u => (s.forms.lookup c).bind fun (form, typed) =>
      if form.enabled ∧ s.sent.lookup u = none ∧ s.editing.lookup u = none then some { s with
        forms := s.forms.insert c ({ form with loading := true }, typed)
        sent := (form.payload browser).decoded.elim s.sent fun payload =>
          s.sent.insert u ⟨form.runner.runner.name, payload, form.labels, typed⟩ }
      else none
  | .settled c => (s.forms.lookup c).map fun (form, typed) =>
      { s with forms := s.forms.insert c ({ form with loading := false }, typed) }
  | .read u env => (s.sent.lookup u).bind fun update =>
      match Api.readRow env s.table .getRunnerByName update.name with
      | .ok row =>
          if (Api.getRunnerStatus env update.name).any fun status => !Api.editable status.state then none
          else some { s with sent := s.sent.erase u, editing := s.editing.insert u (row, update) }
      | .error _ => none
  | .edit u env => (s.editing.lookup u).bind fun (row, update) =>
      match Api.edit env s.table row update.payload with
      | .ok (_, table) => some { s with
          table
          saved := Function.update s.saved row.id (s.saved row.id ++ [update.save])
          editing := s.editing.erase u }
      | .error _ => none
  | .deleteRunner env name => (s.table.step (.deleteRunnerByName env name)).map fun table => { s with table }
  | .incrementJobsCompleted failure name =>
      (s.table.step (.incrementJobsCompleted failure name)).map fun table => { s with table }

/-- A column is what has been typed comes out as, wherever it is. -/
structure Sound (s : Configuring) : Prop where
  stored : s.table.Stored
  rows : ∀ row ∈ s.table.rows, row.labels = labelsColumn (standing (s.saved row.id))
  shown : ∀ answer ∈ s.shown, answer.1.runner.labels = labelsColumn answer.2
  forms : ∀ c entry, s.forms.lookup c = some entry → labelsColumn entry.1.labels = labelsColumn entry.2
  sent : ∀ u update, s.sent.lookup u = some update → update.Carries
  editing : ∀ u entry, s.editing.lookup u = some entry → entry.2.Carries

theorem sound_new : new.Sound where
  stored := .start rfl
  rows := by simp [new, Sqlc.Runners.new]
  shown := by simp [new]
  forms := by simp [new]
  sent := by simp [new]
  editing := by simp [new]

/-- What is decoded of the labels of a payload is the column. -/
theorem column_decoded (labels : Text) :
    ",".intercalate (((if labels ≠ [] then some (splitLabels labels) else none).getD []).map received) =
      labelsColumn labels := by
  unfold labelsColumn
  by_cases none_ : labels = [] <;> simp [none_]

variable {browser : Browser} {s after : Configuring}

theorem decoded_create {page : AddRunner} {mode : Mode} {drawn : List (Fin 36)} {repo : Scope}
    {input : Api.CreatePayload} (decodes : (page.payload browser mode drawn repo).decoded = some input) :
    ",".intercalate input.labels = labelsColumn page.labels := by
  unfold AddRunnerPayload.decoded at decodes
  split at decodes <;> cases decodes
  exact column_decoded page.labels

theorem decoded_update {form : ConfigForm} {input : Api.UpdatePayload}
    (decodes : (form.payload browser).decoded = some input) :
    (input.labels = [] ↔ form.labels = []) ∧ ",".intercalate input.labels = labelsColumn form.labels := by
  unfold UpdateRunnerPayload.decoded at decodes
  split at decodes <;> cases decodes
  refine ⟨?_, column_decoded form.labels⟩
  -- A text that is not empty is cut into one piece at least.
  by_cases empty : form.labels = [] <;> simp [ConfigForm.payload, empty, splitLabels_ne_nil]

theorem readRow_row {env : Surroundings} {table : Sqlc.Runners} {statement : Sqlc.Statement} {name : RunnerName}
    {row : Sqlc.Runner} (reads : Api.readRow env table statement name = .ok row) :
    rowAt Sqlc.Runner.name table.rows name = some row := by
  unfold Api.readRow Sqlc.Runners.getRunnerByName at reads
  cases failed : env.failure statement with
  | some err =>
      rw [failed] at reads
      cases reads
  | none =>
      rw [failed] at reads
      unfold rowAt
      cases found : table.rows.find? fun row => row.name = name with
      | none =>
          rw [found] at reads
          cases reads
      | some other =>
          rw [found] at reads
          cases reads
          rfl

/-- The runner of a response is the row of its name, without the token. -/
theorem getRunner_row {env : Surroundings} {table : Sqlc.Runners} {name : RunnerName} {runner : Api.CombinedRunner}
    (answered : (Api.getRunner env table name).body = .combined runner) :
    ∃ row, rowAt Sqlc.Runner.name table.rows name = some row ∧ runner.runner = { row with pat := "" } := by
  unfold Api.getRunner Api.serviceGetRunner at answered
  cases reads : Api.readRow env table .getExisting name with
  | error err =>
      rw [reads] at answered
      cases err <;> cases answered
  | ok row =>
      rw [reads] at answered
      cases answered
      exact ⟨row, readRow_row reads, rfl⟩

/-- The statement of a request, if it gets as far, inserts the row of what has been typed. -/
theorem Sound.createRunner (sound : s.Sound) (env : Surroundings) {payload : Option Api.CreatePayload} {labels : Text}
    (decodes : ∀ input ∈ payload, ",".intercalate input.labels = labelsColumn labels) :
    Sound { s with
      table := (Api.createRunner env s.table payload).2
      saved := Function.update s.saved s.table.nextID [⟨labels, labels⟩] } := by
  have older : ∀ row ∈ s.table.rows,
      row.labels = labelsColumn (standing (Function.update s.saved s.table.nextID [⟨labels, labels⟩] row.id)) := by
    intro row member
    rw [Function.update_of_ne (Nat.ne_of_lt (sound.stored.sound.old row member))]
    exact sound.rows row member
  have stored : (Api.createRunner env s.table payload).2.Stored :=
    (Api.createRunner_writes payload).stored sound.stored
  refine ⟨stored, ?_, sound.shown, sound.forms, sound.sent, sound.editing⟩
  rcases Api.createRunner_cases payload with same | ⟨input, row, table, given, _, _, created, becomes⟩
  · dsimp only
    rw [same]
    exact older
  · have taken : s.table.step (.createRunner env (Api.createParams input)) = some table := by
      simp [Sqlc.Runners.step, created, Except.toOption]
    dsimp only
    rw [becomes]
    cases Sqlc.Runners.step_writes taken with
    | createRunner valid unused is =>
        intro other member
        rcases List.mem_append.mp member with before | own
        · exact older other before
        · rw [List.mem_singleton.mp own, is, Function.update_self, standing_singleton]
          exact decodes input given

/-- An edit writes the column of its text to the row that it has read, or leaves the column there. -/
theorem Sound.edit (sound : s.Sound) {env : Surroundings} {row updated : Sqlc.Runner} {update : SentUpdate}
    (carries : update.Carries) {table : Sqlc.Runners}
    (edited : Api.edit env s.table row update.payload = .ok (updated, table)) :
    Sound { s with table, saved := Function.update s.saved row.id (s.saved row.id ++ [update.save]) } := by
  refine ⟨(Api.edit_writes edited).stored sound.stored, ?_, sound.shown, sound.forms, sound.sent, sound.editing⟩
  -- An input that was empty does not count.
  have stays (empty : update.payload.labels = []) (id : Nat) :
      standing (Function.update s.saved row.id (s.saved row.id ++ [update.save]) id) = standing (s.saved id) := by
    by_cases own : id = row.id
    · rw [own, Function.update_self, standing_append, if_pos (carries.empty.mp empty)]
    · rw [Function.update_of_ne own]
  unfold Api.edit at edited
  split at edited
  · next idle =>
      cases edited
      intro old member
      dsimp only
      rw [stays idle.2.2.2.2]
      exact sound.rows old member
  · have taken : s.table.step (.updateRunner env (Api.updateParams row.id update.payload)) = some table := by
      simp [Sqlc.Runners.step, edited, Except.toOption]
    cases Sqlc.Runners.step_writes taken with
    | updateRunner found =>
        simp only [List.forall_mem_map]
        intro old member
        have before := sound.rows old member
        by_cases empty : update.payload.labels = []
        -- `COALESCE` keeps the column, and the save does not count.
        · rw [stays empty]
          split <;> simpa [Sqlc.Runners.coalesce, Api.updateParams, empty] using before
        · have filled : update.save.field ≠ [] := fun none_ => empty (carries.empty.mpr none_)
          by_cases own : old.id = row.id
          · simp [Sqlc.Runners.coalesce, Api.updateParams, empty, own, filled, carries.column]
          · simpa [Api.updateParams, own] using before

/-- A statement that writes no labels. -/
theorem Sound.write (sound : s.Sound) {write : Sqlc.Write} (issued : write.Issued) {table : Sqlc.Runners}
    (taken : s.table.step write = some table)
    (keeps : ∀ row ∈ table.rows, ∃ old ∈ s.table.rows, old.id = row.id ∧ old.labels = row.labels) :
    Sound { s with table } := by
  refine ⟨.next sound.stored issued taken, ?_, sound.shown, sound.forms, sound.sent, sound.editing⟩
  intro row member
  obtain ⟨old, before, id, labels⟩ := keeps row member
  rw [← labels, ← id]
  exact sound.rows old before

/-- The form of a client, mounted or after an event. -/
theorem Sound.form (sound : s.Sound) (c : ClientID) {form : ConfigForm} {typed : Text}
    (same : labelsColumn form.labels = labelsColumn typed) : Sound { s with forms := s.forms.insert c (form, typed) } :=
  ⟨sound.stored, sound.rows, sound.shown, Map.forall_insert sound.forms same, sound.sent, sound.editing⟩

theorem Sound.step (sound : s.Sound) {event : ConfigEvent} (taken : s.step browser event = some after) :
    after.Sound := by
  cases event with
  | createRunner env page mode drawn repo =>
      cases taken
      exact sound.createRunner env fun input decodes => decoded_create decodes
  | getRunner env name =>
      simp only [Configuring.step] at taken
      split at taken <;> cases taken
      next runner answered =>
        obtain ⟨row, found, same⟩ := getRunner_row answered
        refine ⟨sound.stored, sound.rows, ?_, sound.forms, sound.sent, sound.editing⟩
        intro answer member
        rcases List.mem_append.mp member with before | own
        · exact sound.shown answer before
        · rw [List.mem_singleton.mp own, same]
          exact sound.rows row (rowAt_mem found).1
  | mount c n =>
      obtain ⟨⟨runner, typed⟩, answered, taken⟩ := Option.bind_eq_some_iff.mp taken
      dsimp only at taken
      split at taken <;> cases taken
      apply sound.form c
      have column := sound.shown _ (List.mem_of_getElem? answered)
      dsimp only [ConfigForm.mount] at column ⊢
      rw [column, labelsColumn_again]
  | refresh c n =>
      obtain ⟨⟨form, typed⟩, opened, taken⟩ := Option.bind_eq_some_iff.mp taken
      obtain ⟨⟨runner, other⟩, answered, taken⟩ := Option.bind_eq_some_iff.mp taken
      dsimp only at taken
      split at taken <;> cases taken
      split
      · exact sound.form c (sound.forms c _ opened)
      · exact ⟨sound.stored, sound.rows, sound.shown, Map.forall_erase sound.forms c, sound.sent, sound.editing⟩
  | input c action =>
      obtain ⟨⟨form, typed⟩, opened, taken⟩ := Option.bind_eq_some_iff.mp taken
      dsimp only at taken
      split at taken <;> cases taken
      have before := sound.forms c _ opened
      apply sound.form c
      cases action with
      | setLabels value => rfl
      | setPat | setGroup | setMaxRunners => exact before
  | submit c u =>
      obtain ⟨⟨form, typed⟩, opened, taken⟩ := Option.bind_eq_some_iff.mp taken
      dsimp only at taken
      split at taken <;> cases taken
      have before := sound.forms c _ opened
      have opens : ∀ other entry, (s.forms.insert c ({ form with loading := true }, typed)).lookup other = some entry →
          labelsColumn entry.1.labels = labelsColumn entry.2 := Map.forall_insert sound.forms before
      cases decodes : (form.payload browser).decoded with
      | none => exact ⟨sound.stored, sound.rows, sound.shown, opens, sound.sent, sound.editing⟩
      | some payload =>
          refine ⟨sound.stored, sound.rows, sound.shown, opens, ?_, sound.editing⟩
          obtain ⟨empty, column⟩ := decoded_update decodes
          exact Map.forall_insert sound.sent ⟨empty, column.trans before⟩
  | settled c =>
      obtain ⟨⟨form, typed⟩, opened, same⟩ := Option.map_eq_some_iff.mp taken
      cases same
      exact sound.form c (sound.forms c _ opened)
  | read u env =>
      obtain ⟨update, waits, taken⟩ := Option.bind_eq_some_iff.mp taken
      split at taken
      · split at taken <;> cases taken
        have comes := sound.sent u update waits
        exact ⟨sound.stored, sound.rows, sound.shown, sound.forms, Map.forall_erase sound.sent u,
          Map.forall_insert sound.editing comes⟩
      · cases taken
  | edit u env =>
      obtain ⟨⟨row, update⟩, waits, taken⟩ := Option.bind_eq_some_iff.mp taken
      dsimp only at taken
      split at taken <;> cases taken
      next edited =>
        have later := sound.edit (sound.editing u _ waits) edited
        exact ⟨later.stored, later.rows, later.shown, later.forms, later.sent, Map.forall_erase later.editing u⟩
  | deleteRunner env name =>
      obtain ⟨table, wrote, same⟩ := Option.map_eq_some_iff.mp taken
      cases same
      refine sound.write (by trivial) wrote ?_
      cases Sqlc.Runners.step_writes wrote
      intro row member
      exact ⟨row, List.mem_of_mem_filter member, rfl, rfl⟩
  | incrementJobsCompleted failure name =>
      obtain ⟨table, wrote, same⟩ := Option.map_eq_some_iff.mp taken
      cases same
      refine sound.write (by trivial) wrote ?_
      cases Sqlc.Runners.step_writes wrote
      simp only [List.forall_mem_map]
      intro row member
      refine ⟨row, member, ?_⟩
      split <;> exact ⟨rfl, rfl⟩

theorem reached_sound (reached : Reaches (step browser) (· = new) everyStep s) : s.Sound := by
  apply reached.invariant
  · rintro _ rfl
    exact sound_new
  · intro before event later _ sound _ taken
    exact sound.step taken

/-- An edit with the values of its row changes nothing. -/
theorem edit_same {env : Surroundings} {table after : Sqlc.Runners} {row updated : Sqlc.Runner}
    {input : Api.UpdatePayload} (sound : table.Sound) (member : row ∈ table.rows)
    (same : Sqlc.Runners.coalesce row (Api.updateParams row.id input) = row)
    (edited : Api.edit env table row input = .ok (updated, after)) : after = table := by
  unfold Api.edit at edited
  split at edited
  · cases edited
    rfl
  · have taken : table.step (.updateRunner env (Api.updateParams row.id input)) = some after := by
      simp [Sqlc.Runners.step, edited, Except.toOption]
    cases Sqlc.Runners.step_writes taken with
    | updateRunner found =>
        have kept : ∀ other ∈ table.rows, (if other.id = row.id then
            Sqlc.Runners.coalesce other (Api.updateParams row.id input) else other) = other := by
          intro other there
          split
          · next own =>
              rw [sound.ids.eq there member own]
              exact same
          · rfl
        have rows := List.map_congr_left kept
        rw [List.map_id'] at rows
        cases table
        exact congrArg (Sqlc.Runners.mk · _) rows

/-- An untouched form asks for nothing but the values that its row has. -/
theorem decoded_mount {row : Sqlc.Runner} {runner : Api.CombinedRunner} {labels : Text} {input : Api.UpdatePayload}
    (column : row.labels = labelsColumn labels) (shows : runner.runner = { row with pat := "" })
    (decodes : ((ConfigForm.mount runner).payload browser).decoded = some input) :
    input.pat = "" ∧ (input.maxRunners = 0 ∨ input.maxRunners = row.maxRunners) ∧
      ",".intercalate input.labels = row.labels ∧ (input.runnerGroup = "" ∨ input.runnerGroup = row.runnerGroup) := by
  have again : ",".intercalate input.labels = row.labels := by
    rw [(decoded_update decodes).2, ConfigForm.mount, shows, column, labelsColumn_again]
  have nothing : received [] = "" := by decide
  unfold UpdateRunnerPayload.decoded at decodes
  split at decodes <;> cases decodes
  refine ⟨?_, ?_, again, ?_⟩
  · simp [ConfigForm.payload, ConfigForm.mount, nothing]
  · simp only [ConfigForm.payload, ConfigForm.mount, shows]
    split
    · exact .inr rfl
    · exact .inl rfl
  · simp only [ConfigForm.payload, ConfigForm.mount, shows]
    split
    · exact .inr (received_of row.runnerGroup)
    · exact .inl nothing

theorem coalesce_mount {row : Sqlc.Runner} {runner : Api.CombinedRunner} {labels : Text} {input : Api.UpdatePayload}
    (column : row.labels = labelsColumn labels) (shows : runner.runner = { row with pat := "" })
    (decodes : ((ConfigForm.mount runner).payload browser).decoded = some input) :
    Sqlc.Runners.coalesce row (Api.updateParams row.id input) = row := by
  obtain ⟨pat, limit, again, group⟩ := decoded_mount column shows decodes
  have limits : (Api.updateParams row.id input).maxRunners.getD row.maxRunners = row.maxRunners := by
    rcases limit with none_ | same
    · simp [Api.updateParams, none_]
    · simp only [Api.updateParams, same]
      split <;> rfl
  have texts : (Api.updateParams row.id input).labels.getD row.labels = row.labels := by
    simp only [Api.updateParams, again]
    split <;> rfl
  have groups : (Api.updateParams row.id input).runnerGroup.getD row.runnerGroup = row.runnerGroup := by
    rcases group with none_ | same
    · simp [Api.updateParams, none_]
    · simp only [Api.updateParams, same]
      split <;> rfl
  have token : (Api.updateParams row.id input).pat.getD row.pat = row.pat := by simp [Api.updateParams, pat]
  unfold Sqlc.Runners.coalesce
  rw [token, limits, texts, groups]

/-- In every run the labels of a runner are those of the text that was saved last in an input that was not empty,
through however many forms, and a form that is saved as it has come up leaves the table as it is. -/
theorem labels_kept (browser : Browser) (s : Configuring) (reached : Reaches (step browser) (· = new) everyStep s) :
    (∀ row ∈ s.table.rows, row.labels = labelsColumn (standing (s.saved row.id)) ∧
      registeredLabels row.labels = typedLabels (standing (s.saved row.id))) ∧
    ∀ (env later : Surroundings) (name : RunnerName) (runner : Api.CombinedRunner),
      Api.getRunner env s.table name = ⟨200, .combined runner⟩ →
      (Api.updateRunner later s.table name ((ConfigForm.mount runner).payload browser).decoded).2 = s.table := by
  have sound := reached_sound reached
  constructor
  · intro row member
    have column := sound.rows row member
    exact ⟨column, by rw [column, registeredLabels_column]⟩
  · intro env later name runner answered
    obtain ⟨row, found, shows⟩ := getRunner_row (congrArg Api.Response.body answered)
    rcases Api.updateRunner_cases name ((ConfigForm.mount runner).payload browser).decoded with
      same | ⟨input, other, updated, decodes, reads, edited⟩
    · exact same
    · cases found.symm.trans (readRow_row reads)
      have member := (rowAt_mem found).1
      exact edit_same sound.stored.sound member (coalesce_mount (sound.rows row member) shows decodes) edited

/-- Labels with blanks and a lone surrogate, saved again from a form of another client, and then with an input that
has been emptied, which keeps them. -/
theorem labels_kept_again : ∃ (s : Configuring) (row : Sqlc.Runner), s.table.rows = [row] ∧
    row.labels = "gpu,x\uFFFD" ∧ (s.saved row.id).map Save.field =
      [Text.of "cpu", Text.of " gpu ,x" ++ [0xD800], Text.of "gpu,x\uFFFD", []] ∧
    registeredLabels row.labels = typedLabels (standing (s.saved row.id)) := by
  let page : AddRunner := { AddRunner.initial with field := ⟨Text.of "a", true⟩, labels := Text.of "cpu" }
  let repo : Scope := ⟨⟨Text.of "acme", []⟩, Text.of "h", Text.of "https://h/acme", Text.of "organization"⟩
  let browser : Browser := ⟨default, fun _ => none⟩
  let typed : Text := Text.of " gpu ,x" ++ [0xD800]
  obtain ⟨s, reached, id, labels, fields⟩ : ∃ s, Reaches (step browser) (· = new) everyStep s ∧
      s.table.rows.map Sqlc.Runner.id = [1] ∧ s.table.rows.map Sqlc.Runner.labels = ["gpu,x\uFFFD"] ∧
      (s.saved 1).map Save.field = [Text.of "cpu", typed, Text.of "gpu,x\uFFFD", []] := by
    refine Reaches.of_replay rfl [.createRunner Api.quiet page .standalone [] repo, .getRunner Api.quiet "a",
      .mount 0 0, .input 0 (.setLabels typed), .submit 0 0, .read 0 Api.quiet, .edit 0 Api.quiet,
      .getRunner Api.quiet "a", .mount 1 1, .submit 1 1, .read 1 Api.quiet, .edit 1 Api.quiet, .settled 1,
      .input 1 (.setLabels []), .submit 1 2, .read 2 Api.quiet, .edit 2 Api.quiet] ?_
    decide +kernel
  obtain ⟨row, rows, column⟩ := List.map_eq_singleton_iff.mp labels
  have own : row.id = 1 := by simpa [rows] using id
  have kept := (labels_kept browser s reached).1 row (by simp [rows])
  exact ⟨s, row, rows, column, by rw [own, fields], kept.2⟩

end Configuring

end RunnersMux.Web
