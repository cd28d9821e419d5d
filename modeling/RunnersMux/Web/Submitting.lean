import Mathlib.Data.Fintype.Powerset
import Mathlib.Data.List.DropRight
import RunnersMux.Foundations.FiniteMaps
import RunnersMux.Web.Selecting

/-! The page that adds runners, from its first rendering to what it submits.

A scope may have one runner of each mode. The page knows which ones exist, leaves
those scopes out of a batch and switches a single scope to the mode it still lacks.
The name, the tokens and the selection are what a user has made of them in any
order, with the lists of the server arriving in between.
-/

set_option autoImplicit false

namespace RunnersMux.Web

open Foundations

/-- The values of the two toggle items, and those of the column that the runners' modes come from. -/
inductive Mode where
  | standalone
  | scaleset
  deriving DecidableEq, Repr

instance : Fintype Mode := ⟨{.standalone, .scaleset}, fun mode => by cases mode <;> decide⟩

/-- `OTHER_MODE`. -/
def Mode.other : Mode → Mode
  | .standalone => .scaleset
  | .scaleset => .standalone

def Mode.text : Mode → Text
  | .standalone => Text.of "standalone"
  | .scaleset => Text.of "scaleset"

inductive PatType where
  | classic
  | fineGrained
  deriving DecidableEq, Repr

/-- The fields of a `RunnerStatus` that the page reads. -/
structure ExistingRunner where
  url : Text
  mode : Mode
  deriving DecidableEq

structure PatInput where
  key : Text
  host : Text
  label : Text
  scopeType : Option Text
  deriving DecidableEq

structure AddRunnerPayload where
  name : Text
  mode : Mode
  url : Text
  pat : Option Text
  maxRunners : Option Int
  labels : Option (List Text)
  runnerGroup : Option Text
  deriving DecidableEq

/-- What the page takes from the browser. -/
structure Browser where
  data : CaseData
  /-- `new URL(url).pathname.split("/").filter(Boolean)`; `none` when the constructor throws. -/
  pathParts : Text → Option (List Text)

/-- `WhiteSpace` and `LineTerminator`, which `trim` strips. -/
def isWhite (unit : UInt16) : Bool :=
  (9 ≤ unit && unit ≤ 13) || unit = 0x20 || unit = 0xA0 || unit = 0x1680 || (0x2000 ≤ unit && unit ≤ 0x200A) ||
    unit = 0x2028 || unit = 0x2029 || unit = 0x202F || unit = 0x205F || unit = 0x3000 || unit = 0xFEFF

def trimText (text : Text) : Text := (text.dropWhile isWhite).rdropWhile isWhite

def comma : UInt16 := 44

/-- `labels.split(",").map(l => l.trim())`. -/
def splitLabels (labels : Text) : List Text := (labels.splitOn comma).map trimText

structure AddRunner where
  mode : Mode
  selectedRepos : List Scope
  pats : Map Text Text
  field : NameField
  group : Text
  labels : Text
  maxRunners : Int
  loading : Bool
  patType : PatType
  existingRunners : Option (List ExistingRunner)
  /-- The panel exists while the dialog is open. -/
  dialog : Option SelectorPanel

namespace AddRunner

def initial : AddRunner := ⟨.standalone, [], ∅, .empty, [], [], 0, false, .classic, none, none⟩

section
variable (page : AddRunner)

/-- `scopeModeMap.get(url)`, empty where the map has no entry. -/
def modesOf (url : Text) : Finset Mode :=
  (((page.existingRunners.getD []).filter (·.url = url)).map (·.mode)).toFinset

def isBatch : Bool := 1 < page.selectedRepos.length

def singleRepo : Option Scope :=
  match page.selectedRepos with
  | [r] => some r
  | _ => none

def singleScopeModes : Finset Mode := page.singleRepo.elim ∅ fun r => page.modesOf r.url

def isSingleMaximized : Bool := !page.isBatch && page.singleScopeModes.card = 2

def isSingleModeDisabled : Bool := !page.isBatch && page.mode ∈ page.singleScopeModes && page.singleScopeModes.card < 2

def effectiveMode : Mode := if page.isSingleModeDisabled then page.mode.other else page.mode

def displayMode : Mode := if page.isBatch then page.mode else page.effectiveMode

def ignoredScopes : List Scope :=
  if !page.isBatch then [] else page.selectedRepos.filter fun r => page.mode ∈ page.modesOf r.url

def submitRepos : List Scope :=
  if !page.isBatch then page.selectedRepos else page.selectedRepos.filter fun r => r ∉ page.ignoredScopes

def getPatKey (r : Scope) : Text :=
  match page.patType with
  | .classic => r.host ++ Text.of "/" ++ r.kind
  | .fineGrained => r.host ++ Text.of "/" ++ r.owner

def patInput (r : Scope) : PatInput :=
  match page.patType with
  | .classic =>
      let scopeLabel := if r.kind = Text.of "organization" then "Organization" else "Repository"
      ⟨page.getPatKey r, r.host, r.host ++ Text.of (" (" ++ scopeLabel ++ " scopes)"), some r.kind⟩
  | .fineGrained => ⟨page.getPatKey r, r.host, r.owner ++ Text.of " (" ++ r.host ++ Text.of ")", none⟩

/-- The loop of `patInputs`, with the keys it has seen. -/
def collectInputs : (seen : Finset Text) → List Scope → List PatInput
  | _, [] => []
  | seen, r :: rest =>
      if page.getPatKey r ∈ seen then collectInputs seen rest
      else page.patInput r :: collectInputs (insert (page.getPatKey r) seen) rest

def patInputs : List PatInput := page.collectInputs ∅ page.selectedRepos

def someOrgScope : Bool := page.selectedRepos.any fun r => r.repo = []

def nameBase (browser : Browser) : Option Text :=
  page.singleRepo.bind fun r => (browser.pathParts r.url).bind fun parts =>
    match parts with
    | [] => none
    | [owner] => some (sanitizeName browser.data owner)
    | owner :: repo :: _ => some (sanitizeName browser.data (owner ++ dash :: repo))

def isNameInvalid : Bool := page.field.isNameInvalid page.isBatch

/-- The submit button, without which a form is not submitted either way. -/
def enabled : Bool :=
  !(page.loading || page.selectedRepos.isEmpty || page.isNameInvalid || page.isSingleMaximized ||
    (page.isBatch && page.submitRepos.isEmpty))

def payload (browser : Browser) (submitMode : Mode) (drawn : List (Fin 36)) (repo : Scope) : AddRunnerPayload where
  name := page.field.runnerName browser.data page.isBatch repo.toAdminRepo drawn
  mode := submitMode
  url := repo.url
  pat := if submitMode = .scaleset then page.pats.lookup (page.getPatKey repo) else none
  maxRunners := if 0 < page.maxRunners then some page.maxRunners else none
  labels := if page.labels ≠ [] then some (splitLabels page.labels) else none
  runnerGroup := if repo.repo = [] ∧ page.group ≠ [] then some page.group else none

/-- The tokens that are still to be entered. -/
def missingPat (submitMode : Mode) : Option PatInput :=
  if submitMode = .scaleset then page.patInputs.find? fun input => (page.pats.lookup input.key).getD [] = [] else none

end

/-- What a submission shows, and the requests it makes if it gets as far. -/
structure Submission where
  toasts : List Text
  requests : Option (List AddRunnerPayload)

/-- `handleSubmit` up to its requests; the numbers that `generateName` draws are given by their positions. -/
def handleSubmit (page : AddRunner) (browser : Browser) (draws : Nat → List (Fin 36)) : Submission :=
  if page.selectedRepos = [] then ⟨[Text.of "Please select at least one repository or organization"], none⟩
  else if page.isSingleMaximized then
    ⟨[Text.of "This scope already has both standalone and scaleset runners — remove one first"], none⟩
  else if page.isBatch ∧ 0 < page.ignoredScopes.length ∧ page.submitRepos = [] then
    ⟨[Text.of ("All " ++ page.selectedRepos.length.repr ++ " scopes already have a ") ++ page.mode.text ++
      Text.of " runner — nothing to add"], none⟩
  else
    let ignored := if page.isBatch ∧ 0 < page.ignoredScopes.length then
      [Text.of (page.ignoredScopes.length.repr ++ " scope(s) ignored (already have ") ++ page.mode.text ++ Text.of ")"]
      else []
    let submitMode := if page.isBatch then page.mode else page.effectiveMode
    let reposToSubmit := if page.isBatch then page.submitRepos else page.selectedRepos
    match page.missingPat submitMode with
    | some input => ⟨ignored ++ [Text.of "PAT is required for " ++ input.label], none⟩
    | none => ⟨ignored, some (reposToSubmit.mapIdx fun i repo => page.payload browser submitMode (draws i) repo)⟩

inductive PageAction where
  | openDialog (cached : Option (List Scope))
  | select (action : SelectorAction)
  | confirm
  | cancel
  | fetched (runners : List ExistingRunner)
  | setMode (mode : Mode)
  | setPatType (patType : PatType)
  | setPat (key value : Text)
  | name (action : NameAction)
  | setGroup (value : Text)
  | setLabels (value : Text)
  | setMaxRunners (value : Int)
  | submit (draws : Nat → List (Fin 36))
  /-- All requests have been answered. -/
  | settled

/-- Whether the input or the button of a name action is there. -/
def offers (page : AddRunner) (browser : Browser) : NameAction → Bool
  | .change _ => !(page.isBatch || page.selectedRepos.isEmpty)
  | .resetToAuto => !page.isBatch && page.field.nameManuallyEdited && ((page.nameBase browser).getD []).length ≠ 0
  | .fixFormat => page.isNameInvalid

/-- One event of the page; `none` for an input that is not there or disabled. -/
def step (browser : Browser) (page : AddRunner) : PageAction → Option AddRunner
  | .openDialog cached =>
      if page.dialog.isNone then some { page with dialog := some (.mount page.selectedRepos cached) } else none
  | .select action =>
      page.dialog.bind fun panel => (panel.step browser.data action).map fun after => { page with dialog := some after }
  | .confirm =>
      page.dialog.bind fun panel =>
        if panel.rightPanel = [] then none else some { page with selectedRepos := panel.rightPanel, dialog := none }
  | .cancel => page.dialog.map fun _ => { page with dialog := none }
  | .fetched runners => some { page with existingRunners := some runners }
  | .setMode mode =>
      if !page.isBatch && mode ∈ page.singleScopeModes then none else some { page with mode }
  | .setPatType patType => if page.displayMode = .scaleset then some { page with patType } else none
  | .setPat key value =>
      if page.displayMode = .scaleset ∧ page.patInputs.any (·.key = key) then
        some { page with pats := page.pats.insert key value }
      else none
  | .name action =>
      if page.offers browser action then some { page with field := page.field.apply browser.data action } else none
  | .setGroup value => if page.someOrgScope then some { page with group := value } else none
  | .setLabels value => some { page with labels := value }
  | .setMaxRunners value => if page.displayMode = .scaleset then some { page with maxRunners := value } else none
  | .submit draws =>
      if page.enabled then some { page with loading := (page.handleSubmit browser draws).requests.isSome } else none
  | .settled => if page.loading then some { page with loading := false } else none

/-- The selection and the panel are listed, and a name in the field has been typed. -/
structure Sound (served : Scope → Prop) (page : AddRunner) : Prop where
  selected : Listed served page.selectedRepos
  panel : ∀ panel ∈ page.dialog, panel.Sound served
  typed : page.field.Typed

/-- The lists of repositories that arrive are ones that the server makes. -/
def Answers (served : Scope → Prop) (_ : AddRunner) : PageAction → Prop
  | .openDialog cached => Listed served (cached.getD [])
  | .select action => SelectorPanel.Answers served action
  | _ => True

instance (served : Scope → Prop) [DecidablePred served] (page : AddRunner) : DecidablePred (Answers served page)
  | .openDialog cached => inferInstanceAs (Decidable (Listed served (cached.getD [])))
  | .select action => inferInstanceAs (Decidable (SelectorPanel.Answers served action))
  | .confirm | .cancel | .fetched _ | .setMode _ | .setPatType _ | .setPat _ _ | .name _ | .setGroup _ | .setLabels _
  | .setMaxRunners _ | .submit _ | .settled => .isTrue trivial

section
variable {browser : Browser} {served : Scope → Prop} {page after : AddRunner}

theorem sound_initial : initial.Sound served where
  selected := ⟨List.nodup_nil, nofun⟩
  panel := nofun
  typed := fun some_ => absurd rfl some_

/-- Every event keeps the page sound. -/
theorem sound_step {action : PageAction} (sound : page.Sound served) (answers : Answers served page action)
    (taken : page.step browser action = some after) : after.Sound served := by
  cases action with
  | openDialog cached =>
      simp only [step] at taken
      split at taken <;> cases taken
      refine ⟨sound.selected, ?_, sound.typed⟩
      rintro panel ⟨⟩
      exact ⟨answers, sound.selected⟩
  | select action =>
      obtain ⟨panel, opened, moved⟩ := Option.bind_eq_some_iff.mp taken
      obtain ⟨further, stepped, same⟩ := Option.map_eq_some_iff.mp moved
      cases same
      refine ⟨sound.selected, ?_, sound.typed⟩
      rintro panel ⟨⟩
      exact SelectorPanel.sound_step (sound.panel _ opened) answers stepped
  | confirm =>
      obtain ⟨panel, opened, confirmed⟩ := Option.bind_eq_some_iff.mp taken
      split at confirmed <;> cases confirmed
      exact ⟨(sound.panel panel opened).right, nofun, sound.typed⟩
  | cancel =>
      obtain ⟨panel, opened, same⟩ := Option.map_eq_some_iff.mp taken
      cases same
      exact ⟨sound.selected, nofun, sound.typed⟩
  | name action =>
      simp only [step] at taken
      split at taken <;> cases taken
      exact ⟨sound.selected, sound.panel, NameField.typed_apply browser.data sound.typed action⟩
  | fetched | setLabels =>
      cases taken
      exact ⟨sound.selected, sound.panel, sound.typed⟩
  | setMode | setPatType | setPat | setGroup | setMaxRunners | submit | settled =>
      simp only [step] at taken
      split at taken <;> cases taken
      exact ⟨sound.selected, sound.panel, sound.typed⟩

/-- Every selected scope has an input for its token. -/
theorem mem_collectInputs (seen : Finset Text) {scopes : List Scope} {r : Scope} (member : r ∈ scopes) :
    page.getPatKey r ∈ seen ∨ ∃ input ∈ page.collectInputs seen scopes, input.key = page.getPatKey r := by
  induction scopes generalizing seen with
  | nil => cases member
  | cons first rest ih =>
      unfold collectInputs
      split
      · next before =>
          rcases List.mem_cons.mp member with rfl | later
          · exact .inl before
          · exact ih seen later
      · next fresh =>
          have own : (page.patInput first).key = page.getPatKey first := by
            unfold patInput
            split <;> rfl
          rcases List.mem_cons.mp member with rfl | later
          · exact .inr ⟨_, List.mem_cons_self, own⟩
          · rcases ih (insert (page.getPatKey first) seen) later with before | ⟨input, there, key⟩
            · rcases Finset.mem_insert.mp before with same | before
              · exact .inr ⟨_, List.mem_cons_self, own.trans same.symm⟩
              · exact .inl before
            · exact .inr ⟨input, List.mem_cons_of_mem _ there, key⟩

/-- The token that goes out for a scope is the one that stands in the input of its key. -/
theorem pats_entered (entered : page.missingPat .scaleset = none) {r : Scope} (member : r ∈ page.selectedRepos) :
    ∃ pat, pat ≠ [] ∧ page.pats.lookup (page.getPatKey r) = some pat := by
  rcases page.mem_collectInputs ∅ member with none_ | ⟨input, there, key⟩
  · cases none_
  · have filled := List.find?_eq_none.mp entered input there
    rw [key] at filled
    cases found : page.pats.lookup (page.getPatKey r) with
    | none => simp [found] at filled
    | some pat => exact ⟨pat, by simpa [found] using filled, rfl⟩

/-- A single scope that still lacks a mode is put into it. -/
theorem effective_free : ∀ (modes : Finset Mode) (mode : Mode), modes.card ≠ 2 →
    (if mode ∈ modes ∧ modes.card < 2 then mode.other else mode) ∉ modes := by
  decide

theorem modesOf_iff {url : Text} {mode : Mode} :
    mode ∈ page.modesOf url ↔ ∃ runner ∈ page.existingRunners.getD [], runner.url = url ∧ runner.mode = mode := by
  simp [modesOf, and_assoc]

/-- The selected scopes without a runner of a mode. -/
def lacking (page : AddRunner) (mode : Mode) : List Scope :=
  page.selectedRepos.filter fun r => mode ∉ page.modesOf r.url

/-- Either way of submitting goes through the selected scopes that lack the mode. -/
theorem lacking_submitted (some_ : page.selectedRepos ≠ []) (room : page.isSingleMaximized = false) :
    (if page.isBatch then page.submitRepos else page.selectedRepos) =
      page.lacking (if page.isBatch then page.mode else page.effectiveMode) := by
  by_cases batch : page.isBatch = true
  · simp only [batch, if_true, submitRepos, ignoredScopes, lacking, Bool.not_true, Bool.false_eq_true, if_false]
    apply List.filter_congr
    intro r member
    simp [List.mem_filter, member]
  · simp only [batch, Bool.false_eq_true, if_false]
    obtain ⟨r, only⟩ : ∃ r, page.selectedRepos = [r] := by
      apply List.length_eq_one_iff.mp
      have positive := List.length_pos_of_ne_nil some_
      have few : ¬1 < page.selectedRepos.length := by simpa [isBatch] using batch
      omega
    have modes : page.singleScopeModes = page.modesOf r.url := by simp [singleScopeModes, singleRepo, only]
    have free := effective_free (page.modesOf r.url) page.mode (by simpa [isSingleMaximized, batch, modes] using room)
    have lacks : page.effectiveMode ∉ page.modesOf r.url := by
      simpa [effectiveMode, isSingleModeDisabled, batch, modes] using free
    simp [lacking, only, lacks]

/-- What a request asks for on behalf of a scope. -/
structure Asks (served : Scope → Prop) (page : AddRunner) (mode : Mode) (r : Scope) (q : AddRunnerPayload) : Prop where
  known : served r
  url_eq : q.url = r.url
  mode_eq : q.mode = mode
  fresh : ∀ runner ∈ page.existingRunners.getD [], ¬(runner.url = q.url ∧ runner.mode = q.mode)
  name : isValidName q.name = true ∧ System.nameable (received q.name)
  without : mode = .standalone → q.pat = none
  token : mode = .scaleset → ∃ pat, pat ≠ [] ∧ page.pats.lookup (page.getPatKey r) = some pat ∧ q.pat = some pat
  limit : ∀ n ∈ q.maxRunners, 0 < n
  group : ∀ name ∈ q.runnerGroup, name ≠ [] ∧ r.repo = []

theorem asks_payload (sound : page.Sound served) (named : page.isNameInvalid = false) {mode : Mode}
    (entered : page.missingPat mode = none) {r : Scope} (lacks : r ∈ page.lacking mode) (drawn : List (Fin 36)) :
    Asks served page mode r (page.payload browser mode drawn r) := by
  obtain ⟨member, free⟩ := List.mem_filter.mp lacks
  have valid : isValidName (page.payload browser mode drawn r).name = true :=
    NameField.valid_runnerName sound.typed named r.toAdminRepo drawn
  constructor
  · exact sound.selected.known r member
  · rfl
  · rfl
  · rintro runner there ⟨url, same⟩
    exact of_decide_eq_true free (modesOf_iff.mpr ⟨runner, there, url, same⟩)
  · exact ⟨valid, nameable_received valid⟩
  · rintro rfl
    rfl
  · rintro rfl
    obtain ⟨pat, some_, found⟩ := pats_entered entered member
    exact ⟨pat, some_, found, found⟩
  · simp [payload]
  · simp only [payload]
    intro name is
    split at is
    · next org =>
        cases is
        exact ⟨org.2, org.1⟩
    · cases is

/-- The requests of a submission, one for each scope in its turn. -/
theorem submits_lacking (sound : page.Sound served) (enabled : page.enabled = true) {draws : Nat → List (Fin 36)}
    {requests : List AddRunnerPayload} (submits : (page.handleSubmit browser draws).requests = some requests) :
    ∃ mode, page.lacking mode ≠ [] ∧ List.Forall₂ (Asks served page mode) (page.lacking mode) requests := by
  simp only [AddRunner.enabled, Bool.not_eq_true', Bool.or_eq_false_iff, List.isEmpty_eq_false_iff] at enabled
  obtain ⟨⟨⟨⟨_, some_⟩, named⟩, room⟩, rest⟩ := enabled
  have all := lacking_submitted some_ room
  have none_ : ¬(page.isBatch = true ∧ 0 < page.ignoredScopes.length ∧ page.submitRepos = []) := by
    rintro ⟨batch, _, empty⟩
    simp [batch, empty] at rest
  simp only [handleSubmit, some_, room, none_, if_false, Bool.false_eq_true] at submits
  generalize (if page.isBatch = true then page.mode else page.effectiveMode) = mode at submits all
  rw [all] at submits
  split at submits
  · cases submits
  · next entered =>
      cases submits
      refine ⟨mode, ?_, ?_⟩
      · rw [← all]
        split
        · next batch => simpa [batch] using rest
        · exact some_
      · rw [List.forall₂_iff_get]
        refine ⟨by simp, ?_⟩
        intro i here there
        simp only [List.get_eq_getElem, List.getElem_mapIdx]
        exact asks_payload sound named entered (List.getElem_mem here) (draws i)

theorem urls_asked {mode : Mode} {scopes : List Scope} {requests : List AddRunnerPayload}
    (asks : List.Forall₂ (Asks served page mode) scopes requests) : requests.map (·.url) = scopes.map (·.url) := by
  induction asks with
  | nil => rfl
  | cons own _ ih => simp [own.url_eq, ih]

/-- Nothing is asked for but on behalf of a scope. -/
theorem asks_some {mode : Mode} {scopes : List Scope} {requests : List AddRunnerPayload} {q : AddRunnerPayload}
    (asks : List.Forall₂ (Asks served page mode) scopes requests) (asked : q ∈ requests) :
    ∃ r, Asks served page mode r q := by
  induction asks with
  | nil => cases asked
  | @cons r first _ _ own _ ih =>
      rcases List.mem_cons.mp asked with rfl | later
      · exact ⟨r, own⟩
      · exact ih later

theorem reached_sound (reached : Reaches (step browser) (· = initial) (Answers served) page) : page.Sound served := by
  apply reached.invariant
  · rintro _ rfl
    exact sound_initial
  · intro before action later _ sound answers taken
    exact sound_step sound answers taken

theorem lacking_urls (sound : page.Sound served)
    (address : ∀ r s, served r → served s → r.url = s.url → repoKey r = repoKey s) (mode : Mode) :
    ((page.lacking mode).map (·.url)).Nodup := by
  have listed : Listed served (page.lacking mode) := sound.selected.filter _
  apply List.Nodup.map_on _ (List.Nodup.of_map repoKey listed.keyed)
  intro r one s other same
  exact listed.keyed.eq one other (address r s (listed.known r one) (listed.known s other) same)

end

/-- Whatever the user and the server have done to the page, a submission asks once for every selected
scope that lacks a runner of its mode, under a name that Docker takes and with the scope's own token. -/
theorem submits_well (browser : Browser) (served : Scope → Prop)
    (address : ∀ r s, served r → served s → r.url = s.url → repoKey r = repoKey s) (page : AddRunner)
    (reached : Reaches (step browser) (· = initial) (Answers served) page) (enabled : page.enabled = true)
    (draws : Nat → List (Fin 36)) (requests : List AddRunnerPayload)
    (submits : (page.handleSubmit browser draws).requests = some requests) :
    ∃ mode, page.lacking mode ≠ [] ∧ List.Forall₂ (Asks served page mode) (page.lacking mode) requests ∧
      (requests.map (·.url)).Nodup := by
  have sound := reached_sound reached
  obtain ⟨mode, some_, asks⟩ := submits_lacking sound enabled submits
  refine ⟨mode, some_, asks, ?_⟩
  rw [urls_asked asks]
  exact lacking_urls sound address mode

/-- Two scopes are selected of which the one has a standalone runner: the other is submitted. -/
theorem submits_well_batch : ∃ (page : AddRunner) (requests : List AddRunnerPayload) (mode : Mode),
    page.selectedRepos.length = 2 ∧ requests.length = 1 ∧ (requests.map (·.url)).Nodup ∧ page.lacking mode ≠ [] := by
  let acme : Scope := ⟨⟨Text.of "acme", []⟩, Text.of "h", Text.of "https://h/acme", Text.of "organization"⟩
  let tool : Scope := ⟨⟨Text.of "acme", Text.of "tool"⟩, Text.of "h", Text.of "https://h/acme/tool",
    Text.of "repository"⟩
  let browser : Browser := ⟨default, fun _ => none⟩
  obtain ⟨page, reached, enabled, both, one⟩ : ∃ page, Reaches (step browser) (· = initial)
    (Answers (· ∈ [acme, tool])) page ∧
      page.enabled = true ∧ page.selectedRepos.length = 2 ∧
      ((page.handleSubmit browser fun _ => []).requests.map List.length) = some 1 := by
    refine Reaches.of_replay rfl [.openDialog (some [acme, tool]), .select (.toggleLeft (repoKey acme)),
      .select (.toggleLeft (repoKey tool)), .select .moveRight, .confirm, .fetched [⟨acme.url, .standalone⟩]] ?_
    decide +kernel
  obtain ⟨requests, submits, length⟩ := Option.map_eq_some_iff.mp one
  have address : ∀ r s, r ∈ [acme, tool] → s ∈ [acme, tool] → r.url = s.url → repoKey r = repoKey s := by
    have table : ∀ r ∈ [acme, tool], ∀ s ∈ [acme, tool], r.url = s.url → repoKey r = repoKey s := by decide +kernel
    exact fun r s first second => table r first s second
  obtain ⟨mode, some_, _, distinct⟩ := submits_well browser (· ∈ [acme, tool]) address page reached enabled _ requests
    submits
  exact ⟨page, requests, mode, both, length, distinct, some_⟩

end AddRunner

end RunnersMux.Web
