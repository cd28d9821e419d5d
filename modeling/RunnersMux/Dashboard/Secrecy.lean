import RunnersMux.Dashboard.Responses

/-! Responses do not depend on the values of tokens that GitHub takes alike.

A row is masked by putting one token in the place of all those that its client
answers alike. Every operation of the table commutes with masking, and what is
embedded in a response has no token at all.
-/

set_option autoImplicit false

namespace RunnersMux

open Foundations

/-- A choice of one token for many, and of no token for none. -/
class Masking where
  mask : String → String
  mask_empty : ∀ pat, mask pat = "" ↔ pat = ""

export Masking (mask)

@[simp] theorem mask_eq_empty [Masking] (pat : String) : mask pat = "" ↔ pat = "" := Masking.mask_empty pat

/-- Tokens that are taken for the same have one mask. -/
def Masks [Masking] (Same : String → String → Prop) : Prop := ∀ first second, Same first second → mask first = mask second

/-- Two tokens that the run of some requests cannot tell apart: there is none of either, or the
client answers alike for both. -/
def Interchangeable (met : List Surroundings) (first second : String) : Prop :=
  (first = "" ↔ second = "") ∧ ∀ env ∈ met, ∀ url, env.newClient url first = env.newClient url second

/-- Two tokens, or none. -/
def BothGiven (first second : String) : Prop := first = "" ↔ second = ""

namespace Sqlc

/-- The same row, perhaps with another token. -/
def Runner.Alike (Same : String → String → Prop) (first second : Runner) : Prop :=
  { second with pat := first.pat } = first ∧ Same first.pat second.pat

def Runners.Alike (Same : String → String → Prop) (first second : Runners) : Prop :=
  List.Forall₂ (Runner.Alike Same) first.rows second.rows ∧ first.nextID = second.nextID

section
variable [Masking]

def Runner.masked (row : Runner) : Runner := { row with pat := mask row.pat }

theorem Runner.Alike.masked {Same : String → String → Prop} (masks : Masks Same)
    {first second : Runner} (alike : first.Alike Same second) : first.masked = second.masked := by
  obtain ⟨same, token⟩ := alike
  rw [← same]
  simp only [Runner.masked, masks _ _ token]

def CreateRunnerParams.masked (params : CreateRunnerParams) : CreateRunnerParams := { params with pat := mask params.pat }

def UpdateRunnerParams.masked (params : UpdateRunnerParams) : UpdateRunnerParams := { params with pat := params.pat.map mask }

namespace Runners

def masked (table : Runners) : Runners := { table with rows := table.rows.map Runner.masked }

theorem Alike.masked {Same : String → String → Prop} (masks : Masks Same)
    {first second : Runners} (alike : first.Alike Same second) : first.masked = second.masked := by
  obtain ⟨first, firstID⟩ := first
  obtain ⟨second, secondID⟩ := second
  obtain ⟨rows, same⟩ := alike
  simp only at rows same
  have masked : first.map Runner.masked = second.map Runner.masked := by
    induction rows with
    | nil => rfl
    | cons row rest ih => simp only [List.map_cons, row.masked masks, ih]
  simp only [Runners.masked, masked, same]

variable (env : Surroundings) (table : Runners)

theorem listRunners_masked :
    table.masked.listRunners env = (table.listRunners env).map (List.map Runner.masked) := by
  unfold listRunners
  cases env.failure .listRunners with
  | some err => rfl
  | none =>
      simp only [masked, Except.map]
      rw [List.map_mergeSort]
      intros
      rfl

theorem find_masked (found : Runner → Bool) (blind : ∀ row : Runner, found row.masked = found row) :
    table.masked.rows.find? found = (table.rows.find? found).map Runner.masked := by
  have same : found ∘ Runner.masked = found := funext blind
  simp only [masked, List.find?_map, same]

theorem getRunnerByName_masked (statement : Statement) (name : RunnerName) :
    table.masked.getRunnerByName env statement name = (table.getRunnerByName env statement name).map Runner.masked := by
  unfold getRunnerByName
  cases env.failure statement with
  | some err => rfl
  | none =>
      simp only [find_masked table (fun row => row.name = name) fun _ => rfl]
      cases table.rows.find? fun row => row.name = name <;> rfl

theorem createRunner_masked (params : CreateRunnerParams) :
    table.masked.createRunner env params.masked =
      (table.createRunner env params).map fun made => (made.1.masked, made.2.masked) := by
  unfold createRunner
  cases env.failure .createRunner with
  | some err => rfl
  | none =>
      have taken : (table.masked.rows.any fun row => row.name = params.masked.name) =
          table.rows.any fun row => row.name = params.name := by
        simp only [masked, List.any_map]
        rfl
      have mode : params.masked.mode = params.mode := rfl
      simp only [taken, mode]
      by_cases known : params.mode = "standalone" ∨ params.mode = "scaleset"
      · cases table.rows.any fun row => row.name = params.name with
        | true => simp only [known, not_true_eq_false, if_false, if_true, Except.map]
        | false => simp [known, masked, Runner.masked, CreateRunnerParams.masked, Except.map]
      · simp only [known, not_false_eq_true, if_true, Except.map]

theorem coalesce_masked (row : Runner) (params : UpdateRunnerParams) :
    coalesce row.masked params.masked = (coalesce row params).masked := by
  cases given : params.pat <;> simp [coalesce, Runner.masked, UpdateRunnerParams.masked, given]

theorem updateRunner_masked (params : UpdateRunnerParams) :
    table.masked.updateRunner env params.masked =
      (table.updateRunner env params).map fun made => (made.1.masked, made.2.masked) := by
  unfold updateRunner
  cases env.failure .updateRunner with
  | some err => rfl
  | none =>
      have id : params.masked.id = params.id := rfl
      simp only [id, find_masked table (fun row => row.id = params.id) fun _ => rfl]
      cases table.rows.find? fun row => row.id = params.id with
      | none => rfl
      | some row =>
          have rows : (fun row => if row.id = params.id then coalesce row params.masked else row) ∘ Runner.masked =
              Runner.masked ∘ fun row => if row.id = params.id then coalesce row params else row := by
            funext row
            simp only [Function.comp_apply, coalesce_masked]
            by_cases own : row.id = params.id <;> simp [own, Runner.masked]
          simp only [Option.map_some, coalesce_masked, masked, List.map_map, rows, Except.map]

theorem deleteRunnerByName_masked (name : RunnerName) :
    table.masked.deleteRunnerByName env name = (table.deleteRunnerByName env name).map Runners.masked := by
  unfold deleteRunnerByName
  cases env.failure .deleteRunnerByName with
  | some err => rfl
  | none =>
      simp only [masked, List.filter_map, Except.map]
      rfl

end Runners

end

end Sqlc

/-- The client takes a token for the one that masks it. -/
def Surroundings.Blind [Masking] (env : Surroundings) : Prop :=
  ∀ url pat, env.newClient url (mask pat) = env.newClient url pat

/-- The errors of the clients do not contain the token that they are made with. -/
def Surroundings.Discreet (env : Surroundings) : Prop :=
  ∀ url pat, pat ≠ "" → (∀ err, env.newClient url pat = .error err → contains err pat = false) ∧
    ∀ client, env.newClient url pat = .ok client → ∀ err, client.Errs err → contains err pat = false

namespace Api

open Sqlc (Runner)

/-- The same payload, perhaps with another token. -/
def CreatePayload.Alike (Same : String → String → Prop) (first second : CreatePayload) : Prop :=
  { second with pat := first.pat } = first ∧ Same first.pat second.pat

def UpdatePayload.Alike (Same : String → String → Prop) (first second : UpdatePayload) : Prop :=
  { second with pat := first.pat } = first ∧ Same first.pat second.pat

inductive Request.Alike (Same : String → String → Prop) : Request → Request → Prop where
  | same (request : Request) : Alike Same request request
  | create {first second : CreatePayload} (alike : first.Alike Same second) :
      Alike Same (.createRunner (some first)) (.createRunner (some second))
  | update (name : RunnerName) {first second : UpdatePayload} (alike : first.Alike Same second) :
      Alike Same (.updateRunner name (some first)) (.updateRunner name (some second))

/-- The requests of two runs, which meet the same and differ in tokens. -/
def Paired (Same : String → String → Prop) (served other : Surroundings × Request) : Prop :=
  served.1 = other.1 ∧ served.2.Alike Same other.2

section
variable [Masking] {Same : String → String → Prop}

def CreatePayload.masked (payload : CreatePayload) : CreatePayload := { payload with pat := mask payload.pat }

def UpdatePayload.masked (payload : UpdatePayload) : UpdatePayload := { payload with pat := mask payload.pat }

theorem CreatePayload.Alike.masked (masks : Masks Same) {first second : CreatePayload} (alike : first.Alike Same second) :
    first.masked = second.masked := by
  obtain ⟨same, token⟩ := alike
  rw [← same]
  simp only [CreatePayload.masked, masks _ _ token]

theorem UpdatePayload.Alike.masked (masks : Masks Same) {first second : UpdatePayload} (alike : first.Alike Same second) :
    first.masked = second.masked := by
  obtain ⟨same, token⟩ := alike
  rw [← same]
  simp only [UpdatePayload.masked, masks _ _ token]

def Request.masked : Request → Request
  | .createRunner payload => .createRunner (payload.map CreatePayload.masked)
  | .updateRunner name payload => .updateRunner name (payload.map UpdatePayload.masked)
  | request => request

theorem Request.Alike.masked (masks : Masks Same) {first second : Request} (alike : first.Alike Same second) :
    first.masked = second.masked := by
  cases alike with
  | same => rfl
  | create alike => simp only [Request.masked, Option.map_some, alike.masked masks]
  | update name alike => simp only [Request.masked, Option.map_some, alike.masked masks]

variable (env : Surroundings) (table : Sqlc.Runners)

theorem combine_masked (row : Runner) (status : Option RunnerStatus) :
    combine env row.masked status = combine env row status := by
  have registered : isRegistered env row.masked = isRegistered env row := rfl
  have hasPat : (row.masked.pat ≠ "") = (row.pat ≠ "") := by simp [Runner.masked]
  simp only [combine, registered, hasPat]
  rfl

theorem readRow_masked (statement : Sqlc.Statement) (name : RunnerName) :
    readRow env table.masked statement name = (readRow env table statement name).map Runner.masked := by
  unfold readRow
  rw [Sqlc.Runners.getRunnerByName_masked]
  cases table.getRunnerByName env statement name <;> rfl

theorem serviceGetRunner_masked (name : RunnerName) :
    serviceGetRunner env table.masked name = serviceGetRunner env table name := by
  unfold serviceGetRunner
  rw [readRow_masked]
  cases readRow env table .getExisting name with
  | error err => rfl
  | ok row => simp only [Except.map, combine_masked]

variable {env}

theorem scaleSetOf_masked (client : ScaleSetClient) (row : Runner) :
    scaleSetOf client row.masked = scaleSetOf client row := rfl

theorem runListener_masked (blind : env.Blind) (row : Runner) (maxWorkers : Int) :
    runListener row.masked env.newClient maxWorkers = runListener row env.newClient maxWorkers := by
  have client : env.newClient row.masked.url row.masked.pat = env.newClient row.url row.pat := blind row.url row.pat
  simp only [runListener, client, scaleSetOf_masked]
  rfl

theorem initialized_masked (codec : MetaCodec) (image : Image) (row : Runner) (token : String) (files : Contents)
    (answers : Nat → Ran) (calls : Nat) :
    initialized codec image row.masked token files answers calls = initialized codec image row token files answers calls := by
  induction calls with
  | zero => rfl
  | succ calls ih =>
      simp only [initialized, ih]
      rfl

theorem launchStandalone_masked (row : Runner) (token : String) :
    launchStandalone env row.masked token = launchStandalone env row token := by
  simp only [launchStandalone, environmentError, initialized_masked]
  rfl

theorem addRunner_masked (blind : env.Blind) (row : Runner) (token : String) :
    addRunner env row.masked token = addRunner env row token := by
  simp only [addRunner, launchScaleSet, launchStandalone_masked, runListener_masked blind]
  rfl

theorem serviceCreateRunner_masked (blind : env.Blind) (params : Sqlc.CreateRunnerParams) (regToken : String) :
    serviceCreateRunner env table.masked params.masked regToken =
      ((serviceCreateRunner env table params regToken).1, (serviceCreateRunner env table params regToken).2.masked) := by
  unfold serviceCreateRunner
  rw [Sqlc.Runners.createRunner_masked]
  cases table.createRunner env params with
  | error err => rfl
  | ok made =>
      simp only [Except.map, addRunner_masked blind]
      cases addRunner env made.1 regToken <;> rfl

theorem updateParams_masked (row : Runner) (input : UpdatePayload) :
    updateParams row.masked.id input.masked = (updateParams row.id input).masked := by
  have given : (if mask input.pat ≠ "" then some (mask input.pat) else none) =
      (if input.pat ≠ "" then some input.pat else none).map mask := by
    by_cases empty : input.pat = "" <;> simp [empty]
  simp only [updateParams, Sqlc.UpdateRunnerParams.masked, ← given]
  rfl

theorem edit_masked (row : Runner) (input : UpdatePayload) :
    edit env table.masked row.masked input.masked =
      (edit env table row input).map fun made => (made.1.masked, made.2.masked) := by
  have registered : isRegistered env row.masked = isRegistered env row := rfl
  have given : input.masked.pat = "" ↔ input.pat = "" := mask_eq_empty input.pat
  have others : (input.masked.maxRunners = input.maxRunners ∧ input.masked.runnerGroup = input.runnerGroup) ∧
      input.masked.labels = input.labels := ⟨⟨rfl, rfl⟩, rfl⟩
  unfold edit
  simp only [registered, given, others, updateParams_masked, Sqlc.Runners.updateRunner_masked]
  split <;> rfl

theorem serviceUpdateRunner_masked (blind : env.Blind) (name : RunnerName) (input : UpdatePayload) (regToken : String) :
    serviceUpdateRunner env table.masked name input.masked regToken =
      ((serviceUpdateRunner env table name input regToken).1,
        (serviceUpdateRunner env table name input regToken).2.masked) := by
  unfold serviceUpdateRunner
  rw [readRow_masked]
  cases readRow env table .getRunnerByName name with
  | error err => rfl
  | ok row =>
      simp only [Except.map]
      cases (getRunnerStatus env name).filter fun status => !editable status.state with
      | some status => rfl
      | none =>
          simp only [edit_masked]
          cases edit env table row input with
          | error err => rfl
          | ok made =>
              simp only [Except.map, addRunner_masked blind]
              cases addRunner env made.1 regToken <;> rfl

theorem authorise_masked (name : RunnerName) : authorise env table.masked name = authorise env table name := by
  unfold authorise
  rw [serviceGetRunner_masked]

theorem createRunner_masked (blind : env.Blind) (payload : Option CreatePayload) :
    createRunner env table.masked (payload.map CreatePayload.masked) =
      ((createRunner env table payload).1, (createRunner env table payload).2.masked) := by
  cases payload with
  | none => rfl
  | some payload =>
      have params : createParams payload.masked = (createParams payload).masked := rfl
      simp only [Option.map_some, createRunner, params, serviceCreateRunner_masked table blind]
      simp only [CreatePayload.masked]
      by_cases missing : (blank payload.name || blank payload.mode || blank payload.url) = true
      · simp only [missing, if_true]
      · simp only [missing, Bool.false_eq_true, if_false]
        by_cases standalone : payload.mode = "standalone"
        · simp only [standalone, if_true]
          cases env.generateRegToken payload.url with
          | error err => rfl
          | ok regToken =>
              simp only
              rcases serviceCreateRunner env table (createParams payload) regToken with ⟨(err | err) | runner, after⟩ <;>
                rfl
        · simp only [standalone, if_false]
          rcases serviceCreateRunner env table (createParams payload) "" with ⟨(err | err) | runner, after⟩ <;> rfl

theorem updateRunner_masked (blind : env.Blind) (name : RunnerName) (payload : Option UpdatePayload) :
    updateRunner env table.masked name (payload.map UpdatePayload.masked) =
      ((updateRunner env table name payload).1, (updateRunner env table name payload).2.masked) := by
  cases payload with
  | none => rfl
  | some payload =>
      simp only [Option.map_some, updateRunner, authorise_masked, serviceUpdateRunner_masked table blind]
      cases authorise env table name with
      | error response => rfl
      | ok existing =>
          simp only
          cases if existing.runner.mode = "standalone" ∧ existing.isRegistered = false then
              env.generateRegToken existing.runner.url else .ok "" with
          | error err => rfl
          | ok regToken =>
              simp only
              rcases serviceUpdateRunner env table name payload regToken with ⟨err | runner, after⟩
              · cases live : contains err "cannot edit runner" <;> simp [live]
              · rfl

theorem deleteRunner_masked (name : RunnerName) :
    deleteRunner env table.masked name = ((deleteRunner env table name).1, (deleteRunner env table name).2.masked) := by
  unfold deleteRunner
  rw [authorise_masked]
  cases authorise env table name with
  | error response => rfl
  | ok existing =>
      simp only [serviceDeleteRunner, readRow_masked, Sqlc.Runners.deleteRunnerByName_masked]
      cases readRow env table .getRunnerByName name with
      | error err => rfl
      | ok row => cases table.deleteRunnerByName env name <;> rfl

theorem listRunners_masked : listRunners env table.masked = listRunners env table := by
  unfold listRunners
  rw [Sqlc.Runners.listRunners_masked]
  cases table.listRunners env with
  | error err => rfl
  | ok rows =>
      simp only [Except.map, List.map_map, Function.comp_def, combine_masked]
      rfl

theorem getRunner_masked (name : RunnerName) : getRunner env table.masked name = getRunner env table name := by
  unfold getRunner
  rw [serviceGetRunner_masked]

/-- A request to a masked table is answered as before, and leaves it masked. -/
theorem serve_masked (blind : env.Blind) (request : Request) :
    serve env table.masked request.masked = ((serve env table request).1, (serve env table request).2.masked) := by
  have listing : request.masked = .listRunners ↔ request = .listRunners := by
    cases request <;> simp [Request.masked]
  unfold serve
  simp only [ne_eq, listing]
  split
  · rfl
  · cases request with
    | listRunners => simp [Request.masked, handle, listRunners_masked]
    | getRunner name => simp [Request.masked, handle, getRunner_masked]
    | createRunner payload => exact createRunner_masked table blind payload
    | updateRunner name payload => exact updateRunner_masked table blind name payload
    | deleteRunner name => exact deleteRunner_masked table name

/-- The responses to a run of requests are those to the masked run from the masked table. -/
theorem responses_masked (requests : List (Surroundings × Request)) (blind : ∀ served ∈ requests, served.1.Blind) :
    responses table.masked (requests.map fun served => (served.1, served.2.masked)) = responses table requests := by
  induction requests generalizing table with
  | nil => rfl
  | cons served rest ih =>
      obtain ⟨env, request⟩ := served
      have masked := serve_masked table (blind (env, request) (by simp)) request
      simp only [List.map_cons, responses, masked, ih _ fun served among => blind served (by simp [among])]

theorem masked_pairs (masks : Masks Same) {requests others : List (Surroundings × Request)}
    (same : List.Forall₂ (Paired Same) requests others) :
    (requests.map fun served => (served.1, served.2.masked)) = others.map fun served => (served.1, served.2.masked) := by
  induction same with
  | nil => rfl
  | cons paired rest ih => simp only [List.map_cons, paired.1, paired.2.masked masks, ih]

end

theorem met_pairs {Same : String → String → Prop} {requests others : List (Surroundings × Request)}
    (same : List.Forall₂ (Paired Same) requests others) : requests.map Prod.fst = others.map Prod.fst := by
  induction same with
  | nil => rfl
  | cons paired rest ih => simp only [List.map_cons, paired.1, ih]

/-- The tokens that a run cannot tell apart. -/
def tokens (met : List Surroundings) : Setoid String where
  r := Interchangeable met
  iseqv :=
    { refl := fun _ => ⟨Iff.rfl, fun _ _ _ => rfl⟩
      symm := fun alike => ⟨alike.1.symm, fun env member url => (alike.2 env member url).symm⟩
      trans := fun first second => ⟨first.1.trans second.1,
        fun env member url => (first.2 env member url).trans (second.2 env member url)⟩ }

theorem tokens_out (met : List Surroundings) (pat : String) :
    Interchangeable met (Quotient.mk (tokens met) pat).out pat :=
  Quotient.exact (Quotient.out_eq (Quotient.mk (tokens met) pat))

/-- One of them stands for all. -/
@[reducible] noncomputable def interchanging (met : List Surroundings) : Masking where
  mask pat := (Quotient.mk (tokens met) pat).out
  mask_empty pat := (tokens_out met pat).1

/-- Where GitHub's client answers alike for the two tokens of each row and of each payload, tables
and requests that differ in them have the same responses. -/
theorem pats_stay (first second : Sqlc.Runners) (requests others : List (Surroundings × Request))
    (alike : first.Alike (Interchangeable (requests.map Prod.fst)) second)
    (same : List.Forall₂ (Paired (Interchangeable (requests.map Prod.fst))) requests others) :
    responses first requests = responses second others := by
  let masking := interchanging (requests.map Prod.fst)
  have masks : Masks (Interchangeable (requests.map Prod.fst)) := fun one other alike =>
    congrArg Quotient.out (Quotient.sound alike)
  have blind (served : Surroundings × Request) (member : served.1 ∈ requests.map Prod.fst) : served.1.Blind :=
    fun url pat => (tokens_out _ pat).2 served.1 member url
  have before : ∀ served ∈ requests, served.1.Blind := fun served among => blind served (List.mem_map_of_mem among)
  have after : ∀ served ∈ others, served.1.Blind := fun served among =>
    blind served (met_pairs same ▸ List.mem_map_of_mem among)
  calc responses first requests
      = responses first.masked (requests.map fun served => (served.1, served.2.masked)) :=
        (responses_masked first requests before).symm
    _ = responses second.masked (others.map fun served => (served.1, served.2.masked)) := by
        rw [alike.masked masks, masked_pairs masks same]
    _ = responses second others := responses_masked second others after

/-- A client that finds the scale set of every runner, and whose listener goes on. -/
def welcoming : ScaleSetClient where
  getRunnerGroupByName _ := .ok 2
  getRunnerScaleSet _ _ := .ok (some 1)
  createRunnerScaleSet _ _ _ := .ok 1
  messageSessionClient _ _ := none
  newListener _ _ := none
  run _ _ := none

/-- Nothing runs, nothing fails, and every login may manage every repository. -/
def quiet : Surroundings where
  standalone := ∅
  scaleset := ∅
  first := ⟨[], by simp, by simp⟩
  second := ⟨[], by simp, by simp⟩
  failure _ := none
  uniqueViolation := "UNIQUE constraint failed: runners.name"
  checkViolation := "CHECK constraint failed"
  now := "now"
  loggedIn := true
  registered _ := false
  canManage _ := true
  generateRegToken _ := .ok "token"
  codec := ⟨fun _ => [], fun _ => .error "unexpected end of JSON input"⟩
  image := ⟨fun _ => none, [], rfl⟩
  files _ := none
  answers _ := ⟨none, fun _ => none, none⟩
  forking := ⟨none, none, fun _ => none, fun _ => false⟩
  newClient _ _ := .ok welcoming
  maxWorkers := none
  glimpse := .online

def holding (pat : String) : Sqlc.Runners where
  rows := [⟨1, "a", "scaleset", "https://github.com/o/r", "", pat, 1, "", "", 0, "then"⟩]
  nextID := 2

/-- A runner is edited with a token, another one is made, and both are shown. -/
def edits (pat : String) : List (Surroundings × Request) :=
  [(quiet, .updateRunner "a" (some ⟨pat, 2, [], ""⟩)),
    (quiet, .createRunner (some ⟨"b", "standalone", "https://github.com/o/r", pat, 0, ["x"], ""⟩)), (quiet, .listRunners)]

theorem pats_stay_edits : (responses (holding "s") (edits "t")).map Response.status = [200, 201, 200] ∧
    responses (holding "s") (edits "t") = responses (holding "u") (edits "v") := by
  have same (one other : String) (empty : one = "" ↔ other = "") :
      Interchangeable ((edits "t").map Prod.fst) one other := by
    refine ⟨empty, fun env member url => ?_⟩
    simp only [edits, List.map_cons, List.map_nil, List.mem_cons, List.not_mem_nil, or_self, or_false] at member
    subst member
    rfl
  have rows : (holding "s").Alike (Interchangeable ((edits "t").map Prod.fst)) (holding "u") :=
    ⟨.cons ⟨rfl, same _ _ (by decide)⟩ .nil, rfl⟩
  have pairs : List.Forall₂ (Paired (Interchangeable ((edits "t").map Prod.fst))) (edits "t") (edits "v") :=
    .cons ⟨rfl, .update "a" ⟨rfl, same _ _ (by decide)⟩⟩
      (.cons ⟨rfl, .create ⟨rfl, same _ _ (by decide)⟩⟩ (.cons ⟨rfl, .same _⟩ .nil))
  refine ⟨by decide +kernel, ?_⟩
  exact pats_stay (holding "s") (holding "u") (edits "t") (edits "v") rows pairs

/-- GitHub has revoked one token, and says so without it. -/
def revoking : Surroundings :=
  { quiet with newClient := fun _ pat => .ok { welcoming with
      getRunnerScaleSet := fun _ _ => if pat = "revoked" then .error "401 Unauthorized" else .ok (some 1) } }

theorem revoking_discreet : revoking.Discreet := by
  intro url pat given
  refine ⟨nofun, ?_⟩
  rintro _ ⟨⟩ err errs
  cases errs with
  | find is =>
      dsimp only at is
      split at is <;> cases is
      next revoked =>
        subst revoked
        decide
  | _ => rename _ = _ => is; cases is

/-- Whether GitHub's client accepts a token does show. -/
theorem pats_show : ¬∀ (first second : Sqlc.Runners) (requests others : List (Surroundings × Request)),
    first.Alike BothGiven second → List.Forall₂ (Paired BothGiven) requests others →
    (∀ served ∈ requests, served.1.Discreet) → responses first requests = responses second others := by
  intro stay
  let creates (pat : String) : List (Surroundings × Request) :=
    [(revoking, .createRunner (some ⟨"b", "scaleset", "https://github.com/o/r", pat, 0, [], ""⟩))]
  have pairs : List.Forall₂ (Paired BothGiven) (creates "revoked") (creates "valid") :=
    .cons ⟨rfl, .create ⟨rfl, by unfold BothGiven; decide⟩⟩ .nil
  have same := stay ⟨[], 1⟩ ⟨[], 1⟩ (creates "revoked") (creates "valid") ⟨.nil, rfl⟩ pairs
    (by simpa [creates] using revoking_discreet)
  have statuses := congrArg (List.map Response.status) same
  revert statuses
  decide +kernel

end Api

end RunnersMux
