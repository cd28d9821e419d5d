import RunnersMux.Foundations.Filepaths
import RunnersMux.Foundations.Framing
import RunnersMux.Foundations.Ranges
import RunnersMux.Worker.Bridge

/-! The config files ahead of the pipe bridge: a framed header on its connection.

The worker-shim reads the files that exist and sends them, the worker-launcher
writes what it receives. `encoding/json` and `base64` are parameters.
-/

set_option autoImplicit false

namespace RunnersMux

open Foundations

structure WorkerHeader where
  /-- `none` is the nil map. -/
  configFiles : Option (Map String String)
  deriving DecidableEq

/-- The functions of `encoding/json` and of `base64.StdEncoding`. -/
structure Encodings where
  marshal : WorkerHeader → Except String (List Byte)
  /-- Into an empty header. -/
  unmarshal : List Byte → Except String WorkerHeader
  encodeToString : List Byte → String
  decodeString : String → Except String (List Byte)

/-- What `os.ReadFile` answers for a name in a directory. -/
abbrev Directory := String → Except String (List Byte)

/-- What an `os.WriteFile` that fails says, and what is in the file after it if it got so far. -/
structure WriteFailure where
  text : String
  left : Option (List Byte)
  deriving DecidableEq, Repr

/-- Which paths cannot be written. -/
abbrev Refusals := String → Option WriteFailure

/-- The contents of the files at their paths. -/
abbrev Disk := Map String (List Byte)

def runnerConfigFileNames : List String := [".runner", ".credentials"]

section Shim

variable (enc : Encodings) (dir : Directory)

def addConfigFile (configFiles : Map String String) (fname : String) : Map String String :=
  match dir fname with
  | .error _ => configFiles
  | .ok data => configFiles.insert fname (enc.encodeToString data)

def readRunnerConfigFiles : Option (Map String String) :=
  let configFiles := runnerConfigFileNames.foldl (addConfigFile enc dir) ∅
  if configFiles = ∅ then none else some configFiles

/-- What the two writes put on the connection. -/
def writeFramedHeader (header : WorkerHeader) : Except String (List Byte) :=
  match enc.marshal header with
  | .error err => .error ("marshal header: " ++ err)
  | .ok payload => .ok (putUint32 (payload.length % 2 ^ 32) ++ payload)

end Shim

section Launcher

variable (enc : Encodings) (refuses : Refusals)

def readFramedHeader (conn : Incoming) : Except String WorkerHeader × Incoming :=
  match conn.readFull 4 with
  | (.error err, conn) => (.error ("read header length: " ++ err.text), conn)
  | (.ok lenBuf, conn) =>
      match conn.readFull (uint32 lenBuf) with
      | (.error err, conn) => (.error ("read header payload: " ++ err.text), conn)
      | (.ok payload, conn) =>
          match enc.unmarshal payload with
          | .error err => (.error ("unmarshal header: " ++ err), conn)
          | .ok header => (.ok header, conn)

def runnerDir : String := "/actions-runner"

def dest (fname : String) : String := Filepath.join runnerDir (Filepath.base fname)

/-- The loop over the config files, in the order of a range over the map. -/
def writeConfigFiles : List (String × String) → Disk → Except String Unit × Disk
  | [], disk => (.ok (), disk)
  | (fname, b64data) :: rest, disk =>
      match enc.decodeString b64data with
      | .error err => (.error ("decode " ++ fname ++ ": " ++ err), disk)
      | .ok data =>
          match refuses (dest fname) with
          | some failure => (.error ("write " ++ dest fname ++ ": " ++ failure.text),
              (failure.left.map (disk.insert (dest fname))).getD disk)
          | none => writeConfigFiles rest (disk.insert (dest fname) data)

/-- What `runStandaloneWorker` does before its pipes. After an error it is finished, with 1. -/
def receiveConfigFiles (order : (map : Map String String) → Range map) (conn : Incoming) (disk : Disk) :
    Except String Unit × Disk × Incoming :=
  match readFramedHeader enc conn with
  | (.error err, conn) => (.error ("Failed to read config files header: " ++ err), disk, conn)
  | (.ok header, conn) =>
      match header.configFiles with
      | none => (.ok (), disk, conn)
      | some configFiles =>
          if configFiles = ∅ then (.ok (), disk, conn)
          else
            match writeConfigFiles enc refuses (order configFiles).entries disk with
            | (.error err, disk) => (.error ("Failed to write config files: " ++ err), disk, conn)
            | (.ok (), disk) => (.ok (), disk, conn)

end Launcher

/-- The config files of a directory are in `/actions-runner`, and nothing else there is different. -/
structure Copied (dir : Directory) (before after : Disk) : Prop where
  identical : ∀ fname ∈ runnerConfigFileNames, ∀ data, dir fname = .ok data →
    after.lookup (runnerDir ++ "/" ++ fname) = some data
  untouched : ∀ place, (∀ fname ∈ runnerConfigFileNames, ∀ data, dir fname = .ok data → place ≠ runnerDir ++ "/" ++ fname) →
    after.lookup place = before.lookup place

/-- The packages decode what they encode, of the files of one directory. -/
structure Encodings.Decode (enc : Encodings) (dir : Directory) : Prop where
  json : ∀ header payload, enc.marshal header = .ok payload → enc.unmarshal payload = .ok header
  base64 : ∀ fname data, dir fname = .ok data → enc.decodeString (enc.encodeToString data) = .ok data

variable {enc : Encodings} {dir : Directory} {refuses : Refusals}

theorem dest_runnerConfigFile : ∀ fname ∈ runnerConfigFileNames, dest fname = runnerDir ++ "/" ++ fname := by
  decide +kernel

theorem dest_distinct : ∀ fname ∈ runnerConfigFileNames, ∀ other ∈ runnerConfigFileNames,
    dest fname = dest other → fname = other := by
  decide +kernel

theorem lookup_addConfigFiles (fnames : List String) (configFiles : Map String String) (fname : String) :
    (fnames.foldl (addConfigFile enc dir) configFiles).lookup fname =
      ((if fname ∈ fnames then (dir fname).toOption.map enc.encodeToString else none).or (configFiles.lookup fname)) := by
  induction fnames generalizing configFiles with
  | nil => simp
  | cons first rest ih =>
      rw [List.foldl_cons, ih]
      by_cases same : fname = first
      · subst same
        by_cases again : fname ∈ rest <;> cases read : dir fname <;> simp [addConfigFile, read, again, Except.toOption]
      · cases read : dir first <;> simp [addConfigFile, read, same]

/-- What is sent are the files that can be read. -/
theorem lookup_readRunnerConfigFiles (enc : Encodings) (dir : Directory) {fname b64data : String} :
    ((readRunnerConfigFiles enc dir).getD ∅).lookup fname = some b64data ↔
      fname ∈ runnerConfigFileNames ∧ ∃ data, dir fname = .ok data ∧ enc.encodeToString data = b64data := by
  have filled : (readRunnerConfigFiles enc dir).getD ∅ = runnerConfigFileNames.foldl (addConfigFile enc dir) ∅ := by
    simp only [readRunnerConfigFiles]
    split
    · next empty => exact empty.symm
    · rfl
  rw [filled, lookup_addConfigFiles]
  by_cases known : fname ∈ runnerConfigFileNames
  · cases read : dir fname <;> simp [known, Except.toOption]
  · simp [known]

/-- After a loop without errors every file has its decoded contents, and a loop fails over a file only. -/
theorem writeConfigFiles_writes (refuses : Refusals) (disk : Disk) (content : String → List Byte)
    {entries : List (String × String)}
    (decodes : ∀ entry ∈ entries, enc.decodeString entry.2 = .ok (content entry.1))
    (distinct : (entries.map fun entry => dest entry.1).Nodup) :
    match (writeConfigFiles enc refuses entries disk).1 with
    | .error _ => ∃ entry ∈ entries, refuses (dest entry.1) ≠ none
    | .ok () =>
        (∀ entry ∈ entries, (writeConfigFiles enc refuses entries disk).2.lookup (dest entry.1) = some (content entry.1)) ∧
          ∀ place ∉ entries.map fun entry => dest entry.1,
            (writeConfigFiles enc refuses entries disk).2.lookup place = disk.lookup place := by
  induction entries generalizing disk with
  | nil => simp [writeConfigFiles]
  | cons entry rest ih =>
      obtain ⟨fname, b64data⟩ := entry
      rw [List.forall_mem_cons] at decodes
      rw [List.map_cons, List.nodup_cons] at distinct
      cases refused : refuses (dest fname) with
      | some failure => simp [writeConfigFiles, decodes.1, refused]
      | none =>
          have rest := ih (disk.insert (dest fname) (content fname)) decodes.2 distinct.2
          simp only [writeConfigFiles, decodes.1, refused]
          split
          · next failed =>
              rw [failed] at rest
              obtain ⟨entry, member, fails⟩ := rest
              exact ⟨entry, List.mem_cons_of_mem _ member, fails⟩
          · next fine =>
              rw [fine] at rest
              obtain ⟨written, kept⟩ := rest
              constructor
              · rw [List.forall_mem_cons]
                refine ⟨?_, written⟩
                rw [kept _ distinct.1, Map.lookup_insert_if, if_pos rfl]
              · intro place other
                rw [List.map_cons, List.mem_cons, not_or] at other
                rw [kept place other.2, Map.lookup_insert_if, if_neg other.1]

theorem readFramedHeader_frame {conn : Incoming} {payload pipe : List Byte} {header : WorkerHeader}
    (short : payload.length < 2 ^ 32) (decodes : enc.unmarshal payload = .ok header)
    (arrives : conn.bytes = frame payload ++ pipe) :
    ∃ rest, readFramedHeader enc conn = (.ok header, rest) ∧ rest.bytes = pipe := by
  have prefixed : conn.bytes = putUint32 payload.length ++ (payload ++ pipe) := by
    rw [arrives, frame, List.append_assoc]
  obtain ⟨middle, length, left, _⟩ := Incoming.readFull_enough prefixed
  obtain ⟨rest, body, after, _⟩ := Incoming.readFull_enough left
  rw [length_putUint32] at length
  exact ⟨rest, by simp [readFramedHeader, length, uint32_putUint32 short, body, decodes], after⟩

/-- A stream that ends inside a frame gives no header. -/
theorem readFramedHeader_cut (enc : Encodings) {conn : Incoming} {payload : List Byte} (short : payload.length < 2 ^ 32)
    (cut : conn.bytes <+: frame payload) (inside : conn.bytes ≠ frame payload) :
    ∃ err, (readFramedHeader enc conn).1 = .error err := by
  have fewer : conn.bytes.length < 4 + payload.length := by
    rw [← length_frame]
    exact lt_of_le_of_ne cut.length_le fun same => inside (cut.eq_of_length same)
  by_cases announced : conn.bytes.length < 4
  · obtain ⟨err, rest, fails⟩ := Incoming.readFull_short announced
    exact ⟨"read header length: " ++ err.text, by simp [readFramedHeader, fails]⟩
  · -- The length has arrived, and it is the one of the frame.
    have whole : putUint32 payload.length <+: conn.bytes :=
      List.prefix_of_prefix_length_le (List.prefix_append _ _) cut (Nat.le_of_not_lt announced)
    obtain ⟨some, split⟩ := whole
    obtain ⟨middle, length, left, _⟩ := Incoming.readFull_enough split.symm
    rw [← split, List.length_append, length_putUint32] at fewer
    have missing : middle.bytes.length < payload.length := by
      rw [left]
      omega
    obtain ⟨err, rest, fails⟩ := Incoming.readFull_short missing
    rw [length_putUint32] at length
    exact ⟨"read header payload: " ++ err.text, by simp [readFramedHeader, length, uint32_putUint32 short, fails]⟩

theorem copied_nothing (enc : Encodings) (empty : (readRunnerConfigFiles enc dir).getD ∅ = ∅) (disk : Disk) : Copied dir disk disk := by
  constructor
  · intro fname known data file
    have sent := (lookup_readRunnerConfigFiles enc dir).mpr ⟨known, data, file, rfl⟩
    rw [empty] at sent
    simp at sent
  · intros
    rfl

/-- The loop over the files that were sent copies them, whatever its order. -/
theorem writeConfigFiles_copies (refuses : Refusals) (decode : enc.Decode dir) {configFiles : Map String String}
    (sent : readRunnerConfigFiles enc dir = some configFiles) (range : Range configFiles) (disk : Disk) :
    match writeConfigFiles enc refuses range.entries disk with
    | (.ok (), after) => Copied dir disk after
    | (.error _, _) => ∃ fname ∈ runnerConfigFileNames, (∃ data, dir fname = .ok data) ∧
        refuses (runnerDir ++ "/" ++ fname) ≠ none := by
  have sends (fname b64data : String) : (fname, b64data) ∈ range.entries ↔
      fname ∈ runnerConfigFileNames ∧ ∃ data, dir fname = .ok data ∧ enc.encodeToString data = b64data := by
    rw [range.complete, ← lookup_readRunnerConfigFiles, sent, Option.getD_some]
  have known (fname : String) (visits : fname ∈ range.entries.map Prod.fst) : fname ∈ runnerConfigFileNames := by
    obtain ⟨⟨_, b64data⟩, member, rfl⟩ := List.mem_map.mp visits
    exact ((sends _ b64data).mp member).1
  have decodes : ∀ entry ∈ range.entries, enc.decodeString entry.2 = .ok ((dir entry.1).toOption.getD []) := by
    intro ⟨fname, b64data⟩ visits
    obtain ⟨_, data, file, rfl⟩ := (sends fname b64data).mp visits
    rw [decode.base64 fname data file, file]
    rfl
  have distinct : (range.entries.map fun entry => dest entry.1).Nodup := by
    have once := range.once.map_on (f := dest) fun fname visits other also =>
      dest_distinct fname (known fname visits) other (known other also)
    rwa [List.map_map] at once
  have writes := writeConfigFiles_writes refuses disk (fun fname => (dir fname).toOption.getD []) decodes distinct
  cases result : writeConfigFiles enc refuses range.entries disk with
  | mk outcome after =>
      rw [result] at writes
      cases outcome with
      | error err =>
          obtain ⟨⟨fname, b64data⟩, visits, refused⟩ := writes
          obtain ⟨named, data, file, _⟩ := (sends fname b64data).mp visits
          exact ⟨fname, named, ⟨data, file⟩, dest_runnerConfigFile fname named ▸ refused⟩
      | ok =>
          refine ⟨fun fname named data file => ?_, fun place other => writes.2 place fun own => ?_⟩
          · have written := writes.1 _ ((sends fname _).mpr ⟨named, data, file, rfl⟩)
            rw [dest_runnerConfigFile fname named, file] at written
            exact written
          · obtain ⟨⟨fname, b64data⟩, visits, same⟩ := List.mem_map.mp own
            obtain ⟨named, data, file, _⟩ := (sends fname b64data).mp visits
            exact other fname named data file (same.symm.trans (dest_runnerConfigFile fname named))

/-- What the launcher does with the files of a header that has arrived. -/
theorem receiveConfigFiles_copies (decode : enc.Decode dir) {conn rest : Incoming}
    (read : readFramedHeader enc conn = (.ok ⟨readRunnerConfigFiles enc dir⟩, rest))
    (order : (map : Map String String) → Range map) (disk : Disk) :
    match receiveConfigFiles enc refuses order conn disk with
    | (.ok (), after, left) => left = rest ∧ Copied dir disk after
    | (.error _, _, _) => ∃ fname ∈ runnerConfigFileNames, (∃ data, dir fname = .ok data) ∧
        refuses (runnerDir ++ "/" ++ fname) ≠ none := by
  simp only [receiveConfigFiles, read]
  cases sent : readRunnerConfigFiles enc dir with
  | none => exact ⟨rfl, copied_nothing enc (by rw [sent, Option.getD_none]) disk⟩
  | some configFiles =>
      by_cases empty : configFiles = ∅
      · simp only [if_pos empty]
        exact ⟨trivial, copied_nothing enc (by rw [sent, Option.getD_some, empty]) disk⟩
      · have copies := writeConfigFiles_copies refuses decode sent (order configFiles) disk
        simp only [if_neg empty]
        cases result : writeConfigFiles enc refuses (order configFiles).entries disk with
        | mk outcome after =>
            rw [result] at copies
            cases outcome with
            | error err => exact copies
            | ok => exact ⟨rfl, copies⟩

/-- The files cross the connection, however it cuts up its bytes, and leave on it what comes behind
them. Of a header that is cut short nothing is written. -/
theorem config_files_cross (decode : enc.Decode dir) {payload : List Byte}
    (marshals : enc.marshal ⟨readRunnerConfigFiles enc dir⟩ = .ok payload) (short : payload.length < 2 ^ 32) :
    (∃ sent, writeFramedHeader enc ⟨readRunnerConfigFiles enc dir⟩ = .ok sent ∧
      ∀ (pipe : List Byte) (conn : Incoming), conn.bytes = sent ++ pipe →
        ∃ rest, readFramedHeader enc conn = (.ok ⟨readRunnerConfigFiles enc dir⟩, rest) ∧ rest.bytes = pipe ∧
          ∀ refuses order disk,
            match receiveConfigFiles enc refuses order conn disk with
            | (.ok (), after, left) => left = rest ∧ Copied dir disk after
            | (.error _, _, _) => ∃ fname ∈ runnerConfigFileNames, (∃ data, dir fname = .ok data) ∧
                refuses (runnerDir ++ "/" ++ fname) ≠ none) ∧
      ∀ whole : List Byte, whole.length < 2 ^ 32 →
        ∀ conn : Incoming, conn.bytes <+: frame whole → conn.bytes ≠ frame whole →
          ∃ err left, readFramedHeader enc conn = (.error err, left) ∧
            ∀ refuses order disk, receiveConfigFiles enc refuses order conn disk =
              (.error ("Failed to read config files header: " ++ err), disk, left) := by
  constructor
  · have length : payload.length % 2 ^ 32 = payload.length := Nat.mod_eq_of_lt short
    refine ⟨frame payload, by simp only [writeFramedHeader, marshals, frame, length], fun pipe conn arrives => ?_⟩
    obtain ⟨rest, read, left⟩ := readFramedHeader_frame short (decode.json _ _ marshals) arrives
    exact ⟨rest, read, left, fun refuses order disk => receiveConfigFiles_copies decode read order disk⟩
  · intro whole fits conn cut inside
    obtain ⟨err, fails⟩ := readFramedHeader_cut enc fits cut inside
    refine ⟨err, (readFramedHeader enc conn).2, Prod.ext fails rfl, fun refuses order disk => ?_⟩
    have failed : readFramedHeader enc conn = (.error err, (readFramedHeader enc conn).2) := Prod.ext fails rfl
    rw [receiveConfigFiles, failed]

/-- A `.runner` file with an empty object, and no credentials. -/
def bareRunner : Directory := fun fname =>
  if fname = ".runner" then .ok [123, 125] else .error ("open " ++ fname ++ ": no such file or directory")

def bareHeader : WorkerHeader := ⟨some ((∅ : Map String String).insert ".runner" "e30=")⟩

def barePayload : List Byte :=
  "\x7b\"config_files\":\x7b\".runner\":\"e30=\"\x7d\x7d".toList.map fun char => UInt8.ofNat char.toNat

/-- Both packages, as far as this one file needs them. -/
def bareEncodings : Encodings where
  marshal header := if header = bareHeader then .ok barePayload else .error "unsupported"
  unmarshal payload := if payload = barePayload then .ok bareHeader else .error "unexpected end of JSON input"
  encodeToString data := if data = [123, 125] then "e30=" else ""
  decodeString text := if text = "e30=" then .ok [123, 125] else .error "illegal base64 data at input byte 0"

theorem bareEncodings_decode : bareEncodings.Decode bareRunner := by
  constructor
  · intro header payload marshals
    simp only [bareEncodings] at marshals ⊢
    split at marshals
    · next same =>
        cases marshals
        rw [if_pos rfl, same]
    · cases marshals
  · intro fname data file
    unfold bareRunner at file
    split at file <;> cases file
    rfl

theorem bareRunner_header : readRunnerConfigFiles bareEncodings bareRunner = bareHeader.configFiles := by
  decide +kernel

/-- The header in two pieces, the second with the first byte of the pipe. -/
theorem config_files_cross_bare :
    bareEncodings.marshal ⟨readRunnerConfigFiles bareEncodings bareRunner⟩ = .ok barePayload ∧ barePayload.length < 2 ^ 32 ∧
      ∃ rest, readFramedHeader bareEncodings ⟨[[0, 0], 0 :: 35 :: barePayload ++ [9], [8, 7]], .eof⟩ = (.ok bareHeader, rest) ∧
        rest.bytes = [9, 8, 7] := by
  have marshals : bareEncodings.marshal ⟨readRunnerConfigFiles bareEncodings bareRunner⟩ = .ok barePayload := by
    rw [bareRunner_header]
    decide +kernel
  have short : barePayload.length < 2 ^ 32 := by decide +kernel
  obtain ⟨⟨sent, writes, arrives⟩, _⟩ := config_files_cross bareEncodings_decode marshals short
  rw [writeFramedHeader, marshals] at writes
  obtain rfl := Except.ok.inj writes
  obtain ⟨rest, read, left, _⟩ := arrives [9, 8, 7] ⟨[[0, 0], 0 :: 35 :: barePayload ++ [9], [8, 7]], .eof⟩ (by decide +kernel)
  rw [bareRunner_header] at read
  exact ⟨marshals, short, rest, read, left⟩

end RunnersMux
