import RunnersMux.Foundations.Trimming

/-! `auth.go`: the host, the owner and the repository that a URL names.

`HostFromURL` trims and strips the URL a second time, and what follows the host
is cut without a look at how many segments there are. The grammar that the error
text states is written down next to it.
-/

set_option autoImplicit false

namespace RunnersMux

open Foundations

structure RepoInfo where
  host : String
  owner : String
  /-- Empty for org-level URLs. -/
  repo : String
  deriving DecidableEq, Repr

def hostFromURL (rawURL : String) : String :=
  let rawURL := trimSpace rawURL
  let rawURL := trimPrefix rawURL "https://"
  let rawURL := trimPrefix rawURL "http://"
  match index rawURL '/' with
  | some idx => if 0 < idx then String.ofList (rawURL.toList.take idx) else rawURL
  | none => rawURL

def parseRepoURL (rawURL : String) : Except String RepoInfo :=
  let rawURL := trimRight (trimSpace rawURL) "/"
  let host := hostFromURL rawURL
  let path := trimPrefix rawURL "https://"
  let path := trimPrefix path "http://"
  let path := trimPrefix path host
  let path := trim path "/"
  match splitAt path '/' with
  | [] => .error ("invalid URL (expected host/owner or host/owner/repo): " ++ rawURL)
  | owner :: rest =>
      if owner = "" then .error ("invalid URL (expected host/owner or host/owner/repo): " ++ rawURL)
      else .ok ⟨host, owner, rest.head?.getD ""⟩

/-- The URL without surrounding white space and trailing slashes. -/
def trimmedURL (rawURL : String) : String := trimRight (trimSpace rawURL) "/"

/-- And without a scheme. -/
def bareURL (rawURL : String) : String :=
  if hasPrefix (trimmedURL rawURL) "https://" then trimPrefix (trimmedURL rawURL) "https://"
  else trimPrefix (trimmedURL rawURL) "http://"

/-- `host/owner` or `host/owner/repo`, with non-empty parts. -/
def NamesRepo (bare : String) (info : RepoInfo) : Prop :=
  info.host ≠ "" ∧ info.owner ≠ "" ∧
    (splitAt bare '/' = [info.host, info.owner] ∧ info.repo = "" ∨
      splitAt bare '/' = [info.host, info.owner, info.repo] ∧ info.repo ≠ "")

instance (bare : String) (info : RepoInfo) : Decidable (NamesRepo bare info) := inferInstanceAs (Decidable (_ ∧ _ ∧ _))

/-- The parser accepts the grammar and nothing else. -/
def ParsesGrammar (rawURL : String) : Prop :=
  ∀ info, parseRepoURL rawURL = .ok info ↔ NamesRepo (bareURL rawURL) info

/-- The URL as the parser strips it, of one scheme after the other. -/
def strippedURL (rawURL : String) : String := trimPrefix (trimPrefix (trimmedURL rawURL) "https://") "http://"

/-- Below a non-empty host there is neither an empty segment first nor a third one, and only one
scheme before it. Without a slash after the host, the URL does not end in white space. -/
def RegularURL (rawURL : String) : Prop :=
  match index (strippedURL rawURL) '/' with
  | some (_ + 1) => hasPrefix (trimmedURL rawURL) "https://http://" = false ∧
      (splitAt (strippedURL rawURL) '/').length ≤ 3 ∧ (splitAt (strippedURL rawURL) '/')[1]? ≠ some ""
  | _ => ∀ last ∈ (trimmedURL rawURL).toList.getLast?, isSpace last = false

theorem last_https : "https://".toList.getLast? = some '/' := rfl

theorem last_http : "http://".toList.getLast? = some '/' := rfl

theorem last_trimmedURL (rawURL : String) : (trimmedURL rawURL).toList.getLast? ≠ some '/' := by
  unfold trimmedURL
  rw [toList_trimRight]
  intro last
  have stays := last_rdropWhile _ _ _ last
  simp at stays

/-- The white space in front is gone, and stays gone. -/
theorem dropWhile_trimmedURL (rawURL : String) :
    (trimmedURL rawURL).toList.dropWhile isSpace = (trimmedURL rawURL).toList := by
  unfold trimmedURL
  rw [toList_trimRight, toList_trimSpace]
  exact dropWhile_of_prefix ((List.rdropWhile_prefix _ _).trans (List.rdropWhile_prefix _ _))

theorem toList_strippedURL (rawURL : String) : (strippedURL rawURL).toList =
    dropPrefix "http://".toList (dropPrefix "https://".toList (trimmedURL rawURL).toList) := by
  unfold strippedURL
  rw [toList_trimPrefix, toList_trimPrefix]

theorem last_strippedURL (rawURL : String) :
    (strippedURL rawURL).toList.getLast? = (trimmedURL rawURL).toList.getLast? := by
  have once := dropPrefix_last last_https (last_trimmedURL rawURL)
  rw [toList_strippedURL, dropPrefix_last last_http, once]
  rw [once]
  exact last_trimmedURL rawURL

theorem slash_stays {lead : List Char} (ends : lead.getLast? = some '/') : ∀ last ∈ lead.getLast?, isSpace last = false := by
  intro last member
  cases ends.symm.trans member
  decide

/-- `HostFromURL` reads what the parser reads, less the white space at its end. -/
theorem hostFromURL_trimmed (rawURL : String) : hostFromURL (trimmedURL rawURL) =
    match ((strippedURL rawURL).toList.rdropWhile isSpace).idxOf? '/' with
    | some (idx + 1) => String.ofList (((strippedURL rawURL).toList.rdropWhile isSpace).take (idx + 1))
    | _ => String.ofList ((strippedURL rawURL).toList.rdropWhile isSpace) := by
  have stripped : (trimPrefix (trimPrefix (trimSpace (trimmedURL rawURL)) "https://") "http://") =
      String.ofList ((strippedURL rawURL).toList.rdropWhile isSpace) := by
    apply String.toList_injective
    rw [toList_trimPrefix, toList_trimPrefix, toList_trimSpace, dropWhile_trimmedURL,
      dropPrefix_rdropWhile (slash_stays last_https), dropPrefix_rdropWhile (slash_stays last_http),
      ← toList_strippedURL]
    exact String.toList_ofList.symm
  unfold hostFromURL index
  dsimp only
  rw [stripped, String.toList_ofList]
  split
  · next idx found =>
      rw [found]
      cases idx <;> simp
  · next absent => rw [absent]

/-- What the parser makes of the path below the host. -/
theorem parse_cut {rawURL : String} (host path : List Char) (named : (hostFromURL (trimmedURL rawURL)).toList = host)
    (below : (dropPrefix host (strippedURL rawURL).toList).dropWhile (· = '/') = path)
    (ends : path.getLast? ≠ some '/') : parseRepoURL rawURL =
      match path.splitOn '/' with
      | [] => .error ("invalid URL (expected host/owner or host/owner/repo): " ++ trimmedURL rawURL)
      | owner :: rest =>
          if owner = [] then .error ("invalid URL (expected host/owner or host/owner/repo): " ++ trimmedURL rawURL)
          else .ok ⟨String.ofList host, String.ofList owner, String.ofList (rest.head?.getD [])⟩ := by
  have cut : splitAt (trim (trimPrefix (strippedURL rawURL) (hostFromURL (trimmedURL rawURL))) "/") '/' =
      (path.splitOn '/').map String.ofList := by
    unfold splitAt
    rw [toList_trim, toList_trimPrefix, named]
    have slash (char : Char) : decide (char ∈ "/".toList) = decide (char = '/') := by simp
    simp only [slash]
    rw [below, List.rdropWhile_eq_self_iff.mpr]
    intro some_ last
    rw [List.getLast?_eq_getLast_of_ne_nil some_] at ends
    exact ends (congrArg some (of_decide_eq_true last))
  have host : hostFromURL (trimmedURL rawURL) = String.ofList host := by
    rw [← named, String.ofList_toList]
  unfold strippedURL trimmedURL at cut
  unfold parseRepoURL
  dsimp only
  rw [cut]
  cases path.splitOn '/' with
  | nil => rfl
  | cons owner rest =>
      unfold trimmedURL at host ⊢
      simp only [List.map_cons, String.ofList_eq_empty_iff, host]
      split
      · rfl
      · cases rest <;> rfl

/-- A URL with something after its host is accepted, empty segments and all. -/
theorem parse_below {rawURL : String} {host rest : List Char} (nonempty : host ≠ []) (slashless : '/' ∉ host)
    (whole : (strippedURL rawURL).toList = host ++ '/' :: rest) :
    ∃ owner more, (rest.splitOn '/').dropWhile (· = []) = owner :: more ∧ owner ≠ [] ∧
      parseRepoURL rawURL = .ok ⟨String.ofList host, String.ofList owner, String.ofList (more.head?.getD [])⟩ := by
  have ends : (host ++ '/' :: rest).getLast? ≠ some '/' := by
    rw [← whole, last_strippedURL]
    exact last_trimmedURL rawURL
  have filled : ∃ other ∈ rest, other ≠ '/' := by
    cases last : rest.getLast? with
    | none =>
        rw [List.getLast?_eq_none_iff] at last
        subst last
        simp at ends
    | some other =>
        refine ⟨other, List.mem_of_getLast? last, ?_⟩
        rintro rfl
        simp [List.getLast?_cons, last] at ends
  have open_ : rest.getLast? ≠ some '/' := by
    intro last
    simp [List.getLast?_cons, last] at ends
  have pieces := splitOn_dropWhile filled
  cases kept : (rest.splitOn '/').dropWhile (· = []) with
  | nil => exact absurd (pieces.trans kept) (List.splitOn_ne_nil _ _)
  | cons owner more =>
      have stays := List.head?_dropWhile_not (fun piece : List Char => piece = []) (rest.splitOn '/')
      rw [kept] at stays
      have some_ : owner ≠ [] := by simpa using stays
      refine ⟨owner, more, rfl, some_, ?_⟩
      rw [parse_cut host (rest.dropWhile (· = '/')), pieces, kept]
      · simp only [if_neg some_]
      · have trimmed : (host ++ '/' :: rest).rdropWhile isSpace = host ++ '/' :: rest.rdropWhile isSpace := by
          have kept : (host ++ ['/'] ++ rest).rdropWhile isSpace = host ++ ['/'] ++ rest.rdropWhile isSpace :=
            rdropWhile_append_kept isSpace (slash_stays (by simp)) rest
          simpa using kept
        rw [hostFromURL_trimmed, whole, trimmed, idxOf_append slashless]
        cases host with
        | nil => exact absurd rfl nonempty
        | cons head tail => simp
      · rw [whole, dropPrefix_append]
        simp
      · exact fun last => open_ (getLast_dropWhile last)

/-- A URL without a slash after a host is accepted for the white space at its end. -/
theorem parse_flat {rawURL : String} (flat : ∀ idx ∈ index (strippedURL rawURL) '/', idx = 0) :
    parseRepoURL rawURL =
      if (strippedURL rawURL).toList.rtakeWhile isSpace = [] then
        .error ("invalid URL (expected host/owner or host/owner/repo): " ++ trimmedURL rawURL)
      else .ok ⟨String.ofList ((strippedURL rawURL).toList.rdropWhile isSpace),
        String.ofList ((strippedURL rawURL).toList.rtakeWhile isSpace), ""⟩ := by
  have whole := List.rdropWhile_append_rtakeWhile (p := isSpace) (l := (strippedURL rawURL).toList)
  have spaces : '/' ∉ (strippedURL rawURL).toList.rtakeWhile isSpace := by
    intro member
    exact absurd (List.mem_rtakeWhile_imp member) (by decide)
  have rest := dropPrefix_append ((strippedURL rawURL).toList.rdropWhile isSpace)
    ((strippedURL rawURL).toList.rtakeWhile isSpace)
  rw [whole] at rest
  rw [parse_cut ((strippedURL rawURL).toList.rdropWhile isSpace) ((strippedURL rawURL).toList.rtakeWhile isSpace)]
  · rw [List.splitOn_eq_singleton spaces]
    rfl
  · rw [hostFromURL_trimmed]
    split
    · next idx found =>
        -- The slash stands in the untrimmed URL as well.
        have member := List.isSome_idxOf?.mp (Option.isSome_of_eq_some found)
        obtain ⟨front, back, cut, absent⟩ := List.eq_append_cons_of_mem member
        rw [cut, idxOf_append absent] at found
        rw [cut, List.append_assoc, List.cons_append] at whole
        have start := flat front.length (by
          unfold index
          rw [← whole, idxOf_append absent]
          rfl)
        rw [start] at found
        cases found
    · exact String.toList_ofList
  · rw [rest]
    cases blank : (strippedURL rawURL).toList.rtakeWhile isSpace with
    | nil => rfl
    | cons head tail =>
        rw [List.dropWhile_cons_of_neg]
        intro slash
        rw [blank, of_decide_eq_true slash] at spaces
        exact spaces List.mem_cons_self
  · intro last
    exact spaces (List.mem_of_getLast? last)

theorem hasPrefix_iff (text lead : String) : hasPrefix text lead = true ↔ lead.toList <+: text.toList := by
  unfold hasPrefix
  exact List.isPrefixOf_iff_prefix

theorem NamesRepo.unique {bare : String} {info other : RepoInfo} (names : NamesRepo bare info) (also : NamesRepo bare other) :
    info = other := by
  cases info with
  | mk host owner repo =>
      cases other with
      | mk host' owner' repo' =>
          obtain ⟨_, _, ⟨cut, none_⟩ | ⟨cut, some_⟩⟩ := names <;> obtain ⟨_, _, ⟨same, gone⟩ | ⟨same, left⟩⟩ := also <;>
            rw [cut] at same <;> simp_all

theorem parses_of_ok {rawURL : String} {info : RepoInfo} (ok : parseRepoURL rawURL = .ok info) :
    ParsesGrammar rawURL ↔ NamesRepo (bareURL rawURL) info := by
  unfold ParsesGrammar
  rw [ok]
  constructor
  · intro parses
    exact (parses info).mp rfl
  · intro names other
    constructor
    · rintro ⟨⟩
      exact names
    · intro also
      rw [names.unique also]

theorem parses_of_error {rawURL text : String} (failed : parseRepoURL rawURL = .error text) :
    ParsesGrammar rawURL ↔ ∀ info, ¬NamesRepo (bareURL rawURL) info := by
  unfold ParsesGrammar
  rw [failed]
  simp

/-- A second scheme leaves an empty segment. -/
theorem not_names_double {rawURL : String} (double : hasPrefix (trimmedURL rawURL) "https://http://" = true)
    (info : RepoInfo) : ¬NamesRepo (bareURL rawURL) info := by
  rw [hasPrefix_iff] at double
  obtain ⟨once, twice⟩ := (append_prefix_iff "https://".toList "http://".toList _).mp double
  obtain ⟨rest, same⟩ := twice
  have cut : splitAt (bareURL rawURL) '/' = "http:" :: "" :: (rest.splitOn '/').map String.ofList := by
    unfold splitAt bareURL
    rw [if_pos ((hasPrefix_iff _ _).mpr once), toList_trimPrefix, ← same]
    simp [List.splitOn_cons_eq_if_modifyHead]
  rintro ⟨_, owner, ⟨names, _⟩ | ⟨names, _⟩⟩ <;> rw [cut] at names <;> simp_all

theorem bareURL_single {rawURL : String} (single : hasPrefix (trimmedURL rawURL) "https://http://" = false) :
    bareURL rawURL = strippedURL rawURL := by
  unfold bareURL strippedURL
  split
  · next once =>
      apply String.toList_injective
      rw [toList_trimPrefix _ "http://", dropPrefix_absent]
      intro twice
      rw [toList_trimPrefix] at twice
      have double := (append_prefix_iff "https://".toList "http://".toList _).mpr ⟨(hasPrefix_iff _ _).mp once, twice⟩
      exact Bool.noConfusion (single.symm.trans ((hasPrefix_iff _ "https://http://").mpr double))
  · next never =>
      have same : trimPrefix (trimmedURL rawURL) "https://" = trimmedURL rawURL := by
        unfold trimPrefix
        rw [if_neg never]
      rw [same]

/-- Below a host the parser takes the first non-empty segment for the owner, and the next for the
repository. -/
theorem parses_below {rawURL : String} {host rest : List Char} (nonempty : host ≠ []) (slashless : '/' ∉ host)
    (whole : (strippedURL rawURL).toList = host ++ '/' :: rest) : ParsesGrammar rawURL ↔
      hasPrefix (trimmedURL rawURL) "https://http://" = false ∧
        (splitAt (strippedURL rawURL) '/').length ≤ 3 ∧ (splitAt (strippedURL rawURL) '/')[1]? ≠ some "" := by
  have cut : splitAt (strippedURL rawURL) '/' = String.ofList host :: (rest.splitOn '/').map String.ofList := by
    unfold splitAt
    rw [whole, List.splitOn_append_cons_self_of_not_mem slashless]
    rfl
  have written : ['/'].intercalate (rest.splitOn '/') = rest := List.intercalate_splitOn '/'
  obtain ⟨owner, more, kept, some_, ok⟩ := parse_below nonempty slashless whole
  rw [parses_of_ok ok]
  cases double : hasPrefix (trimmedURL rawURL) "https://http://" with
  | true => simp [not_names_double double]
  | false =>
      rw [bareURL_single double, cut]
      unfold NamesRepo
      rw [cut]
      cases pieces : rest.splitOn '/' with
      | nil => exact absurd pieces (List.splitOn_ne_nil _ _)
      | cons first later =>
          rw [pieces] at kept written
          by_cases empty : first = []
          · subst empty
            simp only [List.map_cons, String.ofList_nil, List.cons.injEq]
            simp [some_, Ne.symm]
          · rw [List.dropWhile_cons_of_neg (by simpa using empty)] at kept
            cases kept
            cases more with
            | nil => simp [nonempty, some_]
            | cons repo others =>
                cases others with
                | nil =>
                    have filled : repo ≠ [] := by
                      rintro rfl
                      have last : rest.getLast? = some '/' := by
                        rw [← written]
                        simp [List.intercalate, List.getLast?_append]
                      apply last_trimmedURL rawURL
                      rw [← last_strippedURL, whole]
                      simp [List.getLast?_append, List.getLast?_cons, last]
                    simp [nonempty, some_, filled]
                | cons next others => simp

theorem parses_flat {rawURL : String} (flat : ∀ idx ∈ index (strippedURL rawURL) '/', idx = 0) :
    ParsesGrammar rawURL ↔ ∀ last ∈ (trimmedURL rawURL).toList.getLast?, isSpace last = false := by
  have nameless (info : RepoInfo) : ¬NamesRepo (bareURL rawURL) info := by
    cases double : hasPrefix (trimmedURL rawURL) "https://http://" with
    | true => exact not_names_double double info
    | false =>
        rw [bareURL_single double]
        by_cases slash : '/' ∈ (strippedURL rawURL).toList
        · obtain ⟨front, back, cut, absent⟩ := List.eq_append_cons_of_mem slash
          have start := flat front.length (by
            unfold index
            rw [cut, idxOf_append absent]
            rfl)
          rw [List.length_eq_zero_iff] at start
          rintro ⟨host, _, ⟨names, _⟩ | ⟨names, _⟩⟩ <;> unfold splitAt at names <;>
            rw [cut, start, List.nil_append, List.splitOn_cons_eq_if_modifyHead, if_pos (by decide)] at names <;>
            simp_all
        · rintro ⟨_, _, ⟨names, _⟩ | ⟨names, _⟩⟩ <;> unfold splitAt at names <;>
            rw [List.splitOn_eq_singleton slash] at names <;> simp at names
  have blank : (strippedURL rawURL).toList.rtakeWhile isSpace = [] ↔
      ∀ last ∈ (trimmedURL rawURL).toList.getLast?, isSpace last = false := by
    rw [← last_strippedURL]
    exact rtakeWhile_eq_nil isSpace _
  have parsed := parse_flat flat
  by_cases empty : (strippedURL rawURL).toList.rtakeWhile isSpace = []
  · rw [if_pos empty] at parsed
    exact (parses_of_error parsed).trans ⟨fun _ => blank.mp empty, fun _ => nameless⟩
  · rw [if_neg empty] at parsed
    exact (parses_of_ok parsed).trans ⟨fun names => absurd names (nameless _), fun stays => absurd (blank.mpr stays) empty⟩

/-- `ParseRepoURL` accepts exactly its grammar on the regular URLs, and on no others. -/
theorem parses_grammar_iff (rawURL : String) : ParsesGrammar rawURL ↔ RegularURL rawURL := by
  unfold RegularURL
  cases found : index (strippedURL rawURL) '/' with
  | none => exact parses_flat (by simp [found])
  | some idx =>
      cases idx with
      | zero => exact parses_flat (by simp [found])
      | succ idx =>
          have member := List.isSome_idxOf?.mp (Option.isSome_of_eq_some found)
          obtain ⟨host, rest, whole, slashless⟩ := List.eq_append_cons_of_mem member
          unfold index at found
          rw [whole, idxOf_append slashless] at found
          refine parses_below ?_ slashless whole
          rintro rfl
          cases found

/-- An empty segment hides the repository, and a path below a repository, a second scheme and
white space in the place of an owner are accepted, too. -/
theorem parse_accepts_more :
    parseRepoURL "https://ghe.local/org//repo" = .ok ⟨"ghe.local", "org", ""⟩ ∧
    ¬ParsesGrammar "https://ghe.local/org//repo" ∧ ¬ParsesGrammar "https://ghe.local/org/repo/settings" ∧
    ¬ParsesGrammar "https://http://ghe.local/org" ∧ ¬ParsesGrammar "https://ghe.local /" := by
  have hidden : parseRepoURL "https://ghe.local/org//repo" = .ok ⟨"ghe.local", "org", ""⟩ := by decide +kernel
  have below : parseRepoURL "https://ghe.local/org/repo/settings" = .ok ⟨"ghe.local", "org", "repo"⟩ := by decide +kernel
  have twice : parseRepoURL "https://http://ghe.local/org" = .ok ⟨"ghe.local", "org", ""⟩ := by decide +kernel
  have blank : parseRepoURL "https://ghe.local /" = .ok ⟨"ghe.local", " ", ""⟩ := by decide +kernel
  refine ⟨hidden, ?_, ?_, ?_, ?_⟩
  · rw [parses_of_ok hidden]
    decide +kernel
  · rw [parses_of_ok below]
    decide +kernel
  · rw [parses_of_ok twice]
    decide +kernel
  · rw [parses_of_ok blank]
    decide +kernel

end RunnersMux
