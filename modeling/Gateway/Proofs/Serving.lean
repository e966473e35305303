import Gateway.Site
import Gateway.Proofs.Collecting
import Gateway.Proofs.Runs

/-!
What a site answers. A file is served if it is found and can be opened and measured. A request is
answered with one start and parts of a body, of which the last is final unless reading the file fails.
-/
namespace Gateway

namespace File

variable {file : File} (h : file.fault = none)

include h

theorem opens_of_whole : file.opens := by
  rw [opens, h]

theorem readError?_of_whole : file.readError? = none := by
  rw [readError?, h]

end File

namespace Lookup

variable {lookup : Lookup} {file : File}

theorem opened?_eq_some_iff :
    lookup.opened? = some file ↔ lookup.file? = some file ∧ file.opens :=
  Option.filter_eq_some_iff

theorem opened?_eq_none (h : lookup.file? = none) : lookup.opened? = none := by
  rw [opened?, h, Option.filter_none]

theorem isSome_opened? (h : lookup.file? = some file) : lookup.opened?.isSome = file.opens := by
  cases hopens : file.opens <;> simp [opened?, h, Option.filter_some, hopens]

end Lookup

namespace Site

theorem serves_iff {method : String} :
    serves method ↔ method.toLower = "get" ∨ method.toLower = "head" := by
  simp [serves, isGet, isHead]

theorem notices_of_found {path : String} {lookup : Lookup} {file : File}
    (h : lookup.file? = some file) : notices path lookup = [] := by
  cases lookup with
  | found p file => rfl
  | escaped target => simp [Lookup.file?] at h
  | missing => rfl

section Reading

variable {method : String}

theorem chunksFor_of_get (h : method.toLower = "get") (file : File) :
    chunksFor method file = chunksOf chunkSize file.data := by
  simp [chunksFor, isHead, h]

theorem chunksFor_of_head (h : method.toLower = "head") (file : File) :
    chunksFor method file = [] := by
  simp [chunksFor, isHead, h]

theorem readError?_eq_some_iff {file : File} {error : String} :
    readError? method file = some error ↔
      method.toLower = "get" ∧ file.readError? = some error := by
  simp [readError?, isGet]

end Reading

section Synchronous

variable {site : Site} {r : CgiRequest}

theorem syncApp_of_opened {file : File} (hs : serves r.method)
    (ho : (site.resolve r.path.toList).opened? = some file) :
    site.syncApp r =
      { sink := [.start 200 (fileHeaders r.path file)], request := r
        result := .body { chunks := chunksFor r.method file }
        events := readNotices r.method file } := by
  simp [syncApp, hs, ho]

theorem syncApp_of_not_opened (hs : serves r.method)
    (ho : (site.resolve r.path.toList).opened? = none) :
    site.syncApp r =
      { sink := [.start 404 [textPlain]], request := r
        result := .body { chunks := [Text.utf8 "Not Found"] }
        events := notices r.path (site.resolve r.path.toList) } := by
  simp [syncApp, hs, ho]

end Synchronous

/-- The status of the answer to a request. -/
def status (site : Site) (method path : String) : Nat :=
  if serves method then
    if (site.resolve path.toList).opened?.isSome then 200 else 404
  else 405

theorem status_of_found {site : Site} {path : String} {file : File} (method : String)
    (hf : (site.resolve path.toList).file? = some file) :
    site.status method path =
      if serves method then if file.opens then 200 else 404 else 405 := by
  rw [status, Lookup.isSome_opened? hf]

theorem isStatus_status (site : Site) (method path : String) :
    Http.Response.isStatus (site.status method path) := by
  unfold status
  split
  · split <;> rfl
  · rfl

theorem response_of_opened {site : Site} {method path : String} {file : File}
    (hs : serves method) (ho : (site.resolve path.toList).opened? = some file) :
    site.response method path = fileResponse method path file := by
  simp [response, hs, ho]

/-- Reading fails exactly where a GET leads to a file that can be opened but not be read to its end. -/
theorem failure?_eq_some_iff {site : Site} {method path error : String} :
    site.failure? method path = some error ↔ method.toLower = "get" ∧
      ∃ file, (site.resolve path.toList).opened? = some file ∧ file.readError? = some error := by
  simp only [failure?, Option.bind_eq_some_iff, readError?_eq_some_iff]
  constructor
  · rintro ⟨file, ho, hget, herror⟩
    exact ⟨hget, file, ho, herror⟩
  · rintro ⟨hget, file, ho, herror⟩
    exact ⟨file, ho, hget, herror⟩

theorem failure?_of_not_serves {site : Site} {method : String} (path : String)
    (h : ¬ serves method) : site.failure? method path = none := by
  refine Option.eq_none_iff_forall_ne_some.2 fun error herror => ?_
  exact h (serves_iff.2 (.inl (failure?_eq_some_iff.1 herror).1))

theorem failure?_of_readable {site : Site} {path : String} (method : String)
    (h : ∀ file, (site.resolve path.toList).file? = some file → file.readError? = none) :
    site.failure? method path = none := by
  refine Option.eq_none_iff_forall_ne_some.2 fun error herror => ?_
  obtain ⟨-, file, ho, hread⟩ := failure?_eq_some_iff.1 herror
  rw [h file (Lookup.opened?_eq_some_iff.1 ho).1] at hread
  nomatch hread

section Whole

variable {site : Site} {path : String} {file : File}
  (hf : (site.resolve path.toList).file? = some file) (hwhole : file.fault = none)

include hf hwhole

theorem opened?_of_whole : (site.resolve path.toList).opened? = some file :=
  Lookup.opened?_eq_some_iff.2 ⟨hf, File.opens_of_whole hwhole⟩

theorem failure?_of_whole (method : String) : site.failure? method path = none := by
  refine failure?_of_readable method fun file' hf' => ?_
  rw [← Option.some.inj (hf.symm.trans hf'), File.readError?_of_whole hwhole]

theorem response_of_whole {method : String} (hs : serves method) :
    site.response method path = .responseStart 200 (fileHeaders path file) ::
      (Collection.parts (chunksFor method file) ++ [.responseBody [] false]) := by
  have hnone := failure?_of_whole hf hwhole method
  rw [failure?, opened?_of_whole hf hwhole, Option.bind_some] at hnone
  rw [response_of_opened hs (opened?_of_whole hf hwhole), fileResponse, hnone]
  rfl

theorem syncApp_of_whole {r : CgiRequest} (hpath : r.path = path) (hs : serves r.method) :
    site.syncApp r =
      { sink := [.start 200 (fileHeaders path file)], request := r
        result := .body { chunks := chunksFor r.method file } } := by
  subst hpath
  have hnone := failure?_of_whole hf hwhole r.method
  rw [failure?, opened?_of_whole hf hwhole, Option.bind_some] at hnone
  rw [syncApp_of_opened hs (opened?_of_whole hf hwhole), readNotices, hnone]
  rfl

end Whole

theorem outcome_of_failure? {site : Site} {method path : String}
    (h : site.failure? method path = none) : site.outcome method path = .ok () := by
  rw [outcome, h]

/-- A request is answered with one start and parts of a body. The last of these is final, but there is
none that is where reading fails. -/
theorem exists_response_eq (site : Site) (method path : String) :
    ∃ headers chunks last, site.response method path =
      .responseStart (site.status method path) headers :: (Collection.parts chunks ++
        if (site.failure? method path).isSome then [] else [.responseBody last false]) := by
  by_cases hs : serves method
  · rw [failure?, status, if_pos hs]
    cases ho : (site.resolve path.toList).opened? with
    | none => exact ⟨[textPlain], [], Text.utf8 "Not Found", by simp [response, hs, ho]; rfl⟩
    | some file =>
      refine ⟨fileHeaders path file, chunksFor method file, [], ?_⟩
      rw [response_of_opened hs ho]
      rfl
  · rw [failure?_of_not_serves path hs, status, if_neg hs, response, if_pos (by simp [hs])]
    exact ⟨_, [], _, rfl⟩

theorem exists_asyncApp_eq (site : Site) {scope : Scope} (h : scope.kind = .http) :
    ∃ es, site.asyncApp scope = .tellAll es (site.program scope.method scope.path) :=
  ⟨_, if_neg (by simp [h])⟩

/-- A host that reads gets the whole answer to a request. -/
theorem transcript_asyncApp (site : Site) {scope : Scope} (h : scope.kind = .http)
    (incoming : List Message) :
    let call := (site.asyncApp scope).transcript incoming true
    call.sent = site.response scope.method scope.path ∧
      call.standing = .returned (site.outcome scope.method scope.path) := by
  intro call
  obtain ⟨es, hprogram⟩ := site.exists_asyncApp_eq h
  obtain ⟨hsent, hstanding⟩ :=
    Program.transcript_tellAll es (site.program scope.method scope.path) incoming true
  rw [← hprogram, program] at hsent hstanding
  constructor
  · rw [hsent, Program.transcript_sendAll, if_pos rfl]
  · rw [hstanding, Program.standing_transcript_sendAll]

/-- A root with one file in it. -/
def holding (file : File) : Site where
  volume := { entries := [([['p']], .directory), ([['p'], ['a']], .file file)] }
  root := "/p".toList

theorem resolve_holding (file : File) :
    (holding file).resolve "/./a".toList = .found [['p'], ['a']] file := by
  have hroot : (holding file).volume.canonical? (holding file).root = some [['p']] := by
    have hsegments : Path.segments "/p".toList = [[], ['p']] := by decide
    show (holding file).volume.canonical? "/p".toList = _
    rw [Volume.canonical?, if_neg (by decide), hsegments]
    simp +decide [Volume.walk, holding, Volume.isDirectory, Volume.entry?]
  have hfile : (holding file).volume.canonical? ((holding file).candidate "/./a".toList) =
      some [['p'], ['a']] := by
    have hsegments : Path.segments "/p/a".toList = [[], ['p'], ['a']] := by decide
    show (holding file).volume.canonical? "/p/a".toList = _
    rw [Volume.canonical?, if_neg (by decide), hsegments]
    simp +decide [Volume.walk, holding, Volume.isDirectory, Volume.entry?, List.lookup_cons]
  rw [resolve, hroot, hfile]
  rfl

end Site

end Gateway
