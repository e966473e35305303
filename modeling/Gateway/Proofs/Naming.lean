import Gateway.Proofs.Collapsing
import Gateway.Proofs.Containment
import Gateway.Proofs.Framing
import Mathlib.Data.List.TakeWhile

/-!
Spellings of one file. Collapsing keeps the name that a path ends in, except that a path may end by
going up and then ends in no name. Paths that collapse alike lead to the same file, and a site answers
them alike as far as the type of the file, which is told by that name.
-/
namespace Gateway

namespace Path

/-- The last step of the path goes up. -/
def EndsUp (path : List Char) : Prop := (names path).getLast? = some dotDot

instance (path : List Char) : Decidable (EndsUp path) :=
  inferInstanceAs (Decidable ((names path).getLast? = some dotDot))

theorem fileName?_eq_getLast? (path : List Char) :
    fileName? path = if EndsUp path then none else (names path).getLast? := by
  have hlast : ((segments path).reverse.dropWhile fun s => s = [] ∨ s = dot).head? =
      (names path).getLast? := by
    rw [names, List.getLast?_eq_head?_reverse, ← List.filter_reverse, List.head?_filter,
      List.find?_eq_head?_dropWhile_not]
    simp
  unfold fileName? EndsUp
  simp only [← hlast]
  split
  · next hnil => rw [hnil]; rfl
  · next s rest hcons => simp only [hcons, List.head?_cons, Option.some.injEq]

/-! ## What collapsing leaves -/

/-- What a collapsed path is made of: names, and steps up. -/
def IsStep (s : Segment) : Prop := (s ≠ [] ∧ s ≠ dot) ∧ '/' ∉ s

theorem isStep_dotDot : IsStep dotDot := by
  unfold IsStep
  decide

theorem mem_push {absolute : Bool} {above : List Segment} {s t : Segment}
    (h : t ∈ push absolute above s) : t ∈ above ∨ t = dotDot ∨ t = s ∧ s ≠ [] ∧ s ≠ dot := by
  unfold push at h
  split at h
  · exact .inl h
  · next hgoes =>
    split at h
    · split at h
      · split at h
        · exact absurd h List.not_mem_nil
        · exact .inr (.inl (List.mem_singleton.1 h))
      · split at h
        · split at h
          · exact .inl h
          · rcases List.mem_cons.1 h with rfl | h
            · exact .inr (.inl rfl)
            · exact .inl h
        · exact .inl (List.mem_cons_of_mem _ h)
    · rcases List.mem_cons.1 h with rfl | h
      · exact .inr (.inr ⟨rfl, not_or.1 hgoes⟩)
      · exact .inl h

theorem isStep_of_mem_foldl_push {absolute : Bool} {above ss : List Segment}
    (habove : ∀ s ∈ above, IsStep s) (hss : ∀ s ∈ ss, '/' ∉ s) :
    ∀ s ∈ ss.foldl (push absolute) above, IsStep s := by
  induction ss generalizing above with
  | nil => exact habove
  | cons s ss ih =>
    refine ih (fun t ht => ?_) fun t ht => hss t (List.mem_cons_of_mem s ht)
    rcases mem_push ht with ht | rfl | ⟨rfl, hgoes⟩
    · exact habove t ht
    · exact isStep_dotDot
    · exact ⟨hgoes, hss t List.mem_cons_self⟩

theorem isStep_of_mem_collapsedSegments {path : List Char} {s : Segment}
    (h : s ∈ collapsedSegments path) : IsStep s :=
  isStep_of_mem_foldl_push (fun _ hs => absurd hs List.not_mem_nil)
    (fun _ hs => slash_not_mem_of_mem_segments hs) s (List.mem_reverse.1 h)

/-- Collapsed text reads back as the segments it was made of. -/
theorem names_collapseChars (path : List Char) :
    names (collapseChars path) = collapsedSegments path := by
  have hsteps : ∀ s ∈ collapsedSegments path, IsStep s := fun s hs =>
    isStep_of_mem_collapsedSegments hs
  have hkeep : (collapsedSegments path).filter (fun s => s ≠ [] ∧ s ≠ dot) =
      collapsedSegments path :=
    List.filter_eq_self.2 fun s hs => decide_eq_true (hsteps s hs).1
  have hjoin : ∀ h : collapsedSegments path ≠ [],
      segments (join (collapsedSegments path)) = collapsedSegments path := fun h =>
    segments_join h fun s hs => (hsteps s hs).2
  unfold names collapseChars render
  by_cases hnil : collapsedSegments path = []
  · rw [hnil]
    cases isAbsolute path <;> decide
  · cases isAbsolute path with
    | true =>
      rw [if_pos rfl, segments, if_pos rfl, hjoin hnil]
      exact hkeep
    | false =>
      rw [if_neg Bool.false_ne_true, if_neg hnil, hjoin hnil, hkeep]

theorem foldl_push_filter (absolute : Bool) (above ss : List Segment) :
    (ss.filter fun s => s ≠ [] ∧ s ≠ dot).foldl (push absolute) above =
      ss.foldl (push absolute) above := by
  induction ss generalizing above with
  | nil => rfl
  | cons s ss ih =>
    by_cases hstay : s = [] ∨ s = dot
    · have hpush : push absolute above s = above := if_pos hstay
      rw [List.filter_cons_of_neg (by simpa [-not_and, not_and_or] using hstay), List.foldl_cons,
        hpush, ih]
    · rw [List.filter_cons_of_pos (by simpa [not_or] using hstay), List.foldl_cons,
        List.foldl_cons, ih]

/-- A path that does not end by going up ends where its collapsed form ends. -/
theorem getLast?_names_collapseChars {path : List Char} (h : ¬ EndsUp path) :
    (names (collapseChars path)).getLast? = (names path).getLast? := by
  have hwalk : collapsedSegments path =
      ((names path).foldl (push (isAbsolute path)) []).reverse := by
    rw [names, foldl_push_filter, collapsedSegments]
  rw [names_collapseChars, hwalk]
  rcases List.eq_nil_or_concat' (names path) with hnil | ⟨front, s, hconcat⟩
  · rw [hnil]
    rfl
  · have hs : s ∈ names path := by simp [hconcat]
    have hgoes : s ≠ [] ∧ s ≠ dot := by simpa [names] using (List.mem_filter.1 hs).2
    have hname : s ≠ dotDot := by
      rintro rfl
      exact h (by simp [EndsUp, hconcat])
    have hpush : ∀ above, push (isAbsolute path) above s = s :: above := fun above => by
      rw [push.eq_def, if_neg (not_or.2 hgoes), if_neg hname]
    rw [hconcat, List.foldl_append, List.foldl_cons, List.foldl_nil, hpush, List.reverse_cons]
    simp

theorem fileName?_eq_collapseChars (path : List Char) :
    fileName? path = if EndsUp path then none else fileName? (collapseChars path) := by
  by_cases h : EndsUp path
  · rw [fileName?_eq_getLast?, if_pos h, if_pos h]
  · have hlast := getLast?_names_collapseChars h
    have hup : ¬ EndsUp (collapseChars path) := by
      rwa [EndsUp, hlast]
    rw [if_neg h, fileName?_eq_getLast?, fileName?_eq_getLast?, if_neg h, if_neg hup, hlast]

end Path

/-- The type of a file is that of its collapsed path, and is unknown where the path ends by going up. -/
theorem MediaType.ofPath_eq_collapse (path : String) :
    ofPath path = if Path.EndsUp path.toList then unknown else ofPath (Path.collapse path) := by
  have hcollapse : (Path.collapse path).toList = Path.collapseChars path.toList :=
    String.toList_ofList
  unfold ofPath Path.extension?
  rw [Path.fileName?_eq_collapseChars, hcollapse]
  split <;> rfl

namespace Site

theorem resolve_requested (site : Site) (path : List Char) :
    site.resolve (requested path) = site.resolve path := by
  have hrequested : requested (requested path) = requested path := by
    unfold requested
    split <;> simp [*]
  simp only [resolve, candidate, hrequested]

/-- The root itself is no file, however it is asked for. -/
theorem file?_resolve_root (site : Site) {path : List Char}
    (h : (Path.collapseChars (requested path)).dropWhile (· = '/') = [] ∨
      (Path.collapseChars (requested path)).dropWhile (· = '/') = Path.dot) :
    (site.resolve path).file? = none := by
  refine (site.resolve_contained path).2.2 fun p file hholds => ?_
  obtain ⟨root, hroot, hbelow⟩ := hholds.isBelow
  have hleads := hholds.leads
  have hdir := isDirectory_of_canonical?_joined hroot hleads
  obtain ⟨n, hn⟩ := canonical?_joined hroot
  have hstays : site.volume.canonical? (site.candidate path) = some root := by
    rcases h with h | h <;>
      rw [candidate, h, hn _ (by decide)] <;>
      simp [Path.segments, Path.dot, Volume.walk, hdir]
  obtain rfl : root = p := Option.some.inj (hstays.symm.trans hleads)
  exact hbelow.2 rfl

/-- Paths that collapse alike lead to the same file. -/
theorem file?_resolve_eq (site : Site) {path path' : List Char}
    (h : Path.collapseChars path = Path.collapseChars path') :
    (site.resolve path).file? = (site.resolve path').file? := by
  -- the empty path is the root when it is asked for, but collapses to a dot
  have hempty : ∀ q, Path.collapseChars q = Path.collapseChars [] →
      (site.resolve q).file? = none := by
    intro q hq
    refine site.file?_resolve_root ?_
    by_cases hnil : q = []
    · subst hnil
      exact .inl (by decide)
    · rw [requested, if_neg hnil, hq]
      exact .inr (by decide)
  by_cases hpath : path = []
  · subst hpath
    rw [hempty [] rfl, hempty path' h.symm]
  · by_cases hpath' : path' = []
    · subst hpath'
      rw [hempty [] rfl, hempty path h]
    · simp only [resolve, candidate, requested, if_neg hpath, if_neg hpath', h]

theorem opened?_resolve_eq (site : Site) {path path' : List Char}
    (h : Path.collapseChars path = Path.collapseChars path') :
    (site.resolve path).opened? = (site.resolve path').opened? :=
  congrArg (Option.filter File.opens) (site.file?_resolve_eq h)

/-! ## Answers -/

/-- The type under which a site answers a path: that of the file that is opened, or of the text that
there is none. -/
def answeredType (site : Site) (path : String) : String :=
  if (site.resolve path.toList).opened?.isSome then MediaType.ofPath path else textPlain.2

theorem answeredType_eq_iff {site : Site} {path path' : String}
    (h : Path.collapse path = Path.collapse path') :
    site.answeredType path = site.answeredType path' ↔
      ((site.resolve path.toList).opened?.isSome →
        (Path.EndsUp path.toList ↔ Path.EndsUp path'.toList) ∨
          MediaType.ofPath (Path.collapse path) = MediaType.unknown) := by
  have hopened := site.opened?_resolve_eq (String.ofList_inj.1 h)
  rw [answeredType, answeredType, ← hopened]
  by_cases hfound : (site.resolve path.toList).opened?.isSome
  · rw [if_pos hfound, if_pos hfound, MediaType.ofPath_eq_collapse path,
      MediaType.ofPath_eq_collapse path', ← h]
    by_cases hup : Path.EndsUp path.toList <;> by_cases hup' : Path.EndsUp path'.toList <;>
      simp [hfound, hup, hup', eq_comm]
  · rw [if_neg hfound, if_neg hfound]
    exact iff_of_true rfl fun h => absurd h hfound

section Asked

variable (site : Site) (r : CgiRequest) (path : String)

theorem path_asked :
    (r.set CgiRequest.pathInfo path).path = if path.isEmpty then "/" else path := by
  rw [CgiRequest.path, CgiRequest.get?_set, if_pos rfl]

theorem method_asked : (r.set CgiRequest.pathInfo path).method = r.method := by
  have hne : ¬ CgiRequest.requestMethod = CgiRequest.pathInfo := by decide
  rw [CgiRequest.method, CgiRequest.get?_set, if_neg hne, CgiRequest.method]

theorem resolve_asked :
    site.resolve (r.set CgiRequest.pathInfo path).path.toList = site.resolve path.toList := by
  rw [path_asked, ← site.resolve_requested path.toList]
  by_cases h : path = ""
  · subst h
    rfl
  · rw [if_neg (by simpa using h), requested, if_neg (by simpa using h)]

theorem ne_empty_of_opened? {file : File} (h : (site.resolve path.toList).opened? = some file) :
    path ≠ "" := by
  rintro rfl
  rw [Lookup.opened?_eq_none (file?_resolve_root site (.inl (by decide)))] at h
  nomatch h

/-- A GET or a HEAD is answered by what the path leads to and by the type of the path. -/
theorem exists_syncApp_asked (hs : serves r.method) :
    ∃ status rest body, ∀ p : String,
      (site.resolve p.toList).opened? = (site.resolve path.toList).opened? →
      let run := site.syncApp (r.set CgiRequest.pathInfo p)
      run.sink = [.start status (("Content-Type", site.answeredType p) :: rest)] ∧
        run.result = .body body := by
  have hs' : ∀ p, serves (r.set CgiRequest.pathInfo p).method := fun p => by
    rwa [method_asked]
  cases ho : (site.resolve path.toList).opened? with
  | none =>
    refine ⟨404, [], ⟨[Text.utf8 "Not Found"], none⟩, fun p hp => ?_⟩
    have hasked := (congrArg Lookup.opened? (resolve_asked site r p)).trans hp
    rw [syncApp_of_not_opened (hs' p) hasked, answeredType, hp]
    exact ⟨rfl, rfl⟩
  | some file =>
    refine ⟨200, [("Content-Length", toString file.size)], ⟨chunksFor r.method file, none⟩,
      fun p hp => ?_⟩
    have hpath : (r.set CgiRequest.pathInfo p).path = p := by
      rw [path_asked, if_neg (by simpa using ne_empty_of_opened? site p hp)]
    have hasked := (congrArg Lookup.opened? (resolve_asked site r p)).trans hp
    rw [syncApp_of_opened (hs' p) hasked, answeredType, hp, method_asked, hpath]
    exact ⟨rfl, rfl⟩

theorem exists_response_asked {method : String} (hs : serves method) :
    ∃ status rest parts, ∀ p : String,
      (site.resolve p.toList).opened? = (site.resolve path.toList).opened? →
      site.response method p =
        .responseStart status (("Content-Type", site.answeredType p) :: rest) :: parts := by
  cases ho : (site.resolve path.toList).opened? with
  | none =>
    refine ⟨404, [], [.responseBody (Text.utf8 "Not Found") false], fun p hp => ?_⟩
    rw [response, if_neg (by simp [hs]), answeredType, hp]
    rfl
  | some file =>
    refine ⟨200, [("Content-Length", toString file.size)],
      (chunksFor method file).map (.responseBody · true) ++
        if (readError? method file).isSome then [] else [.responseBody [] false], fun p hp => ?_⟩
    rw [response_of_opened hs hp, answeredType, hp]
    rfl

end Asked

/-- Two spellings of one path are answered alike but for the type, which is the same exactly if no file is
opened, both paths end by going up or neither does, or the type would be unknown anyway. -/
theorem answer_eq_iff_of_collapse_eq (site : Site) {path path' method : String}
    (hpath : Path.collapse path = Path.collapse path')
    (hserved : method.toLower = "get" ∨ method.toLower = "head") :
    let alike := (site.resolve path.toList).opened?.isSome →
      (Path.EndsUp path.toList ↔ Path.EndsUp path'.toList) ∨
        MediaType.ofPath (Path.collapse path) = MediaType.unknown
    (∀ r : CgiRequest, r.method = method → ∃ status type type' rest body,
      let run := site.syncApp (r.set CgiRequest.pathInfo path)
      let run' := site.syncApp (r.set CgiRequest.pathInfo path')
      run.sink = [.start status (("Content-Type", type) :: rest)] ∧ run.result = .body body ∧
        run'.sink = [.start status (("Content-Type", type') :: rest)] ∧ run'.result = .body body ∧
        (type = type' ↔ alike)) ∧
    ∀ s : Scope, s.kind = .http → s.method = method → ∀ incoming,
      ∃ status type type' rest parts result,
      let call := (site.asyncApp { s with path := path }).transcript incoming true
      let call' := (site.asyncApp { s with path := path' }).transcript incoming true
      call.sent = .responseStart status (("Content-Type", type) :: rest) :: parts ∧
        call'.sent = .responseStart status (("Content-Type", type') :: rest) :: parts ∧
        call.standing = .returned result ∧ call'.standing = .returned result ∧
        ((∀ file, (site.resolve path.toList).file? = some file → file.readError? = none) →
          result = .ok ()) ∧
        (type = type' ↔ alike) := by
  intro alike
  have hserves : serves method := serves_iff.2 hserved
  have hopened := site.opened?_resolve_eq (String.ofList_inj.1 hpath)
  have htype : site.answeredType path = site.answeredType path' ↔ alike := answeredType_eq_iff hpath
  refine ⟨fun r hr => ?_, fun s hkind hmethod incoming => ?_⟩
  · obtain ⟨status, rest, body, hrun⟩ := site.exists_syncApp_asked r path (hr ▸ hserves)
    obtain ⟨hsink, hresult⟩ := hrun path rfl
    obtain ⟨hsink', hresult'⟩ := hrun path' hopened.symm
    exact ⟨status, _, _, rest, body, hsink, hresult, hsink', hresult', htype⟩
  · obtain ⟨status, rest, parts, hresponse⟩ := site.exists_response_asked path hserves
    have hcall : ∀ p, let call := (site.asyncApp { s with path := p }).transcript incoming true
        call.sent = site.response method p ∧
          call.standing = .returned (site.outcome method p) := by
      intro p
      subst hmethod
      have hasked : { s with path := p }.kind = .http := hkind
      exact site.transcript_asyncApp hasked incoming
    obtain ⟨hsent, hend⟩ := hcall path
    obtain ⟨hsent', hend'⟩ := hcall path'
    have houtcome : site.outcome method path' = site.outcome method path := by
      simp only [outcome, failure?, hopened]
    rw [houtcome] at hend'
    exact ⟨status, _, _, rest, parts, _, hsent.trans (hresponse path rfl),
      hsent'.trans (hresponse path' hopened.symm), hend, hend',
      fun hread => outcome_of_failure? (failure?_of_readable method hread), htype⟩

/-- A root with a style sheet in it. -/
def styled : Site where
  volume := { entries := [([['p']], .directory), ([['p'], "a.css".toList], .file (.ofData [1, 2]))] }
  root := "/p".toList

theorem file?_resolve_styled {path : List Char} (h : Path.collapseChars path = "/a.css".toList) :
    (styled.resolve path).file? = some (.ofData [1, 2]) := by
  have hroot : styled.volume.canonical? styled.root = some [['p']] := by
    have hsegments : Path.segments styled.root = [[], ['p']] := by decide
    rw [Volume.canonical?, if_neg (by decide), hsegments]
    simp +decide [Volume.walk, styled, Volume.entry?]
  have hsheet : styled.volume.canonical? (styled.candidate "/a.css".toList) =
      some [['p'], "a.css".toList] := by
    have hsegments : Path.segments (styled.candidate "/a.css".toList) =
        [[], ['p'], "a.css".toList] := by decide
    rw [Volume.canonical?, if_neg (by decide), hsegments]
    simp +decide [Volume.walk, styled, Volume.entry?]
  have hsame : Path.collapseChars path = Path.collapseChars "/a.css".toList := by
    rw [h]
    decide
  rw [styled.file?_resolve_eq hsame, resolve, hroot, hsheet]
  rfl

/-- Empty and `.` segments, and a way up before the name, make no difference. -/
theorem answer_eq_iff_of_collapse_eq_styled :
    let path := "//./a.css/./"
    let path' := "/x/../../a.css"
    let asked (p : String) := (CgiRequest.ofPath "HEAD" "").set CgiRequest.pathInfo p
    Path.collapse path = Path.collapse path' ∧
      ("HEAD".toLower = "get" ∨ "HEAD".toLower = "head") ∧
      (styled.syncApp (asked path)).sink = (styled.syncApp (asked path')).sink ∧
      ((styled.asyncApp (.http "HEAD" path)).transcript [] true).sent =
        ((styled.asyncApp (.http "HEAD" path')).transcript [] true).sent := by
  intro path path' asked
  have hpath : Path.collapse path = Path.collapse path' := by decide
  have hserved : "HEAD".toLower = "get" ∨ "HEAD".toLower = "head" := .inr (by decide +kernel)
  have halike : Path.EndsUp path.toList ↔ Path.EndsUp path'.toList := by decide
  obtain ⟨hsync, hasync⟩ := answer_eq_iff_of_collapse_eq styled hpath hserved
  obtain ⟨status, type, type', rest, body, hsink, -, hsink', -, htype⟩ :=
    hsync (.ofPath "HEAD" "") rfl
  obtain ⟨status₁, type₁, type₁', rest₁, parts, -, hsent, hsent', -, -, -, htype₁⟩ :=
    hasync (.http "HEAD" "") rfl rfl []
  obtain rfl : type = type' := htype.2 fun _ => .inl halike
  obtain rfl : type₁ = type₁' := htype₁.2 fun _ => .inl halike
  exact ⟨hpath, hserved, hsink.trans hsink'.symm, hsent.trans hsent'.symm⟩

/-- A way down from the file and up again leads to the file, whose type is then unknown. -/
theorem answer_ne_styled_endsUp :
    let path := "/a.css"
    let path' := "/a.css/x/.."
    let answer (p : String) := styled.syncApp (.ofPath "GET" p)
    Path.collapse path = Path.collapse path' ∧
      (answer path).sink =
        [.start 200 [("Content-Type", "text/css; charset=utf-8"), ("Content-Length", "2")]] ∧
      (answer path').sink =
        [.start 200 [("Content-Type", "application/octet-stream"), ("Content-Length", "2")]] ∧
      (answer path).result = (answer path').result := by
  intro path path' answer
  have hanswer : ∀ p : String, p.isEmpty = false → Path.collapseChars p.toList = "/a.css".toList →
      answer p =
        { sink := [.start 200 (fileHeaders p (.ofData [1, 2]))], request := .ofPath "GET" p
          result := .body { chunks := chunksFor "GET" (.ofData [1, 2]) } } := by
    intro p hne hp
    have hpath : (CgiRequest.ofPath "GET" p).path = p := by
      show (if p.isEmpty then "/" else p) = p
      rw [if_neg (by simp [hne])]
    have hserves : serves "GET" := by decide +kernel
    exact syncApp_of_whole (file?_resolve_styled hp) rfl hpath hserves
  rw [hanswer path (by decide) (by decide), hanswer path' (by decide) (by decide)]
  refine ⟨by decide, ?_, ?_, rfl⟩ <;> decide +kernel

end Site

end Gateway
