import Gateway.Proofs.Mounting

/-!
The two ways to serve a file agree. A request and a connection with the same method and path lose the
same mount point, are answered by the front for the same files, and get the same status, headers and
bytes.
-/
namespace Gateway

namespace Mount

theorem isAbsolute_strip (path mount : String) : Path.isAbsolute (strip path mount).path.toList := by
  unfold strip
  dsimp only
  split
  · next rest h =>
    rw [String.toList_ofList, Path.isAbsolute_iff]
    rcases (remainder_eq_some_iff.1 h).2 with ⟨-, rfl⟩ | ⟨r, rfl, -⟩
    · exact ⟨[], rfl⟩
    · exact ⟨r, rfl⟩
  · rw [String.toList_ofList]
    exact Path.isAbsolute_rootedChars _

theorem path_strip_of_not_isMatch {path mount : String} (habs : Path.isAbsolute path.toList)
    (h : ¬ (strip path mount).isMatch) : (strip path mount).path = path := by
  rw [path_strip_eq_rootedChars h, rootedChars_of_isAbsolute habs, String.ofList_toList]

end Mount

theorem CgiRequest.get?_pathInfo_behind (r : CgiRequest) (m : Mount) :
    (r.behind m).get? pathInfo = some (Mount.strip r.path m.text).path := by
  have hroot : ¬ pathInfo = scriptName := by decide
  unfold behind
  dsimp only
  split <;> simp only [get?_set, if_neg hroot, if_pos]

/-- Moving behind a mount point sets two variables only. -/
theorem CgiRequest.get?_behind {key : String} (hpath : key ≠ pathInfo) (hroot : key ≠ scriptName)
    (r : CgiRequest) (m : Mount) : (r.behind m).get? key = r.get? key := by
  unfold behind
  dsimp only
  split <;> simp only [get?_set, if_neg hroot, if_neg hpath]

theorem CgiRequest.path_behind (r : CgiRequest) (m : Mount) :
    (r.behind m).path = (Mount.strip r.path m.text).path := by
  have hne : (Mount.strip r.path m.text).path.isEmpty = false := by
    have habs := Mount.isAbsolute_strip r.path m.text
    apply Bool.eq_false_iff.2
    intro hempty
    rw [String.isEmpty_iff.1 hempty] at habs
    exact absurd habs (by decide)
  rw [path, get?_pathInfo_behind]
  simp only [hne]
  rfl

theorem Scope.path_behind {s : Scope} (habs : Path.isAbsolute s.path.toList) (m : Mount) :
    (s.behind m).path = (Mount.strip s.path m.text).path := by
  unfold behind
  dsimp only
  split
  · rfl
  · next hmatch => exact (Mount.path_strip_of_not_isMatch habs hmatch).symm

namespace Front

variable {front : Front} {r : CgiRequest} {s : Scope} {file : File}

/-- The run is the answer to the request, whatever application stands behind the front: none is
called. -/
def AnswersRequest (front : Front) (r : CgiRequest) (run : SyncRun) : Prop :=
  ∀ (m : Type → Type) [Monad m] (app : CgiRequest → m SyncRun), front.syncM app r = pure run

/-- The program is the answer to the connection, and no application is called. -/
def AnswersScope (front : Front) (s : Scope) (program : Program) : Prop :=
  ∀ (m : Type → Type) [Monad m] (app : Scope → m Program), front.asyncM app s = pure program

theorem answersRequest_of_opened (hs : Site.serves r.method)
    (ho : (front.site.resolve (r.behind front.mount).path.toList).opened? = some file) :
    front.AnswersRequest r (fileRun (r.behind front.mount) file) := by
  intro m _ app
  have hs' : Site.serves (r.behind front.mount).method := (r.method_behind front.mount).symm ▸ hs
  exact front.syncM_eq_fileRun rfl hs' ho app

theorem answersScope_of_found (hk : s.kind = .http)
    (hf : (front.site.resolve (s.behind front.mount).path.toList).file? = some file) :
    front.AnswersScope s (front.site.program s.method (s.behind front.mount).path) := by
  intro m _ app
  exact asyncM_of_found app (lookup_behind_eq_some_iff.2 ⟨hk, hf⟩)

/-- An application that fails to be called shows whether it is called. -/
theorem exists_answersRequest_iff (front : Front) (hs : Site.serves r.method) :
    (∃ run, front.AnswersRequest r run) ↔
      ∃ file, (front.site.resolve (r.behind front.mount).path.toList).opened? = some file := by
  constructor
  · rintro ⟨run, hrun⟩
    by_contra hno
    have hnone : (front.site.resolve (r.behind front.mount).path.toList).opened? = none :=
      Option.eq_none_iff_forall_ne_some.2 fun file ho => hno ⟨file, ho⟩
    have hcalled := syncM_of_not_opened (m := Option) (fun _ => none) fun _ => hnone
    rw [hrun] at hcalled
    nomatch hcalled
  · rintro ⟨file, ho⟩
    exact ⟨_, answersRequest_of_opened hs ho⟩

theorem exists_answersScope_iff (front : Front) (hk : s.kind = .http) :
    (∃ program, front.AnswersScope s program) ↔
      ∃ file, (front.site.resolve (s.behind front.mount).path.toList).file? = some file := by
  constructor
  · rintro ⟨program, hprogram⟩
    by_contra hno
    have hnone : (front.lookup (s.behind front.mount)).file? = none := by
      rw [front.lookup_eq ((s.kind_behind front.mount).trans hk)]
      exact Option.eq_none_iff_forall_ne_some.2 fun file hf => hno ⟨file, hf⟩
    have hcalled := asyncM_of_not_found (m := Option) (fun _ => none) (by simp [hk]) hnone
    rw [hprogram] at hcalled
    nomatch hcalled
  · rintro ⟨file, hf⟩
    exact ⟨_, answersScope_of_found hk hf⟩

/-- A GET or HEAD of one path is answered with a file in both conventions or in neither: by a 200 with the
same headers, and by chunks and parts that make up the same bytes. -/
theorem answers_agree (front : Front) {r : CgiRequest} {s : Scope} (hkind : s.kind = .http)
    (hmethod : r.method = s.method) (hpath : r.path = s.path)
    (habs : Path.isAbsolute s.path.toList)
    (hserved : s.method.toLower = "get" ∨ s.method.toLower = "head")
    (hwhole : ∀ file, (front.site.resolve (s.behind front.mount).path.toList).file? = some file →
      file.fault = none) :
    ((∃ run, front.AnswersRequest r run) ↔ ∃ program, front.AnswersScope s program) ∧
      ∀ run program, front.AnswersRequest r run → front.AnswersScope s program →
        ∃ headers chunks parts last,
          run.sink = [.start 200 headers] ∧ run.result = .body { chunks } ∧
          (∀ incoming,
            (program.transcript incoming true).sent = .responseStart 200 headers ::
              (Collection.parts parts ++ [.responseBody last false]) ∧
            (program.transcript incoming true).standing = .returned (.ok ())) ∧
          chunks.flatten = parts.flatten ++ last := by
  have hinner : (r.behind front.mount).path = (s.behind front.mount).path := by
    rw [CgiRequest.path_behind, Scope.path_behind habs, hpath]
  have hs : Site.serves s.method := Site.serves_iff.2 hserved
  have hs' : Site.serves r.method := hmethod ▸ hs
  have hrequest := exists_answersRequest_iff front hs'
  have hscope := exists_answersScope_iff front hkind
  rw [hinner] at hrequest
  have hopens {file : File}
      (hf : (front.site.resolve (s.behind front.mount).path.toList).file? = some file) :
      (front.site.resolve (s.behind front.mount).path.toList).opened? = some file :=
    Site.opened?_of_whole hf (hwhole file hf)
  refine ⟨⟨fun hrun => ?_, fun hprogram => ?_⟩, ?_⟩
  · obtain ⟨file, ho⟩ := hrequest.1 hrun
    exact hscope.2 ⟨file, (Lookup.opened?_eq_some_iff.1 ho).1⟩
  · obtain ⟨file, hf⟩ := hscope.1 hprogram
    exact hrequest.2 ⟨file, hopens hf⟩
  intro run program hrun hprogram
  obtain ⟨file, hf⟩ := hscope.1 ⟨program, hprogram⟩
  -- both answers are determined, so they are the ones of the file
  have hfile := answersRequest_of_opened hs' (hinner ▸ hopens hf)
  have hresponse := answersScope_of_found hkind hf
  obtain rfl : run = fileRun (r.behind front.mount) file :=
    (hrun Id fun _ => run).symm.trans (hfile Id fun _ => run)
  obtain rfl : program = front.site.program _ _ :=
    (hprogram Id fun _ => program).symm.trans (hresponse Id fun _ => program)
  have hread := Site.failure?_of_whole hf (hwhole file hf) s.method
  refine ⟨Site.fileHeaders (s.behind front.mount).path file, Site.chunksFor s.method file,
    Site.chunksFor s.method file, [], ?_, ?_, ?_, ?_⟩
  · rw [fileRun, hinner]
  · rw [fileRun, r.method_behind, hmethod]
  · intro incoming
    rw [Site.program, Site.response_of_whole hf (hwhole file hf) hs, Program.transcript_sendAll,
      if_pos rfl, Program.standing_transcript_sendAll, Site.outcome_of_failure? hread]
    exact ⟨rfl, rfl⟩
  · rw [List.append_nil]

/-- The file `/a` below `/svc`, asked for in a mixture of letter cases and under an outer root. -/
theorem answers_agree_linkedTree :
    let front : Front := ⟨.ofText "/svc", ⟨linkedTree [2], ['/', 'p']⟩⟩
    let r := (CgiRequest.ofPath "GeT" "/svc/a").set CgiRequest.scriptName "/outer/"
    let s := { Scope.http "GeT" "/svc/a" with rootPath := "/outer/" }
    s.kind = .http ∧ r.method = s.method ∧ r.path = s.path ∧ Path.isAbsolute s.path.toList ∧
      (s.method.toLower = "get" ∨ s.method.toLower = "head") ∧
      (front.site.resolve (s.behind front.mount).path.toList).file? = some (.ofData [1]) ∧
      ∃ run program headers, front.AnswersRequest r run ∧ front.AnswersScope s program ∧
        run.sink = [.start 200 headers] ∧
        (program.transcript [] true).sent.head? = some (.responseStart 200 headers) := by
  intro front r s
  have hserved : s.method.toLower = "get" ∨ s.method.toLower = "head" := .inl (by decide +kernel)
  have hfound : (front.site.resolve (s.behind front.mount).path.toList).file? =
      some (.ofData [1]) := by
    have hinner : (s.behind front.mount).path.toList = ['/', 'a'] := by decide
    rw [hinner, resolve_linkedTree]
    rfl
  have hmain := answers_agree front (r := r) (s := s) rfl rfl rfl (by decide) hserved
    fun file hf => by rw [← Option.some.inj (hfound.symm.trans hf)]; rfl
  obtain ⟨program, hprogram⟩ := (exists_answersScope_iff front rfl).2 ⟨.ofData [1], hfound⟩
  obtain ⟨run, hrun⟩ := hmain.1.2 ⟨program, hprogram⟩
  obtain ⟨headers, chunks, parts, last, hsink, -, hsent, -⟩ := hmain.2 run program hrun hprogram
  refine ⟨rfl, rfl, rfl, by decide, hserved, hfound, run, program, headers, hrun, hprogram, hsink, ?_⟩
  rw [(hsent []).1]
  rfl

end Front

end Gateway
