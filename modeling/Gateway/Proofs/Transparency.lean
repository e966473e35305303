import Gateway.Front
import Gateway.Proofs.Serving

/-!
What the front adds to an application: a request for a file of the site is answered without it, and
any other call is its own, made once, behind the mount point. An application is called in a monad,
so that a call that was not made, or was made twice, makes a difference.
-/
namespace Gateway

namespace Site

theorem asyncApp_of_found {site : Site} {scope : Scope} {file : File} (hk : scope.kind = .http)
    (hf : (site.resolve scope.path.toList).file? = some file) :
    site.asyncApp scope = site.program scope.method scope.path := by
  have htell : (if serves scope.method then
      notices scope.path (site.resolve scope.path.toList) else []) = [] := by
    rw [notices_of_found hf, ite_self]
  rw [asyncApp, if_neg (by simp [hk]), htell]
  rfl

end Site

namespace Front

variable {m : Type → Type} [Monad m]

/-- The events of the lookup that comes before a synchronous application. -/
def lookupEvents (front : Front) (r : CgiRequest) : List Event :=
  if Site.serves r.method then Site.notices r.path (front.site.resolve r.path.toList) else []

theorem attempt_of_opened {front : Front} {r : CgiRequest} {file : File}
    (hs : Site.serves r.method) (ho : (front.site.resolve r.path.toList).opened? = some file) :
    front.attempt r = .answered (front.site.syncApp r) := by
  rw [attempt, if_neg (by simp [hs]), Site.syncApp_of_opened hs ho]
  rfl

/-- What the site says in place of a file is dropped. -/
theorem attempt_of_not_opened {front : Front} {r : CgiRequest}
    (ho : Site.serves r.method → (front.site.resolve r.path.toList).opened? = none) :
    front.attempt r = .passed r (front.lookupEvents r) := by
  by_cases hs : Site.serves r.method
  · rw [attempt, if_neg (by simp [hs]), Site.syncApp_of_not_opened hs (ho hs), lookupEvents,
      if_pos hs]
    rfl
  · rw [attempt, if_pos (by simp [hs]), lookupEvents, if_neg hs]

theorem syncM_of_opened {front : Front} {r : CgiRequest} {file : File}
    (app : CgiRequest → m SyncRun) (hs : Site.serves r.method)
    (ho : (front.site.resolve (r.behind front.mount).path.toList).opened? = some file) :
    front.syncM app r = pure (front.site.syncApp (r.behind front.mount)) := by
  have hs' : Site.serves (r.behind front.mount).method := (r.method_behind front.mount).symm ▸ hs
  rw [syncM, attempt_of_opened hs' ho]

theorem syncM_of_not_opened {front : Front} {r : CgiRequest} (app : CgiRequest → m SyncRun)
    (ho : Site.serves r.method →
      (front.site.resolve (r.behind front.mount).path.toList).opened? = none) :
    front.syncM app r = do
      let run ← app (r.behind front.mount)
      return { run with events := front.lookupEvents (r.behind front.mount) ++ run.events } := by
  rw [← r.method_behind front.mount] at ho
  rw [syncM, attempt_of_not_opened ho]

/-- A synchronous application behind a front is not called for a file of the site that can be opened. For
any other request it is called once, with the request behind the mount point. -/
theorem syncM_transparent (front : Front) (app : CgiRequest → m SyncRun) (r : CgiRequest) :
    let inner := r.behind front.mount
    let lookup := front.site.resolve inner.path.toList
    let served (file : File) := (r.method.toLower = "get" ∨ r.method.toLower = "head") ∧
      lookup.file? = some file ∧ file.opens
    inner.input = r.input ∧
      (∀ file, served file → ∃ headers body, front.syncM app r =
        pure { sink := [.start 200 headers], request := inner, result := .body body
               events := Site.readNotices r.method file }) ∧
      ((∀ file, ¬ served file) → front.syncM app r = do
        let run ← app inner
        return { run with events := front.lookupEvents inner ++ run.events }) := by
  intro inner lookup served
  refine ⟨r.input_behind front.mount, ?_, ?_⟩
  · rintro file ⟨hs, hf⟩
    have ho : lookup.opened? = some file := Lookup.opened?_eq_some_iff.2 hf
    have hserves : Site.serves r.method := Site.serves_iff.2 hs
    have hinner : Site.serves inner.method := (r.method_behind front.mount).symm ▸ hserves
    have hrun := syncM_of_opened app hserves ho
    rw [Site.syncApp_of_opened hinner ho, r.method_behind front.mount] at hrun
    exact ⟨_, _, hrun⟩
  · intro hnot
    refine syncM_of_not_opened app fun hs => ?_
    refine Option.eq_none_iff_forall_ne_some.2 fun file ho => ?_
    exact hnot file ⟨Site.serves_iff.1 hs, Lookup.opened?_eq_some_iff.1 ho⟩

theorem lookup_behind_eq_some_iff {front : Front} {scope : Scope} {file : File} :
    (front.lookup (scope.behind front.mount)).file? = some file ↔ scope.kind = .http ∧
      (front.site.resolve (scope.behind front.mount).path.toList).file? = some file := by
  rw [lookup, scope.kind_behind front.mount]
  by_cases hk : scope.kind = .http
  · simp [hk]
  · simp [hk, Lookup.file?]

theorem asyncM_of_found {front : Front} {scope : Scope} {file : File} (app : Scope → m Program)
    (h : (front.lookup (scope.behind front.mount)).file? = some file) :
    front.asyncM app scope =
      pure (front.site.program scope.method (scope.behind front.mount).path) := by
  obtain ⟨hk, hf⟩ := lookup_behind_eq_some_iff.1 h
  have hinner : (scope.behind front.mount).kind = .http := (scope.kind_behind front.mount).trans hk
  rw [asyncM, if_neg (by simp [hk])]
  simp only [h, Site.asyncApp_of_found hinner hf, scope.method_behind]

theorem asyncM_of_not_found {front : Front} {scope : Scope} (app : Scope → m Program)
    (hk : scope.kind ≠ .lifespan) (h : (front.lookup (scope.behind front.mount)).file? = none) :
    front.asyncM app scope = do
      let program ← app (scope.behind front.mount)
      return .tellAll (Site.notices (scope.behind front.mount).path
        (front.lookup (scope.behind front.mount))) program := by
  rw [asyncM, if_neg hk]
  simp only [h]

/-- An asynchronous application is called once with a lifespan as it is, and once behind the mount point for a
path to no file. A file never reaches it, and is a 404 where it cannot be opened. -/
theorem asyncM_transparent (front : Front) (app : Scope → m Program) (scope : Scope) :
    let inner := scope.behind front.mount
    let lookup := front.site.resolve inner.path.toList
    let notices := Site.notices inner.path (front.lookup inner)
    let status (file : File) :=
      if scope.method.toLower = "get" ∨ scope.method.toLower = "head" then
        if file.opens then 200 else 404
      else 405
    (scope.kind = .lifespan → front.asyncM app scope = app scope) ∧
      (scope.kind = .http → ∀ file, lookup.file? = some file → ∃ headers parts result,
        let ms := .responseStart (status file) headers :: parts
        front.asyncM app scope = pure (.sendAll ms (.finish result)) ∧
        (∀ m ∈ parts, ∃ body more, m = .responseBody body more) ∧
        (file.readError? = none → result = .ok ()) ∧
        ∀ incoming listening,
          ((Program.sendAll ms (.finish result)).transcript incoming listening).sent =
            if listening then ms else []) ∧
      (scope.kind ≠ .lifespan → (scope.kind = .http → lookup.file? = none) →
        (front.asyncM app scope = do
          let program ← app inner
          return .tellAll notices program) ∧
        ∀ (program : Program) {σ : Type} (relieve : σ → Channel → σ × Channel) (host : σ)
          (c : Channel), (Program.tellAll notices program).advance relieve host c [] =
            (program.advance relieve host c []).after notices) := by
  intro inner lookup notices status
  refine ⟨fun hlife => by rw [asyncM, if_pos hlife], ?_, ?_⟩
  · intro hhttp file hf
    obtain ⟨headers, chunks, last, hresponse⟩ :=
      front.site.exists_response_eq scope.method inner.path
    have hstatus : front.site.status scope.method inner.path = status file := by
      simp only [Site.status_of_found scope.method hf, Site.serves_iff, status]
    have hrun := asyncM_of_found app (lookup_behind_eq_some_iff.2 ⟨hhttp, hf⟩)
    rw [Site.program, hresponse, hstatus] at hrun
    refine ⟨headers, _, _, hrun, fun m hm => ?_, fun hread => ?_,
      fun incoming listening => Program.transcript_sendAll _ _ incoming listening⟩
    · rcases List.mem_append.1 hm with hm | hm
      · obtain ⟨chunk, -, rfl⟩ := List.mem_map.1 hm
        exact ⟨chunk, true, rfl⟩
      · split at hm
        · contradiction
        · exact ⟨last, false, List.mem_singleton.1 hm⟩
    · refine Site.outcome_of_failure? (Site.failure?_of_readable scope.method fun file' hf' => ?_)
      rwa [← Option.some.inj (hf.symm.trans hf')]
  · intro hlife hnone
    have hlookup : (front.lookup inner).file? = none := by
      refine Option.eq_none_iff_forall_ne_some.2 fun file hfile => ?_
      obtain ⟨hhttp, hf⟩ := lookup_behind_eq_some_iff.1 hfile
      exact Option.some_ne_none file (hf.symm.trans (hnone hhttp))
    exact ⟨asyncM_of_not_found app hlife hlookup,
      fun program _ relieve host c => Program.advance_tellAll relieve notices program host c⟩

/-- A file that cannot be opened hides the application: the site answers the request with a 404. -/
theorem async_unopenable :
    let front : Front := ⟨.disabled, .holding { data := [], fault := some .unopenable }⟩
    let scope := Scope.http "GET" "/./a"
    (∃ file, (front.site.resolve (scope.behind front.mount).path.toList).file? = some file) ∧
      ∀ app : AsyncApp, ((front.async app scope).transcript [] true).sent =
        [.responseStart 404 [Site.textPlain], .responseBody (Text.utf8 "Not Found") false] := by
  intro front scope
  let file : File := { data := [], fault := some .unopenable }
  have hfound : (front.lookup (scope.behind front.mount)).file? = some file :=
    congrArg Lookup.file? (Site.resolve_holding file)
  refine ⟨⟨file, hfound⟩, fun app => ?_⟩
  have hserves : Site.serves scope.method := by decide +kernel
  have hclosed : (front.site.resolve "/./a".toList).opened? = none := by
    rw [Site.resolve_holding]
    rfl
  have hresponse : front.site.response scope.method "/./a" =
      [.responseStart 404 [Site.textPlain], .responseBody (Text.utf8 "Not Found") false] := by
    rw [Site.response, if_neg (by simp [hserves]), hclosed]
    rfl
  have hrun : front.async app scope = front.site.program scope.method "/./a" :=
    asyncM_of_found (m := Id) app hfound
  rw [hrun, Site.program, hresponse, Program.transcript_sendAll, if_pos rfl]

end Front
end Gateway
