import Gateway.Exchange.Host
import Gateway.Proofs.Containment
import Gateway.Proofs.Scripts
import Gateway.Proofs.Stripping
import Gateway.Proofs.Transparency

/-!
A site mounted under a prefix behaves like the site itself. The mount point and the rest of a path
are decoded apart, so a request below the mount point is told to an application as the request for
the rest, except for its root.
-/
namespace Gateway

namespace CgiRequest

theorem setIn_setIn (key v w : String) (vs : List (String × String)) :
    setIn key w (setIn key v vs) = setIn key w vs := by
  induction vs with
  | nil => simp [setIn]
  | cons kv vs ih =>
    by_cases hk : kv.1 = key
    · simp [setIn, hk]
    · simp [setIn, hk, ih]

theorem setIn_self {key v : String} {vs : List (String × String)} (h : vs.lookup key = some v) :
    setIn key v vs = vs := by
  induction vs with
  | nil => contradiction
  | cons kv vs ih =>
    obtain ⟨k, x⟩ := kv
    by_cases hk : k = key
    · subst hk
      obtain rfl : x = v := by simpa using h
      simp [setIn]
    · have hb : (key == k) = false := beq_false_of_ne (Ne.symm hk)
      rw [List.lookup_cons, hb] at h
      rw [setIn, if_neg hk, ih h]

/-- A variable that is there keeps its place, so it may as well be set first. -/
theorem setIn_comm {key key' : String} (hne : key ≠ key') (v v' : String)
    {vs : List (String × String)} (h : (vs.lookup key').isSome) :
    setIn key v (setIn key' v' vs) = setIn key' v' (setIn key v vs) := by
  induction vs with
  | nil => contradiction
  | cons kv vs ih =>
    obtain ⟨k, x⟩ := kv
    by_cases hk' : k = key'
    · subst hk'
      simp [setIn, hne.symm]
    · have hb : (key' == k) = false := beq_false_of_ne (Ne.symm hk')
      rw [List.lookup_cons, hb] at h
      by_cases hk : k = key
      · subst hk
        simp [setIn, hk']
      · simp [setIn, hk, hk', ih h]

theorem set_set (r : CgiRequest) (key v w : String) : (r.set key v).set key w = r.set key w := by
  simp [set, setIn_setIn]

theorem set_self {r : CgiRequest} {key v : String} (h : r.get? key = some v) : r.set key v = r := by
  simp [set, setIn_self h]

/-- No header is stored under the name. -/
def IsOwn (key : String) : Prop := ∀ name, storedVariable name ≠ key

/-- The variables of the request line are its own: those of headers start otherwise. -/
theorem isOwn_of_head {key : String} (h : key.toList.head? ≠ some 'H') (htype : contentType ≠ key)
    (hlength : contentLength ≠ key) : IsOwn key := by
  intro name hname
  unfold storedVariable at hname
  split at hname
  · exact htype hname
  · split at hname
    · exact hlength hname
    · refine h ?_
      rw [← hname, headerVariable, String.toList_append]
      rfl

theorem isOwn_pathInfo : IsOwn pathInfo := isOwn_of_head (by decide) (by decide) (by decide)
theorem isOwn_scriptName : IsOwn scriptName := isOwn_of_head (by decide) (by decide) (by decide)
theorem isOwn_requestMethod : IsOwn requestMethod :=
  isOwn_of_head (by decide) (by decide) (by decide)

theorem get?_addHeader {key : String} (hkey : IsOwn key) (r : CgiRequest) (name value : String) :
    (r.addHeader name value).get? key = r.get? key := by
  unfold addHeader
  dsimp only
  split <;> rw [get?_set, if_neg (hkey name).symm]

theorem addHeader_set {key : String} (hkey : IsOwn key) {r : CgiRequest} (h : (r.get? key).isSome)
    (v name value : String) :
    (r.set key v).addHeader name value = (r.addHeader name value).set key v := by
  have hcomm : ∀ w, (r.set key v).set (storedVariable name) w =
      (r.set (storedVariable name) w).set key v := fun w => by
    simp only [set, setIn_comm (hkey name) w v h]
  unfold addHeader
  simp only [get?_set, if_neg (hkey name)]
  split <;> rw [hcomm]

/-- The request with more headers. -/
def addHeaders (r : CgiRequest) (fs : List Field) : CgiRequest :=
  fs.foldl (fun c f => c.addHeader f.1 f.2) r

theorem get?_addHeaders {key : String} (hkey : IsOwn key) (r : CgiRequest) (fs : List Field) :
    (r.addHeaders fs).get? key = r.get? key := by
  induction fs generalizing r with
  | nil => rfl
  | cons f fs ih => exact (ih (r.addHeader f.1 f.2)).trans (get?_addHeader hkey r f.1 f.2)

theorem input_addHeaders (r : CgiRequest) (fs : List Field) : (r.addHeaders fs).input = r.input := by
  induction fs generalizing r with
  | nil => rfl
  | cons f fs ih =>
    refine (ih (r.addHeader f.1 f.2)).trans ?_
    unfold addHeader
    dsimp only
    split <;> rfl

theorem addHeaders_set {key : String} (hkey : IsOwn key) {r : CgiRequest}
    (h : (r.get? key).isSome) (v : String) (fs : List Field) :
    (r.set key v).addHeaders fs = (r.addHeaders fs).set key v := by
  induction fs generalizing r with
  | nil => rfl
  | cons f fs ih =>
    show ((r.set key v).addHeader f.1 f.2).addHeaders fs = _
    rw [addHeader_set hkey h]
    exact ih ((get?_addHeader hkey r f.1 f.2).symm ▸ h)

end CgiRequest

namespace Mount

theorem strip_disabled {path : String} (hpath : Path.isAbsolute path.toList) :
    strip path disabled.text = ⟨path, ""⟩ :=
  strip_of_remainder_eq_none hpath rfl

variable {raw path : String} (hmount : (ofText raw).isEnabled)
  (hpath : Path.isAbsolute path.toList)

include hmount in
theorem isAbsolute_append (path : String) :
    Path.isAbsolute ((ofText raw).text ++ path).toList := by
  obtain ⟨name, hname, -⟩ := exists_of_isEnabled hmount
  rw [String.toList_append, hname]
  rfl

include hmount hpath in
theorem strip_append :
    strip ((ofText raw).text ++ path) (ofText raw).text = ⟨path, (ofText raw).text⟩ := by
  obtain ⟨name, hname, -⟩ := exists_of_isEnabled hmount
  obtain ⟨rest, hrest⟩ := Path.isAbsolute_iff.1 hpath
  have hremainder : remainder '/' (ofText raw).text.toList ((ofText raw).text ++ path).toList =
      some path.toList := by
    rw [String.toList_append, hrest]
    exact remainder_append (by simp [hname]) rest
  rw [strip_of_remainder (isAbsolute_append hmount path) hremainder, String.ofList_toList]

include hmount in
theorem isMatch_append : (Stripped.mk path (ofText raw).text).isMatch := by
  obtain ⟨name, hname, -⟩ := exists_of_isEnabled hmount
  exact Stripped.isMatch_iff.2 (hname ▸ List.cons_ne_nil _ _)

theorem extendRoot_empty (matched : String) : extendRoot "" matched = matched := String.empty_append

end Mount

theorem Text.isEmpty_utf8 {path : String} (hpath : Path.isAbsolute path.toList) :
    (utf8 path).isEmpty = false := by
  obtain ⟨rest, hrest⟩ := Path.isAbsolute_iff.1 hpath
  rw [utf8, hrest, encode_cons]
  rfl

theorem Scope.behind_of_strip {s : Scope} {m : Mount} {path matched : String}
    (h : Mount.strip s.path m.text = ⟨path, matched⟩)
    (hmatch : (Stripped.mk path matched).isMatch) (hraw : s.rawPath.isEmpty = false) :
    s.behind m =
      { s with
        path
        rawPath := Mount.stripBytes s.rawPath matched
        rootPath := Mount.extendRoot s.rootPath matched } := by
  simp only [behind, h, hmatch, hraw]
  rfl

namespace Http.Request

open CgiRequest

/-- The same request for another path. -/
def withPath (r : Request) (path : String) : Request :=
  { r with target := { r.target with path } }

variable (r : Request) (a : Arrival) (body : Bytes)

@[simp] theorem path_scope : (r.scope a).path = r.path := rfl

@[simp] theorem rootPath_scope : (r.scope a).rootPath = "" := rfl

theorem rawPath_scope (path : String) : ((r.withPath path).scope a).rawPath = Text.utf8 path := rfl

theorem cgi_eq : r.cgi a body = (r.cgiLine a body).addHeaders r.fields := rfl

theorem get?_cgi {key : String} (hkey : IsOwn key) :
    (r.cgi a body).get? key = (r.cgiLine a body).get? key := get?_addHeaders hkey _ _

theorem cgiLine_eq : r.cgiLine a body =
    { vars := [(requestMethod, r.method), (pathInfo, r.path), (scriptName, ""),
        (queryString, r.query), (serverName, a.host.ip.text),
        (serverPort, toString a.host.port.toNat), (serverProtocol, "HTTP/" ++ r.version.label),
        (remoteAddr, a.peer.ip.text)]
      input := body } := rfl

theorem get?_pathInfo_cgi : (r.cgi a body).get? pathInfo = some r.path := by
  rw [get?_cgi r a body isOwn_pathInfo, cgiLine_eq]
  rfl

theorem get?_scriptName_cgi : (r.cgi a body).get? scriptName = some "" := by
  rw [get?_cgi r a body isOwn_scriptName, cgiLine_eq]
  rfl

theorem get?_requestMethod_cgi : (r.cgi a body).get? requestMethod = some r.method := by
  rw [get?_cgi r a body isOwn_requestMethod, cgiLine_eq]
  rfl

theorem method_cgi : (r.cgi a body).method = r.method := by
  rw [CgiRequest.method, get?_requestMethod_cgi]
  rfl

theorem root_cgi : (r.cgi a body).root = "" := by
  rw [root, get?_scriptName_cgi]
  rfl

theorem input_cgi : (r.cgi a body).input = body := input_addHeaders (r.cgiLine a body) r.fields

/-- Only one variable tells what the path is. -/
theorem cgi_withPath (path : String) :
    (r.withPath path).cgi a body = (r.cgi a body).set pathInfo (decodedPath path) := by
  have hline : (r.withPath path).cgiLine a body =
      (r.cgiLine a body).set pathInfo (decodedPath path) := rfl
  have hsome : ((r.cgiLine a body).get? pathInfo).isSome := by
    rw [cgiLine_eq]
    rfl
  rw [cgi_eq, hline, cgi_eq]
  exact addHeaders_set isOwn_pathInfo hsome _ _

theorem decodedPath_eq (raw : String) :
    decodedPath raw = .ofList (Text.unescapeChars raw.toList) := rfl

theorem decodedPath_append {mount : String} (hplain : '%' ∉ mount.toList) (path : String) :
    decodedPath (mount ++ path) = mount ++ decodedPath path := by
  rw [decodedPath_eq, String.toList_append, Text.unescapeChars_append_of_not_mem hplain,
    String.ofList_append, String.ofList_toList]
  rfl

theorem isAbsolute_decodedPath {path : String} (hpath : Path.isAbsolute path.toList) :
    Path.isAbsolute (decodedPath path).toList := by
  obtain ⟨rest, hrest⟩ := Path.isAbsolute_iff.1 hpath
  have hslash := Text.unescapeChars_append_slash [] rest
  rw [List.nil_append] at hslash
  rw [decodedPath_eq, String.toList_ofList, hrest, hslash]
  rfl

variable {raw path : String} (hmount : (Mount.ofText raw).isEnabled)
  (hplain : '%' ∉ (Mount.ofText raw).text.toList) (hpath : Path.isAbsolute path.toList)

theorem path_cgi {r : Request} (h : Path.isAbsolute r.path.toList) :
    (r.cgi a body).path = r.path := by
  have hne : r.path ≠ "" := by
    intro hempty
    simp [hempty, Path.isAbsolute] at h
  simp [CgiRequest.path, get?_pathInfo_cgi, hne]

include hpath in
/-- Without a mount point the front leaves a request as it is. -/
theorem cgi_behind_disabled :
    ((r.withPath path).cgi a body).behind .disabled = (r.withPath path).cgi a body := by
  have habs : Path.isAbsolute (r.withPath path).path.toList := isAbsolute_decodedPath hpath
  unfold CgiRequest.behind
  simp only [path_cgi a body habs, Mount.strip_disabled habs]
  exact set_self (get?_pathInfo_cgi _ a body)

include hmount hplain hpath in
/-- A request below the mount point is the request for the rest, with another root. -/
theorem cgi_behind :
    ((r.withPath ((Mount.ofText raw).text ++ path)).cgi a body).behind (.ofText raw) =
      ((r.withPath path).cgi a body).set scriptName (Mount.ofText raw).text := by
  have hdecoded := isAbsolute_decodedPath hpath
  have houter : (r.withPath ((Mount.ofText raw).text ++ path)).path =
      (Mount.ofText raw).text ++ decodedPath path := decodedPath_append hplain path
  have habs := Mount.isAbsolute_append hmount (decodedPath path)
  rw [← houter] at habs
  have hroot : ((r.withPath ((Mount.ofText raw).text ++ path)).cgi a body).root = "" := by
    rw [CgiRequest.root, get?_scriptName_cgi]
    rfl
  -- both requests are one, but for the path that is set last
  unfold CgiRequest.behind
  simp only [path_cgi a body habs, hroot, Mount.extendRoot_empty]
  rw [houter, Mount.strip_append hmount hdecoded, if_pos (Mount.isMatch_append hmount),
    cgi_withPath, cgi_withPath, set_set]

include hpath in
theorem scope_behind_disabled :
    ((r.withPath path).scope a).behind .disabled = (r.withPath path).scope a := by
  have habs : Path.isAbsolute (r.withPath path).path.toList := isAbsolute_decodedPath hpath
  unfold Scope.behind
  simp only [scope, Mount.strip_disabled habs]
  rfl

include hmount hplain hpath in
/-- A connection below the mount point is the connection for the rest, with another root. -/
theorem scope_behind :
    ((r.withPath ((Mount.ofText raw).text ++ path)).scope a).behind (.ofText raw) =
      { (r.withPath path).scope a with rootPath := (Mount.ofText raw).text } := by
  have hdecoded := isAbsolute_decodedPath hpath
  have houter : (r.withPath ((Mount.ofText raw).text ++ path)).path =
      (Mount.ofText raw).text ++ decodedPath path := decodedPath_append hplain path
  have habs := Mount.isAbsolute_append hmount path
  have hraw : Mount.stripBytes (Text.utf8 ((Mount.ofText raw).text ++ path))
      (Mount.ofText raw).text = Text.utf8 path := by
    rw [Mount.stripBytes_utf8, Mount.strip_append hmount hpath]
  have hstrip := Mount.strip_append hmount hdecoded
  rw [← houter, ← path_scope _ a] at hstrip
  have hne := Text.isEmpty_utf8 habs
  rw [← rawPath_scope r a] at hne hraw
  rw [Scope.behind_of_strip hstrip (Mount.isMatch_append hmount) hne, hraw, rootPath_scope,
    Mount.extendRoot_empty]
  rfl

end Http.Request

namespace CgiRequest

theorem path_set_scriptName (r : CgiRequest) (root : String) :
    (r.set scriptName root).path = r.path := by
  rw [path, get?_set, if_neg (by decide), path]

theorem method_set_scriptName (r : CgiRequest) (root : String) :
    (r.set scriptName root).method = r.method := by
  rw [method, get?_set, if_neg (by decide), method]

end CgiRequest

namespace CallEnd

/-- A call that returned gives the response that was collected, if it was started. -/
theorem exists_ofReturned {p : Produced} (hp : p.status.isSome) (result : Except AppError Unit)
    (events : List Event) : ∃ events', ofReturned result (.ok p) events = .produced p events' := by
  cases result <;> simp [ofReturned, hp]

/-- A call that does what a site does for a request ends with the response of the site. -/
theorem exists_async_of_program {app : AsyncApp} {scope : Scope} {site : Site}
    {method path : String} (h : app scope = site.program method path)
    {p : Produced} (hp : Collection.ofMessages (site.response method path) = .ok p)
    (hstatus : p.status.isSome) (body : Bytes) :
    ∃ events, async app scope body = .produced p events := by
  have hscript : (app scope).IsScript := h ▸ site.isScript_program method path
  obtain ⟨result, events, -, hcall⟩ := async_of_isScript app scope hscript body
  have hsends : (app scope).sends [.request body false] = site.response method path := by
    rw [h, Site.program, Program.sends_sendAll]
    exact List.append_nil _
  rw [hsends, hp] at hcall
  rw [hcall]
  exact exists_ofReturned hstatus result events

end CallEnd

namespace Host

/-- A record of the exchange leaves the answer as it is. -/
theorem exists_answer {h : Host} {a : Arrival} {r : Http.Request} {response : Http.Response}
    {handledBy : Handler} {events : List Event}
    (he : h.exchange a r = .answered response handledBy events) :
    ∃ events', h.answer a r = .answered response handledBy events' := by
  rw [answer, he]
  cases h.accessFormat with
  | none => exact ⟨_, rfl⟩
  | some format => exact ⟨_, rfl⟩

theorem exists_answer_of_produced {h : Host} {a : Arrival} {r : Http.Request} {body : Bytes}
    {p : Produced} {events : List Event} (hbody : readBody h.maxBody r.body = .ok body)
    (hcall : h.call a r body = .produced p events) :
    ∃ events', h.answer a r = .answered (h.respond p) .app events' := by
  have he : h.exchange a r =
      .answered (h.respond p) .app (events ++ (h.respondNotices p).map .logged) := by
    simp only [exchange, hbody, hcall]
  exact exists_answer he

theorem exists_answer_sync (h : Host) {a : Arrival} (r : Http.Request) {body : Bytes}
    (hbody : readBody h.maxBody r.body = .ok body) (app : SyncApp) {run : SyncRun}
    (hrun : app (r.cgi a body) = run) {p : Produced} (hp : Produced.ofRun a.task run = .ok p) :
    ∃ events, Host.answer { h with app := .sync app } a r = .answered (h.respond p) .app events := by
  have hcall : Host.call { h with app := .sync app } a r body = .produced p run.events := by
    simp only [call, CallEnd.sync, hrun, hp]
  exact exists_answer_of_produced hbody hcall

theorem exists_answer_async (h : Host) {a : Arrival} (r : Http.Request) {body : Bytes}
    (hbody : readBody h.maxBody r.body = .ok body) (app : AsyncApp) {site : Site}
    {method path : String} (hrun : app (r.scope a) = site.program method path)
    {p : Produced} (hp : Collection.ofMessages (site.response method path) = .ok p)
    (hstatus : p.status.isSome) :
    ∃ events, Host.answer { h with app := .async app } a r =
      .answered (h.respond p) .app events := by
  obtain ⟨events, hend⟩ := CallEnd.exists_async_of_program hrun hp hstatus body
  have hcall : Host.call { h with app := .async app } a r body = .produced p events := hend
  exact exists_answer_of_produced hbody hcall

/-- Two hosts answer their requests with one response of the application. -/
def AnswersAlike (h h' : Host) (a : Arrival) (r r' : Http.Request) : Prop :=
  ∃ response events events', h.answer a r = .answered response .app events ∧
    h'.answer a r' = .answered response .app events'

end Host

namespace Front

section Behind

variable {m : Type → Type} [Monad m] (front : Front) {file : File}

/-- The run that answers a request with a file. -/
def fileRun (e : CgiRequest) (file : File) : SyncRun where
  sink := [.start 200 (Site.fileHeaders e.path file)]
  request := e
  result := .body { chunks := Site.chunksFor e.method file }
  events := Site.readNotices e.method file

/-- What is produced of such a run does not depend on the request. -/
theorem exists_ofRun_fileRun (e : CgiRequest) (file : File) : ∃ p, ∀ task request,
    Produced.ofRun task { fileRun e file with request } = .ok p := by
  let started := Produced.start {} 200 (Site.fileHeaders e.path file)
  exact ⟨(Site.chunksFor e.method file).foldl Produced.write started, fun _ _ => rfl⟩

theorem syncM_eq_fileRun {r e : CgiRequest} (he : r.behind front.mount = e)
    (hs : Site.serves e.method) (ho : (front.site.resolve e.path.toList).opened? = some file)
    (app : CgiRequest → m SyncRun) : front.syncM app r = pure (fileRun e file) := by
  subst he
  have hs' : Site.serves r.method := (r.method_behind front.mount) ▸ hs
  rw [syncM_of_opened app hs' ho, Site.syncApp_of_opened hs ho]
  rfl

theorem syncM_eq_passed {r e : CgiRequest} (he : r.behind front.mount = e)
    (ho : Site.serves e.method → (front.site.resolve e.path.toList).opened? = none)
    (app : CgiRequest → m SyncRun) : front.syncM app r = do
      let run ← app e
      return { run with events := front.lookupEvents e ++ run.events } := by
  subst he
  rw [r.method_behind front.mount] at ho
  exact syncM_of_not_opened app ho

theorem lookup_eq {s : Scope} (hk : s.kind = .http) :
    front.lookup s = front.site.resolve s.path.toList := by
  rw [lookup, if_pos hk]

theorem asyncM_eq_program {s e : Scope} (he : s.behind front.mount = e) (hk : e.kind = .http)
    (hf : (front.site.resolve e.path.toList).file? = some file) (app : Scope → m Program) :
    front.asyncM app s = pure (front.site.program e.method e.path) := by
  subst he
  rw [asyncM_of_found app (by rw [front.lookup_eq hk, hf]), s.method_behind]

theorem asyncM_eq_passed {s e : Scope} (he : s.behind front.mount = e) (hk : e.kind = .http)
    (hf : (front.site.resolve e.path.toList).file? = none) (app : Scope → m Program) :
    front.asyncM app s = do
      let program ← app e
      return .tellAll (Site.notices e.path (front.site.resolve e.path.toList)) program := by
  subst he
  have hkind : s.kind ≠ .lifespan := by
    rw [s.kind_behind front.mount] at hk
    simp [hk]
  rw [asyncM_of_not_found app hkind (by rw [front.lookup_eq hk, hf]), front.lookup_eq hk]

end Behind

section Alike

variable {site : Site} {mount : Mount} {root : String}

section Cgi

variable {file : File} {below e : CgiRequest}
  (hbelow : below.behind mount = e.set CgiRequest.scriptName root) (htop : e.behind .disabled = e)

include hbelow htop in
/-- The same file answers both requests. -/
theorem syncM_alike_of_opened (hs : Site.serves e.method)
    (ho : (site.resolve e.path.toList).opened? = some file) {m : Type → Type} [Monad m]
    (app : CgiRequest → m SyncRun) :
    syncM ⟨mount, site⟩ app below =
        pure { fileRun e file with request := e.set CgiRequest.scriptName root } ∧
      syncM ⟨.disabled, site⟩ app e = pure { fileRun e file with request := e } := by
  have hpath := e.path_set_scriptName root
  have hmethod := e.method_set_scriptName root
  have hrun : { fileRun e file with request := e.set CgiRequest.scriptName root } =
      fileRun (e.set CgiRequest.scriptName root) file := by
    simp only [fileRun, hpath, hmethod]
  constructor
  · rw [← hmethod] at hs
    rw [← hpath] at ho
    rw [hrun]
    exact syncM_eq_fileRun ⟨mount, site⟩ hbelow hs ho app
  · exact syncM_eq_fileRun ⟨.disabled, site⟩ htop hs ho app

include hbelow htop in
/-- The application gets both requests, after the same events. -/
theorem syncM_alike_of_not_opened
    (ho : Site.serves e.method → (site.resolve e.path.toList).opened? = none)
    {m : Type → Type} [Monad m] (app : CgiRequest → m SyncRun) :
    (syncM ⟨mount, site⟩ app below = do
      let run ← app (e.set CgiRequest.scriptName root)
      return { run with events := lookupEvents ⟨.disabled, site⟩ e ++ run.events }) ∧
    (syncM ⟨.disabled, site⟩ app e = do
      let run ← app e
      return { run with events := lookupEvents ⟨.disabled, site⟩ e ++ run.events }) := by
  have hpath := e.path_set_scriptName root
  have hmethod := e.method_set_scriptName root
  have hevents : lookupEvents ⟨mount, site⟩ (e.set CgiRequest.scriptName root) =
      lookupEvents ⟨.disabled, site⟩ e := by
    simp only [lookupEvents, hpath, hmethod]
  constructor
  · rw [← hmethod, ← hpath] at ho
    rw [← hevents]
    exact syncM_eq_passed ⟨mount, site⟩ hbelow ho app
  · exact syncM_eq_passed ⟨.disabled, site⟩ htop ho app

end Cgi

section Answers

variable {front front' : Front} {h : Host} {a : Arrival} (r r' : Http.Request) {body : Bytes}
  (hbody : readBody h.maxBody r.body = .ok body) (hbody' : readBody h.maxBody r'.body = .ok body)

include hbody hbody' in
theorem answersAlike_sync {app : SyncApp} {e q q' : CgiRequest} {file : File}
    (hrun : front.sync app (r.cgi a body) = { fileRun e file with request := q })
    (hrun' : front'.sync app (r'.cgi a body) = { fileRun e file with request := q' }) :
    Host.AnswersAlike { h with app := .sync (front.sync app) }
      { h with app := .sync (front'.sync app) } a r r' := by
  obtain ⟨p, hp⟩ := exists_ofRun_fileRun e file
  obtain ⟨events, hanswer⟩ := h.exists_answer_sync r hbody (front.sync app) hrun (hp a.task q)
  obtain ⟨events', hanswer'⟩ :=
    h.exists_answer_sync r' hbody' (front'.sync app) hrun' (hp a.task q')
  exact ⟨h.respond p, events, events', hanswer, hanswer'⟩

include hbody hbody' in
theorem answersAlike_async {app : AsyncApp} {method path : String}
    (hrun : front.async app (r.scope a) = site.program method path)
    (hrun' : front'.async app (r'.scope a) = site.program method path) :
    Host.AnswersAlike { h with app := .async (front.async app) }
      { h with app := .async (front'.async app) } a r r' := by
  obtain ⟨p, hp, hstatus⟩ := site.exists_ofMessages_response method path
  obtain ⟨events, hanswer⟩ := h.exists_answer_async r hbody (front.async app) hrun hp hstatus
  obtain ⟨events', hanswer'⟩ :=
    h.exists_answer_async r' hbody' (front'.async app) hrun' hp hstatus
  exact ⟨h.respond p, events, events', hanswer, hanswer'⟩

end Answers

end Alike

/-- A request below a mount point is answered like the request for the rest at the top: by the same file, or
by the application, which is told the same except for its root. -/
theorem mount_transparent {raw path : String} (hmount : (Mount.ofText raw).isEnabled)
    (hplain : '%' ∉ (Mount.ofText raw).text.toList) (hpath : Path.isAbsolute path.toList)
    (site : Site) (a : Arrival) (r : Http.Request) (body : Bytes) :
    let mount := Mount.ofText raw
    let mounted : Front := ⟨mount, site⟩
    let bare : Front := ⟨.disabled, site⟩
    let below := r.withPath (mount.text ++ path)
    let top := r.withPath path
    let environ := top.cgi a body
    let scope := top.scope a
    let found := ∃ file, (site.resolve top.path.toList).file? = some file
    let served := Site.serves r.method ∧
      ∃ file, (site.resolve top.path.toList).file? = some file ∧ file.opens
    environ.get? CgiRequest.scriptName = some "" ∧ scope.rootPath = "" ∧
      (served → ∃ run : SyncRun, ∀ (m : Type → Type) [Monad m] (app : CgiRequest → m SyncRun),
        mounted.syncM app (below.cgi a body) =
          pure { run with request := environ.set CgiRequest.scriptName mount.text } ∧
        bare.syncM app environ = pure { run with request := environ }) ∧
      (¬ served → ∃ events, ∀ (m : Type → Type) [Monad m] (app : CgiRequest → m SyncRun),
        (mounted.syncM app (below.cgi a body) = do
          let run ← app (environ.set CgiRequest.scriptName mount.text)
          return { run with events := events ++ run.events }) ∧
        (bare.syncM app environ = do
          let run ← app environ
          return { run with events := events ++ run.events })) ∧
      (found → ∃ program, ∀ (m : Type → Type) [Monad m] (app : Scope → m Program),
        mounted.asyncM app (below.scope a) = pure program ∧ bare.asyncM app scope = pure program) ∧
      (¬ found → ∃ events, ∀ (m : Type → Type) [Monad m] (app : Scope → m Program),
        (mounted.asyncM app (below.scope a) = do
          let program ← app { scope with rootPath := mount.text }
          return .tellAll events program) ∧
        (bare.asyncM app scope = do
          let program ← app scope
          return .tellAll events program)) ∧
      ∀ h : Host, readBody h.maxBody r.body = .ok body →
        (served → ∀ app : SyncApp, Host.AnswersAlike { h with app := .sync (mounted.sync app) }
          { h with app := .sync (bare.sync app) } a below top) ∧
        (found → ∀ app : AsyncApp, Host.AnswersAlike { h with app := .async (mounted.async app) }
          { h with app := .async (bare.async app) } a below top) := by
  intro mount mounted bare below top environ scope found served
  have hbelow : (below.cgi a body).behind mount =
      environ.set CgiRequest.scriptName mount.text := r.cgi_behind a body hmount hplain hpath
  have htop : environ.behind .disabled = environ := r.cgi_behind_disabled a body hpath
  have hbelow' : (below.scope a).behind mount = { scope with rootPath := mount.text } :=
    r.scope_behind a hmount hplain hpath
  have htop' : scope.behind .disabled = scope := r.scope_behind_disabled a hpath
  have hpath_environ : environ.path = top.path :=
    Http.Request.path_cgi a body (Http.Request.isAbsolute_decodedPath hpath)
  have hmethod : environ.method = r.method := by
    rw [CgiRequest.method, Http.Request.get?_requestMethod_cgi]
    rfl
  have hserved : served → Site.serves environ.method ∧
      ∃ file, (site.resolve environ.path.toList).opened? = some file := by
    simp only [hmethod, hpath_environ, Lookup.opened?_eq_some_iff]
    exact id
  have hfound : ∀ file, (site.resolve top.path.toList).file? = some file →
      ∀ (m : Type → Type) [Monad m] (app : Scope → m Program),
        mounted.asyncM app (below.scope a) =
            pure (site.program r.method top.path) ∧
          bare.asyncM app scope = pure (site.program r.method top.path) :=
    fun file hf m _ app =>
      ⟨mounted.asyncM_eq_program hbelow' rfl hf app, bare.asyncM_eq_program htop' rfl hf app⟩
  refine ⟨top.get?_scriptName_cgi a body, rfl, fun hsite => ?_, fun hnot => ?_, ?_, fun hnot => ?_,
    fun h hbody => ⟨fun hsite app => ?_, ?_⟩⟩
  · obtain ⟨hs, file, ho⟩ := hserved hsite
    exact ⟨fileRun environ file, fun m _ app => syncM_alike_of_opened hbelow htop hs ho app⟩
  · refine ⟨bare.lookupEvents environ, fun m _ app =>
      syncM_alike_of_not_opened hbelow htop (fun hs => ?_) app⟩
    rw [hmethod] at hs
    rw [hpath_environ]
    exact Option.eq_none_iff_forall_ne_some.2 fun file ho =>
      hnot ⟨hs, file, Lookup.opened?_eq_some_iff.1 ho⟩
  · rintro ⟨file, hf⟩
    exact ⟨_, hfound file hf⟩
  · have hnone : (site.resolve top.path.toList).file? = none :=
      Option.eq_none_iff_forall_ne_some.2 fun file hf => hnot ⟨file, hf⟩
    exact ⟨_, fun m _ app =>
      ⟨mounted.asyncM_eq_passed hbelow' rfl hnone app, bare.asyncM_eq_passed htop' rfl hnone app⟩⟩
  · obtain ⟨hs, file, ho⟩ := hserved hsite
    obtain ⟨hrun, hrun'⟩ := syncM_alike_of_opened hbelow htop hs ho (m := Id) app
    exact answersAlike_sync below top hbody hbody hrun hrun'
  · rintro ⟨file, hf⟩ app
    obtain ⟨hrun, hrun'⟩ := hfound file hf Id app
    exact answersAlike_async below top hbody hbody hrun hrun'

theorem resolve_linkedTree (secret : Bytes) :
    (Site.mk (linkedTree secret) ['/', 'p']).resolve ['/', 'a'] = .found [['p'], ['a']] (.ofData [1]) := by
  have hcandidate : (Site.mk (linkedTree secret) ['/', 'p']).candidate ['/', 'a'] =
      ['/', 'p', '/', 'a'] := rfl
  have hfile : (linkedTree secret).canonical? ['/', 'p', '/', 'a'] = some [['p'], ['a']] := by
    refine Volume.canonical?_eq_some_iff.2 ⟨by decide, rfl, Volume.maxLinks, ?_⟩
    have hp : Path.IsName ['p'] := ⟨by decide, by decide, by decide⟩
    have ha : Path.IsName ['a'] := ⟨by decide, by decide, by decide⟩
    exact .head (.stay rfl (Or.inl rfl)) (.head (.enter rfl hp (by decide) rfl id)
      (.head (.enter rfl ha (by decide) rfl id) .refl))
  rw [Site.resolve, hcandidate, hfile, canonical?_linkedTree secret]
  rfl

/-- The file is served below `/svc` too where a letter of its name is escaped. -/
theorem mount_transparent_escaped :
    let mount := Mount.ofText " svc/ "
    let site : Site := ⟨linkedTree [2], ['/', 'p']⟩
    let arrival : Arrival := ⟨⟨.v4 10 0 0 7, 0, 50000⟩, ⟨.v4 10 0 0 1, 0, 8000⟩, 0, { seconds := 0 }, 0⟩
    let r : Http.Request := { method := "GET", target := ⟨"/", none⟩ }
    let host : Host := { app := .async fun _ => .done, maxBody := 16, serverName := "" }
    mount.isEnabled ∧ '%' ∉ mount.text.toList ∧ Path.isAbsolute "/%61".toList ∧
      ∀ app : SyncApp, Host.AnswersAlike { host with app := .sync (sync ⟨mount, site⟩ app) }
        { host with app := .sync (sync ⟨.disabled, site⟩ app) } arrival
        (r.withPath (mount.text ++ "/%61")) (r.withPath "/%61") := by
  intro mount site arrival r host
  have hmount : mount.isEnabled := by decide
  have hplain : '%' ∉ mount.text.toList := by decide
  have hpath : Path.isAbsolute "/%61".toList := by decide
  have hfound : (site.resolve (r.withPath "/%61").path.toList).file? = some (.ofData [1]) := by
    have hdecoded : (r.withPath "/%61").path.toList = ['/', 'a'] := by decide
    rw [hdecoded, resolve_linkedTree]
    rfl
  have hmain := mount_transparent hmount hplain hpath site arrival r []
  have hserves : Site.serves r.method := by decide +kernel
  exact ⟨hmount, hplain, hpath, (hmain.2.2.2.2.2.2 host rfl).1 ⟨hserves, .ofData [1], hfound, rfl⟩⟩

end Front

end Gateway
