import Gateway.Builtin
import Gateway.Proofs.Agreement
import Gateway.Proofs.Building
import Gateway.Proofs.Failures
import Gateway.Proofs.JsonReading

/-!
The built-in applications tell what they saw of a request. Of either convention, they saw the same:
the method, the path and root behind the mount point, the query and the length of the body.
-/
namespace Gateway

theorem Stripped.matched_of_not_isMatch {s : Stripped} (h : ¬ s.isMatch) : s.matched = "" := by
  simpa [isMatch] using h

namespace CgiRequest

theorem isOwn_queryString : IsOwn queryString := isOwn_of_head (by decide) (by decide) (by decide)

theorem root_behind {r : CgiRequest} (hr : r.root = "") (m : Mount) :
    (r.behind m).root = (Mount.strip r.path m.text).matched := by
  have hpath : ¬ scriptName = pathInfo := by decide
  have hroot : (r.get? scriptName).getD "" = "" := hr
  unfold behind
  dsimp only
  split
  · rw [root, get?_set, if_pos rfl, hr, Mount.extendRoot_empty]
    rfl
  · next hmatch =>
    rw [root, get?_set, if_neg hpath, hroot, Stripped.matched_of_not_isMatch hmatch]

end CgiRequest

namespace Scope

theorem rootPath_behind {s : Scope} (hs : s.rootPath = "") (m : Mount) :
    (s.behind m).rootPath = (Mount.strip s.path m.text).matched := by
  unfold behind
  dsimp only
  split
  · rw [hs, Mount.extendRoot_empty]
  · next hmatch => rw [hs, Stripped.matched_of_not_isMatch hmatch]

theorem query_behind (s : Scope) (m : Mount) : (s.behind m).query = s.query := by
  unfold behind
  dsimp only
  split <;> rfl

end Scope

/-! ## The response -/

namespace Http

theorem isFieldValue_toString (n : Nat) : isFieldValue (Text.utf8 (toString n)) := by
  rw [isFieldValue_utf8_iff, Nat.toString_eq_ofList_toDigits, String.toList_ofList]
  intro c hc hcontrol
  have hdigit : c.isDigit := Nat.isDigit_of_mem_toDigits (by decide) (by decide) hc
  have hrange : 48 ≤ c.toNat ∧ c.toNat ≤ 57 := by
    simp only [Char.isDigit, Bool.and_eq_true, decide_eq_true_eq] at hdigit
    exact hdigit
  rcases hcontrol with ⟨hlow, -⟩ | hdelete
  · omega
  · omega

namespace Response

/-- The response with a JSON object: its type, its length and the name of the server, if there is
one. -/
def ofJson (server : String) (o : Json.Object) : Response :=
  let body := Text.encode (Json.write o)
  let fields := [("content-type", Text.utf8 Builtin.jsonType),
    ("content-length", Text.utf8 (toString body.length))]
  ⟨200, if server.isEmpty then fields else fields ++ [(serverField, Text.utf8 server)], body⟩

/-- The names of the fields may be spelled in any letter case. -/
theorem build_json {server type length : String} (hserver : isFieldValue (Text.utf8 server))
    (htype : isFieldName type ∧ type.toLower = "content-type")
    (hlength : isFieldName length ∧ length.toLower = "content-length") (o : Json.Object) :
    let body := Text.encode (Json.write o)
    build 200 [(type, Builtin.jsonType), (length, toString body.length)] body server =
      ofJson server o := by
  intro body
  have hjson : isFieldValue (Text.utf8 Builtin.jsonType) := by decide
  have hname : isFieldName serverField := by decide +kernel
  have hlower : serverField.toLower = serverField := by decide +kernel
  have hnumber := isFieldValue_toString body.length
  have hnot : namesServer [(type, Builtin.jsonType), (length, toString body.length)] = false := by
    have htype' : ("content-type" == serverField) = false := by decide
    have hlength' : ("content-length" == serverField) = false := by decide
    simp only [namesServer, List.any_cons, List.any_nil, htype.2, hlength.2, htype', hlength',
      Bool.or_false]
  by_cases hempty : server.isEmpty
  · have hwith : withServer [(type, Builtin.jsonType), (length, toString body.length)] server =
        [(type, Builtin.jsonType), (length, toString body.length)] := by
      rw [withServer, hnot, hempty, Bool.false_or, if_pos rfl]
    rw [build_of_valid, hwith, ofJson, if_pos hempty]
    · simp only [List.map_cons, List.map_nil, htype.2, hlength.2]
      rfl
    · rw [hwith, List.forall_mem_cons, List.forall_mem_singleton]
      exact ⟨⟨htype.1, hjson⟩, hlength.1, hnumber⟩
  · have hwith : withServer [(type, Builtin.jsonType), (length, toString body.length)] server =
        [(type, Builtin.jsonType), (length, toString body.length), (serverField, server)] := by
      rw [withServer, hnot, Bool.false_or, if_neg hempty]
      rfl
    rw [build_of_valid, hwith, ofJson, if_neg hempty]
    · simp only [List.map_cons, List.map_nil, htype.2, hlength.2, hlower]
      rfl
    · rw [hwith, List.forall_mem_cons, List.forall_mem_cons, List.forall_mem_singleton]
      exact ⟨⟨htype.1, hjson⟩, ⟨hlength.1, hnumber⟩, hname, hserver⟩

end Response

end Http

/-! ## What is told -/

theorem Http.Request.get?_queryString_cgi (r : Request) (a : Arrival) (body : Bytes) :
    (r.cgi a body).get? CgiRequest.queryString = some r.query := by
  rw [get?_cgi r a body CgiRequest.isOwn_queryString, cgiLine_eq]
  rfl

namespace Program

theorem sends_tellAll (es : List Event) (next : Program) (w : List Message) :
    (tellAll es next).sends w = next.sends w := by
  induction es with
  | nil => rfl
  | cons e es ih => exact ih

end Program

namespace Builtin

open CgiRequest

/-- The application of a built-in entry. -/
def application? (entry : String) : Option Application :=
  (registry.load entry).toOption.bind fun loaded =>
    Application.ofConvention? (Convention.detect loaded.object)

theorem application?_main : application? "main" = some (.sync syncEcho) := by rfl
theorem application?_hello_async : application? "hello_async" = some (.async asyncEcho) := by rfl
theorem application?_framework : application? "framework" = some (.async asyncEcho) := by rfl

/-- What is produced with a JSON object. -/
def produced (type length : String) (body : Bytes) : Produced where
  status := some 200
  headers := [(type, jsonType), (length, toString body.length)]
  chunks := [body]

theorem ofRun_syncEcho (task : Nat) (r : CgiRequest) :
    Produced.ofRun task (syncEcho r) = .ok (produced "Content-Type" "Content-Length"
      (echoBody "sync" r.method ((r.get? pathInfo).getD "") r.root ((r.get? queryString).getD "")
        r.input.length)) := rfl

theorem isScript_echoRequest (s : Scope) : (echoRequest s).IsScript := by
  intro heard m
  have hdone : Program.done.IsScript := trivial
  exact Program.isScript_sendAll hdone _

theorem ofMessages_echoRequest (s : Scope) (body : Bytes) :
    Collection.ofMessages ((echoRequest s).sends [.request body false]) =
      .ok (produced "content-type" "content-length"
        (echoBody "async" s.method s.path s.rootPath (Text.decoded s.query) body.length)) := by
  have hlength : bodyBytes ([] ++ [.request body false]) = body.length := by simp [bodyBytes]
  have hround : Program.round (fun _ m => if m.isPartialRequest then some [] else none) []
      (.request body false) = none := rfl
  rw [echoRequest, Program.sends, Program.listenSends, hround]
  simp only [Program.sends_sendAll, hlength]
  rfl

end Builtin

namespace Host

section Echo

open CgiRequest Builtin

theorem respond_produced {h : Host} (hserver : Http.isFieldValue (Text.utf8 h.serverName))
    {type length : String}
    (htype : Http.isFieldName type ∧ type.toLower = "content-type")
    (hlength : Http.isFieldName length ∧ length.toLower = "content-length") (o : Json.Object) :
    h.respond (produced type length (Text.encode (Json.write o))) =
      .ofJson h.serverName o := by
  rw [respond, ← Http.Response.build_json hserver htype hlength o, Produced.body]
  simp only [produced, List.reverse_singleton, List.flatten_singleton]
  rfl

variable {h : Host} {front : Front} {a : Arrival} {r : Http.Request} {body : Bytes}
  (hserver : Http.isFieldValue (Text.utf8 h.serverName))
  (hraw : Path.isAbsolute r.rawPath.toList)
  (hbody : readBody h.maxBody r.body = .ok body)
  (hfile : (front.site.resolve
    (Mount.strip r.path front.mount.text).path.toList).file? = none)

include hserver hraw hbody hfile

theorem exists_answer_syncEcho :
    let told := Mount.strip r.path front.mount.text
    ∃ events, Host.answer { h with app := .behind front (.sync syncEcho) } a r =
      .answered (.ofJson h.serverName
        (echoObject "sync" r.method told.path told.matched r.query body.length)) .app events := by
  intro told
  let inner := (r.cgi a body).behind front.mount
  have hpath : (r.cgi a body).path = r.path :=
    Http.Request.path_cgi a body (Http.Request.isAbsolute_decodedPath hraw)
  have hmethod : inner.method = r.method := by rw [method_behind, Http.Request.method_cgi]
  have htold : inner.get? pathInfo = some told.path := by rw [get?_pathInfo_behind, hpath]
  have hroot : inner.root = told.matched := by
    rw [root_behind (Http.Request.root_cgi r a body), hpath]
  have hquery : inner.get? queryString = some r.query := by
    rw [get?_behind (by decide) (by decide), Http.Request.get?_queryString_cgi]
  have hinput : inner.input = body := by rw [input_behind, Http.Request.input_cgi]
  have hrun : front.sync syncEcho (r.cgi a body) =
      { syncEcho inner with events := front.lookupEvents inner ++ (syncEcho inner).events } := by
    refine Front.syncM_eq_passed (m := Id) front rfl (fun _ => ?_) syncEcho
    rw [path_behind, hpath, Lookup.opened?_eq_none hfile]
  have hproduced := ofRun_syncEcho a.task inner
  rw [hmethod, htold, hroot, hquery, hinput] at hproduced
  have hanswer := h.exists_answer_sync r hbody (front.sync syncEcho) hrun hproduced
  have htype : Http.isFieldName "Content-Type" ∧ "Content-Type".toLower = "content-type" := by
    decide +kernel
  have hlength : Http.isFieldName "Content-Length" ∧ "Content-Length".toLower = "content-length" := by
    decide +kernel
  rw [← respond_produced hserver htype hlength]
  exact hanswer

theorem exists_answer_asyncEcho :
    let told := Mount.strip r.path front.mount.text
    ∃ events, Host.answer { h with app := .behind front (.async asyncEcho) } a r =
      .answered (.ofJson h.serverName
        (echoObject "async" r.method told.path told.matched r.query body.length)) .app events := by
  intro told
  let inner := (r.scope a).behind front.mount
  have hkind : inner.kind = .http := (r.scope a).kind_behind front.mount
  have hmethod : inner.method = r.method := (r.scope a).method_behind front.mount
  have htold : inner.path = told.path :=
    Scope.path_behind (s := r.scope a) (Http.Request.isAbsolute_decodedPath hraw) front.mount
  have hroot : inner.rootPath = told.matched := Scope.rootPath_behind (s := r.scope a) rfl front.mount
  have hquery : Text.decoded inner.query = r.query := by
    have hbytes : inner.query = Text.utf8 r.query := (r.scope a).query_behind front.mount
    rw [hbytes, Text.decoded, Text.utf8, Text.decode_encode, String.ofList_toList]
  let notices := Site.notices inner.path (front.site.resolve inner.path.toList)
  have hrun : front.async asyncEcho (r.scope a) = .tellAll notices (echoRequest inner) := by
    have hpassed := Front.asyncM_eq_passed (m := Id) front (s := r.scope a) rfl hkind
      (by rw [htold]; exact hfile) asyncEcho
    have hecho : asyncEcho inner = echoRequest inner := by rw [asyncEcho, hkind]
    rw [← hecho]
    exact hpassed
  have hscript : (front.async asyncEcho (r.scope a)).IsScript :=
    hrun ▸ Program.isScript_tellAll (isScript_echoRequest inner) notices
  obtain ⟨result, events, -, hcall⟩ :=
    CallEnd.async_of_isScript (front.async asyncEcho) (r.scope a) hscript body
  rw [hrun, Program.sends_tellAll, ofMessages_echoRequest, hmethod, htold, hroot, hquery] at hcall
  obtain ⟨events', hend⟩ := CallEnd.exists_ofReturned
    (p := produced "content-type" "content-length" _) rfl result events
  have hanswer := exists_answer_of_produced
    (h := { h with app := .behind front (.async asyncEcho) }) (a := a) hbody (hcall.trans hend)
  have htype : Http.isFieldName "content-type" ∧ "content-type".toLower = "content-type" := by
    decide +kernel
  have hlength : Http.isFieldName "content-length" ∧ "content-length".toLower = "content-length" := by
    decide +kernel
  rw [← respond_produced hserver htype hlength]
  exact hanswer

end Echo

open Builtin in
/-- The built-in applications of either convention answer one request alike: with a 200 and a JSON
object of six members, of which only the convention differs. -/
theorem echo_agrees {h : Host} (front : Front) {a : Arrival} {r : Http.Request} {body : Bytes}
    (hserver : Http.isFieldValue (Text.utf8 h.serverName))
    (hraw : Path.isAbsolute r.rawPath.toList) (hbody : readBody h.maxBody r.body = .ok body)
    (hfile : (front.site.resolve
      (Mount.strip r.path front.mount.text).path.toList).file? = none) :
    let told := Mount.strip r.path front.mount.text
    let members (convention : String) : Json.Object :=
      [("body_bytes".toList, .number body.length), ("convention".toList, .text convention.toList),
        ("method".toList, .text r.method.toList), ("path".toList, .text told.path.toList),
        ("query".toList, .text r.query.toList), ("root_path".toList, .text told.matched.toList)]
    ∀ entry ∈ ["main", "hello_async", "framework"], ∃ app response events,
      application? entry = some app ∧
        app.convention = (if entry = "main" then "sync" else "async") ∧
        Host.answer { h with app := app.behind front } a r = .answered response .app events ∧
        response = .ofJson h.serverName (members app.convention) ∧ response.status = 200 ∧
        response.body = Text.encode (Json.write (members app.convention)) ∧
        Json.read? (Text.decode response.body) = some (members app.convention) := by
  intro told members entry hentry
  have hread : ∀ convention, Json.read? (Text.decode
      (Http.Response.ofJson h.serverName (members convention)).body) = some (members convention) := by
    intro convention
    rw [Http.Response.ofJson, Text.decode_encode, Json.read?_write]
  have hasync := exists_answer_asyncEcho (a := a) hserver hraw hbody hfile
  simp only [List.mem_cons, List.not_mem_nil, or_false] at hentry
  rcases hentry with rfl | rfl | rfl
  · obtain ⟨events, hanswer⟩ := exists_answer_syncEcho (a := a) hserver hraw hbody hfile
    exact ⟨.sync syncEcho, _, events, application?_main, rfl, hanswer, rfl, rfl, rfl,
      hread "sync"⟩
  · obtain ⟨events, hanswer⟩ := hasync
    exact ⟨.async asyncEcho, _, events, application?_hello_async, rfl, hanswer, rfl, rfl, rfl,
      hread "async"⟩
  · obtain ⟨events, hanswer⟩ := hasync
    exact ⟨.async asyncEcho, _, events, application?_framework, rfl, hanswer, rfl, rfl, rfl,
      hread "async"⟩

/-- A POST below a mount point, with an escaped path, a query and a body in two parts. -/
theorem echo_agrees_escaped :
    let h : Host := { app := .async fun _ => .done, maxBody := 16, serverName := "devroute" }
    let front : Front := ⟨.ofText "/svc", nowhere⟩
    let a : Arrival := ⟨⟨.v4 10 0 0 7, 0, 50000⟩, ⟨.v4 10 0 0 1, 0, 8000⟩, 0, { seconds := 0 }, 0⟩
    let r : Http.Request :=
      { method := "POST", target := ⟨"/%73vc/a%20b", some "q=1"⟩, body := [.data [1, 2], .data [3]] }
    let told := Mount.strip r.path front.mount.text
    Http.isFieldValue (Text.utf8 h.serverName) ∧ Path.isAbsolute r.rawPath.toList ∧
      readBody h.maxBody r.body = .ok [1, 2, 3] ∧
      (front.site.resolve told.path.toList).file? = none ∧ told = ⟨"/a b", "/svc"⟩ ∧
      ∀ entry ∈ ["main", "hello_async", "framework"], ∃ app response events,
        Builtin.application? entry = some app ∧
          Host.answer { h with app := app.behind front } a r = .answered response .app events ∧
          Json.read? (Text.decode response.body) = some
            [("body_bytes".toList, .number 3), ("convention".toList, .text app.convention.toList),
              ("method".toList, .text "POST".toList), ("path".toList, .text "/a b".toList),
              ("query".toList, .text "q=1".toList), ("root_path".toList, .text "/svc".toList)] := by
  intro h front a r told
  have hserver : Http.isFieldValue (Text.utf8 h.serverName) := by decide
  have hbody : readBody h.maxBody r.body = .ok [1, 2, 3] := by rfl
  have hfile := resolve_nowhere told.path.toList
  have htold : told = ⟨"/a b", "/svc"⟩ := by decide
  refine ⟨hserver, by decide, hbody, hfile, htold, fun entry hentry => ?_⟩
  obtain ⟨app, response, events, happ, -, hanswer, -, -, -, hread⟩ :=
    echo_agrees front (a := a) hserver (by decide) hbody hfile entry hentry
  have htold' : Mount.strip r.path front.mount.text = ⟨"/a b", "/svc"⟩ := htold
  rw [htold'] at hread
  exact ⟨app, response, events, happ, hanswer, hread⟩

end Host

end Gateway
