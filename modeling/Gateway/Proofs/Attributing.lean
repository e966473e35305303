import Gateway.Proofs.Answering
import Gateway.Proofs.Building

/-!
Who made a response. A record names the application if and only if the call produced something. What was
produced is the response then, with one exception: if it has a field that cannot be sent the host makes
the response in its place, and the record still names the application.
-/
namespace Gateway

/-! ## What an application produces -/

/-- A call for the request with this body produces this status, these headers and this content. A
synchronous call that never starts its response counts as one that starts a 500. -/
def Application.Produces (app : Application) (a : Arrival) (r : Http.Request) (body : Bytes)
    (status : Nat) (headers : List Field) (content : Bytes) : Prop :=
  match app with
  | .sync app =>
    let run := app (r.cgi a body)
    let seen := Captured.ofSink run.sink
    ∃ returned, run.result = .body ⟨returned, none⟩ ∧
      seen.start.getD (500, []) = (status, headers) ∧ (seen.written ++ returned).flatten = content
  | .async app =>
    let run := CallEnd.observed (app (r.scope a)) body
    (∃ result, run.standing = .returned result) ∧ Http.Response.isStatus status ∧
      Collection.Spells status headers content run.sent

namespace Produced

/-- The parts of a response under way. -/
def Holds (p : Produced) (status : Nat) (headers : List Field) (content : Bytes) : Prop :=
  p.status.getD 500 = status ∧ p.headers = headers ∧ p.body = content

theorem ofRun_eq_ok_iff (task : Nat) (run : SyncRun) (status : Nat) (headers : List Field)
    (content : Bytes) :
    let seen := Captured.ofSink run.sink
    (∃ p, ofRun task run = .ok p ∧ p.Holds status headers content) ↔
      ∃ returned, run.result = .body ⟨returned, none⟩ ∧
        seen.start.getD (500, []) = (status, headers) ∧
        (seen.written ++ returned).flatten = content := by
  intro seen
  by_cases h : ∃ returned, run.result = .body ⟨returned, none⟩
  · obtain ⟨returned, hresult⟩ := h
    obtain ⟨p, hp, hstatus, hheaders, hbody⟩ := ofRun_of_body task hresult
    have hstart : seen.start.getD (500, []) = (p.status.getD 500, p.headers) := by
      rw [hstatus, hheaders]
      show seen.start.getD (500, []) = _
      cases seen.start <;> rfl
    constructor
    · rintro ⟨q, hq, hholds⟩
      obtain rfl : p = q := Except.ok.inj (hp.symm.trans hq)
      obtain ⟨hs, hh, hc⟩ := hholds
      exact ⟨returned, hresult, by rw [hstart, hs, hh], by rw [← hc, hbody]⟩
    · rintro ⟨returned', hresult', hs, hc⟩
      have hreturned : returned = returned' := by
        simpa using hresult.symm.trans hresult'
      subst hreturned
      rw [hstart] at hs
      exact ⟨p, hp, (Prod.mk.inj hs).1, (Prod.mk.inj hs).2, hbody.trans hc⟩
  · obtain ⟨e, he⟩ := ofRun_of_not_body task fun returned hresult => h ⟨returned, hresult⟩
    constructor
    · rintro ⟨p, hp, -⟩
      rw [he] at hp
      contradiction
    · rintro ⟨returned, hresult, -⟩
      exact absurd ⟨returned, hresult⟩ h

end Produced

namespace CallEnd

theorem ofReturned_eq_produced_iff (result : Except AppError Unit) (sent : List Message)
    (own : List Event) (status : Nat) (headers : List Field) (content : Bytes) :
    (∃ p events, ofReturned result (Collection.ofMessages sent) own = .produced p events ∧
        p.Holds status headers content) ↔
      Http.Response.isStatus status ∧ Collection.Spells status headers content sent := by
  by_cases h : ∃ status headers content, Http.Response.isStatus status ∧
      Collection.Spells status headers content sent
  · obtain ⟨status', headers', content', hvalid', hspells'⟩ := h
    obtain ⟨p, notices, hended, -, hstatus, hheaders, hbody⟩ :=
      ofReturned_of_spells hspells' hvalid' result own
    constructor
    · rintro ⟨q, events, hq, hs, hh, hc⟩
      obtain ⟨rfl, -⟩ := CallEnd.produced.inj (hended.symm.trans hq)
      rw [hstatus, Option.getD_some] at hs
      rw [← hs, ← hh, ← hc, hheaders, hbody]
      exact ⟨hvalid', hspells'⟩
    · rintro ⟨hvalid, hspells⟩
      obtain ⟨q, notices, hended, -, hstatus, hheaders, hbody⟩ :=
        ofReturned_of_spells hspells hvalid result own
      exact ⟨q, _, hended, by rw [hstatus, Option.getD_some], hheaders, hbody⟩
  · obtain ⟨e, he⟩ := ofReturned_of_not_spells
      (fun status headers content hvalid hspells =>
        h ⟨status, headers, content, hvalid, hspells⟩) result own
    constructor
    · rintro ⟨p, events, hp, -⟩
      rw [he] at hp
      contradiction
    · rintro ⟨hvalid, hspells⟩
      exact absurd ⟨status, headers, content, hvalid, hspells⟩ h

end CallEnd

namespace Host

variable (h : Host) (a : Arrival) (r : Http.Request)

theorem call_eq_produced_iff (body : Bytes) (status : Nat) (headers : List Field)
    (content : Bytes) :
    (∃ p events, h.call a r body = .produced p events ∧ p.Holds status headers content) ↔
      h.app.Produces a r body status headers content := by
  unfold call Application.Produces
  cases h.app with
  | sync app =>
    refine Iff.trans ?_ (Produced.ofRun_eq_ok_iff a.task (app (r.cgi a body)) status headers content)
    unfold CallEnd.sync
    dsimp only
    cases Produced.ofRun a.task (app (r.cgi a body)) with
    | error e => simp
    | ok p => simp
  | async app =>
    dsimp only
    rw [CallEnd.async_eq]
    cases (CallEnd.observed (app (r.scope a)) body).standing with
    | waiting rest => simp
    | panicked text => simp
    | returned result =>
      dsimp only
      rw [CallEnd.ofReturned_eq_produced_iff]
      exact (and_iff_right ⟨result, rfl⟩).symm

/-! ## Who answers -/

/-- For the request, the application that is hosted produces this status, these headers and this
content. -/
def Produces (status : Nat) (headers : List Field) (content : Bytes) : Prop :=
  ∃ body, readBody h.maxBody r.body = .ok body ∧ h.app.Produces a r body status headers content

/-- The response to the request is one of the fixed ones that the host makes: nothing is produced for it,
or only what cannot be sent. -/
def MakesResponse : Prop :=
  ∀ status headers content, h.Produces a r status headers content →
    Http.Response.Unbuildable headers h.serverName

/-- What can be sent is the response, as far as status and body go. -/
theorem respond_of_not_unbuildable {p : Produced}
    (hp : ¬ Http.Response.Unbuildable p.headers h.serverName) :
    (h.respond p).status = p.status.getD 500 ∧ (h.respond p).body = p.body := by
  rw [respond, Http.Response.build_of_valid _ _ (Http.Response.valid_of_not_unbuildable hp)]
  exact ⟨rfl, rfl⟩

section Answer

variable {h a r} {response : Http.Response} {handledBy : Handler} {events : List Event}
  (hanswer : h.answer a r = .answered response handledBy events)

theorem recorded_eq_answered {e : Exchange}
    (he : h.recorded a r e = .answered response handledBy events) :
    ∃ own, e = .answered response handledBy own ∧ events = own ++ h.accessFormat.toList.map
      fun format => .logged (.request ((record a r response handledBy).line format)) := by
  cases e with
  | answered response' handledBy' own =>
    obtain ⟨rfl, rfl, hevents⟩ := Exchange.answered.inj he
    exact ⟨own, rfl, hevents.symm⟩
  | panicked text own => contradiction
  | pending own => contradiction

include hanswer

/-- Where something is produced the answer is the response that is built of it, and the application is
named. Where nothing is, the answer is a fixed one, and the host is named. -/
theorem produced_or_fixed :
    (∃ p : Produced, (∀ status headers content,
        h.Produces a r status headers content ↔ p.Holds status headers content) ∧
      response = h.respond p ∧ handledBy = .app) ∨
    (∀ status headers content, ¬ h.Produces a r status headers content) ∧
      (response = .tooLarge ∨ response = .serverError) ∧ handledBy = .server := by
  cases hbody : readBody h.maxBody r.body with
  | error e =>
    rw [h.answer_of_error a hbody] at hanswer
    obtain ⟨own, hrefuse, -⟩ := recorded_eq_answered hanswer
    refine .inr ⟨?_, ?_⟩
    · rintro status headers content ⟨body, hread, -⟩
      rw [hbody] at hread
      contradiction
    · cases e with
      | tooLarge =>
        obtain ⟨rfl, rfl, -⟩ := Exchange.answered.inj hrefuse
        exact ⟨.inl rfl, rfl⟩
      | unreadable reason =>
        obtain ⟨rfl, rfl, -⟩ := Exchange.answered.inj hrefuse
        exact ⟨.inr rfl, rfl⟩
  | ok body =>
    rw [h.answer_of_ok a hbody] at hanswer
    obtain ⟨own, hconclude, -⟩ := recorded_eq_answered hanswer
    have hproduces : ∀ status headers content, h.Produces a r status headers content ↔
        ∃ p events, h.call a r body = .produced p events ∧ p.Holds status headers content := by
      intro status headers content
      rw [h.call_eq_produced_iff]
      constructor
      · rintro ⟨body', hread, hmain⟩
        obtain rfl : body = body' := Except.ok.inj (hbody.symm.trans hread)
        exact hmain
      · exact fun hmain => ⟨body, hbody, hmain⟩
    cases hcall : h.call a r body with
    | produced p own' =>
      rw [hcall] at hconclude
      obtain ⟨rfl, rfl, -⟩ := Exchange.answered.inj hconclude
      refine .inl ⟨p, fun status headers content => ?_, rfl, rfl⟩
      rw [hproduces, hcall]
      simp
    | failed e own' =>
      rw [hcall] at hconclude
      obtain ⟨rfl, rfl, -⟩ := Exchange.answered.inj hconclude
      refine .inr ⟨fun status headers content => ?_, .inr rfl, rfl⟩
      rw [hproduces, hcall]
      simp
    | panicked text own' =>
      rw [hcall] at hconclude
      contradiction
    | pending own' =>
      rw [hcall] at hconclude
      contradiction

/-- A record names the application if and only if it produced something, which is as it should be if and
only if what was produced can be sent. -/
theorem answer_attribution :
    (∃ own, events = own ++ h.accessFormat.toList.map fun format =>
      .logged (.request ((record a r response handledBy).line format))) ∧
    (h.MakesResponse a r → response = .tooLarge ∨ response = .serverError) ∧
    (handledBy = .app ↔ ∃ status headers content, h.Produces a r status headers content) ∧
    ((handledBy = .server ↔ h.MakesResponse a r) ∧
        (handledBy = .app ↔ ∃ status headers content, h.Produces a r status headers content ∧
          response.status = status ∧ response.body = content) ↔
      ∀ status headers content, h.Produces a r status headers content →
        ¬ Http.Response.Unbuildable headers h.serverName) := by
  have hlogged := hanswer
  rw [answer_eq_recorded] at hlogged
  obtain ⟨own, -, hevents⟩ := recorded_eq_answered hlogged
  refine ⟨⟨own, hevents⟩, ?_⟩
  rcases produced_or_fixed hanswer with ⟨p, hproduces, rfl, rfl⟩ | ⟨hnothing, hfixed, rfl⟩
  · have hgiven : h.Produces a r (p.status.getD 500) p.headers p.body :=
      (hproduces _ _ _).2 ⟨rfl, rfl, rfl⟩
    have hmakes : h.MakesResponse a r ↔ Http.Response.Unbuildable p.headers h.serverName := by
      constructor
      · exact fun hall => hall _ _ _ hgiven
      · intro hp status headers content hgives
        rwa [← ((hproduces status headers content).1 hgives).2.1]
    refine ⟨fun hall => .inr ?_, iff_of_true rfl ⟨_, _, _, hgiven⟩, ?_⟩
    · exact Http.Response.build_of_unbuildable _ _ (hmakes.1 hall)
    · constructor
      · rintro ⟨hserver, -⟩ status headers content hgives hbad
        rw [← ((hproduces status headers content).1 hgives).2.1] at hbad
        exact nomatch hserver.2 (hmakes.2 hbad)
      · intro hgood
        have hsent := hgood _ _ _ hgiven
        obtain ⟨hstatus, hbody⟩ := h.respond_of_not_unbuildable hsent
        exact ⟨iff_of_false nofun (mt hmakes.1 hsent),
          iff_of_true rfl ⟨_, _, _, hgiven, hstatus, hbody⟩⟩
  · have hmakes : h.MakesResponse a r := fun status headers content hgives =>
      absurd hgives (hnothing status headers content)
    refine ⟨fun _ => hfixed, iff_of_false nofun ?_, iff_of_true ⟨?_, ?_⟩ ?_⟩
    · rintro ⟨status, headers, content, hgives⟩
      exact hnothing status headers content hgives
    · exact iff_of_true rfl hmakes
    · refine iff_of_false nofun ?_
      rintro ⟨status, headers, content, hgives, -⟩
      exact hnothing status headers content hgives
    · exact fun status headers content hgives => absurd hgives (hnothing status headers content)

end Answer

/-- A request without a body. -/
def plainRequest : Http.Request := { method := "GET", target := ⟨"/", none⟩ }

def plainArrival : Arrival :=
  ⟨⟨.v4 10 0 0 7, 0, 50000⟩, ⟨.v4 10 0 0 1, 0, 8000⟩, 0, { seconds := 0 }, 0⟩

/-- A host of a script, the records of which tell who made a response of which status. -/
def attributing (steps : List SyncStep) : Host :=
  { app := .sync (SyncStep.app steps), maxBody := 16, serverName := "devroute"
    accessFormat := some "$handled_by $status" }

theorem readBody_plainRequest (steps : List SyncStep) :
    readBody (attributing steps).maxBody plainRequest.body = .ok [] := rfl

/-- A response that is sent, and a call that fails after it wrote one. -/
theorem answer_attribution_sent :
    (∃ response events,
      (attributing [.start 201 [], .write [33]]).answer plainArrival plainRequest =
        .answered response .app events ∧
      ∃ status headers content, (attributing [.start 201 [], .write [33]]).Produces plainArrival
        plainRequest status headers content) ∧
    ∃ events, (attributing [.start 201 [], .raise "boom"]).answer plainArrival plainRequest =
        .answered .serverError .server events ∧
      ¬ ∃ status headers content, (attributing [.start 201 [], .raise "boom"]).Produces plainArrival
        plainRequest status headers content := by
  constructor
  · have hresult : (SyncStep.app [.start 201 [], .write [33]]
        (plainRequest.cgi plainArrival [])).result = .body ⟨[], none⟩ := rfl
    obtain ⟨events, hanswer, -⟩ :=
      exists_answer_sync_body _ plainArrival (readBody_plainRequest []) hresult
    exact ⟨_, events, hanswer, (answer_attribution hanswer).2.2.1.1 rfl⟩
  · have hresult : ∀ returned, (SyncStep.app [.start 201 [], .raise "boom"]
        (plainRequest.cgi plainArrival [])).result ≠ .body ⟨returned, none⟩ := nofun
    obtain ⟨events, hanswer, -⟩ :=
      exists_answer_sync_failed _ plainArrival (readBody_plainRequest []) hresult
    exact ⟨events, hanswer, mt (answer_attribution hanswer).2.2.1.2 nofun⟩

/-- The answer to a field that cannot be sent is made by the host, and its record names the
application. -/
theorem not_attributed_unsendable :
    let h := attributing [.start 200 [("Bad Header", "x")]]
    h.MakesResponse plainArrival plainRequest ∧
      (∃ own, h.answer plainArrival plainRequest =
        .answered .serverError .app (own ++ [.logged (.request "app 500")])) ∧
      ¬ ∀ response handledBy events,
        h.answer plainArrival plainRequest = .answered response handledBy events →
          (handledBy = .server ↔ h.MakesResponse plainArrival plainRequest) := by
  intro h
  have hbuilt : Http.Response.build 200 [("Bad Header", "x")] [] "devroute" = .serverError := by
    decide +kernel
  have hline : (record plainArrival plainRequest .serverError .app).line "$handled_by $status" =
      "app 500" := by
    decide +kernel
  have hmakes : h.MakesResponse plainArrival plainRequest := by
    rintro status headers content ⟨body, -, returned, -, hstart, -⟩
    obtain ⟨-, rfl⟩ := Prod.mk.inj hstart
    exact .inl ⟨("Bad Header", "x"), List.mem_singleton_self _, by decide⟩
  have hresult : (SyncStep.app [.start 200 [("Bad Header", "x")]]
      (plainRequest.cgi plainArrival [])).result = .body ⟨[], none⟩ := rfl
  obtain ⟨events, hanswer, -⟩ :=
    exists_answer_sync_body _ plainArrival (readBody_plainRequest []) hresult
  have hfixed : h.answer plainArrival plainRequest = .answered .serverError .app events := by
    rw [← hbuilt]
    exact hanswer
  have hrecorded := hfixed
  rw [answer_eq_recorded] at hrecorded
  obtain ⟨own, -, hevents⟩ := recorded_eq_answered hrecorded
  have hlogged : events = own ++ [.logged (.request "app 500")] := by
    rw [hevents, ← hline]
    rfl
  exact ⟨hmakes, ⟨own, hlogged ▸ hfixed⟩, fun hall => nomatch (hall _ _ _ hfixed).2 hmakes⟩

end Host
end Gateway
