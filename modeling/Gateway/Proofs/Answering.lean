import Gateway.Proofs.Failures
import Gateway.Proofs.Grammar

/-!
One answer to a request: a body over the limit is refused before anything is called, and any other
request calls the adapter once, with the whole body. What the call produced is the response, and a
call that produced nothing is answered by the fixed one. The adapter is called in a monad, so that a
call that was not made, or was made twice, makes a difference.
-/
namespace Gateway

namespace Produced

/-- What is produced with a sink that only records. -/
def ofCaptured (c : Captured) : Produced where
  status := c.start.map (·.1)
  headers := (c.start.map (·.2)).getD []
  chunks := c.written.reverse

theorem foldl_sink (events : List SinkEvent) (c : Captured) :
    events.foldl sink (ofCaptured c) = ofCaptured (events.foldl Captured.record c) := by
  induction events generalizing c with
  | nil => rfl
  | cons e events ih =>
    have hstep : (ofCaptured c).sink e = ofCaptured (c.record e) := by
      cases e with
      | start status headers => rfl
      | write chunk => simp [sink, write, ofCaptured, Captured.record]
    rw [List.foldl_cons, List.foldl_cons, hstep, ih]

theorem foldl_write (chunks : List Bytes) (p : Produced) :
    chunks.foldl write p = { p with chunks := chunks.reverse ++ p.chunks } := by
  induction chunks generalizing p with
  | nil => rfl
  | cons chunk chunks ih => simp [ih, write]

/-- A body that was returned whole follows what was written. -/
theorem ofRun_of_body (task : Nat) {run : SyncRun} {chunks : List Bytes}
    (h : run.result = .body ⟨chunks, none⟩) :
    let seen := Captured.ofSink run.sink
    ∃ p, ofRun task run = .ok p ∧ p.status = seen.start.map (·.1) ∧
      p.headers = (seen.start.map (·.2)).getD [] ∧ p.body = (seen.written ++ chunks).flatten := by
  intro seen
  refine ⟨{ ofCaptured seen with chunks := chunks.reverse ++ seen.written.reverse }, ?_, rfl, rfl, ?_⟩
  · rw [ofRun, h]
    dsimp only
    rw [foldl_write]
    exact congrArg (fun p : Produced => Except.ok { p with chunks := chunks.reverse ++ p.chunks })
      (foldl_sink run.sink {})
  · simp [body]

/-- An error and every panic, of the call or of the iteration over its body, is a failure. -/
theorem ofRun_of_not_body (task : Nat) {run : SyncRun}
    (h : ∀ chunks, run.result ≠ .body ⟨chunks, none⟩) : ∃ e, ofRun task run = .error e := by
  rw [ofRun]
  cases hresult : run.result with
  | failed e => exact ⟨e, rfl⟩
  | panicked text => exact ⟨_, rfl⟩
  | body b =>
    obtain ⟨chunks, fault⟩ := b
    cases fault with
    | none => exact absurd hresult (h chunks)
    | some text => exact ⟨_, rfl⟩

end Produced

namespace CallEnd

/-- A call whose messages spell a response has produced it, and at most a warning is logged. -/
theorem ofReturned_of_spells {status : Nat} {headers : List Field} {body : Bytes}
    {sent : List Message} (hspells : Collection.Spells status headers body sent)
    (hvalid : Http.Response.isStatus status) (result : Except AppError Unit)
    (events : List Event) :
    ∃ (p : Produced) (notices : List Notice),
      ofReturned result (Collection.ofMessages sent) events =
          .produced p (events ++ notices.map .logged) ∧
        (∀ n ∈ notices, n.level ≠ .access) ∧
        p.status = some status ∧ p.headers = headers ∧ p.body = body := by
  obtain ⟨p, hp, hstatus, hheaders, hbody⟩ := hspells.ofMessages hvalid
  rw [hp]
  cases result with
  | ok _ =>
    refine ⟨p, [], ?_, by simp, hstatus, hheaders, hbody⟩
    simp [ofReturned, hstatus]
  | error e =>
    refine ⟨p, [.failedAfterResponding e], ?_, by simp [Notice.level], hstatus, hheaders, hbody⟩
    simp [ofReturned, hstatus]

theorem ofReturned_of_not_spells {sent : List Message}
    (hno : ∀ status headers body, Http.Response.isStatus status →
      ¬ Collection.Spells status headers body sent)
    (result : Except AppError Unit) (events : List Event) :
    ∃ e, ofReturned result (Collection.ofMessages sent) events = .failed e events := by
  cases hcollected : Collection.ofMessages sent with
  | error e => cases result <;> exact ⟨_, rfl⟩
  | ok p =>
    have hstatus : p.status.isSome = false := by
      apply Bool.eq_false_iff.2
      intro hsome
      obtain ⟨status, headers, body, hvalid, hspells⟩ := Collection.exists_spells hcollected hsome
      exact hno status headers body hvalid hspells
    cases result <;> simp [ofReturned, hstatus]

end CallEnd

/-! ## The call in a monad -/

namespace Host

section Exchange

variable (h : Host) (a : Arrival) (r : Http.Request)

/-- The exchange of a request whose body was refused. -/
def refuse : BodyError → Exchange
  | .tooLarge => .answered .tooLarge .server [.logged (.bodyTooLarge h.maxBody)]
  | .unreadable reason => .answered .serverError .server [.logged (.bodyUnreadable reason)]

/-- The exchange of a request whose call has ended. -/
def conclude : CallEnd → Exchange
  | .produced p events => .answered (h.respond p) .app (events ++ (h.respondNotices p).map .logged)
  | .failed e events =>
    .answered .serverError .server (events ++ [.logged (.requestFailed r.method r.path e)])
  | .panicked text events => .panicked text events
  | .pending events => .pending events

/-- The exchange with the record of its answer, if records are written. -/
def recorded : Exchange → Exchange
  | .answered response handledBy events =>
    .answered response handledBy (events ++ h.accessFormat.toList.map fun format =>
      .logged (.request ((record a r response handledBy).line format)))
  | e => e

theorem answer_eq_recorded : h.answer a r = h.recorded a r (h.exchange a r) := by
  unfold answer recorded
  cases h.exchange a r with
  | answered response handledBy events => cases h.accessFormat <;> simp
  | panicked text events => rfl
  | pending events => rfl

variable {r} {body : Bytes} (hbody : readBody h.maxBody r.body = .ok body)

include hbody in
theorem answer_of_ok : h.answer a r = h.recorded a r (h.conclude r (h.call a r body)) := by
  have hexchange : h.exchange a r = h.conclude r (h.call a r body) := by
    unfold exchange conclude
    cases hcall : h.call a r body <;> simp only [hbody, hcall]
  rw [answer_eq_recorded, hexchange]

include hbody in
theorem answer_sync (app : SyncApp) : Host.answer { h with app := .sync app } a r =
    h.recorded a r (h.conclude r (.sync app a.task (r.cgi a body))) :=
  Host.answer_of_ok { h with app := .sync app } a hbody

theorem answer_of_error {e : BodyError} (he : readBody h.maxBody r.body = .error e) :
    h.answer a r = h.recorded a r (h.refuse e) := by
  have hexchange : h.exchange a r = h.refuse e := by
    unfold exchange refuse
    rw [he]
    cases e <;> rfl
  rw [answer_eq_recorded, hexchange]

section Once

variable {m : Type → Type} [Monad m]

include hbody

end Once

/-! ## The answer -/

/-- The events of an answer: those of the call, what the host has to say about it, and last, if
records are written, the one record of the answer. -/
def Logs (own : List Event) (response : Http.Response) (events : List Event) : Prop :=
  ∃ (notices : List Notice) (entry : AccessRecord), (∀ n ∈ notices, n.level ≠ .access) ∧
    entry.status = response.status ∧ entry.bodyBytes = response.body.length ∧
    events = own ++ notices.map .logged ++
      h.accessFormat.toList.map fun format => .logged (.request (entry.line format))

theorem exists_recorded (own : List Event) (notices : List Notice)
    (hnotices : ∀ n ∈ notices, n.level ≠ .access) (response : Http.Response)
    (handledBy : Handler) :
    ∃ events, h.recorded a r (.answered response handledBy (own ++ notices.map .logged)) =
      .answered response handledBy events ∧ h.Logs own response events :=
  ⟨_, rfl, notices, record a r response handledBy, hnotices, rfl, rfl, rfl⟩

theorem level_respondNotices (p : Produced) : ∀ n ∈ h.respondNotices p, n.level ≠ .access := by
  unfold respondNotices Http.Response.buildNotices
  split
  · simp
  · simp [Notice.level]

theorem exists_recorded_produced (own : List Event) {notices : List Notice}
    (hnotices : ∀ n ∈ notices, n.level ≠ .access) (p : Produced) :
    ∃ events, h.recorded a r (h.conclude r (.produced p (own ++ notices.map .logged))) =
      .answered (h.respond p) .app events ∧ h.Logs own (h.respond p) events := by
  have hall : ∀ n ∈ notices ++ h.respondNotices p, n.level ≠ .access := by
    intro n hn
    rcases List.mem_append.1 hn with hn | hn
    · exact hnotices n hn
    · exact h.level_respondNotices p n hn
  have hmain := h.exists_recorded a (r := r) own _ hall (h.respond p) .app
  rwa [List.map_append, ← List.append_assoc] at hmain

theorem exists_recorded_failed (own : List Event) (e : AppError) :
    ∃ events, h.recorded a r (h.conclude r (.failed e own)) =
      .answered .serverError .server events ∧ h.Logs own .serverError events :=
  h.exists_recorded a own [.requestFailed r.method r.path e]
    (by simp [Notice.level]) .serverError .server

include hbody

theorem exists_answer_sync_body {app : SyncApp} {returned : List Bytes}
    (hresult : (app (r.cgi a body)).result = .body ⟨returned, none⟩) :
    let run := app (r.cgi a body)
    let seen := Captured.ofSink run.sink
    let start := seen.start.getD (500, [])
    let response := .build start.1 start.2 (seen.written ++ returned).flatten h.serverName
    ∃ events, Host.answer { h with app := .sync app } a r = .answered response .app events ∧
      h.Logs run.events response events := by
  intro run seen start response
  obtain ⟨p, hp, hstatus, hheaders, hcontent⟩ := Produced.ofRun_of_body a.task hresult
  have hcall : CallEnd.sync app a.task (r.cgi a body) =
      .produced p (run.events ++ [].map .logged) := by
    rw [CallEnd.sync, hp, List.map_nil, List.append_nil]
  have hrespond : h.respond p = response := by
    rw [respond, hstatus, hheaders, hcontent]
    show Http.Response.build _ _ _ _ = .build _ _ _ _
    cases hstart : seen.start <;> simp only [start, hstart] <;> rfl
  rw [← hrespond, h.answer_sync a hbody, hcall]
  exact h.exists_recorded_produced a run.events (by simp) p

theorem exists_answer_sync_failed {app : SyncApp}
    (hresult : ∀ returned, (app (r.cgi a body)).result ≠ .body ⟨returned, none⟩) :
    ∃ events, Host.answer { h with app := .sync app } a r =
        .answered .serverError .server events ∧
      h.Logs (app (r.cgi a body)).events .serverError events := by
  obtain ⟨e, he⟩ := Produced.ofRun_of_not_body a.task hresult
  have hcall : CallEnd.sync app a.task (r.cgi a body) =
      .failed e (app (r.cgi a body)).events := by rw [CallEnd.sync, he]
  rw [h.answer_sync a hbody, hcall]
  exact h.exists_recorded_failed a _ e

section Async

variable {app : AsyncApp} {result : Except AppError Unit}
  (hstanding : (CallEnd.observed (app (r.scope a)) body).standing = .returned result)

include hstanding

end Async

end Exchange

end Host

end Gateway
