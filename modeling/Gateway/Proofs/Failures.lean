import Gateway.Proofs.Mounting

/-!
Calls that fail. A synchronous call that fails is answered by the fixed response, whatever it had
started. An asynchronous one is so too, unless all that it sent is the start of a response and parts
of its body: then these are the answer.
-/
namespace Gateway

/-! ## What a host keeps -/

section Map

variable {σ τ : Type} (f : σ → τ)

def Progress.map (p : Progress σ) : Progress τ :=
  { standing := p.standing, channel := p.channel, host := f p.host, events := p.events }

def Performed.map : Performed σ → Performed τ
  | done c host events => .done c (f host) events
  | refused c host events => .refused c (f host) events
  | full left c host events => .full left c (f host) events

def Listened.map : Listened σ → Listened τ
  | left heard m c host events => .left heard m c (f host) events
  | refused c host events => .refused c (f host) events
  | full acts heard c host events => .full acts heard c (f host) events
  | starved heard c host events => .starved heard c (f host) events

variable {relieve : σ → Channel → σ × Channel} {relieve' : τ → Channel → τ × Channel} {f}
  (hf : ∀ host c, relieve' (f host) c = (f (relieve host c).1, (relieve host c).2))

include hf

theorem offerRelieved_map (m : Message) (host : σ) (c : Channel) :
    offerRelieved relieve' m (f host) c =
      ((offerRelieved relieve m host c).1, f (offerRelieved relieve m host c).2.1,
        (offerRelieved relieve m host c).2.2) := by
  unfold offerRelieved
  split
  · rw [hf]
  · rfl

theorem performActs_map (acts : List Act) (host : σ) (c : Channel) (es : List Event) :
    performActs relieve' (f host) c es acts = (performActs relieve host c es acts).map f := by
  induction acts generalizing host c es with
  | nil => rfl
  | cons act acts ih =>
    cases act with
    | tell e => exact ih host c (es ++ [e])
    | send m =>
      rw [performActs, performActs, offerRelieved_map hf]
      obtain ⟨offer, host', c'⟩ := offerRelieved relieve m host c
      cases offer with
      | accepted q => exact ih host' { c' with fromApp := q } es
      | refused => rfl
      | full => rfl

theorem listenOn_map (again : List Message → Message → Option (List Act)) (fuel : Nat)
    (heard : List Message) (host : σ) (c : Channel) (es : List Event) :
    listenOn relieve' again fuel heard (f host) c es =
      (listenOn relieve again fuel heard host c es).map f := by
  induction fuel using Nat.strongRecOn generalizing heard host c es with
  | ind fuel ih =>
    cases hreceive : c.receive with
    | none =>
      rw [listenOn, listenOn, hreceive]
      rfl
    | some r =>
      obtain ⟨m, c'⟩ := r
      rw [listenOn_eq again fuel heard _ hreceive, listenOn_eq again fuel heard _ hreceive]
      cases Program.round again heard m with
      | none => rfl
      | some acts =>
        simp only [performActs_map hf]
        cases performActs relieve host c' es acts with
        | refused c'' host'' es' => rfl
        | full left c'' host'' es' => rfl
        | done c'' host'' es' =>
          cases fuel with
          | zero => rfl
          | succ n => exact ih n (Nat.lt_succ_self n) (heard ++ [m]) host'' c'' es'

/-- A host that keeps more than it needs makes for the same run. -/
theorem Program.advance_map (p : Program) (host : σ) (c : Channel) (es : List Event) :
    p.advance relieve' (f host) c es = (p.advance relieve host c es).map f := by
  induction p generalizing host c es with
  | finish result => rfl
  | panic text => rfl
  | hang => rfl
  | tell e next ih => exact ih host c (es ++ [e])
  | receive next ih =>
    rw [advance, advance]
    cases c.receive with
    | none => rfl
    | some r => exact ih r.1 host r.2 es
  | send m next ih =>
    rw [advance, advance, offerRelieved_map hf]
    obtain ⟨offer, host', c'⟩ := offerRelieved relieve m host c
    cases offer with
    | accepted q => exact ih true host' { c' with fromApp := q } es
    | refused => exact ih false host' c' es
    | full => rfl
  | listen heard again leave ih =>
    rw [advance, advance, listenOn_map hf]
    cases listenOn relieve again c.toApp.waiting.length heard host c es with
    | left heard' m c' host' es' => exact ih heard' m host' c' es'
    | refused c' host' es' => rfl
    | full acts heard' c' host' es' => rfl
    | starved heard' c' host' es' => rfl

end Map

namespace CallEnd

/-- A host that keeps the messages it takes, and stops to receive when they make up a response. -/
def note (seen : List Message) (c : Channel) : List Message × Channel :=
  (seen ++ c.fromApp.waiting, ((seen.foldl Collection.add .empty).drain c).2)

/-- The call of a program with a request body: what was sent, how it ended and what happened. -/
def observed (p : Program) (body : Bytes) : Transcript :=
  let run := p.advance note [] (channel body) []
  { sent := run.host ++ run.channel.fromApp.waiting, standing := run.standing, events := run.events }

theorem async_eq (app : AsyncApp) (scope : Scope) (body : Bytes) :
    let run := observed (app scope) body
    async app scope body =
      match run.standing with
      | .waiting _ => .pending run.events
      | .panicked text => .panicked text run.events
      | .returned result => ofReturned result (Collection.ofMessages run.sent) run.events := by
  -- what a host collected is a function of the messages it took, and it stops where that one stops
  have hnote : ∀ seen c, ((seen.foldl Collection.add .empty).drain c) =
      ((note seen c).1.foldl Collection.add .empty, (note seen c).2) := fun seen c => by
    simp only [note, Collection.drain, List.foldl_append]
  have hrun := (app scope).advance_map hnote [] (channel body) []
  rw [List.foldl_nil] at hrun
  have hmessages : ∀ (seen : List Message) (c : Channel),
      ((seen.foldl Collection.add .empty).drain c).1.result =
        Collection.ofMessages (seen ++ c.fromApp.waiting) := fun seen c => by
    simp only [Collection.drain, Collection.ofMessages, List.foldl_append]
  unfold async observed
  rw [hrun]
  generalize (app scope).advance note [] (channel body) [] = run
  obtain ⟨standing, c, seen, events⟩ := run
  cases standing with
  | waiting rest => rfl
  | panicked text => rfl
  | returned result => exact congrArg (ofReturned result · events) (hmessages seen c)

/-- Events before a program leave what it sends and how it ends as they are. -/
theorem observed_tellAll (es : List Event) (p : Program) (body : Bytes) :
    observed (.tellAll es p) body =
      { observed p body with events := es ++ (observed p body).events } := by
  simp only [observed, Program.advance_tellAll, Progress.after]

/-- A response that was started counts, though its body is not whole. -/
theorem ofReturned_started (e : AppError) {status : Nat} (h : Http.Response.isStatus status)
    (headers : List Field) (chunks : List Bytes) (events : List Event) :
    ofReturned (.error e)
        (Collection.ofMessages (.responseStart status headers :: Collection.parts chunks)) events =
      .produced { status := some status, headers, chunks := chunks.reverse }
        (events ++ [.logged (.failedAfterResponding e)]) := by
  rw [Collection.ofMessages, Collection.foldl_add_started h]
  rfl

/-- Without a response that was started, nor one that is whole, a call that returned an error has
failed. -/
theorem ofReturned_failed (e : AppError) {sent : List Message}
    (hopen : ∀ chunk, .responseBody chunk false ∉ sent)
    (hno : ∀ status headers chunks, Http.Response.isStatus status →
      sent ≠ .responseStart status headers :: Collection.parts chunks) (events : List Event) :
    ofReturned (.error e) (Collection.ofMessages sent) events = .failed e events := by
  rw [Collection.ofMessages]
  cases hc : sent.foldl Collection.add .empty with
  | failed e' => rfl
  | complete p =>
    obtain ⟨chunk, hmem⟩ := Collection.exists_final_of_foldl_add hc
    exact absurd hmem (hopen chunk)
  | going p =>
    rcases Collection.started_of_foldl_add hc with rfl | ⟨status, headers, chunks, hsent, hvalid⟩
    · obtain rfl : p = {} := (Collection.going.inj hc).symm
      rfl
    · exact absurd hsent (hno status headers chunks hvalid)

end CallEnd

namespace Host

theorem exists_answer_of_failed {h : Host} {a : Arrival} {r : Http.Request} {body : Bytes}
    {e : AppError} {events : List Event} (hbody : readBody h.maxBody r.body = .ok body)
    (hcall : h.call a r body = .failed e events) :
    ∃ events', h.answer a r = .answered .serverError .server events' := by
  have he : h.exchange a r = .answered .serverError .server
      (events ++ [.logged (.requestFailed r.method r.path e)]) := by
    simp only [exchange, hbody, hcall]
  exact exists_answer he

section Answer

variable {h : Host} {a : Arrival} {r : Http.Request} {body : Bytes} {front : Front} {e : AppError}
  (hbody : readBody h.maxBody r.body = .ok body)

include hbody in
theorem exists_answer_of_sync_failed {app : SyncApp}
    (hfile : Site.serves r.method →
      (front.site.resolve ((r.cgi a body).behind front.mount).path.toList).opened? = none)
    (hfailed : (app ((r.cgi a body).behind front.mount)).result = .failed e) :
    ∃ events, Host.answer { h with app := .behind front (.sync app) } a r =
      .answered .serverError .server events := by
  let inner := (r.cgi a body).behind front.mount
  let host : Host := { h with app := .behind front (.sync app) }
  have hmethod : (r.cgi a body).method = r.method := by
    rw [CgiRequest.method, Http.Request.get?_requestMethod_cgi]
    rfl
  rw [← hmethod] at hfile
  have hrun : front.sync app (r.cgi a body) =
      { app inner with events := front.lookupEvents inner ++ (app inner).events } :=
    Front.syncM_of_not_opened _ hfile
  have hcall : host.call a r body = .failed e (front.lookupEvents inner ++ (app inner).events) := by
    show CallEnd.sync (front.sync app) a.task (r.cgi a body) = _
    simp only [CallEnd.sync, hrun, Produced.ofRun, inner, hfailed]
  exact exists_answer_of_failed hbody hcall

theorem call_async_of_error {app : AsyncApp} {sent : List Message}
    (hfile : (front.site.resolve ((r.scope a).behind front.mount).path.toList).file? = none)
    (hsent : (CallEnd.observed (app ((r.scope a).behind front.mount)) body).sent = sent)
    (hstanding : (CallEnd.observed (app ((r.scope a).behind front.mount)) body).standing =
      .returned (.error e)) :
    ∃ events, Host.call { h with app := .behind front (.async app) } a r body =
      .ofReturned (.error e) (Collection.ofMessages sent) events := by
  let inner := (r.scope a).behind front.mount
  have hlookup : (front.lookup inner).file? = none := by
    rw [front.lookup_eq ((r.scope a).kind_behind front.mount), hfile]
  have happ : front.async app (r.scope a) =
      .tellAll (Site.notices inner.path (front.lookup inner)) (app inner) :=
    Front.asyncM_of_not_found _ (show ScopeKind.http ≠ .lifespan by decide) hlookup
  refine ⟨Site.notices inner.path (front.lookup inner) ++ (CallEnd.observed (app inner) body).events,
    ?_⟩
  show CallEnd.async (front.async app) (r.scope a) body = _
  rw [CallEnd.async_eq, happ, CallEnd.observed_tellAll]
  simp only [inner, hstanding, hsent]

include hbody in
theorem exists_answer_of_started {app : AsyncApp} {status : Nat} {headers : List Field}
    {chunks : List Bytes} (hvalid : Http.Response.isStatus status)
    (hfile : (front.site.resolve ((r.scope a).behind front.mount).path.toList).file? = none)
    (hsent : (CallEnd.observed (app ((r.scope a).behind front.mount)) body).sent =
      .responseStart status headers :: Collection.parts chunks)
    (hstanding : (CallEnd.observed (app ((r.scope a).behind front.mount)) body).standing =
      .returned (.error e)) :
    ∃ events, Host.answer { h with app := .behind front (.async app) } a r =
      .answered (.build status headers chunks.flatten h.serverName) .app events := by
  let host : Host := { h with app := .behind front (.async app) }
  have hbody' : readBody host.maxBody r.body = .ok body := hbody
  obtain ⟨events, hcall⟩ := call_async_of_error hfile hsent hstanding
  rw [CallEnd.ofReturned_started e hvalid] at hcall
  have hanswer := exists_answer_of_produced hbody' hcall
  rw [respond, Produced.body, List.reverse_reverse] at hanswer
  exact hanswer

end Answer

/-- A failed call that no file answers is answered by the fixed response, unless an asynchronous one sent a
start and perhaps parts of its body, and nothing else: these are the answer then. -/
theorem answer_of_failed {h : Host} {a : Arrival} {r : Http.Request} {body : Bytes}
    (hbody : readBody h.maxBody r.body = .ok body) (front : Front) :
    (∀ app : SyncApp,
      let inner := (r.cgi a body).behind front.mount
      let host : Host := { h with app := .behind front (.sync app) }
      (Site.serves r.method → (front.site.resolve inner.path.toList).opened? = none) →
      ∀ e, (app inner).result = .failed e →
        ∃ events, host.answer a r = .answered .serverError .server events) ∧
    ∀ app : AsyncApp,
      let inner := (r.scope a).behind front.mount
      let host : Host := { h with app := .behind front (.async app) }
      let run := CallEnd.observed (app inner) body
      (front.site.resolve inner.path.toList).file? = none →
      ∀ e, run.standing = .returned (.error e) → (∀ chunk, .responseBody chunk false ∉ run.sent) →
        (∀ status headers chunks, Http.Response.isStatus status →
          run.sent = .responseStart status headers :: Collection.parts chunks →
          ∃ events, host.answer a r =
            .answered (.build status headers chunks.flatten h.serverName) .app events) ∧
        ((∀ status headers chunks, Http.Response.isStatus status →
          run.sent ≠ .responseStart status headers :: Collection.parts chunks) →
          ∃ events, host.answer a r = .answered .serverError .server events) := by
  constructor
  · intro app inner host hfile e hfailed
    exact exists_answer_of_sync_failed hbody hfile hfailed
  · intro app inner host run hfile e hstanding hopen
    have hbody' : readBody host.maxBody r.body = .ok body := hbody
    refine ⟨fun status headers chunks hvalid hsent => ?_, fun hno => ?_⟩
    · exact exists_answer_of_started hbody hvalid hfile hsent hstanding
    · obtain ⟨events, hcall⟩ := call_async_of_error hfile rfl hstanding
      rw [CallEnd.ofReturned_failed e hopen hno] at hcall
      exact exists_answer_of_failed hbody' hcall

/-- The site of an empty volume. -/
def nowhere : Site := ⟨{}, ['/', 'w']⟩

theorem resolve_nowhere (path : List Char) : (nowhere.resolve path).file? = none := by
  have hroot : nowhere.volume.canonical? nowhere.root = none := by
    simp [nowhere, Volume.canonical?, Volume.walk, Volume.isDirectory, Volume.entry?,
      Path.isAbsolute, Path.segments, Path.dot, Path.dotDot]
  rw [Site.resolve, hroot]
  rfl

/-- An application that writes before it fails, and one that starts its response twice. -/
theorem answer_of_failed_unfinished :
    let h : Host := { app := .async fun _ => .done, maxBody := 16, serverName := "devroute" }
    let a : Arrival := ⟨⟨.v4 10 0 0 7, 0, 50000⟩, ⟨.v4 10 0 0 1, 0, 8000⟩, 0, { seconds := 0 }, 0⟩
    let r : Http.Request := { method := "GET", target := ⟨"/", none⟩ }
    let writer := SyncStep.app [.start 200 [], .write [33], .raise "boom"]
    let starter : AsyncApp := fun _ => AsyncStep.program [.send (.responseStart 200 []) 2, .raise "boom"]
    readBody h.maxBody r.body = .ok [] ∧
      (∃ events, Host.answer { h with app := .behind ⟨.disabled, nowhere⟩ (.sync writer) } a r =
        .answered .serverError .server events) ∧
      ∃ events, Host.answer { h with app := .behind ⟨.disabled, nowhere⟩ (.async starter) } a r =
        .answered .serverError .server events := by
  intro h a r writer starter
  have hbody : readBody h.maxBody r.body = .ok [] := rfl
  have hmain := answer_of_failed (a := a) hbody ⟨.disabled, nowhere⟩
  refine ⟨hbody, ?_, ?_⟩
  · exact hmain.1 writer (fun _ => Lookup.opened?_eq_none (resolve_nowhere _)) (.raised "boom") rfl
  · have hsent : (CallEnd.observed (starter ((r.scope a).behind .disabled)) []).sent =
        [.responseStart 200 [], .responseStart 200 []] := rfl
    refine (hmain.2 starter (resolve_nowhere _) (.raised "boom") rfl ?_).2 ?_
    · simp [hsent]
    · intro status headers chunks _
      cases chunks <;> simp [hsent, Collection.parts]

/-- An application that starts its response, sends part of its body and fails is answered with a
200 and this part. -/
theorem answer_of_failed_started :
    let h : Host := { app := .async fun _ => .done, maxBody := 16, serverName := "devroute" }
    let a : Arrival := ⟨⟨.v4 10 0 0 7, 0, 50000⟩, ⟨.v4 10 0 0 1, 0, 8000⟩, 0, { seconds := 0 }, 0⟩
    let r : Http.Request := { method := "GET", target := ⟨"/", none⟩ }
    let app : AsyncApp := fun _ => AsyncStep.program
      [.send (.responseStart 200 [("x-app", "partial")]) 1,
        .send (.responseBody (Text.utf8 "partial") true) 1, .raise "boom"]
    let host : Host := { h with app := .behind ⟨.disabled, nowhere⟩ (.async app) }
    let run := CallEnd.observed (app (r.scope a)) []
    readBody host.maxBody r.body = .ok [] ∧ (nowhere.resolve r.path.toList).file? = none ∧
      run.standing = .returned (.error (.raised "boom")) ∧
      (∀ chunk, .responseBody chunk false ∉ run.sent) ∧
      (∃ response events, host.answer a r = .answered response .app events ∧
        response.status = 200 ∧ response.body = Text.utf8 "partial") ∧
      ¬ ∃ events, host.answer a r = .answered .serverError .server events := by
  intro h a r app host run
  have hbody : readBody h.maxBody r.body = .ok [] := rfl
  have hsent : run.sent = .responseStart 200 [("x-app", "partial")] ::
      Collection.parts [Text.utf8 "partial"] := rfl
  have hanswer : ∃ events, host.answer a r = .answered
      (.build 200 [("x-app", "partial")] [Text.utf8 "partial"].flatten "devroute") .app events :=
    exists_answer_of_started hbody rfl (resolve_nowhere _) hsent rfl
  obtain ⟨events, hanswer⟩ := hanswer
  refine ⟨hbody, resolve_nowhere _, rfl, ?_, ⟨_, events, hanswer, ?_, ?_⟩, ?_⟩
  · simp [hsent, Collection.parts]
  · decide +kernel
  · decide +kernel
  · rintro ⟨events', hplain⟩
    have hhandler := hanswer.symm.trans hplain
    injection hhandler with _ hby
    contradiction

end Host

end Gateway
