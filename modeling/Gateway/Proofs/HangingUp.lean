import Gateway.Proofs.Carrying
import Gateway.Proofs.Framing
import Gateway.Proofs.Schedule

/-!
Hanging up. The host may try anything on its ends of the channel at any time, and may drop them. A
call that sends messages in turn has the first of them accepted, in their order, and the first that
is refused is the last that it tries: it ends with that error. So does each call of a static site.
-/
namespace Gateway

/-- The operation is on an end of the host. -/
def Channel.Operation.isHost : Operation → Bool
  | .hostSends _ | .hostReceives | .drops .toApp | .drops .fromApp => true
  | _ => false

/-- A call that is watched: where the application stands, the channel, the messages that it tried to
send, each with whether it was accepted, and those that the host received. -/
structure Watched where
  standing : Standing
  channel : Channel
  sends : List (Message × Bool)
  received : List Message

namespace Watched

/-- A call of `p` that is about to start, on a channel with room for `room` messages each way. -/
def start (room : Nat) (p : Program) : Watched where
  standing := .waiting p
  channel := .ofCapacity room
  sends := []
  received := []

/-- What a step of the application tries to send. While there is no room it takes none. -/
def attempted : Standing → Channel → List (Message × Bool)
  | .waiting (.send m _), c =>
    match c.fromApp.offer m with
    | .accepted _ => [(m, true)]
    | .refused => [(m, false)]
    | .full => []
  | _, _ => []

theorem attempted_of_accepted {c : Channel} {m : Message} {q : Queue}
    (h : c.fromApp.offer m = .accepted q) (next : Bool → Program) :
    attempted (.waiting (.send m next)) c = [(m, true)] := by
  simp only [attempted, h]

theorem attempted_of_refused {c : Channel} {m : Message} (h : c.fromApp.offer m = .refused)
    (next : Bool → Program) : attempted (.waiting (.send m next)) c = [(m, false)] := by
  simp only [attempted, h]

/-- One step of the application, or one operation of the host. -/
inductive Step : Watched → Watched → Prop
  | app {st st' c c' sends received} (h : Underway.AppStep st c st' c') :
    Step ⟨st, c, sends, received⟩ ⟨st', c', sends ++ attempted st c, received⟩
  | host {st c sends received} (op : Channel.Operation) (h : op.isHost) :
    Step ⟨st, c, sends, received⟩ ⟨st, (c.operate op).2, sends,
      received ++ Channel.Log.hostReceived [(op, (c.operate op).1)]⟩

abbrev Steps : Watched → Watched → Prop := Relation.ReflTransGen Step

/-- The messages that were accepted. -/
def accepted (sends : List (Message × Bool)) : List Message :=
  (sends.filter (·.2)).map (·.1)

/-! ## After a refusal -/

/-- A message was refused to the call, which ends with that error and does nothing else. -/
inductive HungUp : Standing → Prop
  | refused : HungUp (.waiting .refused)
  | returned : HungUp (.returned (.error .channelClosed))

theorem HungUp.app {st st' : Standing} {c c' : Channel} (h : HungUp st)
    (hstep : Underway.AppStep st c st' c') : HungUp st' ∧ attempted st c = [] := by
  cases h with
  | refused =>
    cases hstep
    exact ⟨.returned, rfl⟩
  | returned => cases hstep

theorem HungUp.steps {s t : Watched} (h : HungUp s.standing) (hsteps : Steps s t) :
    HungUp t.standing ∧ t.sends = s.sends := by
  induction hsteps with
  | refl => exact ⟨h, rfl⟩
  | tail _ hstep ih =>
    cases hstep with
    | host => exact ih
    | app happ =>
      obtain ⟨hungUp, hnone⟩ := ih.1.app happ
      rw [hnone, List.append_nil]
      exact ⟨hungUp, ih.2⟩

theorem HungUp.exists_steps {t : Watched} (h : HungUp t.standing) :
    ∃ t', Steps t t' ∧ t'.standing = .returned (.error .channelClosed) := by
  obtain ⟨st, c, sends, received⟩ := t
  cases h with
  | refused => exact ⟨_, .single (.app .finish), rfl⟩
  | returned => exact ⟨_, .refl, rfl⟩

/-! ## Sending in turn -/

/-- How far a program has got that sends `ms` in turn and then ends with `result`: where it stands,
and what it tried to send. -/
inductive InTurn (ms : List Message) (result : Except AppError Unit) :
    Standing → List (Message × Bool) → Prop
  | going {es sent left} (h : ms = sent ++ left) :
    InTurn ms result (.waiting (.tellAll es (.sendAll left (.finish result)))) (sent.map (·, true))
  | returned : InTurn ms result (.returned result) (ms.map (·, true))
  | refused {st sent m left} (h : ms = sent ++ m :: left) (hst : HungUp st) :
    InTurn ms result st (sent.map (·, true) ++ [(m, false)])

section InTurn

variable {ms : List Message} {result : Except AppError Unit} {st st' : Standing} {c c' : Channel}
  {sends : List (Message × Bool)}

theorem InTurn.sent {sent left : List Message} {m : Message} (h : ms = sent ++ m :: left) :
    InTurn ms result (.waiting (.sendAll left (.finish result)))
      (sent.map (·, true) ++ [(m, true)]) := by
  have hnext : ms = (sent ++ [m]) ++ left := by
    rw [h, List.append_assoc, List.singleton_append]
  have hgoing : InTurn ms result (.waiting (.tellAll [] (.sendAll left (.finish result))))
      ((sent ++ [m]).map (·, true)) := .going hnext
  rwa [List.map_append] at hgoing

theorem InTurn.app (h : InTurn ms result st sends) (hstep : Underway.AppStep st c st' c') :
    InTurn ms result st' (sends ++ attempted st c) := by
  cases h with
  | @going es sent left hms =>
    cases es with
    | cons e es =>
      cases hstep
      show InTurn ms result _ (_ ++ [])
      rw [List.append_nil]
      exact .going hms
    | nil =>
      cases left with
      | nil =>
        cases hstep
        show InTurn ms result _ (_ ++ [])
        rw [List.append_nil] at hms ⊢
        exact hms ▸ .returned
      | cons m left =>
        show InTurn ms result st' (_ ++ attempted (.waiting (.send m _)) c)
        cases hstep with
        | sent hoffer =>
          rw [attempted_of_accepted hoffer]
          exact .sent hms
        | refused hoffer =>
          rw [attempted_of_refused hoffer]
          exact .refused hms .refused
  | returned => cases hstep
  | refused hms hst =>
    obtain ⟨hungUp, hnone⟩ := hst.app hstep
    rw [hnone, List.append_nil]
    exact .refused hms hungUp

theorem InTurn.steps {s t : Watched} (h : InTurn ms result s.standing s.sends)
    (hsteps : Steps s t) : InTurn ms result t.standing t.sends := by
  induction hsteps with
  | refl => exact h
  | tail _ hstep ih =>
    cases hstep with
    | host => exact ih
    | app happ => exact ih.app happ

end InTurn

/-! ## What the channel keeps -/

theorem accepted_append (sends more : List (Message × Bool)) :
    accepted (sends ++ more) = accepted sends ++ accepted more := by
  simp [accepted]

section Keeps

variable {room : Nat} {st st' : Standing} {c c' : Channel} {sends : List (Message × Bool)}
  {received : List Message} (h : c.fromApp.Keeps room (accepted sends) received)

include h

theorem keeps_app (hstep : Underway.AppStep st c st' c') :
    c'.fromApp.Keeps room (accepted (sends ++ attempted st c)) received := by
  have hdropped : c.dropApp.fromApp.Keeps room (accepted sends ++ []) received :=
    List.append_nil received ▸ h.moves .losesSender
  rw [accepted_append]
  rw [← List.append_nil (accepted sends)] at h
  cases hstep with
  | finish => exact hdropped
  | panic => exact hdropped
  | tell => exact h
  | receive hreceive => exact Channel.fromApp_of_receive hreceive ▸ h
  | hear hreceive => exact Channel.fromApp_of_receive hreceive ▸ h
  | sent hoffer =>
    rw [attempted_of_accepted hoffer]
    rw [List.append_nil] at h
    exact h.accepts hoffer
  | refused hoffer =>
    rw [attempted_of_refused hoffer]
    exact h

theorem keeps_host {op : Channel.Operation} (hop : op.isHost) :
    (c.operate op).2.fromApp.Keeps room (accepted sends)
      (received ++ Channel.Log.hostReceived [(op, (c.operate op).1)]) := by
  have hnone : Channel.Log.appSent [(op, (c.operate op).1)] = [] := by
    cases op with
    | appSends m => contradiction
    | _ => rfl
  have hkeeps := h.moves (Channel.outcome_operate c op).fromApp_moves
  rwa [hnone, List.append_nil] at hkeeps

end Keeps

theorem keeps_steps {room : Nat} {s t : Watched}
    (h : s.channel.fromApp.Keeps room (accepted s.sends) s.received) (hsteps : Steps s t) :
    t.channel.fromApp.Keeps room (accepted t.sends) t.received := by
  induction hsteps with
  | refl => exact h
  | tail _ hstep ih =>
    cases hstep with
    | app happ => exact keeps_app ih happ
    | host op hop => exact keeps_host ih hop

/-! ## A call that stops cleanly -/

/-- What is known at any time of a call that sends `ms` in turn and then ends with `result`, on a
channel with room for `room` messages. -/
structure StopsCleanly (room : Nat) (ms : List Message) (result : Except AppError Unit)
    (t : Watched) : Prop where
  /-- Unless one was refused, the first messages were accepted, and all if the call has returned. -/
  unrefused : (∀ a ∈ t.sends, a.2) → ∃ k ≤ ms.length, t.sends = (ms.take k).map (·, true) ∧
    ∀ r, t.standing = .returned r → k = ms.length ∧ r = result
  /-- If one was refused, those before it were accepted, none is tried after it, and the call can
  only return, and does, that the channel is closed. -/
  refused : ∀ m, (m, false) ∈ t.sends → ∃ k, ms[k]? = some m ∧
    t.sends = (ms.take k).map (·, true) ++ [(m, false)] ∧
    (∀ t', Steps t t' → HungUp t'.standing ∧ t'.sends = t.sends) ∧
    ∃ t', Steps t t' ∧ t'.standing = .returned (.error .channelClosed)
  /-- The host receives the first of those accepted, in their order, and the others are on the way. -/
  delivered : t.channel.fromApp.Keeps room (accepted t.sends) t.received

section InTurn

variable {ms : List Message} {result : Except AppError Unit} {st : Standing}
  {sends : List (Message × Bool)}

theorem InTurn.eq_of_unrefused (h : InTurn ms result st sends) (hall : ∀ a ∈ sends, a.2) :
    ∃ k ≤ ms.length, sends = (ms.take k).map (·, true) ∧
      ∀ r, st = .returned r → k = ms.length ∧ r = result := by
  cases h with
  | @going es sent left hms =>
    refine ⟨sent.length, by simp [hms], by simp [hms], fun r hr => ?_⟩
    cases hr
  | returned =>
    refine ⟨ms.length, Nat.le_refl _, by rw [List.take_length], fun r hr => ?_⟩
    exact ⟨rfl, (Standing.returned.inj hr).symm⟩
  | @refused _ sent m left hms hst =>
    have hfalse := hall (m, false) (by simp)
    contradiction

theorem not_mem_map_true (sent : List Message) (m : Message) :
    (m, false) ∉ sent.map (·, true) := by
  simp

theorem InTurn.eq_of_refused (h : InTurn ms result st sends) {m : Message}
    (hmem : (m, false) ∈ sends) :
    HungUp st ∧ ∃ k, ms[k]? = some m ∧ sends = (ms.take k).map (·, true) ++ [(m, false)] := by
  cases h with
  | going => exact absurd hmem (not_mem_map_true _ m)
  | returned => exact absurd hmem (not_mem_map_true _ m)
  | @refused _ sent n left hms hst =>
    obtain rfl : m = n := by simpa using hmem
    exact ⟨hst, sent.length, by simp [hms], by simp [hms]⟩

end InTurn

theorem stopsCleanly {room : Nat} {es : List Event} {ms : List Message}
    {result : Except AppError Unit} {t : Watched}
    (hsteps : Steps (.start room (.tellAll es (.sendAll ms (.finish result)))) t) :
    StopsCleanly room ms result t := by
  have hstart : InTurn ms result (.waiting (.tellAll es (.sendAll ms (.finish result))))
      ([].map (·, true)) := .going rfl
  have hnew : (Channel.ofCapacity room).fromApp.Keeps room (accepted []) [] :=
    Queue.keeps_new room
  have hinTurn := hstart.steps hsteps
  refine ⟨hinTurn.eq_of_unrefused, fun m hmem => ?_, keeps_steps hnew hsteps⟩
  obtain ⟨hungUp, k, hk, hsends⟩ := hinTurn.eq_of_refused hmem
  exact ⟨k, hk, hsends, fun t' => hungUp.steps, hungUp.exists_steps⟩

theorem StopsCleanly.of_nil {room : Nat} {result : Except AppError Unit} {t : Watched}
    (h : StopsCleanly room [] result t) :
    t.sends = [] ∧ ∀ r, t.standing = .returned r → r = result := by
  have hall : ∀ a ∈ t.sends, a.2 := by
    rintro ⟨m, ok⟩ hmem
    cases ok with
    | true => rfl
    | false =>
      obtain ⟨k, hk, -⟩ := h.refused m hmem
      simp at hk
  obtain ⟨k, -, hsends, hreturned⟩ := h.unrefused hall
  rw [List.take_nil] at hsends
  exact ⟨hsends, fun r hr => (hreturned r hr).2⟩

/-! ## Every refusal happens -/

section Refusal

variable {st st' : Standing} {c c' : Channel} (sends : List (Message × Bool))
  (received : List Message)

theorem step_silent (hstep : Underway.AppStep st c st' c') (hnone : attempted st c = []) :
    Step ⟨st, c, sends, received⟩ ⟨st', c', sends, received⟩ := by
  have happ : Step ⟨st, c, sends, received⟩ ⟨st', c', sends ++ attempted st c, received⟩ :=
    .app hstep
  rwa [hnone, List.append_nil] at happ

theorem steps_tellAll (es : List Event) (p : Program) :
    Steps ⟨.waiting (.tellAll es p), c, sends, received⟩ ⟨.waiting p, c, sends, received⟩ := by
  induction es with
  | nil => exact .refl
  | cons e es ih => exact .head (step_silent sends received .tell rfl) ih

/-- A message that is sent where there is room, and received at once. -/
theorem steps_delivered {room : Nat} (hroom : 0 < room) (m : Message) (next : Bool → Program)
    (toApp : Queue) :
    Steps ⟨.waiting (.send m next), ⟨toApp, { capacity := room }⟩, sends, received⟩
      ⟨.waiting (next true), ⟨toApp, { capacity := room }⟩, sends ++ [(m, true)],
        received ++ [m]⟩ := by
  have hoffer : ({ capacity := room } : Queue).offer m =
      .accepted { capacity := room, waiting := [m] } := by
    simp [Queue.offer, Queue.isFull, Nat.pos_iff_ne_zero.1 hroom]
  have hsent : Step ⟨.waiting (.send m next), ⟨toApp, { capacity := room }⟩, sends, received⟩
      ⟨.waiting (next true), ⟨toApp, { capacity := room, waiting := [m] }⟩, sends ++ [(m, true)],
        received⟩ := by
    rw [← attempted_of_accepted (c := ⟨toApp, { capacity := room }⟩) hoffer next]
    exact .app (.sent hoffer)
  exact .head hsent (.single (.host .hostReceives rfl))

/-- A message that is sent after the host has hung up. -/
theorem steps_hungUp (m : Message) (next : Program) (c : Channel) :
    Steps ⟨.waiting (.sendThen m next), c, sends, received⟩
      ⟨.returned (.error .channelClosed), (c.drop .fromApp).dropApp, sends ++ [(m, false)],
        received⟩ := by
  have hdrop : Step ⟨.waiting (.sendThen m next), c, sends, received⟩
      ⟨.waiting (.sendThen m next), c.drop .fromApp, sends, received ++ []⟩ :=
    .host (.drops .fromApp) rfl
  have hoffer : (c.drop .fromApp).fromApp.offer m = .refused := rfl
  have hrefused : Step ⟨.waiting (.sendThen m next), c.drop .fromApp, sends, received⟩
      ⟨.waiting .refused, c.drop .fromApp, sends ++ [(m, false)], received⟩ := by
    rw [← attempted_of_refused hoffer]
    exact .app (.refused hoffer)
  rw [List.append_nil] at hdrop
  exact .head hdrop (.head hrefused (.single (step_silent _ received .finish rfl)))

/-- The host can receive the first `k` messages, each before the next is sent, and then hang up. -/
theorem steps_refused {room : Nat} (hroom : 0 < room) {ms : List Message} {k : Nat} {m : Message}
    (h : ms[k]? = some m) (next : Program) (toApp : Queue) :
    Steps ⟨.waiting (.sendAll ms next), ⟨toApp, { capacity := room }⟩, sends, received⟩
      ⟨.returned (.error .channelClosed),
        ((⟨toApp, { capacity := room }⟩ : Channel).drop .fromApp).dropApp,
        sends ++ ((ms.take k).map (·, true) ++ [(m, false)]), received ++ ms.take k⟩ := by
  induction ms generalizing k sends received with
  | nil => simp at h
  | cons n ms ih =>
    cases k with
    | zero =>
      obtain rfl : n = m := by simpa using h
      have hlast := steps_hungUp sends received n (.sendAll ms next)
        ⟨toApp, { capacity := room }⟩
      rwa [List.take_zero, List.append_nil]
    | succ k =>
      have hrest := ih (sends ++ [(n, true)]) (received ++ [n]) (by simpa using h)
      have hfirst := steps_delivered sends received hroom n
        (fun accepted => if accepted then .sendAll ms next else .refused) toApp
      simp only [List.append_assoc] at hrest
      exact hfirst.trans hrest

end Refusal

/-! ## The calls of the host -/

/-- A host that collects the response is one that may be watched. -/
theorem exists_steps_of_underway {s t : Underway} (h : Underway.Steps s t)
    (sends : List (Message × Bool)) (received : List Message) :
    ∃ sends' received', Steps ⟨s.standing, s.channel, sends, received⟩
      ⟨t.standing, t.channel, sends', received'⟩ := by
  induction h with
  | refl => exact ⟨sends, received, .refl⟩
  | tail _ hstep ih =>
    obtain ⟨sends', received', hsteps⟩ := ih
    cases hstep with
    | app happ => exact ⟨_, _, hsteps.tail (.app happ)⟩
    | @host st c c' k k' hhost =>
      cases hhost with
      | @take m q _ hreceiver hgoing htake =>
        have hop : c.operate .hostReceives = (.got m, { c with fromApp := q }) := by
          simp [Channel.operate, hreceiver, htake]
        have hnext : Step ⟨st, c, sends', received'⟩ ⟨st, (c.operate .hostReceives).2, sends',
            received' ++ Channel.Log.hostReceived [(.hostReceives, (c.operate .hostReceives).1)]⟩ :=
          .host .hostReceives rfl
        rw [hop] at hnext
        exact ⟨_, _, hsteps.tail hnext⟩
      | stop => exact ⟨_, _, hsteps.tail (.host (.drops .fromApp) rfl)⟩

/-- Each call by the host is watched: the host has sent the request, and can send nothing more. -/
theorem exists_steps_advance (p : Program) (body : Bytes) :
    let run := p.advance Collection.drain .empty (CallEnd.channel body) []
    ∃ t, Steps (.start CallEnd.capacity p) t ∧ t.standing = run.standing ∧
      t.channel = run.channel := by
  intro run
  let sent := ((Channel.ofCapacity CallEnd.capacity).operate (.hostSends (.request body false))).2
  have hsent : Step (.start CallEnd.capacity p) ⟨.waiting p, sent, [], []⟩ :=
    .host (.hostSends (.request body false)) rfl
  have hdropped : Step ⟨.waiting p, sent, [], []⟩ ⟨.waiting p, CallEnd.channel body, [], []⟩ :=
    .host (.drops .toApp) rfl
  obtain ⟨sends, received, hsteps⟩ := exists_steps_of_underway
    (Underway.steps_advance p (CallEnd.channel body) .empty []) [] []
  exact ⟨_, .head hsent (.head hdropped hsteps), rfl, rfl⟩

end Watched

namespace Site

open Watched (Steps StopsCleanly)

/-- A request is answered with one start and parts of a body, of which the last is final unless the file
cannot be read to its end. At the first message that is refused the site stops, with an error. -/
theorem sends_until_refused (site : Site) (scope : Scope) :
    let program := site.asyncApp scope
    let ms := site.response scope.method scope.path
    let result := site.outcome scope.method scope.path
    let unserved : AppError :=
      .raised ("static files cannot serve '" ++ scope.kind.name ++ "' connections")
    let fails (file : File) (error : String) := scope.method.toLower = "get" ∧
      (site.resolve scope.path.toList).file? = some file ∧ file.opens ∧ file.readError? = some error
    (scope.kind = .http →
      ((∀ file error, ¬ fails file error) → result = .ok () ∧ ∃ status headers chunks last,
        ms = .responseStart status headers ::
          (Collection.parts chunks ++ [.responseBody last false])) ∧
      (∀ file error, fails file error →
        result = .error (.raised ("static file read failed: " ++ error)) ∧ ∃ headers chunks,
          ms = .responseStart 200 headers :: Collection.parts chunks ∧ chunks.flatten = file.data) ∧
      (∀ incoming, (program.transcript incoming true).sent = ms ∧
        (program.transcript incoming true).standing = .returned result) ∧
      (∀ room t, Steps (.start room program) t → StopsCleanly room ms result t) ∧
      ∀ room k m, 0 < room → ms[k]? = some m → ∃ t, Steps (.start room program) t ∧
        t.standing = .returned (.error .channelClosed) ∧
        t.sends = (ms.take k).map (·, true) ++ [(m, false)] ∧ t.received = ms.take k) ∧
    (scope.kind ≠ .http →
      (∀ incoming listening, (program.transcript incoming listening).sent = [] ∧
        (program.transcript incoming listening).standing = .returned (.error unserved)) ∧
      ∀ room t, Steps (.start room program) t → t.sends = [] ∧
        ∀ result, t.standing = .returned result → result = .error unserved) ∧
    ∀ body, ∃ t, Steps (.start CallEnd.capacity program) t ∧
      let run := program.advance Collection.drain .empty (CallEnd.channel body) []
      t.standing = run.standing ∧ t.channel = run.channel := by
  intro program ms result unserved fails
  refine ⟨fun hkind => ?_, fun hkind => ?_, Watched.exists_steps_advance program⟩
  · obtain ⟨es, hprogram⟩ : ∃ es, program = .tellAll es (.sendAll ms (.finish result)) :=
      site.exists_asyncApp_eq hkind
    refine ⟨fun hreads => ?_, fun file error hfails => ?_, site.transcript_asyncApp hkind, ?_, ?_⟩
    · have hnone : site.failure? scope.method scope.path = none := by
        refine Option.eq_none_iff_forall_ne_some.2 fun error herror => ?_
        obtain ⟨hget, file, ho, hread⟩ := failure?_eq_some_iff.1 herror
        obtain ⟨hf, hopens⟩ := Lookup.opened?_eq_some_iff.1 ho
        exact hreads file error ⟨hget, hf, hopens, hread⟩
      obtain ⟨headers, chunks, last, hresponse⟩ :=
        site.exists_response_eq scope.method scope.path
      rw [hnone] at hresponse
      exact ⟨outcome_of_failure? hnone, _, headers, chunks, last, hresponse⟩
    · obtain ⟨hget, hf, hopens, hread⟩ := hfails
      obtain ⟨hresult, hresponse⟩ :=
        response_of_unreadable hget (Lookup.opened?_eq_some_iff.2 ⟨hf, hopens⟩) hread
      have hframed := framed_chunksOf (show 0 < chunkSize by decide) file.data
      exact ⟨hresult, _, _, hresponse, hframed.flatten⟩
    · intro room t hsteps
      rw [hprogram] at hsteps
      exact Watched.stopsCleanly hsteps
    · rw [hprogram]
      intro room k m hroom hk
      have htold := Watched.steps_tellAll (c := .ofCapacity room) [] [] es
        (.sendAll ms (.finish result))
      exact ⟨_, htold.trans (Watched.steps_refused [] [] hroom hk (.finish result)
        { capacity := room }), rfl, rfl, rfl⟩
  · have hprogram : program = .finish (.error unserved) := if_pos hkind
    rw [hprogram]
    refine ⟨fun incoming listening => ?_, fun room t hsteps => ?_⟩
    · exact ⟨rfl, rfl⟩
    · have hinTurn : Steps (.start room (.tellAll [] (.sendAll [] (.finish (.error unserved))))) t :=
        hsteps
      exact (Watched.stopsCleanly hinTurn).of_nil

/-- A file of which three bytes can be read: they are sent, but no part is final, and then the call ends with
the error. -/
theorem response_unreadable :
    let site := holding { data := [1, 2, 3], fault := some (.unreadable "Input/output error") }
    let scope := Scope.http "GET" "/./a"
    let call := (site.asyncApp scope).transcript [] true
    call.sent = [.responseStart 200
        [("Content-Type", "application/octet-stream"), ("Content-Length", "3")],
      .responseBody [1, 2, 3] true] ∧
    (∀ start chunks last, call.sent ≠
      start :: (Collection.parts chunks ++ [.responseBody last false])) ∧
    call.standing =
      .returned (.error (.raised "static file read failed: Input/output error")) := by
  intro site scope call
  let file : File := { data := [1, 2, 3], fault := some (.unreadable "Input/output error") }
  have ho : (site.resolve scope.path.toList).opened? = some file := by
    show (site.resolve "/./a".toList).opened? = some file
    rw [resolve_holding]
    rfl
  have hget : scope.method.toLower = "get" := by decide +kernel
  have hchunks : chunksOf chunkSize file.data = [[1, 2, 3]] := by
    rw [chunksOf, if_neg (by decide), chunksOf, if_pos (by decide)]
    rfl
  have hheaders : fileHeaders scope.path file =
      [("Content-Type", "application/octet-stream"), ("Content-Length", "3")] := by
    decide +kernel
  obtain ⟨hresult, hresponse⟩ := response_of_unreadable hget ho rfl
  have hkind : scope.kind = .http := rfl
  obtain ⟨hsent, hstanding⟩ := site.transcript_asyncApp hkind []
  rw [hresponse, hchunks, hheaders] at hsent
  rw [hresult] at hstanding
  refine ⟨hsent, fun start chunks last hframed => ?_, hstanding⟩
  have hparts : Collection.parts [[1, 2, 3]] = Collection.parts chunks ++ [.responseBody last false] :=
    (List.cons.inj (hsent.symm.trans hframed)).2
  have hlast := congrArg List.getLast? hparts
  simp [Collection.parts] at hlast

end Site
end Gateway
