import Gateway.Exchange.Host
import Gateway.Script
import Gateway.Proofs.Serving

/-!
Scripts: programs that neither hang nor panic, and that end when a message is refused. A host that
keeps up with a script gets to see all that it would send.
-/
namespace Gateway

/-- The host has sent `w`, which waits, and sends nothing more. -/
structure Channel.Settled (c : Channel) (w : List Message) : Prop where
  waiting : c.toApp.waiting = w
  hasSender : c.toApp.hasSender = false

/-- What is received next where `w` waits, and what waits then. -/
def Channel.next : List Message → Message × List Message
  | [] => (.disconnect, [])
  | m :: w => (m, w)

theorem Channel.Settled.receive {c : Channel} {w : List Message} (h : c.Settled w) :
    ∃ c', c.receive = some ((next w).1, c') ∧ c'.Settled (next w).2 ∧ c'.fromApp = c.fromApp := by
  obtain ⟨hw, hs⟩ := h
  cases w with
  | nil => exact ⟨c, by simp [Channel.receive, Queue.take, hw, hs, next], ⟨hw, hs⟩, rfl⟩
  | cons m w =>
    refine ⟨{ c with toApp := { c.toApp with waiting := w } }, ?_, ⟨rfl, hs⟩, rfl⟩
    simp [Channel.receive, Queue.take, hw, next]

def Act.messages (acts : List Act) : List Message :=
  acts.filterMap fun
    | .send m => some m
    | .tell _ => none

namespace Program

/-- The call ends without another message. -/
def Ends : Program → Prop
  | finish _ => True
  | tell _ next => next.Ends
  | _ => False

/-- The program neither hangs nor panics, and a message that is refused ends the call. -/
def IsScript : Program → Prop
  | finish _ => True
  | panic _ => False
  | hang => False
  | tell _ next => next.IsScript
  | receive next => ∀ m, (next m).IsScript
  | send _ next => (next true).IsScript ∧ (next false).Ends
  | listen _ _ leave => ∀ heard m, (leave heard m).IsScript

/-- The acts of the round that hears `m`. There are none when the loop is left. -/
def round (again : List Message → Message → Option (List Act)) (heard : List Message)
    (m : Message) : Option (List Act) :=
  if m = .disconnect then none else again heard m

/-- What a listening loop sends where messages wait; `leave` is what is sent after it. -/
def listenSends (again : List Message → Message → Option (List Act))
    (leave : List Message → Message → List Message → List Message) (heard : List Message) :
    List Message → List Message
  | [] => leave heard .disconnect []
  | m :: w =>
    match round again heard m with
    | none => leave heard m w
    | some acts => Act.messages acts ++ listenSends again leave (heard ++ [m]) w

/-- What the program sends where `w` waits for it and no message is refused. -/
def sends : Program → List Message → List Message
  | finish _, _ => []
  | panic _, _ => []
  | hang, _ => []
  | tell _ next, w => next.sends w
  | receive next, w => (next (Channel.next w).1).sends (Channel.next w).2
  | send m next, w => m :: (next true).sends w
  | listen heard again leave, w => listenSends again (fun h m => (leave h m).sends) heard w

theorem Ends.isScript {p : Program} (h : p.Ends) : p.IsScript := by
  induction p with
  | finish result => trivial
  | tell e next ih => exact ih h
  | _ => exact h.elim

theorem isScript_sendThen {m : Message} {next : Program} (h : next.IsScript) :
    (sendThen m next).IsScript := ⟨h, trivial⟩

theorem isScript_sendAll {next : Program} (h : next.IsScript) (ms : List Message) :
    (sendAll ms next).IsScript := by
  induction ms with
  | nil => exact h
  | cons m ms ih => exact isScript_sendThen ih

theorem isScript_tellAll {next : Program} (h : next.IsScript) (es : List Event) :
    (tellAll es next).IsScript := by
  induction es with
  | nil => exact h
  | cons e es ih => exact ih

theorem isScript_perform {next : Program} (h : next.IsScript) (acts : List Act) :
    (perform acts next).IsScript := by
  induction acts with
  | nil => exact h
  | cons act acts ih =>
    cases act with
    | tell e => exact ih
    | send m => exact isScript_sendThen ih

theorem sends_sendAll (ms : List Message) (next : Program) (w : List Message) :
    (sendAll ms next).sends w = ms ++ next.sends w := by
  induction ms with
  | nil => rfl
  | cons m ms ih => exact congrArg (m :: ·) ih

theorem sends_perform (acts : List Act) (next : Program) (w : List Message) :
    (perform acts next).sends w = Act.messages acts ++ next.sends w := by
  induction acts with
  | nil => rfl
  | cons act acts ih =>
    cases act with
    | tell e => exact ih
    | send m => exact congrArg (m :: ·) ih

end Program

section Run

variable {σ : Type} {relieve : σ → Channel → σ × Channel} {Ok : List Message → σ → Queue → Prop}

/-- The host keeps up: `Ok` accounts for all that was sent so far, the next message is accepted, and
if one is refused nothing more can make a difference. -/
def KeepsUp (relieve : σ → Channel → σ × Channel) (Ok : List Message → σ → Queue → Prop) : Prop :=
  ∀ ⦃sent host c⦄ (m : Message), Ok sent host c.fromApp →
    (∃ q host' c', offerRelieved relieve m host c = (.accepted q, host', c') ∧
        c'.toApp = c.toApp ∧ Ok (sent ++ [m]) host' q) ∨
      ∃ host' c', offerRelieved relieve m host c = (.refused, host', c') ∧
        ∀ rest, Ok (sent ++ rest) host' c'.fromApp

theorem KeepsUp.performActs (hk : KeepsUp relieve Ok) (acts : List Act) {sent : List Message}
    {host : σ} {c : Channel} (h : Ok sent host c.fromApp) (es : List Event) :
    (∃ c' host' es', performActs relieve host c es acts = .done c' host' es' ∧
        c'.toApp = c.toApp ∧ Ok (sent ++ Act.messages acts) host' c'.fromApp) ∨
      ∃ c' host' es', performActs relieve host c es acts = .refused c' host' es' ∧
        ∀ rest, Ok (sent ++ Act.messages acts ++ rest) host' c'.fromApp := by
  induction acts generalizing sent host c es with
  | nil => exact .inl ⟨c, host, es, rfl, rfl, by simpa [Act.messages] using h⟩
  | cons act acts ih =>
    cases act with
    | tell e => exact ih h (es ++ [e])
    | send m =>
      have hcons : ∀ rest, sent ++ (Act.messages (.send m :: acts) ++ rest) =
          sent ++ [m] ++ Act.messages acts ++ rest := by simp [Act.messages]
      rw [Gateway.performActs]
      rcases hk m h with ⟨q, host', c', hoffer, hto, hok⟩ | ⟨host', c', hoffer, hok⟩
      · rw [hoffer]
        rcases ih (c := { c' with fromApp := q }) hok es with
          ⟨c'', host'', es', hrun, hto', hok'⟩ | ⟨c'', host'', es', hrun, hok'⟩
        · refine .inl ⟨c'', host'', es', hrun, hto'.trans hto, ?_⟩
          rwa [← List.append_nil (_ ++ _), List.append_assoc, hcons, List.append_nil]
        · refine .inr ⟨c'', host'', es', hrun, fun rest => ?_⟩
          rw [List.append_assoc, hcons]
          exact hok' rest
      · rw [hoffer]
        -- the acts that are left, and whatever follows, are part of the rest that makes no difference
        refine .inr ⟨c', host', es, rfl, fun rest => ?_⟩
        rw [List.append_assoc]
        exact hok _

theorem listenOn_eq (again : List Message → Message → Option (List Act)) (fuel : Nat)
    (heard : List Message) (host : σ) {c c' : Channel} {m : Message}
    (h : c.receive = some (m, c')) (es : List Event) :
    listenOn relieve again fuel heard host c es =
      match Program.round again heard m with
      | none => .left heard m c' host es
      | some acts =>
        match performActs relieve host c' es acts with
        | .refused c host events => .refused c host events
        | .full acts c host events => .full acts (heard ++ [m]) c host events
        | .done c host events =>
          match fuel with
          | 0 => .starved (heard ++ [m]) c host events
          | n + 1 => listenOn relieve again n (heard ++ [m]) host c events := by
  rw [listenOn, h]
  by_cases hm : m = .disconnect
  · subst hm
    simp [Program.round]
  · rw [Program.round, if_neg hm]
    split
    · contradiction
    · next heq => exact absurd (congrArg Prod.fst (Option.some.inj heq)) hm
    · next heq =>
      obtain ⟨rfl, rfl⟩ := Prod.mk.inj (Option.some.inj heq)
      rfl

theorem KeepsUp.listenOn (hk : KeepsUp relieve Ok)
    (again : List Message → Message → Option (List Act))
    (leave : List Message → Message → List Message → List Message) {w : List Message}
    {heard sent : List Message} {host : σ} {c : Channel} (hc : c.Settled w)
    (h : Ok sent host c.fromApp) (es : List Event) :
    (∃ heard' m c' host' es' w' before,
        listenOn relieve again w.length heard host c es = .left heard' m c' host' es' ∧
        c'.Settled w' ∧ Ok (sent ++ before) host' c'.fromApp ∧
        Program.listenSends again leave heard w = before ++ leave heard' m w') ∨
      ∃ c' host' es', listenOn relieve again w.length heard host c es = .refused c' host' es' ∧
        Ok (sent ++ Program.listenSends again leave heard w) host' c'.fromApp := by
  induction w generalizing heard sent host c es with
  | nil =>
    obtain ⟨c', hreceive, hc', hfrom⟩ := hc.receive
    refine .inl ⟨heard, .disconnect, c', host, es, [], [], ?_, hc', ?_, rfl⟩
    · rw [listenOn_eq again _ heard host hreceive]
      rfl
    · rwa [List.append_nil, hfrom]
  | cons m w ih =>
    obtain ⟨c', hreceive, hc', hfrom⟩ := hc.receive
    rw [listenOn_eq again _ heard host hreceive, Program.listenSends]
    cases hround : Program.round again heard m with
    | none =>
      refine .inl ⟨heard, m, c', host, es, w, [], ?_, hc', ?_, rfl⟩
      · simp [Channel.next, hround]
      · rwa [List.append_nil, hfrom]
    | some acts =>
      simp only [Channel.next, hround]
      rcases hk.performActs acts (hfrom ▸ h) es with
        ⟨c'', host'', es', hrun, hto, hok⟩ | ⟨c'', host'', es', hrun, hok⟩
      · have hc'' : c''.Settled w := ⟨hto ▸ hc'.waiting, hto ▸ hc'.hasSender⟩
        simp only [hrun, List.length_cons]
        rcases ih hc'' hok es' with
          ⟨heard', m', c₃, host₃, es₃, w', before, hleft, hc₃, hok₃, heq⟩ |
          ⟨c₃, host₃, es₃, hrefused, hok₃⟩
        · refine .inl ⟨heard', m', c₃, host₃, es₃, w', Act.messages acts ++ before, hleft, hc₃, ?_, ?_⟩
          · rwa [← List.append_assoc]
          · rw [heq, List.append_assoc]
        · refine .inr ⟨c₃, host₃, es₃, hrefused, ?_⟩
          rwa [← List.append_assoc]
      · refine .inr ⟨c'', host'', es', by simp [hrun], ?_⟩
        rw [← List.append_assoc]
        exact hok _

namespace Program

theorem Ends.advance {p : Program} (hp : p.Ends) (host : σ) (c : Channel) (es : List Event) :
    ∃ result es', p.advance relieve host c es = ⟨.returned result, c.dropApp, host, es'⟩ := by
  induction p generalizing es with
  | finish result => exact ⟨result, es, rfl⟩
  | tell e next ih => exact ih hp (es ++ [e])
  | _ => exact hp.elim

/-- A script returns, and a host that keeps up has accounted for all that it would send. -/
theorem IsScript.advance (hk : KeepsUp relieve Ok) {p : Program} (hp : p.IsScript)
    {w sent : List Message} {host : σ} {c : Channel} (hc : c.Settled w)
    (h : Ok sent host c.fromApp) (es : List Event) :
    ∃ result host' es', ∃ c' : Channel,
      p.advance relieve host c es = ⟨.returned result, c'.dropApp, host', es'⟩ ∧
        Ok (sent ++ p.sends w) host' c'.fromApp := by
  induction p generalizing w sent host c es with
  | finish result => exact ⟨result, host, es, c, rfl, by simpa [sends] using h⟩
  | panic text => exact hp.elim
  | hang => exact hp.elim
  | tell e next ih => exact ih hp hc h (es ++ [e])
  | receive next ih =>
    obtain ⟨c', hreceive, hc', hfrom⟩ := hc.receive
    rw [Program.advance, hreceive]
    exact ih _ (hp _) hc' (hfrom ▸ h) es
  | send m next ih =>
    rw [Program.advance]
    rcases hk m h with ⟨q, host', c', hoffer, hto, hok⟩ | ⟨host', c', hoffer, hok⟩
    · rw [hoffer]
      have hc' : Channel.Settled { c' with fromApp := q } w :=
        ⟨hto ▸ hc.waiting, hto ▸ hc.hasSender⟩
      obtain ⟨result, host'', es', c'', hrun, hok'⟩ := ih true hp.1 hc' hok es
      exact ⟨result, host'', es', c'', hrun, by simpa [sends] using hok'⟩
    · rw [hoffer]
      obtain ⟨result, es', hrun⟩ := hp.2.advance host' c' es
      exact ⟨result, host', es', c', hrun, hok _⟩
  | listen heard again leave ih =>
    rw [Program.advance, hc.waiting, sends]
    rcases hk.listenOn again (fun h m => (leave h m).sends) hc h es with
      ⟨heard', m, c', host', es', w', before, hleft, hc', hok, heq⟩ | ⟨c', host', es', hrefused, hok⟩
    · rw [hleft, heq]
      obtain ⟨result, host'', es'', c'', hrun, hok'⟩ := ih heard' m (hp heard' m) hc' hok es'
      exact ⟨result, host'', es'', c'', hrun, by rwa [← List.append_assoc]⟩
    · rw [hrefused]
      exact ⟨_, host', es', c', rfl, hok⟩

end Program

end Run

/-! ## Two hosts -/

namespace Program

/-- The host has read, or can still read, all that was sent. -/
structure ReadsAll (sent host : List Message) (q : Queue) : Prop where
  hasReceiver : q.hasReceiver
  pos : 0 < q.capacity
  read : host ++ q.waiting = sent

theorem keepsUp_readAll : KeepsUp readAll ReadsAll := by
  intro sent host c m h
  obtain ⟨q, host', c', hoffer, hopen, hto, hsent⟩ :=
    offerRelieved_readAll ⟨h.hasReceiver, h.pos⟩ m host
  have hread := hsent.trans (congrArg (· ++ [m]) h.read)
  exact .inl ⟨q, host', c', hoffer, hto, ⟨hopen.hasReceiver, hopen.pos, hread⟩⟩

/-- A script sends all that it would send to a host that reads. -/
theorem IsScript.transcript_sent {p : Program} (hp : p.IsScript) (w : List Message) :
    (p.transcript w true).sent = p.sends w := by
  have hc : (settledChannel w true).Settled w := ⟨rfl, rfl⟩
  have hstart : ReadsAll [] [] (settledChannel w true).fromApp :=
    ⟨rfl, show 0 < transcriptCapacity by decide, rfl⟩
  obtain ⟨result, host, es, c, hrun, hread⟩ := hp.advance keepsUp_readAll hc hstart []
  rw [transcript, hrun]
  exact hread.read

end Program

namespace Collection

/-- What is collected, now and later, accounts for all that was sent, and the host receives until it
has a whole response. -/
structure Accounts (sent : List Message) (c : Collection) (q : Queue) : Prop where
  capacity : 0 < q.capacity
  collected : q.waiting.foldl add c = sent.foldl add empty
  hasReceiver : q.hasReceiver = false → c.isOver

theorem Accounts.append {sent : List Message} {c : Collection} {q : Queue}
    (h : Accounts sent c q) (hover : c.isOver) (rest : List Message) :
    Accounts (sent ++ rest) c q := by
  refine ⟨h.capacity, ?_, h.hasReceiver⟩
  have hsent := h.collected
  rw [foldl_add_of_isOver hover] at hsent ⊢
  rw [List.foldl_append, ← hsent, foldl_add_of_isOver hover]

theorem keepsUp_drain : KeepsUp drain Accounts := by
  intro sent c channel m h
  by_cases hreceiver : channel.fromApp.hasReceiver
  · by_cases hfull : channel.fromApp.isFull
    · have hoffer : channel.fromApp.offer m = .full := by simp [Queue.offer, hreceiver, hfull]
      have hcollected := h.collected
      rw [offerRelieved, hoffer]
      simp only [drain, hcollected]
      -- the host empties the queue, and either has a whole response or makes room
      by_cases hover : (sent.foldl add empty).isOver
      · rw [if_pos hover]
        have hdrained : Accounts sent (sent.foldl add empty)
            { channel.fromApp with waiting := [] }.dropReceiver :=
          ⟨h.capacity, rfl, fun _ => hover⟩
        exact .inr ⟨_, _, rfl, hdrained.append hover⟩
      · have hroom : ¬ channel.fromApp.capacity = 0 := Nat.pos_iff_ne_zero.1 h.capacity
        rw [if_neg hover]
        refine .inl ⟨{ channel.fromApp with waiting := [m] }, sent.foldl add empty,
          { channel with fromApp := { channel.fromApp with waiting := [] } }, ?_, rfl,
          ⟨h.capacity, ?_, ?_⟩⟩
        · simp [Queue.offer, hreceiver, Queue.isFull, hroom]
        · rw [List.foldl_append]
        · intro hno
          exact absurd hreceiver (Bool.not_eq_true _ ▸ hno)
    · refine .inl ⟨{ channel.fromApp with waiting := channel.fromApp.waiting ++ [m] }, c, channel,
        ?_, rfl, ⟨h.capacity, ?_, h.hasReceiver⟩⟩
      · simp [offerRelieved, Queue.offer, hreceiver, hfull]
      · rw [List.foldl_append, List.foldl_append, h.collected]
  · have hover : c.isOver := h.hasReceiver (by simpa using hreceiver)
    refine .inr ⟨c, channel, ?_, h.append hover⟩
    simp [offerRelieved, Queue.offer, hreceiver]

end Collection

/-- A call of a script ends, with what is collected of all that the script would send. -/
theorem CallEnd.async_of_isScript (app : AsyncApp) (scope : Scope) (hp : (app scope).IsScript)
    (body : Bytes) :
    ∃ result events,
      ((app scope).advance Collection.drain .empty (channel body) []).standing = .returned result ∧
      CallEnd.async app scope body = .ofReturned result
        (Collection.ofMessages ((app scope).sends [.request body false])) events := by
  have hc : (channel body).Settled [.request body false] := ⟨rfl, rfl⟩
  have hstart : Collection.Accounts [] .empty (channel body).fromApp :=
    ⟨show 0 < capacity by decide, rfl, fun hno => nomatch hno⟩
  obtain ⟨result, c, es, channel', hrun, haccounts⟩ :=
    hp.advance Collection.keepsUp_drain hc hstart []
  refine ⟨result, es, by rw [hrun], ?_⟩
  rw [CallEnd.async, hrun]
  show ofReturned result (channel'.fromApp.waiting.foldl Collection.add c).result es = _
  rw [haccounts.collected, List.nil_append]
  rfl

namespace AsyncStep

/-- The steps that do not go on after a refused message, nor panic or hang. -/
def isPlain : AsyncStep → Bool
  | trySend _ | panic _ | hang => false
  | _ => true

theorem isScript_program {steps : List AsyncStep} (h : steps.all isPlain) :
    (program steps).IsScript := by
  induction steps with
  | nil => trivial
  | cons step steps ih =>
    rw [List.all_cons, Bool.and_eq_true] at h
    obtain ⟨hstep, hsteps⟩ := h
    cases step with
    | receive => exact fun _ => ih hsteps
    | drain => exact fun _ _ => ih hsteps
    | send m times => exact Program.isScript_sendAll (ih hsteps) _
    | raise text => trivial
    | _ => contradiction

end AsyncStep

namespace Site

theorem isScript_program (site : Site) (method path : String) :
    (site.program method path).IsScript :=
  have hlast : (Program.finish (site.outcome method path)).IsScript := trivial
  Program.isScript_sendAll hlast _

/-- A site is a script, whatever it is asked for. -/
theorem isScript_asyncApp (site : Site) (scope : Scope) : (site.asyncApp scope).IsScript := by
  unfold asyncApp
  split
  · trivial
  · exact Program.isScript_tellAll (site.isScript_program scope.method scope.path) _

/-- A site answers with a response that is started and does not break, whatever it is asked for. -/
theorem exists_ofMessages_response (site : Site) (method path : String) :
    ∃ p, Collection.ofMessages (site.response method path) = .ok p ∧ p.status.isSome := by
  obtain ⟨headers, chunks, last, hresponse⟩ := site.exists_response_eq method path
  have hstarted := Collection.foldl_add_started (site.isStatus_status method path) headers chunks
  rw [hresponse, Collection.ofMessages, ← List.cons_append, List.foldl_append, hstarted]
  split
  · exact ⟨_, rfl, rfl⟩
  · rw [List.foldl_cons, Collection.add_body rfl]
    exact ⟨_, rfl, rfl⟩

end Site

end Gateway
