import Gateway.Proofs.Carrying

/-!
Delivery. What a channel has carried tells what comes of the next operation: which message is received,
whether one that is sent is accepted, and which end is found to be gone.
-/
namespace Gateway

namespace Channel

/-! ## What comes of the next operation -/

/-- The reply to a send, from the ends that are still there and the messages on the way. -/
def sendReply (room : Nat) (sender receiver : Bool) (refusal : Reply)
    (undelivered : List Message) : Reply :=
  if !sender then .gone
  else if !receiver then refusal
  else if undelivered.length < room then .accepted
  else .pending

/-- The reply to a receive, from the ends that are still there and the messages on the way. -/
def receiveReply (sender receiver : Bool) (ended : Reply) (undelivered : List Message) : Reply :=
  if !receiver then .gone
  else
    match undelivered with
    | m :: _ => .got m
    | [] => if sender then .pending else ended

/-- The reply to a send that offered a message. -/
def offerReply (refusal : Reply) : Offer → Reply
  | .accepted _ => .accepted
  | .refused => refusal
  | .full => .pending

/-- The reply to a receive that asked for a message. -/
def takeReply (ended : Reply) : Take → Reply
  | .got m _ => .got m
  | .ended => ended
  | .empty => .pending

theorem operate_hostSends (c : Channel) (m : Message) :
    (c.operate (.hostSends m)).1 =
      if c.toApp.hasSender then offerReply .closed (c.toApp.offer m) else .gone := by
  simp only [operate]
  cases c.toApp.offer m <;> cases c.toApp.hasSender <;> rfl

theorem operate_appReceives (c : Channel) :
    (c.operate .appReceives).1 =
      if c.toApp.hasReceiver then takeReply (.got .disconnect) c.toApp.take else .gone := by
  simp only [operate, receive]
  cases c.toApp.take <;> cases c.toApp.hasReceiver <;> rfl

theorem operate_appSends (c : Channel) (m : Message) :
    (c.operate (.appSends m)).1 =
      if c.fromApp.hasSender then offerReply (.failed .channelClosed) (c.fromApp.offer m)
      else .gone := by
  simp only [operate]
  cases c.fromApp.offer m <;> cases c.fromApp.hasSender <;> rfl

theorem operate_hostReceives (c : Channel) :
    (c.operate .hostReceives).1 =
      if c.fromApp.hasReceiver then takeReply .closed c.fromApp.take else .gone := by
  simp only [operate]
  cases c.fromApp.take <;> cases c.fromApp.hasReceiver <;> rfl

theorem sendReply_eq_channelClosed_iff {room : Nat} {receiver : Bool}
    {undelivered : List Message} :
    sendReply room true receiver (.failed .channelClosed) undelivered = .failed .channelClosed ↔
      receiver = false := by
  cases receiver with
  | false => simp [sendReply]
  | true =>
    by_cases hroom : undelivered.length < room
    · simp [sendReply, hroom]
    · simp [sendReply, hroom]

section Keeps

variable {room : Nat} {accepted delivered : List Message} {q : Queue}
  (h : q.Keeps room accepted delivered)

include h

theorem offerReply_of_keeps (m : Message) (refusal : Reply) :
    (if q.hasSender then offerReply refusal (q.offer m) else .gone) =
      sendReply room q.hasSender q.hasReceiver refusal (accepted.drop delivered.length) := by
  cases hsender : q.hasSender with
  | false => rfl
  | true =>
    cases hreceiver : q.hasReceiver with
    | false => simp [Queue.offer, hreceiver, offerReply, sendReply]
    | true =>
      rw [h.drop_eq hreceiver, ← h.capacity]
      by_cases hroom : q.capacity ≤ q.waiting.length
      · have hfull : ¬q.waiting.length < q.capacity := Nat.not_lt.mpr hroom
        simp [Queue.offer, Queue.isFull, hreceiver, hroom, hfull, offerReply, sendReply]
      · have hfull : q.waiting.length < q.capacity := Nat.lt_of_not_le hroom
        simp [Queue.offer, Queue.isFull, hreceiver, hroom, hfull, offerReply, sendReply]

theorem takeReply_of_keeps (ended : Reply) :
    (if q.hasReceiver then takeReply ended q.take else .gone) =
      receiveReply q.hasSender q.hasReceiver ended (accepted.drop delivered.length) := by
  cases hreceiver : q.hasReceiver with
  | false => rfl
  | true =>
    rw [h.drop_eq hreceiver, Queue.take]
    cases q.waiting with
    | cons m w => rfl
    | nil => cases q.hasSender <;> rfl

end Keeps

/-- Nothing is on the way to the application, and nothing can come any more. -/
structure Ended (c : Channel) : Prop where
  waiting : c.toApp.waiting = []
  sender : c.toApp.hasSender = false

section Ended

variable {c : Channel} (h : c.Ended)

include h

theorem Ended.operate_appReceives (hreceiver : c.has .inbound) :
    c.operate .appReceives = (.got .disconnect, c) := by
  have htake : c.toApp.take = .ended := by simp [Queue.take, h.waiting, h.sender]
  have hthere : c.toApp.hasReceiver = true := hreceiver
  simp [operate, receive, htake, hthere]

theorem Ended.outcome {c' : Channel} {op : Operation} {reply : Reply}
    (houtcome : Outcome c op reply c') : c'.Ended := by
  cases houtcome with
  | refused => exact h
  | hostSent hsender => exact absurd (hsender.symm.trans h.sender) Bool.noConfusion
  | appReceived _ htake =>
    obtain ⟨w, hw, -⟩ := Queue.take_eq_got htake
    exact absurd (hw.symm.trans h.waiting) (List.cons_ne_nil _ _)
  | ended => exact h
  | appSent => exact ⟨h.waiting, h.sender⟩
  | hostReceived => exact ⟨h.waiting, h.sender⟩
  | @dropped e =>
    cases e with
    | inbound => exact ⟨rfl, h.sender⟩
    | outbound => exact ⟨h.waiting, h.sender⟩
    | toApp => exact ⟨h.waiting, rfl⟩
    | fromApp => exact ⟨h.waiting, h.sender⟩

/-- From then on the application gets a disconnect each time it asks. -/
theorem Ended.replies (hreceiver : c.has .inbound) (ops : List Operation)
    (hops : .drops .inbound ∉ ops) {reply : Reply}
    (hreply : (.appReceives, reply) ∈ (c.run ops).1) : reply = .got .disconnect := by
  induction ops generalizing c with
  | nil => contradiction
  | cons op ops ih =>
    obtain ⟨hop, hrest⟩ := not_or.mp (mt List.mem_cons.mpr hops)
    have houtcome := outcome_operate c op
    rcases List.mem_cons.mp hreply with hfirst | hlater
    · obtain ⟨hsame, hgot⟩ := Prod.mk.inj hfirst
      subst hsame
      exact hgot.trans (congrArg Prod.fst (h.operate_appReceives hreceiver))
    · refine ih (h.outcome houtcome) ?_ hrest hlater
      rw [houtcome.has_eq, hreceiver]
      simpa using Ne.symm hop

theorem Ended.run_replicate (hreceiver : c.has .inbound) (n : Nat) :
    c.run (List.replicate n .appReceives) =
      (List.replicate n (.appReceives, .got .disconnect), c) := by
  induction n with
  | zero => rfl
  | succ n ih => simp only [List.replicate_succ, run, h.operate_appReceives hreceiver, ih]

end Ended

theorem ended_of_keeps {room : Nat} {accepted delivered : List Message} {c : Channel}
    (h : c.toApp.Keeps room accepted delivered) (hreceiver : c.has .inbound)
    (hsender : c.has .toApp = false) (hall : delivered = accepted) : c.Ended := by
  have haccepted := h.waits hreceiver
  rw [hall] at haccepted
  exact ⟨List.self_eq_append_right.mp haccepted, hsender⟩

/-- A disconnect that is given but not taken from the queue. -/
theorem operate_appReceives_eq_self_iff {room : Nat} {accepted delivered : List Message}
    {c : Channel} (h : c.toApp.Keeps room accepted delivered) :
    c.operate .appReceives = (.got .disconnect, c) ↔
      c.has .inbound ∧ c.has .toApp = false ∧ delivered = accepted := by
  constructor
  · intro heq
    simp only [operate, receive] at heq
    cases hreceiver : c.toApp.hasReceiver with
    | false => simp [hreceiver] at heq
    | true =>
      cases htake : c.toApp.take with
      | empty => simp [hreceiver, htake] at heq
      | ended =>
        obtain ⟨hw, hsender⟩ := Queue.take_eq_ended htake
        have haccepted := h.waits hreceiver
        rw [hw, List.append_nil] at haccepted
        exact ⟨hreceiver, hsender, haccepted.symm⟩
      | got m q =>
        obtain ⟨w, hw, rfl⟩ := Queue.take_eq_got htake
        have hsame : w = c.toApp.waiting := by
          simp only [hreceiver, htake] at heq
          exact congrArg (fun r => r.2.toApp.waiting) heq
        simp [hw] at hsame
  · rintro ⟨hreceiver, hsender, hall⟩
    exact (ended_of_keeps h hreceiver hsender hall).operate_appReceives hreceiver

/-- What is known of a channel with room for `room` messages each way, after operations with this log. The
application received `delivered`, and then `ends` disconnects that the host did not send. -/
structure Delivers (room : Nat) (ops : List Operation) (log : Log) (c : Channel)
    (delivered : List Message) (ends : Nat) : Prop where
  appReceived : log.appReceived = delivered ++ List.replicate ends .disconnect
  toApp : c.toApp.Keeps room log.hostSent delivered
  fromApp : c.fromApp.Keeps room log.appSent log.hostReceived
  has_iff : ∀ e, c.has e ↔ .drops e ∉ ops
  hostSends : ∀ m, (c.operate (.hostSends m)).1 =
    sendReply room (c.has .toApp) (c.has .inbound) .closed (log.hostSent.drop delivered.length)
  appReceives : (c.operate .appReceives).1 =
    receiveReply (c.has .toApp) (c.has .inbound) (.got .disconnect)
      (log.hostSent.drop delivered.length)
  appSends : ∀ m, (c.operate (.appSends m)).1 =
    sendReply room (c.has .outbound) (c.has .fromApp) (.failed .channelClosed)
      (log.appSent.drop log.hostReceived.length)
  hostReceives : (c.operate .hostReceives).1 =
    receiveReply (c.has .outbound) (c.has .fromApp) .closed
      (log.appSent.drop log.hostReceived.length)
  /-- A refusal leaves both queues as they were. -/
  refused : ∀ op, (c.operate op).1.isRefusal → (c.operate op).2 = c
  /-- A disconnect is given without being taken from the queue exactly after the end. -/
  disconnect_iff : c.operate .appReceives = (.got .disconnect, c) ↔
    .drops .inbound ∉ ops ∧ .drops .toApp ∈ ops ∧ delivered = log.hostSent
  ended : ends ≠ 0 → .drops .toApp ∈ ops ∧ delivered = log.hostSent
  afterwards : .drops .toApp ∈ ops → delivered = log.hostSent →
    ∀ more, .drops .inbound ∉ ops ++ more →
      ∀ reply, (.appReceives, reply) ∈ (c.run more).1 → reply = .got .disconnect
  channelClosed_iff : .drops .outbound ∉ ops → ∀ m,
    ((c.operate (.appSends m)).1 = .failed .channelClosed ↔ .drops .fromApp ∈ ops)

theorem has_run_iff (room : Nat) (ops : List Operation) (e : End) :
    ((ofCapacity room).run ops).2.has e ↔ .drops e ∉ ops := by
  have hnew : (ofCapacity room).has e = true := by cases e <;> rfl
  rw [has_run, hnew, Bool.true_and, decide_eq_true_iff]

theorem delivers_run (room : Nat) (ops : List Operation) :
    ∃ delivered ends, Delivers room ops ((ofCapacity room).run ops).1 ((ofCapacity room).run ops).2
      delivered ends := by
  have hcarried := carried_run room ops
  have hhas := has_run_iff room ops
  generalize (ofCapacity room).run ops = r at hcarried hhas ⊢
  obtain ⟨log, c⟩ := r
  obtain ⟨⟨delivered, ends, hreceived, hends, htoApp⟩, hfromApp⟩ := hcarried
  have hlost : ∀ e, c.has e = false ↔ .drops e ∈ ops := by
    intro e
    rw [← Bool.not_eq_true, hhas, not_not]
  refine ⟨delivered, ends, ?_⟩
  constructor
  case appReceived => exact hreceived
  case toApp => exact htoApp
  case fromApp => exact hfromApp
  case has_iff => exact hhas
  case hostSends =>
    intro m
    rw [operate_hostSends, offerReply_of_keeps htoApp]
    rfl
  case appReceives =>
    rw [operate_appReceives, takeReply_of_keeps htoApp]
    rfl
  case appSends =>
    intro m
    rw [operate_appSends, offerReply_of_keeps hfromApp]
    rfl
  case hostReceives =>
    rw [operate_hostReceives, takeReply_of_keeps hfromApp]
    rfl
  case refused => exact fun op => operate_of_isRefusal
  case disconnect_iff =>
    rw [operate_appReceives_eq_self_iff htoApp, hhas, hlost]
  case ended =>
    intro hne
    obtain ⟨hall, hsender⟩ := hends hne
    exact ⟨(hlost .toApp).mp hsender, hall⟩
  case afterwards =>
    intro hsender hall more hinbound reply hreply
    obtain ⟨hbefore, hafter⟩ := not_or.mp (mt List.mem_append.mpr hinbound)
    have hreceiver : c.has .inbound := (hhas .inbound).mpr hbefore
    have hended := ended_of_keeps htoApp hreceiver ((hlost .toApp).mpr hsender) hall
    exact hended.replies hreceiver more hafter hreply
  case channelClosed_iff =>
    intro houtbound m
    have hsender : c.fromApp.hasSender = true := (hhas .outbound).mpr houtbound
    rw [operate_appSends, offerReply_of_keeps hfromApp, hsender, ← hlost]
    exact sendReply_eq_channelClosed_iff

/-! ## The channel of a call -/

/-- The host gives the application the whole body, and then it is gone. -/
theorem callEnd_channel_eq_run (body : Bytes) :
    CallEnd.channel body = ((ofCapacity CallEnd.capacity).run
      [.hostSends (.request body false), .drops .toApp]).2 :=
  rfl

theorem run_channel_receives (body : Bytes) (n : Nat) :
    ((CallEnd.channel body).run (List.replicate (n + 1) .appReceives)).1 =
      (.appReceives, .got (.request body false)) ::
        List.replicate n (.appReceives, .got .disconnect) := by
  let rest : Channel := { CallEnd.channel body with
    toApp := { (CallEnd.channel body).toApp with waiting := [] } }
  have hfirst : (CallEnd.channel body).operate .appReceives =
      (.got (.request body false), rest) := rfl
  have hended : rest.Ended := ⟨rfl, rfl⟩
  simp only [List.replicate_succ, run, hfirst, hended.run_replicate rfl]

theorem delivered_channel (body : Bytes) :
    (CallEnd.channel body).toApp.Delivered [.request body false] [] :=
  ⟨[], 0, rfl, List.nil_prefix, fun _ => rfl, fun h => absurd rfl h⟩

/-- Whatever an application does, what it received is the whole body at once, and then disconnects. -/
theorem exists_notes_eq (app : AsyncApp) (scope : Scope) (body : Bytes) :
    let run := (app scope).advance Collection.drain .empty (CallEnd.channel body) []
    ∃ ms k, (app scope).noting.advance Collection.drain .empty (CallEnd.channel body) [] =
        ⟨run.standing.noting, run.channel, run.host, notes ms⟩ ∧
      ms <+: .request body false :: List.replicate k .disconnect := by
  have hkeeps : ∀ host c, (Collection.drain host c).2.toApp = c.toApp := fun _ _ => rfl
  obtain ⟨ms, q, hrun, hreceives, -⟩ :=
    Program.advance_noting hkeeps (app scope) .empty (CallEnd.channel body) [] []
  obtain ⟨taken, k, hms, hfirst, -, hk⟩ := (delivered_channel body).receives rfl hreceives
  rw [List.nil_append] at hms
  refine ⟨ms, k, hrun, ?_⟩
  rcases Nat.eq_zero_or_pos k with rfl | hpos
  · rw [hms]
    simpa using hfirst
  · rw [hms, (hk (Nat.ne_of_gt hpos)).1]
    exact List.prefix_rfl

/-- For any room and whatever is tried in any order, each direction delivers the first of the messages
accepted, in their order. A call receives the whole body as one message, and then disconnects. -/
theorem delivery :
    (∀ room ops, ∃ delivered ends, Delivers room ops ((ofCapacity room).run ops).1
      ((ofCapacity room).run ops).2 delivered ends) ∧
    ∀ (app : AsyncApp) (scope : Scope) (body : Bytes),
      let c := CallEnd.channel body
      let run := (app scope).advance Collection.drain .empty c []
      c = ((ofCapacity CallEnd.capacity).run [.hostSends (.request body false), .drops .toApp]).2 ∧
        (∀ n, (c.run (List.replicate (n + 1) .appReceives)).1 =
          (.appReceives, .got (.request body false)) ::
            List.replicate n (.appReceives, .got .disconnect)) ∧
        ∃ ms k, (app scope).noting.advance Collection.drain .empty c [] =
            ⟨run.standing.noting, run.channel, run.host, notes ms⟩ ∧
          ms <+: .request body false :: List.replicate k .disconnect := by
  constructor
  · exact delivers_run
  · intro app scope body
    exact ⟨callEnd_channel_eq_run body, run_channel_receives body, exists_notes_eq app scope body⟩

end Channel

end Gateway
