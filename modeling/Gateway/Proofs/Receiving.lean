import Gateway.Proofs.Interleaving

/-!
What a program receives. A program is made to note each message as it comes, and nothing else. It
runs as before, and its notes are what was taken from the queue of the application, followed by
`http.disconnect` as often as it asks where nothing can come any more.
-/
namespace Gateway

/-! ## Induction over a run -/

theorem Channel.fromApp_of_receive {c c' : Channel} {m : Message}
    (h : c.receive = some (m, c')) : c'.fromApp = c.fromApp := by
  unfold receive at h
  split at h
  · obtain ⟨-, rfl⟩ := Prod.mk.inj (Option.some.inj h)
    rfl
  · obtain ⟨-, rfl⟩ := Prod.mk.inj (Option.some.inj h)
    rfl
  · contradiction

/-- A message is the next that waits, unless it says that nothing can come any more. -/
theorem Channel.waiting_of_receive {c c' : Channel} {m : Message}
    (h : c.receive = some (m, c')) :
    c.toApp.waiting = m :: c'.toApp.waiting ∨ m = .disconnect := by
  unfold receive at h
  split at h
  · next n q htake =>
    obtain ⟨rfl, rfl⟩ := Prod.mk.inj (Option.some.inj h)
    obtain ⟨w, hw, rfl⟩ := Queue.take_eq_got htake
    exact .inl hw
  · obtain ⟨rfl, -⟩ := Prod.mk.inj (Option.some.inj h)
    exact .inr rfl
  · contradiction

namespace Program

open Underway (afterHearing)

section Keeps

variable {σ : Type} {relieve : σ → Channel → σ × Channel}
  (hkeeps : ∀ host c, (relieve host c).2.toApp = c.toApp)

theorem advance_receive {c c' : Channel} {m : Message} (h : c.receive = some (m, c'))
    (next : Message → Program) (host : σ) (es : List Event) :
    (receive next).advance relieve host c es = (next m).advance relieve host c' es := by
  rw [advance, h]

theorem advance_perform (acts : List Act) (next : Program) (host : σ) (c : Channel)
    (es : List Event) :
    (perform acts next).advance relieve host c es =
      match performActs relieve host c es acts with
      | .done c host es => next.advance relieve host c es
      | .refused c host es => ⟨.returned (.error .channelClosed), c.dropApp, host, es⟩
      | .full left c host es => ⟨.waiting (perform left next), c, host, es⟩ := by
  induction acts generalizing host c es with
  | nil => rfl
  | cons act acts ih =>
    cases act with
    | tell e => exact ih host c (es ++ [e])
    | send m =>
      show (sendThen m (perform acts next)).advance relieve host c es = _
      rw [sendThen, advance, performActs]
      obtain ⟨offer, host', c'⟩ := offerRelieved relieve m host c
      cases offer with
      | accepted q => exact ih host' { c' with fromApp := q } es
      | refused => rfl
      | full => rfl

include hkeeps

theorem toApp_offerRelieved (m : Message) (host : σ) (c : Channel) :
    (offerRelieved relieve m host c).2.2.toApp = c.toApp := by
  unfold offerRelieved
  split
  · exact hkeeps host c
  · rfl

theorem toApp_of_performActs {acts : List Act} {host host' : σ} {c c' : Channel}
    {es es' : List Event} (h : performActs relieve host c es acts = .done c' host' es') :
    c'.toApp = c.toApp := by
  induction acts generalizing host c es with
  | nil =>
    cases h
    rfl
  | cons act acts ih =>
    cases act with
    | tell e => exact ih h
    | send m =>
      have hsame := toApp_offerRelieved hkeeps m host c
      rw [performActs] at h
      split at h
      · next q host₁ c₁ heq =>
        rw [heq] at hsame
        exact (ih h).trans hsame
      · contradiction
      · contradiction

/-- A loop that hears a message goes on with its answer. -/
theorem advance_hear {c c' : Channel} {m : Message} (h : c.receive = some (m, c'))
    (heard : List Message) (again : List Message → Message → Option (List Act))
    (leave : List Message → Message → Program) (host : σ) (es : List Event) :
    (listen heard again leave).advance relieve host c es =
      (afterHearing heard again leave m).advance relieve host c' es := by
  rw [advance, listenOn_eq again _ heard host h, afterHearing]
  cases hround : round again heard m with
  | none => rfl
  | some acts =>
    have hwaiting : c.toApp.waiting = m :: c'.toApp.waiting := by
      rcases Channel.waiting_of_receive h with hw | rfl
      · exact hw
      · simp [round] at hround
    dsimp only
    rw [advance_perform, hwaiting]
    cases hperformed : performActs relieve host c' es acts with
    | refused c'' host'' es'' => rfl
    | full left c'' host'' es'' => rfl
    | done c'' host'' es'' =>
      have hsame := toApp_of_performActs hkeeps hperformed
      dsimp only [List.length_cons]
      rw [advance, hsame]

end Keeps

theorem advance_starved {σ : Type} {relieve : σ → Channel → σ × Channel} {c : Channel}
    (h : c.receive = none) (heard : List Message)
    (again : List Message → Message → Option (List Act))
    (leave : List Message → Message → Program) (host : σ) (es : List Event) :
    (listen heard again leave).advance relieve host c es =
      ⟨.waiting (.listen heard again leave), c, host, es⟩ := by
  rw [advance, listenOn, h]

/-- Induction over the run of a program. A loop goes on with the answer to what it hears, and a program that
sends goes on in any state in which the same messages wait for it. -/
theorem induct_run {σ : Type} {motive : Program → σ → Channel → Prop}
    (finish : ∀ result host c, motive (.finish result) host c)
    (panic : ∀ text host c, motive (.panic text) host c)
    (hang : ∀ host c, motive .hang host c)
    (tell : ∀ e next host c, motive next host c → motive (.tell e next) host c)
    (starve : ∀ next host c, c.receive = none → motive (.receive next) host c)
    (receive : ∀ next host c m c', c.receive = some (m, c') → motive (next m) host c' →
      motive (.receive next) host c)
    (send : ∀ m next host c,
      (∀ accepted host' c', c'.toApp = c.toApp → motive (next accepted) host' c') →
      motive (.send m next) host c)
    (starveListening : ∀ heard again leave host c, c.receive = none →
      motive (.listen heard again leave) host c)
    (hear : ∀ heard again leave host c m c', c.receive = some (m, c') →
      motive (afterHearing heard again leave m) host c' → motive (.listen heard again leave) host c)
    (p : Program) (host : σ) (c : Channel) : motive p host c := by
  have perform : ∀ acts next host c, (∀ host' c', c'.toApp = c.toApp → motive next host' c') →
      motive (.perform acts next) host c := by
    intro acts next
    induction acts with
    | nil => exact fun host c h => h host c rfl
    | cons act acts ih =>
      intro host c h
      cases act with
      | tell e => exact tell e _ host c (ih host c h)
      | send m =>
        refine send m _ host c fun accepted host' c' hsame => ?_
        cases accepted with
        | true => exact ih host' c' fun host'' c'' hsame' => h host'' c'' (hsame'.trans hsame)
        | false => exact finish _ host' c'
  induction p generalizing host c with
  | finish result => exact finish result host c
  | panic text => exact panic text host c
  | hang => exact hang host c
  | tell e next ih => exact tell e next host c (ih host c)
  | receive next ih =>
    cases hreceive : c.receive with
    | none => exact starve next host c hreceive
    | some r => exact receive next host c r.1 r.2 hreceive (ih r.1 host r.2)
  | send m next ih => exact send m next host c fun accepted host' c' _ => ih accepted host' c'
  | listen heard again leave ih =>
    -- each round takes a message that waits, unless it is the last
    induction hw : c.toApp.waiting generalizing heard host c with
    | nil =>
      cases hreceive : c.receive with
      | none => exact starveListening heard again leave host c hreceive
      | some r =>
        obtain ⟨m, c'⟩ := r
        obtain rfl := Channel.receive_nil hw hreceive
        exact hear heard again leave host c _ c' hreceive (ih heard _ host c')
    | cons n w ihw =>
      cases hreceive : c.receive with
      | none => exact starveListening heard again leave host c hreceive
      | some r =>
        obtain ⟨m, c'⟩ := r
        have hw' := (Channel.receive_cons hw hreceive).2
        refine hear heard again leave host c m c' hreceive ?_
        unfold afterHearing
        split
        · exact ih heard m host c'
        · refine perform _ _ host c' fun host'' c'' hsame => ?_
          exact ihw (heard ++ [m]) host'' c'' (by rw [hsame, hw'])

end Program

/-! ## Notes -/

/-- The receiver of `q` gets `ms`, after which the queue is `q'`. -/
inductive Queue.Receives : Queue → List Message → Queue → Prop
  | done {q} : Receives q [] q
  | got {q q' q'' m ms} (h : q.take = .got m q') (hrest : Receives q' ms q'') :
    Receives q (m :: ms) q''
  | ended {q q'' ms} (h : q.take = .ended) (hrest : Receives q ms q'') :
    Receives q (.disconnect :: ms) q''

theorem Queue.Receives.of_receive {c c' : Channel} {m : Message} {ms : List Message} {q : Queue}
    (h : c.receive = some (m, c')) (hrest : c'.toApp.Receives ms q) :
    c.toApp.Receives (m :: ms) q := by
  unfold Channel.receive at h
  split at h
  · next htake =>
    obtain ⟨rfl, rfl⟩ := Prod.mk.inj (Option.some.inj h)
    exact .got htake hrest
  · next htake =>
    obtain ⟨rfl, rfl⟩ := Prod.mk.inj (Option.some.inj h)
    exact .ended htake hrest
  · contradiction

/-- The notes of received messages. -/
def notes (ms : List Message) : List Event := ms.map fun m => .seen (.received m)

/-- The acts that send. -/
def Act.untold (acts : List Act) : List Act :=
  acts.filter fun
    | .send _ => true
    | .tell _ => false

namespace Program

open Underway (afterHearing)

/-- The rounds of a loop in which each message is noted, and nothing else. -/
def noted (again : List Message → Message → Option (List Act)) (heard : List Message)
    (m : Message) : Option (List Act) :=
  (again heard m).map fun acts => .tell (.seen (.received m)) :: Act.untold acts

/-- The program that tells of the messages it receives, and of nothing else. -/
def noting : Program → Program
  | finish result => finish result
  | panic text => panic text
  | hang => hang
  | tell _ next => next.noting
  | receive next => .receive fun m => .tell (.seen (.received m)) (next m).noting
  | send m next => .send m fun accepted => (next accepted).noting
  | listen heard again leave =>
    .listen heard (noted again) fun h m => .tell (.seen (.received m)) (leave h m).noting

theorem noting_perform (acts : List Act) (next : Program) :
    (perform acts next).noting = perform (Act.untold acts) next.noting := by
  induction acts with
  | nil => rfl
  | cons act acts ih =>
    cases act with
    | tell e => exact ih
    | send m =>
      refine congrArg (Program.send m) (funext fun accepted => ?_)
      cases accepted with
      | true => exact ih
      | false => rfl

theorem afterHearing_noted (heard : List Message)
    (again : List Message → Message → Option (List Act)) (leave : List Message → Message → Program)
    (m : Message) :
    afterHearing heard (noted again) (fun h m => .tell (.seen (.received m)) (leave h m).noting) m =
      .tell (.seen (.received m)) (afterHearing heard again leave m).noting := by
  have hround : round (noted again) heard m =
      (round again heard m).map fun acts => .tell (.seen (.received m)) :: Act.untold acts := by
    unfold round noted
    split <;> rfl
  unfold afterHearing
  rw [hround]
  cases round again heard m with
  | none => rfl
  | some acts =>
    dsimp only
    rw [noting_perform]
    rfl

end Program

def Standing.noting : Standing → Standing
  | waiting rest => .waiting rest.noting
  | returned result => .returned result
  | panicked text => .panicked text

/-- The queue of the application as it stands: one that has ended receives no more. -/
def Standing.leaves : Standing → Queue → Queue
  | waiting _, q => q
  | _, q => q.dropReceiver

/-- A program that notes what it receives runs as the program itself, on a host that keeps the queue
of the application. Its notes are what it received. -/
theorem Program.advance_noting {σ : Type} {relieve : σ → Channel → σ × Channel}
    (hkeeps : ∀ host c, (relieve host c).2.toApp = c.toApp) (p : Program) (host : σ) (c : Channel)
    (es es' : List Event) :
    let run := p.advance relieve host c es
    ∃ ms q, p.noting.advance relieve host c es' =
        ⟨run.standing.noting, run.channel, run.host, es' ++ notes ms⟩ ∧
      c.toApp.Receives ms q ∧ run.channel.toApp = run.standing.leaves q := by
  induction p, host, c using Program.induct_run generalizing es es' with
  | finish result host c =>
    exact ⟨[], c.toApp, by simp [noting, advance, notes, Standing.noting], .done, rfl⟩
  | panic text host c =>
    exact ⟨[], c.toApp, by simp [noting, advance, notes, Standing.noting], .done, rfl⟩
  | hang host c =>
    exact ⟨[], c.toApp, by simp [noting, advance, notes, Standing.noting], .done, rfl⟩
  | tell e next host c ih => exact ih (es ++ [e]) es'
  | starve next host c h =>
    rw [noting, advance, advance, h]
    exact ⟨[], c.toApp, by simp [notes, Standing.noting, noting], .done, rfl⟩
  | receive next host c m c' h ih =>
    obtain ⟨ms, q, hrun, hreceives, hleft⟩ := ih es (es' ++ [.seen (.received m)])
    rw [noting, advance_receive h, advance_receive h, advance, hrun]
    exact ⟨m :: ms, q, by simp [notes], .of_receive h hreceives, hleft⟩
  | send m next host c ih =>
    have hsame := toApp_offerRelieved hkeeps m host c
    rw [noting, advance, advance]
    generalize offerRelieved relieve m host c = offered at hsame ⊢
    obtain ⟨offer, host', c'⟩ := offered
    rw [← hsame]
    cases offer with
    | accepted q => exact ih true host' { c' with fromApp := q } hsame es es'
    | refused => exact ih false host' c' hsame es es'
    | full => exact ⟨[], c'.toApp, by simp [notes, Standing.noting, noting], .done, rfl⟩
  | starveListening heard again leave host c h =>
    rw [noting, advance_starved h, advance_starved h]
    exact ⟨[], c.toApp, by simp [notes, Standing.noting, noting], .done, rfl⟩
  | hear heard again leave host c m c' h ih =>
    obtain ⟨ms, q, hrun, hreceives, hleft⟩ := ih es (es' ++ [.seen (.received m)])
    rw [noting, advance_hear hkeeps h, advance_hear hkeeps h, afterHearing_noted, advance, hrun]
    exact ⟨m :: ms, q, by simp [notes], .of_receive h hreceives, hleft⟩

/-! ## Deliveries -/

namespace Queue

theorem hasReceiver_of_offer {q q' : Queue} {m : Message} (h : q.offer m = .accepted q') :
    q.hasReceiver := by
  cases hreceiver : q.hasReceiver with
  | true => rfl
  | false => simp [offer, hreceiver] at h

theorem Receives.kept {q q' : Queue} {ms : List Message} (h : q.Receives ms q') :
    q'.hasReceiver = q.hasReceiver ∧ q'.hasSender = q.hasSender ∧ q'.capacity = q.capacity := by
  induction h with
  | done => exact ⟨rfl, rfl, rfl⟩
  | got htake _ ih =>
    obtain ⟨w, -, rfl⟩ := take_eq_got htake
    exact ih
  | ended _ _ ih => exact ih

/-- The receiver of `q` got `ms`: the first of the messages `sent`, and disconnects only after all of them,
where the sender is gone. What it did not get waits for it, as long as it is there. -/
def Delivered (sent : List Message) (q : Queue) (ms : List Message) : Prop :=
  ∃ taken k, ms = taken ++ List.replicate k .disconnect ∧ taken <+: sent ∧
    (q.hasReceiver → taken ++ q.waiting = sent) ∧ (k ≠ 0 → taken = sent ∧ q.hasSender = false)

namespace Delivered

variable {sent before : List Message} {q : Queue} (h : Delivered sent q before)

include h

theorem got {m : Message} {w : List Message} (hreceiver : q.hasReceiver)
    (hw : q.waiting = m :: w) : Delivered sent { q with waiting := w } (before ++ [m]) := by
  obtain ⟨taken, k, rfl, -, hwaits, hk⟩ := h
  have hsent := hwaits hreceiver
  rw [hw] at hsent
  have hzero : k = 0 := by
    by_contra hne
    simp [← (hk hne).1] at hsent
  subst hzero
  refine ⟨taken ++ [m], 0, by simp, ⟨w, by simpa using hsent⟩, fun _ => by simpa using hsent, ?_⟩
  exact fun hne => absurd rfl hne

theorem ended (hreceiver : q.hasReceiver) (hw : q.waiting = []) (hsender : q.hasSender = false) :
    Delivered sent q (before ++ [.disconnect]) := by
  obtain ⟨taken, k, rfl, hfirst, hwaits, -⟩ := h
  have hsent := hwaits hreceiver
  rw [hw, List.append_nil] at hsent
  refine ⟨taken, k + 1, ?_, hfirst, hwaits, fun _ => ⟨hsent, hsender⟩⟩
  rw [List.append_assoc, List.replicate_succ']

theorem receives {ms : List Message} {q' : Queue} (hreceiver : q.hasReceiver)
    (hms : q.Receives ms q') : Delivered sent q' (before ++ ms) := by
  induction hms generalizing before with
  | done => rwa [List.append_nil]
  | got htake hrest ih =>
    obtain ⟨w, hw, rfl⟩ := take_eq_got htake
    rw [List.append_cons]
    exact ih (h.got hreceiver hw) hreceiver
  | ended htake hrest ih =>
    obtain ⟨hw, hsender⟩ := take_eq_ended htake
    rw [List.append_cons]
    exact ih (h.ended hreceiver hw hsender) hreceiver

theorem offer {m : Message} {q' : Queue} (hsender : q.hasSender)
    (hoffer : q.offer m = .accepted q') : Delivered (sent ++ [m]) q' before := by
  have hreceiver := hasReceiver_of_offer hoffer
  obtain rfl := offer_eq_accepted hoffer
  obtain ⟨taken, k, rfl, hfirst, hwaits, hk⟩ := h
  refine ⟨taken, k, rfl, hfirst.trans (List.prefix_append _ _), fun _ => ?_, fun hne => ?_⟩
  · rw [← hwaits hreceiver, List.append_assoc]
  · simp [hsender] at hk
    exact absurd hk hne

theorem dropReceiver : Delivered sent q.dropReceiver before := by
  obtain ⟨taken, k, hbefore, hfirst, -, hk⟩ := h
  exact ⟨taken, k, hbefore, hfirst, fun hno => absurd hno Bool.false_ne_true, hk⟩

theorem dropSender : Delivered sent q.dropSender before := by
  obtain ⟨taken, k, hbefore, hfirst, hwaits, hk⟩ := h
  exact ⟨taken, k, hbefore, hfirst, hwaits, fun hne => ⟨(hk hne).1, rfl⟩⟩

theorem leaves (st : Standing) : Delivered sent (st.leaves q) before := by
  cases st with
  | waiting rest => exact h
  | returned result => exact h.dropReceiver
  | panicked text => exact h.dropReceiver

end Delivered

end Queue

end Gateway
