import Gateway.Lifespan
import Gateway.Proofs.Receiving

/-!
How a program opens: with its first message, with its end, or not at all. The host of a lifespan does
not read while the application goes on. What comes of the startup is decided by the opening, and what
it takes for the answer to the shutdown by the opening of what the application has still to do.
-/
namespace Gateway

/-! ## How a program opens -/

/-- What a program does first that its host can see. -/
inductive Opening where
  | sends (m : Message)
  | ends
  | waits
  deriving Repr, DecidableEq

namespace Program

open Underway (afterHearing)

/-- How a listening loop opens; `leave` is how it opens after it was left. -/
def listenOpening (again : List Message → Message → Option (List Act))
    (leave : List Message → Message → List Message → Opening) (heard : List Message) :
    List Message → Opening
  | [] => .waits
  | m :: w =>
    match round again heard m with
    | none => leave heard m w
    | some acts =>
      match Act.messages acts with
      | n :: _ => .sends n
      | [] => listenOpening again leave (heard ++ [m]) w

/-- How a program opens where `w` waits for it and nothing else comes. -/
def opening : Program → List Message → Opening
  | finish _, _ => .ends
  | panic _, _ => .ends
  | hang, _ => .waits
  | tell _ next, w => next.opening w
  | receive _, [] => .waits
  | receive next, m :: w => (next m).opening w
  | send m _, _ => .sends m
  | listen heard again leave, w => listenOpening again (fun h m => (leave h m).opening) heard w

theorem opening_perform (acts : List Act) (next : Program) (w : List Message) :
    (perform acts next).opening w =
      match Act.messages acts with
      | n :: _ => .sends n
      | [] => next.opening w := by
  induction acts with
  | nil => rfl
  | cons act acts ih =>
    cases act with
    | tell e => exact ih
    | send m => rfl

theorem opening_hear (heard : List Message) (again : List Message → Message → Option (List Act))
    (leave : List Message → Message → Program) (m : Message) (w : List Message) :
    (listen heard again leave).opening (m :: w) =
      (afterHearing heard again leave m).opening w := by
  rw [opening, listenOpening, afterHearing]
  cases round again heard m with
  | none => rfl
  | some acts => exact (opening_perform acts (.listen (heard ++ [m]) again leave) w).symm

end Program

section Idle

variable {σ : Type}

/-- A host that does not read while the application goes on. -/
def idle (host : σ) (c : Channel) : σ × Channel := (host, c)

theorem offerRelieved_idle (m : Message) (host : σ) (c : Channel) :
    offerRelieved idle m host c = (c.fromApp.offer m, host, c) := by
  unfold offerRelieved
  cases h : c.fromApp.offer m <;> simp [idle, h]

theorem toApp_idle (host : σ) (c : Channel) : (idle host c).2.toApp = c.toApp := rfl

/-- The first message stays where it is while the application goes on. -/
theorem Program.advance_opened (p : Program) (host : σ) (c : Channel) {m : Message}
    (h : ∃ more, c.fromApp.waiting = m :: more) (es : List Event) :
    ∃ more, (p.advance idle host c es).channel.fromApp.waiting = m :: more := by
  induction p, host, c using Program.induct_run generalizing es with
  | finish result host c => exact h
  | panic text host c => exact h
  | hang host c => exact h
  | tell e next host c ih => exact ih h (es ++ [e])
  | starve next host c hnone =>
    rw [advance, hnone]
    exact h
  | receive next host c n c' hsome ih =>
    rw [advance_receive hsome]
    exact ih (Channel.fromApp_of_receive hsome ▸ h) es
  | send n next host c ih =>
    rw [advance, offerRelieved_idle]
    cases hoffer : c.fromApp.offer n with
    | accepted q =>
      obtain ⟨more, hmore⟩ := h
      have hq : q.waiting = m :: (more ++ [n]) := by
        rw [Queue.offer_eq_accepted hoffer, hmore, List.cons_append]
      exact ih true host { c with fromApp := q } rfl ⟨more ++ [n], hq⟩ es
    | refused => exact ih false host c rfl h es
    | full => exact h
  | starveListening heard again leave host c hnone =>
    rw [advance_starved hnone]
    exact h
  | hear heard again leave host c n c' hsome ih =>
    rw [advance_hear toApp_idle hsome]
    exact ih (Channel.fromApp_of_receive hsome ▸ h) es

/-- Nothing was sent by the application yet. The host still receives, and may send more than `w`. -/
structure Channel.Unheard (c : Channel) (w : List Message) : Prop where
  waiting : c.toApp.waiting = w
  hasSender : c.toApp.hasSender
  silent : c.fromApp.waiting = []
  hasReceiver : c.fromApp.hasReceiver
  room : 0 < c.fromApp.capacity

namespace Channel.Unheard

variable {c c' : Channel} {m : Message} {w : List Message}

theorem eq_nil (h : c.Unheard w) (hnone : c.receive = none) : w = [] := by
  obtain ⟨hw, -⟩ := h
  unfold receive Queue.take at hnone
  rw [hw] at hnone
  cases w with
  | nil => rfl
  | cons m w => contradiction

theorem received (h : c.Unheard w) (hsome : c.receive = some (m, c')) :
    ∃ w', w = m :: w' ∧ c'.Unheard w' := by
  obtain ⟨hw, hsender, hsilent, hreceiver, hroom⟩ := h
  unfold receive Queue.take at hsome
  rw [hw] at hsome
  cases w with
  | nil => simp [hsender] at hsome
  | cons n w =>
    obtain ⟨rfl, rfl⟩ := Prod.mk.inj (Option.some.inj hsome)
    exact ⟨w, rfl, rfl, hsender, hsilent, hreceiver, hroom⟩

theorem offer (h : c.Unheard w) (m : Message) :
    c.fromApp.offer m = .accepted { c.fromApp with waiting := [m] } := by
  obtain ⟨-, -, hsilent, hreceiver, hroom⟩ := h
  have hempty : ¬ c.fromApp.capacity = 0 := Nat.pos_iff_ne_zero.1 hroom
  simp [Queue.offer, hreceiver, Queue.isFull, hsilent, hempty]

end Channel.Unheard

/-- The call goes on. -/
def Standing.goesOn : Standing → Bool
  | waiting _ => true
  | returned _ | panicked _ => false

/-- What a host finds after the opening. -/
def Opening.Shows : Opening → Progress σ → Prop
  | sends m, run => ∃ more, run.channel.fromApp.waiting = m :: more
  | ends, run => run.channel.fromApp.waiting = [] ∧ run.standing.goesOn = false
  | waits, run => run.channel.fromApp.waiting = [] ∧ run.standing.goesOn = true

theorem Program.advance_opening (p : Program) (host : σ) {c : Channel} {w : List Message}
    (hc : c.Unheard w) (es : List Event) : (p.opening w).Shows (p.advance idle host c es) := by
  induction p, host, c using Program.induct_run generalizing w es with
  | finish result host c => exact ⟨hc.silent, rfl⟩
  | panic text host c => exact ⟨hc.silent, rfl⟩
  | hang host c => exact ⟨hc.silent, rfl⟩
  | tell e next host c ih => exact ih hc (es ++ [e])
  | starve next host c hnone =>
    obtain rfl := hc.eq_nil hnone
    rw [advance, hnone]
    exact ⟨hc.silent, rfl⟩
  | receive next host c m c' hsome ih =>
    obtain ⟨w', rfl, hc'⟩ := hc.received hsome
    rw [advance_receive hsome]
    exact ih hc' es
  | send m next host c ih =>
    rw [advance, offerRelieved_idle, hc.offer m]
    exact (next true).advance_opened host { c with fromApp := _ } ⟨[], rfl⟩ es
  | starveListening heard again leave host c hnone =>
    obtain rfl := hc.eq_nil hnone
    rw [advance_starved hnone]
    exact ⟨hc.silent, rfl⟩
  | hear heard again leave host c m c' hsome ih =>
    obtain ⟨w', rfl, hc'⟩ := hc.received hsome
    rw [advance_hear toApp_idle hsome, opening_hear]
    exact ih hc' es

/-! ## Both ends of the queue of the host -/

/-- The application can send as long as its call goes on, and the host is there to receive. -/
structure Channel.Attended (c : Channel) (goesOn : Bool) : Prop where
  hasSender : c.fromApp.hasSender = goesOn
  hasReceiver : c.fromApp.hasReceiver
  room : 0 < c.fromApp.capacity

theorem Channel.Attended.received {c c' : Channel} {goesOn : Bool} {m : Message}
    (h : c.Attended goesOn) (hsome : c.receive = some (m, c')) : c'.Attended goesOn := by
  have hsame := fromApp_of_receive hsome
  exact ⟨hsame ▸ h.hasSender, hsame ▸ h.hasReceiver, hsame ▸ h.room⟩

theorem Program.advance_attended (p : Program) (host : σ) (c : Channel) (hc : c.Attended true)
    (es : List Event) :
    let run := p.advance idle host c es
    run.channel.Attended run.standing.goesOn := by
  induction p, host, c using Program.induct_run generalizing es with
  | finish result host c => exact ⟨rfl, hc.hasReceiver, hc.room⟩
  | panic text host c => exact ⟨rfl, hc.hasReceiver, hc.room⟩
  | hang host c => exact hc
  | tell e next host c ih => exact ih hc (es ++ [e])
  | starve next host c hnone =>
    rw [advance, hnone]
    exact hc
  | receive next host c m c' hsome ih =>
    rw [advance_receive hsome]
    exact ih (hc.received hsome) es
  | send m next host c ih =>
    rw [advance, offerRelieved_idle]
    cases hoffer : c.fromApp.offer m with
    | accepted q =>
      have hq : Channel.Attended { c with fromApp := q } true := by
        obtain rfl := Queue.offer_eq_accepted hoffer
        exact ⟨hc.hasSender, hc.hasReceiver, hc.room⟩
      exact ih true host { c with fromApp := q } rfl hq es
    | refused => exact ih false host c rfl hc es
    | full => exact hc
  | starveListening heard again leave host c hnone =>
    rw [advance_starved hnone]
    exact hc
  | hear heard again leave host c m c' hsome ih =>
    rw [advance_hear toApp_idle hsome]
    exact ih (hc.received hsome) es

end Idle

namespace Lifespan

theorem attended_run {s : Standing} {c : Channel} (h : c.Attended s.goesOn) :
    (run s c).channel.Attended (run s c).standing.goesOn := by
  cases s with
  | waiting p => exact p.advance_attended () c h []
  | returned result => exact h
  | panicked text => exact h

/-! ## The startup -/

theorem run_waiting (p : Program) (c : Channel) :
    run (.waiting p) c = p.advance idle () c [] := rfl

/-- The outcome of a startup that an opening leads to. -/
def Follows (outcome : Startup) : Opening → Prop
  | .sends .startupComplete => ∃ l, outcome = .supported l
  | .sends (.startupFailed reason) => outcome = .failed (.lifespanFailed reason)
  | .sends _ => outcome = .unsupported
  | .ends => outcome = .unsupported
  | .waits => outcome = .stuck

/-- What the host takes where an opening shows. -/
def IsTaken (take : Take) : Opening → Prop
  | .sends m => ∃ q, take = .got m q
  | .ends => take = .ended
  | .waits => take = .empty

theorem isTaken_of_shows {p : Progress Unit} {first : Opening} (hshows : first.Shows p)
    (h : p.channel.Attended p.standing.goesOn) : IsTaken p.channel.fromApp.take first := by
  have hsender := h.hasSender
  cases first with
  | sends m =>
    obtain ⟨more, hmore⟩ := hshows
    exact ⟨_, by rw [Queue.take, hmore]⟩
  | ends =>
    obtain ⟨hsilent, hended⟩ := hshows
    rw [hended] at hsender
    simp [IsTaken, Queue.take, hsilent, hsender]
  | waits =>
    obtain ⟨hsilent, hwaits⟩ := hshows
    rw [hwaits] at hsender
    simp [IsTaken, Queue.take, hsilent, hsender]

theorem follows_startup (app : AsyncApp) (task : Nat) :
    Follows (startup app task).1 ((app .lifespan).opening [.startup]) := by
  have hroom : 0 < capacity := by decide
  have hattended : startupChannel.Attended true := ⟨rfl, rfl, hroom⟩
  have hunheard : startupChannel.Unheard [.startup] := ⟨rfl, rfl, rfl, rfl, hroom⟩
  have hshows := (app .lifespan).advance_opening () hunheard []
  rw [← run_waiting] at hshows
  have htaken := isTaken_of_shows hshows (attended_run hattended)
  unfold startup
  generalize run (.waiting (app .lifespan)) startupChannel = p at hshows htaken ⊢
  generalize (app .lifespan).opening [.startup] = first at hshows htaken ⊢
  cases first with
  | sends m =>
    obtain ⟨q, htake⟩ := htaken
    simp only [htake]
    cases m with
    | startupComplete => exact ⟨_, rfl⟩
    | _ => rfl
  | ends =>
    obtain ⟨-, hended⟩ := hshows
    have htake : p.channel.fromApp.take = .ended := htaken
    simp only [htake]
    cases hstanding : p.standing with
    | waiting rest => simp [hstanding, Standing.goesOn] at hended
    | returned result => cases result <;> rfl
    | panicked text => rfl
  | waits =>
    obtain ⟨-, hwaits⟩ := hshows
    have htake : p.channel.fromApp.take = .empty := htaken
    simp only [htake]
    cases hstanding : p.standing with
    | waiting rest => rfl
    | returned result => simp [hstanding, Standing.goesOn] at hwaits
    | panicked text => simp [hstanding, Standing.goesOn] at hwaits

/-! ## The answer to the shutdown -/

/-- What the application shows next: the oldest message on the way, or else how the rest of it opens
on what waits for it. -/
def answer (l : Lifespan) : Opening :=
  match l.channel.fromApp.waiting, l.standing with
  | m :: _, _ => .sends m
  | [], .waiting rest => rest.opening l.channel.toApp.waiting
  | [], _ => .ends

theorem take_of_waiting_eq_nil {q : Queue} (h : q.waiting = []) :
    q.take = .ended ∨ q.take = .empty := by
  unfold Queue.take
  rw [h]
  cases q.hasSender
  · exact .inl rfl
  · exact .inr rfl

theorem isTaken_awaitMessage (l : Lifespan) (h : l.channel.Attended l.standing.goesOn)
    (hsender : l.channel.toApp.hasSender) : IsTaken (awaitMessage l).1 l.answer := by
  obtain ⟨s, c⟩ := l
  cases hwaiting : c.fromApp.waiting with
  | cons m more =>
    have htake : c.fromApp.take = .got m { c.fromApp with waiting := more } := by
      rw [Queue.take, hwaiting]
    simp only [answer, awaitMessage, hwaiting, htake]
    exact ⟨_, rfl⟩
  | nil =>
    have hshows : (answer ⟨s, c⟩).Shows (run s c) := by
      simp only [answer, hwaiting]
      cases s with
      | waiting p => exact p.advance_opening () ⟨rfl, hsender, hwaiting, h.hasReceiver, h.room⟩ []
      | returned result => exact ⟨hwaiting, rfl⟩
      | panicked text => exact ⟨hwaiting, rfl⟩
    have htaken := isTaken_of_shows hshows (attended_run h)
    have hawait : (awaitMessage ⟨s, c⟩).1 = (run s c).channel.fromApp.take := by
      unfold awaitMessage
      rcases take_of_waiting_eq_nil hwaiting with hnone | hnone
      all_goals
        simp only [hnone]
        cases (run s c).channel.fromApp.take <;> rfl
    exact hawait ▸ htaken

end Lifespan

end Gateway
