import Gateway.Builtin
import Gateway.Proofs.Opening
import Gateway.Script

/-!
The lifespan handshake. The startup is decided by the first message of the application, and the
outcome of the shutdown by what it does next. No shutdown blocks on its message, and over the whole
connection the application gets each of the two messages of the host at most once and in this order.
-/
namespace Gateway

/-- The outcome of a shutdown where this is the answer. -/
def Opening.shutdownOutcome : Opening → Notice
  | sends .shutdownComplete => .lifespanStopped
  | sends (.shutdownFailed reason) => .lifespanStopFailed reason
  | sends m => .unexpectedAtShutdown m.kind
  | ends => .closedDuringShutdown
  | waits => .shutdownTimedOut

/-- The messages that were noted. -/
def Event.received (es : List Event) : List Message :=
  es.filterMap fun
    | seen (.received m) => some m
    | _ => none

theorem received_notes (ms : List Message) : Event.received (notes ms) = ms := by
  induction ms with
  | nil => rfl
  | cons m ms ih => exact congrArg (m :: ·) ih

theorem received_append (es es' : List Event) :
    Event.received (es ++ es') = Event.received es ++ Event.received es' :=
  List.filterMap_append

namespace Lifespan

/-- The same lifespan with an application that notes what it receives. -/
def noting (l : Lifespan) : Lifespan := ⟨l.standing.noting, l.channel⟩

/-- Lets the application go on while the host does something else. -/
def goOn (l : Lifespan) : Lifespan × List Event :=
  let p := run l.standing l.channel
  (⟨p.standing, p.channel⟩, p.events)

/-- The same lifespan with the shutdown on the way to its application. -/
def asked (l : Lifespan) : Lifespan :=
  let q := l.channel.toApp
  ⟨l.standing, { l.channel with toApp := { q with waiting := q.waiting ++ [.shutdown] } }⟩

/-- The lifespan after its application was let to go on `n` times, and what happened. -/
def later : Nat → Lifespan → Lifespan × List Event
  | 0, l => (l, [])
  | n + 1, l =>
    let (next, es) := l.goOn
    let (last, es') := later n next
    (last, es ++ es')

end Lifespan

def Startup.noting : Startup → Startup
  | supported l => .supported l.noting
  | unsupported => .unsupported
  | failed e => .failed e
  | stuck => .stuck

namespace Lifespan

/-- An application got `ms` of what was sent on its connection, on which the host can send as long as
`isOpen`. -/
structure Heard (sent ms : List Message) (isOpen : Bool) (s : Standing) (c : Channel) : Prop where
  delivered : c.toApp.Delivered sent ms
  hasSender : c.toApp.hasSender = isOpen
  hasReceiver : c.toApp.hasReceiver = s.goesOn
  capacity : c.toApp.capacity = capacity

section Heard

variable {sent before : List Message} {isOpen : Bool} {s : Standing} {c : Channel}

/-- What the application sends makes no difference to what it got. -/
theorem Heard.of_toApp {c' : Channel} (h : Heard sent before isOpen s c)
    (hsame : c'.toApp = c.toApp) : Heard sent before isOpen s c' := by
  obtain ⟨hdelivered, hsender, hreceiver, hcapacity⟩ := h
  rw [← hsame] at hdelivered hsender hreceiver hcapacity
  exact ⟨hdelivered, hsender, hreceiver, hcapacity⟩

theorem heard_of_leaves {ms : List Message} {q : Queue} (hdelivered : q.Delivered sent ms)
    (hsender : q.hasSender = isOpen) (hreceiver : q.hasReceiver) (hcapacity : q.capacity = capacity)
    (hleft : c.toApp = s.leaves q) : Heard sent ms isOpen s c := by
  refine ⟨hleft ▸ hdelivered.leaves s, ?_, ?_, ?_⟩
  · rw [hleft]
    cases s <;> exact hsender
  · rw [hleft]
    cases s with
    | waiting rest => exact hreceiver
    | _ => rfl
  · rw [hleft]
    cases s <;> exact hcapacity

theorem Heard.run (h : Heard sent before isOpen s c) :
    ∃ ms, run s.noting c = ⟨(run s c).standing.noting, (run s c).channel, (), notes ms⟩ ∧
      Heard sent (before ++ ms) isOpen (run s c).standing (run s c).channel := by
  cases s with
  | returned result => exact ⟨[], rfl, by rwa [List.append_nil]⟩
  | panicked text => exact ⟨[], rfl, by rwa [List.append_nil]⟩
  | waiting p =>
    obtain ⟨ms, q, hrun, hreceives, hleft⟩ := p.advance_noting toApp_idle () c [] []
    have hwaiting : c.toApp.hasReceiver := h.hasReceiver
    obtain ⟨hreceiver, hsender, hcapacity⟩ := hreceives.kept
    exact ⟨ms, hrun, heard_of_leaves (h.delivered.receives hwaiting hreceives)
      (hsender.trans h.hasSender) (hreceiver.trans hwaiting) (hcapacity.trans h.capacity) hleft⟩

end Heard

variable {sent before : List Message} {isOpen : Bool} {l : Lifespan}

theorem heard_goOn (h : Heard sent before isOpen l.standing l.channel) :
    ∃ ms, l.noting.goOn = (l.goOn.1.noting, notes ms) ∧
      Heard sent (before ++ ms) isOpen l.goOn.1.standing l.goOn.1.channel := by
  obtain ⟨ms, hrun, hheard⟩ := h.run
  refine ⟨ms, ?_, hheard⟩
  show (let p := run l.standing.noting l.channel
    (Lifespan.mk p.standing p.channel, p.events)) = _
  rw [hrun]
  rfl

theorem heard_later (n : Nat) (h : Heard sent before isOpen l.standing l.channel) :
    ∃ ms, l.noting.later n = ((l.later n).1.noting, notes ms) ∧
      Heard sent (before ++ ms) isOpen (l.later n).1.standing (l.later n).1.channel := by
  induction n generalizing l before with
  | zero => exact ⟨[], rfl, by rwa [List.append_nil]⟩
  | succ n ih =>
    obtain ⟨ms, hgoOn, hheard⟩ := heard_goOn h
    obtain ⟨ns, hlater, hheard'⟩ := ih hheard
    refine ⟨ms ++ ns, ?_, ?_⟩
    · rw [later, hgoOn]
      dsimp only
      rw [hlater]
      simp [notes, later]
    · rw [← List.append_assoc]
      exact hheard'

theorem attended_later (n : Nat) (h : l.channel.Attended l.standing.goesOn) :
    (l.later n).1.channel.Attended (l.later n).1.standing.goesOn := by
  induction n generalizing l with
  | zero => exact h
  | succ n ih => exact ih (attended_run h)

/-! ## The shutdown -/

theorem awaitMessage_noting (l : Lifespan) : awaitMessage l.noting =
    match l.channel.fromApp.take with
    | .got m q =>
      (.got m q, ⟨l.standing.noting, { l.channel with fromApp := q }, (), []⟩)
    | _ =>
      let p := run l.standing.noting l.channel
      match p.channel.fromApp.take with
      | .got m q => (.got m q, { p with channel := { p.channel with fromApp := q } })
      | take => (take, p) := rfl

theorem heard_awaitMessage (h : Heard sent before isOpen l.standing l.channel) :
    ∃ ms, awaitMessage l.noting =
        ((awaitMessage l).1,
          ⟨(awaitMessage l).2.standing.noting, (awaitMessage l).2.channel, (), notes ms⟩) ∧
      Heard sent (before ++ ms) isOpen (awaitMessage l).2.standing (awaitMessage l).2.channel := by
  obtain ⟨ms, hrun, hheard⟩ := h.run
  rw [awaitMessage_noting, hrun, awaitMessage]
  cases l.channel.fromApp.take with
  | got m q =>
    -- the answer was there already, and the application does not go on
    refine ⟨[], rfl, ?_⟩
    rw [List.append_nil]
    exact h.of_toApp rfl
  | _ =>
    dsimp only
    cases (run l.standing l.channel).channel.fromApp.take with
    | got m q => exact ⟨ms, rfl, hheard.of_toApp rfl⟩
    | _ => exact ⟨ms, rfl, hheard⟩

theorem heard_awaitEnd {p : Progress Unit} (h : Heard sent before isOpen p.standing p.channel)
    (es : List Event) :
    ∃ ms q, awaitEnd ⟨p.standing.noting, p.channel, (), es⟩ =
        ⟨(awaitEnd p).waited, notes ms⟩ ∧ Queue.Delivered sent q (before ++ ms) := by
  have hclosed : Heard sent before false p.standing ⟨p.channel.toApp.dropSender, p.channel.fromApp⟩ :=
    ⟨h.delivered.dropSender, rfl, h.hasReceiver, h.capacity⟩
  obtain ⟨ms, hrun, hheard⟩ := hclosed.run
  refine ⟨ms, _, ?_, hheard.delivered⟩
  unfold awaitEnd
  dsimp only
  rw [hrun]
  generalize run p.standing ⟨p.channel.toApp.dropSender, p.channel.fromApp⟩ = q
  obtain ⟨st, c, host, events⟩ := q
  cases st <;> rfl

theorem waited_awaitEnd (p : Progress Unit) :
    (awaitEnd p).waited = 0 ∨ (awaitEnd p).waited = patience := by
  unfold awaitEnd
  dsimp only
  split
  · exact .inr rfl
  · exact .inl rfl

/-- The startup, then the shutdown, and only after both disconnects. -/
def InTurn (ms : List Message) : Prop :=
  ∃ taken k, ms = taken ++ List.replicate k .disconnect ∧ taken <+: [.startup, .shutdown] ∧
    (k ≠ 0 → taken = [.startup, .shutdown])

theorem inTurn_of_delivered {q : Queue} {ms : List Message}
    (h : Queue.Delivered [.startup, .shutdown] q ms) : InTurn ms := by
  obtain ⟨taken, k, rfl, hfirst, -, hk⟩ := h
  exact ⟨taken, k, rfl, hfirst, fun hne => (hk hne).1⟩

theorem inTurn_of_open {q : Queue} {ms : List Message} (h : Queue.Delivered [.startup] q ms)
    (hsender : q.hasSender = true) : InTurn ms := by
  obtain ⟨taken, k, rfl, hfirst, -, hk⟩ := h
  refine ⟨taken, k, rfl, hfirst.trans (List.prefix_append [_] [_]), fun hne => ?_⟩
  exact absurd (hk hne).2 (by simp [hsender])

theorem offer_shutdown (h : Heard [.startup] before true l.standing l.channel) :
    l.channel.toApp.offer .shutdown =
      if l.standing.goesOn then .accepted l.asked.channel.toApp else .refused := by
  unfold Queue.offer
  rw [h.hasReceiver]
  cases hgoes : l.standing.goesOn with
  | false => rfl
  | true =>
    -- of four places, the startup takes one at most
    obtain ⟨taken, k, -, -, hwaits, -⟩ := h.delivered
    have hsent := congrArg List.length (hwaits (h.hasReceiver.trans hgoes))
    rw [List.length_append, List.length_singleton] at hsent
    have hcapacity : l.channel.toApp.capacity = 4 := h.capacity
    have hroom : ¬ l.channel.toApp.capacity ≤ l.channel.toApp.waiting.length := by omega
    simp [Queue.isFull, hroom, asked, h.hasReceiver.trans hgoes]

theorem shutdown_of_refused (hoffer : l.channel.toApp.offer .shutdown = .refused) :
    l.shutdown = ⟨0, [.logged .closedBeforeShutdown]⟩ := by
  rw [shutdown, hoffer]

theorem shutdown_of_isTaken {take : Take} {p : Progress Unit} {first : Opening}
    (hoffer : l.channel.toApp.offer .shutdown = .accepted l.asked.channel.toApp)
    (hanswered : awaitMessage l.asked = (take, p)) (htaken : IsTaken take first) :
    l.shutdown = ⟨(if first = .waits then patience else 0) + (awaitEnd p).waited,
      p.events ++ .logged first.shutdownOutcome :: (awaitEnd p).events⟩ := by
  have hasked : awaitMessage ⟨l.standing, ⟨l.asked.channel.toApp, l.channel.fromApp⟩⟩ = (take, p) :=
    hanswered
  rw [shutdown, hoffer]
  simp only [hasked]
  cases first with
  | sends m =>
    obtain ⟨q, rfl⟩ := htaken
    cases m <;> rfl
  | ends =>
    obtain rfl : take = .ended := htaken
    rfl
  | waits =>
    obtain rfl : take = .empty := htaken
    rfl

theorem heard_shutdown (h : Heard [.startup] before true l.standing l.channel)
    (hattended : l.channel.Attended l.standing.goesOn) (hgoes : l.standing.goesOn) :
    ∃ ms ns rest, l.noting.shutdown =
        ⟨(if l.asked.answer = .waits then patience else 0) + rest,
          notes ms ++ .logged l.asked.answer.shutdownOutcome :: notes ns⟩ ∧
      l.noting.shutdown.waited = l.shutdown.waited ∧ (rest = 0 ∨ rest = patience) ∧
      InTurn (before ++ ms ++ ns) := by
  have hoffer : l.channel.toApp.offer .shutdown = .accepted l.asked.channel.toApp := by
    rw [offer_shutdown h, if_pos hgoes]
  have hasked : Heard [.startup, .shutdown] before true l.asked.standing l.asked.channel :=
    ⟨h.delivered.offer h.hasSender hoffer, h.hasSender, h.hasReceiver, h.capacity⟩
  have htaken : IsTaken (awaitMessage l.asked).1 l.asked.answer :=
    isTaken_awaitMessage l.asked ⟨hattended.hasSender, hattended.hasReceiver, hattended.room⟩
      h.hasSender
  obtain ⟨ms, hmessage, hheard⟩ := heard_awaitMessage hasked
  obtain ⟨ns, q, hend, hdelivered⟩ := heard_awaitEnd hheard (notes ms)
  have hanswered : awaitMessage l.asked = ((awaitMessage l.asked).1, (awaitMessage l.asked).2) := rfl
  have hplain := shutdown_of_isTaken hoffer hanswered htaken
  have hnoting : l.noting.shutdown = _ := shutdown_of_isTaken hoffer hmessage htaken
  rw [hend] at hnoting
  refine ⟨ms, ns, _, hnoting, ?_, waited_awaitEnd _, inTurn_of_delivered hdelivered⟩
  rw [hnoting, hplain]

/-! ## The handshake -/

/-- What comes of a startup at which an application went on as far as it could. -/
def answered (task : Nat) (p : Progress Unit) : Startup × List Notice :=
  match p.channel.fromApp.take with
  | .got .startupComplete q =>
    (.supported ⟨p.standing, { p.channel with fromApp := q }⟩, [.lifespanStarted])
  | .got (.startupFailed reason) _ => (.failed (.lifespanFailed reason), [])
  | .got m _ => (.unsupported, [.unexpectedAtStartup m.kind])
  | .ended | .empty => unanswered task p.standing

theorem startup_eq (app : AsyncApp) (task : Nat) :
    let p := run (.waiting (app .lifespan)) startupChannel
    startup app task = ((answered task p).1, p.events ++ (answered task p).2.map .logged) := rfl

theorem answered_noting (task : Nat) (p : Progress Unit) (es : List Event) :
    answered task ⟨p.standing.noting, p.channel, (), es⟩ =
      ((answered task p).1.noting, (answered task p).2) := by
  have hunanswered : unanswered task p.standing.noting =
      ((unanswered task p.standing).1.noting, (unanswered task p.standing).2) := by
    cases p.standing with
    | waiting rest => rfl
    | returned result => cases result <;> rfl
    | panicked text => rfl
  unfold answered
  dsimp only
  cases p.channel.fromApp.take with
  | got m q => cases m <;> rfl
  | ended => exact hunanswered
  | empty => exact hunanswered

theorem eq_of_answered {task : Nat} {p : Progress Unit} (hl : (answered task p).1 = .supported l) :
    ∃ q, p.channel.fromApp.take = .got .startupComplete q ∧
      l = ⟨p.standing, { p.channel with fromApp := q }⟩ := by
  have hno : (unanswered task p.standing).1 ≠ .supported l := by
    cases p.standing with
    | waiting rest => exact nofun
    | returned result => cases result <;> exact nofun
    | panicked text => exact nofun
  unfold answered at hl
  split at hl
  · next q htake => exact ⟨q, htake, (Startup.supported.inj hl).symm⟩
  · contradiction
  · contradiction
  · exact absurd hl hno
  · exact absurd hl hno

theorem heard_of_answered {task : Nat} {p : Progress Unit}
    (h : Heard sent before isOpen p.standing p.channel)
    (hl : (answered task p).1 = .supported l) :
    Heard sent before isOpen l.standing l.channel := by
  obtain ⟨q, -, rfl⟩ := eq_of_answered hl
  exact h.of_toApp rfl

theorem attended_of_answered {task : Nat} {p : Progress Unit}
    (h : p.channel.Attended p.standing.goesOn) (hl : (answered task p).1 = .supported l) :
    l.channel.Attended l.standing.goesOn := by
  obtain ⟨q, htake, rfl⟩ := eq_of_answered hl
  obtain ⟨w, -, rfl⟩ := Queue.take_eq_got htake
  exact ⟨h.hasSender, h.hasReceiver, h.room⟩

theorem heard_startup (app : AsyncApp) (task : Nat) :
    ∃ (ms : List Message) (notices : List Notice),
      startup (fun scope => (app scope).noting) task =
          ((startup app task).1.noting, notes ms ++ notices.map .logged) ∧
        ms <+: [.startup] ∧
        ∀ l, (startup app task).1 = .supported l →
          Heard [.startup] ms true l.standing l.channel := by
  have hstart : Heard [.startup] [] true (.waiting (app .lifespan)) startupChannel :=
    ⟨⟨[], 0, rfl, List.nil_prefix, fun _ => rfl, fun hne => absurd rfl hne⟩, rfl, rfl, rfl⟩
  obtain ⟨ms, hrun, hheard⟩ := hstart.run
  refine ⟨ms, (answered task (run (.waiting (app .lifespan)) startupChannel)).2, ?_, ?_, ?_⟩
  · have hnoted : run (.waiting (app .lifespan).noting) startupChannel = _ := hrun
    rw [startup_eq, startup_eq, hnoted, answered_noting]
  · obtain ⟨taken, k, hms, hfirst, -, hk⟩ := hheard.delivered
    have hzero : k = 0 := by
      -- nothing ends while the host can send
      by_contra hne
      have hopen := hheard.hasSender
      rw [(hk hne).2] at hopen
      nomatch hopen
    rw [List.nil_append] at hms
    rw [hms, hzero]
    simpa using hfirst
  · intro l hl
    exact heard_of_answered hheard hl

theorem attended_startup {app : AsyncApp} {task : Nat} (hl : (startup app task).1 = .supported l) :
    l.channel.Attended l.standing.goesOn := by
  have hstart : startupChannel.Attended true := ⟨rfl, rfl, show 0 < capacity by decide⟩
  exact attended_of_answered (attended_run (s := .waiting (app .lifespan)) hstart) hl

/-- The opening is no answer to the startup. -/
def IsNoAnswer (first : Opening) : Prop :=
  first = .ends ∨
    ∃ m, first = .sends m ∧ m ≠ .startupComplete ∧ ∀ reason, m ≠ .startupFailed reason

theorem follows_iff {outcome : Startup} {first : Opening} (h : Follows outcome first) :
    ((∃ l, outcome = .supported l) ↔ first = .sends .startupComplete) ∧
      (∀ e, outcome = .failed e ↔
        ∃ reason, e = .lifespanFailed reason ∧ first = .sends (.startupFailed reason)) ∧
      (outcome = .unsupported ↔ IsNoAnswer first) ∧ (outcome = .stuck ↔ first = .waits) := by
  unfold IsNoAnswer
  cases first with
  | sends m =>
    cases m with
    | startupComplete =>
      obtain ⟨l, rfl⟩ := h
      simp
    | startupFailed reason =>
      obtain rfl := h
      simp [eq_comm]
    | _ =>
      obtain rfl := h
      simp
  | ends =>
    obtain rfl := h
    simp
  | waits =>
    obtain rfl := h
    simp

/-- The startup is supported or fatal if and only if the first message of the application says so. A
shutdown then logs what comes of its answer, and neither message of the host is got twice. -/
theorem handshake (app : AsyncApp) (task : Nat) :
    let first := (app .lifespan).opening [.startup]
    let outcome := (startup app task).1
    let noted := startup (fun scope => (app scope).noting) task
    ((∃ l, outcome = .supported l) ↔ first = .sends .startupComplete) ∧
      (∀ e, outcome = .failed e ↔
        ∃ reason, e = .lifespanFailed reason ∧ first = .sends (.startupFailed reason)) ∧
      (outcome = .unsupported ↔ IsNoAnswer first) ∧ (outcome = .stuck ↔ first = .waits) ∧
      noted.1 = outcome.noting ∧ Event.received noted.2 <+: [.startup] ∧
      ∀ l, outcome = .supported l → ∀ n,
        let plain := (l.later n).1
        let last := (l.noting.later n).1
        let events := noted.2 ++ (l.noting.later n).2 ++ last.shutdown.events
        last = plain.noting ∧ last.shutdown.waited = plain.shutdown.waited ∧
          InTurn (Event.received events) ∧
          -- an application that has ended is not asked
          (plain.standing.goesOn = false → plain.channel.toApp.offer .shutdown = .refused ∧
            last.shutdown = ⟨0, [.logged .closedBeforeShutdown]⟩) ∧
          -- any other is, and its answer is waited for
          (plain.standing.goesOn →
            let answer := plain.asked.answer
            plain.channel.toApp.offer .shutdown = .accepted plain.asked.channel.toApp ∧
              ∃ ms ns rest, last.shutdown = ⟨(if answer = .waits then patience else 0) + rest,
                  notes ms ++ .logged answer.shutdownOutcome :: notes ns⟩ ∧
                (rest = 0 ∨ rest = patience)) := by
  intro first outcome noted
  obtain ⟨hsupported, hfailed, hunsupported, hstuck⟩ := follows_iff (follows_startup app task)
  obtain ⟨before, notices, hnoted, hfirst, hheard⟩ := heard_startup app task
  have hbefore : Event.received noted.2 = before := by
    have hnotices : Event.received (notices.map .logged) = [] := by
      simp [Event.received, List.filterMap_map]
    simp only [noted, hnoted, received_append, received_notes, hnotices, List.append_nil]
  refine ⟨hsupported, hfailed, hunsupported, hstuck, congrArg Prod.fst hnoted, hbefore ▸ hfirst,
    fun l hl n => ?_⟩
  obtain ⟨between, hlater, hlast⟩ := heard_later n (hheard l hl)
  have hattended := attended_later n (attended_startup hl)
  have hoffer := offer_shutdown hlast
  simp only [hlater, received_append, received_notes, hbefore]
  cases hgoes : (l.later n).1.standing.goesOn with
  | false =>
    rw [hgoes] at hoffer
    have hrefused := shutdown_of_refused hoffer
    have hrefused' : (l.later n).1.noting.shutdown = _ := shutdown_of_refused hoffer
    rw [hrefused, hrefused']
    refine ⟨trivial, rfl, ?_, fun _ => ⟨hoffer, rfl⟩, nofun⟩
    rw [show Event.received [.logged .closedBeforeShutdown] = [] from rfl, List.append_nil]
    exact inTurn_of_open hlast.delivered hlast.hasSender
  | true =>
    rw [hgoes] at hoffer
    obtain ⟨ms, ns, rest, hshutdown, hwaited, hrest, hturn⟩ := heard_shutdown hlast hattended hgoes
    refine ⟨trivial, hwaited, ?_, nofun, fun _ => ⟨hoffer, ms, ns, rest, hshutdown, hrest⟩⟩
    have hlogged : Event.received (.logged (l.later n).1.asked.answer.shutdownOutcome :: notes ns) =
        ns := received_notes ns
    rw [hshutdown, received_append, received_notes, hlogged, ← List.append_assoc]
    exact hturn

/-- An application for each of the six outcomes, and the seconds its shutdown takes. -/
theorem handshake_outcomes :
    let script (steps : List AsyncStep) : AsyncApp :=
      AsyncStep.app fun _ => .send .startupComplete 1 :: steps
    ∀ c ∈ [(Builtin.asyncEcho, Notice.lifespanStopped, 0),
        (script [.receive, .receive, .send (.shutdownFailed "busy") 1, .receive],
          Notice.lifespanStopFailed "busy", 0),
        (script [.send .startupComplete 1, .hang],
          Notice.unexpectedAtShutdown "lifespan.startup.complete", 5),
        (script [.receive, .receive], Notice.closedDuringShutdown, 0),
        (script [.hang], Notice.shutdownTimedOut, 10),
        (script [.receive], Notice.closedBeforeShutdown, 0)],
      ∃ l ms ns, (startup c.1 0).1 = .supported l ∧ l.noting.shutdown.waited = c.2.2 ∧
        l.noting.shutdown.events = notes ms ++ .logged c.2.1 :: notes ns := by
  intro script c hc
  have hasked : ∀ l, (startup c.1 0).1 = .supported l → l.standing.goesOn →
      l.asked.answer.shutdownOutcome = c.2.1 → l.noting.shutdown.waited = c.2.2 →
      ∃ l ms ns, (startup c.1 0).1 = .supported l ∧ l.noting.shutdown.waited = c.2.2 ∧
        l.noting.shutdown.events = notes ms ++ .logged c.2.1 :: notes ns := by
    intro l hl hgoes houtcome hwaited
    obtain ⟨-, ms, ns, rest, hshutdown, -⟩ :=
      ((handshake c.1 0).2.2.2.2.2.2 l hl 0).2.2.2.2 hgoes
    exact ⟨l, ms, ns, hl, hwaited, houtcome ▸ congrArg Shutdown.events hshutdown⟩
  simp only [List.mem_cons, List.not_mem_nil, or_false] at hc
  rcases hc with rfl | rfl | rfl | rfl | rfl | rfl
  · exact hasked _ rfl rfl rfl rfl
  · exact hasked _ rfl rfl rfl rfl
  · exact hasked _ rfl rfl rfl rfl
  · exact hasked _ rfl rfl rfl rfl
  · exact hasked _ rfl rfl rfl rfl
  · -- the call has ended before, and the application is not asked
    obtain ⟨-, hshutdown⟩ := ((handshake (script [.receive]) 0).2.2.2.2.2.2 _ rfl 0).2.2.2.1 rfl
    exact ⟨_, [], [], rfl, rfl, congrArg Shutdown.events hshutdown⟩

end Lifespan

end Gateway
