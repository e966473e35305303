import Gateway.Proofs.Scripts
import Mathlib.Logic.Relation

/-!
Two tasks share a call: the application takes its steps, and the host collects what it sends. Their
steps interleave in any order. For a script the order has no influence on the response, no order
gets stuck, and none goes on for ever.
-/
namespace Gateway

/-- A call under way: where the application stands, the channel, and what the host has collected. -/
structure Underway where
  standing : Standing
  channel : Channel
  collected : Collection

namespace Channel

theorem receive_nil {c c' : Channel} {m : Message} (hw : c.toApp.waiting = [])
    (h : c.receive = some (m, c')) : m = .disconnect := by
  unfold receive Queue.take at h
  rw [hw] at h
  cases hsender : c.toApp.hasSender <;> simp_all

theorem receive_cons {c c' : Channel} {m n : Message} {w : List Message}
    (hw : c.toApp.waiting = n :: w) (h : c.receive = some (m, c')) :
    m = n ∧ c'.toApp.waiting = w := by
  unfold receive Queue.take at h
  rw [hw] at h
  obtain ⟨rfl, rfl⟩ := Prod.mk.inj (Option.some.inj h)
  exact ⟨rfl, rfl⟩

end Channel

namespace Queue

theorem offer_eq_accepted {q q' : Queue} {m : Message} (h : q.offer m = .accepted q') :
    q' = { q with waiting := q.waiting ++ [m] } := by
  unfold offer at h
  split at h
  · contradiction
  · split at h
    · contradiction
    · exact (Offer.accepted.inj h).symm

theorem offer_eq_refused {q : Queue} {m : Message} (h : q.offer m = .refused) :
    q.hasReceiver = false := by
  unfold offer at h
  split at h
  · next hreceiver => simpa using hreceiver
  · split at h <;> contradiction

theorem offer_eq_full {q : Queue} {m : Message} (h : q.offer m = .full) :
    q.hasReceiver ∧ q.capacity ≤ q.waiting.length := by
  unfold offer at h
  split at h
  · contradiction
  · next hreceiver =>
    split at h
    · next hfull => exact ⟨by simpa using hreceiver, by simpa [isFull] using hfull⟩
    · contradiction

theorem take_eq_got {q q' : Queue} {m : Message} (h : q.take = .got m q') :
    ∃ w, q.waiting = m :: w ∧ q' = { q with waiting := w } := by
  unfold take at h
  split at h
  · next w heq =>
    cases h
    exact ⟨w, heq, rfl⟩
  · split at h <;> contradiction

theorem take_eq_ended {q : Queue} (h : q.take = .ended) :
    q.waiting = [] ∧ q.hasSender = false := by
  unfold take at h
  split at h
  · contradiction
  · next heq =>
    split at h
    · contradiction
    · next hsender => exact ⟨heq, by simpa using hsender⟩

end Queue

namespace Underway

/-- A call of `p` that is about to start, on a channel with room for `capacity` messages each way. -/
def start (capacity : Nat) (p : Program) (body : Bytes) : Underway where
  standing := .waiting p
  channel :=
    { toApp := { capacity, waiting := [.request body false], hasSender := false }
      fromApp := { capacity } }
  collected := .empty

/-- What a listening loop goes on with when it hears `m`. -/
def afterHearing (heard : List Message) (again : List Message → Message → Option (List Act))
    (leave : List Message → Message → Program) (m : Message) : Program :=
  match Program.round again heard m with
  | none => leave heard m
  | some acts => Program.perform acts (.listen (heard ++ [m]) again leave)

/-- One step of the application. Without a message to receive, or room for one to send, it takes
none. -/
inductive AppStep : Standing → Channel → Standing → Channel → Prop
  | finish {result c} : AppStep (.waiting (.finish result)) c (.returned result) c.dropApp
  | panic {text c} : AppStep (.waiting (.panic text)) c (.panicked text) c.dropApp
  | tell {e next c} : AppStep (.waiting (.tell e next)) c (.waiting next) c
  | receive {next m c c'} (h : c.receive = some (m, c')) :
    AppStep (.waiting (.receive next)) c (.waiting (next m)) c'
  | hear {heard again leave m c c'} (h : c.receive = some (m, c')) :
    AppStep (.waiting (.listen heard again leave)) c (.waiting (afterHearing heard again leave m)) c'
  | sent {m next q} {c : Channel} (h : c.fromApp.offer m = .accepted q) :
    AppStep (.waiting (.send m next)) c (.waiting (next true)) { c with fromApp := q }
  | refused {m next} {c : Channel} (h : c.fromApp.offer m = .refused) :
    AppStep (.waiting (.send m next)) c (.waiting (next false)) c

/-- One step of the host: it collects a message, or it stops to receive since it has what it wants or
nothing more will come. -/
inductive HostStep : Collection → Channel → Collection → Channel → Prop
  | take {k m q} {c : Channel} (hreceiver : c.fromApp.hasReceiver) (hgoing : ¬ k.isOver)
    (h : c.fromApp.take = .got m q) : HostStep k c (k.add m) { c with fromApp := q }
  | stop {k} {c : Channel} (hreceiver : c.fromApp.hasReceiver)
    (h : k.isOver ∨ c.fromApp.take = .ended) :
    HostStep k c k { c with fromApp := c.fromApp.dropReceiver }

/-- One step of either task. -/
inductive Step : Underway → Underway → Prop
  | app {st st' c c' k} (h : AppStep st c st' c') : Step ⟨st, c, k⟩ ⟨st', c', k⟩
  | host {st c c' k k'} (h : HostStep k c k' c') : Step ⟨st, c, k⟩ ⟨st, c', k'⟩

abbrev Steps : Underway → Underway → Prop := Relation.ReflTransGen Step

/-- Both tasks have ended, the application with `result`. -/
structure Finished (s : Underway) (result : Except AppError Unit) : Prop where
  standing : s.standing = .returned result
  hasReceiver : s.channel.fromApp.hasReceiver = false

/-! ## What the steps preserve -/

/-- What a call still sends, where `w` waits for it. -/
def remaining (w : List Message) : Standing → List Message
  | .waiting p => p.sends w
  | .returned _ => []
  | .panicked _ => []

/-- The call is one of a script that would send `all`: what was collected, what is on the way and
what is still to come make up `all`, as far as it matters. -/
structure Consistent (all : List Message) (s : Underway) : Prop where
  capacity : 0 < s.channel.fromApp.capacity
  noMore : s.channel.toApp.hasSender = false
  standing : (∃ p, s.standing = .waiting p ∧ p.IsScript ∧ s.channel.fromApp.hasSender = true) ∨
    ∃ result, s.standing = .returned result ∧ s.channel.fromApp.hasSender = false
  collected : (s.channel.fromApp.waiting ++ remaining s.channel.toApp.waiting s.standing).foldl
    Collection.add s.collected = all.foldl Collection.add .empty
  receiver : s.channel.fromApp.hasReceiver = false → s.collected.isOver ∨
    s.channel.fromApp.waiting = [] ∧ ∃ result, s.standing = .returned result

theorem consistent_start {capacity : Nat} (hcapacity : 0 < capacity) {p : Program}
    (hp : p.IsScript) (body : Bytes) :
    Consistent (p.sends [.request body false]) (start capacity p body) :=
  ⟨hcapacity, rfl, .inl ⟨p, rfl, hp, rfl⟩, rfl, fun hno => nomatch hno⟩

theorem sends_afterHearing (heard : List Message)
    (again : List Message → Message → Option (List Act)) (leave : List Message → Message → Program)
    (w : List Message) :
    (afterHearing heard again leave (Channel.next w).1).sends (Channel.next w).2 =
      (Program.listen heard again leave).sends w := by
  cases w with
  | nil => rfl
  | cons m w =>
    unfold afterHearing
    simp only [Program.sends, Program.listenSends, Channel.next]
    cases Program.round again heard m with
    | none => rfl
    | some acts => exact Program.sends_perform acts _ w

theorem isScript_afterHearing {heard : List Message}
    {again : List Message → Message → Option (List Act)} {leave : List Message → Message → Program}
    (h : ∀ heard m, (leave heard m).IsScript) (m : Message) :
    (afterHearing heard again leave m).IsScript := by
  unfold afterHearing
  split
  · exact h heard m
  · have hlisten : (Program.listen (heard ++ [m]) again leave).IsScript := h
    exact Program.isScript_perform hlisten _

section Preserved

variable {all : List Message} {st : Standing} {p p' : Program} {c c' : Channel} {k k' : Collection}

theorem Consistent.waiting (h : Consistent all ⟨.waiting p, c, k⟩) :
    p.IsScript ∧ c.fromApp.hasSender = true := by
  rcases h.standing with ⟨q, hq, hscript, hsender⟩ | ⟨result, hresult, -⟩
  · exact ⟨Standing.waiting.inj hq ▸ hscript, hsender⟩
  · nomatch hresult

/-- As long as the application goes on, the host stops to receive only when it has what it wants. -/
theorem Consistent.isOver (h : Consistent all ⟨.waiting p, c, k⟩)
    (hreceiver : c.fromApp.hasReceiver = false) : k.isOver := by
  rcases h.receiver hreceiver with hover | ⟨-, result, hresult⟩
  · exact hover
  · nomatch hresult

theorem Consistent.settled {s : Underway} (h : Consistent all s) :
    s.channel.Settled s.channel.toApp.waiting := ⟨rfl, h.noMore⟩

/-- A step that sends nothing, and after which the same is still to come. -/
theorem Consistent.silent (h : Consistent all ⟨.waiting p, c, k⟩) (hfrom : c'.fromApp = c.fromApp)
    (hmore : c'.toApp.hasSender = false) (hp : p'.IsScript)
    (hsends : p'.sends c'.toApp.waiting = p.sends c.toApp.waiting) :
    Consistent all ⟨.waiting p', c', k⟩ where
  capacity := hfrom ▸ h.capacity
  noMore := hmore
  standing := .inl ⟨p', rfl, hp, hfrom ▸ h.waiting.2⟩
  collected := by
    have hcollected := h.collected
    simp only [remaining, hsends, hfrom] at hcollected ⊢
    exact hcollected
  receiver := fun hreceiver => .inl (h.isOver (hfrom ▸ hreceiver))

theorem Consistent.received {m : Message} (h : Consistent all ⟨.waiting p, c, k⟩)
    (hreceive : c.receive = some (m, c')) (hp : p'.IsScript)
    (hsends : m = (Channel.next c.toApp.waiting).1 →
      p'.sends (Channel.next c.toApp.waiting).2 = p.sends c.toApp.waiting) :
    Consistent all ⟨.waiting p', c', k⟩ := by
  obtain ⟨c'', hreceive', hsettled, hfrom⟩ := h.settled.receive
  obtain ⟨rfl, rfl⟩ := Prod.mk.inj (Option.some.inj (hreceive.symm.trans hreceive'))
  exact h.silent hfrom hsettled.hasSender hp (hsettled.waiting ▸ hsends rfl)

theorem Consistent.app {st' : Standing} (h : Consistent all ⟨st, c, k⟩)
    (hstep : AppStep st c st' c') : Consistent all ⟨st', c', k⟩ := by
  cases hstep with
  | @finish result =>
    refine ⟨h.capacity, h.noMore, .inr ⟨result, rfl, rfl⟩, h.collected, ?_⟩
    exact fun hreceiver => .inl (h.isOver hreceiver)
  | panic => exact h.waiting.1.elim
  | tell => exact h.silent rfl h.noMore h.waiting.1 rfl
  | receive hreceive => exact h.received hreceive (h.waiting.1 _) fun hm => hm ▸ rfl
  | hear hreceive =>
    refine h.received hreceive (isScript_afterHearing h.waiting.1 _) fun hm => ?_
    rw [hm, sends_afterHearing]
  | @sent m next q _ hoffer =>
    obtain rfl := Queue.offer_eq_accepted hoffer
    have hcollected := h.collected
    refine ⟨h.capacity, h.noMore, .inl ⟨next true, rfl, h.waiting.1.1, h.waiting.2⟩, ?_,
      fun hreceiver => .inl (h.isOver hreceiver)⟩
    simp only [remaining, Program.sends] at hcollected ⊢
    rwa [List.append_assoc, List.singleton_append]
  | @refused m next _ hoffer =>
    -- the host has what it wants: what the script would still have sent makes no difference
    have hover := h.isOver (Queue.offer_eq_refused hoffer)
    have hends := h.waiting.1.2
    have hcollected := h.collected
    refine ⟨h.capacity, h.noMore, .inl ⟨next false, rfl, hends.isScript, h.waiting.2⟩, ?_,
      fun _ => .inl hover⟩
    rw [Collection.foldl_add_of_isOver hover] at hcollected ⊢
    exact hcollected

theorem Consistent.host (h : Consistent all ⟨st, c, k⟩) (hstep : HostStep k c k' c') :
    Consistent all ⟨st, c', k'⟩ := by
  have hcollected := h.collected
  cases hstep with
  | take hreceiver hgoing htake =>
    obtain ⟨w, hwaiting, rfl⟩ := Queue.take_eq_got htake
    refine ⟨h.capacity, h.noMore, h.standing, ?_, fun hno => ?_⟩
    · rwa [hwaiting] at hcollected
    · exact absurd hreceiver (Bool.not_eq_true _ ▸ hno)
  | stop hreceiver hstop =>
    rcases hstop with hover | hended
    · refine ⟨h.capacity, h.noMore, h.standing, ?_, fun _ => .inl hover⟩
      rw [Collection.foldl_add_of_isOver hover] at hcollected ⊢
      exact hcollected
    · obtain ⟨hnil, hsender⟩ := Queue.take_eq_ended hended
      rcases h.standing with ⟨p, -, -, hlive⟩ | ⟨result, rfl, -⟩
      · exact absurd hlive (Bool.not_eq_true _ ▸ hsender)
      · refine ⟨h.capacity, h.noMore, h.standing, ?_, fun _ => .inr ⟨rfl, result, rfl⟩⟩
        rwa [hnil] at hcollected

end Preserved

theorem Consistent.step {all : List Message} {s t : Underway} (h : Consistent all s)
    (hstep : Step s t) : Consistent all t := by
  cases hstep with
  | app happ => exact h.app happ
  | host hhost => exact h.host hhost

theorem Consistent.steps {all : List Message} {s t : Underway} (h : Consistent all s)
    (hsteps : Steps s t) : Consistent all t := by
  induction hsteps with
  | refl => exact h
  | tail _ hstep ih => exact ih.step hstep

/-! ## The end of a call -/

/-- Where the host has not stopped, it can take a step if the application has ended or the queue is
full. -/
theorem exists_hostStep {st : Standing} {c : Channel} {k : Collection}
    (hreceiver : c.fromApp.hasReceiver)
    (h : c.fromApp.hasSender = false ∨ c.fromApp.waiting ≠ []) :
    ∃ t, Step ⟨st, c, k⟩ t := by
  by_cases hover : k.isOver
  · exact ⟨_, .host (.stop hreceiver (.inl hover))⟩
  · cases hwaiting : c.fromApp.waiting with
    | cons m w =>
      exact ⟨_, .host (.take hreceiver hover (by simp only [Queue.take, hwaiting]; rfl))⟩
    | nil =>
      -- nothing is on the way and the application has ended, so nothing will come
      have hsender : c.fromApp.hasSender = false := h.resolve_right (by simp [hwaiting])
      exact ⟨_, .host (.stop hreceiver (.inr (by simp [Queue.take, hwaiting, hsender])))⟩

/-- No order of steps gets stuck before the end. -/
theorem Consistent.progress {all : List Message} {s : Underway} (h : Consistent all s) :
    (∃ result, s.Finished result) ∨ ∃ t, Step s t := by
  obtain ⟨st, c, k⟩ := s
  rcases h.standing with ⟨p, hp, hscript, -⟩ | ⟨result, hresult, hsender⟩
  · obtain rfl : st = .waiting p := hp
    refine .inr ?_
    obtain ⟨c', hreceive, -, -⟩ := h.settled.receive
    cases p with
    | finish result => exact ⟨_, .app .finish⟩
    | panic text => exact hscript.elim
    | hang => exact hscript.elim
    | tell e next => exact ⟨_, .app .tell⟩
    | receive next => exact ⟨_, .app (.receive hreceive)⟩
    | listen heard again leave => exact ⟨_, .app (.hear hreceive)⟩
    | send m next =>
      cases hoffer : c.fromApp.offer m with
      | accepted q => exact ⟨_, .app (.sent hoffer)⟩
      | refused => exact ⟨_, .app (.refused hoffer)⟩
      | full =>
        -- back-pressure: a full queue holds something that the host can take
        obtain ⟨hreceiver, hfull⟩ := Queue.offer_eq_full hoffer
        have hpos : 0 < c.fromApp.waiting.length := Nat.lt_of_lt_of_le h.capacity hfull
        exact exists_hostStep hreceiver (.inr (List.length_pos_iff.1 hpos))
  · obtain rfl : st = .returned result := hresult
    cases hreceiver : c.fromApp.hasReceiver with
    | true => exact .inr (exists_hostStep hreceiver (.inl hsender))
    | false => exact .inl ⟨result, rfl, hreceiver⟩

/-- At the end all that matters was collected. -/
theorem Consistent.collected_eq {all : List Message} {s : Underway} {result : Except AppError Unit}
    (h : Consistent all s) (hend : s.Finished result) :
    s.collected = all.foldl Collection.add .empty := by
  have hcollected := h.collected
  rw [hend.standing, remaining, List.append_nil] at hcollected
  rcases h.receiver hend.hasReceiver with hover | ⟨hnil, -⟩
  · rwa [Collection.foldl_add_of_isOver hover] at hcollected
  · rwa [hnil] at hcollected

/-! ## Every order of steps ends -/

section Ends

variable {k k' : Collection} {c c' : Channel}

/-- What is left to do for the host: to take what waits, and to stop. -/
def hostWork (c : Channel) : Nat := c.fromApp.waiting.length + c.fromApp.hasReceiver.toNat

theorem HostStep.hostWork_lt (h : HostStep k c k' c') : hostWork c' < hostWork c := by
  cases h with
  | take hreceiver hgoing htake =>
    obtain ⟨w, hwaiting, rfl⟩ := Queue.take_eq_got htake
    simp [hostWork, hwaiting]
  | stop hreceiver hstop => simp [hostWork, Queue.dropReceiver, hreceiver]

theorem HostStep.toApp (h : HostStep k c k' c') : c'.toApp = c.toApp := by
  cases h <;> rfl

/-- Every order of steps from `s` on ends. -/
def Ends (s : Underway) : Prop := Acc (fun t s => Step s t) s

/-- Between two steps of the application the host has only so much to do. -/
theorem ends_of_app {st : Standing} {w : List Message}
    (h : ∀ st' c c', AppStep st c st' c' → c.toApp.waiting = w → ∀ k, Ends ⟨st', c', k⟩)
    (hw : c.toApp.waiting = w) : Ends ⟨st, c, k⟩ := by
  induction hn : hostWork c using Nat.strongRecOn generalizing c k with
  | ind n ih =>
    refine .intro _ fun t hstep => ?_
    cases hstep with
    | app happ => exact h _ _ _ happ hw k
    | host hhost => exact ih _ (hn ▸ hhost.hostWork_lt) (hhost.toApp ▸ hw) rfl

theorem ends_returned (result : Except AppError Unit) : Ends ⟨.returned result, c, k⟩ :=
  ends_of_app (fun _ _ _ happ => nomatch happ) rfl

theorem ends_panicked (text : String) : Ends ⟨.panicked text, c, k⟩ :=
  ends_of_app (fun _ _ _ happ => nomatch happ) rfl

theorem ends_perform {next : Program} {w : List Message}
    (h : ∀ c k, c.toApp.waiting = w → Ends ⟨.waiting next, c, k⟩) (acts : List Act)
    (hw : c.toApp.waiting = w) : Ends ⟨.waiting (Program.perform acts next), c, k⟩ := by
  induction acts generalizing c k with
  | nil => exact h c k hw
  | cons act acts ih =>
    refine ends_of_app (w := w) (fun st' c c' happ hw k => ?_) hw
    cases act with
    | tell e =>
      cases happ
      exact ih hw
    | send m =>
      cases happ with
      | sent hoffer => exact ih hw
      | refused hoffer =>
        refine ends_of_app (fun st' c c' happ hw k => ?_) rfl
        cases happ
        exact ends_returned _

-- each message heard is one less that waits, and after the last comes the disconnect
theorem ends_listen {again : List Message → Message → Option (List Act)}
    {leave : List Message → Message → Program}
    (h : ∀ heard m c k, Ends ⟨.waiting (leave heard m), c, k⟩) (heard : List Message)
    {w : List Message} (hw : c.toApp.waiting = w) :
    Ends ⟨.waiting (.listen heard again leave), c, k⟩ := by
  induction w generalizing heard c k with
  | nil =>
    refine ends_of_app (fun st' c c' happ hw k => ?_) hw
    cases happ with
    | hear hreceive =>
      obtain rfl := Channel.receive_nil hw hreceive
      exact h heard .disconnect _ k
  | cons m w ih =>
    refine ends_of_app (fun st' c c' happ hw k => ?_) hw
    cases happ with
    | hear hreceive =>
      obtain ⟨rfl, hw'⟩ := Channel.receive_cons hw hreceive
      unfold afterHearing
      split
      · exact h heard _ c' k
      · next acts _ => exact ends_perform (fun c k hw => ih (heard ++ [_]) hw) acts hw'

theorem ends_waiting (p : Program) (c : Channel) (k : Collection) : Ends ⟨.waiting p, c, k⟩ := by
  induction p generalizing c k with
  | listen heard again leave ih => exact ends_listen (fun heard m c k => ih heard m c k) heard rfl
  | finish result =>
    refine ends_of_app (fun st' c c' happ hw k => ?_) rfl
    cases happ
    exact ends_returned result
  | panic text =>
    refine ends_of_app (fun st' c c' happ hw k => ?_) rfl
    cases happ
    exact ends_panicked text
  | hang => exact ends_of_app (fun st' c c' happ hw k => nomatch happ) rfl
  | tell e next ih =>
    refine ends_of_app (fun st' c c' happ hw k => ?_) rfl
    cases happ
    exact ih _ k
  | receive next ih =>
    refine ends_of_app (fun st' c c' happ hw k => ?_) rfl
    cases happ
    exact ih _ c' k
  | send m next ih =>
    refine ends_of_app (fun st' c c' happ hw k => ?_) rfl
    cases happ
    · exact ih true _ k
    · exact ih false _ k

/-- Every order of steps ends, for any program. -/
theorem ends (s : Underway) : Ends s := by
  obtain ⟨st, c, k⟩ := s
  cases st with
  | waiting p => exact ends_waiting p c k
  | returned result => exact ends_returned result
  | panicked text => exact ends_panicked text

/-- Any order of steps of a script can be brought to an end. -/
theorem Consistent.exists_finished {all : List Message} {s : Underway} (h : Consistent all s) :
    ∃ t result, Steps s t ∧ t.Finished result := by
  induction ends s with
  | intro s _ ih =>
    rcases h.progress with ⟨result, hend⟩ | ⟨t, hstep⟩
    · exact ⟨s, result, .refl, hend⟩
    · obtain ⟨t', result, hsteps, hend⟩ := ih t hstep (h.step hstep)
      exact ⟨t', result, .head hstep hsteps, hend⟩

/-- No order of steps goes on for ever. -/
theorem Ends.not_forever {s : Underway} (h : Ends s) (run : Nat → Underway) (h0 : run 0 = s) :
    ¬ ∀ n, Step (run n) (run (n + 1)) := by
  induction h generalizing run with
  | intro s _ ih =>
    intro hrun
    exact ih (run 1) (h0 ▸ hrun 0) (fun n => run (n + 1)) rfl fun n => hrun (n + 1)

end Ends

end Underway

end Gateway
