import Gateway.Channel.Operation
import Gateway.Proofs.Receiving

/-!
What a channel carries. In each direction the messages delivered are the first of those accepted, and at
most its capacity of the others are on the way, whatever is tried on its ends and whichever of these are
dropped.
-/
namespace Gateway

namespace Queue

/-- What an operation makes of a queue, with the messages newly accepted and newly delivered. -/
inductive Moves : Queue → List Message → List Message → Queue → Prop
  | stays {q} : Moves q [] [] q
  | accepts {q q' m} (hsender : q.hasSender) (h : q.offer m = .accepted q') : Moves q [m] [] q'
  | delivers {q q' m} (hreceiver : q.hasReceiver) (h : q.take = .got m q') : Moves q [] [m] q'
  | losesSender {q} : Moves q [] [] q.dropSender
  | losesReceiver {q} : Moves q [] [] q.dropReceiver

/-- A queue with room for `room` messages was given those accepted, and has given those delivered. -/
structure Keeps (room : Nat) (accepted delivered : List Message) (q : Queue) : Prop where
  capacity : q.capacity = room
  inOrder : delivered <+: accepted
  length_le : accepted.length ≤ delivered.length + room
  waits : q.hasReceiver → accepted = delivered ++ q.waiting
  lost : q.hasReceiver = false → q.waiting = []

theorem keeps_new (room : Nat) : Keeps room [] [] { capacity := room } where
  capacity := rfl
  inOrder := List.prefix_rfl
  length_le := Nat.zero_le _
  waits _ := rfl
  lost h := nomatch h

section Keeps

variable {room : Nat} {accepted delivered : List Message} {q q' : Queue} {m : Message}

theorem lt_of_offer_eq_accepted (h : q.offer m = .accepted q') : q.waiting.length < q.capacity := by
  unfold offer at h
  split at h
  · contradiction
  · split at h
    · contradiction
    · next hroom => simpa [isFull] using hroom

theorem Keeps.accepts (h : q.Keeps room accepted delivered) (hoffer : q.offer m = .accepted q') :
    q'.Keeps room (accepted ++ [m]) delivered := by
  have hreceiver := hasReceiver_of_offer hoffer
  have hlt := lt_of_offer_eq_accepted hoffer
  obtain rfl := offer_eq_accepted hoffer
  obtain ⟨hcapacity, hfirst, -, hwaits, -⟩ := h
  have haccepted := hwaits hreceiver
  constructor
  · exact hcapacity
  · exact hfirst.trans (List.prefix_append accepted [m])
  · have hlength := congrArg List.length haccepted
    simp only [List.length_append, List.length_singleton] at hlength ⊢
    omega
  · intro _
    rw [haccepted, List.append_assoc]
  · intro hno
    exact absurd (hreceiver.symm.trans hno) Bool.noConfusion

theorem Keeps.delivers (h : q.Keeps room accepted delivered) (hreceiver : q.hasReceiver)
    (htake : q.take = .got m q') : q'.Keeps room accepted (delivered ++ [m]) := by
  obtain ⟨w, hw, rfl⟩ := take_eq_got htake
  obtain ⟨hcapacity, -, hlength, hwaits, -⟩ := h
  have haccepted : accepted = (delivered ++ [m]) ++ w := by
    rw [hwaits hreceiver, hw, List.append_assoc, List.singleton_append]
  constructor
  · exact hcapacity
  · exact ⟨w, haccepted.symm⟩
  · rw [List.length_append]
    omega
  · exact fun _ => haccepted
  · intro hno
    exact absurd (hreceiver.symm.trans hno) Bool.noConfusion

theorem Keeps.moves {ms ns : List Message} (h : q.Keeps room accepted delivered)
    (hmoves : q.Moves ms ns q') : q'.Keeps room (accepted ++ ms) (delivered ++ ns) := by
  cases hmoves with
  | stays => simpa using h
  | accepts _ hoffer => simpa using h.accepts hoffer
  | delivers hreceiver htake => simpa using h.delivers hreceiver htake
  | losesSender =>
    obtain ⟨hcapacity, hfirst, hlength, hwaits, hlost⟩ := h
    rw [List.append_nil, List.append_nil]
    exact ⟨hcapacity, hfirst, hlength, hwaits, hlost⟩
  | losesReceiver =>
    obtain ⟨hcapacity, hfirst, hlength, -, -⟩ := h
    rw [List.append_nil, List.append_nil]
    constructor
    · exact hcapacity
    · exact hfirst
    · exact hlength
    · intro hno
      contradiction
    · intro _
      rfl

/-- While there is a receiver, what waits for it is what was accepted and not delivered. -/
theorem Keeps.drop_eq (h : q.Keeps room accepted delivered) (hreceiver : q.hasReceiver) :
    accepted.drop delivered.length = q.waiting := by
  rw [h.waits hreceiver, List.drop_left]

end Keeps

/-- The receiver of a queue got the messages delivered. Disconnects that were not accepted come after
all that were, and once no more can be. -/
def Serves (room : Nat) (accepted received : List Message) (q : Queue) : Prop :=
  ∃ delivered ends, received = delivered ++ List.replicate ends .disconnect ∧
    (ends ≠ 0 → delivered = accepted ∧ q.hasSender = false) ∧ q.Keeps room accepted delivered

section Serves

variable {room : Nat} {accepted received : List Message} {q q' : Queue}

theorem serves_new (room : Nat) : Serves room [] [] { capacity := room } :=
  ⟨[], 0, rfl, fun h => absurd rfl h, keeps_new room⟩

theorem Serves.moves {ms ns : List Message} (h : q.Serves room accepted received)
    (hmoves : q.Moves ms ns q') : q'.Serves room (accepted ++ ms) (received ++ ns) := by
  obtain ⟨delivered, ends, rfl, hends, hkeeps⟩ := h
  have hkeeps' := hkeeps.moves hmoves
  cases hmoves with
  | stays => exact ⟨delivered, ends, by simp, by simpa using hends, by simpa using hkeeps'⟩
  | accepts hsender hoffer =>
    have hzero : ends = 0 := by
      by_contra hne
      exact absurd (hsender.symm.trans (hends hne).2) Bool.noConfusion
    subst hzero
    exact ⟨delivered, 0, by simp, fun h => absurd rfl h, by simpa using hkeeps'⟩
  | @delivers _ m hreceiver htake =>
    obtain ⟨w, hw, -⟩ := take_eq_got htake
    have hzero : ends = 0 := by
      by_contra hne
      have haccepted := hkeeps.waits hreceiver
      rw [← (hends hne).1, hw] at haccepted
      simp at haccepted
    subst hzero
    exact ⟨delivered ++ [m], 0, by simp, fun h => absurd rfl h, by simpa using hkeeps'⟩
  | losesSender =>
    refine ⟨delivered, ends, by simp, fun hne => ?_, by simpa using hkeeps'⟩
    exact ⟨by simpa using (hends hne).1, rfl⟩
  | losesReceiver =>
    refine ⟨delivered, ends, by simp, fun hne => ?_, by simpa using hkeeps'⟩
    exact ⟨by simpa using (hends hne).1, (hends hne).2⟩

theorem Serves.ended (h : q.Serves room accepted received) (hreceiver : q.hasReceiver)
    (htake : q.take = .ended) : q.Serves room accepted (received ++ [.disconnect]) := by
  obtain ⟨delivered, ends, rfl, -, hkeeps⟩ := h
  obtain ⟨hw, hsender⟩ := take_eq_ended htake
  have haccepted := hkeeps.waits hreceiver
  rw [hw, List.append_nil] at haccepted
  refine ⟨delivered, ends + 1, ?_, fun _ => ⟨haccepted.symm, hsender⟩, hkeeps⟩
  rw [List.append_assoc, List.replicate_succ']

end Serves

end Queue

namespace Channel

/-! ## What an operation does -/

/-- All that can come of an operation. -/
inductive Outcome : Channel → Operation → Reply → Channel → Prop
  | refused {c op reply} (hop : ∀ e, op ≠ .drops e) (h : reply.isRefusal) : Outcome c op reply c
  | hostSent {m q} {c : Channel} (hsender : c.toApp.hasSender) (h : c.toApp.offer m = .accepted q) :
    Outcome c (.hostSends m) .accepted { c with toApp := q }
  | appReceived {m q} {c : Channel} (hreceiver : c.toApp.hasReceiver) (h : c.toApp.take = .got m q) :
    Outcome c .appReceives (.got m) { c with toApp := q }
  | ended {c : Channel} (hreceiver : c.toApp.hasReceiver) (h : c.toApp.take = .ended) :
    Outcome c .appReceives (.got .disconnect) c
  | appSent {m q} {c : Channel} (hsender : c.fromApp.hasSender) (h : c.fromApp.offer m = .accepted q) :
    Outcome c (.appSends m) .accepted { c with fromApp := q }
  | hostReceived {m q} {c : Channel} (hreceiver : c.fromApp.hasReceiver)
    (h : c.fromApp.take = .got m q) : Outcome c .hostReceives (.got m) { c with fromApp := q }
  | dropped {e} {c : Channel} : Outcome c (.drops e) .dropped (c.drop e)

theorem outcome_operate (c : Channel) (op : Operation) :
    Outcome c op (c.operate op).1 (c.operate op).2 := by
  cases op with
  | hostSends m =>
    simp only [operate]
    split
    · exact .refused (by simp) rfl
    · next hsender =>
      cases hoffer : c.toApp.offer m with
      | accepted q => exact .hostSent (by simpa using hsender) hoffer
      | refused => exact .refused (by simp) rfl
      | full => exact .refused (by simp) rfl
  | appReceives =>
    simp only [operate, receive]
    split
    · exact .refused (by simp) rfl
    · next hreceiver =>
      cases htake : c.toApp.take with
      | got m q => exact .appReceived (by simpa using hreceiver) htake
      | ended => exact .ended (by simpa using hreceiver) htake
      | empty => exact .refused (by simp) rfl
  | appSends m =>
    simp only [operate]
    split
    · exact .refused (by simp) rfl
    · next hsender =>
      cases hoffer : c.fromApp.offer m with
      | accepted q => exact .appSent (by simpa using hsender) hoffer
      | refused => exact .refused (by simp) rfl
      | full => exact .refused (by simp) rfl
  | hostReceives =>
    simp only [operate]
    split
    · exact .refused (by simp) rfl
    · next hreceiver =>
      cases htake : c.fromApp.take with
      | got m q => exact .hostReceived (by simpa using hreceiver) htake
      | ended => exact .refused (by simp) rfl
      | empty => exact .refused (by simp) rfl
  | drops e => exact .dropped

/-- An operation that was refused has changed nothing. -/
theorem operate_of_isRefusal {c : Channel} {op : Operation} (h : (c.operate op).1.isRefusal) :
    (c.operate op).2 = c := by
  have houtcome := outcome_operate c op
  generalize (c.operate op).1 = reply at h houtcome
  generalize (c.operate op).2 = c' at houtcome
  cases houtcome with
  | refused => rfl
  | ended => rfl
  | hostSent => contradiction
  | appReceived => contradiction
  | appSent => contradiction
  | hostReceived => contradiction
  | dropped => contradiction

/-- The end is still there. -/
def has (c : Channel) : End → Bool
  | .inbound => c.toApp.hasReceiver
  | .outbound => c.fromApp.hasSender
  | .toApp => c.toApp.hasSender
  | .fromApp => c.fromApp.hasReceiver

theorem has_drop (c : Channel) (e f : End) : (c.drop e).has f = (c.has f && decide (f ≠ e)) := by
  cases e <;> cases f <;> simp [drop, has, Queue.dropSender, Queue.dropReceiver]

theorem Outcome.has_eq {c c' : Channel} {op : Operation} {reply : Reply}
    (h : Outcome c op reply c') (e : End) : c'.has e = (c.has e && decide (op ≠ .drops e)) := by
  cases h with
  | refused hop => simp [hop e]
  | hostSent _ hoffer =>
    obtain rfl := Queue.offer_eq_accepted hoffer
    cases e <;> simp [has]
  | appReceived _ htake =>
    obtain ⟨w, -, rfl⟩ := Queue.take_eq_got htake
    cases e <;> simp [has]
  | ended => simp
  | appSent _ hoffer =>
    obtain rfl := Queue.offer_eq_accepted hoffer
    cases e <;> simp [has]
  | hostReceived _ htake =>
    obtain ⟨w, -, rfl⟩ := Queue.take_eq_got htake
    cases e <;> simp [has]
  | @dropped f =>
    rw [has_drop]
    simp [eq_comm]

theorem has_run (c : Channel) (ops : List Operation) (e : End) :
    (c.run ops).2.has e = (c.has e && decide (.drops e ∉ ops)) := by
  induction ops generalizing c with
  | nil => simp [run]
  | cons op ops ih =>
    rw [run, ih, (outcome_operate c op).has_eq e]
    cases c.has e <;> simp [eq_comm]

/-! ## What a run keeps -/

theorem run_concat (c : Channel) (ops : List Operation) (op : Operation) :
    c.run (ops ++ [op]) = ((c.run ops).1 ++ [(op, ((c.run ops).2.operate op).1)],
      ((c.run ops).2.operate op).2) := by
  induction ops generalizing c with
  | nil => rfl
  | cons first ops ih =>
    simp only [List.cons_append, run, ih]

namespace Outcome

variable {c c' : Channel} {op : Operation} {reply : Reply}

theorem fromApp_moves (h : Outcome c op reply c') :
    c.fromApp.Moves (Log.appSent [(op, reply)]) (Log.hostReceived [(op, reply)]) c'.fromApp := by
  cases h with
  | refused hop hrefusal =>
    cases reply with
    | accepted => contradiction
    | got m => contradiction
    | dropped => contradiction
    | _ => cases op <;> exact .stays
  | hostSent => exact .stays
  | appReceived => exact .stays
  | ended => exact .stays
  | appSent hsender hoffer => exact .accepts hsender hoffer
  | hostReceived hreceiver htake => exact .delivers hreceiver htake
  | @dropped e =>
    cases e with
    | inbound => exact .stays
    | outbound => exact .losesSender
    | toApp => exact .stays
    | fromApp => exact .losesReceiver

theorem toApp_serves {room : Nat} {accepted received : List Message} (h : Outcome c op reply c')
    (hserves : c.toApp.Serves room accepted received) :
    c'.toApp.Serves room (accepted ++ Log.hostSent [(op, reply)])
      (received ++ Log.appReceived [(op, reply)]) := by
  cases h with
  | refused hop hrefusal =>
    cases reply with
    | accepted => contradiction
    | got m => contradiction
    | dropped => contradiction
    | _ => cases op <;> exact hserves.moves .stays
  | hostSent hsender hoffer => exact hserves.moves (.accepts hsender hoffer)
  | appReceived hreceiver htake => exact hserves.moves (.delivers hreceiver htake)
  | ended hreceiver htake =>
    have hended := hserves.ended hreceiver htake
    rwa [← List.append_nil accepted] at hended
  | appSent => exact hserves.moves .stays
  | hostReceived => exact hserves.moves .stays
  | @dropped e =>
    cases e with
    | inbound => exact hserves.moves .losesReceiver
    | outbound => exact hserves.moves .stays
    | toApp => exact hserves.moves .losesSender
    | fromApp => exact hserves.moves .stays

end Outcome

namespace Log

theorem hostSent_append (log log' : Log) :
    Log.hostSent (log ++ log') = log.hostSent ++ log'.hostSent :=
  List.filterMap_append

theorem appReceived_append (log log' : Log) :
    Log.appReceived (log ++ log') = log.appReceived ++ log'.appReceived :=
  List.filterMap_append

theorem appSent_append (log log' : Log) :
    Log.appSent (log ++ log') = log.appSent ++ log'.appSent :=
  List.filterMap_append

theorem hostReceived_append (log log' : Log) :
    Log.hostReceived (log ++ log') = log.hostReceived ++ log'.hostReceived :=
  List.filterMap_append

end Log

/-- The channel has carried what the log says. -/
structure Carried (room : Nat) (log : Log) (c : Channel) : Prop where
  toApp : c.toApp.Serves room log.hostSent log.appReceived
  fromApp : c.fromApp.Keeps room log.appSent log.hostReceived

theorem Carried.step {room : Nat} {log : Log} {c c' : Channel} {op : Operation} {reply : Reply}
    (h : Carried room log c) (houtcome : Outcome c op reply c') :
    Carried room (log ++ [(op, reply)]) c' where
  toApp := by
    have hserves := houtcome.toApp_serves h.toApp
    rwa [← Log.hostSent_append, ← Log.appReceived_append] at hserves
  fromApp := by
    have hkeeps := h.fromApp.moves houtcome.fromApp_moves
    rwa [← Log.appSent_append, ← Log.hostReceived_append] at hkeeps

theorem carried_run (room : Nat) (ops : List Operation) :
    Carried room ((ofCapacity room).run ops).1 ((ofCapacity room).run ops).2 := by
  induction ops using List.reverseRecOn with
  | nil => exact ⟨Queue.serves_new room, Queue.keeps_new room⟩
  | append_singleton ops op ih =>
    rw [run_concat]
    exact ih.step (outcome_operate _ op)

end Channel

end Gateway
