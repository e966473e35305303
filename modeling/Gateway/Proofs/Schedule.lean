import Gateway.Proofs.Interleaving

/-!
The order of steps that a call takes is one of all orders: the host collects when the application
waits for room, and once it has ended. Since no order makes a difference for a script, what comes of
a call is what comes of any of them.
-/
namespace Gateway

namespace Performed

/-- Where a call stands after the acts of a round, before it goes on with `next`. -/
def underway (next : Program) : Performed Collection → Underway
  | done c k _ => ⟨.waiting next, c, k⟩
  | refused c k _ => ⟨.waiting .refused, c, k⟩
  | full left c k _ => ⟨.waiting (Program.perform left next), c, k⟩

end Performed

namespace Listened

/-- Where a call stands after a listening loop. -/
def underway (again : List Message → Message → Option (List Act))
    (leave : List Message → Message → Program) : Listened Collection → Underway
  | left heard m c k _ => ⟨.waiting (leave heard m), c, k⟩
  | refused c k _ => ⟨.waiting .refused, c, k⟩
  | full acts heard c k _ => ⟨.waiting (Program.perform acts (.listen heard again leave)), c, k⟩
  | starved heard c k _ => ⟨.waiting (.listen heard again leave), c, k⟩

end Listened

def Progress.underway (p : Progress Collection) : Underway := ⟨p.standing, p.channel, p.host⟩

namespace Underway

theorem drain_of_isOver {k : Collection} (h : k.isOver) (c : Channel) :
    k.drain c = (k, { c with fromApp := c.fromApp.dropReceiver }) := by
  rw [Collection.drain, Collection.foldl_add_of_isOver h]
  simp only [if_pos h]
  rfl

theorem drain_of_nil {k : Collection} (h : ¬ k.isOver) {c : Channel}
    (hw : c.fromApp.waiting = []) : k.drain c = (k, c) := by
  obtain ⟨toApp, capacity, waiting, hasSender, hasReceiver⟩ := c
  obtain rfl : waiting = [] := hw
  simp [Collection.drain, h]

/-- The host takes all that waits one by one, and stops if that is a whole response. -/
theorem steps_drain {st : Standing} {c : Channel} {k : Collection}
    (hreceiver : c.fromApp.hasReceiver) :
    Steps ⟨st, c, k⟩ ⟨st, (k.drain c).2, (k.drain c).1⟩ := by
  induction hw : c.fromApp.waiting generalizing c k with
  | nil =>
    by_cases hover : k.isOver
    · rw [drain_of_isOver hover]
      exact .single (.host (.stop hreceiver (.inl hover)))
    · rw [drain_of_nil hover hw]
  | cons m w ih =>
    by_cases hover : k.isOver
    · rw [drain_of_isOver hover]
      exact .single (.host (.stop hreceiver (.inl hover)))
    · have htake : c.fromApp.take = .got m { c.fromApp with waiting := w } := by
        simp only [Queue.take, hw]
      have hdrain : k.drain c =
          (k.add m).drain { c with fromApp := { c.fromApp with waiting := w } } := by
        simp only [Collection.drain, hw, List.foldl_cons]
      rw [hdrain]
      exact .head (.host (.take hreceiver hover htake)) (ih hreceiver rfl)

theorem steps_offerRelieved {st : Standing} {m : Message} {c c' : Channel} {k k' : Collection}
    {offer : Offer} (h : offerRelieved Collection.drain m k c = (offer, k', c')) :
    Steps ⟨st, c, k⟩ ⟨st, c', k'⟩ ∧ c'.fromApp.offer m = offer := by
  unfold offerRelieved at h
  split at h
  · next hfull =>
    obtain ⟨rfl, rfl, rfl⟩ := by simpa using h
    exact ⟨steps_drain (Queue.offer_eq_full hfull).1, rfl⟩
  · obtain ⟨rfl, rfl, rfl⟩ := by simpa using h
    exact ⟨.refl, rfl⟩

theorem steps_performActs (acts : List Act) (next : Program) (c : Channel) (k : Collection)
    (es : List Event) :
    Steps ⟨.waiting (Program.perform acts next), c, k⟩
      ((performActs Collection.drain k c es acts).underway next) := by
  induction acts generalizing c k es with
  | nil => exact .refl
  | cons act acts ih =>
    cases act with
    | tell e => exact .head (.app .tell) (ih c k (es ++ [e]))
    | send m =>
      rw [performActs]
      split
      · next q k' c' hoffer =>
        obtain ⟨hsteps, hoffer'⟩ := steps_offerRelieved hoffer
        exact hsteps.trans (.head (.app (.sent hoffer')) (ih _ k' es))
      · next k' c' hoffer =>
        obtain ⟨hsteps, hoffer'⟩ := steps_offerRelieved hoffer
        exact hsteps.trans (.single (.app (.refused hoffer')))
      · next k' c' hoffer => exact (steps_offerRelieved hoffer).1

theorem steps_listenOn (again : List Message → Message → Option (List Act))
    (leave : List Message → Message → Program) (fuel : Nat) (heard : List Message) (c : Channel)
    (k : Collection) (es : List Event) :
    Steps ⟨.waiting (.listen heard again leave), c, k⟩
      ((listenOn Collection.drain again fuel heard k c es).underway again leave) := by
  induction fuel using Nat.strongRecOn generalizing heard c k es with
  | ind fuel ih =>
    cases hreceive : c.receive with
    | none =>
      rw [listenOn, hreceive]
      exact .refl
    | some r =>
      obtain ⟨m, c'⟩ := r
      rw [listenOn_eq again fuel heard k hreceive es]
      refine .head (.app (.hear hreceive)) ?_
      unfold afterHearing
      cases Program.round again heard m with
      | none => exact .refl
      | some acts =>
        have hacts := steps_performActs acts (.listen (heard ++ [m]) again leave) c' k es
        dsimp only
        generalize performActs Collection.drain k c' es acts = performed at hacts ⊢
        cases performed with
        | refused c'' k'' es' => exact hacts
        | full left c'' k'' es' => exact hacts
        | done c'' k'' es' =>
          cases fuel with
          | zero => exact hacts
          | succ n => exact hacts.trans (ih n (Nat.lt_succ_self n) (heard ++ [m]) c'' k'' es')

/-- A run of a program is an order of steps. -/
theorem steps_advance (p : Program) (c : Channel) (k : Collection) (es : List Event) :
    Steps ⟨.waiting p, c, k⟩ (p.advance Collection.drain k c es).underway := by
  induction p generalizing c k es with
  | finish result => exact .single (.app .finish)
  | panic text => exact .single (.app .panic)
  | hang => exact .refl
  | tell e next ih => exact .head (.app .tell) (ih c k (es ++ [e]))
  | receive next ih =>
    rw [Program.advance]
    split
    · next m c' hreceive => exact .head (.app (.receive hreceive)) (ih m c' k es)
    · exact .refl
  | send m next ih =>
    rw [Program.advance]
    split
    · next q k' c' hoffer =>
      obtain ⟨hsteps, hoffer'⟩ := steps_offerRelieved hoffer
      exact hsteps.trans (.head (.app (.sent hoffer')) (ih true _ k' es))
    · next k' c' hoffer =>
      obtain ⟨hsteps, hoffer'⟩ := steps_offerRelieved hoffer
      exact hsteps.trans (.head (.app (.refused hoffer')) (ih false c' k' es))
    · next k' c' hoffer => exact (steps_offerRelieved hoffer).1
  | listen heard again leave ih =>
    have hlisten := steps_listenOn again leave c.toApp.waiting.length heard c k es
    rw [Program.advance]
    generalize listenOn Collection.drain again c.toApp.waiting.length heard k c es = listened
      at hlisten ⊢
    cases listened with
    | left heard' m c' k' es' => exact hlisten.trans (ih heard' m c' k' es')
    | refused c' k' es' => exact hlisten.tail (.app .finish)
    | full acts heard' c' k' es' => exact hlisten
    | starved heard' c' k' es' => exact hlisten

theorem standing_of_returned {result : Except AppError Unit} {s t : Underway}
    (hs : s.standing = .returned result) (hsteps : Steps s t) : t.standing = .returned result := by
  induction hsteps with
  | refl => exact hs
  | tail _ hstep ih =>
    cases hstep with
    | host => exact ih
    | app happ =>
      obtain rfl := ih
      nomatch happ

end Underway

/-- The response that messages make up, if they make up one. -/
def Collection.response? (ms : List Message) : Option Produced :=
  (ofMessages ms).toOption.filter (·.status.isSome)

namespace CallEnd

/-- The call ended with the response, or with an error if there is none. -/
def Gives (response : Option Produced) : CallEnd → Prop
  | produced p _ => response = some p
  | failed _ _ => response = none
  | panicked _ _ => False
  | pending _ => False

theorem gives_ofReturned (result : Except AppError Unit) (ms : List Message)
    (events : List Event) :
    (ofReturned result (Collection.ofMessages ms) events).Gives (Collection.response? ms) := by
  unfold Collection.response?
  cases Collection.ofMessages ms with
  | error e => cases result <;> rfl
  | ok p =>
    cases hstatus : p.status.isSome <;> cases result <;>
      simp [ofReturned, Gives, hstatus, Except.toOption, Option.filter]

/-- The call of a script is one of the orders of steps. -/
theorem exists_steps_async {p : Program} (hp : p.IsScript) (scope : Scope) (body : Bytes) :
    ∃ s result events, Underway.Steps (.start capacity p body) s ∧ s.Finished result ∧
      async (fun _ => p) scope body = .ofReturned result s.collected.result events := by
  obtain ⟨result, events, hstanding, hcall⟩ := async_of_isScript (fun _ => p) scope hp body
  have hstart := Underway.consistent_start (show 0 < capacity by decide) hp body
  have hrun := Underway.steps_advance p (channel body) .empty []
  obtain ⟨s, result', hsteps, hend⟩ := (hstart.steps hrun).exists_finished
  -- the application has returned already, so only the host goes on
  have hresult := (Underway.standing_of_returned hstanding hsteps).symm.trans hend.standing
  obtain rfl : result = result' := Standing.returned.inj hresult
  refine ⟨s, result, events, hrun.trans hsteps, hend, ?_⟩
  rw [hcall, ((hstart.steps hrun).steps hsteps).collected_eq hend]
  rfl

/-- The response to a script does not depend on the order in which the application and the host take their
steps, nor on the room in the channel. No order gets stuck or goes on for ever. -/
theorem response_unique :
    (∀ (site : Site) (scope : Scope), (site.asyncApp scope).IsScript) ∧
    ∀ {p : Program}, p.IsScript → ∀ {room : Nat}, 0 < room → ∀ body : Bytes,
      let start := Underway.start room p body
      let response := Collection.response? (p.transcript [.request body false] true).sent
      (∀ s, Underway.Steps start s → (∃ result, s.Finished result) ∨ ∃ t, Underway.Step s t) ∧
      (∀ run : Nat → Underway, run 0 = start → ¬ ∀ n, Underway.Step (run n) (run (n + 1))) ∧
      (∀ s result, Underway.Steps start s → s.Finished result →
        ∀ events, (ofReturned result s.collected.result events).Gives response) ∧
      ∀ scope, ∃ s result events, Underway.Steps (.start capacity p body) s ∧ s.Finished result ∧
        async (fun _ => p) scope body = .ofReturned result s.collected.result events ∧
        (async (fun _ => p) scope body).Gives response := by
  refine ⟨Site.isScript_asyncApp, fun {p} hp {room} hroom body => ?_⟩
  intro start response
  have hgives : ∀ {room' s result}, 0 < room' → Underway.Steps (.start room' p body) s →
      s.Finished result → ∀ events,
        (ofReturned result s.collected.result events).Gives response := by
    intro room' s result hroom' hsteps hend events
    have hconsistent := (Underway.consistent_start hroom' hp body).steps hsteps
    have hresponse : response = Collection.response? (p.sends [.request body false]) :=
      congrArg Collection.response? (hp.transcript_sent _)
    rw [hconsistent.collected_eq hend, hresponse]
    exact gives_ofReturned result _ events
  refine ⟨fun s hsteps => ?_, fun run hrun => ?_, fun s result => hgives hroom, fun scope => ?_⟩
  · exact ((Underway.consistent_start hroom hp body).steps hsteps).progress
  · exact (Underway.ends start).not_forever run hrun
  · obtain ⟨s, result, events, hsteps, hend, hcall⟩ := exists_steps_async hp scope body
    refine ⟨s, result, events, hsteps, hend, hcall, ?_⟩
    rw [hcall]
    exact hgives (by decide) hsteps hend events

/-- With room for one message, an application that goes on after its response is complete may or may
not get there, but the response is the same. -/
theorem response_unique_late :
    let p := AsyncStep.program
      [.receive, .send (.responseStart 200 []) 1, .send (.responseBody [104, 105] false) 1,
        .send (.responseBody [33] true) 2, .raise "late"]
    p.IsScript ∧ 0 < 1 ∧ ∀ s result, Underway.Steps (.start 1 p []) s → s.Finished result →
      ∀ events, (ofReturned result s.collected.result events).Gives
        (some { status := some 200, chunks := [[104, 105]] }) := by
  intro p
  have hp : p.IsScript := AsyncStep.isScript_program (by decide)
  have hresponse : Collection.response? (p.transcript [.request [] false] true).sent =
      some { status := some 200, chunks := [[104, 105]] } := by decide
  have hroom : 0 < 1 := by decide
  exact ⟨hp, hroom, hresponse ▸ (response_unique.2 hp hroom []).2.2.1⟩

end CallEnd

end Gateway
