import Gateway.Transcript

/-!
Runs of programs. Events that happened before a run have no influence on it, and a program that
sends a list of messages gets each of them across to a host that reads.
-/
namespace Gateway

/-- The same run with events before its own. -/
def Progress.after {σ : Type} (es : List Event) (p : Progress σ) : Progress σ :=
  { p with events := es ++ p.events }

namespace Performed

def after {σ : Type} (es : List Event) : Performed σ → Performed σ
  | done c host events => done c host (es ++ events)
  | refused c host events => refused c host (es ++ events)
  | full left c host events => full left c host (es ++ events)

theorem after_append {σ : Type} (es fs : List Event) (p : Performed σ) :
    p.after (es ++ fs) = (p.after fs).after es := by
  cases p <;> simp [after]

end Performed

namespace Listened

def after {σ : Type} (es : List Event) : Listened σ → Listened σ
  | left heard m c host events => left heard m c host (es ++ events)
  | refused c host events => refused c host (es ++ events)
  | full acts heard c host events => full acts heard c host (es ++ events)
  | starved heard c host events => starved heard c host (es ++ events)

theorem after_append {σ : Type} (es fs : List Event) (l : Listened σ) :
    l.after (es ++ fs) = (l.after fs).after es := by
  cases l <;> simp [after]

end Listened

section Run

variable {σ : Type} (relieve : σ → Channel → σ × Channel)

theorem performActs_eq_after (acts : List Act) (host : σ) (c : Channel) (es : List Event) :
    performActs relieve host c es acts = (performActs relieve host c [] acts).after es := by
  induction acts generalizing host c es with
  | nil => simp [performActs, Performed.after]
  | cons act acts ih =>
    cases act with
    | tell e =>
      rw [performActs, performActs, ih host c (es ++ [e]), ih host c ([] ++ [e]), List.nil_append,
        Performed.after_append]
    | send m =>
      rw [performActs, performActs]
      split
      · next q host c _ => exact ih host { c with fromApp := q } es
      · simp [Performed.after]
      · simp [Performed.after]

theorem listenOn_eq_after (again : List Message → Message → Option (List Act)) (fuel : Nat)
    (heard : List Message) (host : σ) (c : Channel) (es : List Event) :
    listenOn relieve again fuel heard host c es =
      (listenOn relieve again fuel heard host c []).after es := by
  induction fuel using Nat.strongRecOn generalizing heard host c es with
  | ind fuel ih =>
    rw [listenOn, listenOn]
    split
    · simp [Listened.after]
    · simp [Listened.after]
    · next m c _ _ =>
      split
      · simp [Listened.after]
      · next acts _ =>
        rw [performActs_eq_after relieve acts host c es]
        cases performActs relieve host c [] acts with
        | refused c host events => simp [Performed.after, Listened.after]
        | full left c host events => simp [Performed.after, Listened.after]
        | done c host events =>
          cases fuel with
          | zero => simp [Performed.after, Listened.after]
          | succ n =>
            have hn : n < n + 1 := Nat.lt_succ_self n
            simp only [Performed.after]
            rw [ih n hn (heard ++ [m]) host c (es ++ events),
              ih n hn (heard ++ [m]) host c events, Listened.after_append]

namespace Program

/-- A run goes the same way whatever happened before it. -/
theorem advance_eq_after (p : Program) (host : σ) (c : Channel) (es : List Event) :
    p.advance relieve host c es = (p.advance relieve host c []).after es := by
  induction p generalizing host c es with
  | finish result => simp [advance, Progress.after]
  | panic text => simp [advance, Progress.after]
  | hang => simp [advance, Progress.after]
  | tell e next ih =>
    rw [advance, advance, ih host c (es ++ [e]), ih host c ([] ++ [e])]
    simp [Progress.after]
  | receive next ih =>
    rw [advance, advance]
    split
    · next m c _ => exact ih m host c es
    · simp [Progress.after]
  | send m next ih =>
    rw [advance, advance]
    split
    · next q host c _ => exact ih true host { c with fromApp := q } es
    · next host c _ => exact ih false host c es
    · simp [Progress.after]
  | listen heard again leave ih =>
    rw [advance, advance, listenOn_eq_after relieve again _ heard host c es]
    cases listenOn relieve again c.toApp.waiting.length heard host c [] with
    | left heard m c host events =>
      simp only [Listened.after]
      rw [ih heard m host c (es ++ events), ih heard m host c events]
      simp [Progress.after]
    | refused c host events => simp [Listened.after, Progress.after]
    | full acts heard c host events => simp [Listened.after, Progress.after]
    | starved heard c host events => simp [Listened.after, Progress.after]

theorem advance_tellAll (es : List Event) (p : Program) (host : σ) (c : Channel) :
    (tellAll es p).advance relieve host c [] = (p.advance relieve host c []).after es := by
  induction es generalizing p with
  | nil => simp [tellAll, Progress.after]
  | cons e es ih =>
    show advance relieve (.tell e (tellAll es p)) host c [] = _
    rw [advance, advance_eq_after, ih]
    simp [Progress.after]

end Program

end Run

namespace Program

/-- All that was sent so far: what the host has read and what waits for it. -/
def sentSoFar (host : List Message) (c : Channel) : List Message := (readAll host c).1

/-- The host still receives, and there is room for one message at least. -/
structure Open (c : Channel) : Prop where
  hasReceiver : c.fromApp.hasReceiver
  pos : 0 < c.fromApp.capacity

theorem offerRelieved_readAll {c : Channel} (hc : Open c) (m : Message) (host : List Message) :
    ∃ q host' c', offerRelieved readAll m host c = (.accepted q, host', c') ∧
      Open { c' with fromApp := q } ∧ c'.toApp = c.toApp ∧
      sentSoFar host' { c' with fromApp := q } = sentSoFar host c ++ [m] := by
  obtain ⟨hr, hpos⟩ := hc
  by_cases hfull : c.fromApp.isFull
  · refine ⟨{ c.fromApp with waiting := [m] }, host ++ c.fromApp.waiting, (readAll host c).2, ?_,
      ⟨hr, hpos⟩, rfl, by simp [sentSoFar, readAll]⟩
    have hle : c.fromApp.capacity ≤ c.fromApp.waiting.length := by simpa [Queue.isFull] using hfull
    have hroom : ¬ c.fromApp.capacity = 0 := Nat.pos_iff_ne_zero.1 hpos
    simp [offerRelieved, Queue.offer, hr, readAll, Queue.isFull, hle, hroom]
  · refine ⟨{ c.fromApp with waiting := c.fromApp.waiting ++ [m] }, host, c, ?_, ⟨hr, hpos⟩, rfl,
      by simp [sentSoFar, readAll]⟩
    simp [offerRelieved, Queue.offer, hr, hfull]

/-- A program that sends a list of messages to a host that reads goes on with all of them sent. -/
theorem advance_sendAll (ms : List Message) (next : Program) {c : Channel} (hc : Open c)
    (host : List Message) (es : List Event) :
    ∃ host' c', (sendAll ms next).advance readAll host c es = next.advance readAll host' c' es ∧
      Open c' ∧ c'.toApp = c.toApp ∧ sentSoFar host' c' = sentSoFar host c ++ ms := by
  induction ms generalizing host c with
  | nil => exact ⟨host, c, rfl, hc, rfl, (List.append_nil _).symm⟩
  | cons m ms ih =>
    obtain ⟨q, host₁, c₁, hoffer, hopen, hto, hsent⟩ := offerRelieved_readAll hc m host
    obtain ⟨host', c', hrun, hopen', hto', hsent'⟩ := ih hopen host₁
    refine ⟨host', c', ?_, hopen', hto'.trans hto, ?_⟩
    · show advance readAll (sendThen m (sendAll ms next)) host c es = _
      rw [sendThen, advance, hoffer]
      exact hrun
    · rw [hsent', hsent, List.append_assoc, List.singleton_append]

/-- What a program sends that only sends: everything if the host listens, else nothing. -/
theorem transcript_sendAll (ms : List Message) (result : Except AppError Unit)
    (incoming : List Message) (listening : Bool) :
    ((sendAll ms (.finish result)).transcript incoming listening).sent =
      if listening then ms else [] := by
  cases listening with
  | true =>
    have hopen : Open (settledChannel incoming true) := ⟨rfl, show 0 < transcriptCapacity by decide⟩
    obtain ⟨host, c, hrun, -, -, hsent⟩ := advance_sendAll ms (.finish result) hopen [] []
    have hstart : sentSoFar [] (settledChannel incoming true) = [] := rfl
    rw [hstart, List.nil_append] at hsent
    simp only [transcript, hrun]
    exact hsent
  | false =>
    cases ms with
    | nil => rfl
    | cons m ms => rfl

theorem standing_transcript_sendAll (ms : List Message) (result : Except AppError Unit)
    (incoming : List Message) :
    ((sendAll ms (.finish result)).transcript incoming true).standing = .returned result := by
  have hopen : Open (settledChannel incoming true) := ⟨rfl, show 0 < transcriptCapacity by decide⟩
  obtain ⟨host, c, hrun, -, -, -⟩ := advance_sendAll ms (.finish result) hopen [] []
  rw [transcript, hrun]
  rfl

theorem transcript_tellAll (es : List Event) (p : Program) (incoming : List Message)
    (listening : Bool) :
    ((tellAll es p).transcript incoming listening).sent = (p.transcript incoming listening).sent ∧
      ((tellAll es p).transcript incoming listening).standing =
        (p.transcript incoming listening).standing := by
  simp only [transcript, advance_tellAll, Progress.after, and_self]

end Program
end Gateway
