import Gateway.Channel
import Gateway.Event

/-!
Asynchronous applications as programs: trees of the steps they take with their channel. A program
has no infinite run of its own, since `listen`, its only loop, waits for a message in each round and
is left at the first `http.disconnect`.
-/
namespace Gateway

/-- What a round of a listening loop does before it listens again. -/
inductive Act where
  | tell (e : Event)
  | send (m : Message)
  deriving Repr, DecidableEq

/-- What an asynchronous application does next. -/
inductive Program where
  | finish (result : Except AppError Unit)
  | panic (text : String)
  /-- Waits for something that never happens. -/
  | hang
  | tell (e : Event) (next : Program)
  | receive (next : Message → Program)
  /-- Goes on with whether the message was accepted. -/
  | send (m : Message) (next : Bool → Program)
  /-- Goes on receiving as long as `again` answers the messages heard before and the new one with
  acts; then `leave` follows. A refused message ends the call. -/
  | listen (heard : List Message) (again : List Message → Message → Option (List Act))
      (leave : List Message → Message → Program)

/-- An asynchronous application: what it does for a connection. -/
abbrev AsyncApp := Scope → Program

namespace Program

def done : Program := .finish (.ok ())

/-- The end of a call whose message was refused. -/
def refused : Program := .finish (.error .channelClosed)

/-- Sends `m`; if it is refused the call ends. -/
def sendThen (m : Message) (next : Program) : Program :=
  .send m fun accepted => if accepted then next else refused

/-- Sends each of `ms` in turn; if one is refused the call ends. -/
def sendAll (ms : List Message) (next : Program) : Program := ms.foldr sendThen next

/-- Does each of the acts in turn; if a message is refused the call ends. -/
def perform (acts : List Act) (next : Program) : Program :=
  acts.foldr (fun
    | .tell e, p => .tell e p
    | .send m, p => sendThen m p) next

def tellAll (es : List Event) (next : Program) : Program := es.foldr .tell next

end Program

/-- Where a call stands. -/
inductive Standing where
  /-- Waiting to go on with a program. -/
  | waiting (rest : Program)
  | returned (result : Except AppError Unit)
  | panicked (text : String)

/-- A call that has run as far as it can: where it stands, its channel, what the host has made of
the messages so far, and what happened. -/
structure Progress (σ : Type) where
  standing : Standing
  channel : Channel
  host : σ
  events : List Event

/-- What became of the acts of one round. -/
inductive Performed (σ : Type) where
  | done (c : Channel) (host : σ) (events : List Event)
  | refused (c : Channel) (host : σ) (events : List Event)
  /-- There is no room for the first of the acts left. -/
  | full (left : List Act) (c : Channel) (host : σ) (events : List Event)

/-- What came of a listening loop. -/
inductive Listened (σ : Type) where
  | left (heard : List Message) (m : Message) (c : Channel) (host : σ) (events : List Event)
  | refused (c : Channel) (host : σ) (events : List Event)
  | full (acts : List Act) (heard : List Message) (c : Channel) (host : σ) (events : List Event)
  | starved (heard : List Message) (c : Channel) (host : σ) (events : List Event)

section Run

variable {σ : Type} (relieve : σ → Channel → σ × Channel)

/-- Offers a message. When the queue is full the host is asked to relieve it, once. -/
def offerRelieved (m : Message) (host : σ) (c : Channel) : Offer × σ × Channel :=
  match c.fromApp.offer m with
  | .full =>
    let (host, c) := relieve host c
    (c.fromApp.offer m, host, c)
  | offer => (offer, host, c)

def performActs (host : σ) (c : Channel) (events : List Event) : List Act → Performed σ
  | [] => .done c host events
  | .tell e :: acts => performActs host c (events ++ [e]) acts
  | .send m :: acts =>
    match offerRelieved relieve m host c with
    | (.accepted q, host, c) => performActs host { c with fromApp := q } events acts
    | (.refused, host, c) => .refused c host events
    | (.full, host, c) => .full (.send m :: acts) c host events

/-- Runs a listening loop over the messages that wait, of which there are at most `fuel`. -/
def listenOn (again : List Message → Message → Option (List Act)) :
    Nat → List Message → σ → Channel → List Event → Listened σ
  | fuel, heard, host, c, events =>
    match c.receive with
    | none => .starved heard c host events
    | some (.disconnect, c) => .left heard .disconnect c host events
    | some (m, c) =>
      match again heard m with
      | none => .left heard m c host events
      | some acts =>
        match performActs relieve host c events acts with
        | .refused c host events => .refused c host events
        | .full acts c host events => .full acts (heard ++ [m]) c host events
        | .done c host events =>
          match fuel with
          | 0 => .starved (heard ++ [m]) c host events
          | n + 1 => listenOn again n (heard ++ [m]) host c events

/-- Runs a program until it ends or has to wait. `relieve` is what the host does when the program
waits for room. -/
def Program.advance : Program → σ → Channel → List Event → Progress σ
  | .finish result, host, c, events => ⟨.returned result, c.dropApp, host, events⟩
  | .panic text, host, c, events => ⟨.panicked text, c.dropApp, host, events⟩
  | .hang, host, c, events => ⟨.waiting .hang, c, host, events⟩
  | .tell e next, host, c, events => next.advance host c (events ++ [e])
  | .receive next, host, c, events =>
    match c.receive with
    | some (m, c) => (next m).advance host c events
    | none => ⟨.waiting (.receive next), c, host, events⟩
  | .send m next, host, c, events =>
    match offerRelieved relieve m host c with
    | (.accepted q, host, c) => (next true).advance host { c with fromApp := q } events
    | (.refused, host, c) => (next false).advance host c events
    | (.full, host, c) => ⟨.waiting (.send m next), c, host, events⟩
  | .listen heard again leave, host, c, events =>
    match listenOn relieve again c.toApp.waiting.length heard host c events with
    | .left heard m c host events => (leave heard m).advance host c events
    | .refused c host events => ⟨.returned (.error .channelClosed), c.dropApp, host, events⟩
    | .full acts heard c host events =>
      ⟨.waiting (Program.perform acts (.listen heard again leave)), c, host, events⟩
    | .starved heard c host events => ⟨.waiting (.listen heard again leave), c, host, events⟩

end Run
end Gateway
