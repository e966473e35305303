import Gateway.Program
import Gateway.StartupError

/-!
The lifespan connection: an asynchronous application is told when the host starts and when it stops,
and answers both. Host and application take turns, and each goes on until it has to wait.
-/
namespace Gateway

/-- A connection whose application has answered the startup. -/
structure Lifespan where
  standing : Standing
  channel : Channel

/-- What came of a startup. -/
inductive Startup where
  | supported (l : Lifespan)
  /-- The application is served without a lifespan. -/
  | unsupported
  | failed (e : StartupError)
  /-- The application neither answers nor ends. -/
  | stuck

namespace Lifespan

/-- Messages on the way, each way, at most. -/
def capacity : Nat := 4

/-- Seconds the host waits for an answer to the shutdown, and then for the end of the call. -/
def patience : Nat := 5

/-- Lets the application go on. The host reads nothing meanwhile. -/
def run (s : Standing) (c : Channel) : Progress Unit :=
  match s with
  | .waiting p => p.advance (fun host c => (host, c)) () c []
  | s => ⟨s, c, (), []⟩

def startupChannel : Channel :=
  { toApp := { capacity, waiting := [.startup] }, fromApp := { capacity } }

/-- What a call that ended without an answer has to say. -/
def unanswered (task : Nat) : Standing → Startup × List Notice
  | .returned (.ok _) => (.unsupported, [.lifespanSilent])
  | .returned (.error e) => (.unsupported, [.lifespanUnsupported e])
  | .panicked text => (.unsupported, [.lifespanPanicked task text])
  | .waiting _ => (.stuck, [])

/-- Starts an application as the task of a number and waits for its first message. -/
def startup (app : AsyncApp) (task : Nat) : Startup × List Event :=
  let p := run (.waiting (app .lifespan)) startupChannel
  let (outcome, notices) : Startup × List Notice :=
    match p.channel.fromApp.take with
    | .got .startupComplete q =>
      (.supported ⟨p.standing, { p.channel with fromApp := q }⟩, [.lifespanStarted])
    | .got (.startupFailed reason) _ => (.failed (.lifespanFailed reason), [])
    | .got m _ => (.unsupported, [.unexpectedAtStartup m.kind])
    | .ended | .empty => unanswered task p.standing
  (outcome, p.events ++ notices.map .logged)

/-- The end of a lifespan: the seconds it took, and what happened. -/
structure Shutdown where
  waited : Nat
  events : List Event

/-- The notice of what came for an answer to the shutdown. -/
def shutdownNotice : Take → Notice
  | .got .shutdownComplete _ => .lifespanStopped
  | .got (.shutdownFailed reason) _ => .lifespanStopFailed reason
  | .got m _ => .unexpectedAtShutdown m.kind
  | .ended => .closedDuringShutdown
  | .empty => .shutdownTimedOut

/-- Waits for the next message: one that is there already is taken before the application goes on. -/
def awaitMessage (l : Lifespan) : Take × Progress Unit :=
  match l.channel.fromApp.take with
  | .got m q => (.got m q, ⟨l.standing, { l.channel with fromApp := q }, (), []⟩)
  | _ =>
    let p := run l.standing l.channel
    match p.channel.fromApp.take with
    | .got m q => (.got m q, { p with channel := { p.channel with fromApp := q } })
    | take => (take, p)

/-- Waits for the end of the call, for which nothing more is sent. -/
def awaitEnd (p : Progress Unit) : Shutdown :=
  let q := run p.standing { p.channel with toApp := p.channel.toApp.dropSender }
  match q.standing with
  | .waiting _ => ⟨patience, q.events⟩
  | _ => ⟨0, q.events⟩

/-- Tells the application to stop, waits for its answer and then for its end. Each wait is bounded. -/
def shutdown (l : Lifespan) : Shutdown :=
  match l.channel.toApp.offer .shutdown with
  | .accepted q =>
    let (take, p) := awaitMessage { l with channel := { l.channel with toApp := q } }
    let last := awaitEnd p
    let waited := match take with
      | .empty => patience
      | _ => 0
    ⟨waited + last.waited, p.events ++ .logged (shutdownNotice take) :: last.events⟩
  | .refused | .full => ⟨0, [.logged .closedBeforeShutdown]⟩

end Lifespan
end Gateway
