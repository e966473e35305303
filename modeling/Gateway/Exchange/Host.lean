import Gateway.AccessRecord
import Gateway.Application
import Gateway.Exchange.Arrival
import Gateway.Exchange.Produced

/-!
The host: it reads a request body up to a limit, runs the application and turns what it produced into
a response. Every failure on the way becomes a fixed response.
-/
namespace Gateway

/-- An application that is hosted, and how. -/
structure Host where
  app : Application
  maxBody : Nat
  serverName : String
  /-- The format of access records, if they are written. -/
  accessFormat : Option String := none

/-- Why a request body was refused. -/
inductive BodyError where
  | tooLarge
  | unreadable (reason : String)
  deriving Repr, DecidableEq

/-- Reads a body of at most `limit` bytes. -/
def readBody (limit : Nat) : List Http.Frame → Except BodyError Bytes
  | [] => .ok []
  | .fault reason :: _ => .error (.unreadable reason)
  | .data bytes :: rest =>
    if limit < bytes.length then .error .tooLarge
    else (readBody (limit - bytes.length) rest).map (bytes ++ ·)

/-- How a call of an application ended, and what happened on the way. -/
inductive CallEnd where
  | produced (p : Produced) (events : List Event)
  | failed (e : AppError) (events : List Event)
  /-- The application panicked in the task of the host, which ends with it. -/
  | panicked (text : String) (events : List Event)
  /-- The application never ends. -/
  | pending (events : List Event)

namespace CallEnd

def sync (app : SyncApp) (task : Nat) (r : CgiRequest) : CallEnd :=
  let run := app r
  match Produced.ofRun task run with
  | .ok p => .produced p run.events
  | .error e => .failed e run.events

/-- Messages on the way, each way, at most. -/
def capacity : Nat := 16

/-- The channel of a call: the whole body waits, and the host sends nothing after it. -/
def channel (body : Bytes) : Channel :=
  { toApp := { capacity, waiting := [.request body false], hasSender := false }
    fromApp := { capacity } }

/-- How a call that returned has ended. A response that was started counts, even if the call failed. -/
def ofReturned (result : Except AppError Unit) (collected : Except AppError Produced)
    (events : List Event) : CallEnd :=
  match collected, result with
  | .ok p, result =>
    if p.status.isSome then
      match result with
      | .ok _ => .produced p events
      | .error e => .produced p (events ++ [.logged (.failedAfterResponding e)])
    else
      match result with
      | .ok _ => .failed (.raised "application returned without sending a response") events
      | .error e => .failed e events
  | .error _, .error e => .failed e events
  | .error e, .ok _ => .failed e events

/-- An asynchronous call. The host reads when the application waits for room, and once it has
ended. -/
def async (app : AsyncApp) (scope : Scope) (body : Bytes) : CallEnd :=
  let p := (app scope).advance Collection.drain .empty (channel body) []
  match p.standing with
  | .waiting _ => .pending p.events
  | .panicked text => .panicked text p.events
  | .returned result => ofReturned result (p.host.drain p.channel).1.result p.events

end CallEnd

/-- What became of a request. -/
inductive Exchange where
  | answered (response : Http.Response) (handledBy : Handler) (events : List Event)
  | panicked (text : String) (events : List Event)
  | pending (events : List Event)

namespace Host

/-- The call of the application for a request with a body. -/
def call (h : Host) (a : Arrival) (r : Http.Request) (body : Bytes) : CallEnd :=
  match h.app with
  | .sync app => .sync app a.task (r.cgi a body)
  | .async app => .async app (r.scope a) body

/-- The response to what an application produced. One that was never started is a 500 with the body
there is. -/
def respond (h : Host) (p : Produced) : Http.Response :=
  .build (p.status.getD 500) p.headers p.body h.serverName

def respondNotices (h : Host) (p : Produced) : List Notice :=
  Http.Response.buildNotices (p.status.getD 500) p.headers p.body h.serverName

/-- The exchange of a request, before it is recorded. -/
def exchange (h : Host) (a : Arrival) (r : Http.Request) : Exchange :=
  match readBody h.maxBody r.body with
  | .error .tooLarge => .answered .tooLarge .server [.logged (.bodyTooLarge h.maxBody)]
  | .error (.unreadable reason) =>
    .answered .serverError .server [.logged (.bodyUnreadable reason)]
  | .ok body =>
    match h.call a r body with
    | .produced p events =>
      .answered (h.respond p) .app (events ++ (h.respondNotices p).map .logged)
    | .failed e events =>
      .answered .serverError .server (events ++ [.logged (.requestFailed r.method r.path e)])
    | .panicked text events => .panicked text events
    | .pending events => .pending events

def record (a : Arrival) (r : Http.Request) (response : Http.Response) (handledBy : Handler) :
    AccessRecord :=
  { remoteAddr := a.peer.ip.text, time := a.time, method := r.method, path := r.rawPath
    query := if r.query.isEmpty then none else some r.query
    httpVersion := r.version.label, status := response.status
    bodyBytes := response.body.length, referer := r.field? "referer"
    userAgent := r.field? "user-agent", handledBy, microseconds := a.microseconds }

/-- The exchange of a request. If records are written, an answer is followed by its own. -/
def answer (h : Host) (a : Arrival) (r : Http.Request) : Exchange :=
  match h.exchange a r, h.accessFormat with
  | .answered response handledBy events, some format =>
    let line := (record a r response handledBy).line format
    .answered response handledBy (events ++ [.logged (.request line)])
  | e, _ => e

end Host
end Gateway
