import Gateway.SyncApp
import Gateway.Program

/-!
Scripted applications: fixed lists of steps that are run at each call, with notes on what the
application sees.
-/
namespace Gateway

/-- A step of a synchronous script. -/
inductive SyncStep where
  | start (status : Nat) (headers : List Field)
  | write (chunk : Bytes)
  | body (chunks : List Bytes)
  | raise (text : String)
  | panic (text : String)
  | read (n : Option Nat)
  | variables (keys : List String)
  | headers (names : List String)
  | set (key value : String)
  deriving Repr, DecidableEq

namespace SyncStep

/-- Runs steps from a call under way, with the chunks collected so far. -/
def run (call : SyncRun) (chunks : List Bytes) : List SyncStep → SyncRun
  | [] => { call with result := .body { chunks } }
  | .start status fields :: rest =>
    run { call with sink := call.sink ++ [.start status fields] } chunks rest
  | .write chunk :: rest => run { call with sink := call.sink ++ [.write chunk] } chunks rest
  | .body more :: rest => run call (chunks ++ more) rest
  | .raise text :: _ => { call with result := .failed (.raised text) }
  | .panic text :: _ => { call with result := .panicked text }
  | .read n :: rest =>
    let (bytes, request) := call.request.read n
    run { call with request, events := call.events ++ [.seen (.read bytes)] } chunks rest
  | .variables keys :: rest =>
    let notes := keys.map fun k => .seen (.variable k (call.request.get? k))
    run { call with events := call.events ++ notes } chunks rest
  | .headers names :: rest =>
    let notes := names.map fun n => .seen (.header n (call.request.header? n))
    run { call with events := call.events ++ notes } chunks rest
  | .set key value :: rest => run { call with request := call.request.set key value } chunks rest

/-- The application that runs `steps`. -/
def app (steps : List SyncStep) : SyncApp := fun r =>
  run { request := r, result := .body { chunks := [] }
        events := [.seen (.called r.method r.path r.root)] } [] steps

end SyncStep

/-- A step of an asynchronous script. -/
inductive AsyncStep where
  | receive
  /-- Receives until the request body is complete. -/
  | drain
  | send (m : Message) (times : Nat)
  | trySend (m : Message)
  | raise (text : String)
  | panic (text : String)
  | hang
  deriving Repr, DecidableEq

namespace AsyncStep

def program : List AsyncStep → Program
  | [] => .tell (.seen .done) .done
  | .receive :: rest => .receive fun m => .tell (.seen (.received m)) (program rest)
  | .drain :: rest =>
    .listen [] (fun _ m => if m.isPartialRequest then some [.tell (.seen (.received m))] else none)
      fun _ m => .tell (.seen (.received m)) (program rest)
  | .send m times :: rest => .sendAll (List.replicate times m) (program rest)
  | .trySend m :: rest =>
    .send m fun accepted =>
      .tell (.seen (.sent (if accepted then none else some .channelClosed))) (program rest)
  | .raise text :: _ => .finish (.error (.raised text))
  | .panic text :: _ => .panic text
  | .hang :: _ => .hang

/-- The application that runs the steps given for the kind of its connection. -/
def app (steps : ScopeKind → List AsyncStep) : AsyncApp := fun scope =>
  .tell (.seen (.scope scope)) (program (steps scope.kind))

end AsyncStep
end Gateway
