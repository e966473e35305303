import Gateway.Json
import Gateway.Program
import Gateway.Registry
import Gateway.SyncApp

/-!
The built-in entrypoint modules. Their applications answer with a JSON object that tells what they
saw of the request.
-/
namespace Gateway

abbrev Servable := Entrypoint SyncApp AsyncApp

namespace Builtin

def jsonType : String := "application/json"

def echoObject (convention method path root query : String) (bodyBytes : Nat) : Json.Object :=
  [("body_bytes".toList, .number bodyBytes), ("convention".toList, .string convention),
   ("method".toList, .string method), ("path".toList, .string path),
   ("query".toList, .string query), ("root_path".toList, .string root)]

def echoBody (convention method path root query : String) (bodyBytes : Nat) : Bytes :=
  Text.encode (Json.write (echoObject convention method path root query bodyBytes))

def syncEcho : SyncApp := fun r =>
  let (input, r) := r.read none
  let payload := echoBody "sync" r.method ((r.get? CgiRequest.pathInfo).getD "") r.root
    ((r.get? CgiRequest.queryString).getD "") input.length
  { sink := [.start 200
      [("Content-Type", jsonType), ("Content-Length", toString payload.length)]]
    request := r, result := .body { chunks := [payload] } }

def bodyBytes (ms : List Message) : Nat :=
  (ms.flatMap fun
    | .request body _ => body
    | _ => []).length

def echoRequest (scope : Scope) : Program :=
  .listen [] (fun _ m => if m.isPartialRequest then some [] else none) fun heard last =>
    let payload := echoBody "async" scope.method scope.path scope.rootPath (Text.decoded scope.query)
      (bodyBytes (heard ++ [last]))
    .sendAll
      [.responseStart 200
        [("content-type", jsonType), ("content-length", toString payload.length)],
       .responseBody payload false] .done

/-- Answers the lifespan handshake, each startup until a shutdown. -/
def answerLifespan : Program :=
  .listen [] (fun _ m => if m = .startup then some [.send .startupComplete] else none) fun _ last =>
    if last = .shutdown then .sendAll [.shutdownComplete] .done else .done

/-- Echoes requests and takes part in the lifespan handshake. -/
def asyncEcho : AsyncApp := fun scope =>
  match scope.kind with
  | .lifespan => answerLifespan
  | .http => echoRequest scope
  | .other kind => .finish (.error (.raised ("unsupported scope type '" ++ kind ++ "'")))

def failingStartup : AsyncApp := fun scope =>
  if scope.kind = .lifespan then
    .receive fun m =>
      if m = .startup then .sendAll [.startupFailed "database unavailable"] .done else .done
  else asyncEcho scope

def silent : SyncApp := fun r => { request := r, result := .body { chunks := [] } }

def registry : Registry Servable :=
  [("main", [("app", .function syncEcho)]),
   ("hello_sync", [("application", .function syncEcho)]),
   ("hello_async", [("app", .withMethod (.coroutine asyncEcho))]),
   ("framework", [("app", .framework "framework:app" asyncEcho)]),
   ("lifespan_fail", [("app", .coroutine failingStartup)]),
   ("broken", [("app", .function silent (.ofNames ["request"]))])]

end Builtin
end Gateway
