import Gateway.Http.Response
import Gateway.Program
import Gateway.SyncApp

/-!
What an application produces for one request. From a synchronous application it is put together from
the sink and the returned body, from an asynchronous one it is collected message by message.
-/
namespace Gateway

/-- A response under way. The chunks of the body stand with the last one first. -/
structure Produced where
  status : Option Nat := none
  headers : List Field := []
  chunks : List Bytes := []
  deriving Repr, DecidableEq

namespace Produced

def body (p : Produced) : Bytes := p.chunks.reverse.flatten

def start (p : Produced) (status : Nat) (headers : List Field) : Produced :=
  { p with status := some status, headers }

def write (p : Produced) (chunk : Bytes) : Produced := { p with chunks := chunk :: p.chunks }

/-- What one event of the sink adds. A later start takes the place of an earlier one. -/
def sink (p : Produced) : SinkEvent → Produced
  | .start status headers => p.start status headers
  | .write chunk => p.write chunk

/-- What the host says of a call that panicked on its thread. -/
def threadFailed (task : Nat) (text : String) : AppError :=
  .raised ("application thread failed: " ++ panicText task text)

/-- What a synchronous call produced: the written chunks, then those of the returned body. -/
def ofRun (task : Nat) (run : SyncRun) : Except AppError Produced :=
  match run.result with
  | .failed e => .error e
  | .panicked text => .error (threadFailed task text)
  | .body b =>
    match b.fault with
    | some text => .error (threadFailed task text)
    | none => .ok (b.chunks.foldl write (run.sink.foldl sink {}))

end Produced

/-- The messages of a response as they are collected. -/
inductive Collection where
  | going (p : Produced)
  /-- The final part of the body has come. -/
  | complete (p : Produced)
  | failed (e : AppError)
  deriving Repr, DecidableEq

namespace Collection

def empty : Collection := .going {}

def isOver : Collection → Bool
  | going _ => false
  | _ => true

/-- The kind of message that has to come next. -/
def expected (p : Produced) : String :=
  if p.status.isNone then "http.response.start" else "http.response.body"

/-- Adds a message. What comes after the end changes nothing. -/
def add (c : Collection) (m : Message) : Collection :=
  match c with
  | going p =>
    match m, p.status with
    | .responseStart status headers, none =>
      if Http.Response.isStatus status then .going (p.start status headers)
      else .failed (.raised ("invalid status code " ++ toString status))
    | .responseBody chunk more, some _ =>
      if more then .going (p.write chunk) else .complete (p.write chunk)
    | _, _ => .failed (.unexpectedMessage (expected p) m.kind)
  | c => c

def result : Collection → Except AppError Produced
  | going p | complete p => .ok p
  | failed e => .error e

/-- What is collected of all messages of a sender. -/
def ofMessages (ms : List Message) : Except AppError Produced := (ms.foldl add empty).result

/-- Takes all that waits. When no more is wanted the host stops to receive. -/
def drain (c : Collection) (channel : Channel) : Collection × Channel :=
  let c := channel.fromApp.waiting.foldl add c
  let emptied := { channel.fromApp with waiting := [] }
  (c, { channel with fromApp := if c.isOver then emptied.dropReceiver else emptied })

end Collection
end Gateway
