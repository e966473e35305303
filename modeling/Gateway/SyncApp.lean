import Gateway.CgiRequest
import Gateway.Event

/-!
Synchronous applications: functions of a CGI request that drive a response sink and return a body.
-/
namespace Gateway

/-- What reaches the response sink. -/
inductive SinkEvent where
  | start (status : Nat) (headers : List Field)
  | write (chunk : Bytes)
  deriving Repr, DecidableEq

/-- A returned body: its chunks, and the panic that ends the iteration over them if there is one. -/
structure Body where
  chunks : List Bytes
  fault : Option String := none
  deriving Repr, DecidableEq

/-- How a synchronous call ended. -/
inductive SyncResult where
  | body (b : Body)
  | failed (e : AppError)
  | panicked (text : String)
  deriving Repr, DecidableEq

/-- A synchronous call: what reached the sink, the request afterwards, how it ended and what
happened on the way, the iteration over the body included. -/
structure SyncRun where
  sink : List SinkEvent := []
  request : CgiRequest
  result : SyncResult
  events : List Event := []
  deriving Repr, DecidableEq

abbrev SyncApp := CgiRequest → SyncRun

end Gateway
