import Gateway.Text.Utf8

/-! Messages between the host and an asynchronous application, and what an application can fail with. -/
namespace Gateway

abbrev Field := String × String

/-- Messages of both directions. -/
inductive Message where
  | request (body : Bytes) (more : Bool)
  | disconnect
  | responseStart (status : Nat) (headers : List Field)
  | responseBody (body : Bytes) (more : Bool)
  | startup
  | startupComplete
  | startupFailed (reason : String)
  | shutdown
  | shutdownComplete
  | shutdownFailed (reason : String)
  deriving Repr, DecidableEq

def Message.kind : Message → String
  | request .. => "http.request"
  | disconnect => "http.disconnect"
  | responseStart .. => "http.response.start"
  | responseBody .. => "http.response.body"
  | startup => "lifespan.startup"
  | startupComplete => "lifespan.startup.complete"
  | startupFailed _ => "lifespan.startup.failed"
  | shutdown => "lifespan.shutdown"
  | shutdownComplete => "lifespan.shutdown.complete"
  | shutdownFailed _ => "lifespan.shutdown.failed"

/-- Part of a request body that is not the last. -/
def Message.isPartialRequest : Message → Bool
  | request _ more => more
  | _ => false

/-- Why a call of an application failed. -/
inductive AppError where
  | raised (text : String)
  | channelClosed
  | unexpectedMessage (expected got : String)
  deriving Repr, DecidableEq

def AppError.message : AppError → String
  | raised text => "application error: " ++ text
  | channelClosed => "channel closed before the message could be delivered"
  | unexpectedMessage expected got => "unexpected message: expected " ++ expected ++ ", got " ++ got

end Gateway
