import Gateway.Message
import Gateway.Text.Quoted

/-! What the host logs: the causes, their levels and their texts. -/
namespace Gateway

/-- Levels of the log. Access records have a target of their own. -/
inductive Level where
  | debug | info | warn | error | access
  deriving Repr, DecidableEq

def Level.name : Level → String
  | debug => "DEBUG"
  | info => "INFO"
  | warn => "WARN"
  | error => "ERROR"
  | access => "ACCESS"

/-- Something worth a line in the log. -/
inductive Notice where
  | lookupEscaped (path target : String)
  | fileUnreadable (error : String)
  | unreadableSignature (reason : String)
  | bodyTooLarge (limit : Nat)
  | bodyUnreadable (reason : String)
  | requestFailed (method path : String) (error : AppError)
  | failedAfterResponding (error : AppError)
  | unbuildable (status : Nat) (reason : String)
  | lifespanStarted
  | lifespanUnsupported (error : AppError)
  | lifespanPanicked (task : Nat) (text : String)
  | lifespanSilent
  | unexpectedAtStartup (kind : String)
  | closedBeforeShutdown
  | lifespanStopped
  | lifespanStopFailed (reason : String)
  | unexpectedAtShutdown (kind : String)
  | closedDuringShutdown
  | shutdownTimedOut
  | serving (entry convention address : String)
  | staticFiles (directory : String)
  | strippingMount (mount : String)
  | shuttingDown
  | signalled (name : String)
  | accepted (peer : String)
  | connectionFailed (reason : String)
  | connectionTimedOut (peer : String) (seconds : Nat)
  | stillOpen (count seconds : Nat)
  | request (line : String)
  | plain (level : Level) (text : String)
  deriving Repr, DecidableEq

/-- How the host words the panic of a task. -/
def panicText (task : Nat) (text : String) : String :=
  "task " ++ toString task ++ " panicked with message " ++ Text.quoted text

namespace Notice

def level : Notice → Level
  | lookupEscaped .. | unreadableSignature _ | lifespanStarted | lifespanUnsupported _
  | lifespanPanicked .. | lifespanSilent | closedBeforeShutdown | lifespanStopped
  | closedDuringShutdown | accepted _ => .debug
  | serving .. | staticFiles _ | strippingMount _ | shuttingDown | signalled _ => .info
  | bodyTooLarge _ | failedAfterResponding _ | unexpectedAtStartup _ | unexpectedAtShutdown _
  | shutdownTimedOut | connectionTimedOut .. | stillOpen .. => .warn
  | fileUnreadable _ | bodyUnreadable _ | requestFailed .. | unbuildable .. | lifespanStopFailed _
  | connectionFailed _ => .error
  | request _ => .access
  | plain level _ => level

def text : Notice → String
  | lookupEscaped path target => "Static lookup escaped root: " ++ path ++ " -> " ++ target
  | fileUnreadable error => "Static file read failed: " ++ error
  | unreadableSignature reason => "Signature introspection failed: " ++ reason
  | bodyTooLarge limit => "Request body too large (max: " ++ toString limit ++ " bytes)"
  | bodyUnreadable reason => "Failed to read request body: " ++ reason
  | requestFailed method path error => method ++ " " ++ path ++ ": " ++ error.message
  | failedAfterResponding error => "Application failed after responding: " ++ error.message
  | unbuildable status reason => "Failed to build " ++ toString status ++ " response: " ++ reason
  | lifespanStarted => "Lifespan startup complete"
  | lifespanUnsupported error => "Lifespan unsupported: " ++ error.message
  | lifespanPanicked task text => "Lifespan task failed: " ++ panicText task text
  | lifespanSilent => "Lifespan returned without answering startup"
  | unexpectedAtStartup kind =>
    "Unexpected '" ++ kind ++ "' during lifespan startup; continuing without lifespan"
  | closedBeforeShutdown => "Lifespan connection closed before shutdown"
  | lifespanStopped => "Lifespan shutdown complete"
  | lifespanStopFailed reason => "Lifespan shutdown failed: " ++ reason
  | unexpectedAtShutdown kind => "Unexpected '" ++ kind ++ "' during lifespan shutdown"
  | closedDuringShutdown => "Lifespan connection closed during shutdown"
  | shutdownTimedOut => "Lifespan shutdown timed out"
  | serving entry convention address =>
    "Serving " ++ entry ++ " (" ++ convention ++ ") on http://" ++ address
  | staticFiles directory => "Static files: " ++ directory
  | strippingMount mount => "Stripping route prefix: " ++ mount
  | shuttingDown => "Shutting down"
  | signalled name => name ++ " received"
  | accepted peer => "Accepted connection from " ++ peer
  | connectionFailed reason => "Failed to serve connection: " ++ reason
  | connectionTimedOut peer seconds =>
    "Connection from " ++ peer ++ " timed out after " ++ toString seconds ++ " seconds"
  | stillOpen count seconds =>
    "Closing " ++ toString count ++ " connection(s) still open after " ++ toString seconds ++ "s"
  | request line => line
  | plain _ text => text

/-- The notices of a server that begins to serve. -/
def atStart (entry convention address directory : String) : List Notice :=
  [serving entry convention address, staticFiles directory]

/-- The notice that a mount point is stripped, if one is. -/
def ofMount (mount : String) : List Notice :=
  if mount.isEmpty then [] else [strippingMount mount]

end Notice
end Gateway
