import Gateway.Address
import Gateway.CgiRequest
import Gateway.Http.Request
import Gateway.Instant
import Gateway.Scope
import Gateway.Text.Percent

/-! A request as it arrives, and the two forms in which applications are told about it. -/
namespace Gateway

/-- How a request arrives: both ends of its connection, the number of the task that serves it, when it
comes and how long it takes. -/
structure Arrival where
  peer : SocketAddress
  host : SocketAddress
  task : Nat := 0
  time : Instant := { seconds := 0 }
  microseconds : Nat := 0
  deriving Repr, DecidableEq

namespace Http.Request

def rawPath (r : Request) : String := r.target.path

/-- The text of a path with escapes: bytes that are no text are replaced. -/
def decodedPath (raw : String) : String := Text.decoded (Text.unescape (Text.utf8 raw))

def path (r : Request) : String := decodedPath r.rawPath

def query (r : Request) : String := r.target.query.getD ""

def fields (r : Request) : List Field := r.headers.map fun h => (h.1, Text.decoded h.2)

/-- The first header of a name, in any letter case. -/
def field? (r : Request) (name : String) : Option String :=
  (r.fields.find? fun f => f.1.toLower == name.toLower).map (·.2)

/-- The request in the CGI form before its headers are added. -/
def cgiLine (r : Request) (a : Arrival) (body : Bytes) : CgiRequest :=
  { CgiRequest.ofPath r.method r.path with input := body }
    |>.set CgiRequest.queryString r.query
    |>.set CgiRequest.serverName a.host.ip.text
    |>.set CgiRequest.serverPort (toString a.host.port.toNat)
    |>.set CgiRequest.serverProtocol ("HTTP/" ++ r.version.label)
    |>.set CgiRequest.remoteAddr a.peer.ip.text

def cgi (r : Request) (a : Arrival) (body : Bytes) : CgiRequest :=
  r.fields.foldl (fun c f => c.addHeader f.1 f.2) (r.cgiLine a body)

def endpoint (s : SocketAddress) : Endpoint := (s.ip.text, s.port.toNat)

def scope (r : Request) (a : Arrival) : Scope :=
  { kind := .http, httpVersion := r.version.label, method := r.method, scheme := "http"
    path := r.path, rawPath := Text.utf8 r.rawPath, query := Text.utf8 r.query
    headers := r.fields.map fun f => (Text.utf8 f.1.toLower, Text.utf8 f.2)
    client := some (endpoint a.peer), server := some (endpoint a.host) }

end Http.Request
end Gateway
