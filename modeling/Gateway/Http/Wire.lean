import Gateway.Http.Receiver
import Gateway.Http.Response
import Gateway.Instant

/-! Responses as bytes on a connection. -/
namespace Gateway.Http

def reasons : List (Nat × String) :=
  [(100, "Continue"), (101, "Switching Protocols"), (200, "OK"), (201, "Created"),
   (202, "Accepted"), (203, "Non Authoritative Information"), (204, "No Content"),
   (205, "Reset Content"), (206, "Partial Content"), (300, "Multiple Choices"),
   (301, "Moved Permanently"), (302, "Found"), (303, "See Other"), (304, "Not Modified"),
   (305, "Use Proxy"), (307, "Temporary Redirect"), (308, "Permanent Redirect"),
   (400, "Bad Request"), (401, "Unauthorized"), (402, "Payment Required"), (403, "Forbidden"),
   (404, "Not Found"), (405, "Method Not Allowed"), (406, "Not Acceptable"),
   (407, "Proxy Authentication Required"), (408, "Request Timeout"), (409, "Conflict"),
   (410, "Gone"), (411, "Length Required"), (412, "Precondition Failed"),
   (413, "Payload Too Large"), (414, "URI Too Long"), (415, "Unsupported Media Type"),
   (416, "Range Not Satisfiable"), (417, "Expectation Failed"), (418, "I'm a teapot"),
   (422, "Unprocessable Entity"), (426, "Upgrade Required"), (428, "Precondition Required"),
   (429, "Too Many Requests"), (431, "Request Header Fields Too Large"),
   (500, "Internal Server Error"), (501, "Not Implemented"), (502, "Bad Gateway"),
   (503, "Service Unavailable"), (504, "Gateway Timeout"), (505, "HTTP Version Not Supported")]

/-- The name of a status, or a text that says there is none. -/
def reason (status : Nat) : String := (reasons.lookup status).getD "<none>"

def isBodiless (status : Nat) : Bool := status < 200 || status == 204 || status == 304

def weekday (t : Instant) : String :=
  ["Thu", "Fri", "Sat", "Sun", "Mon", "Tue", "Wed"].getD (t.seconds / 86400 % 7).toNat ""

def dateText (t : Instant) : String :=
  let d := t.utc.date
  weekday t ++ ", " ++ Text.padded 2 d.day ++ " " ++ Date.monthNames.getD (d.month - 1) "" ++ " " ++
    Date.yearText d.year ++ " " ++ t.utc.clock ++ " GMT"

namespace Response

def names (r : Response) (name : String) : Bool := r.headers.any (·.1 == name)

/-- The fields that the connection adds: length, date and whether it goes on. -/
def connectionFields (r : Response) (version : Version) (keep : Bool) (now : Instant) :
    List WireField :=
  (if r.names "content-length" || isBodiless r.status then []
    else [("content-length", Text.utf8 (toString r.body.length))]) ++
  (if r.names "connection" then []
    else if version = .http10 && keep then [("connection", Text.utf8 "keep-alive")]
    else if version = .http11 && !keep then [("connection", Text.utf8 "close")]
    else []) ++
  (if r.names "date" then [] else [("date", Text.utf8 (dateText now))])

/-- The bytes of a response. The answer to `HEAD` and some statuses have no body. -/
def wire (r : Response) (version : Version) (toHead keep : Bool) (now : Instant) : Bytes :=
  let line := "HTTP/" ++ version.label ++ " " ++ toString r.status ++ " " ++ reason r.status ++ "\r\n"
  let fields := (r.headers ++ r.connectionFields version keep now).flatMap fun f =>
    Text.utf8 (f.1 ++ ": ") ++ f.2 ++ Text.utf8 "\r\n"
  Text.utf8 line ++ fields ++ Text.utf8 "\r\n" ++
    (if toHead || isBodiless r.status then [] else r.body)

def badRequest : Response := ⟨400, [], []⟩

end Response

/-- What tells a client to go on with its body. -/
def continueLine : Bytes := Text.utf8 "HTTP/1.1 100 Continue\r\n\r\n"

end Gateway.Http
