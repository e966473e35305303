import Gateway.Instant
import Gateway.Json
import Gateway.Text.Substitution

/-! Access records: one served request, and its line in the access log in several formats. -/
namespace Gateway

/-- Who made a response: the application or the site before it, or the host itself. -/
inductive Handler where
  | app
  | server
  deriving Repr, DecidableEq

def Handler.name : Handler → String
  | app => "app"
  | server => "server"

/-- A served request. The path is the one received. -/
structure AccessRecord where
  remoteAddr : String
  time : Instant
  method : String
  path : String
  query : Option String := none
  httpVersion : String := "1.1"
  status : Nat := 200
  bodyBytes : Nat := 0
  referer : Option String := none
  userAgent : Option String := none
  handledBy : Handler := .app
  microseconds : Nat := 0
  deriving Repr, DecidableEq

namespace AccessRecord

/-- The path, and the query behind it if there is one. -/
def uri (r : AccessRecord) : String :=
  match r.query with
  | some q => if q.isEmpty then r.path else r.path ++ "?" ++ q
  | none => r.path

def requestLine (r : AccessRecord) : String := r.method ++ " " ++ r.uri ++ " HTTP/" ++ r.httpVersion

/-- A header as it is logged: a hyphen stands for none. -/
def orHyphen (value : Option String) : String := value.getD "-"

def commonLine (r : AccessRecord) : String :=
  r.remoteAddr ++ " - - [" ++ r.time.logText ++ "] \"" ++ r.requestLine ++ "\" " ++
    toString r.status ++ " " ++ toString r.bodyBytes

/-- The common log format with the referer and the user agent. -/
def combinedLine (r : AccessRecord) : String :=
  r.commonLine ++ " \"" ++ orHyphen r.referer ++ "\" \"" ++ orHyphen r.userAgent ++ "\""

/-- The record as an object, members in the order of their names. -/
def object (r : AccessRecord) : Json.Object :=
  [("body_bytes".toList, .number r.bodyBytes), ("handled_by".toList, .string r.handledBy.name),
   ("http_version".toList, .string r.httpVersion), ("method".toList, .string r.method),
   ("path".toList, .string r.path), ("query".toList, .optional r.query),
   ("referer".toList, .optional r.referer), ("remote_addr".toList, .string r.remoteAddr),
   ("request_time_us".toList, .number r.microseconds), ("status".toList, .number r.status),
   ("time".toList, .string r.time.isoText), ("user_agent".toList, .optional r.userAgent)]

/-- The variables of patterns and their values, in the order in which they are replaced: a name comes
before those it starts with. -/
def patternValues (r : AccessRecord) : List (String × String) :=
  [("$remote_addr", r.remoteAddr), ("$time_local", r.time.logText),
   ("$time_iso8601", r.time.isoText), ("$request_time", Text.seconds r.microseconds),
   ("$request_method", r.method), ("$request_uri", r.uri), ("$request", r.requestLine),
   ("$status", toString r.status), ("$body_bytes_sent", toString r.bodyBytes),
   ("$http_referer", orHyphen r.referer), ("$http_user_agent", orHyphen r.userAgent),
   ("$handled_by", r.handledBy.name)]

/-- A pattern with each variable in turn replaced by its value, also where an earlier value holds its
name. -/
def patternLine (r : AccessRecord) (pattern : String) : String :=
  .ofList (r.patternValues.foldl (fun line v => Text.replaceAll v.1.toList v.2.toList line)
    pattern.toList)

/-- The line of a record in a format: one of three by name, or a pattern. -/
def line (r : AccessRecord) (format : String) : String :=
  if format = "combined" then r.combinedLine
  else if format = "common" then r.commonLine
  else if format = "json" then Json.line r.object
  else r.patternLine format

end AccessRecord
end Gateway
