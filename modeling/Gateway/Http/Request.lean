import Gateway.Http.Field
import Gateway.Http.Target

/-! Requests as the host receives them. -/
namespace Gateway.Http

inductive Version where
  | http09 | http10 | http11 | http2 | http3
  deriving Repr, DecidableEq

/-- The version as applications are told it: all but two count as 1.1. -/
def Version.label : Version → String
  | http10 => "1.0"
  | http2 => "2"
  | _ => "1.1"

/-- What comes next of a request body. -/
inductive Frame where
  | data (bytes : Bytes)
  /-- Reading failed. -/
  | fault (reason : String)
  deriving Repr, DecidableEq

/-- A request. Fields of one name stand together, where the first of them came. -/
structure Request where
  method : String
  target : Target
  version : Version := .http11
  headers : List WireField := []
  body : List Frame := []
  deriving Repr, DecidableEq

namespace Request

/-- Adds a field behind the last of its name, or at the end. -/
def addField (f : WireField) (fs : List WireField) : List WireField :=
  match fs.reverse.span fun g => g.1 ≠ f.1 with
  | (_, []) => fs ++ [f]
  | (after, before) => before.reverse ++ f :: after.reverse

def grouped (fs : List WireField) : List WireField := fs.foldl (fun done f => addField f done) []

/-- The request of the given parts, if each of them is well formed. -/
def ofParts? (method target : String) (version : Version) (headers : List WireField)
    (body : List Frame) : Option Request := do
  if !isToken method then none
  let target ← Target.ofText? target
  let fields ← headers.mapM fun h => (wireField h.1 h.2).toOption
  return { method, target, version, headers := grouped fields, body }

end Request
end Gateway.Http
