import Gateway.Event
import Gateway.Http.Field

/-! Responses as the host sends them. One that cannot be built gives way to a fixed one. -/
namespace Gateway.Http

structure Response where
  status : Nat
  headers : List WireField
  body : Bytes
  deriving Repr, DecidableEq

namespace Response

/-- Statuses have three digits, of which the first is not zero. -/
def isStatus (n : Nat) : Bool := 100 ≤ n && n ≤ 999

def serverError : Response := ⟨500, [], Text.utf8 "Internal Server Error"⟩

/-- The answer to a request with too long a body. -/
def tooLarge : Response :=
  ⟨413, [("content-type", Text.utf8 "text/plain; charset=utf-8")],
    Text.utf8 "413 Payload Too Large"⟩

/-- The name of the field that tells what serves. -/
def serverField : String := "server"

/-- Some field tells what serves, in any letter case. -/
def namesServer (headers : List Field) : Bool := headers.any fun h => h.1.toLower == serverField

/-- The fields to send: those given, and one for the server unless it has no name or one is given. -/
def withServer (headers : List Field) (server : String) : List Field :=
  if namesServer headers || server.isEmpty then headers else headers ++ [(serverField, server)]

/-- The response of the given parts. The first field that is wrong keeps it from being built. -/
def ofParts (status : Nat) (headers : List Field) (body : Bytes) (server : String) :
    Except FieldError Response := do
  let fields ← (withServer headers server).mapM fun h => wireField h.1 (Text.utf8 h.2)
  return ⟨status, fields, body⟩

/-- The response of the given parts, or the fixed one in its place. -/
def build (status : Nat) (headers : List Field) (body : Bytes) (server : String) : Response :=
  match ofParts status headers body server with
  | .ok r => r
  | .error _ => serverError

def buildNotices (status : Nat) (headers : List Field) (body : Bytes) (server : String) :
    List Notice :=
  match ofParts status headers body server with
  | .ok _ => []
  | .error e => [.unbuildable status e.message]

end Response
end Gateway.Http
