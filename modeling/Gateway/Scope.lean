import Gateway.Mount

/-! What an asynchronous application is told about its connection. -/
namespace Gateway

/-- The kind of connection. -/
inductive ScopeKind where
  | http
  | lifespan
  | other (name : String)
  deriving Repr, DecidableEq

def ScopeKind.name : ScopeKind → String
  | http => "http"
  | lifespan => "lifespan"
  | other name => name

abbrev Endpoint := String × Nat

/-- A connection as its application sees it. `path` is decoded, `rawPath` as it was received. -/
structure Scope where
  kind : ScopeKind
  httpVersion : String := ""
  method : String := ""
  scheme : String := ""
  path : String := ""
  rawPath : Bytes := []
  query : Bytes := []
  rootPath : String := ""
  headers : List (Bytes × Bytes) := []
  client : Option Endpoint := none
  server : Option Endpoint := none
  deriving Repr, DecidableEq

namespace Scope

def http (method path : String) : Scope :=
  { kind := .http, httpVersion := "1.1", method, scheme := "http", path, rawPath := Text.utf8 path }

def lifespan : Scope := { kind := .lifespan }

/-- The scope behind a mount point: the same without a match, otherwise with the mount point moved
from both paths to the root. -/
def behind (s : Scope) (m : Mount) : Scope :=
  let stripped := Mount.strip s.path m.text
  if stripped.isMatch then
    { s with
      path := stripped.path
      rawPath := if s.rawPath.isEmpty then [] else Mount.stripBytes s.rawPath stripped.matched
      rootPath := Mount.extendRoot s.rootPath stripped.matched }
  else s

/-- Moving behind a mount point leaves the kind of connection as it is. -/
theorem kind_behind (s : Scope) (m : Mount) : (s.behind m).kind = s.kind := by
  unfold behind
  dsimp only
  split <;> rfl

/-- Moving behind a mount point leaves the method as it is. -/
theorem method_behind (s : Scope) (m : Mount) : (s.behind m).method = s.method := by
  unfold behind
  dsimp only
  split <;> rfl

end Scope
end Gateway
