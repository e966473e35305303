import Gateway.Notice
import Gateway.Signature
import Gateway.StartupError

/-!
Entrypoint objects, and how the calling convention is told from an object's shape. The two kinds of
application are parameters: `σ` for synchronous ones and `α` for asynchronous ones.
-/
namespace Gateway

/-- What can be learned about an entrypoint object, and the applications it can be bound to. -/
structure Entrypoint (σ α : Type) where
  /-- The signature, or the name of the object that has none to show. -/
  signature : Except String Signature
  /-- Calling the object gives something to wait for. -/
  isCoroutine : Bool := false
  /-- The same about its call method, for an object that has one. -/
  callIsCoroutine : Option Bool := none
  /-- The application the object declares as its asynchronous form. -/
  asyncForm : Option α := none
  asSync : Option σ := none
  asAsync : Option α := none

namespace Entrypoint

variable {σ α : Type}

def function (app : σ) (signature : Signature := .ofNames ["environ", "start_response"]) :
    Entrypoint σ α :=
  { signature := .ok signature, asSync := some app }

def coroutine (app : α) (signature : Signature := .ofNames ["scope", "receive", "send"]) :
    Entrypoint σ α :=
  { signature := .ok signature, isCoroutine := true, asAsync := some app }

/-- An object that is called through its call method `call`. -/
def withMethod (call : Entrypoint σ α) : Entrypoint σ α :=
  { signature := call.signature, callIsCoroutine := some call.isCoroutine
    asSync := call.asSync, asAsync := call.asAsync }

def framework (name : String) (form : α) (signature : Option Signature := none) : Entrypoint σ α :=
  { signature := match signature with
      | some s => .ok s
      | none => .error name
    asyncForm := some form }

/-- The text for an object that has no signature to show. -/
def noSignature (name : String) : String := "no signature available for " ++ name

end Entrypoint

/-- A calling convention, with the application bound to it. -/
inductive Convention (σ α : Type) where
  | sync (app : σ)
  | async (app : α)
  | undetermined
  deriving Repr, DecidableEq

namespace Convention

variable {σ α : Type}

def name : Convention σ α → String
  | sync _ => "sync"
  | async _ => "async"
  | undetermined => "undetermined"

/-- Tells the convention of an object. A declared asynchronous form wins; otherwise three required
positional parameters make a coroutine asynchronous and two make anything synchronous. -/
def detect (object : Entrypoint σ α) : Convention σ α :=
  match object.asyncForm with
  | some form => async form
  | none =>
    match object.signature with
    | .error _ => undetermined
    | .ok signature =>
      if signature.required = 3 ∧ (object.isCoroutine || object.callIsCoroutine == some true) then
        object.asAsync.elim undetermined async
      else if signature.required = 2 then object.asSync.elim undetermined sync
      else undetermined

/-- The convention, or the error that `entry` has none. -/
def determined (c : Convention σ α) (entry : String) : Except StartupError (Convention σ α) :=
  match c with
  | undetermined => .error (.undetermined entry)
  | _ => .ok c

/-- The notices of a detection: a signature that was needed and could not be read. -/
def notices (object : Entrypoint σ α) : List Notice :=
  match object.asyncForm, object.signature with
  | none, .error name => [.unreadableSignature (Entrypoint.noSignature name)]
  | _, _ => []

end Convention
end Gateway
