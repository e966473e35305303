import Gateway.Address
import Gateway.Notice

/-!
The count of open connections, on which the end of the host waits. Each connection is counted when it
is accepted and, as a rule, discounted when its task ends.
-/
namespace Gateway

/-- How the task of a connection ends. -/
inductive ConnectionEnd where
  | closed
  | failed (reason : String)
  | timedOut
  /-- The application panicked, and the task ended on the spot. -/
  | panicked
  deriving Repr, DecidableEq

/-- What happens to the connections of a host. Tasks are told apart by numbers. -/
inductive ConnectionEvent where
  | accepted (task : Nat) (peer : SocketAddress)
  /-- A connection whose own address cannot be read is dropped at once. -/
  | dropped (peer : SocketAddress) (reason : String)
  | served (task : Nat)
  | ended (task : Nat) (how : ConnectionEnd)
  deriving Repr, DecidableEq

/-- The tasks under way and the count of connections. -/
structure Connections where
  tasks : List (Nat × SocketAddress) := []
  count : Int := 0
  deriving Repr, DecidableEq

namespace Connections

/-- The event can happen: tasks are new when they begin and under way when they go on. -/
def admits (c : Connections) : ConnectionEvent → Bool
  | .accepted task _ => (c.tasks.lookup task).isNone
  | .dropped .. => true
  | .served task | .ended task _ => (c.tasks.lookup task).isSome

/-- The effect of an event. A task that panics does not come to its last step, which discounts it. -/
def step (c : Connections) : ConnectionEvent → Connections
  | .accepted task peer => { tasks := (task, peer) :: c.tasks, count := c.count + 1 }
  | .dropped .. | .served _ => c
  | .ended task how =>
    { tasks := c.tasks.filter (·.1 != task)
      count := if how = .panicked then c.count else c.count - 1 }

/-- The notices of an event; `patience` is the time that a connection has, in seconds. -/
def notices (c : Connections) (patience : Nat) : ConnectionEvent → List Notice
  | .accepted _ peer => [.accepted peer.text]
  | .dropped peer reason => [.plain .warn ("Dropping connection from " ++ peer.text ++ ": " ++ reason)]
  | .served _ | .ended _ .closed | .ended _ .panicked => []
  | .ended _ (.failed reason) => [.connectionFailed reason]
  | .ended task .timedOut =>
    match c.tasks.lookup task with
    | some peer => [.connectionTimedOut peer.text patience]
    | none => []

/-- Seconds that the end of the host waits for open connections. -/
def drainTime : Nat := 5

def drainNotices (c : Connections) : List Notice :=
  if c.count ≤ 0 then [] else [.stillOpen c.count.toNat drainTime]

end Connections
end Gateway
