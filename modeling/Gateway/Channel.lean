import Gateway.Message

/-!
Bounded queues with two ends that can be dropped, and the pair of them between the host and an
application.
-/
namespace Gateway

/-- A queue: the messages on the way, oldest first, and which ends are still there. -/
structure Queue where
  capacity : Nat
  waiting : List Message := []
  hasSender : Bool := true
  hasReceiver : Bool := true
  deriving Repr, DecidableEq

/-- What came of offering a message. -/
inductive Offer where
  | accepted (q : Queue)
  /-- The receiver is gone. -/
  | refused
  /-- There is no room yet. -/
  | full
  deriving Repr, DecidableEq

/-- What came of asking for a message. -/
inductive Take where
  | got (m : Message) (q : Queue)
  /-- The sender is gone and nothing is on the way. -/
  | ended
  /-- Nothing is there yet. -/
  | empty
  deriving Repr, DecidableEq

namespace Queue

def isFull (q : Queue) : Bool := q.capacity ≤ q.waiting.length

def offer (q : Queue) (m : Message) : Offer :=
  if !q.hasReceiver then .refused
  else if q.isFull then .full
  else .accepted { q with waiting := q.waiting ++ [m] }

def take (q : Queue) : Take :=
  match q.waiting with
  | m :: rest => .got m { q with waiting := rest }
  | [] => if q.hasSender then .empty else .ended

def dropSender (q : Queue) : Queue := { q with hasSender := false }

def dropReceiver (q : Queue) : Queue := { q with hasReceiver := false, waiting := [] }

end Queue

/-- The two queues of one call: the host sends on `toApp` and receives on `fromApp`. -/
structure Channel where
  toApp : Queue
  fromApp : Queue
  deriving Repr, DecidableEq

namespace Channel

/-- A channel with room for `capacity` messages each way. -/
def ofCapacity (capacity : Nat) : Channel := ⟨{ capacity }, { capacity }⟩

/-- The channel when the application has ended: both of its ends are gone. -/
def dropApp (c : Channel) : Channel := ⟨c.toApp.dropReceiver, c.fromApp.dropSender⟩

/-- What the application receives. When the host can send no more that is `http.disconnect`, as
often as it asks. -/
def receive (c : Channel) : Option (Message × Channel) :=
  match c.toApp.take with
  | .got m q => some (m, { c with toApp := q })
  | .ended => some (.disconnect, c)
  | .empty => none

end Channel
end Gateway
