import Gateway.Channel

/-!
Operations on the ends of a channel. Each is tried once, and given up if it cannot be done at once. A
log has them with their replies.
-/
namespace Gateway.Channel

/-- The ends of a channel. The application receives on `inbound` and sends on `outbound`, the host
sends on `toApp` and receives on `fromApp`. -/
inductive End where
  | inbound | outbound | toApp | fromApp
  deriving Repr, DecidableEq

inductive Operation where
  | hostSends (m : Message)
  | appReceives
  | appSends (m : Message)
  | hostReceives
  | drops (e : End)
  deriving Repr, DecidableEq

inductive Reply where
  | accepted
  | got (m : Message)
  /-- Not yet: the operation is given up. -/
  | pending
  /-- The other end is gone, as the host is told. -/
  | closed
  /-- The call of the application fails with this. -/
  | failed (e : AppError)
  /-- The end of the operation was dropped before. -/
  | gone
  | dropped
  deriving Repr, DecidableEq

/-- The reply says that nothing was done. -/
def Reply.isRefusal : Reply → Bool
  | pending | closed | failed _ | gone => true
  | accepted | got _ | dropped => false

def drop (c : Channel) : End → Channel
  | .inbound => { c with toApp := c.toApp.dropReceiver }
  | .outbound => { c with fromApp := c.fromApp.dropSender }
  | .toApp => { c with toApp := c.toApp.dropSender }
  | .fromApp => { c with fromApp := c.fromApp.dropReceiver }

/-- Tries an operation. -/
def operate (c : Channel) : Operation → Reply × Channel
  | .hostSends m =>
    if !c.toApp.hasSender then (.gone, c)
    else
      match c.toApp.offer m with
      | .accepted q => (.accepted, { c with toApp := q })
      | .refused => (.closed, c)
      | .full => (.pending, c)
  | .appReceives =>
    if !c.toApp.hasReceiver then (.gone, c)
    else
      match c.receive with
      | some (m, c) => (.got m, c)
      | none => (.pending, c)
  | .appSends m =>
    if !c.fromApp.hasSender then (.gone, c)
    else
      match c.fromApp.offer m with
      | .accepted q => (.accepted, { c with fromApp := q })
      | .refused => (.failed .channelClosed, c)
      | .full => (.pending, c)
  | .hostReceives =>
    if !c.fromApp.hasReceiver then (.gone, c)
    else
      match c.fromApp.take with
      | .got m q => (.got m, { c with fromApp := q })
      | .ended => (.closed, c)
      | .empty => (.pending, c)
  | .drops e => (.dropped, c.drop e)

abbrev Log := List (Operation × Reply)

/-- Tries operations one after the other. -/
def run (c : Channel) : List Operation → Log × Channel
  | [] => ([], c)
  | op :: ops =>
    let (reply, c) := c.operate op
    let (log, c) := c.run ops
    ((op, reply) :: log, c)

namespace Log

/-- The messages of the host that were accepted. -/
def hostSent (log : Log) : List Message :=
  log.filterMap fun
    | (.hostSends m, .accepted) => some m
    | _ => none

/-- The messages that the application received. -/
def appReceived (log : Log) : List Message :=
  log.filterMap fun
    | (.appReceives, .got m) => some m
    | _ => none

/-- The messages of the application that were accepted. -/
def appSent (log : Log) : List Message :=
  log.filterMap fun
    | (.appSends m, .accepted) => some m
    | _ => none

/-- The messages that the host received. -/
def hostReceived (log : Log) : List Message :=
  log.filterMap fun
    | (.hostReceives, .got m) => some m
    | _ => none

end Log
end Gateway.Channel
