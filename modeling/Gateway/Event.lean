import Gateway.Notice
import Gateway.Scope

/-! What happens during a call: lines for the log, and what a scripted application observes. -/
namespace Gateway

/-- What a scripted application notes down. -/
inductive Observation where
  | called (method path root : String)
  | read (bytes : Bytes)
  | variable (key : String) (value : Option String)
  | header (name : String) (value : Option String)
  | scope (s : Scope)
  | received (m : Message)
  | sent (error : Option AppError)
  | done
  deriving Repr, DecidableEq

inductive Event where
  | logged (n : Notice)
  | seen (o : Observation)
  deriving Repr, DecidableEq

def Event.notices (es : List Event) : List Notice :=
  es.filterMap fun
    | logged n => some n
    | seen _ => none

def Event.observations (es : List Event) : List Observation :=
  es.filterMap fun
    | seen o => some o
    | logged _ => none

end Gateway
