import Gateway.Program

/-!
Calls of asynchronous applications by a host that has nothing more to send than what it sent before,
and that reads whatever it is sent.
-/
namespace Gateway

/-- What a call sent, how it ended and what happened. -/
structure Transcript where
  sent : List Message
  standing : Standing
  events : List Event

namespace Program

/-- Messages on the way, each way, at most. -/
def transcriptCapacity : Nat := 64

def readAll (sent : List Message) (c : Channel) : List Message × Channel :=
  (sent ++ c.fromApp.waiting, { c with fromApp := { c.fromApp with waiting := [] } })

/-- The channel of a host that has sent `incoming` and no longer sends. It still reads if
`listening`. -/
def settledChannel (incoming : List Message) (listening : Bool) : Channel :=
  { toApp := { capacity := transcriptCapacity, waiting := incoming, hasSender := false }
    fromApp := { capacity := transcriptCapacity, hasReceiver := listening } }

/-- Runs a program and writes down what comes of it. -/
def transcript (program : Program) (incoming : List Message) (listening : Bool) : Transcript :=
  let p := program.advance readAll [] (settledChannel incoming listening) []
  { sent := (readAll p.host p.channel).1, standing := p.standing, events := p.events }

end Program

/-- Calls the application and writes down what comes of it. -/
def AsyncApp.transcript (app : AsyncApp) (scope : Scope) (incoming : List Message)
    (listening : Bool) : Transcript :=
  (app scope).transcript incoming listening

end Gateway
