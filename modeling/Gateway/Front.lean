import Gateway.Site

/-!
What stands in front of an application: the mount point is taken off the path and the static site is
asked first. An application may keep a state of its own between its calls: it is called in a monad
`m`, which for one without a state is the identity.
-/
namespace Gateway

/-- What a sink that only records has kept: the last start, and the chunks in order. -/
structure Captured where
  start : Option (Nat × List Field) := none
  written : List Bytes := []
  deriving Repr, DecidableEq

namespace Captured

/-- Records one event. A later start takes the place of an earlier one. -/
def record (c : Captured) : SinkEvent → Captured
  | .start status headers => { c with start := some (status, headers) }
  | .write chunk => { c with written := c.written ++ [chunk] }

/-- What is kept of a whole run of events. -/
def ofSink (events : List SinkEvent) : Captured := events.foldl record {}

end Captured

/-- A mount point and a site. -/
structure Front where
  mount : Mount
  site : Site

namespace Front

/-- What came of the site's attempt at a request. -/
inductive Attempt where
  /-- The run is the answer. -/
  | answered (run : SyncRun)
  /-- The application has to answer the request, as the attempt left it. -/
  | passed (request : CgiRequest) (events : List Event)

/-- Lets the site try a request, with a sink that only records. Of what was recorded, only a
response with a file in it is told to the real sink. -/
def attempt (front : Front) (r : CgiRequest) : Attempt :=
  if !Site.serves r.method then .passed r []
  else
    let run := front.site.syncApp r
    let captured := Captured.ofSink run.sink
    match run.result, captured.start with
    | .body _, some (200, headers) =>
      .answered { run with sink := .start 200 headers :: captured.written.map .write }
    | .panicked _, _ => .answered { run with sink := [] }
    | _, _ => .passed run.request run.events

/-- What the site finds for a connection. Only a request is looked up. -/
def lookup (front : Front) (scope : Scope) : Lookup :=
  if scope.kind = .http then front.site.resolve scope.path.toList else .missing

section Call

variable {m : Type → Type} [Monad m]

def syncM (front : Front) (app : CgiRequest → m SyncRun) (r : CgiRequest) : m SyncRun :=
  match front.attempt (r.behind front.mount) with
  | .answered run => pure run
  | .passed request events => do
    let run ← app request
    return { run with events := events ++ run.events }

/-- An asynchronous application behind the front. A lifespan connection passes through, and so does
every kind of connection that is no request. -/
def asyncM (front : Front) (app : Scope → m Program) (scope : Scope) : m Program :=
  if scope.kind = .lifespan then app scope
  else
    let inner := scope.behind front.mount
    let lookup := front.lookup inner
    match lookup.file? with
    | some _ => pure (front.site.asyncApp inner)
    | none => do
      let program ← app inner
      return .tellAll (Site.notices inner.path lookup) program

end Call

/-- `syncM` for an application without a state. -/
def sync (front : Front) (app : SyncApp) : SyncApp := front.syncM (m := Id) app

/-- `asyncM` for an application without a state. -/
def async (front : Front) (app : AsyncApp) : AsyncApp := front.asyncM (m := Id) app

end Front
end Gateway
