import Gateway.Builtin
import Gateway.Exchange.Host
import Gateway.Lifespan
import Gateway.LogFilter
import Gateway.Settings.Layers

/-!
Starting the host. The stages come in a fixed order, and the first that fails is the one reported: the
entry is loaded, its convention is detected, the address is read, and an asynchronous application is
told of the startup.
-/
namespace Gateway

/-- All that is fixed before the host serves. -/
structure Launch where
  settings : Settings
  /-- The entry, as diagnostics show it. -/
  entry : String
  app : Application
  address : SocketAddress

namespace Launch

def ofSettings (r : Registry Servable) (s : Settings) : Except StartupError Launch := do
  let loaded ← r.load s.entry
  let convention ← (Convention.detect loaded.object).determined loaded.label
  let address ← s.address
  match Application.ofConvention? convention with
  | some app => return { settings := s, entry := loaded.label, app, address }
  | none => throw (.undetermined loaded.label)

def front (l : Launch) (site : Site) : Front := ⟨l.settings.effectiveMount, site⟩

def host (l : Launch) (site : Site) : Host :=
  { app := l.app.behind (l.front site), maxBody := l.settings.maxBodySize
    serverName := l.settings.serverName
    accessFormat := if l.settings.accessLog then some l.settings.accessLogFormat else none }

def program : String := "devroute"

/-- The line that reports why the program does not start, in bold red if `color`. -/
def fatalLine (color : Bool) (e : StartupError) : String :=
  let line := program ++ ": " ++ e.message
  if color then "\x1b[1;31m" ++ line ++ "\x1b[0m" else line

/-- Colours are used unless the variable `NO_COLOR` has a value. -/
def usesColor (env : Settings.Environment) : Bool := (env.get? "NO_COLOR").all String.isEmpty

/-- The filter of the log: a variable comes before the settings. -/
def logFilter (env : Settings.Environment) (s : Settings) : LogFilter :=
  .firstOf ((env.get? "RUST_LOG").toList ++ [s.level])

def startLifespan (l : Launch) (site : Site) : Startup × List Event :=
  match l.app.behind (l.front site) with
  | .sync _ => (.unsupported, [])
  | .async app => Lifespan.startup app 0

/-- What a run does beyond reading its settings. -/
structure Effects (m : Type → Type) where
  /-- Writes a line to the error stream. -/
  report : String → m Unit
  /-- Logs what happened at the startup of an application. -/
  note : List Event → m Unit
  /-- Serves until a signal comes, and gives the exit status. -/
  serve : Launch → Option Lifespan → m Nat
  /-- Waits for a signal where an application neither answers nor ends. -/
  linger : m Nat

/-- Ends a run that cannot serve. -/
def Effects.abort {m : Type → Type} [Monad m] (effects : Effects m) (color : Bool)
    (e : StartupError) : m Nat := do
  effects.report (fatalLine color e)
  return e.exitCode

/-- Goes on after the startup of an application. -/
def Effects.proceed {m : Type → Type} [Monad m] (effects : Effects m) (color : Bool) (l : Launch) :
    Startup → m Nat
  | .supported lifespan => effects.serve l (some lifespan)
  | .unsupported => effects.serve l none
  | .failed e => effects.abort color e
  | .stuck => effects.linger

/-- A run with settings that were read, which gives the exit status. Only an asynchronous application
has a lifespan. -/
def runM {m : Type → Type} [Monad m] (effects : Effects m) (color : Bool) (r : Registry Servable)
    (site : Site) (s : Settings) : m Nat :=
  match ofSettings r s with
  | .error e => effects.abort color e
  | .ok l =>
    match l.app.behind (l.front site) with
    | .sync _ => effects.serve l none
    | .async app => do
      let (startup, events) := Lifespan.startup app 0
      effects.note events
      effects.proceed color l startup

/-- The notices of a host that begins to serve on the address `bound`. -/
def notices (l : Launch) (bound : SocketAddress) : List Notice :=
  Notice.atStart l.entry l.app.convention bound.text l.settings.staticDir ++
    Notice.ofMount l.settings.effectiveMount.text

/-- A run to which no connection is made and which the signal `name` ends, if it comes to an end. -/
def idleRun (l : Launch) (site : Site) (bound : SocketAddress) (name : String) :
    Option (Except StartupError (List Event)) :=
  let served := (l.notices bound ++ [Notice.signalled name, Notice.shuttingDown]).map Event.logged
  match l.startLifespan site with
  | (.stuck, _) => none
  | (.failed e, _) => some (.error e)
  | (.unsupported, events) => some (.ok (events ++ served))
  | (.supported lifespan, events) =>
    let p := Lifespan.run lifespan.standing lifespan.channel
    let stopped := Lifespan.shutdown ⟨p.standing, p.channel⟩
    some (.ok (events ++ p.events ++ served ++ stopped.events))

end Launch
end Gateway
