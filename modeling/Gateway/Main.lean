import Gateway.CommandLine
import Gateway.Connections
import Gateway.Http.Wire
import Gateway.Launch
import Std.Async.TCP
import Std.Async.Signal
import Std.Async.Timer
import Std.Time.DateTime.Timestamp
import Std.Time.Zoned

/-!
The program: it reads the command line, the settings and the files, and serves connections until a
signal comes.
-/
namespace Gateway.Main

open Std.Async

/-- What the connections of a host share. -/
structure Shared where
  launch : Launch
  /-- The static directory. -/
  directory : String
  color : Bool
  filter : LogFilter
  connections : IO.Ref Connections

def now : IO Instant := do
  let t ← Std.Time.Timestamp.now
  let nanos := t.toNanosecondsSinceUnixEpoch.val
  return { seconds := nanos / 1000000000, nanos := (nanos % 1000000000).toNat }

/-- The instant by the clocks of the system. Where nothing is known of them they show Universal Time. -/
def localNow : IO Instant := do
  let t ← now
  try
    let rules ← match ← IO.getEnv "TZ" with
      | some zone => Std.Time.Database.defaultGetZoneRules zone
      | none => Std.Time.Database.defaultGetLocalZoneRules
    let zone := rules.timezoneAt (.ofSecondsSinceUnixEpoch (.ofInt t.seconds))
    return { t with offset := zone.offset.second.val }
  catch _ => return t

/-! ## Log -/

/-- The time as log lines have it, in microseconds. -/
def stamp (t : Instant) : String :=
  (String.ofList ((Instant.isoText { seconds := t.seconds }).toList.take 19)) ++ "." ++
    Text.padded 6 (t.nanos / 1000) ++ "Z"

/-- The name of a level, set flush right, and the number of its colour. -/
def levelText : Level → String × Nat
  | .error => ("ERROR", 31)
  | .warn => (" WARN", 33)
  | .info | .access => (" INFO", 32)
  | .debug => ("DEBUG", 34)

def logLine (color : Bool) (time : Instant) (n : Notice) : String :=
  let (level, number) := levelText n.level
  if color then
    "\x1b[2m" ++ stamp time ++ "\x1b[0m \x1b[" ++ toString number ++ "m" ++ level ++ "\x1b[0m " ++ n.text
  else stamp time ++ " " ++ level ++ " " ++ n.text

/-- Writes notices that pass the filter: errors apart from the others. -/
def log (color : Bool) (filter : LogFilter) (ns : List Notice) : IO Unit := do
  let time ← now
  for n in ns do
    if filter.passes n then
      let out ← if n.level = .error then IO.getStderr else IO.getStdout
      out.putStrLn (logLine color time n)
      out.flush

def Shared.log (s : Shared) (ns : List Notice) : IO Unit := Main.log s.color s.filter ns

/-! ## Files -/

/-- The bytes of a file, if there is one. -/
def readFile? (path : String) : IO (Option Bytes) := do
  try return some (← IO.FS.readBinFile path).toList
  catch _ => return none

def location (path : String) : Location := Path.names path.toList

/-- Reads on to the end of a file, or to the error with which reading it ends. -/
partial def readOn (handle : IO.FS.Handle) (data : ByteArray) : IO (ByteArray × Option String) := do
  match ← (handle.read 65536).toBaseIO with
  | .error e => return (data, some (toString e))
  | .ok bytes => if bytes.isEmpty then return (data, none) else readOn handle (data ++ bytes)

/-- What a path without links leads to: a regular file as opening, measuring and reading it gives, or
something that is none. -/
def entryAt (path : String) : IO Entry := do
  let target ← IO.FS.realPath path
  if (← target.metadata).type != .file then return .directory
  match ← (IO.FS.Handle.mk path .read).toBaseIO, ← target.metadata.toBaseIO with
  | .error _, _ => return .file { data := [], fault := some .unopenable }
  | .ok _, .error _ => return .file { data := [], fault := some .unmeasurable }
  | .ok handle, .ok metadata =>
    let (data, error) ← readOn handle .empty
    return .file
      { data := data.toList, size := metadata.byteSize.toNat, fault := error.map .unreadable }

/-- The site as far as the lookup of one request path needs it. -/
def siteFor (directory path : String) : IO Site := do
  let missing : Site := ⟨{}, directory.toList⟩
  if path.contains '\x00' then return missing
  try
    let root := (← IO.FS.realPath directory).toString
    let site : Site := ⟨{}, root.toList⟩
    let candidate := site.candidate path.toList
    let target ← IO.FS.realPath (String.ofList candidate)
    let entry ← entryAt target.toString
    let names := (Path.names candidate).drop (location root).length
    return { site with volume := .ofLookup (location root) names (location target.toString) entry }
  catch _ => return missing

/-! ## Addresses -/

def socketOf (a : SocketAddress) : Std.Net.SocketAddress :=
  match a.ip with
  | .v4 w x y z => .v4 ⟨⟨#v[w, x, y, z]⟩, a.port⟩
  | .v6 ip =>
    let g (i : Nat) : UInt16 := ip.groups.getD i 0
    .v6 ⟨⟨#v[g 0, g 1, g 2, g 3, g 4, g 5, g 6, g 7]⟩, a.port⟩

def ofSocket : Std.Net.SocketAddress → SocketAddress
  | .v4 a =>
    { ip := .v4 a.addr.octets[0] a.addr.octets[1] a.addr.octets[2] a.addr.octets[3], port := a.port }
  | .v6 a =>
    match IpAddress.ofGroups? a.addr.segments.toList with
    | some ip => { ip := .v6 ip, port := a.port }
    | none => { ip := .v4 0 0 0 0, port := a.port }

/-! ## Connections -/

def event (s : Shared) (patience : Nat) (e : ConnectionEvent) : IO Unit := do
  let before ← s.connections.modifyGet fun c => (c, c.step e)
  s.log (before.notices patience e)

/-- What comes next on a connection. -/
inductive Arrived where
  | bytes (b : ByteArray)
  | closed
  | late

/-- Waits for bytes, at most until `deadline`, in milliseconds. -/
def receive (client : TCP.Socket.Client) (deadline : Nat) : IO Arrived := do
  let time ← IO.monoMsNow
  if deadline ≤ time then return .late
  let wait : Std.Time.Millisecond.Offset := .ofNat (deadline - time)
  (do
    Selectable.one #[
      .case (client.recvSelector 65536) fun b => pure (b.elim .closed .bytes),
      .case (← Selector.sleep wait) fun _ => pure .late] : Async Arrived).block

def send (client : TCP.Socket.Client) (bytes : Bytes) : IO Unit :=
  (client.send (.mk bytes.toArray)).block

/-- Why a connection is over, or that it goes on. -/
inductive Turn where
  | over (how : ConnectionEnd)
  | next

def answer (s : Shared) (client : TCP.Socket.Client) (arrival : Arrival) (head : Http.Head)
    (body : Bytes) : IO Turn := do
  let r := head.request [.data body]
  let began ← IO.monoMsNow
  let site ← siteFor s.directory (Mount.strip r.path s.launch.settings.effectiveMount.text).path
  let time ← localNow
  let arrival := { arrival with time, microseconds := ((← IO.monoMsNow) - began) * 1000 }
  match (s.launch.host site).answer arrival r with
  | .panicked _ events =>
    s.log (Event.notices events)
    return .over .panicked
  | .pending events =>
    s.log (Event.notices events)
    return .over .timedOut
  | .answered response _ events =>
    s.log (Event.notices events)
    let keep := head.keepsAlive && 0 < s.launch.settings.keepAliveTimeout
    send client (response.wire head.version (head.method == "HEAD") keep time)
    return if keep then .next else .over .closed

/-- Serves the requests of a connection, of which `left` has been read but not used. -/
partial def serveRequests (s : Shared) (client : TCP.Socket.Client) (arrival : Arrival)
    (deadline : Nat) (r : Http.Receiver) (left : Bytes) (told : Bool) : IO ConnectionEnd := do
  let (r, left) := r.feedAll left
  let tooLong := s.launch.settings.maxBodySize < r.bodyLength
  match r with
  | .bad =>
    send client (Http.Response.badRequest.wire .http11 false false (← now))
    return .failed "the request cannot be read"
  | .complete head body =>
    match ← answer s client arrival head body with
    | .over how => return how
    | .next => serveRequests s client arrival deadline (.head 0 []) left false
  | .sized head .. | .chunkSize head .. | .chunkData head .. | .chunkEnd head _ | .trailer head .. =>
    if tooLong then
      match ← answer s client arrival head (List.replicate (s.launch.settings.maxBodySize + 1) 0) with
      | .over how => return how
      | .next => return .closed
    else
      if head.awaitsContinue && !told then send client Http.continueLine
      more r true
  | r => more r told
where
  more (r : Http.Receiver) (told : Bool) : IO ConnectionEnd := do
    match ← receive client deadline with
    | .bytes b => serveRequests s client arrival deadline r b.toList told
    | .late => return .timedOut
    | .closed =>
      match r with
      | .head 0 _ => return .closed
      | _ => return .failed "the connection was closed before the request was complete"

def serveConnection (s : Shared) (client : TCP.Socket.Client) (task : Nat) : IO Unit := do
  let peer := ofSocket (← client.getPeerName)
  let patience := max s.launch.settings.readTimeout s.launch.settings.writeTimeout
  let host ← try pure (some (ofSocket (← client.getSockName))) catch e => do
    event s patience (.dropped peer (toString e))
    pure none
  match host with
  | none => return
  | some host =>
    event s patience (.accepted task peer)
    let deadline := (← IO.monoMsNow) + patience * 1000
    let how ← try serveRequests s client { peer, host, task } deadline (.head 0 []) [] false
      catch e => pure (.failed (toString e))
    event s patience (.ended task how)
    try client.shutdown.block catch _ => pure ()

/-- Accepts connections for ever. -/
partial def accept (s : Shared) (server : TCP.Socket.Server) (task : Nat) : IO Unit := do
  try
    let client ← server.accept.block
    discard (IO.asTask (serveConnection s client task) .dedicated)
  catch e => s.log [.plain .error ("Failed to accept connection: " ++ toString e)]
  accept s server (task + 1)

/-- Waits until no connection is open or the time for that is over. -/
partial def drain (s : Shared) (deadline : Nat) : IO Unit := do
  let c ← s.connections.get
  if c.count ≤ 0 then return
  if deadline ≤ (← IO.monoMsNow) then s.log c.drainNotices
  else
    IO.sleep 50
    drain s deadline

/-- Waits for one of the signals that end the host, and gives its name. -/
def awaitSignal : IO String := do
  let interrupt ← Signal.Waiter.mk .sigint false
  let terminate ← Signal.Waiter.mk .sigterm false
  (Selectable.one #[
    .case interrupt.selector fun _ => pure "SIGINT",
    .case terminate.selector fun _ => pure "SIGTERM"] : Async String).block

/-! ## The run -/

def environment : IO Settings.Environment := do
  let bytes := (← readFile? "/proc/self/environ").getD []
  return (bytes.splitOn 0).filterMap fun entry =>
    if entry.isEmpty then none
    else
      let name := entry.takeWhile (· ≠ 0x3D)
      some (Text.decoded name, Text.decoded (entry.drop (name.length + 1)))

/-- The settings file for a path below the directory `base`. -/
def settingsFile (base path : String) : IO (Option Settings.File) := do
  let path := String.ofList (Path.inDirectory base.toList path.toList)
  let plain ← readFile? path
  let ended ← readFile? ((Settings.endedPath? path).getD "")
  let read (p : String) : Option Bytes := if p = path then plain else ended
  return (Settings.findFile? read path).map fun f =>
    ⟨.ofList (Path.relativeTo base.toList f.1.toList), f.2⟩

def serve (s : Shared) (lifespan : Option Lifespan) : IO Unit := do
  let server ← TCP.Socket.Server.mk
  server.bind (socketOf s.launch.address)
  server.listen 128
  let bound := ofSocket (← server.getSockName)
  s.log (s.launch.notices bound)
  discard (IO.asTask (accept s server 1) .dedicated)
  let lifespan := lifespan.map fun l => Lifespan.run l.standing l.channel
  s.log (lifespan.elim [] fun p => Event.notices p.events)
  s.log [.signalled (← awaitSignal)]
  s.log [.shuttingDown]
  drain s ((← IO.monoMsNow) + Connections.drainTime * 1000)
  match lifespan with
  | none => return
  | some p =>
    let stopped := Lifespan.shutdown ⟨p.standing, p.channel⟩
    IO.sleep (.ofNat (stopped.waited * 1000))
    s.log (Event.notices stopped.events)

def effects (color : Bool) (filter : LogFilter) (directory : String) : Launch.Effects IO where
  report line := IO.eprintln line
  note events := log color filter (Event.notices events)
  serve launch lifespan := do
    let connections ← IO.mkRef {}
    try
      serve { launch, directory, color, filter, connections } lifespan
      return 0
    catch e => do
      IO.eprintln (Launch.program ++ ": I/O error: " ++ toString e)
      return 1
  linger := do
    discard awaitSignal
    return 0

def usage : String :=
  "Usage: " ++ Launch.program ++ " [-c CONFIG] [-e ENTRY] [-p PORT] [--host HOST] [--static-dir DIR]"

def run (arguments : List String) : IO UInt32 := do
  match CommandLine.ofArguments arguments with
  | .error e =>
    let out ← if e.exitCode = 0 then IO.getStdout else IO.getStderr
    out.putStrLn usage
    return .ofNat e.exitCode
  | .ok flags =>
    let env ← environment
    let color := Launch.usesColor env
    let base := (← IO.currentDir).toString
    match Settings.load (← settingsFile base flags.configPath) env with
    | .error e =>
      IO.eprintln (Launch.fatalLine color (.settings e))
      return .ofNat (StartupError.settings e).exitCode
    | .ok settings =>
      let settings := flags.apply settings
      let directory := String.ofList (Path.inDirectory base.toList settings.staticDir.toList)
      let effects := effects color (Launch.logFilter env settings) directory
      return .ofNat
        (← Launch.runM effects color Builtin.registry ⟨{}, directory.toList⟩ settings)

end Gateway.Main

def main (arguments : List String) : IO UInt32 := Gateway.Main.run arguments
