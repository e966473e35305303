import Gateway.Settings.Layers

/-! The command line: flags that each take a value, long or short, and their effect on settings. -/
namespace Gateway

/-- The flags of the program. -/
inductive Flag where
  | config | entry | port | host | staticDir
  deriving Repr, DecidableEq

/-- Why a command line is not run. -/
inductive UsageError where
  | help
  | version
  | unexpected (argument : String)
  | repeated (flag : Flag)
  | missingValue (flag : Flag)
  | badPort (value : String)
  deriving Repr, DecidableEq

/-- The exit status: asking for help is no mistake. -/
def UsageError.exitCode : UsageError → Nat
  | help | version => 0
  | _ => 2

namespace Flag

def long : List (String × Flag) :=
  [("config", config), ("entry", entry), ("port", port), ("host", host), ("static-dir", staticDir)]

def short : List (Char × Flag) := [('c', config), ('e', entry), ('p', port)]

end Flag

/-- The values of the flags that were given. -/
structure CommandLine where
  config : Option String := none
  entry : Option String := none
  port : Option UInt16 := none
  host : Option String := none
  staticDir : Option String := none
  deriving Repr, DecidableEq

namespace CommandLine

/-- The settings file that is read by default, without its ending. -/
def defaultConfig : String := "devroute"

/-- A port in decimal, possibly with a sign and with zeros in front. -/
def port? (value : String) : Option UInt16 :=
  let (negative, digits) := match value.toList with
    | '+' :: r => (false, r)
    | '-' :: r => (true, r)
    | cs => (false, cs)
  let n := digits.foldl (fun n c => n * 10 + (c.toNat - 0x30)) 0
  if digits.isEmpty || !digits.all Char.isDigit || UInt16.size ≤ n || (negative && n != 0) then none
  else some (.ofNat n)

def give (c : CommandLine) (flag : Flag) (value : String) : Except UsageError CommandLine :=
  let once {α : Type} (old : Option α) (new : CommandLine) : Except UsageError CommandLine :=
    if old.isSome then .error (.repeated flag) else .ok new
  match flag with
  | .config => once c.config { c with config := some value }
  | .entry => once c.entry { c with entry := some value }
  | .host => once c.host { c with host := some value }
  | .staticDir =>
    if value.isEmpty then .error (.missingValue flag)
    else once c.staticDir { c with staticDir := some value }
  | .port =>
    match port? value with
    | some p => once c.port { c with port := some p }
    | none => .error (.badPort value)

/-- What one argument is. -/
inductive Argument where
  | valued (flag : Flag) (value : String)
  /-- A flag whose value is the next argument. -/
  | awaiting (flag : Flag)
  | asking (e : UsageError)
  deriving Repr, DecidableEq

def readLong (argument : String) (s : List Char) : Argument :=
  let name := String.ofList (s.takeWhile (· ≠ '='))
  match s.dropWhile (· ≠ '='), List.lookup name Flag.long with
  | _ :: value, some flag => .valued flag (.ofList value)
  | [], some flag => .awaiting flag
  | [], none =>
    if name = "help" then .asking .help
    else if name = "version" then .asking .version
    else .asking (.unexpected argument)
  | _ :: _, none => .asking (.unexpected argument)

/-- Reads an argument behind one hyphen. A value may follow at once or behind an equals sign. -/
def readShort (argument : String) (c : Char) (s : List Char) : Argument :=
  match List.lookup c Flag.short, s with
  | some flag, [] => .awaiting flag
  | some flag, '=' :: value => .valued flag (.ofList value)
  | some flag, value => .valued flag (.ofList value)
  | none, _ =>
    if c = 'h' then .asking .help
    else if c = 'V' then .asking .version
    else .asking (.unexpected argument)

def readArgument (argument : String) : Argument :=
  match argument.toList with
  | '-' :: '-' :: s => readLong argument s
  | '-' :: c :: s => readShort argument c s
  | _ => .asking (.unexpected argument)

/-- The argument can be the value of the flag before it. -/
def isValue (argument : String) : Bool := !argument.startsWith "-" || argument == "-"

/-- Reads arguments after `c`. -/
def readFrom (c : CommandLine) : List String → Except UsageError CommandLine
  | [] => .ok c
  | "--" :: rest =>
    match rest with
    | [] => .ok c
    | argument :: _ => .error (.unexpected argument)
  | argument :: rest =>
    match readArgument argument with
    | .asking e => .error e
    | .valued flag value => c.give flag value >>= fun c => readFrom c rest
    | .awaiting flag =>
      match rest with
      | value :: rest =>
        if isValue value then c.give flag value >>= fun c => readFrom c rest
        else .error (.missingValue flag)
      | [] => .error (.missingValue flag)

def ofArguments (arguments : List String) : Except UsageError CommandLine := readFrom {} arguments

def configPath (c : CommandLine) : String := c.config.getD defaultConfig

def apply (c : CommandLine) (s : Settings) : Settings :=
  { s with
    entry := c.entry.getD s.entry
    port := c.port.orElse fun _ => s.port
    host := c.host.getD s.host
    staticDir := c.staticDir.getD s.staticDir }

end CommandLine
end Gateway
