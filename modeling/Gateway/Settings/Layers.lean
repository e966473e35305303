import Gateway.Settings.Basic
import Gateway.Text.Substitution
import Gateway.Toml.Reader

/-!
The layers of the settings, from the lowest to the highest: defaults, the settings file, variables
named after the settings, and the variables of a hosting platform.
-/
namespace Gateway.Settings

/-- Environment variables. Of several with one name the last counts, and so it does of several that
stand for one setting: the program takes those in no fixed order, so the list is one of the orders. -/
abbrev Environment := List (String × String)

def Environment.get? (env : Environment) (name : String) : Option String :=
  List.lookup name (List.reverse env)

/-- The text of a settings file and the name that errors give to it. -/
structure File where
  name : String
  data : Bytes
  deriving Repr, DecidableEq

/-- `1` and `true` in any letter case of ASCII. -/
def isTruthy (raw : String) : Bool := raw == "1" || raw.toLower == "true"

def isNameChar (c : Char) : Bool := c.isAlphanum || " _-".toList.contains c

def splitDots : List Char → List (List Char)
  | [] => [[]]
  | c :: r =>
    if c = '.' then [] :: splitDots r
    else
      match splitDots r with
      | [] => [[c]]
      | n :: ns => (c :: n) :: ns

def Key.ofText? (s : List Char) : Option Key :=
  let names := splitDots s
  if names.all fun n => !n.isEmpty && n.all isNameChar then some (names.map String.ofList) else none

def defaults : List (Key × Value) :=
  [(["server", "host"], .text "127.0.0.1"), (["app", "entry"], .text "main"),
   (["static_files", "dir"], .text "public"), (["route_prefix", "strip"], .boolean false),
   (["logging", "level"], .text "info"), (["logging", "access_log"], .boolean true),
   (["logging", "access_log_format"], .text defaultFormat),
   (["http", "server_name"], .text "devroute"), (["http", "max_body_size"], .integer 10485760),
   (["performance", "keep_alive_timeout"], .integer 5), (["performance", "read_timeout"], .integer 60),
   (["performance", "write_timeout"], .integer 60)]

/-- A key of the file as one of the store: names are in lower case, and dots in the first name
separate names. -/
def fileKey : Key → Key
  | [] => []
  | n :: ns => ((Key.ofText? n.toList).getD [n] ++ ns).map Text.lowercase

/-- The values of the file. Bytes that are no text are replaced, and a byte order mark is dropped. -/
def fileValues (data : Bytes) : Except LoadError (List (Key × Value)) :=
  let text := match data with
    | 0xEF :: 0xBB :: 0xBF :: r => Text.decode r
    | _ => Text.decode data
  match Toml.read? text with
  | some values => .ok (values.map fun v => (fileKey v.1, v.2))
  | none => .error .unreadable

/-- What names of variables begin with that stand for settings, in lower case. -/
def variableStart : List Char := "devroute__".toList

/-- The setting a variable stands for: two underscores separate names, in any letter case. -/
def variableKey? (name : String) : Option Key :=
  match variableStart.isPrefixOf? (Text.lowercase name).toList with
  | some rest => Key.ofText? (Text.replaceAll ['_', '_'] ['.'] rest)
  | none => none

/-- The values of the variables that stand for settings. -/
def variableValues (env : Environment) : List (Key × Value) :=
  env.filterMap fun v => (variableKey? v.1).map fun k => (k, .text v.2)

/-- The values of the platform's variables. An empty port counts as none. -/
def platformValues (env : Environment) : List (Key × Value) :=
  (match env.get? "PORT" with
    | some p => if p.isEmpty then [] else [(["server", "port"], .text p)]
    | none => []) ++
  (match env.get? "SERVICE_ROUTE_PREFIX" with
    | some p => [(["route_prefix", "prefix"], .text p)]
    | none => []) ++
  (match env.get? "SERVICE_ROUTE_PREFIX_STRIP" with
    | some s => [(["route_prefix", "strip"], .boolean (isTruthy s))]
    | none => [])

def layers (file : Option File) (env : Environment) : Except LoadError Store := do
  let values ← file.elim (.ok []) fun f => fileValues f.data
  return ({} : Store)
    |>.layer none defaults
    |>.layer (file.map (·.name)) values
    |>.layer (some "the environment") (variableValues env)
    |>.layer none (platformValues env)

def load (file : Option File) (env : Environment) : Except LoadError Settings :=
  layers file env >>= ofStore

def fileEnding : String := "toml"

/-- The path of a settings file named without its ending. -/
def endedPath? (path : String) : Option String :=
  match (Path.segments path.toList).reverse.dropWhile fun s => s = [] ∨ s = Path.dot with
  | [] => none
  | name :: above =>
    if name = Path.dotDot then none
    else some (.ofList (Path.join (name :: above).reverse) ++ "." ++ fileEnding)

/-- Finds the settings file that `path` names, with or without its ending. A file of just that name
is taken only if it has the ending, and otherwise there is none. -/
def findFile? (read : String → Option Bytes) (path : String) : Option (String × Bytes) :=
  match read path with
  | some data => if Path.extension? path = some fileEnding then some (path, data) else none
  | none => (endedPath? path).bind fun full => (read full).map (full, ·)

end Gateway.Settings
