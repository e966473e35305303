import Gateway.Settings.Basic

/-! The settings one by one: where each stands in a store, and which values it can have. -/
namespace Gateway.Settings

/-- What the value of a setting must stand for. -/
inductive Kind where
  | text | truth | number | port
  deriving Repr, DecidableEq

namespace Value

/-- The text that a value stands for. -/
def text? : Value → Option String
  | text s => some s
  | integer n => some (toString n)
  | boolean b => some (toString b)
  | emptyTable => none

/-- The truth value that a value stands for. -/
def truth? : Value → Option Bool
  | boolean b => some b
  | integer n => some (n ≠ 0)
  | text s =>
    let word := Text.lowercase s
    if word ∈ "1" :: trueWords then some true
    else if word ∈ "0" :: falseWords then some false
    else none
  | emptyTable => none

/-- The number that a value stands for: a natural one. -/
def number? : Value → Option Nat
  | integer n => if n < 0 then none else some n.toNat
  | boolean b => some b.toNat
  | text s => (Section.numberOfText s).toOption
  | emptyTable => none

/-- The port that a value stands for. -/
def port? (v : Value) : Option UInt16 := (v.number?.filter (· < UInt16.size)).map .ofNat

end Value

/-- The value that `v` stands for, as one of this kind. -/
def Kind.read? : Kind → Value → Option Value
  | text, v => v.text?.map .text
  | truth, v => v.truth?.map .boolean
  | number, v => v.number?.map fun n : Nat => .integer n
  | port, v => v.port?.map fun p => .integer p.toNat

inductive Setting where
  | host | port | entry | staticDir | mount | strip | level | accessLog | accessLogFormat
  | serverName | maxBodySize | keepAliveTimeout | readTimeout | writeTimeout
  deriving Repr, DecidableEq

namespace Setting

def all : List Setting :=
  [host, port, entry, staticDir, mount, strip, level, accessLog, accessLogFormat, serverName,
   maxBodySize, keepAliveTimeout, readTimeout, writeTimeout]

theorem mem_all (x : Setting) : x ∈ all := by cases x <;> decide

/-- The section of a setting, and its name there. -/
def place : Setting → String × String
  | host => ("server", "host")
  | port => ("server", "port")
  | entry => ("app", "entry")
  | staticDir => ("static_files", "dir")
  | mount => ("route_prefix", "prefix")
  | strip => ("route_prefix", "strip")
  | level => ("logging", "level")
  | accessLog => ("logging", "access_log")
  | accessLogFormat => ("logging", "access_log_format")
  | serverName => ("http", "server_name")
  | maxBodySize => ("http", "max_body_size")
  | keepAliveTimeout => ("performance", "keep_alive_timeout")
  | readTimeout => ("performance", "read_timeout")
  | writeTimeout => ("performance", "write_timeout")

def key (x : Setting) : Key := [x.place.1, x.place.2]

def kind : Setting → Kind
  | host | entry | staticDir | mount | level | accessLogFormat | serverName => .text
  | strip | accessLog => .truth
  | maxBodySize | keepAliveTimeout | readTimeout | writeTimeout => .number
  | port => .port

/-- What the setting becomes where it is configured as `v`, if it can be. -/
def read? (x : Setting) (v : Value) : Option Value := x.kind.read? v

end Setting

/-- The value of one of the settings. -/
def value? (s : Settings) : Setting → Option Value
  | .host => some (.text s.host)
  | .port => s.port.map fun p => .integer p.toNat
  | .entry => some (.text s.entry)
  | .staticDir => some (.text s.staticDir)
  | .mount => s.mount.map .text
  | .strip => some (.boolean s.strip)
  | .level => some (.text s.level)
  | .accessLog => some (.boolean s.accessLog)
  | .accessLogFormat => some (.text s.accessLogFormat)
  | .serverName => some (.text s.serverName)
  | .maxBodySize => some (.integer s.maxBodySize)
  | .keepAliveTimeout => some (.integer s.keepAliveTimeout)
  | .readTimeout => some (.integer s.readTimeout)
  | .writeTimeout => some (.integer s.writeTimeout)

end Gateway.Settings
