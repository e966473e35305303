import Gateway.Address
import Gateway.Mount
import Gateway.Settings.Section
import Gateway.StartupError

/-! The settings of the host, and what follows from them. -/
namespace Gateway

/-- Settings as they were configured. There is no default port. -/
structure Settings where
  host : String
  port : Option UInt16
  entry : String
  staticDir : String
  mount : Option String
  strip : Bool
  level : String
  accessLog : Bool
  accessLogFormat : String
  serverName : String
  maxBodySize : Nat
  keepAliveTimeout : Nat
  readTimeout : Nat
  writeTimeout : Nat
  deriving Repr, DecidableEq

namespace Settings

/-- The format of access records where none is set. -/
def defaultFormat : String := "common"

/-- Reads the settings from a store. In each section a field of a wrong type is told before one that
is missing. -/
def ofStore (s : Store) : Except LoadError Settings := do
  let server ← Section.open? s "server" "ServerConfig"
  let host ← server.text "host"
  let port ← server.port "port"
  let host ← Section.require "host" host
  let app ← Section.open? s "app" "AppConfig"
  let entry ← app.text "entry" >>= Section.require "entry"
  let files ← Section.open? s "static_files" "StaticFilesConfig"
  let staticDir ← files.text "dir" >>= Section.require "dir"
  let mounting ← Section.open? s "route_prefix" "RoutePrefixConfig"
  let mount ← mounting.text "prefix"
  let strip ← mounting.boolean "strip" >>= Section.require "strip"
  let logging ← Section.open? s "logging" "LoggingConfig"
  let level ← logging.text "level"
  let accessLog ← logging.boolean "access_log"
  let format ← logging.text "access_log_format"
  let level ← Section.require "level" level
  let accessLog ← Section.require "access_log" accessLog
  let http ← Section.open? s "http" "HttpConfig"
  let serverName ← http.text "server_name"
  let maxBodySize ← http.number "max_body_size"
  let serverName ← Section.require "server_name" serverName
  let maxBodySize ← Section.require "max_body_size" maxBodySize
  let performance ← Section.open? s "performance" "PerformanceConfig"
  let keepAliveTimeout ← performance.number "keep_alive_timeout"
  let readTimeout ← performance.number "read_timeout"
  let writeTimeout ← performance.number "write_timeout"
  let keepAliveTimeout ← Section.require "keep_alive_timeout" keepAliveTimeout
  let readTimeout ← Section.require "read_timeout" readTimeout
  let writeTimeout ← Section.require "write_timeout" writeTimeout
  return { host, port, entry, staticDir, mount, strip, level, accessLog
           accessLogFormat := format.getD defaultFormat, serverName, maxBodySize
           keepAliveTimeout, readTimeout, writeTimeout }

def requiredPort (s : Settings) : Except StartupError UInt16 :=
  match s.port with
  | some p => .ok p
  | none => .error .missingPort

def addressText (host : String) (port : UInt16) : String := host ++ ":" ++ toString port.toNat

def address (s : Settings) : Except StartupError SocketAddress := do
  let text := addressText s.host (← s.requiredPort)
  match SocketAddress.ofText? text with
  | some a => return a
  | none => throw (.invalidAddress text)

def effectiveMount (s : Settings) : Mount := .ofSettings s.mount s.strip

end Settings
end Gateway
