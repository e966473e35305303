import Gateway.Settings.Error

/-! Everything that keeps the host from starting. -/
namespace Gateway

inductive StartupError where
  | moduleNotFound (module : String)
  | missingApp (module : String)
  | missingAttribute (module attr : String)
  | undetermined (entry : String)
  | missingPort
  | invalidAddress (address : String)
  | settings (e : Settings.LoadError)
  | lifespanFailed (reason : String)
  deriving Repr, DecidableEq

namespace StartupError

def message : StartupError → String
  | moduleNotFound module => "Could not load module '" ++ module ++ "': no such entrypoint module"
  | missingApp module =>
    "Missing 'app' or 'application' in module '" ++ module ++
      "'. Define `app = ...` or `application = ...` in your entrypoint."
  | missingAttribute module attr =>
    "Attribute '" ++ attr ++ "' not found in module '" ++ module ++ "'"
  | undetermined entry =>
    "Could not determine the application interface for '" ++ entry ++ "'\n" ++
      "Expected either:\n" ++
      "  - An async app: async callable(scope, receive, send)\n" ++
      "  - A sync app: callable(environ, start_response)"
  | missingPort => "PORT environment variable is required."
  | invalidAddress address =>
    "Invalid address '" ++ address ++ "': invalid socket address syntax"
  | settings e => "Configuration error: " ++ e.message
  | lifespanFailed reason => "Lifespan startup failed: " ++ reason

/-- The exit status of the process, the same for all. -/
def exitCode (_ : StartupError) : Nat := 1

end StartupError
end Gateway
