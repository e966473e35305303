import Gateway.Entrypoint
import Gateway.StartupError
import Gateway.Text.Blank

/-! Entrypoint modules by name, and loading an entry written `module` or `module:attribute`. -/
namespace Gateway

/-- Named entrypoint objects of type `ε`; of two with one name the first counts. -/
abbrev Exports (ε : Type) := List (String × ε)

/-- The exports with an object under a name, in place of the one there was. -/
def Exports.add {ε : Type} (es : Exports ε) (name : String) (object : ε) : Exports ε :=
  (name, object) :: es

/-- Named modules; of two with one name the first counts. -/
abbrev Registry (ε : Type) := List (String × Exports ε)

/-- A loaded entrypoint and where it came from. -/
structure LoadedEntry (ε : Type) where
  module : String
  attr : String
  object : ε
  deriving Repr, DecidableEq

/-- `module:attribute`, as diagnostics show it. -/
def LoadedEntry.label {ε : Type} (l : LoadedEntry ε) : String := l.module ++ ":" ++ l.attr

namespace Registry

variable {ε : Type}

/-- The registry with a module under a name, in place of the one there was. -/
def register (r : Registry ε) (name : String) (es : Exports ε) : Registry ε := (name, es) :: r

/-- The two sides of the first colon, if there is one. -/
def splitColon (entry : List Char) : Option (List Char × List Char) :=
  match entry.dropWhile (· ≠ ':') with
  | [] => none
  | _ :: rest => some (entry.takeWhile (· ≠ ':'), rest)

/-- The attributes tried in turn when an entry names none. -/
def defaultAttributes : List String := ["app", "application"]

/-- The first of the default attributes that is exported. -/
def defaultExport? (es : Exports ε) : Option (String × ε) :=
  defaultAttributes.findSome? fun name => (es.lookup name).map (name, ·)

/-- Loads an entry. Blanks around either part do not count. -/
def load (r : Registry ε) (entry : String) : Except StartupError (LoadedEntry ε) :=
  let (module, attr) : String × Option String :=
    match splitColon entry.toList with
    | some (m, a) => (.ofList (Text.trim m), some (.ofList (Text.trim a)))
    | none => (Text.trimmed entry, none)
  match r.lookup module with
  | none => .error (.moduleNotFound module)
  | some es =>
    match attr with
    | some a =>
      match es.lookup a with
      | some object => .ok ⟨module, a, object⟩
      | none => .error (.missingAttribute module a)
    | none =>
      match defaultExport? es with
      | some (a, object) => .ok ⟨module, a, object⟩
      | none => .error (.missingApp module)

end Registry
end Gateway
