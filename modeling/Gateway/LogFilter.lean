import Gateway.Notice

/-! Which notices reach the log: a list of levels, each for a part of the program or for all of it. -/
namespace Gateway

/-- A level for the notices of some origin; no level lets none of them pass. -/
structure Directive where
  target : String := ""
  level : Option Level
  deriving Repr, DecidableEq

/-- Directives, of which the one with the longest target that fits a notice decides. -/
abbrev LogFilter := List Directive

def Level.verbosity : Level → Nat
  | error => 1
  | warn => 2
  | info | access => 3
  | debug => 4

/-- The part of the program that a notice comes from. -/
def Notice.target (n : Notice) : String :=
  match n.level with
  | .access => "devroute::access"
  | _ => "devroute"

namespace LogFilter

/-- The levels by name and by number. More than everything is nothing more than everything. -/
def levels : List (String × Option Level) :=
  [("off", none), ("0", none), ("error", some .error), ("1", some .error), ("warn", some .warn),
   ("2", some .warn), ("info", some .info), ("3", some .info), ("debug", some .debug),
   ("4", some .debug), ("trace", some .debug), ("5", some .debug)]

def level? (s : String) : Option (Option Level) := List.lookup s.toLower levels

def isTargetChar (c : Char) : Bool := c.isAlphanum || c == '_' || c == ':' || c == '-'

/-- Reads a directive: a level, a target, or both with an equals sign between them. -/
def directive? (s : String) : Option Directive :=
  match s.splitOn "=" with
  | [one] =>
    match level? one with
    | some level => some { level }
    | none => if one.toList.all isTargetChar then some ⟨one, some .debug⟩ else none
  | [target, level] =>
    if target.toList.all isTargetChar then (level? level).map fun level => ⟨target, level⟩ else none
  | _ => none

/-- Reads directives with commas between them. Where there are none, errors pass. -/
def ofText? (s : String) : Option LogFilter := do
  let ds ← ((s.splitOn ",").filter (!·.isEmpty)).mapM directive?
  return if ds.isEmpty then [{ level := some .error }] else ds

/-- The filter of the first text that is one, and otherwise of the level `info`. -/
def firstOf (texts : List String) : LogFilter :=
  (texts.findSome? ofText?).getD [{ level := some .info }]

def deciding (f : LogFilter) (n : Notice) : Option Directive :=
  (List.filter (fun d => n.target.startsWith d.target) f).foldl (fun best d =>
    match best with
    | some b => if b.target.length ≤ d.target.length then some d else some b
    | none => some d) none

def passes (f : LogFilter) (n : Notice) : Bool :=
  match deciding f n with
  | some ⟨_, some level⟩ => n.level.verbosity ≤ level.verbosity
  | _ => false

end LogFilter
end Gateway
