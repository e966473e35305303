import Gateway.Settings.Store
import Gateway.Text.Quoted

/-! What can be wrong with configured values. -/
namespace Gateway.Settings

/-- What stands where something else was expected. -/
inductive Found where
  | text (s : String)
  | integer (n : Int)
  | boolean (b : Bool)
  | negative (n : Int)
  | large (n : Nat)
  | table
  deriving Repr, DecidableEq

def Found.message : Found → String
  | text s => "string " ++ Text.quoted s
  | integer n => "integer `" ++ toString n ++ "`"
  | boolean b => "boolean `" ++ toString b ++ "`"
  | negative n => "64-bit integer `" ++ toString n ++ "`"
  | large n => "64-bit unsigned integer `" ++ toString n ++ "`"
  | table => "map"

/-- Why settings could not be loaded. -/
inductive LoadError where
  /-- The settings file cannot be read as one. -/
  | unreadable
  | wrongType (found : Found) (expected : String) (key : Key) (origin : Option String)
  | noSection (found : Found) (expected : String)
  | missing (name : String)
  deriving Repr, DecidableEq

def LoadError.message : LoadError → String
  | unreadable => "the settings file cannot be parsed"
  | wrongType found expected key origin =>
    "invalid type: " ++ found.message ++ ", expected " ++ expected ++ " for key `" ++
      ".".intercalate key ++ "`" ++ (origin.elim "" fun o => " in " ++ o)
  | noSection found expected =>
    "invalid type: " ++ found.message ++ ", expected struct " ++ expected
  | missing name => "missing field `" ++ name ++ "`"

end Gateway.Settings
