/-! Declared call signatures, of which only the required positional parameters count. -/
namespace Gateway

inductive ParameterKind where
  | positionalOnly
  | positionalOrKeyword
  | variablePositional
  | keywordOnly
  | variableKeyword
  deriving Repr, DecidableEq

structure Parameter where
  name : String
  kind : ParameterKind := .positionalOrKeyword
  hasDefault : Bool := false
  deriving Repr, DecidableEq

/-- A caller has to pass the parameter, and by position. -/
def Parameter.isRequired (p : Parameter) : Bool :=
  !p.hasDefault && (p.kind == .positionalOnly || p.kind == .positionalOrKeyword)

abbrev Signature := List Parameter

def Signature.required (s : Signature) : Nat := s.countP Parameter.isRequired

/-- The signature of a callable whose parameters are all required. -/
def Signature.ofNames (names : List String) : Signature := names.map fun name => { name }

end Gateway
