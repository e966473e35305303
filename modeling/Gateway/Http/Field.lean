import Gateway.Message

/-! Which texts are names and values of HTTP header fields. -/
namespace Gateway.Http

/-- The marks a token may hold beside letters and digits. -/
def tokenMarks : List Char := "!#$%&'*+-.^_`|~".toList

def isTokenChar (c : Char) : Bool := c.isAlphanum || tokenMarks.contains c

def isToken (s : String) : Bool := !s.isEmpty && s.toList.all isTokenChar

/-- Characters in the longest field name. -/
def maxFieldName : Nat := 65535

def isFieldName (s : String) : Bool := isToken s && s.length ≤ maxFieldName

/-- Tabs, and every byte that is no control. Bytes of 0x80 and above are opaque text. -/
def isValueByte (b : UInt8) : Bool := (0x20 ≤ b && b != 0x7F) || b == 0x09

def isFieldValue (value : Bytes) : Bool := value.all isValueByte

/-- A field on the wire: its name in lower case and the bytes of its value. -/
abbrev WireField := String × Bytes

/-- What is wrong with a field. -/
inductive FieldError where
  | badName
  | badValue
  deriving Repr, DecidableEq

def FieldError.message : FieldError → String
  | badName => "invalid HTTP header name"
  | badValue => "failed to parse header value"

/-- The field of a name and the bytes of a value. The name is checked first. -/
def wireField (name : String) (value : Bytes) : Except FieldError WireField :=
  if !isFieldName name then .error .badName
  else if !isFieldValue value then .error .badValue
  else .ok (name.toLower, value)

end Gateway.Http
