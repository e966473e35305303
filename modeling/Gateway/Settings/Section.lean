import Gateway.Settings.Error
import Gateway.Text.Lowercase

/-!
Reading one section of a store: each field is converted to the type it should have. Text stands for
numbers and truth values where it spells one, and the other way round.
-/
namespace Gateway.Settings

/-- A section of a store and the name its readers know it by. -/
structure Section where
  store : Store
  name : String
  expected : String

/-- The words for true and for false beside `1` and `0`, in lower case. -/
def trueWords : List String := ["true", "on", "yes"]
def falseWords : List String := ["false", "off", "no"]

/-- A number of 64 bits in decimal. A plus sign may stand in front. -/
def natural? (s : String) : Option Nat :=
  let digits := match s.toList with
    | '+' :: r => r
    | cs => cs
  let n := digits.foldl (fun n c => n * 10 + (c.toNat - 0x30)) 0
  if digits.isEmpty || !digits.all Char.isDigit || UInt64.size ≤ n then none else some n

namespace Section

def open? (store : Store) (name expected : String) : Except LoadError Section :=
  match store.get [name] with
  | .cell ⟨.text s, _⟩ => .error (.noSection (.text s) expected)
  | .cell ⟨.integer n, _⟩ => .error (.noSection (.integer n) expected)
  | .cell ⟨.boolean b, _⟩ => .error (.noSection (.boolean b) expected)
  | .nothing => .error (.missing name)
  | _ => .ok { store, name, expected }

/-- Reads a field by `convert`, which gets the cell and says what it found where it cannot. -/
def field {α : Type} (s : Section) (name expected : String)
    (convert : Cell → Except Found α) : Except LoadError (Option α) :=
  let key := [s.name, name]
  let wrong (found : Found) (origin : Option String) : Except LoadError (Option α) :=
    .error (.wrongType found expected key origin)
  match s.store.get key with
  | .nothing => .ok none
  | .table => wrong .table none
  | .cell c =>
    match convert c with
    | .ok a => .ok (some a)
    | .error found => wrong found c.origin

def require {α : Type} (name : String) : Option α → Except LoadError α
  | some a => .ok a
  | none => .error (.missing name)

def text (s : Section) (name : String) : Except LoadError (Option String) :=
  s.field name "a string" fun c =>
    match c.value with
    | .text t => .ok t
    | .integer n => .ok (toString n)
    | .boolean b => .ok (toString b)
    | .emptyTable => .error .table

def boolean (s : Section) (name : String) : Except LoadError (Option Bool) :=
  s.field name "a boolean" fun c =>
    match c.value with
    | .boolean b => .ok b
    | .integer n => .ok (n ≠ 0)
    | .text t =>
      let word := Text.lowercase t
      if word = "1" ∨ word ∈ trueWords then .ok true
      else if word = "0" ∨ word ∈ falseWords then .ok false
      else .error (.text word)
    | .emptyTable => .error .table

def numberOfText (t : String) : Except Found Nat :=
  let word := Text.lowercase t
  if word ∈ trueWords then .ok 1
  else if word ∈ falseWords then .ok 0
  else
    match natural? t with
    | some n => .ok n
    | none => .error (.text t)

/-- Reads a number of 64 bits. A negative one is told apart from what is no number. -/
def number (s : Section) (name : String) : Except LoadError (Option Nat) :=
  match s.store.get [s.name, name] with
  | .cell ⟨.integer (.negSucc n), origin⟩ =>
    .error (.wrongType (.negative (.negSucc n)) "an unsigned 64 bit or less integer" [s.name, name] origin)
  | _ =>
    s.field name "an integer" fun c =>
      match c.value with
      | .integer n => .ok n.toNat
      | .boolean b => .ok b.toNat
      | .text t => numberOfText t
      | .emptyTable => .error .table

def port (s : Section) (name : String) : Except LoadError (Option UInt16) := do
  match ← s.number name with
  | none => return none
  | some n =>
    if n < UInt16.size then return some (.ofNat n)
    else throw (.wrongType (.large n) "an unsigned 16 bit integer" [s.name, name] none)

end Section
end Gateway.Settings
