/-!
Stores of configured values: paths of names with a value each. Setting one path leaves the values
beside it as they are.
-/
namespace Gateway.Settings

abbrev Key := List String

/-- A configured value. -/
inductive Value where
  | text (s : String)
  | integer (n : Int)
  | boolean (b : Bool)
  /-- A table with nothing in it. -/
  | emptyTable
  deriving Repr, DecidableEq

/-- A value and the name of the place it comes from, if that is told. -/
structure Cell where
  value : Value
  origin : Option String := none
  deriving Repr, DecidableEq

/-- The cells by key. No key of a store lies below another one. -/
structure Store where
  cells : List (Key × Cell) := []
  deriving Repr, DecidableEq

/-- What a store holds at a key. -/
inductive Held where
  | nothing
  | cell (c : Cell)
  | table
  deriving Repr, DecidableEq

namespace Store

/-- The second key is the first or lies below it. -/
def covers (k l : Key) : Bool := k.isPrefixOf l

def get (s : Store) (k : Key) : Held :=
  match s.cells.lookup k with
  | some ⟨.emptyTable, _⟩ => .table
  | some c => .cell c
  | none => if s.cells.any fun e => covers k e.1 then .table else .nothing

/-- Puts a cell at a key. Whatever is above the key gives way to it; what is at the key or below it
does too, except that an empty table changes no table. -/
def set (s : Store) (k : Key) (c : Cell) : Store :=
  let free := s.cells.filter fun e => !(covers e.1 k && e.1 != k)
  if c.value = .emptyTable ∧ (free.any fun e => covers k e.1) then ⟨free⟩
  else ⟨(free.filter fun e => !covers k e.1) ++ [(k, c)]⟩

/-- Puts the values of one place over what is there. -/
def layer (s : Store) (origin : Option String) (values : List (Key × Value)) : Store :=
  values.foldl (fun s v => s.set v.1 { value := v.2, origin }) s

end Store
end Gateway.Settings
