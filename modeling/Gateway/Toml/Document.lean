import Gateway.Settings.Store

/-!
What a TOML document defines. A document is a sequence of statements, headers and assignments, and no
statement may define again what another one did.
-/
namespace Gateway.Toml

open Settings (Key Value)

/-- A statement of a document. -/
inductive Statement where
  /-- Goes on in the table `path`. -/
  | header (path : Key)
  /-- Gives a value to `key`, counted from `base` in the current table. No value stands for an inline
  table, whose members follow as assignments of their own. -/
  | assign (base key : Key) (value : Option Value)
  deriving Repr, DecidableEq

/-- How a path came to be defined. -/
inductive Definition where
  | value (v : Value)
  | inlineTable
  /-- A table with a header of its own. -/
  | headed
  /-- A table that only headers of other tables name. -/
  | implied
  /-- A table that only dotted keys name. -/
  | dotted
  deriving Repr, DecidableEq

/-- The definitions so far, and the table that is current. -/
structure Document where
  definitions : List (Key × Definition) := []
  current : Key := []
  deriving Repr, DecidableEq

namespace Document

def definition? (d : Document) (path : Key) : Option Definition := d.definitions.lookup path

def define (d : Document) (path : Key) (x : Definition) : Document :=
  { d with definitions := d.definitions.filter (·.1 != path) ++ [(path, x)] }

/-- Enters each of the tables `names` below `above` in turn, defining as `fresh` those that are not
there yet; `admits` says which of the others may be entered. -/
def enter (fresh : Definition) (admits : Definition → Bool) (above : Key) :
    List String → Document → Option Document
  | [], d => some d
  | n :: ns, d =>
    let path := above ++ [n]
    match d.definition? path with
    | none => enter fresh admits path ns (d.define path fresh)
    | some x => if admits x then enter fresh admits path ns d else none

def isTable : Definition → Bool
  | .headed | .implied | .dotted => true
  | _ => false

def isOpen : Definition → Bool
  | .implied | .dotted => true
  | _ => false

/-- Makes a table current. It may have been implied, but not defined. -/
def header (d : Document) (path : Key) : Option Document := do
  let d ← enter .implied isTable [] path.dropLast d
  match d.definition? path with
  | none | some .implied => some { d.define path .headed with current := path }
  | some _ => none

/-- Gives a value to a key in the table `base`. A table that a dotted key adds to must be one that
dotted keys made. -/
def assign (d : Document) (base key : Key) (x : Definition) : Option Document := do
  let d ← enter .dotted isOpen base key.dropLast d
  let addsTo := base ++ key.dropLast
  if addsTo ≠ base ∧ d.definition? addsTo ≠ some .dotted then none
  else
    match d.definition? (base ++ key) with
    | none => some (d.define (base ++ key) x)
    | some _ => none

def run (d : Document) : Statement → Option Document
  | .header path => d.header path
  | .assign base key value => d.assign (d.current ++ base) key (value.elim .inlineTable .value)

/-- The document of statements, if none of them defines anything again. -/
def ofStatements? (ss : List Statement) : Option Document := ss.foldlM run {}

/-- The values that a document defines, and its empty tables. -/
def values (d : Document) : List (Key × Value) :=
  d.definitions.filterMap fun (path, x) =>
    match x with
    | .value v => some (path, v)
    | _ =>
      if d.definitions.any fun e => Settings.Store.covers path e.1 && e.1 != path then none
      else some (path, .emptyTable)

end Document
end Gateway.Toml
