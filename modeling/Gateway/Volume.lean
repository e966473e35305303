import Gateway.Path
import Gateway.Text.Utf8

/-!
File trees with symbolic links, and the canonical path of a file: the one without links, `.` and
`..`, found by walking the tree.
-/
namespace Gateway

/-- The names on the way from the root of a volume to one of its entries. -/
abbrev Location := List Path.Segment

def Location.text (p : Location) : List Char := '/' :: Path.join p

/-- What keeps a file from being read to its end. -/
inductive Fault where
  | unopenable
  /-- The file is opened, but there are no metadata of it. -/
  | unmeasurable
  /-- Behind the data reading fails, with the text of an error. -/
  | unreadable (error : String)
  deriving Repr, DecidableEq

/-- A regular file: the bytes that are read of it, and its length by its metadata. -/
structure File where
  data : Bytes
  size : Nat := data.length
  fault : Option Fault := none
  deriving Repr, DecidableEq

namespace File

/-- A file that is read to its end. -/
def ofData (data : Bytes) : File := { data }

/-- The file can be opened and measured. -/
def opens (f : File) : Bool :=
  match f.fault with
  | some .unopenable | some .unmeasurable => false
  | some (.unreadable _) | none => true

/-- The error with which reading the file ends, if it does not end with the data. -/
def readError? (f : File) : Option String :=
  match f.fault with
  | some (.unreadable error) => some error
  | some .unopenable | some .unmeasurable | none => none

end File

/-- What a volume holds at a location. -/
inductive Entry where
  | file (file : File)
  | directory
  /-- A symbolic link and the text of its target. -/
  | link (target : List Char)
  deriving Repr, DecidableEq

/-- A file tree. Of two entries at one location the first counts. -/
structure Volume where
  entries : List (Location × Entry) := []
  deriving Repr

namespace Volume

/-- The entry at a location, links not followed. The root is a directory. -/
def entry? (v : Volume) (p : Location) : Option Entry :=
  if p.isEmpty then some .directory else v.entries.lookup p

def isDirectory (v : Volume) (p : Location) : Bool := v.entry? p == some .directory

/-- Links that one path may pass through. -/
def maxLinks : Nat := 40

/-- Bytes in the longest name. -/
def maxName : Nat := 255

/-- A path of this many bytes is too long. -/
def maxPath : Nat := 4096

/-- The name may be looked up in the directory `here`. -/
def admits (here : Location) (name : Path.Segment) : Bool :=
  (Text.encode name).length ≤ maxName &&
    (Text.encode (Location.text (here ++ [name]))).length < maxPath

/-- Walks on from `here` over `todo`, passing through at most `links` links. Every step needs a
directory to start in, one that goes nowhere too. -/
def walk (v : Volume) (links : Nat) (here : Location) : List Path.Segment → Option Location
  | [] => some here
  | s :: todo =>
    if !v.isDirectory here then none
    else if s = [] ∨ s = Path.dot then v.walk links here todo
    else if s = Path.dotDot then v.walk links here.dropLast todo
    else if !admits here s then none
    else
      match v.entry? (here ++ [s]) with
      | none => none
      | some (.link target) =>
        match links with
        | 0 => none
        | n + 1 => v.walk n (if Path.isAbsolute target then [] else here) (Path.segments target ++ todo)
      | some _ => v.walk links (here ++ [s]) todo
  termination_by todo => (links, todo.length)

/-- The canonical location of an absolute path, if it names an entry. Only absolute paths have one: a
volume has no working directory, and a relative path is joined to that of the program beforehand. -/
def canonical? (v : Volume) (path : List Char) : Option Location :=
  if path.contains '\x00' || !Path.isAbsolute path then none
  else v.walk maxLinks [] (Path.segments path)

/-- The volume with an entry at a location, in place of the one there was. -/
def put (v : Volume) (p : Location) (e : Entry) : Volume :=
  ⟨(p, e) :: v.entries.filter (·.1 != p)⟩

/-- Makes the directories of a path that are not there yet, and gives the location it ends in. -/
def makeDirectories (v : Volume) (here : Location) : List Path.Segment → Option (Volume × Location)
  | [] => if v.isDirectory here then some (v, here) else none
  | s :: todo =>
    match v.walk maxLinks here [s] with
    | some next => v.makeDirectories next todo
    | none =>
      if v.isDirectory here && (v.entry? (here ++ [s])).isNone && admits here s then
        (v.put (here ++ [s]) .directory).makeDirectories (here ++ [s]) todo
      else none

/-- Writes an entry at an absolute path, after the directories on the way. A file is written through
links that lead to one. -/
def write (v : Volume) (path : List Char) (e : Entry) : Option Volume := do
  if path.contains '\x00' then none
  let (name, above) ← match (Path.segments path).reverse.dropWhile (· = []) with
    | [] => none
    | s :: rest => some (s, rest.reverse)
  let (v, here) ← v.makeDirectories [] above
  match e with
  | .directory => (v.makeDirectories here [name]).map (·.1)
  | .link _ =>
    if (v.entry? (here ++ [name])).isNone && admits here name then some (v.put (here ++ [name]) e)
    else none
  | .file _ =>
    match v.walk maxLinks here [name] with
    | some p =>
      match v.entry? p with
      | some (.file _) => some (v.put p e)
      | _ => none
    | none =>
      if (v.entry? (here ++ [name])).isNone && admits here name then some (v.put (here ++ [name]) e)
      else none

/-- The volume of what one lookup meets: the directory `root`, the directories on the way down from it
to the last of `names`, and the entry to which that way leads, which may be elsewhere. -/
def ofLookup (root : Location) (names : List Path.Segment) (target : Location) (e : Entry) : Volume :=
  let way (p : Location) : List (Location × Entry) :=
    (List.range p.length).map fun n => (p.take n, .directory)
  let lookedUp := root ++ names
  let last := if lookedUp = target then [] else [(lookedUp, .link (Location.text target))]
  ⟨(target, e) :: last ++ way target ++ way lookedUp ++ [(root, .directory)]⟩

end Volume
end Gateway
