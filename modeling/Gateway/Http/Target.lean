/-!
Request targets: a path with an optional query, an absolute URI, an authority, or `*`. Of each only
the path and the query matter to the host.
-/
namespace Gateway.Http

/-- The path, still with its percent escapes, and the query. -/
structure Target where
  path : String
  query : Option String := none
  deriving Repr, DecidableEq

namespace Target

/-- Bytes in the longest target. -/
def maxLength : Nat := 65534

/-- Characters of the longest scheme. -/
def maxScheme : Nat := 64

/-- Colons an authority may hold in a row of characters without `@` or `]`. -/
def maxColons : Nat := 8

def isPathChar (c : Char) : Bool :=
  let n := c.toNat
  n == 0x21 || n == 0x22 || (0x24 ≤ n && n ≤ 0x3B) || n == 0x3D || (0x40 ≤ n && n ≤ 0x5F) || 0x61 ≤ n

def isQueryChar (c : Char) : Bool :=
  let n := c.toNat
  n == 0x21 || (0x24 ≤ n && n ≤ 0x3B) || n == 0x3D || 0x3F ≤ n

/-- Reads a path and what follows it. A fragment is dropped unread. -/
def ofPath? (s : List Char) : Option Target :=
  let kept := s.takeWhile (· ≠ '#')
  let path := kept.takeWhile (· ≠ '?')
  if !path.all isPathChar then none
  else
    match kept.dropWhile (· ≠ '?') with
    | [] => some ⟨.ofList path, none⟩
    | _ :: query =>
      if query.all isQueryChar then some ⟨.ofList path, some (.ofList query)⟩ else none

/-- An authority under way. -/
structure Authority where
  colons : Nat := 0
  opened : Bool := false
  closed : Bool := false
  /-- A `%` was read that may turn out to belong to user information. -/
  percent : Bool := false
  /-- The last character was an `@`. -/
  atEnd : Bool := false
  deriving Repr, DecidableEq

namespace Authority

/-- Characters of an authority that need no further thought. -/
def isPlain (c : Char) : Bool := c.isAlphanum || "!$&'()*+,-.;=_~".toList.contains c

def isEnd (c : Char) : Bool := c == '/' || c == '?' || c == '#'

def step (a : Authority) (c : Char) : Option Authority :=
  let a := { a with atEnd := false }
  if c = ':' then if a.colons ≥ maxColons then none else some { a with colons := a.colons + 1 }
  else if c = '[' then if a.percent || a.opened then none else some { a with opened := true }
  else if c = ']' then
    if !a.opened || a.closed then none
    else some { a with closed := true, colons := 0, percent := false }
  else if c = '@' then some { a with colons := 0, percent := false, atEnd := true }
  else if c = '%' then some { a with percent := true }
  else if isPlain c then some a
  else none

def isComplete (a : Authority) : Bool :=
  a.opened == a.closed && a.colons ≤ 1 && !a.atEnd && !a.percent

/-- The text is an authority, possibly an empty one. -/
def accepts (s : List Char) : Bool := (s.foldlM step {}).any isComplete

end Authority

def isSchemeChar (c : Char) : Bool := c.isAlphanum || "+-.~".toList.contains c

/-- The length of the scheme before a first `://`, if there is one. -/
def schemeLength? (s : List Char) : Option Nat :=
  let scheme := s.takeWhile isSchemeChar
  if [':', '/', '/'].isPrefixOf (s.drop scheme.length) then some scheme.length else none

def ofUri? (s : List Char) : Option Target :=
  match schemeLength? s with
  | none => if !s.any Authority.isEnd && Authority.accepts s then some ⟨"", none⟩ else none
  | some n =>
    let rest := s.drop (n + 3)
    let authority := rest.takeWhile fun c => !Authority.isEnd c
    if n > maxScheme || authority.isEmpty || !Authority.accepts authority then none
    else
      (ofPath? (rest.drop authority.length)).map fun t =>
        if t.path.isEmpty then { t with path := "/" } else t

def ofText? (s : String) : Option Target :=
  if s.utf8ByteSize > maxLength then none
  else
    match s.toList with
    | [] => none
    | ['*'] => some ⟨"*", none⟩
    | '/' :: rest => ofPath? ('/' :: rest)
    | cs => ofUri? cs

end Target
end Gateway.Http
