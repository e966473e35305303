import Gateway.Text.Blank
import Gateway.Text.Utf8
import Gateway.Path

/-!
Mount points. A service mounted under `/svc` sees `/svc/items` as `/items`, and `/svc` is added to
the root its application is told.
-/
namespace Gateway

/-- A path with the mount point taken off, and the mount point that was: empty without a match. -/
structure Stripped where
  path : String
  matched : String
  deriving Repr, DecidableEq

def Stripped.isMatch (s : Stripped) : Bool := !s.matched.isEmpty

/-- A mount point in normal form, or the empty text where nothing is stripped. -/
structure Mount where
  text : String
  deriving Repr, DecidableEq

namespace Mount

def dropSlashes (s : List Char) : List Char := (s.reverse.dropWhile (· = '/')).reverse

/-- The normal form of a configured mount point: blanks trimmed, a slash in front and none at the
end, and nothing at all for text without a name in it. -/
def normalizeChars (raw : List Char) : List Char :=
  let t := Text.trim raw
  if t = [] then [] else dropSlashes (Path.rootedChars t)

/-- `normalizeChars` on strings. -/
def normalize (raw : String) : String := .ofList (normalizeChars raw.toList)

/-- The mount point written as `raw`. -/
def ofText (raw : String) : Mount := ⟨normalize raw⟩

def disabled : Mount := ⟨""⟩

/-- The mount point of the settings, which strips nothing unless it is enabled. -/
def ofSettings (raw : Option String) (enabled : Bool) : Mount :=
  if enabled then ofText (raw.getD "") else disabled

def isEnabled (m : Mount) : Bool := !m.text.isEmpty

/-- What follows `mount` in `path`: the path is the mount point itself, which leaves one slash, or
goes on with a slash after it. `slash` is the slash of the alphabet in use. -/
def remainder {α : Type} [BEq α] (slash : α) (mount path : List α) : Option (List α) :=
  if mount.isEmpty then none
  else
    match mount.isPrefixOf? path with
    | some [] => some [slash]
    | some (c :: r) => if c == slash then some (c :: r) else none
    | none => none

/-- Takes `mount`, used as it is, off a path that is first given its leading slash. -/
def strip (path mount : String) : Stripped :=
  let rooted := Path.rootedChars path.toList
  match remainder '/' mount.toList rooted with
  | some rest => ⟨.ofList rest, mount⟩
  | none => ⟨.ofList rooted, ""⟩

/-- The byte of the slash. -/
def slashByte : UInt8 := 0x2F

def rootedBytes (raw : Bytes) : Bytes :=
  if raw.head? = some slashByte then raw else slashByte :: raw

/-- `strip` on an undecoded path, whose other bytes stay as they are. -/
def stripBytes (raw : Bytes) (mount : String) : Bytes :=
  let rooted := rootedBytes raw
  (remainder slashByte (Text.utf8 mount) rooted).getD rooted

/-- The root that a path under `matched` has, given the root of the host: a lone slash counts as no
root, and slashes at its end are dropped. -/
def extendRoot (root matched : String) : String :=
  .ofList (dropSlashes root.toList) ++ matched

end Mount
end Gateway
