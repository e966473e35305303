/-!
Internet addresses in their text forms: how they are written, and the grammar by which a socket
address is read.
-/
namespace Gateway

/-- An address of version 6: eight groups of 16 bits. -/
structure Ip6 where
  groups : List UInt16
  length_groups : groups.length = 8
  deriving Repr, DecidableEq

inductive IpAddress where
  | v4 (a b c d : UInt8)
  | v6 (address : Ip6)
  deriving Repr, DecidableEq

/-- An address, the zone it is valid in (zero for none; only version 6 has zones) and a port. -/
structure SocketAddress where
  ip : IpAddress
  zone : UInt32 := 0
  port : UInt16
  deriving Repr, DecidableEq

/-! ## Writing -/

namespace Ip6

/-- A run of zero groups: where it starts and how long it is. -/
structure Run where
  start : Nat
  length : Nat
  deriving Repr, DecidableEq

/-- The longest run of zeros, the first of several, among groups from the index `i` on. -/
def longestRun (best current : Run) : Nat → List UInt16 → Run
  | _, [] => best
  | i, g :: gs =>
    if g = 0 then
      let current := if current.length = 0 then ⟨i, 1⟩ else { current with length := current.length + 1 }
      longestRun (if best.length < current.length then current else best) current (i + 1) gs
    else longestRun best ⟨0, 0⟩ (i + 1) gs

def joined (gs : List UInt16) : String :=
  ":".intercalate (gs.map fun g => .ofList (Nat.toDigits 16 g.toNat))

end Ip6

namespace IpAddress

def dotted (a b c d : UInt8) : String :=
  ".".intercalate ([a, b, c, d].map fun x => toString x.toNat)

/-- The high and the low byte of a group. -/
def bytesOf (g : UInt16) : UInt8 × UInt8 := (.ofNat (g.toNat / 256), .ofNat (g.toNat % 256))

/-- The text of groups: the last two are dotted if the others say that they hold an address of
version 4, and otherwise `::` stands for the longest run of two or more zeros. -/
def groupsText (gs : List UInt16) : String :=
  match gs with
  | [0, 0, 0, 0, 0, 0xFFFF, x, y] =>
    let (a, b) := bytesOf x
    let (c, d) := bytesOf y
    "::ffff:" ++ dotted a b c d
  | _ =>
    let run := Ip6.longestRun ⟨0, 0⟩ ⟨0, 0⟩ 0 gs
    if 1 < run.length then
      Ip6.joined (gs.take run.start) ++ "::" ++ Ip6.joined (gs.drop (run.start + run.length))
    else Ip6.joined gs

def text : IpAddress → String
  | v4 a b c d => dotted a b c d
  | v6 address => groupsText address.groups

end IpAddress

def SocketAddress.text (s : SocketAddress) : String :=
  let port := ":" ++ toString s.port.toNat
  match s.ip with
  | .v4 .. => s.ip.text ++ port
  | .v6 _ => "[" ++ s.ip.text ++ (if s.zone = 0 then "" else "%" ++ toString s.zone.toNat) ++ "]" ++ port

/-! ## Reading

What reads the start of a text gives the rest of it too. -/

namespace IpAddress

/-- The value of a digit in a base up to 16. -/
def digit? (base : Nat) (c : Char) : Option Nat :=
  let n :=
    if '0' ≤ c ∧ c ≤ '9' then c.toNat - 0x30
    else if 'a' ≤ c ∧ c ≤ 'f' then c.toNat - 0x57
    else if 'A' ≤ c ∧ c ≤ 'F' then c.toNat - 0x37
    else base
  if n < base then some n else none

/-- The digits at the start of a text, as values. -/
def digits (base : Nat) (s : List Char) : List Nat :=
  (s.takeWhile fun c => (digit? base c).isSome).filterMap (digit? base)

/-- Reads a number that is below `bound`. -/
def number (base bound : Nat) (s : List Char) : Option (Nat × List Char) :=
  let ds := digits base s
  let n := ds.foldl (fun n d => n * base + d) 0
  if ds = [] ∨ bound ≤ n then none else some (n, s.drop ds.length)

def char (c : Char) : List Char → Option (List Char)
  | x :: r => if x = c then some r else none
  | [] => none

/-- Reads a byte in decimal, without zeros in front. -/
def octet (s : List Char) : Option (UInt8 × List Char) := do
  let (n, r) ← number 10 256 s
  let length := s.length - r.length
  if 3 < length ∨ (s.head? = some '0' ∧ 1 < length) then none else some (.ofNat n, r)

def readV4 (s : List Char) : Option ((UInt8 × UInt8 × UInt8 × UInt8) × List Char) := do
  let (a, s) ← octet s
  let (b, s) ← char '.' s >>= octet
  let (c, s) ← char '.' s >>= octet
  let (d, s) ← char '.' s >>= octet
  return ((a, b, c, d), s)

/-- Reads a group of at most four hexadecimal digits. -/
def group (s : List Char) : Option (UInt16 × List Char) := do
  let (n, r) ← number 16 0x10000 s
  if 4 < s.length - r.length then none else some (.ofNat n, r)

def groupOf (a b : UInt8) : UInt16 := .ofNat (a.toNat * 256 + b.toNat)

/-- Groups that were read, and whether the last two of them were dotted. -/
structure Groups where
  values : List UInt16
  dotted : Bool := false
  rest : List Char
  deriving Repr, DecidableEq

/-- Reads up to `room` groups with colons between them, after one if they are not the `first`. Two of
them may be written as an address of version 4, which ends them. -/
def readGroups (first : Bool) : Nat → List Char → Groups
  | 0, s => { values := [], rest := s }
  | room + 1, s =>
    let here := if first then some s else char ':' s
    match if room = 0 then none else here.bind readV4 with
    | some ((a, b, c, d), r) => { values := [groupOf a b, groupOf c d], dotted := true, rest := r }
    | none =>
      match here.bind group with
      | none => { values := [], rest := s }
      | some (g, r) =>
        let more := readGroups false room r
        { more with values := g :: more.values }

def ofGroups? (gs : List UInt16) : Option Ip6 :=
  if h : gs.length = 8 then some ⟨gs, h⟩ else none

/-- Reads an address of version 6, in which `::` stands for one or more zero groups. -/
def readV6 (s : List Char) : Option (Ip6 × List Char) :=
  let front := readGroups true 8 s
  if front.values.length = 8 then (ofGroups? front.values).map (·, front.rest)
  else if front.dotted then none
  else do
    let rest ← char ':' front.rest >>= char ':'
    let back := readGroups true (7 - front.values.length) rest
    let zeros := List.replicate (8 - front.values.length - back.values.length) 0
    let address ← ofGroups? (front.values ++ zeros ++ back.values)
    return (address, back.rest)

end IpAddress

namespace SocketAddress

open IpAddress

def readPort (s : List Char) : Option (UInt16 × List Char) := do
  let (n, r) ← char ':' s >>= number 10 0x10000
  return (.ofNat n, r)

/-- Reads `a.b.c.d:port`. -/
def readV4 (s : List Char) : Option (SocketAddress × List Char) := do
  let ((a, b, c, d), s) ← IpAddress.readV4 s
  let (port, s) ← readPort s
  return ({ ip := .v4 a b c d, port }, s)

def readZone (s : List Char) : Option (UInt32 × List Char) := do
  let (n, r) ← char '%' s >>= number 10 0x100000000
  return (.ofNat n, r)

/-- Reads `[address]:port` or `[address%zone]:port`. -/
def readV6 (s : List Char) : Option (SocketAddress × List Char) := do
  let (address, s) ← char '[' s >>= IpAddress.readV6
  let (zone, s) := (readZone s).getD (0, s)
  let (port, s) ← char ']' s >>= readPort
  return ({ ip := .v6 address, zone, port }, s)

def ofText? (s : String) : Option SocketAddress :=
  match (readV4 s.toList).orElse fun _ => readV6 s.toList with
  | some (a, []) => some a
  | _ => none

end SocketAddress
end Gateway
