import Gateway.Text.Utf8

/-!
One-line JSON objects with scalar members: a writer, and a reader of the JSON grammar for such
objects.
-/
namespace Gateway.Json

/-- A value of a member. -/
inductive Scalar where
  | null
  | number (n : Nat)
  | text (s : List Char)
  deriving Repr, DecidableEq

def Scalar.optional : Option String → Scalar
  | some s => text s.toList
  | none => null

def Scalar.string (s : String) : Scalar := text s.toList

/-- Members in the order in which they are written. -/
abbrev Object := List (List Char × Scalar)

/-- The lower-case hexadecimal digit of a number below 16. -/
def hexDigit (n : Nat) : Char := if n < 10 then .ofNat (0x30 + n) else .ofNat (0x57 + n)

/-- How one character is written between quotes: controls, quotes and backslashes are escaped. -/
def escapeChar (c : Char) : List Char :=
  if c = '"' then ['\\', '"']
  else if c = '\\' then ['\\', '\\']
  else if c = '\x08' then ['\\', 'b']
  else if c = '\x0c' then ['\\', 'f']
  else if c = '\n' then ['\\', 'n']
  else if c = '\r' then ['\\', 'r']
  else if c = '\t' then ['\\', 't']
  else if c.toNat < 0x20 then
    ['\\', 'u', '0', '0', hexDigit (c.toNat / 16), hexDigit (c.toNat % 16)]
  else [c]

def writeString (s : List Char) : List Char := '"' :: s.flatMap escapeChar ++ ['"']

def Scalar.write : Scalar → List Char
  | null => ['n', 'u', 'l', 'l']
  | number n => Nat.toDigits 10 n
  | text s => writeString s

def writeMember (m : List Char × Scalar) : List Char := writeString m.1 ++ ':' :: m.2.write

def writeMembers : Object → List Char
  | [] => []
  | [m] => writeMember m
  | m :: ms => writeMember m ++ ',' :: writeMembers ms

def write (o : Object) : List Char := '\x7b' :: writeMembers o ++ ['\x7d']

/-- `write` as a string. -/
def line (o : Object) : String := .ofList (write o)

/-- The value of a hexadecimal digit of either case. -/
def hexValue? (c : Char) : Option Nat :=
  if '0' ≤ c ∧ c ≤ '9' then some (c.toNat - 0x30)
  else if 'a' ≤ c ∧ c ≤ 'f' then some (c.toNat - 0x57)
  else if 'A' ≤ c ∧ c ≤ 'F' then some (c.toNat - 0x37)
  else none

def hexValue4? (a b c d : Char) : Option Nat := do
  return (((← hexValue? a) * 16 + (← hexValue? b)) * 16 + (← hexValue? c)) * 16 + (← hexValue? d)

/-- The character an escape letter other than `u` stands for. -/
def escaped? : Char → Option Char
  | '"' => some '"'
  | '\\' => some '\\'
  | '/' => some '/'
  | 'b' => some '\x08'
  | 'f' => some '\x0c'
  | 'n' => some '\n'
  | 'r' => some '\r'
  | 't' => some '\t'
  | _ => none

/-- Adds a character to what was read after it. -/
def prepend (c : Char) : Option (List Char × List Char) → Option (List Char × List Char) :=
  Option.map fun p => (c :: p.1, p.2)

/-- Reads characters up to the closing quote. A code point outside the Basic Multilingual Plane may
be escaped as two surrogates; a lone surrogate is refused. -/
def readChars : List Char → Option (List Char × List Char)
  | [] => none
  | '"' :: r => some ([], r)
  | '\\' :: 'u' :: a :: b :: c :: d :: r =>
    match hexValue4? a b c d with
    | none => none
    | some n =>
      if 0xD800 ≤ n ∧ n < 0xDC00 then
        match r with
        | '\\' :: 'u' :: e :: f :: g :: h :: r' =>
          match hexValue4? e f g h with
          | none => none
          | some m =>
            if 0xDC00 ≤ m ∧ m < 0xE000 then
              prepend (.ofNat (0x10000 + (n - 0xD800) * 0x400 + (m - 0xDC00))) (readChars r')
            else none
        | _ => none
      else if 0xDC00 ≤ n ∧ n < 0xE000 then none
      else prepend (.ofNat n) (readChars r)
  | '\\' :: e :: r =>
    match escaped? e with
    | none => none
    | some c => prepend c (readChars r)
  | c :: r => if c.toNat < 0x20 then none else prepend c (readChars r)

def isBlank (c : Char) : Bool := c == ' ' || c == '\t' || c == '\n' || c == '\r'

def skipBlanks (s : List Char) : List Char := s.dropWhile isBlank

/-- Reads a scalar. A number is a whole one, without a zero in front of other digits. -/
def readScalar : List Char → Option (Scalar × List Char)
  | 'n' :: 'u' :: 'l' :: 'l' :: r => some (.null, r)
  | '"' :: r => (readChars r).map fun p => (.text p.1, p.2)
  | s =>
    let digits := s.takeWhile Char.isDigit
    if digits.isEmpty || (digits.head? == some '0' && digits.length != 1) then none
    else some (.number (digits.foldl (fun n c => n * 10 + (c.toNat - 0x30)) 0), s.dropWhile Char.isDigit)

/-- Reads the members of an object, of which there are at most `fuel`, and its closing brace. -/
def readMembers : Nat → List Char → Option (Object × List Char)
  | 0, _ => none
  | fuel + 1, s =>
    match skipBlanks s with
    | '"' :: r =>
      match readChars r with
      | none => none
      | some (name, r) =>
        match skipBlanks r with
        | ':' :: r =>
          match readScalar (skipBlanks r) with
          | none => none
          | some (value, r) =>
            match skipBlanks r with
            | ',' :: r => (readMembers fuel r).map fun p => ((name, value) :: p.1, p.2)
            | '\x7d' :: r => some ([(name, value)], r)
            | _ => none
        | _ => none
    | _ => none

/-- Reads a text that is one object with scalar members. -/
def read? (s : List Char) : Option Object :=
  match skipBlanks s with
  | '\x7b' :: r =>
    match skipBlanks r with
    | '\x7d' :: r => if (skipBlanks r).isEmpty then some [] else none
    | r =>
      match readMembers r.length r with
      | some (o, r) => if (skipBlanks r).isEmpty then some o else none
      | none => none
  | _ => none

end Gateway.Json
