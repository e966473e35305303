/-!
Bytes and text. Decoding never fails: each maximal ill-formed part of the bytes becomes one
replacement character.
-/
namespace Gateway

abbrev Bytes := List UInt8

namespace Text

def encode (s : List Char) : Bytes := s.flatMap String.utf8EncodeChar

def utf8 (s : String) : Bytes := encode s.toList

def replacement : Char := '\uFFFD'

/-- A multi-byte character under way: `need` more bytes, of which the next lies in `[lo, hi]`. -/
structure Pending where
  need : Nat
  value : Nat
  lo : UInt8 := 0x80
  hi : UInt8 := 0xBF

/-- What a byte begins when no character is under way. -/
def begin (b : UInt8) : Char ⊕ Pending :=
  if b < 0x80 then .inl (.ofNat b.toNat)
  else if b < 0xC2 then .inl replacement
  else if b < 0xE0 then .inr { need := 1, value := b.toNat % 0x20 }
  else if b = 0xE0 then .inr { need := 2, value := 0, lo := 0xA0 }
  else if b = 0xED then .inr { need := 2, value := 0xD, hi := 0x9F }
  else if b < 0xF0 then .inr { need := 2, value := b.toNat % 0x10 }
  else if b = 0xF0 then .inr { need := 3, value := 0, lo := 0x90 }
  else if b < 0xF4 then .inr { need := 3, value := b.toNat % 0x08 }
  else if b = 0xF4 then .inr { need := 3, value := 4, hi := 0x8F }
  else .inl replacement

/-- The value of `p` extended by the six low bits of a continuation byte. -/
def Pending.extend (p : Pending) (b : UInt8) : Nat := p.value * 0x40 + b.toNat % 0x40

/-- Decodes from a state: `none` between characters, `some p` inside one. -/
def decodeFrom : Option Pending → Bytes → List Char
  | none, [] => []
  | some _, [] => [replacement]
  | none, b :: r =>
    match begin b with
    | .inl c => c :: decodeFrom none r
    | .inr p => decodeFrom (some p) r
  | some p, b :: r =>
    if p.lo ≤ b ∧ b ≤ p.hi then
      if p.need ≤ 1 then .ofNat (p.extend b) :: decodeFrom none r
      else decodeFrom (some { need := p.need - 1, value := p.extend b }) r
    else
      replacement ::
        match begin b with
        | .inl c => c :: decodeFrom none r
        | .inr q => decodeFrom (some q) r

/-- The text of `bytes`, with U+FFFD for each maximal part that is not UTF-8. -/
def decode (bytes : Bytes) : List Char := decodeFrom none bytes

/-- `decode` as a string. -/
def decoded (bytes : Bytes) : String := .ofList (decode bytes)

theorem encode_append (s t : List Char) : encode (s ++ t) = encode s ++ encode t := by
  simp [encode]

end Text
end Gateway
