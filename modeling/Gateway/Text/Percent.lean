import Gateway.Text.Utf8

/-! Percent escapes: `%` and two hexadecimal digits stand for one byte. -/
namespace Gateway.Text

/-- The value of a hexadecimal digit of either case. -/
def hexDigit? (b : UInt8) : Option UInt8 :=
  if 0x30 ≤ b ∧ b ≤ 0x39 then some (b - 0x30)
  else if 0x41 ≤ b ∧ b ≤ 0x46 then some (b - 0x37)
  else if 0x61 ≤ b ∧ b ≤ 0x66 then some (b - 0x57)
  else none

/-- Replaces each escape by its byte. A `%` that starts no escape stands for itself. -/
def unescape : Bytes → Bytes
  | [] => []
  | [a] => [a]
  | [a, b] => [a, b]
  | a :: h :: l :: r =>
    if a = 0x25 then
      match hexDigit? h, hexDigit? l with
      | some x, some y => (x * 16 + y) :: unescape r
      | _, _ => a :: unescape (h :: l :: r)
    else a :: unescape (h :: l :: r)

end Gateway.Text
