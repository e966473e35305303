import Gateway.Text.Escaped

/-! Text between double quotes, as diagnostics show it: what would not show as itself is escaped. -/
namespace Gateway.Text

/-- The escape `\u{…}` with the code point in lower-case hexadecimal. -/
def unicodeEscape (c : Char) : List Char :=
  ['\\', 'u', '\x7b'] ++ Nat.toDigits 16 c.toNat ++ ['\x7d']

def quoteChar (c : Char) : List Char :=
  if c = '\x00' then ['\\', '0']
  else if c = '\t' then ['\\', 't']
  else if c = '\r' then ['\\', 'r']
  else if c = '\n' then ['\\', 'n']
  else if c = '"' then ['\\', '"']
  else if c = '\\' then ['\\', '\\']
  else if isEscaped c then unicodeEscape c
  else [c]

/-- `s` between double quotes. -/
def quoted (s : String) : String :=
  .ofList ('"' :: s.toList.flatMap quoteChar ++ ['"'])

end Gateway.Text
