import Gateway.Toml.Document

/-!
The part of TOML that settings use: tables, inline tables, strings of all four kinds, integers and
booleans. Whatever reads the start of a text gives the rest of it too.
-/
namespace Gateway.Toml

open Settings (Key Value)

def isBlank (c : Char) : Bool := c == ' ' || c == '\t'

def skipBlanks (s : List Char) : List Char := s.dropWhile isBlank

/-- Characters of comments and strings: tabs, and whatever is no control. -/
def isTextChar (c : Char) : Bool := c == '\t' || (0x20 ≤ c.toNat && c.toNat != 0x7F)

/-- Reads blanks, a comment if there is one, and the end of the line. -/
def lineEnd (s : List Char) : Option (List Char) :=
  let afterComment :=
    match skipBlanks s with
    | '#' :: r => if (r.takeWhile (· ≠ '\n')).all isTextChar then r.dropWhile (· ≠ '\n') else ['#']
    | r => r
  match afterComment with
  | [] => some []
  | '\n' :: r => some r
  | _ => none

/-- Adds characters to the text that was read after them. -/
def prepend (cs : List Char) : Option (List Char × List Char) → Option (List Char × List Char) :=
  Option.map fun p => (cs ++ p.1, p.2)

def hexValue? (c : Char) : Option Nat :=
  if '0' ≤ c ∧ c ≤ '9' then some (c.toNat - 0x30)
  else if 'a' ≤ c ∧ c ≤ 'f' then some (c.toNat - 0x57)
  else if 'A' ≤ c ∧ c ≤ 'F' then some (c.toNat - 0x37)
  else none

def number? (base : Nat) (digits : List Char) : Option Nat :=
  digits.foldlM (fun n c => (hexValue? c).bind fun d => if d < base then some (n * base + d) else none) 0

def codePoint? (digits : List Char) : Option Char :=
  (number? 16 digits).bind fun n => if n.isValidChar then some (.ofNat n) else none

/-- The character an escape letter stands for, if no code point follows it. -/
def escaped? : Char → Option Char
  | 'b' => some '\x08'
  | 't' => some '\t'
  | 'n' => some '\n'
  | 'f' => some '\x0c'
  | 'r' => some '\r'
  | '"' => some '"'
  | '\\' => some '\\'
  | _ => none

/-- The end of a string of several lines, two of whose three quotes are still unread: up to two more
belong to the text. -/
def closeLong (quote : Char) : List Char → Option (List Char × List Char)
  | a :: b :: r =>
    if a = quote ∧ b = quote then
      let extra := min 2 (r.takeWhile (· = quote)).length
      some (List.replicate extra quote, r.drop extra)
    else none
  | _ => none

/-- Reads a string with escapes behind its opening quotes. `long` strings may have several lines;
while `trimming`, blanks and line ends behind a backslash are skipped. -/
def basicText (long : Bool) (trimming : Bool) : List Char → Option (List Char × List Char)
  | [] => none
  | c :: r =>
    if trimming && (isBlank c || c == '\n') then basicText long true r
    else if c = '"' then
      if !long then some ([], r)
      else
        match closeLong '"' r with
        | some p => some p
        | none => prepend ['"'] (basicText long false r)
    else if c = '\\' then
      match r with
      | [] => none
      | 'u' :: a :: b :: c :: d :: t =>
        (codePoint? [a, b, c, d]).bind fun x => prepend [x] (basicText long false t)
      | 'U' :: a :: b :: c :: d :: e :: f :: g :: h :: t =>
        (codePoint? [a, b, c, d, e, f, g, h]).bind fun x => prepend [x] (basicText long false t)
      | e :: t =>
        match escaped? e with
        | some x => prepend [x] (basicText long false t)
        | none =>
          if long && (skipBlanks (e :: t)).head? == some '\n' then basicText long true t else none
    else if isTextChar c || (long && c == '\n') then prepend [c] (basicText long false r)
    else none

/-- Reads a string without escapes behind its opening quotes. -/
def literalText (long : Bool) : List Char → Option (List Char × List Char)
  | [] => none
  | c :: r =>
    if c = '\'' then
      if !long then some ([], r)
      else
        match closeLong '\'' r with
        | some p => some p
        | none => prepend ['\''] (literalText long r)
    else if isTextChar c || (long && c == '\n') then prepend [c] (literalText long r)
    else none

/-- A line end right behind the opening quotes of a long string is no part of it. -/
def skipLineEnd : List Char → List Char
  | '\n' :: r => r
  | r => r

def string? : List Char → Option (List Char × List Char)
  | '"' :: '"' :: '"' :: r => basicText true false (skipLineEnd r)
  | '\'' :: '\'' :: '\'' :: r => literalText true (skipLineEnd r)
  | '"' :: r => basicText false false r
  | '\'' :: r => literalText false r
  | _ => none

def isKeyChar (c : Char) : Bool := c.isAlphanum || c == '_' || c == '-'

def name? (s : List Char) : Option (String × List Char) :=
  match s with
  | '"' :: r => (basicText false false r).map fun p => (.ofList p.1, p.2)
  | '\'' :: r => (literalText false r).map fun p => (.ofList p.1, p.2)
  | _ =>
    let bare := s.takeWhile isKeyChar
    if bare.isEmpty then none else some (.ofList bare, s.drop bare.length)

/-- Reads names with dots between them, of which there are at most `fuel`. -/
def key? : Nat → List Char → Option (Key × List Char)
  | 0, _ => none
  | fuel + 1, s => do
    let (n, r) ← name? s
    match skipBlanks r with
    | '.' :: t =>
      let (ns, r) ← key? fuel (skipBlanks t)
      return (n :: ns, r)
    | _ => return ([n], r)

/-- The digits of a number whose underscores each stand between two of them. -/
def digits? (s : List Char) : Option (List Char) :=
  let underscoresBetween : Bool := s.head? != some '_' && s.getLast? != some '_' &&
    (s.zip (s.drop 1)).all fun p => !(p.1 == '_' && p.2 == '_')
  if !s.isEmpty && underscoresBetween then some (s.filter (· ≠ '_')) else none

def inRange (n : Int) : Option Int :=
  if -0x8000000000000000 ≤ n ∧ n < 0x8000000000000000 then some n else none

/-- The number of decimal digits, without a zero in front of others. -/
def decimal? (s : List Char) : Option Nat := do
  let ds ← digits? s
  if ds.head? = some '0' ∧ s.length ≠ 1 then none else number? 10 ds

def integer? : List Char → Option Int
  | '0' :: 'x' :: r => (digits? r).bind (number? 16) >>= fun n => inRange n
  | '0' :: 'o' :: r => (digits? r).bind (number? 8) >>= fun n => inRange n
  | '0' :: 'b' :: r => (digits? r).bind (number? 2) >>= fun n => inRange n
  | '+' :: r => decimal? r >>= fun n => inRange n
  | '-' :: r => decimal? r >>= fun n => inRange (-n)
  | r => decimal? r >>= fun n => inRange n

def isWordChar (c : Char) : Bool := c.isAlphanum || "_+-.:".toList.contains c

def word? (s : List Char) : Option (Value × List Char) :=
  let word := s.takeWhile isWordChar
  let rest := s.drop word.length
  if word = "true".toList then some (.boolean true, rest)
  else if word = "false".toList then some (.boolean false, rest)
  else (integer? word).map fun n => (.integer n, rest)

/-- Reads a key, an equals sign and a value: the assignments this makes in the table `base`. -/
def assignments? : Nat → Key → List Char → Option (List Statement × List Char)
  | 0, _, _ => none
  | fuel + 1, base, s => do
    let (key, r) ← key? s.length s
    match skipBlanks r with
    | '=' :: r =>
      match skipBlanks r with
      | '\x7b' :: r =>
        let table := .assign base key none
        match skipBlanks r with
        | '\x7d' :: r => return ([table], r)
        | r =>
          let (members, r) ← members? fuel (base ++ key) r
          return (table :: members, r)
      | r =>
        match string? r with
        | some (text, r) => return ([.assign base key (some (.text (.ofList text)))], r)
        | none =>
          let (v, r) ← word? r
          return ([.assign base key (some v)], r)
    | _ => none
where
  /-- Reads assignments with commas between them, and the closing brace. -/
  members? : Nat → Key → List Char → Option (List Statement × List Char)
    | 0, _, _ => none
    | fuel + 1, base, s => do
      let (first, r) ← assignments? fuel base (skipBlanks s)
      match skipBlanks r with
      | '\x7d' :: r => return (first, r)
      | ',' :: r =>
        let (more, r) ← members? fuel base r
        return (first ++ more, r)
      | _ => none

def header? (s : List Char) : Option (Statement × List Char) := do
  let (path, r) ← key? s.length (skipBlanks s)
  match skipBlanks r with
  | ']' :: r => return (.header path, r)
  | _ => none

/-- Reads statements, of which there are at most `fuel`, to the end of the text. -/
def statements? : Nat → List Char → Option (List Statement)
  | 0, s => if s.isEmpty then some [] else none
  | fuel + 1, s =>
    if s.isEmpty then some []
    else
      match lineEnd s with
      | some r => statements? fuel r
      | none => do
        let (first, r) ← match skipBlanks s with
          | '[' :: r => do
            let (h, r) ← header? r
            pure ([h], r)
          | r => assignments? r.length [] r
        return first ++ (← statements? fuel (← lineEnd r))

def unifyLineEnds : List Char → List Char
  | '\r' :: '\n' :: r => '\n' :: unifyLineEnds r
  | c :: r => c :: unifyLineEnds r
  | [] => []

def read? (s : List Char) : Option (List (Key × Value)) := do
  let s := match s with
    | '\uFEFF' :: r => r
    | _ => s
  let ss ← statements? s.length (unifyLineEnds s)
  return (← Document.ofStatements? ss).values

end Gateway.Toml
