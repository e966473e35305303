/-!
Decimal text of numbers, and the decimal text of microseconds as seconds: the number of seconds is
first rounded to a binary fraction of 53 digits and then to three decimal places, both times to the
nearest and with ties to even.
-/
namespace Gateway.Text

/-- `n` in decimal with zeros in front up to `width` digits. -/
def padded (width n : Nat) : String :=
  let digits := Nat.toDigits 10 n
  .ofList (List.replicate (width - digits.length) '0' ++ digits)

/-- `num / den` rounded to the nearest whole number, ties to even. -/
def roundDiv (num den : Nat) : Nat :=
  let q := num / den
  let r := num % den
  if 2 * r < den then q else if den < 2 * r then q + 1 else q + q % 2

/-- A non-negative binary fraction `mantissa * 2 ^ exponent`. -/
structure Binary where
  mantissa : Nat
  exponent : Int
  deriving Repr, DecidableEq

/-- Digits of a mantissa. -/
def Binary.precision : Nat := 53

/-- The binary fraction with a mantissa of 53 digits nearest to `num / den`, ties to even. -/
def Binary.nearest (num den : Nat) : Binary :=
  if num = 0 then ⟨0, 0⟩
  else
    -- With the quotient in [2^(k-1), 2^(k+1)), one of two exponents gives a 53-digit quotient.
    let scaled (e : Int) : Nat × Nat :=
      if e < 0 then (num * Nat.pow 2 (-e).toNat, den) else (num, den * Nat.pow 2 e.toNat)
    let k : Int := (num.log2 : Int) - den.log2
    let low := k - Binary.precision
    let fits (e : Int) : Bool := (scaled e).1 / (scaled e).2 < Nat.pow 2 Binary.precision
    let e := if fits low then low else low + 1
    ⟨roundDiv (scaled e).1 (scaled e).2, e⟩

/-- `b` in thousandths, rounded to the nearest with ties to even. -/
def Binary.thousandths (b : Binary) : Nat :=
  if b.exponent < 0 then roundDiv (b.mantissa * 1000) (Nat.pow 2 (-b.exponent).toNat)
  else b.mantissa * Nat.pow 2 b.exponent.toNat * 1000

def seconds (microseconds : Nat) : String :=
  let whole := Binary.nearest microseconds 1
  -- The count itself is rounded first, then its quotient by a million.
  let count := if whole.exponent < 0 then whole.mantissa / Nat.pow 2 (-whole.exponent).toNat
    else whole.mantissa * Nat.pow 2 whole.exponent.toNat
  let t := (Binary.nearest count 1000000).thousandths
  toString (t / 1000) ++ "." ++ padded 3 (t % 1000)

end Gateway.Text
