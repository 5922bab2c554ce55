/-!
# Decimal numbers as binary ones

A decimal number is read as the nearest number with a significand of 53 bits, and such a number is
written with the fewest decimal digits that read back as it.  All of it is exact arithmetic on
natural numbers: a number is `significand * 2 ^ exponent`, where the exponent is at least -1074 and
the significand is below `2 ^ 53`.
-/

namespace Lineage

/-- A positive number or zero, as a significand and an exponent of two. -/
structure Binary where
  significand : Nat
  exponent : Int
deriving DecidableEq, Repr

namespace Binary

/-- The least exponent. -/
def minExponent : Int :=
  -1074

/-- The greatest exponent. -/
def maxExponent : Int :=
  971

/-- The quotient, rounded to the nearest natural number and to the even one of two. -/
def roundDiv (numerator denominator : Nat) : Nat :=
  let quotient := numerator / denominator
  let twice := 2 * (numerator % denominator)
  if twice < denominator ∨ (twice = denominator ∧ quotient % 2 = 0) then quotient else quotient + 1

/-- The number `digits * 10 ^ power * 2 ^ -shift` as a numerator and a denominator. -/
def scaled (digits : Nat) (power shift : Int) : Nat × Nat :=
  (digits * Nat.pow 10 power.toNat * Nat.pow 2 (-shift).toNat,
    Nat.pow 10 (-power).toNat * Nat.pow 2 shift.toNat)

/-- The number nearest to `digits * 10 ^ power`, if it is not too large. -/
def ofDecimal? (digits : Nat) (power : Int) : Option Binary :=
  let length := (Nat.toDigits 10 digits).length
  if digits = 0 ∨ power + length < -400 then some ⟨0, minExponent⟩
  else if power + length > 400 then none
  else
    let (numerator, denominator) := scaled digits power 0
    let estimate := (Nat.log2 numerator : Int) - Nat.log2 denominator - 53
    let exponent := max estimate minExponent
    let round (shift : Int) : Nat :=
      let (n, d) := scaled digits power shift
      roundDiv n d
    -- The estimate is at most two too low.
    let rec settle (fuel : Nat) (exponent : Int) : Binary :=
      match fuel with
      | 0 => ⟨round exponent, exponent⟩
      | fuel + 1 =>
        let (n, d) := scaled digits power exponent
        if n / d ≥ Nat.pow 2 53 then settle fuel (exponent + 1) else ⟨roundDiv n d, exponent⟩
    let found := settle 3 exponent
    let carried :=
      if found.significand = Nat.pow 2 53 then ⟨Nat.pow 2 52, found.exponent + 1⟩ else found
    if carried.exponent > maxExponent then none else some carried

/-- A number written as decimal digits and a power of ten. -/
structure Written where
  digits : Nat
  power : Int

/-- Whether the decimal number `digits * 10 ^ power` reads back as the number. -/
def readsBack (number : Binary) (candidate : Written) : Bool :=
  ofDecimal? candidate.digits candidate.power == some number

/-- The two decimal numbers with the power of ten `power` around the number, the nearer one
first. -/
def neighbours (number : Binary) (power : Int) : List Written :=
  let numerator :=
    number.significand * Nat.pow 2 number.exponent.toNat * Nat.pow 10 (-power).toNat
  let denominator := Nat.pow 2 (-number.exponent).toNat * Nat.pow 10 power.toNat
  let below := numerator / denominator
  let twice := 2 * (numerator % denominator)
  if twice < denominator ∨ (twice = denominator ∧ below % 2 = 0) then
    [⟨below, power⟩, ⟨below + 1, power⟩]
  else [⟨below + 1, power⟩, ⟨below, power⟩]

/-- Powers of ten from `power` downwards, of which the first is taken with which a decimal number
reads back. -/
def shortestFrom (number : Binary) (power : Int) : Nat → Option Written
  | 0 => none
  | fuel + 1 =>
    match (neighbours number power).find? fun w => w.digits != 0 && readsBack number w with
    | some found => some found
    | none => shortestFrom number (power - 1) fuel

/-- Moves the zeros at the end of the digits into the power of ten. -/
def Written.normal (written : Written) : Nat → Written
  | 0 => written
  | fuel + 1 =>
    if written.digits % 10 = 0 ∧ written.digits ≠ 0 then
      Written.normal ⟨written.digits / 10, written.power + 1⟩ fuel
    else written

/-- The fewest digits that read back as the number. -/
def shortest (number : Binary) : Written :=
  ((shortestFrom number 309 640).getD ⟨0, 0⟩).normal 400

/-- The text of a number: positional as long as at most 16 digits stand before the point or five
places behind it hold the first digit, and with an exponent otherwise. -/
def toText (number : Binary) : String :=
  if number.significand = 0 then "0.0"
  else
    let written := number.shortest
    let digits := Nat.toDigits 10 written.digits
    let length := digits.length
    let point := (length : Int) + written.power
    let zeros (count : Int) : List Char := List.replicate count.toNat '0'
    let text :=
      if 0 ≤ written.power ∧ point ≤ 16 then digits ++ zeros written.power ++ ['.', '0']
      else if 0 < point ∧ point ≤ 16 then
        digits.take point.toNat ++ '.' :: digits.drop point.toNat
      else if -5 < point ∧ point ≤ 0 then ['0', '.'] ++ zeros (-point) ++ digits
      else
        let exponent := (toString (point - 1)).toList
        match digits with
        | [] => []
        | [only] => only :: 'e' :: exponent
        | first :: more => first :: '.' :: more ++ 'e' :: exponent
    String.ofList text

end Binary

/-- Reads decimal digits with an optional point and exponent, without a sign, as digits and a power
of ten. -/
def decimal? (text : List Char) : Option (Nat × Int) := do
  let whole := text.takeWhile Char.isDigit
  let rest := text.dropWhile Char.isDigit
  let (fraction, afterFraction) :=
    match rest with
    | '.' :: more => (more.takeWhile Char.isDigit, more.dropWhile Char.isDigit)
    | _ => ([], rest)
  if whole.isEmpty && fraction.isEmpty then failure
  let exponent : Int ←
    match afterFraction with
    | [] => some (0 : Int)
    | letter :: more =>
      if letter == 'e' || letter == 'E' then
        let (sign, digits) : Int × List Char :=
          match more with
          | '+' :: digits => (1, digits)
          | '-' :: digits => (-1, digits)
          | digits => (1, digits)
        if digits.isEmpty || !digits.all Char.isDigit then none
        else some (sign * (natural digits : Int))
      else none
  return (natural (whole ++ fraction), exponent - fraction.length)
where
  natural (digits : List Char) : Nat :=
    digits.foldl (fun n c => 10 * n + (c.toNat - '0'.toNat)) 0

end Lineage
