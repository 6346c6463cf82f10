/-!
The decimal text of a binary floating point number: the fewest digits that read back as the number,
and among those the nearest to it. All arithmetic is exact, on natural numbers.
-/

namespace CommandGrammar.Text

/-! ### The value -/

/-- A positive number `center / unit` with the numbers that round to it: those from `low / unit` to
`high / unit`, ends included when `closed`. -/
structure Rounding where
  low : Nat
  center : Nat
  high : Nat
  unit : Nat
  closed : Bool

/-- The numbers that round to the positive number with the given exponent and fraction fields. -/
def Rounding.ofFields (exponent fraction : Nat) : Rounding :=
  let mantissa := if exponent = 0 then fraction else fraction + Nat.pow 2 52
  let shift : Int := (max exponent 1 : Nat) - 1077
  let up := Nat.pow 2 shift.toNat
  let gapBelow := if fraction = 0 && 1 < exponent then 1 else 2
  { low := (4 * mantissa - gapBelow) * up
    center := 4 * mantissa * up
    high := (4 * mantissa + 2) * up
    unit := Nat.pow 2 (-shift).toNat
    closed := mantissa % 2 == 0 }

/-! ### The digits -/

/-- The power of ten of the first digit of `n / d`. -/
def leadingExponent (n d : Nat) : Int :=
  if d ≤ n then ((Nat.toDigits 10 (n / d)).length : Int) - 1
  else
    let k := (Nat.toDigits 10 (d / n)).length
    if d ≤ n * Nat.pow 10 (k - 1) then 1 - (k : Int) else -(k : Int)

/-- The multiple of `10 ^ exponent` that reads back and is nearest, if one reads back. -/
def Rounding.onGrid (r : Rounding) (exponent : Int) : Option Nat :=
  let scale := Nat.pow 10 (-exponent).toNat
  let unit := r.unit * Nat.pow 10 exponent.toNat
  let reads (c : Nat) : Bool :=
    if r.closed then decide (r.low * scale ≤ c * unit) && decide (c * unit ≤ r.high * scale)
    else decide (r.low * scale < c * unit) && decide (c * unit < r.high * scale)
  let below := r.center * scale / unit
  let above := below + 1
  let distanceBelow := r.center * scale - below * unit
  let distanceAbove := above * unit - r.center * scale
  match reads below, reads above with
  | true, true =>
    if distanceBelow < distanceAbove || (distanceBelow == distanceAbove && below % 2 == 0) then
      some below
    else some above
  | true, false => some below
  | false, true => some above
  | false, false => none

/-- The shortest digits and the power of ten of the last of them, trying `count` digits and then up
to `fuel` more. -/
def Rounding.digits (r : Rounding) (count : Nat) : Nat → Nat × Int
  | 0 => (0, 0)
  | fuel + 1 =>
    let exponent := leadingExponent r.center r.unit - count + 1
    match r.onGrid exponent with
    | some c => (c, exponent)
    | none => r.digits (count + 1) fuel

/-! ### The layout -/

/-- Where a decimal text changes to a power of ten: for leading exponents below `low`, and from
`high` on. -/
structure DecimalLayout where
  low : Int
  high : Int

/-- Numbers are written in full from a ten thousandth to below `10 ^ 16`. -/
def plainLayout : DecimalLayout := ⟨-4, 16⟩

/-- The text of digits whose first stands for `10 ^ exponent`. -/
def DecimalLayout.render (layout : DecimalLayout) (digits : List Char) (exponent : Int) :
    List Char :=
  if exponent < layout.low || layout.high ≤ exponent then
    let power := Nat.toDigits 10 exponent.natAbs
    let head := match digits with
      | [] => []
      | [d] => [d]
      | d :: ds => d :: '.' :: ds
    head ++ 'e' :: (if exponent < 0 then '-' else '+') ::
      (List.replicate (2 - power.length) '0' ++ power)
  else if exponent < 0 then
    '0' :: '.' :: (List.replicate (exponent.natAbs - 1) '0' ++ digits)
  else
    let whole := exponent.toNat + 1
    let front := digits.take whole ++ List.replicate (whole - digits.length) '0'
    let back := digits.drop whole
    front ++ '.' :: (if back.isEmpty then ['0'] else back)

/-- The text of a number given by its sign bit, exponent field and fraction field. -/
def decimalOfFields (negative : Bool) (exponent fraction : Nat) : String :=
  let sign := if negative then ['-'] else []
  if exponent = 2047 then
    if fraction = 0 then String.ofList (sign ++ ['i', 'n', 'f']) else "nan"
  else if exponent = 0 && fraction = 0 then String.ofList (sign ++ ['0', '.', '0'])
  else
    let (c, last) := (Rounding.ofFields exponent fraction).digits 1 17
    let all := Nat.toDigits 10 c
    let digits := (all.reverse.dropWhile (· == '0')).reverse
    String.ofList (sign ++ plainLayout.render digits (last + all.length - 1))

/-- The sign bit, exponent field and fraction field of a number. -/
def floatFields (x : Float) : Bool × Nat × Nat :=
  let bits := x.toBits.toNat
  (decide (Nat.pow 2 63 ≤ bits), bits / Nat.pow 2 52 % Nat.pow 2 11, bits % Nat.pow 2 52)

/-- The decimal text of a floating point number. -/
def decimal (x : Float) : String :=
  let (negative, exponent, fraction) := floatFields x
  decimalOfFields negative exponent fraction

/-- The number without its fraction, toward zero; none for what is not a number or not finite. -/
def truncate? (x : Float) : Option Int :=
  let (negative, exponent, fraction) := floatFields x
  if exponent = 2047 then none
  else
    let r := Rounding.ofFields exponent fraction
    let whole : Int := (r.center / r.unit : Nat)
    some (if negative then -whole else whole)

/-- The integer that a number equals, if it equals one. -/
def wholeOf? (x : Float) : Option Int := (truncate? x).filter fun n => Float.ofInt n == x

end CommandGrammar.Text
