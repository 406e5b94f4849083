import ClusterKeeper.Decimal.Binary64

/-!
# `Decimal/Shortest.lean` — the fewest digits that read back

Among the decimal numbers that round to a given floating-point number, the one with the fewest
digits is written, and of two such the nearer. `Magnitude.shortest` tries one digit, then two, up
to seventeen: on each grid it looks at the two neighbours of the exact value.

Which of two equally near numbers is taken, and where the point goes, is a matter of the format
that writes the number; `Style` says it.
-/

set_option autoImplicit false

namespace ClusterKeeper.Decimal

/-- The numbers that round to a given one: the ends of the interval and the number itself, as
numerators over one denominator. The ends belong to it if `closed`. -/
structure Interval where
  lower : Nat
  value : Nat
  upper : Nat
  den : Nat
  closed : Bool
  deriving Repr

/-- The interval of a number. Below a power of two the next number is only half as far away as
above it. -/
def Magnitude.interval (x : Magnitude) : Interval :=
  let below := if x.mantissa = hiddenBit && leastExponent < x.exponent then 1 else 2
  let up := if 0 ≤ x.exponent then Nat.pow 2 x.exponent.toNat else 1
  let down := if 0 ≤ x.exponent then 1 else Nat.pow 2 (-x.exponent).toNat
  ⟨(4 * x.mantissa - below) * up, 4 * x.mantissa * up, (4 * x.mantissa + 2) * up, 4 * down,
    x.mantissa % 2 = 0⟩

/-- The interval in units of `10 ^ e`. -/
def Interval.inUnits (i : Interval) (e : Int) : Interval :=
  if 0 ≤ e then { i with den := i.den * Nat.pow 10 e.toNat }
  else
    let scale := Nat.pow 10 (-e).toNat
    { i with lower := i.lower * scale, value := i.value * scale, upper := i.upper * scale }

def Interval.holds (i : Interval) (n : Nat) : Bool :=
  if i.closed then i.lower ≤ n * i.den && n * i.den ≤ i.upper
  else i.lower < n * i.den && n * i.den < i.upper

/-- Which of two equally near numbers is taken. -/
inductive Tie
  /-- The one whose last digit is even. -/
  | toEven
  | up
  deriving DecidableEq, Repr

/-- The integer in the interval that is next to the value, if one of its two neighbours is in. -/
def Interval.nearest? (i : Interval) (tie : Tie) : Option Nat :=
  let below := i.value / i.den
  let above := below + 1
  match i.holds below, i.holds above with
  | true, true =>
    let low := i.value - below * i.den
    let high := above * i.den - i.value
    some (if low < high || (low = high && tie = .toEven && below % 2 = 0) then below else above)
  | true, false => some below
  | false, true => some above
  | false, false => none

/-- How many digits stand before the point of the exact value: the `p` with
`10 ^ (p - 1) ≤ value < 10 ^ p`. -/
def Interval.pointOf (i : Interval) : Int :=
  let whole := i.value / i.den
  if 0 < whole then (Nat.toDigits 10 whole).length
  else
    -- The reciprocal is below `10 ^ places` and not below a tenth of that.
    let places := (Nat.toDigits 10 (i.den / i.value)).length
    if i.value * Nat.pow 10 places = i.den * 10 then 2 - places else 1 - places

/-- Drops the zeros at the end of a numeral, counting them into the exponent. -/
def trimZeros : Nat → Nat → Int → Nat × Int
  | 0, n, e => (n, e)
  | fuel + 1, n, e => if n ≠ 0 && n % 10 = 0 then trimZeros fuel (n / 10) (e + 1) else (n, e)

/-- Tries grids of `digits`, `digits + 1`, … digits, `more` of them. -/
def Interval.search (i : Interval) (tie : Tie) (point : Int) : Nat → Nat → Nat × Int
  | digits, 0 => (i.value * Nat.pow 10 digits / i.den, -digits)
  | digits, more + 1 =>
    let e := point - digits
    match (i.inUnits e).nearest? tie with
    | some n => trimZeros (digits + 1) n e
    | none => i.search tie point (digits + 1) more

/-- The shortest digits of a number and the power of ten that goes with them. -/
def Magnitude.shortest (x : Magnitude) (tie : Tie) : Nat × Int :=
  if x.isZero then (0, 0) else x.interval.search tie x.interval.pointOf 1 17

/-- How a format lays out a number. -/
structure Style where
  /-- Whether a number with so many digits before its point is written without an exponent. -/
  positional : Int → Bool
  /-- Whether an exponent that is not negative has a plus sign. -/
  plusSign : Bool
  tie : Tie

/-- The digits of a finite number, with at least one on either side of a point. -/
def renderMagnitude (style : Style) (x : Magnitude) : String :=
  if x.isZero then "0.0"
  else
    let (n, e) := x.shortest style.tie
    let digits := Nat.toDigits 10 n
    let point : Int := digits.length + e
    let text :=
      if style.positional point then
        if 0 ≤ e then digits ++ List.replicate e.toNat '0' ++ ['.', '0']
        else if 0 < point then digits.take point.toNat ++ ['.'] ++ digits.drop point.toNat
        else ['0', '.'] ++ List.replicate (-point).toNat '0' ++ digits
      else
        let sign := if style.plusSign && 0 < point then ['+'] else []
        let exponent := sign ++ (toString (point - 1)).toList
        match digits with
        | [d] => [d, 'e'] ++ exponent
        | d :: ds => [d, '.'] ++ ds ++ ['e'] ++ exponent
        | [] => []
    String.ofList text

def Binary64.render (style : Style) : Binary64 → String
  | .finite negative x => (if negative then "-" else "") ++ renderMagnitude style x
  | .infinite negative => if negative then "-inf" else "inf"
  | .notANumber => "NaN"

end ClusterKeeper.Decimal
