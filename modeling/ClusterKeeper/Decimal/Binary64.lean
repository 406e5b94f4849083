/-!
# `Decimal/Binary64.lean` — numbers of the 64-bit binary floating-point format

A finite number is a sign, a mantissa below 2⁵³ and a power of two not below 2⁻¹⁰⁷⁴. Numbers are
made by rounding an exact ratio of naturals to the nearest one, ties to the even mantissa
(`Magnitude.ofRatio?`), and multiplied and divided the same way, so everything here is arithmetic
of `Nat`.
-/

set_option autoImplicit false

namespace ClusterKeeper.Decimal

/-- An unsigned finite number: `mantissa · 2 ^ exponent`. -/
structure Magnitude where
  mantissa : Nat
  exponent : Int
  deriving DecidableEq, Repr, Inhabited

inductive Binary64
  | finite (negative : Bool) (magnitude : Magnitude)
  | infinite (negative : Bool)
  | notANumber
  deriving DecidableEq, Repr, Inhabited

/-- The quotient rounded to the nearest integer, ties to the even one. -/
def roundDiv (num den : Nat) : Nat :=
  let q := num / den
  let r := num % den
  if 2 * r < den then q
  else if den < 2 * r then q + 1
  else if q % 2 = 0 then q else q + 1

/-- `num · 2 ^ e` as a numerator over `den`. -/
def scaleBy (num den : Nat) (e : Int) : Nat × Nat :=
  if 0 ≤ e then (num * Nat.pow 2 e.toNat, den) else (num, den * Nat.pow 2 (-e).toNat)

/-- The least mantissa of 53 bits. -/
abbrev hiddenBit : Nat := 4503599627370496

/-- The least exponent of the format, that of the numbers nearest to zero. -/
def leastExponent : Int := -1074

/-- The greatest exponent of the format. -/
def greatestExponent : Int := 971

namespace Magnitude

def zero : Magnitude := ⟨0, leastExponent⟩

/-- The exponent with which the ratio has a mantissa of 53 bits, or the least one. -/
def exponentOf (num den : Nat) : Int :=
  let guess : Int := (num.log2 : Int) - den.log2 - 52
  let (n, d) := scaleBy num den (-guess)
  let exact := if n < d * hiddenBit then guess - 1 else guess
  max exact leastExponent

/-- The number nearest to a ratio; none if that would be an infinite one. -/
def ofRatio? (num den : Nat) : Option Magnitude :=
  if num = 0 then some zero
  else
    let e := exponentOf num den
    let (n, d) := scaleBy num den (-e)
    let m := roundDiv n d
    let result : Magnitude := if m = 2 * hiddenBit then ⟨hiddenBit, e + 1⟩ else ⟨m, e⟩
    if result.exponent ≤ greatestExponent then some result else none

/-- The exact value as a ratio. -/
def ratio (x : Magnitude) : Nat × Nat := scaleBy x.mantissa 1 x.exponent

def isZero (x : Magnitude) : Bool := x.mantissa = 0

def times? (x y : Magnitude) : Option Magnitude :=
  let (a, b) := x.ratio
  let (c, d) := y.ratio
  ofRatio? (a * c) (b * d)

/-- The rounded quotient by a number that is not zero. -/
def over? (x y : Magnitude) : Option Magnitude :=
  let (a, b) := x.ratio
  let (c, d) := y.ratio
  ofRatio? (a * d) (b * c)

end Magnitude

/-- The number nearest to `digits · 10 ^ exponent`; none if that is an infinite one. Powers far
outside the format's range are decided without computing them. -/
def Magnitude.ofDecimal? (digits : Nat) (exponent : Int) : Option Magnitude :=
  let size : Int := (Nat.toDigits 10 digits).length
  if digits = 0 then some .zero
  else if 400 < exponent + size then none
  else if exponent + size < -400 then some .zero
  else if 0 ≤ exponent then Magnitude.ofRatio? (digits * Nat.pow 10 exponent.toNat) 1
  else Magnitude.ofRatio? digits (Nat.pow 10 (-exponent).toNat)

end ClusterKeeper.Decimal
