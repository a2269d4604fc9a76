namespace DhcpLeases.Number

def max64 : Nat := 0xFFFFFFFFFFFFFFFF

def max128 : Nat := 0xFFFFFFFFFFFFFFFFFFFFFFFFFFFFFFFF

def maxSigned128 : Nat := 0x7FFFFFFFFFFFFFFFFFFFFFFFFFFFFFFF

/-- A number as one of 128 bits with a sign, if it is small enough. -/
def toSigned128? (n : Nat) : Option Int :=
  if n ≤ maxSigned128 then some n else none

/-- The whole number nearest to a quotient, the even one of two. -/
def roundHalfEven (num den : Nat) : Nat :=
  let q := num / den
  let r := num % den
  if 2 * r < den ∨ 2 * r = den ∧ q % 2 = 0 then q else q + 1

/-- `significand * 2 ^ exponent`. -/
structure Binary64 where
  significand : Nat
  exponent : Int
  deriving Repr, DecidableEq

namespace Binary64

/-- The quotient `num / den / 2 ^ e` as a quotient of whole numbers. -/
def scaled (num den : Nat) (e : Int) : Nat × Nat :=
  if e < 0 then (num * Nat.pow 2 (-e).toNat, den) else (num, den * Nat.pow 2 e.toNat)

/-- The nearest number to `num / den`. The exponent is the one that brings the quotient to between 2^52
and 2^53. -/
def ofRatio (num den : Nat) : Binary64 :=
  if num = 0 then ⟨0, 0⟩
  else
    let low : Int := num.log2 - den.log2 - 53
    let p := scaled num den low
    let e := if 0x20000000000000 ≤ p.1 / p.2 then low + 1 else low
    let q := scaled num den e
    ⟨roundHalfEven q.1 q.2, e⟩

def ofNat (n : Nat) : Binary64 :=
  ofRatio n 1

/-- The number as a quotient of whole numbers. -/
def toRatio (x : Binary64) : Nat × Nat :=
  scaled x.significand 1 (-x.exponent)

def mul (x y : Binary64) : Binary64 :=
  ofRatio (x.toRatio.1 * y.toRatio.1) (x.toRatio.2 * y.toRatio.2)

def div (x y : Binary64) : Binary64 :=
  ofRatio (x.toRatio.1 * y.toRatio.2) (x.toRatio.2 * y.toRatio.1)

def round (x : Binary64) : Nat :=
  roundHalfEven x.toRatio.1 x.toRatio.2

/-- Whether a product of two whole numbers, each rounded first, is too large for any double: from half a
unit above the largest on. -/
def mulOverflows (m n : Nat) : Bool :=
  let x := (ofNat m).toRatio
  let y := (ofNat n).toRatio
  x.1 * y.1 ≥ 0x3FFFFFFFFFFFFF * Nat.pow 2 970 * (x.2 * y.2)

end Binary64

end DhcpLeases.Number
