/-! Numbers of the double precision format, as exact multiples of a power of
two. A decimal is read as the nearest of them, and a tie goes to the one with
an even significand. -/
namespace CommandPlan

/-- A power of a base. That of a negative exponent is left to the other side of
a fraction, so here it is one. -/
def powerOf (base : Nat) (exponent : Int) : Nat :=
  Nat.pow base exponent.toNat

/-- A finite number is `significand * 2 ^ exponent`. -/
inductive Binary64 where
  | finite (negative : Bool) (significand : Nat) (exponent : Int)
  | infinite (negative : Bool)
  | nan
deriving DecidableEq, Repr, Inhabited

namespace Binary64

/-- The exponent of the numbers next to zero, which no other one falls below. -/
def leastExponent : Int := -1074

def greatestExponent : Int := 971

/-- The bound of a significand: fifty-three binary digits. -/
def significandBound : Nat := 0x20000000000000

def zero (negative : Bool) : Binary64 := .finite negative 0 leastExponent

/-- The quotient rounded to the nearest integer, ties to the even one. -/
def roundQuotient (numerator denominator : Nat) : Nat :=
  let quotient := numerator / denominator
  let rest := 2 * (numerator % denominator)
  if rest < denominator then quotient
  else if denominator < rest then quotient + 1
  else quotient + quotient % 2

/-- The fraction scaled by a power of two, again as a fraction. -/
def scale (numerator denominator : Nat) (power : Int) : Nat × Nat :=
  (numerator * powerOf 2 power, denominator * powerOf 2 (-power))

/-- The nearest number to a positive fraction. The exponent is the one that
gives the significand all its digits, or the least one when there are fewer. -/
def ofFraction (negative : Bool) (numerator denominator : Nat) : Binary64 :=
  let logarithm : Int := (Nat.log2 numerator : Int) - Nat.log2 denominator
  let (n, d) := scale numerator denominator (-logarithm)
  let exponent := max (if d ≤ n then logarithm - 52 else logarithm - 53) leastExponent
  let (n, d) := scale numerator denominator (-exponent)
  let significand := roundQuotient n d
  let (significand, exponent) :=
    if significand = significandBound then (significandBound / 2, exponent + 1)
    else (significand, exponent)
  if greatestExponent < exponent then .infinite negative else .finite negative significand exponent

/-- The nearest number to `digits * 10 ^ power`. Powers far outside the range of
the format are settled by their size, without being computed. -/
def ofDecimal (negative : Bool) (digits : Nat) (power : Int) : Binary64 :=
  let size : Int := (Nat.toDigits 10 digits).length + power
  if digits = 0 then zero negative
  else if 310 < size then .infinite negative
  else if size < -330 then zero negative
  else ofFraction negative (digits * powerOf 10 power) (powerOf 10 (-power))

def isFinite : Binary64 → Bool
  | finite .. => true
  | _ => false

/-- Equality of a key with a key: the two zeros agree, and so do two results
that are no numbers. -/
def sameKey : Binary64 → Binary64 → Bool
  | .nan, .nan => true
  | .infinite a, .infinite b => a == b
  | .finite s m e, .finite t n f => (m == 0 && n == 0) || (s == t && m == n && e == f)
  | _, _ => false

end Binary64
end CommandPlan
