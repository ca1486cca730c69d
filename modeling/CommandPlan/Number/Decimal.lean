import CommandPlan.Number.Binary64

/-! The shortest decimal that reads back as a given number, and the ways to
write it. Grids of one to seventeen digits are tried in turn; on each the two
neighbours of the number are candidates, and the nearer one wins. -/
namespace CommandPlan

/-- The decimal `digits * 10 ^ power`. -/
structure Decimal where
  digits : Nat
  power : Int
deriving DecidableEq, Repr

namespace Decimal

/-- Comparison of `a * 10 ^ p` with `b * 2 ^ e`, without a fraction. -/
def compareBinary (a : Nat) (p : Int) (b : Nat) (e : Int) : Ordering :=
  compare (a * powerOf 10 p * powerOf 2 (-e)) (b * powerOf 2 e * powerOf 10 (-p))

/-- Whether the decimal is read as `significand * 2 ^ exponent`: it lies between
the midpoints to the neighbours, which themselves count when the significand is
even. The lower neighbour of a power of two is only half as far away. -/
def readsBack (significand : Nat) (exponent : Int) (digits : Nat) (power : Int) : Bool :=
  let gap :=
    if 2 * significand = Binary64.significandBound ∧ Binary64.leastExponent < exponent then 1 else 2
  let even := significand % 2 = 0
  let low := compareBinary digits power (4 * significand - gap) (exponent - 2)
  let high := compareBinary digits power (4 * significand + 2) (exponent - 2)
  (low = .gt ∨ (low = .eq ∧ even)) ∧ (high = .lt ∨ (high = .eq ∧ even))

/-- The number of digits before the decimal point, negative or zero for
fractions that start after it: the least `p` with `value < 10 ^ p` from the
estimate on. -/
def magnitude (significand : Nat) (exponent : Int) : Int :=
  let estimate := (exponent + Nat.log2 significand) * 30103 / 100000 - 1
  let below (p : Int) : Bool := compareBinary 1 p significand exponent = .gt
  if below estimate then estimate
  else if below (estimate + 1) then estimate + 1
  else if below (estimate + 2) then estimate + 2
  else estimate + 3

/-- The greatest multiple of `10 ^ power` that does not exceed the number. -/
def floorOnGrid (significand : Nat) (exponent power : Int) : Nat :=
  (significand * powerOf 2 exponent * powerOf 10 (-power)) / (powerOf 2 (-exponent) * powerOf 10 power)

/-- The candidate on one grid, if one of the two neighbours reads back. Of two
the nearer one is taken, and the even one when the number lies in the middle. -/
def onGrid? (significand : Nat) (exponent power : Int) : Option Decimal :=
  let below := floorOnGrid significand exponent power
  let lower := readsBack significand exponent below power
  let upper := readsBack significand exponent (below + 1) power
  let middle := compareBinary (2 * below + 1) power (2 * significand) exponent
  let preferLower := middle = .gt ∨ (middle = .eq ∧ below % 2 = 0)
  if lower ∧ (preferLower ∨ ¬ upper) then some ⟨below, power⟩
  else if upper then some ⟨below + 1, power⟩
  else none

/-- Tries grids of `17 - left`, and then more, digits. -/
def firstGrid (significand : Nat) (exponent magnitude : Int) : Nat → Decimal
  | 0 => ⟨significand, exponent⟩
  | left + 1 =>
    match onGrid? significand exponent (magnitude - (17 - left : Nat)) with
    | some decimal => decimal
    | none => firstGrid significand exponent magnitude left

/-- Moves trailing zeros of the digits into the power. -/
def dropZeros : Nat → Decimal → Decimal
  | 0, decimal => decimal
  | fuel + 1, decimal =>
    if decimal.digits ≠ 0 ∧ decimal.digits % 10 = 0 then
      dropZeros fuel ⟨decimal.digits / 10, decimal.power + 1⟩
    else decimal

def shortest (significand : Nat) (exponent : Int) : Decimal :=
  dropZeros 20 (firstGrid significand exponent (magnitude significand exponent) 17)

def digitText (decimal : Decimal) : List Char :=
  Nat.toDigits 10 decimal.digits

/-- Digits around a decimal point, with zeros to fill a gap on either side and
at least one digit after the point. -/
def positional (decimal : Decimal) : List Char :=
  let text := decimal.digitText
  let point : Int := text.length + decimal.power
  if 0 ≤ decimal.power then
    text ++ List.replicate decimal.power.toNat '0' ++ ['.', '0']
  else if 0 < point then
    text.take point.toNat ++ ['.'] ++ text.drop point.toNat
  else ['0', '.'] ++ List.replicate (-point).toNat '0' ++ text

/-- One digit before the point, the others after it if there are any, and the
power of ten after an `e`. -/
def scientific (decimal : Decimal) : List Char :=
  let text := decimal.digitText
  let exponent : Int := text.length + decimal.power - 1
  let mantissa := match text with
    | first :: second :: rest => first :: '.' :: second :: rest
    | _ => text
  mantissa ++ ['e'] ++ (toString exponent).toList

/-- Positional from four zeros after the point up to sixteen digits before it,
scientific elsewhere. -/
def general (decimal : Decimal) : List Char :=
  let point : Int := decimal.digitText.length + decimal.power
  if -5 < point ∧ point ≤ 16 then decimal.positional else decimal.scientific

end Decimal

namespace Binary64

def withSign (negative : Bool) (text : List Char) : String :=
  String.ofList (if negative then '-' :: text else text)

def written (form : Decimal → List Char) (significand : Nat) (exponent : Int) : List Char :=
  if significand = 0 then ['0', '.', '0'] else form (Decimal.shortest significand exponent)

/-- The text of a number in a document. -/
def documentText : Binary64 → String
  | nan => ".nan"
  | infinite negative => withSign negative ['.', 'i', 'n', 'f']
  | finite negative significand exponent =>
    withSign negative (written Decimal.general significand exponent)

/-- The text of a number in a message, which never has an exponent. -/
def messageText : Binary64 → String
  | nan => "NaN"
  | infinite negative => withSign negative ['i', 'n', 'f']
  | finite negative significand exponent =>
    withSign negative (written Decimal.positional significand exponent)

end Binary64
end CommandPlan
