import ChainShell.Number.Numeral

namespace ChainShell

/-- A double: not a number, an infinity, or `± significand · 2 ^ exponent`. Finite values are kept
with the exponent at least -1074 and the significand below 2 ^ 53, and with the smallest exponent
that allows. All arithmetic is on natural numbers, so nothing depends on the machine's floating point. -/
inductive Binary64 where
  | nan
  | infinite (negative : Bool)
  | finite (negative : Bool) (significand : Nat) (exponent : Int)
  deriving DecidableEq, Repr

namespace Binary64

/-- A quotient times `base ^ exponent`, as a quotient. -/
def scale (base : Nat) (exponent : Int) (num den : Nat) : Nat × Nat :=
  if exponent < 0 then (num, den * base.pow (-exponent).toNat)
  else (num * base.pow exponent.toNat, den)

/-- The exponent of the greatest power of two that is at most `num / den`. -/
def floorLog2 (num den : Nat) : Int :=
  let estimate : Int := (Nat.log2 num : Int) - Nat.log2 den
  let (n, d) := scale 2 (-estimate) num den
  if d ≤ n then estimate else estimate - 1

/-- The quotient rounded to the nearest integer, a half to the even neighbour. -/
def roundHalfEven (num den : Nat) : Nat :=
  let q := num / den
  let r := num % den
  if den < 2 * r || (2 * r == den && q % 2 == 1) then q + 1 else q

/-- The double nearest to `num / den`, a half going to the even significand. -/
def ofRatio (negative : Bool) (num den : Nat) : Binary64 :=
  if num = 0 then .finite negative 0 (-1074)
  else
    let exponent := max (-1074) (floorLog2 num den - 52)
    let (n, d) := scale 2 (-exponent) num den
    let rounded := roundHalfEven n d
    let (significand, exponent) :=
      if rounded = Nat.pow 2 53 then (Nat.pow 2 52, exponent + 1) else (rounded, exponent)
    if 971 < exponent then .infinite negative else .finite negative significand exponent

/-- The double nearest to `± digits · 10 ^ exponent`. Far outside the range of doubles the answer
is known from the number of digits, and no power of ten is computed. -/
def ofDecimal (negative : Bool) (digits : Nat) (exponent : Int) : Binary64 :=
  if digits = 0 then .finite negative 0 (-1074)
  else
    let magnitude : Int := (Numeral.ofNat digits).length + exponent
    if 310 < magnitude then .infinite negative
    else if magnitude < -330 then .finite negative 0 (-1074)
    else
      let (n, d) := scale 10 exponent digits 1
      ofRatio negative n d

/-- Greater than zero; no number that is not a number is. -/
def isPositive : Binary64 → Bool
  | .nan => false
  | .infinite negative => !negative
  | .finite negative significand _ => !negative && 0 < significand

/-- Whether the double is less than the quotient of two natural numbers. -/
def lessThanRatio (num den : Nat) : Binary64 → Bool
  | .nan => false
  | .infinite negative => negative
  | .finite negative significand exponent =>
    let (n, d) := scale 2 exponent significand 1
    if negative then 0 < num || 0 < significand else n * den < num * d

end Binary64

end ChainShell
