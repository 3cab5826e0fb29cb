import ChainShell.Number.Binary64

namespace ChainShell.Binary64

/-- The exponent of the greatest power of ten that is at most `num / den`. -/
def floorLog10 (num den : Nat) : Int :=
  let estimate : Int := ((Numeral.ofNat num).length : Int) - (Numeral.ofNat den).length
  let (n, d) := scale 10 (-estimate) num den
  if d ≤ n then estimate else estimate - 1

/-- The numbers that round to a double, in quarters of its last place. The gap below a power of two
is half as wide; the ends round to the double itself exactly if its significand is even. -/
structure RoundingInterval where
  low : Nat
  middle : Nat
  high : Nat
  closed : Bool

/-- The interval of `significand · 2 ^ exponent`. -/
def roundingInterval (significand : Nat) (exponent : Int) : RoundingInterval where
  low := if significand = Nat.pow 2 52 ∧ -1074 < exponent then 4 * significand - 1 else 4 * significand - 2
  middle := 4 * significand
  high := 4 * significand + 2
  closed := significand % 2 == 0

/-- Among the two neighbours of `middle · b / a` on the integers, those within the interval, and of
two the nearer. -/
def gridPoint (interval : RoundingInterval) (a b : Nat) : Option Nat :=
  let inside := fun d =>
    if interval.closed then interval.low * b ≤ d * a && d * a ≤ interval.high * b
    else interval.low * b < d * a && d * a < interval.high * b
  let below := interval.middle * b / a
  let above := below + 1
  match inside below, inside above with
  | true, false => some below
  | false, true => some above
  | false, false => none
  | true, true =>
    let toBelow := interval.middle * b - below * a
    let toAbove := above * a - interval.middle * b
    if toBelow < toAbove || (toBelow == toAbove && below % 2 == 0) then some below else some above

/-- Tries grids of `count`, `count + 1`, … digits, `fuel` of them; `leading` is the place of the
first digit. Seventeen digits always suffice. -/
def searchDigits (interval : RoundingInterval) (exponent leading : Int) :
    Nat → Nat → Option (Nat × Int)
  | 0, _ => none
  | fuel + 1, count =>
    let place := leading - count + 1
    let (n, d) := scale 2 (exponent - 2) 1 1
    let (b, a) := scale 10 (-place) n d
    match gridPoint interval a b with
    | some digits => some (digits, place)
    | none => searchDigits interval exponent leading fuel (count + 1)

/-- The digits and the place of the last one for a positive finite double. -/
def shortestDigits (significand : Nat) (exponent : Int) : Nat × Int :=
  let (n, d) := scale 2 exponent significand 1
  match searchDigits (roundingInterval significand exponent) exponent (floorLog10 n d) 17 1 with
  | some found => found
  | none => (significand, exponent)

/-- Moves the zeros at the end of the digits into the exponent. -/
def withoutEndZeros (digits : Text) : Text :=
  Text.dropEndWhile (· == '0') digits

/-- Digits with the point after the first `point` of them, filled up with zeros. -/
def positional (digits : Text) (point : Int) : Text :=
  let count := digits.length
  if point ≤ 0 then '0' :: '.' :: (List.replicate (-point).toNat '0' ++ digits)
  else if (count : Int) ≤ point then digits ++ List.replicate (point.toNat - count) '0' ++ ['.', '0']
  else digits.take point.toNat ++ '.' :: digits.drop point.toNat

/-- One digit before the point, and an exponent with its sign and at least two digits. -/
def scientific (digits : Text) (point : Int) : Text :=
  let power := point - 1
  let magnitude := Numeral.ofNat power.natAbs
  let fraction :=
    match digits.drop 1 with
    | [] => []
    | rest => '.' :: rest
  digits.take 1 ++ fraction ++ 'e' :: (if power < 0 then '-' else '+') ::
    (List.replicate (2 - magnitude.length) '0' ++ magnitude)

/-- The decimal text of a double: the fewest digits that read back as the same double, and of those the
nearest. From 10⁻⁴ up to 10¹⁶ they are written out with a point, elsewhere with an exponent. -/
def text : Binary64 → Text
  | .nan => "nan".toList
  | .infinite negative => (if negative then ['-'] else []) ++ "inf".toList
  | .finite negative significand exponent =>
    let sign := if negative then ['-'] else []
    if significand = 0 then sign ++ "0.0".toList
    else
      let (number, place) := shortestDigits significand exponent
      let allDigits := Numeral.ofNat number
      let point := (allDigits.length : Int) + place
      let digits := withoutEndZeros allDigits
      sign ++ if -4 < point ∧ point ≤ 16 then positional digits point else scientific digits point

end ChainShell.Binary64
