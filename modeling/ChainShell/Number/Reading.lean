import ChainShell.Number.Binary64

namespace ChainShell.Binary64

/-- Unicode white space: the blanks without the four information separators. -/
def isWhiteSpace (c : Char) : Bool :=
  Text.isBlank c && !(0x1C ≤ c.toNat && c.toNat ≤ 0x1F)

/-- An exponent part: nothing, or `e`, an optional sign and digits. -/
def readExponent : Text → Option Int
  | [] => some 0
  | 'e' :: rest =>
    let (negative, digits) := Numeral.splitSign rest
    if digits.isEmpty || !digits.all Numeral.isDigit then none
    else some (Numeral.signed negative (Numeral.value digits))
  | _ => none

/-- An unsigned decimal: digits before or after the point, at least one, then the exponent part. -/
def readMagnitude (negative : Bool) (text : Text) : Option Binary64 :=
  let whole := text.takeWhile Numeral.isDigit
  let afterWhole := text.dropWhile Numeral.isDigit
  let (fraction, afterFraction) :=
    match afterWhole with
    | '.' :: rest => (rest.takeWhile Numeral.isDigit, rest.dropWhile Numeral.isDigit)
    | rest => ([], rest)
  if whole.isEmpty && fraction.isEmpty then none
  else do
    let exponent ← readExponent afterFraction
    return ofDecimal negative (Numeral.value (whole ++ fraction)) (exponent - fraction.length)

/-- A number without blanks around it and without underscores: an optional sign, then the name of an
infinity or of no number, in any case, or a decimal. -/
def readPlain (text : Text) : Option Binary64 :=
  let (negative, magnitude) := Numeral.splitSign (text.map Text.lowerAscii)
  if magnitude = "inf".toList ∨ magnitude = "infinity".toList then some (.infinite negative)
  else if magnitude = "nan".toList then some .nan
  else readMagnitude negative magnitude

/-- Removes underscores that stand alone between other characters; a text with none, or with one at
an end or beside another, has no such form. -/
def withoutUnderscores (text : Text) : Option Text :=
  let pieces := Text.splitOn '_' text
  if pieces.length < 2 || pieces.any (·.isEmpty) then none else some pieces.flatten

/-- Reads a number with white space around it, or else one with underscores in it. -/
def read (text : Text) : Option Binary64 :=
  match readPlain (Text.dropEndWhile isWhiteSpace (text.dropWhile isWhiteSpace)) with
  | some number => some number
  | none => (withoutUnderscores text).bind readPlain

end ChainShell.Binary64
