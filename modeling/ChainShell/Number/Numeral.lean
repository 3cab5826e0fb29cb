import ChainShell.Text.Basic

namespace ChainShell

namespace Numeral

def digitChar (n : Nat) : Char :=
  Char.ofNat (0x30 + n)

/-- The decimal digits of a number, without leading zeros. -/
def ofNat (n : Nat) : Text :=
  if n < 10 then [digitChar n] else ofNat (n / 10) ++ [digitChar (n % 10)]

/-- The decimal form of an integer: a minus sign for the negative ones, no plus sign. -/
def ofInt : Int → Text
  | .ofNat n => ofNat n
  | .negSucc n => '-' :: ofNat (n + 1)

/-- The ASCII digits; digits of other scripts are not numerals here. -/
def isDigit (c : Char) : Bool :=
  0x30 ≤ c.toNat && c.toNat ≤ 0x39

def digitValue (c : Char) : Nat :=
  c.toNat - 0x30

/-- The number that a sequence of digits denotes; leading zeros do not matter. -/
def value (digits : Text) : Nat :=
  digits.foldl (fun n c => 10 * n + digitValue c) 0

/-- An optional sign and what follows it; `true` is the minus sign. -/
def splitSign : Text → Bool × Text
  | '-' :: rest => (true, rest)
  | '+' :: rest => (false, rest)
  | rest => (false, rest)

def signed (negative : Bool) (n : Nat) : Int :=
  if negative then -(n : Int) else n

end Numeral

end ChainShell
