import ChainShell.Text.Printable

namespace ChainShell.Text

/-- A hexadecimal digit in lower case. -/
def hexDigit (n : Nat) : Char :=
  Char.ofNat (if n < 10 then 0x30 + n else 0x57 + n)

/-- The last `width` hexadecimal digits of a number. -/
def hexDigits : Nat → Nat → Text
  | 0, _ => []
  | width + 1, n => hexDigits width (n / 16) ++ [hexDigit (n % 16)]

/-- Single quotes, unless the text has a single quote and no double one. -/
def quoteMark (text : Text) : Char :=
  if text.contains '\'' && !text.contains '"' then '"' else '\''

/-- The mark and the backslash are escaped by a backslash; unprintable characters get the
shortest of the three numbered forms. -/
def quoteChar (mark c : Char) : Text :=
  let n := c.toNat
  if c == mark || c == '\\' then ['\\', c]
  else if c == '\t' then ['\\', 't']
  else if c == '\n' then ['\\', 'n']
  else if c == '\r' then ['\\', 'r']
  else if isPrintable c then [c]
  else if n ≤ 0xFF then '\\' :: 'x' :: hexDigits 2 n
  else if n ≤ 0xFFFF then '\\' :: 'u' :: hexDigits 4 n
  else '\\' :: 'U' :: hexDigits 8 n

/-- The quoted form of a text, which shows where it begins and ends and makes unprintable characters
visible: `it's` is shown as `"it's"`, a tab as `'\t'`. -/
def quote (text : Text) : Text :=
  let mark := quoteMark text
  mark :: (text.flatMap (quoteChar mark) ++ [mark])

end ChainShell.Text
