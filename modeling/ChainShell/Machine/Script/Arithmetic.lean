import ChainShell.Machine.Options
import ChainShell.Machine.Script.Token

namespace ChainShell.Machine.Arithmetic

inductive Token where
  | number (value : Int)
  | operator (text : Text)
  deriving DecidableEq, Repr

/-- The operators, the longer ones first. -/
def operators : List Text :=
  ["||", "&&", "==", "!=", "<=", ">=", "<", ">", "+", "-", "*", "/", "%", "!", "(", ")"].map (·.toList)

/-- The tokens of an expression; names stand for the values of variables, which are zero unless they
are numbers. Each takes a character at least. -/
def scan (values : Text → Text) : Nat → Text → Option (List Token)
  | 0, _ => none
  | _, [] => some []
  | fuel + 1, c :: rest =>
    let text := c :: rest
    if Text.isBlank c then scan values fuel rest
    else if Numeral.isDigit c then
      let digits := text.takeWhile Numeral.isDigit
      (scan values fuel (text.drop digits.length)).map (.number (Numeral.value digits) :: ·)
    else if c = '$' then scan values fuel rest
    else
      let name := text.takeWhile Machine.Token.isNamePart
      if name.isEmpty then
        match operators.find? (·.isPrefixOf text) with
        | none => none
        | some sign => (scan values fuel (text.drop sign.length)).map (.operator sign :: ·)
      else
        let value := (readInt (Text.trim (values name))).getD 0
        (scan values fuel (text.drop name.length)).map (.number value :: ·)

/-- The operators with two operands, those that bind least first. -/
def levels : List (List Text) :=
  [["||"], ["&&"], ["==", "!="], ["<=", ">=", "<", ">"], ["+", "-"], ["*", "/", "%"]].map
    (·.map (·.toList))

/-- What an operator makes of two numbers; nothing divides by zero. -/
def apply (sign : Text) (m n : Int) : Option Int :=
  let truth := fun (holds : Bool) => if holds then (1 : Int) else 0
  match sign with
  | ['|', '|'] => some (truth (m != 0 || n != 0))
  | ['&', '&'] => some (truth (m != 0 && n != 0))
  | ['=', '='] => some (truth (m == n))
  | ['!', '='] => some (truth (m != n))
  | ['<', '='] => some (truth (m ≤ n))
  | ['>', '='] => some (truth (m ≥ n))
  | ['<'] => some (truth (m < n))
  | ['>'] => some (truth (m > n))
  | ['+'] => some (m + n)
  | ['-'] => some (m - n)
  | ['*'] => some (m * n)
  | ['/'] => if n = 0 then none else some (m.tdiv n)
  | ['%'] => if n = 0 then none else some (m.tmod n)
  | _ => none

/-- What is read at one place: operators of the given levels, the rest of such a chain, or an
operand. -/
inductive Goal where
  | level (operators : List (List Text))
  | chain (operators : List Text) (tighter : List (List Text)) (value : Int)
  deriving Repr

def read : Nat → Goal → List Token → Option (Int × List Token)
  | 0, _, _ => none
  | _ + 1, .level [], [] => none
  | fuel + 1, .level [], token :: rest =>
    match token with
    | .number value => some (value, rest)
    | .operator ['-'] => (read fuel (.level []) rest).map fun (value, rest) => (-value, rest)
    | .operator ['+'] => read fuel (.level []) rest
    | .operator ['!'] =>
      (read fuel (.level []) rest).map fun (value, rest) => (if value = 0 then 1 else 0, rest)
    | .operator ['('] =>
      match read fuel (.level levels) rest with
      | some (value, .operator [')'] :: rest) => some (value, rest)
      | _ => none
    | .operator _ => none
  | fuel + 1, .level (signs :: tighter), tokens => do
    let (value, rest) ← read fuel (.level tighter) tokens
    read fuel (.chain signs tighter value) rest
  | fuel + 1, .chain signs tighter value, tokens =>
    match tokens with
    | .operator sign :: rest =>
      if signs.contains sign then do
        let (right, rest) ← read fuel (.level tighter) rest
        let value ← apply sign value right
        read fuel (.chain signs tighter value) rest
      else some (value, tokens)
    | tokens => some (value, tokens)

def value? (values : Text → Text) (text : Text) : Option Int := do
  let tokens ← scan values (text.length + 1) text
  if tokens.isEmpty then some 0
  else
    match read (20 * tokens.length + 20) (.level levels) tokens with
    | some (value, []) => some value
    | _ => none

end ChainShell.Machine.Arithmetic
