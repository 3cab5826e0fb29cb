import ChainShell.Machine.Process
import ChainShell.Text.UpperCase

namespace ChainShell.Machine

/-- Which escapes a program knows besides the letters and octal numbers: a zero that three more
digits may follow, hexadecimal numbers, an escaped double quote, and the one that ends the
output. -/
structure Escapes where
  longZero : Bool
  hexadecimal : Bool
  quote : Bool
  stop : Bool
  deriving DecidableEq, Repr

namespace Escapes

def hexValue? (c : Char) : Option Nat :=
  let n := c.toNat
  if 0x30 ≤ n && n ≤ 0x39 then some (n - 0x30)
  else if 0x41 ≤ n && n ≤ 0x46 then some (n - 0x37)
  else if 0x61 ≤ n && n ≤ 0x66 then some (n - 0x57)
  else none

/-- The digits below a base that a text begins with, `most` of them at most. -/
def leadingDigits (base most : Nat) (text : Text) : List Nat :=
  ((text.take most).map hexValue?).takeWhile (·.any (· < base)) |>.map (·.getD 0)

def digitsValue (base : Nat) (digits : List Nat) : Nat :=
  digits.foldl (fun n d => base * n + d) 0

def letter? (escapes : Escapes) : Char → Option UInt8
  | '\\' => some 92
  | 'a' => some 7
  | 'b' => some 8
  | 'e' => some 27
  | 'f' => some 12
  | 'n' => some 10
  | 'r' => some 13
  | 't' => some 9
  | 'v' => some 11
  | '"' => if escapes.quote then some 34 else none
  | _ => none

/-- What an escape stands for and how many characters behind the backslash belong to it. -/
def read? (escapes : Escapes) (text : Text) : Option (UInt8 × Nat) :=
  match text with
  | [] => none
  | c :: rest =>
    match escapes.letter? c with
    | some byte => some (byte, 1)
    | none =>
      if c = '0' ∧ escapes.longZero then
        let digits := leadingDigits 8 3 rest
        some (UInt8.ofNat (digitsValue 8 digits), 1 + digits.length)
      else if c = 'x' ∧ escapes.hexadecimal then
        match leadingDigits 16 2 rest with
        | [] => none
        | digits => some (UInt8.ofNat (digitsValue 16 digits), 1 + digits.length)
      else
        match leadingDigits 8 3 text with
        | [] => none
        | digits => some (UInt8.ofNat (digitsValue 8 digits), digits.length)

/-- What stands before the first backslash, and what follows it, if there is one. -/
def splitBackslash (text : Text) : Text × Option Text :=
  match text.dropWhile (· != '\\') with
  | [] => (text, none)
  | _ :: rest => (text.takeWhile (· != '\\'), some rest)

theorem length_lt_of_splitBackslash {text before rest : Text}
    (found : splitBackslash text = (before, some rest)) : rest.length < text.length := by
  rw [splitBackslash] at found
  split at found
  · cases found
  · rename_i c after cut
    cases found
    have bound : (text.dropWhile (· != '\\')).length ≤ text.length :=
      (List.dropWhile_suffix _).length_le
    rw [cut] at bound
    simp only [List.length_cons] at bound
    omega

/-- Replaces the escapes of a text, and says whether the output ends there. -/
def expand (escapes : Escapes) (text : Text) : Bytes × Bool :=
  match _cut : splitBackslash text with
  | (before, none) => (Utf8.encode before, false)
  | (before, some rest) =>
    if escapes.stop && rest.head? == some 'c' then (Utf8.encode before, true)
    else
      match escapes.read? rest with
      | some (byte, length) =>
        let (more, stopped) := expand escapes (rest.drop length)
        (Utf8.encode before ++ byte :: more, stopped)
      | none =>
        let (more, stopped) := expand escapes rest
        (Utf8.encode before ++ 92 :: more, stopped)
termination_by text.length
decreasing_by
  · have shorter := length_lt_of_splitBackslash _cut
    rw [List.length_drop]
    omega
  · exact length_lt_of_splitBackslash _cut

end Escapes

/-- The conversion of one operand: whether it goes to the left, is filled up with zeros, shows a plus
sign, its least width, its precision and its letter. -/
structure Conversion where
  left : Bool
  zero : Bool
  plus : Bool
  width : Nat
  precision : Option Nat
  letter : Char
  deriving DecidableEq, Repr

namespace Conversion

def read? (text : Text) : Option (Conversion × Text) :=
  let isFlag := fun c => c == '-' || c == '0' || c == '+' || c == ' ' || c == '#'
  let flags := text.takeWhile isFlag
  let afterFlags := text.dropWhile isFlag
  let width := afterFlags.takeWhile Numeral.isDigit
  let afterWidth := afterFlags.dropWhile Numeral.isDigit
  let (precision, afterPrecision) :=
    match afterWidth with
    | '.' :: rest => (some (Numeral.value (rest.takeWhile Numeral.isDigit)), rest.dropWhile Numeral.isDigit)
    | rest => (none, rest)
  match afterPrecision with
  | [] => none
  | letter :: rest =>
    some (⟨flags.contains '-', flags.contains '0', flags.contains '+', Numeral.value width, precision,
      letter⟩, rest)

def pad (conversion : Conversion) (data : Bytes) : Bytes :=
  let missing := List.replicate (conversion.width - data.length) (32 : UInt8)
  if conversion.left then data ++ missing else missing ++ data

/-- The digits of a number in a base up to sixteen. -/
def digits (base n : Nat) : Text :=
  if _small : n < base ∨ base < 2 then [Text.hexDigit n]
  else digits base (n / base) ++ [Text.hexDigit (n % base)]
termination_by n
decreasing_by
  simp only [not_or, Nat.not_lt] at _small
  exact Nat.div_lt_self (by omega) (by omega)

/-- A number with its sign, filled up with zeros behind the sign if asked for. -/
def number (conversion : Conversion) (negative : Bool) (magnitude : Text) : Bytes :=
  let sign := if negative then ['-'] else if conversion.plus then ['+'] else []
  let least := match conversion.precision with
    | some precision => precision
    | none => if conversion.zero && !conversion.left then conversion.width - sign.length else 0
  conversion.pad (bytes (sign ++ List.replicate (least - magnitude.length) '0' ++ magnitude))

/-- The number that an operand denotes, and whether all of it was understood; what follows a quote
counts by its code. -/
def readNumber (operand : Text) : Int × Bool :=
  match operand with
  | [] => (0, true)
  | '\'' :: c :: rest => (c.toNat, rest.isEmpty)
  | '"' :: c :: rest => (c.toNat, rest.isEmpty)
  | _ =>
    let (negative, magnitude) := Numeral.splitSign (operand.dropWhile Text.isBlank)
    let (base, skipped) :=
      match magnitude with
      | '0' :: 'x' :: _ => (16, 2)
      | '0' :: 'X' :: _ => (16, 2)
      | '0' :: _ => (8, 0)
      | _ => (10, 0)
    let text := magnitude.drop skipped
    let digits := Escapes.leadingDigits base text.length text
    (Numeral.signed negative (Escapes.digitsValue base digits),
      !digits.isEmpty && digits.length == text.length)

def wordSize : Int := 0x10000000000000000

/-- What the conversion makes of an operand, whether it was understood, and whether the output ends
there; nothing if the letter is unknown. -/
def convert? (conversion : Conversion) (escapes : Escapes) (operand : Text) :
    Option (Bytes × Bool × Bool) :=
  let cut := fun (data : Bytes) => match conversion.precision with
    | some precision => data.take precision
    | none => data
  let (value, understood) := readNumber operand
  match conversion.letter with
  | 's' => some (conversion.pad (cut (bytes operand)), true, false)
  | 'c' => some (conversion.pad ((bytes operand).take 1), true, false)
  | 'b' =>
    let (data, stopped) := escapes.expand operand
    some (conversion.pad (cut data), true, stopped)
  | 'd' | 'i' => some (conversion.number (value < 0) (Numeral.ofNat value.natAbs), understood, false)
  | 'u' =>
    some (conversion.number false (Numeral.ofNat (value % wordSize).toNat), understood, false)
  | 'o' => some (conversion.number false (digits 8 (value % wordSize).toNat), understood, false)
  | 'x' => some (conversion.number false (digits 16 (value % wordSize).toNat), understood, false)
  | 'X' =>
    some (conversion.number false (Text.upperCase (digits 16 (value % wordSize).toNat)), understood, false)
  | _ => none

end Conversion

inductive FormatPiece where
  | bytes (data : Bytes)
  | conversion (conversion : Conversion)
  | invalid
  | stop
  deriving DecidableEq, Repr

/-- Cuts a format into pieces; each takes a character at least. -/
def formatPieces (escapes : Escapes) : Nat → Text → List FormatPiece
  | 0, _ => []
  | _, [] => []
  | fuel + 1, c :: rest =>
    if c = '%' then
      match rest with
      | '%' :: rest => .bytes [37] :: formatPieces escapes fuel rest
      | rest =>
        match Conversion.read? rest with
        | some (conversion, rest) => .conversion conversion :: formatPieces escapes fuel rest
        | none => [.invalid]
    else if c = '\\' then
      if escapes.stop && rest.head? == some 'c' then [.stop]
      else
        match escapes.read? rest with
        | some (byte, length) => .bytes [byte] :: formatPieces escapes fuel (rest.drop length)
        | none => .bytes [92] :: formatPieces escapes fuel rest
    else
      let isPlain := fun c => c != '%' && c != '\\'
      .bytes (Utf8.encode ((c :: rest).takeWhile isPlain)) ::
        formatPieces escapes fuel (rest.dropWhile isPlain)

/-- How the use of a format ended: with what operands left, with which status, and whether the output
ends there. -/
structure Formatted where
  output : Bytes
  operands : List Text
  status : Int
  stopped : Bool
  deriving DecidableEq, Repr

/-- Uses a format once; missing operands are empty. -/
def useFormat (operandEscapes : Escapes) : List FormatPiece → List Text → Formatted
  | [], operands => ⟨[], operands, 0, false⟩
  | .bytes data :: rest, operands =>
    let more := useFormat operandEscapes rest operands
    { more with output := data ++ more.output }
  | .invalid :: _, operands => ⟨[], operands, 1, true⟩
  | .stop :: _, operands => ⟨[], operands, 0, true⟩
  | .conversion conversion :: rest, operands =>
    match conversion.convert? operandEscapes (operands.headD []) with
    | none => ⟨[], operands, 1, true⟩
    | some (data, understood, stopped) =>
      if stopped then ⟨data, operands.drop 1, if understood then 0 else 1, true⟩
      else
        let more := useFormat operandEscapes rest (operands.drop 1)
        { more with output := data ++ more.output, status := if understood then more.status else 1 }

/-- Uses a format again as long as it takes operands and some are left. -/
def repeatFormat (operandEscapes : Escapes) (pieces : List FormatPiece) :
    Nat → List Text → Formatted
  | 0, operands => ⟨[], operands, 0, false⟩
  | fuel + 1, operands =>
    let once := useFormat operandEscapes pieces operands
    if once.stopped || once.operands.isEmpty || once.operands.length == operands.length then once
    else
      let more := repeatFormat operandEscapes pieces fuel once.operands
      { more with
        output := once.output ++ more.output
        status := if once.status = 0 then more.status else once.status }

/-- What `printf` writes for a format and operands, and its status. -/
def printFormat (formatEscapes operandEscapes : Escapes) (format : Text) (operands : List Text) :
    Bytes × Int :=
  let pieces := formatPieces formatEscapes format.length format
  let formatted := repeatFormat operandEscapes pieces (operands.length + 1) operands
  (formatted.output, formatted.status)

end ChainShell.Machine
