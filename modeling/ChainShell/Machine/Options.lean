import ChainShell.Number.Numeral

namespace ChainShell.Machine

/-- The options of a program in the order given, single letters behind a hyphen and their values, and
the operands, which may stand among them. -/
structure Options where
  given : List (Char × Text)
  operands : List Text
  deriving DecidableEq, Repr

namespace Options

def has (options : Options) (letter : Char) : Bool :=
  options.given.any (·.1 == letter)

def value? (options : Options) (letter : Char) : Option Text :=
  (options.given.reverse.find? (·.1 == letter)).map (·.2)

/-- The letters of one argument, and whether the last of them still needs its value. -/
def readLetters (flags valued : List Char) : Text → Option (List (Char × Text) × Option Char)
  | [] => some ([], none)
  | letter :: rest =>
    if flags.contains letter then do
      let (given, awaiting) ← readLetters flags valued rest
      return ((letter, []) :: given, awaiting)
    else if valued.contains letter then
      match rest with
      | [] => some ([], some letter)
      | value => some ([(letter, value)], none)
    else none

/-- Reads arguments: `flags` are the options without a value, `valued` those with one. Nothing if an
option is unknown or lacks its value. -/
def read (flags valued : List Char) : List Text → Option Options
  | [] => some ⟨[], []⟩
  | argument :: rest =>
    match argument with
    | ['-', '-'] => some ⟨[], rest⟩
    | '-' :: letter :: letters =>
      match readLetters flags valued (letter :: letters), rest with
      | some (given, none), rest => do
        let options ← read flags valued rest
        return { options with given := given ++ options.given }
      | some (given, some awaiting), value :: rest => do
        let options ← read flags valued rest
        return { options with given := given ++ (awaiting, value) :: options.given }
      | _, _ => none
    | _ => do
      let options ← read flags valued rest
      return { options with operands := argument :: options.operands }

end Options

def readNat (text : Text) : Option Nat :=
  if text.isEmpty || !text.all Numeral.isDigit then none else some (Numeral.value text)

/-- An integer in decimal digits, with an optional sign. -/
def readInt (text : Text) : Option Int :=
  let (negative, digits) := Numeral.splitSign text
  (readNat digits).map (Numeral.signed negative)

def readOctal (text : Text) : Option Nat :=
  if text.isEmpty || !text.all (fun c => Numeral.isDigit c && Numeral.digitValue c < 8) then none
  else some (text.foldl (fun n c => 8 * n + Numeral.digitValue c) 0)

end ChainShell.Machine
