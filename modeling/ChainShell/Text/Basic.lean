namespace ChainShell

/-- A text is its list of characters; it is cut, counted and compared character by character. -/
abbrev Text := List Char

/-- What programs read and write. -/
abbrev Bytes := List UInt8

namespace Text

/-- The characters that separate words: the Unicode spaces, the line breaks in a wide sense,
and the four information separators U+001C to U+001F. -/
def isBlank (c : Char) : Bool :=
  let n := c.toNat
  (0x09 ≤ n && n ≤ 0x0D) || (0x1C ≤ n && n ≤ 0x20) || n == 0x85 || n == 0xA0 || n == 0x1680 ||
    (0x2000 ≤ n && n ≤ 0x200A) || n == 0x2028 || n == 0x2029 || n == 0x202F || n == 0x205F ||
    n == 0x3000

/-- Puts a character in front of the first piece. -/
def extendHead (c : Char) : List Text → List Text
  | [] => [[c]]
  | piece :: pieces => (c :: piece) :: pieces

/-- Cuts at every character that satisfies `p`; one more piece than cuts, some of them empty. -/
def splitWhere (p : Char → Bool) (text : Text) : List Text :=
  text.foldr (fun c pieces => if p c then [] :: pieces else extendHead c pieces) [[]]

def splitOn (separator : Char) (text : Text) : List Text :=
  splitWhere (· == separator) text

/-- The words of a text are the non-empty pieces between its blanks. -/
def words (text : Text) : List Text :=
  (splitWhere isBlank text).filter (!·.isEmpty)

/-- Drops the longest run of characters satisfying `p` from the end. -/
def dropEndWhile (p : Char → Bool) (text : Text) : Text :=
  (text.reverse.dropWhile p).reverse

def trim (text : Text) : Text :=
  dropEndWhile isBlank (text.dropWhile isBlank)

/-- The pieces one after the other, with `separator` between neighbours. -/
def join (separator : Text) (pieces : List Text) : Text :=
  separator.intercalate pieces

def lowerAscii (c : Char) : Char :=
  if 0x41 ≤ c.toNat && c.toNat ≤ 0x5A then Char.ofNat (c.toNat + 0x20) else c

@[simp] theorem splitWhere_nil (p : Char → Bool) : splitWhere p [] = [[]] := rfl

theorem splitWhere_cons (p : Char → Bool) (c : Char) (text : Text) :
    splitWhere p (c :: text) =
      if p c then [] :: splitWhere p text else extendHead c (splitWhere p text) := rfl

/-- There is always a last piece, so a cut text is never a list of no pieces. -/
theorem splitWhere_ne_nil (p : Char → Bool) (text : Text) : splitWhere p text ≠ [] := by
  cases text with
  | nil => simp
  | cons c rest =>
    rw [splitWhere_cons]
    split
    · simp
    · cases splitWhere p rest <;> simp [extendHead]

end Text

end ChainShell
