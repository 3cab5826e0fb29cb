import ChainShell.Number.Numeral
import ChainShell.Text.Quoted

namespace ChainShell

/-- Why the system refuses a request about files or programs. -/
inductive Errno where
  | noEntry
  | argumentsTooLong
  | execFormat
  | permission
  | notDirectory
  | nameTooLong
  | tooManyLinks
  deriving DecidableEq, Repr

def Errno.code : Errno → Nat
  | .noEntry => 2
  | .argumentsTooLong => 7
  | .execFormat => 8
  | .permission => 13
  | .notDirectory => 20
  | .nameTooLong => 36
  | .tooManyLinks => 40

def Errno.text : Errno → Text
  | .noEntry => "No such file or directory".toList
  | .argumentsTooLong => "Argument list too long".toList
  | .execFormat => "Exec format error".toList
  | .permission => "Permission denied".toList
  | .notDirectory => "Not a directory".toList
  | .nameTooLong => "File name too long".toList
  | .tooManyLinks => "Too many levels of symbolic links".toList

/-- A reason with the file that it is about, in the form in which the file is shown. -/
def Errno.about (e : Errno) (shown : Text) : Text :=
  "[Errno ".toList ++ Numeral.ofNat e.code ++ "] ".toList ++ e.text ++ ": ".toList ++ shown

/-- The wording for a text that has a NUL where the system takes none. -/
def embeddedNull : Text := "embedded null byte".toList

end ChainShell
