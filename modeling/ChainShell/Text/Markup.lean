import ChainShell.Text.Basic

namespace ChainShell.Text

/-- The characters that a tag may begin with. -/
def isTagStart (c : Char) : Bool :=
  (0x61 ≤ c.toNat && c.toNat ≤ 0x7A) || c == '#' || c == '/' || c == '@'

/-- Whether what follows an opening bracket makes it a tag: a tag's first character, and a closing
bracket before any other opening one. -/
def opensTag : Text → Bool
  | [] => false
  | c :: rest =>
    isTagStart c &&
      match rest.dropWhile (fun x => x != '[' && x != ']') with
      | ']' :: _ => true
      | _ => false

/-- Whether what follows a backslash is a bracket that opens no tag. -/
def escapesBracket : Text → Bool
  | '[' :: rest => !opensTag rest
  | _ => false

/-- A backslash before a bracket that opens no tag disappears. -/
def dropBracketEscapes (text : Text) : Text :=
  (text.foldr (fun c (rest, kept) =>
    (c :: rest, if c == '\\' && escapesBracket rest then kept else c :: kept)) ([], [])).2

@[simp] theorem dropBracketEscapes_nil : dropBracketEscapes [] = [] := rfl

theorem fst_foldr_escapes (text : Text) : (text.foldr (fun c (rest, kept) =>
    (c :: rest, if c == '\\' && escapesBracket rest then kept else c :: kept))
      (([], []) : Text × Text)).1 = text := by
  induction text with
  | nil => rfl
  | cons c rest ih => simp only [List.foldr_cons, ih]

theorem dropBracketEscapes_cons (c : Char) (rest : Text) :
    dropBracketEscapes (c :: rest) =
      if c == '\\' && escapesBracket rest then dropBracketEscapes rest
      else c :: dropBracketEscapes rest := by
  simp only [dropBracketEscapes, List.foldr_cons, fst_foldr_escapes]

/-- A single backslash at the end of a message is doubled, so that it cannot escape what follows. -/
def guardEnd (message : Text) : Text :=
  match message.reverse with
  | '\\' :: '\\' :: _ => message
  | '\\' :: _ => message ++ ['\\']
  | _ => message

/-- A message as it is seen after its tags have been made literal. They come out as written; of other
brackets, and of a backslash at the end, the escaping leaves a trace. -/
def literal (message : Text) : Text :=
  dropBracketEscapes (guardEnd message)

end ChainShell.Text
