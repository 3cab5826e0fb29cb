import ChainShell.Machine.Script
import ChainShell.Number.Numeral

namespace ChainShell.Machine

inductive Token where
  | word (word : Word)
  | operator (text : Text)
  | redirect (stream : Option Nat) (operator : Text)
  | newline
  deriving DecidableEq, Repr

namespace Token

/-- The characters that names consist of; a name does not begin with a digit. -/
def isNamePart (c : Char) : Bool :=
  c == '_' || Numeral.isDigit c || ('a' ≤ c && c ≤ 'z') || ('A' ≤ c && c ≤ 'Z')

def isName (text : Text) : Bool :=
  text.all isNamePart && text.head?.any (!Numeral.isDigit ·)

/-- The parameters with a name of one other character. -/
def isSpecialParameter (c : Char) : Bool :=
  c == '@' || c == '*' || c == '#' || c == '?' || c == '$' || c == '!' || c == '-'

/-- The characters that end a word unless they are quoted. -/
def endsWord (c : Char) : Bool :=
  c == ' ' || c == '\t' || c == '\n' || c == ';' || c == '&' || c == '|' || c == '<' || c == '>' ||
    c == '(' || c == ')'

/-- The characters that mean themselves in a word. -/
def isOrdinary (c : Char) : Bool :=
  !endsWord c && c != '\'' && c != '"' && c != '\\' && c != '$' && c != '\x60'

/-- The characters that mean themselves between double quotes. -/
def isOrdinaryQuoted (c : Char) : Bool :=
  c != '"' && c != '\\' && c != '$' && c != '\x60'

/-- What stands before the bracket that closes `depth` brackets, and what follows it. Brackets in
quotes do not count. -/
def closing (opening close : Char) : Nat → Nat → Text → Option (Text × Text)
  | 0, _, _ => none
  | _, _, [] => none
  | fuel + 1, depth, c :: rest =>
    let go := fun (depth : Nat) (taken rest : Text) =>
      (closing opening close fuel depth rest).map fun (inside, after) => (taken ++ inside, after)
    if c = close then if depth = 0 then some ([], rest) else go (depth - 1) [c] rest
    else if c = opening then go (depth + 1) [c] rest
    else if c = '\\' then go depth (c :: rest.take 1) (rest.drop 1)
    else if c = '\'' ∨ c = '"' then
      let inside := rest.takeWhile (· != c)
      go depth (c :: inside ++ [c]) (rest.drop (inside.length + 1))
    else go depth [c] rest

/-- The parameter in braces: a name, its length, or a name with an alternative. -/
def braced (quoted : Bool) (inside : Text) : Option Fragment :=
  match inside with
  | '#' :: c :: name => some (.parameterLength (c :: name))
  | _ =>
    let name := match inside with
      | c :: _ => if isSpecialParameter c then [c] else inside.takeWhile isNamePart
      | [] => []
    match name, inside.drop name.length with
    | [], _ => none
    | name, [] => some (.parameter name quoted)
    | name, ':' :: '-' :: alternative => some (.parameterOr name true alternative quoted)
    | name, '-' :: alternative => some (.parameterOr name false alternative quoted)
    | _, _ => none

/-- What a dollar sign begins, and what follows it; a dollar sign that begins nothing means
itself. -/
def dollar (quoted : Bool) (text : Text) : Option (Fragment × Text) :=
  match text with
  | '(' :: '(' :: rest =>
    match closing '(' ')' (rest.length + 1) 0 rest with
    | some (inside, ')' :: after) => some (.arithmetic inside, after)
    | _ => none
  | '(' :: rest =>
    (closing '(' ')' (rest.length + 1) 0 rest).map fun (inside, after) => (.output inside quoted, after)
  | '\x7b' :: rest => do
    let (inside, after) ← closing '\x7b' '\x7d' (rest.length + 1) 0 rest
    let fragment ← braced quoted inside
    return (fragment, after)
  | c :: rest =>
    if isSpecialParameter c || Numeral.isDigit c then some (.parameter [c] quoted, rest)
    else
      let name := text.takeWhile isNamePart
      if name.isEmpty then some (.literal ['$'] quoted, text)
      else some (.parameter name quoted, text.drop name.length)
  | [] => some (.literal ['$'] quoted, [])

/-- What stands between double quotes, and what follows them. -/
def quotedFragments : Nat → Text → Option (List Fragment × Text)
  | 0, _ => none
  | _, [] => none
  | fuel + 1, c :: rest =>
    let go := fun (fragment : Fragment) (rest : Text) =>
      (quotedFragments fuel rest).map fun (more, after) => (fragment :: more, after)
    if c = '"' then some ([], rest)
    else if c = '\\' then
      match rest with
      | '\n' :: rest => quotedFragments fuel rest
      | d :: rest =>
        go (.literal (if isOrdinaryQuoted d then [c, d] else [d]) true) rest
      | [] => none
    else if c = '$' then (dollar true rest).bind fun (fragment, after) => go fragment after
    else if c = '\x60' then
      let inside := rest.takeWhile (· != '\x60')
      go (.output inside true) (rest.drop (inside.length + 1))
    else go (.literal (c :: rest.takeWhile isOrdinaryQuoted) true) (rest.dropWhile isOrdinaryQuoted)

def fragments : Nat → Text → Option (Word × Text)
  | 0, _ => none
  | _, [] => some ([], [])
  | fuel + 1, c :: rest =>
    let go := fun (found : List Fragment) (rest : Text) =>
      (fragments fuel rest).map fun (more, after) => (found ++ more, after)
    if endsWord c then some ([], c :: rest)
    else if c = '\'' then
      let inside := rest.takeWhile (· != '\'')
      match rest.drop inside.length with
      | _ :: after => go [.literal inside true] after
      | [] => none
    else if c = '"' then
      (quotedFragments (rest.length + 1) rest).bind fun (inside, after) =>
        go (.literal [] true :: inside) after
    else if c = '\\' then
      match rest with
      | '\n' :: rest => go [] rest
      | d :: rest => go [.literal [d] true] rest
      | [] => go [.literal [c] true] []
    else if c = '$' then (dollar false rest).bind fun (fragment, after) => go [fragment] after
    else if c = '\x60' then
      let inside := rest.takeWhile (· != '\x60')
      go [.output inside false] (rest.drop (inside.length + 1))
    else go [.literal (c :: rest.takeWhile isOrdinary) false] (rest.dropWhile isOrdinary)

/-- Quotes around `$@` alone do not make a word of nothing. -/
def dropIdleQuotes (word : Word) : Word :=
  if word.contains (.parameter ['@'] true) then word.filter (· != .literal [] true) else word

/-- The operators, the longer ones first. -/
def operators : List Text :=
  ["&&", "||", ";;", ";", "&", "|", "(", ")"].map (·.toList)

/-- The operators of redirections, the longer ones first. -/
def redirectOperators : List Text :=
  [">>", ">&", "<&", ">", "<"].map (·.toList)

/-- Cuts a script into tokens. Each takes a character, so the number of characters is fuel enough. -/
def scan : Nat → Text → Option (List Token)
  | 0, _ => none
  | _, [] => some []
  | fuel + 1, c :: rest =>
    let text := c :: rest
    if c = ' ' ∨ c = '\t' then scan fuel rest
    else if c = '\\' ∧ rest.head? = some '\n' then scan fuel (rest.drop 1)
    else if c = '\n' then (scan fuel rest).map (.newline :: ·)
    else if c = '#' then scan fuel (rest.dropWhile (· != '\n'))
    else
      let digits := text.takeWhile Numeral.isDigit
      let behind := text.drop digits.length
      match redirectOperators.find? (·.isPrefixOf behind), operators.find? (·.isPrefixOf text) with
      | some sign, _ =>
        let stream := if digits.isEmpty then none else some (Numeral.value digits)
        (scan fuel (behind.drop sign.length)).map (.redirect stream sign :: ·)
      | none, some sign => (scan fuel (text.drop sign.length)).map (.operator sign :: ·)
      | none, none => do
        let (found, after) ← fragments (text.length + 1) text
        let tokens ← scan fuel after
        return .word (dropIdleQuotes found) :: tokens

def ofText (text : Text) : Option (List Token) :=
  scan (text.length + 1) text

end Token

end ChainShell.Machine
