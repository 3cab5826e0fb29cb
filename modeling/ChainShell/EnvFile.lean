import ChainShell.Text.Basic

namespace ChainShell.EnvFile

/-- A name, and its value if it has an equals sign. -/
structure Entry where
  name : Text
  value : Option Text
  deriving DecidableEq, Repr

/-- The variables that a file defines, in the order of their first definition. -/
abbrev Variables := List (Text × Option Text)

def isInlineBlank (c : Char) : Bool :=
  Text.isBlank c && c != '\n'

def skipInline (text : Text) : Text :=
  text.dropWhile isInlineBlank

/-- Skips the rest of the line, with the line feed. -/
def skipLine (text : Text) : Text :=
  (text.dropWhile (· != '\n')).drop 1

/-- Skips `export` if blanks follow it. -/
def skipExport (text : Text) : Text :=
  let keyword := "export".toList
  let after := text.drop keyword.length
  if keyword.isPrefixOf text && (after.head?.any isInlineBlank) then skipInline after else text

/-- Skips a comment that begins here, after blanks or at once. -/
def skipComment (text : Text) : Text :=
  match skipInline text with
  | '#' :: rest => rest.dropWhile (· != '\n')
  | _ => text

/-- A name, which may stand in single quotes; none where a comment begins. Reading fails with the
text at which it fails. -/
def readName (text : Text) : Except Text (Option Text × Text) :=
  match text with
  | '#' :: _ => .ok (none, text)
  | '\'' :: rest =>
    match rest.takeWhile (· != '\''), rest.dropWhile (· != '\'') with
    | c :: name, _ :: after => .ok (some (c :: name), after)
    | _, _ => .error text
  | _ =>
    let isPart := fun c => c != '=' && c != '#' && !Text.isBlank c
    match text.takeWhile isPart with
    | [] => .error text
    | name => .ok (some name, text.dropWhile isPart)

/-- What stands before the closing quote, and what follows it. A quote behind a backslash closes
only if no later quote does. -/
def readQuoted (quote : Char) : Text → Option (Text × Text)
  | [] => none
  | [c] => if c = quote then some ([], []) else none
  | c :: d :: rest =>
    if c = quote then some ([], d :: rest)
    else if c = '\\' ∧ d = quote then
      match readQuoted quote rest with
      | some (value, after) => some (c :: d :: value, after)
      | none => some ([c], rest)
    else (readQuoted quote (d :: rest)).map fun (value, after) => (c :: value, after)

def singleEscape (c : Char) : Option Char :=
  if c = '\\' ∨ c = '\'' then some c else none

def doubleEscape : Char → Option Char
  | '\\' => some '\\'
  | '\'' => some '\''
  | '"' => some '"'
  | 'a' => some '\x07'
  | 'b' => some '\x08'
  | 'f' => some '\x0C'
  | 'n' => some '\n'
  | 'r' => some '\r'
  | 't' => some '\t'
  | 'v' => some '\x0B'
  | _ => none

/-- Replaces escapes; a backslash before any other character is kept. -/
def unescape (escape : Char → Option Char) : Text → Text
  | '\\' :: c :: rest =>
    match escape c with
    | some meant => meant :: unescape escape rest
    | none => '\\' :: unescape escape (c :: rest)
  | c :: rest => c :: unescape escape rest
  | [] => []

/-- What stands before a comment: a number sign behind a blank begins one. -/
def beforeComment (afterBlank : Bool) : Text → Text
  | [] => []
  | c :: rest =>
    if afterBlank && c == '#' then [] else c :: beforeComment (Text.isBlank c) rest

def readValue (text : Text) : Except Text (Text × Text) :=
  match text with
  | '\'' :: rest =>
    match readQuoted '\'' rest with
    | some (value, after) => .ok (unescape singleEscape value, after)
    | none => .error text
  | '"' :: rest =>
    match readQuoted '"' rest with
    | some (value, after) => .ok (unescape doubleEscape value, after)
    | none => .error text
  | _ =>
    let line := text.takeWhile (· != '\n')
    .ok (Text.dropEndWhile Text.isBlank (beforeComment false line), text.dropWhile (· != '\n'))

def readLineEnd (text : Text) : Except Text Text :=
  match skipInline text with
  | [] => .ok []
  | '\n' :: rest => .ok rest
  | _ => .error text

/-- One line, or more if a value in quotes runs on: a name, which `export` may precede, and the value
behind an equals sign, if there is one. -/
def readEntry (text : Text) : Except Text (Option Entry × Text) := do
  let (name, rest) ← readName (skipExport text)
  let (value, rest) ←
    match skipInline rest with
    | '=' :: rest => do
      let (value, rest) ← readValue (skipInline rest)
      pure (some value, rest)
    | rest => pure (none, rest)
  let rest ← readLineEnd (skipComment rest)
  return (name.map fun name => ⟨name, value⟩, rest)

/-- Reads so many lines at most. Each takes a character, so the length of the text is enough. What
cannot be read is passed over to the end of its line. -/
def readEntries : Nat → Text → List Entry
  | 0, _ => []
  | count + 1, text =>
    match text.dropWhile Text.isBlank with
    | [] => []
    | text =>
      match readEntry text with
      | .ok (some entry, rest) => entry :: readEntries count rest
      | .ok (none, rest) => readEntries count rest
      | .error rest => readEntries count (skipLine rest)

/-- The entries of a file; a byte order mark at its start is skipped. -/
def entries (text : Text) : List Entry :=
  let text := if text.head? = some '\uFEFF' then text.drop 1 else text
  readEntries text.length text

/-- A variable's name and the text to take in its place if it is not defined. -/
structure Reference where
  name : Text
  fallback : Text
  deriving DecidableEq, Repr

/-- A reference at the start of a text, and what follows it. -/
def reference? : Text → Option (Reference × Text)
  | '$' :: '\x7b' :: text =>
    let isPart := fun c => c != '\x7d' && c != ':'
    let name := text.takeWhile isPart
    match text.dropWhile isPart with
    | '\x7d' :: rest => some (⟨name, []⟩, rest)
    | ':' :: '-' :: rest =>
      match rest.dropWhile (· != '\x7d') with
      | _ :: after => some (⟨name, rest.takeWhile (· != '\x7d')⟩, after)
      | [] => none
    | _ => none
  | _ => none

theorem length_lt_of_reference {text rest : Text} {reference : Reference}
    (found : reference? text = some (reference, rest)) : rest.length < text.length := by
  rw [reference?.eq_def] at found
  split at found
  · rename_i body
    have bound : ∀ (p : Char → Bool) (text : Text), (text.dropWhile p).length ≤ text.length :=
      fun p text => (List.dropWhile_suffix p).length_le
    dsimp only at found
    split at found
    · rename_i closed
      have whole := bound (fun c => c != '\x7d' && c != ':') body
      rw [closed] at whole
      cases found
      simp only [List.length_cons] at *
      omega
    · rename_i later opened
      have whole := bound (fun c => c != '\x7d' && c != ':') body
      rw [opened] at whole
      split at found
      · rename_i closed
        have inner := bound (· != '\x7d') later
        rw [closed] at inner
        cases found
        simp only [List.length_cons] at *
        omega
      · cases found
    · cases found
  · cases found

/-- Puts values in the place of references; a variable without a value counts as empty. -/
def interpolate (defined : Variables) (text : Text) : Text :=
  match text with
  | [] => []
  | c :: rest =>
    match _found : reference? (c :: rest) with
    | some (reference, after) =>
      let value :=
        match defined.lookup reference.name with
        | some value => value.getD []
        | none => reference.fallback
      value ++ interpolate defined after
    | none => c :: interpolate defined rest
termination_by text.length
decreasing_by
  · exact length_lt_of_reference _found
  · exact Nat.lt_succ_self _

/-- Defines a variable, in its old place if it had one. -/
def define (defined : Variables) (name : Text) (value : Option Text) : Variables :=
  match defined with
  | [] => [(name, value)]
  | (other, old) :: rest =>
    if other = name then (name, value) :: rest else (other, old) :: define rest name value

/-- The variables that entries define; values refer to the variables defined so far and then to
those of the environment. -/
def defined (environment : List (Text × Text)) (entries : List Entry) : Variables :=
  entries.foldl (fun defined entry =>
    let visible := defined ++ environment.map fun (name, value) => (name, some value)
    define defined entry.name (entry.value.map (interpolate visible))) []

end ChainShell.EnvFile
