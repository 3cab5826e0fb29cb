import ChainShell.Machine.Script.Token

namespace ChainShell.Machine.Script

/-- The word that a token is if nothing in it is quoted or replaced. -/
def plainWord? : Token → Option Text
  | .word [.literal text false] => some text
  | _ => none

/-- Whether a token is a word of the language itself. -/
def isKeyword (keyword : String) (token : Token) : Bool :=
  plainWord? token == some keyword.toList

/-- The words that end a list of commands. -/
def closers : List Text :=
  ["then", "else", "elif", "fi", "do", "done", "\x7d", "esac"].map (·.toList)

def isClosed : List Token → Bool
  | [] => true
  | .operator text :: _ => text == [')'] || text == [';', ';']
  | token :: _ => (plainWord? token).any (closers.contains ·)

def skipNewlines (tokens : List Token) : List Token :=
  tokens.dropWhile (· == .newline)

def skipSeparators (tokens : List Token) : List Token :=
  tokens.dropWhile fun token =>
    token == .newline || token == .operator [';'] || token == .operator ['&']

def expect (keyword : String) : List Token → Option (List Token)
  | token :: rest => if isKeyword keyword token then some rest else none
  | [] => none

def redirect (stream : Option Nat) (sign : Text) (target : Word) : Redirect :=
  if sign = ['<'] then .read (stream.getD 0) target
  else if sign = ['<', '&'] then .copy (stream.getD 0) target
  else if sign = ['>', '&'] then .copy (stream.getD 1) target
  else .write (stream.getD 1) (sign == ['>', '>']) target

def readRedirects : List Token → List Redirect × List Token
  | .redirect stream sign :: .word target :: rest =>
    let (more, rest) := readRedirects rest
    (redirect stream sign target :: more, rest)
  | rest => ([], rest)

def assignment? : Word → Option (Text × Word)
  | .literal text false :: more =>
    let name := text.takeWhile (· != '=')
    match text.drop name.length with
    | _ :: value => if Token.isName name then some (name, .literal value true :: more) else none
    | [] => none
  | _ => none

/-- The words and redirections up to the end of a simple command. -/
def readItems : List Token → List Word × List Redirect × List Token
  | .word word :: rest =>
    let (words, redirects, rest) := readItems rest
    (word :: words, redirects, rest)
  | .redirect stream sign :: .word target :: rest =>
    let (words, redirects, rest) := readItems rest
    (words, redirect stream sign target :: redirects, rest)
  | rest => ([], [], rest)

/-- A simple command: the assignments in front, the words and the redirections. -/
def readSimple (tokens : List Token) : Option (Script × List Token) :=
  let (words, redirects, rest) := readItems tokens
  let assignments := (words.map assignment?).takeWhile (·.isSome)
  if words.isEmpty && redirects.isEmpty then none
  else if words.head?.any fun word => (plainWord? (.word word)).any (closers.contains ·) then none
  else some (.simple (assignments.filterMap id) (words.drop assignments.length) redirects, rest)

def readWords : List Token → List Word × List Token
  | .word word :: rest =>
    let (words, rest) := readWords rest
    (word :: words, rest)
  | rest => ([], rest)

/-- The words behind a loop's variable, if it has any, and the rest behind `do`. -/
def readLoopHead (tokens : List Token) : Option (Option (List Word) × List Token) :=
  match skipNewlines tokens with
  | token :: rest =>
    if isKeyword "in" token then do
      let (words, rest) := readWords rest
      let rest ← expect "do" (skipSeparators rest)
      return (some words, rest)
    else do
      let rest ← expect "do" (skipSeparators (token :: rest))
      return (none, rest)
  | [] => none

inductive Goal where
  | list
  | andOr
  | chain (first : Script)
  | pipeline
  | command
  | branch
  deriving Repr

/-- Reads a list of commands, a chain of `&&` and `||` or the rest of one, a pipeline, a command, or
what follows `if`. No token is looked at by more than six goals in turn, so fuel for six times the
number of tokens is enough. -/
def read : Nat → Goal → List Token → Option (Script × List Token)
  | 0, _, _ => none
  | fuel + 1, .list, tokens =>
    let tokens := skipSeparators tokens
    if isClosed tokens then some (.nothing, tokens)
    else do
      let (first, rest) ← read fuel .andOr tokens
      if !isClosed rest && (skipSeparators rest).length = rest.length then none
      else
        let (more, rest) ← read fuel .list rest
        return (.sequence first more, rest)
  | fuel + 1, .andOr, tokens => do
    let (first, rest) ← read fuel .pipeline tokens
    read fuel (.chain first) rest
  | fuel + 1, .chain first, tokens =>
    match tokens with
    | .operator ['&', '&'] :: rest => do
      let (second, rest) ← read fuel .pipeline (skipNewlines rest)
      read fuel (.chain (.andThen first second)) rest
    | .operator ['|', '|'] :: rest => do
      let (second, rest) ← read fuel .pipeline (skipNewlines rest)
      read fuel (.chain (.orElse first second)) rest
    | rest => some (first, rest)
  | fuel + 1, .pipeline, tokens =>
    match tokens with
    | [] => none
    | token :: rest =>
      if isKeyword "!" token then do
        let (body, rest) ← read fuel .pipeline rest
        return (.negation body, rest)
      else do
        let (first, rest) ← read fuel .command tokens
        match rest with
        | .operator ['|'] :: rest =>
          let (second, rest) ← read fuel .pipeline (skipNewlines rest)
          return (.pipe first second, rest)
        | rest => return (first, rest)
  | fuel + 1, .branch, tokens => do
    let (condition, rest) ← read fuel .list tokens
    let rest ← expect "then" rest
    let (yes, rest) ← read fuel .list rest
    match rest with
    | [] => none
    | token :: rest =>
      if isKeyword "fi" token then return (.choice condition yes .nothing, rest)
      else if isKeyword "elif" token then
        let (no, rest) ← read fuel .branch rest
        return (.choice condition yes no, rest)
      else if isKeyword "else" token then
        let (no, rest) ← read fuel .list rest
        let rest ← expect "fi" rest
        return (.choice condition yes no, rest)
      else none
  | fuel + 1, .command, tokens =>
    match tokens with
    | [] => none
    | token :: rest =>
      let compound := if token = .operator ['('] then
          some do
            let (body, rest) ← read fuel .list rest
            match rest with
            | .operator [')'] :: rest => some (Script.subshell body, rest)
            | _ => none
        else if isKeyword "\x7b" token then
          some do
            let (body, rest) ← read fuel .list rest
            let rest ← expect "\x7d" rest
            return (body, rest)
        else if isKeyword "if" token then some (read fuel .branch rest)
        else if isKeyword "while" token || isKeyword "until" token then
          some do
            let (condition, rest) ← read fuel .list rest
            let rest ← expect "do" rest
            let (body, rest) ← read fuel .list rest
            let rest ← expect "done" rest
            return (.loop condition (isKeyword "while" token) body, rest)
        else if isKeyword "for" token then
          some do
            match rest with
            | running :: rest =>
              let name ← plainWord? running
              let (words, rest) ← readLoopHead rest
              let (body, rest) ← read fuel .list rest
              let rest ← expect "done" rest
              return (.each name words body, rest)
            | [] => none
        else none
      match compound with
      | some reading => do
        let (body, rest) ← reading
        let (redirects, rest) := readRedirects rest
        return (if redirects.isEmpty then body else .redirected body redirects, rest)
      | none => readSimple tokens

def ofText? (text : Text) : Option Script := do
  let tokens ← Token.ofText text
  let (script, rest) ← read (6 * tokens.length + 6) .list tokens
  if rest.isEmpty then some script else none

end ChainShell.Machine.Script
