import ChainShell.Text.Basic

namespace ChainShell.Machine

/-- A part of a word. What is quoted is neither split nor dropped when it is empty. -/
inductive Fragment where
  | literal (text : Text) (quoted : Bool)
  | parameter (name : Text) (quoted : Bool)
  | parameterOr (name : Text) (evenIfEmpty : Bool) (alternative : Text) (quoted : Bool)
  | parameterLength (name : Text)
  | output (source : Text) (quoted : Bool)
  | arithmetic (source : Text)
  deriving DecidableEq, Repr

abbrev Word := List Fragment

/-- Where a command reads and writes instead. -/
inductive Redirect where
  | read (stream : Nat) (target : Word)
  | write (stream : Nat) (append : Bool) (target : Word)
  | copy (stream : Nat) (target : Word)
  deriving DecidableEq, Repr

def Redirect.target : Redirect → Word
  | .read _ target => target
  | .write _ _ target => target
  | .copy _ target => target

inductive Script where
  | nothing
  | simple (assignments : List (Text × Word)) (words : List Word) (redirects : List Redirect)
  | sequence (first second : Script)
  | andThen (first second : Script)
  | orElse (first second : Script)
  | negation (body : Script)
  | pipe (first second : Script)
  | choice (condition yes no : Script)
  | loop (condition : Script) (goal : Bool) (body : Script)
  | each (name : Text) (words : Option (List Word)) (body : Script)
  | subshell (body : Script)
  | redirected (body : Script) (redirects : List Redirect)
  deriving Repr

end ChainShell.Machine
