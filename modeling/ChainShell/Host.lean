import ChainShell.Error

namespace ChainShell

/-- A child process that is asked for: what to run, in which directory, with which bytes on its
standard input, and for how many seconds at most. -/
structure Request where
  command : Command
  directory : Text
  input : Option Bytes
  limit : Option Binary64
  deriving DecidableEq, Repr

/-- What became of a child: it ended with all its output and a status, it was not started, it
outlived its limit, or its streams failed; what it had written by then is not all of its output.
Ended by a signal, its status is negative. -/
inductive Completion where
  | finished (output : Bytes) (status : Int)
  | notStarted (cause : SpawnCause)
  | timedOut (written : Bytes) (limit : Binary64)
  | broken (written : Bytes) (cause : Text)
  deriving DecidableEq, Repr

/-- The system that a session runs on, as far as it matters: the files of each of its worlds, and what a
child does in it. What is said about sessions is said for any such system. -/
structure Host (World : Type) where
  files : World → FileTree
  run : World → Request → World × Completion

end ChainShell
