import ChainShell.LineReader
import ChainShell.Session

namespace ChainShell.Loop

/-- How a loop ends: by `exit`, by a read that failed, or by a fault. -/
inductive Ending where
  | exited (code : Int)
  | unread (failure : ReadFailure)
  | crashed (fault : Fault)
  deriving DecidableEq, Repr

/-- What is left after a loop, the source included, with the trace of what happened. -/
structure Outcome (World Source : Type) where
  session : Session
  world : World
  source : Source
  trace : List Event
  ending : Ending

variable {World Source : Type}

/-- Puts what happened before in front of an outcome. -/
def Outcome.after (events : List Event) (outcome : Outcome World Source) : Outcome World Source :=
  { outcome with trace := events ++ outcome.trace }

/-- Runs lines from a source until something ends the loop. Lines that are no chains, and lines that a
pipe gave up, are discarded and the loop goes on. -/
def run (host : Host World) (reader : LineReader Source) (session : Session) (world : World)
    (source : Source) : Outcome World Source :=
  match _answer : reader.read source with
  | (.error failure, rest) => ⟨session, world, rest, reader.prompting, .unread failure⟩
  | (.ok line, rest) =>
    match Chain.parse line with
    | .error e =>
      (run host reader session world rest).after (reader.prompting ++ [.discarded line (.parse e)])
    | .ok chain =>
      let done := session.run host world chain
      let events := reader.prompting ++ done.trace
      match done.ending with
      | .completed => (run host reader done.session done.world rest).after events
      | .aborted e =>
        (run host reader done.session done.world rest).after (events ++ [.discarded line (.exec e)])
      | .terminated code =>
        ⟨done.session, done.world, rest, events ++ [.ended code], .exited code⟩
      | .crashed fault => ⟨done.session, done.world, rest, events, .crashed fault⟩
termination_by reader.remaining source
decreasing_by all_goals exact reader.remaining_lt source _ _ _answer

end ChainShell.Loop
