import ChainShell.Event

namespace ChainShell

/-- What a completion gives: the output, whatever the status, or an error. What a child has written
that did not come to its end is dropped. -/
def Completion.result (name : Text) : Completion → Except Failure Bytes
  | .finished output _ => .ok output
  | .notStarted cause => .error (.error (.spawn name cause))
  | .timedOut _ limit => .error (.error (.timedOut name limit))
  | .broken _ cause => .error (.error (.stream name cause))

/-- A status other than zero is noted. -/
def Completion.note (command : Command) : Completion → List Event
  | .finished _ status => if status = 0 then [] else [.exited command status]
  | _ => []

namespace Host

variable {World : Type}

/-- Starts a child whose limit cannot be waited for. This is found out only when the child is
running: it then gets no input, and nobody takes its output. -/
def executeUnwaited (host : Host World) (world : World) (request : Request) (limit : Binary64) :
    World × List Event × Except Failure Bytes :=
  match host.run world { request with input := none } with
  | (world, .notStarted cause) =>
    (world, [.called request], .error (.error (.spawn request.command.name cause)))
  | (world, _) => (world, [.called request], .error (.fault (.limitTooLong limit)))

/-- Runs a child to its end and gives its output. -/
def execute (host : Host World) (world : World) (request : Request) :
    World × List Event × Except Failure Bytes :=
  match request.limit.filter Binary64.exceedsWait with
  | some limit => host.executeUnwaited world request limit
  | none =>
    let (world, completion) := host.run world request
    (world, .called request :: completion.note request.command,
      completion.result request.command.name)

end Host

end ChainShell
