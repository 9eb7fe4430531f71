import Courier.Failure
import Courier.Http.Basic
import Courier.Log.Event

/-! Jobs: what a command does to the outside. A job says things, to the two outputs and to the log,
makes requests whose replies decide how it goes on, and ends with a value or a failure. On a network
a job has an outcome: its result, and the trace of all that it did until then, which survives a
failure.
-/

namespace Courier

/-- What a job says: a text to one of the two outputs, or an event to the log. -/
inductive Note
  | print (text : String)
  | complain (text : String)
  | record (event : Log.Event)
  deriving DecidableEq, Repr

/-- One thing that a job did: a note, or a request with what became of it. -/
inductive Effect
  | note (note : Note)
  | exchange (request : Http.Request) (reply : Http.Reply)
  deriving DecidableEq, Repr

/-- What a job has done, in order. -/
structure Trace where
  effects : List Effect := []
  deriving DecidableEq, Repr

namespace Effect

def exchange? : Effect → Option (Http.Request × Http.Reply)
  | exchange request reply => some (request, reply)
  | note _ => none

def print? : Effect → Option String
  | note (.print text) => some text
  | _ => none

def complain? : Effect → Option String
  | note (.complain text) => some text
  | _ => none

def event? : Effect → Option Log.Event
  | note (.record event) => some event
  | _ => none

end Effect

namespace Trace

/-- The trace with one more effect before all others. -/
def cons (effect : Effect) (trace : Trace) : Trace :=
  ⟨effect :: trace.effects⟩

/-- One trace and then another one. -/
def append (trace later : Trace) : Trace :=
  ⟨trace.effects ++ later.effects⟩

instance : Append Trace := ⟨append⟩

def exchanges (trace : Trace) : List (Http.Request × Http.Reply) :=
  trace.effects.filterMap Effect.exchange?

def requests (trace : Trace) : List Http.Request :=
  trace.exchanges.map (·.1)

/-- The requests that a server received. -/
def received (trace : Trace) : List Http.Request :=
  (trace.exchanges.filter (·.2.isReceived)).map (·.1)

def events (trace : Trace) : List Log.Event :=
  trace.effects.filterMap Effect.event?

def stdout (trace : Trace) : String :=
  String.join (trace.effects.filterMap Effect.print?)

def stderr (trace : Trace) : String :=
  String.join (trace.effects.filterMap Effect.complain?)

end Trace

/-- A job: its result, or something to say before the rest of it, or a request and how it goes on
after each reply. -/
inductive Job (α : Type)
  | finish (result : Except Failure α)
  | say (note : Note) (rest : Job α)
  | ask (request : Http.Request) (next : Http.Reply → Job α)

namespace Job

/-- The job that does nothing and ends with a value. -/
def done (a : α) : Job α := finish (.ok a)

/-- The job that does nothing and fails. -/
def fail (failure : Failure) : Job α := finish (.error failure)

/-- A job and then another one that takes its value; a failure ends both. -/
def andThen : Job α → (α → Job β) → Job β
  | finish (.ok a), later => later a
  | finish (.error failure), _ => fail failure
  | say note rest, later => say note (rest.andThen later)
  | ask request next, later => ask request fun reply => (next reply).andThen later

instance : Monad Job where
  pure := done
  bind := andThen

/-- The job of a value that is there already, or of a failure. -/
def ofExcept (result : Except Failure α) : Job α := finish result

/-- A job whose failure becomes a value. -/
def attempt : Job α → Job (Except Failure α)
  | finish result => done result
  | say note rest => say note rest.attempt
  | ask request next => ask request fun reply => (next reply).attempt

def perform (note : Note) : Job Unit := say note (done ())

def record (event : Log.Event) : Job Unit := perform (.record event)

def print (line : String) : Job Unit := perform (.print (line ++ "\n"))

def complain (line : String) : Job Unit := perform (.complain (line ++ "\n"))

def exchange (request : Http.Request) : Job Http.Reply := ask request done

/-- How a job ends on a network to which requests have been made before, and what it does until
then. -/
def outcome (network : Http.Network) : Job α → List Http.Request → Except Failure α × Trace
  | finish result, _ => (result, {})
  | say note rest, past =>
    let (result, trace) := rest.outcome network past
    (result, trace.cons (.note note))
  | ask request next, past =>
    let reply := network past request
    let (result, trace) := (next reply).outcome network (past ++ [request])
    (result, trace.cons (.exchange request reply))

def run (job : Job α) (network : Http.Network) : Except Failure α × Trace :=
  job.outcome network []

end Job

end Courier
