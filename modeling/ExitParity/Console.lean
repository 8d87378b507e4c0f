import ExitParity.Fault
import ExitParity.Bytes

namespace ExitParity

/-- Where a piece of output went: a tool's two inherited streams, which the
program shares for its own text, or the line of progress symbols. -/
inductive Stream where
  | out
  | err
  | progress
  deriving DecidableEq

/-- Everything that was printed so far in order of time, but for the progress
symbols. -/
structure Console where
  pieces : List (Stream × Bytes)

namespace Console

def empty : Console := ⟨[]⟩

def print (console : Console) (stream : Stream) (bytes : Bytes) : Console :=
  { console with pieces := console.pieces ++ [(stream, bytes)] }

end Console

/-- A progress write or flush, by its number among those of its kind. -/
inductive SinkCall where
  | write (index : Nat)
  | flush (index : Nat)
  deriving DecidableEq

def SinkCall.isWrite : SinkCall → Bool
  | .write _ => true
  | .flush _ => false

/-- A progress write or flush that failed. -/
abbrev SinkError := SinkCall

def SinkError.message : SinkError → String
  | .write index => s!"write {index} failed"
  | .flush index => s!"flush {index} failed"

/-- Which progress writes and flushes fail, counted from zero. -/
structure SinkFaults where
  write : Nat → Bool
  flush : Nat → Bool

namespace SinkFaults

def never : SinkFaults := ⟨fun _ => false, fun _ => false⟩

def strikes (faults : SinkFaults) : SinkCall → Bool
  | .write index => faults.write index
  | .flush index => faults.flush index

end SinkFaults

/-- Where the progress symbols go. Every write and flush that was issued is
known in order, and every text written with how many pieces were printed
elsewhere before it. -/
structure Sink where
  written : List (Nat × Bytes)
  issued : List SinkCall
  faults : SinkFaults

namespace Sink

def fresh (faults : SinkFaults) : Sink := ⟨[], [], faults⟩

/-- Issue a write or a flush. -/
def issue (sink : Sink) (call : SinkCall) : Except SinkError Unit × Sink :=
  (if sink.faults.strikes call then .error call else .ok (), { sink with issued := sink.issued ++ [call] })

/-- Write a text behind so many pieces printed elsewhere. A write that fails
leaves no text. -/
def write (sink : Sink) (printed : Nat) (bytes : Bytes) : Except SinkError Unit × Sink :=
  match sink.issue (.write (sink.issued.countP SinkCall.isWrite)) with
  | (.error error, sink) => (.error error, sink)
  | (.ok (), sink) => (.ok (), { sink with written := sink.written ++ [(printed, bytes)] })

def flush (sink : Sink) : Except SinkError Unit × Sink :=
  sink.issue (.flush (sink.issued.countP fun call => !call.isWrite))

/-- The progress text. -/
def text (sink : Sink) : Bytes := sink.written.flatMap (·.2)

/-- The pieces printed elsewhere with the progress text where it was written. -/
def among (sink : Sink) (pieces : List (Stream × Bytes)) : List (Stream × Bytes) :=
  let behind (printed : Nat) : List (Stream × Bytes) :=
    (sink.written.filter (·.1 == printed)).map fun (_, bytes) => (.progress, bytes)
  (pieces.zipIdx.flatMap fun (piece, printed) => behind printed ++ [piece]) ++ behind pieces.length

end Sink
end ExitParity
