import Courier.Log.Setup

/-! The buffered writer of a log file. Octets are kept in a buffer until it is full or flushed; what
the buffer cannot hold goes straight to the file. After the first write that fails, the writer
leaves the file and writes to the error output for the rest of its life.
-/

namespace Courier.Log

/-- What a file does with octets: it takes a number of them, or fails with the system's wording. -/
structure Device (δ : Type) where
  accept : δ → List UInt8 → Except String Nat × δ

/-- A writer on a file. -/
structure Writer (δ : Type) where
  file : δ
  buffer : List UInt8 := []
  hasFallenBack : Bool := false
  deriving Repr

/-- What an operation leaves: its result, what it wrote to the error output, and the writer. -/
structure Outcome (δ α : Type) where
  result : Except String α
  stderr : List UInt8
  writer : Writer δ
  deriving Repr

namespace Writer

/-- The octets that a buffer holds. -/
def capacity : Nat := 8192

/-- The wording of a file that takes nothing. -/
def tookNothing : String := "failed to write the buffered data"

/-- Gives the buffer to the file until it is empty or the file fails. What the file did not take
stays in the buffer. -/
def flushBuffer (device : Device δ) (writer : Writer δ) : Except String Unit × Writer δ :=
  go writer.buffer writer.file
where
  /-- Gives octets to the file. -/
  go (octets : List UInt8) (file : δ) : Except String Unit × Writer δ :=
    match octets with
    | [] => (.ok (), { writer with file, buffer := [] })
    | octet :: rest =>
      match device.accept file (octet :: rest) with
      | (.error fault, file) => (.error fault, { writer with file, buffer := octet :: rest })
      | (.ok 0, file) => (.error tookNothing, { writer with file, buffer := octet :: rest })
      | (.ok (n + 1), file) => go (rest.drop n) file
  termination_by octets.length
  decreasing_by
    simp only [List.length_drop, List.length_cons]
    omega

/-- Puts octets into the buffer or gives them to the file: the number that is taken. -/
def put (device : Device δ) (writer : Writer δ) (octets : List UInt8)
    : Except String Nat × Writer δ :=
  let spare := capacity - writer.buffer.length
  if octets.length < spare then
    (.ok octets.length, { writer with buffer := writer.buffer ++ octets })
  else
    let (flushed, writer) :=
      if spare < octets.length then writer.flushBuffer device else (.ok (), writer)
    match flushed with
    | .error fault => (.error fault, writer)
    | .ok () =>
      if capacity ≤ octets.length then
        let (taken, file) := device.accept writer.file octets
        (taken, { writer with file })
      else (.ok octets.length, { writer with buffer := writer.buffer ++ octets })

/-- The line that tells of the first failure. -/
def fallbackLine (fault : String) : String :=
  "[Logger] File write failed, falling back to stderr: " ++ fault ++ "\n"

/-- Writes octets: to the error output after a failure, and else to the file. The failure itself is
told on the error output, and the octets follow it there. -/
def write (device : Device δ) (writer : Writer δ) (octets : List UInt8) : Outcome δ Nat :=
  if writer.hasFallenBack then ⟨.ok octets.length, octets, writer⟩
  else
    match writer.put device octets with
    | (.ok n, writer) => ⟨.ok n, [], writer⟩
    | (.error fault, writer) =>
      ⟨.ok octets.length, (fallbackLine fault).toUTF8.toList ++ octets,
        { writer with hasFallenBack := true }⟩

/-- Empties the buffer into the file; after a failure there is nothing to do. -/
def flush (device : Device δ) (writer : Writer δ) : Outcome δ Unit :=
  if writer.hasFallenBack then ⟨.ok (), [], writer⟩
  else
    let (result, writer) := writer.flushBuffer device
    ⟨result, [], writer⟩

/-- Lets go of a writer: the buffer is given to the file, whatever comes of it. -/
def release (device : Device δ) (writer : Writer δ) : Writer δ :=
  (writer.flushBuffer device).2

/-- Writes octets until all are taken; `fuel` bounds the writes. A file that takes nothing ends
them. -/
def writeAllWithin (device : Device δ) : Nat → Writer δ → List UInt8 → Outcome δ Unit
  | 0, writer, _ => ⟨.ok (), [], writer⟩
  | fuel + 1, writer, octets =>
    if octets.isEmpty then ⟨.ok (), [], writer⟩
    else
      let outcome := writer.write device octets
      match outcome.result with
      | .error fault => ⟨.error fault, outcome.stderr, outcome.writer⟩
      | .ok 0 => ⟨.error "failed to write whole buffer", outcome.stderr, outcome.writer⟩
      | .ok n =>
        let rest := writeAllWithin device fuel outcome.writer (octets.drop n)
        { rest with stderr := outcome.stderr ++ rest.stderr }

/-- Writes one event's octets and lets go of them: what the error output got, and the writer. -/
def event (device : Device δ) (writer : Writer δ) (octets : List UInt8) : List UInt8 × Writer δ :=
  let outcome := writeAllWithin device (octets.length + 1) writer octets
  (outcome.stderr, outcome.writer.release device)

end Writer

end Courier.Log
