import Courier.Log.LogFile

/-! Writers and guards under numbers. Guards of one writer share its buffer; a guard that is dropped
flushes it, and the file is let go of when its writer and all its guards are gone.
-/

namespace Courier.Log

/-- A bench: the disk, the files that are open under keys, and which of them the writers and guards
use. -/
structure Bench where
  disk : Disk
  files : List (Nat × Writer OpenFile) := []
  writers : List (Nat × Nat) := []
  guards : List (Nat × Nat) := []
  nextKey : Nat := 0

namespace Bench

/-- What a step asks for. -/
inductive Step
  | openFile (writer : Nat) (path : String) (append : Bool)
  | guard (writer guard : Nat)
  | write (guard : Nat) (octets : List UInt8)
  | flush (guard : Nat)
  | drop (guard : Nat)
  | close (writer : Nat)
  | fallback (writer : Nat)
  | read

/-- What a step answers. -/
inductive Reply
  | done
  | taken (count : Nat)
  | existed (value : Bool)
  | fallen (value : Option Bool)
  | noWriter
  | noGuard
  | failed (message : String)
  | unopened (fault : Fault)

def find? (number : Nat) (entries : List (Nat × α)) : Option α :=
  (entries.find? (·.1 == number)).map (·.2)

/-- The entries without a number. -/
def remove (number : Nat) (entries : List (Nat × α)) : List (Nat × α) :=
  entries.filter (·.1 != number)

/-- The file under a key, on the disk as it is now. -/
def file? (bench : Bench) (key : Nat) : Option (Writer OpenFile) :=
  (find? key bench.files).map fun writer =>
    { writer with file := { writer.file with disk := bench.disk } }

/-- The bench after a file has changed. -/
def store (bench : Bench) (key : Nat) (writer : Writer OpenFile) : Bench :=
  { bench with disk := writer.file.disk, files := (key, writer) :: remove key bench.files }

/-- Flushes the file under a key, whatever comes of it. -/
def release (bench : Bench) (key : Nat) : Bench :=
  match bench.file? key with
  | some writer => bench.store key (writer.release OpenFile.device)
  | none => bench

/-- Whether a writer or a guard uses a key. -/
def isUsed (bench : Bench) (key : Nat) : Bool :=
  bench.writers.any (·.2 == key) || bench.guards.any (·.2 == key)

/-- Lets go of the file under a key when nothing uses it any more. -/
def closeUnused (bench : Bench) (key : Nat) : Bench :=
  if bench.isUsed key then bench
  else
    let bench := bench.release key
    { bench with files := remove key bench.files }

def removeWriter (bench : Bench) (number : Nat) : Bench :=
  match find? number bench.writers with
  | none => bench
  | some key => { bench with writers := remove number bench.writers }.closeUnused key

/-- Takes a guard away, flushing its file. -/
def removeGuard (bench : Bench) (number : Nat) : Bench :=
  match find? number bench.guards with
  | none => bench
  | some key => ({ bench with guards := remove number bench.guards }.release key).closeUnused key

/-- One step: the answer, what the error output got, and the bench. -/
def step (bench : Bench) : Step → Reply × List UInt8 × Bench
  | .openFile number path append =>
    match openLog bench.disk path append with
    | .error fault => (.unopened fault, [], bench)
    | .ok writer =>
      let key := bench.nextKey
      let bench := { bench with nextKey := key + 1 }.store key writer
      let bench := { bench with writers := bench.writers ++ [(number, key)] }
      let older := bench.writers.filter fun (n, k) => n == number && k != key
      let bench :=
        { bench with writers := bench.writers.filter fun (n, k) => n != number || k == key }
      (.done, [], older.foldl (fun bench (_, k) => bench.closeUnused k) bench)
  | .guard number guard =>
    match find? number bench.writers with
    | none => (.noWriter, [], bench)
    | some key =>
      let older := find? guard bench.guards
      let bench := { bench with guards := (guard, key) :: remove guard bench.guards }
      match older with
      | none => (.done, [], bench)
      | some old => (.done, [], (bench.release old).closeUnused old)
  | .write guard octets =>
    match find? guard bench.guards with
    | none => (.noGuard, [], bench)
    | some key =>
      match bench.file? key with
      | none => (.noGuard, [], bench)
      | some writer =>
        let outcome := writer.write OpenFile.device octets
        let bench := bench.store key outcome.writer
        match outcome.result with
        | .ok n => (.taken n, outcome.stderr, bench)
        | .error fault => (.failed fault, outcome.stderr, bench)
  | .flush guard =>
    match find? guard bench.guards with
    | none => (.noGuard, [], bench)
    | some key =>
      match bench.file? key with
      | none => (.noGuard, [], bench)
      | some writer =>
        let outcome := writer.flush OpenFile.device
        let bench := bench.store key outcome.writer
        match outcome.result with
        | .ok () => (.done, outcome.stderr, bench)
        | .error fault => (.failed fault, outcome.stderr, bench)
  | .drop guard => (.existed (find? guard bench.guards).isSome, [], bench.removeGuard guard)
  | .close number => (.existed (find? number bench.writers).isSome, [], bench.removeWriter number)
  | .fallback number =>
    let state := (find? number bench.writers).bind fun key => find? key bench.files
    (.fallen (state.map (·.hasFallenBack)), [], bench)
  | .read => (.done, [], bench)

end Bench

end Courier.Log
