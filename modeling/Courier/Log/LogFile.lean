import Courier.Disk.Handle
import Courier.Log.Event
import Courier.Log.Writer

/-! Log files on a disk. The directory of a file is made when it is missing, and the tree of the
disk goes along with the file from write to write.
-/

namespace Courier.Log

/-- A file that is open on a disk. -/
structure OpenFile where
  disk : Disk
  handle : Disk.Handle
  deriving Repr

def OpenFile.device : Device OpenFile where
  accept file octets :=
    let (taken, disk, handle) := file.disk.writeThrough file.handle octets
    (taken.mapError Disk.Fault.message, ⟨disk, handle⟩)

def openLog (disk : Disk) (path : String) (append : Bool) : Except Fault (Writer OpenFile) := do
  let parent := (Disk.parent? path).getD ""
  let disk ← (disk.makeDirectories parent).mapError fun fault =>
    .createDirectory parent fault.message
  let (handle, disk) ← (disk.openFile path append).mapError fun fault =>
    .openFile path fault.message
  return { file := ⟨disk, handle⟩ }

/-- Where a log stands: its set-up, the disk, and the writer of its file. -/
structure Journal where
  setup : Setup
  disk : Disk
  writer : Option (Writer OpenFile)

namespace Journal

def start (setup : Setup) (disk : Disk) : Except Fault Journal :=
  match setup.file with
  | none => .ok ⟨setup, disk, none⟩
  | some target => do
    let writer ← openLog disk target.path target.append
    return ⟨setup, writer.file.disk, some writer⟩

/-- Writes an event to the file: what the error output got of it, and the journal. -/
def toFile (journal : Journal) (stamp : String) (event : Event) : String × Journal :=
  match journal.setup.file, journal.writer with
  | some target, some writer =>
    let (stderr, writer) :=
      { writer with file := { writer.file with disk := journal.disk } }.event OpenFile.device
        (event.line stamp target.format).toUTF8.toList
    (Text.Utf8.read stderr, { journal with disk := writer.file.disk, writer := some writer })
  | _, _ => ("", journal)

def toConsole (journal : Journal) (stamp : String) (event : Event) : String :=
  match journal.setup.console with
  | none => ""
  | some _ => event.line stamp .full

/-- Writes an event to the outputs, the file first, when its level is recorded. -/
def write (journal : Journal) (stamp : String) (event : Event) : String × Journal :=
  if journal.setup.records event.level then
    let (stderr, journal) := journal.toFile stamp event
    (stderr ++ journal.toConsole stamp event, journal)
  else ("", journal)

def writeAll (journal : Journal) (stamp : String) : List Event → String × Journal
  | [] => ("", journal)
  | event :: events =>
    let (stderr, journal) := journal.write stamp event
    let (rest, journal) := journal.writeAll stamp events
    (stderr ++ rest, journal)

end Journal

end Courier.Log
