import Courier.Disk.Basic

/-! Open files. A handle that appends writes at the end of its file; any other writes where it
stands, over what is there, and what lies between the end and its place becomes zeros.
-/

namespace Courier.Disk

/-- An open file. -/
structure Handle where
  place : Place
  append : Bool
  position : Nat
  deriving DecidableEq, Repr

/-- Opens a file to write to it, making it if it is missing. It is emptied first unless octets are
to be appended. -/
def openFile (disk : Disk) (path : String) (append : Bool) : Except Fault (Handle × Disk) := do
  let place ← disk.target path
  let wantsDirectory := (names path).2
  match disk.find? place with
  | some .directory => .error .isDirectory
  | none =>
    if wantsDirectory then .error .isDirectory
    else return (⟨place, append, 0⟩, disk.put place (.file []))
  | some (.file content) =>
    if wantsDirectory then .error .notDirectory
    else return (⟨place, append, 0⟩, disk.put place (.file (if append then content else [])))
  | some .sink => return (⟨place, append, 0⟩, disk)
  | some .full => return (⟨place, append, 0⟩, disk)

/-- The content of a file after octets have been written at a position. -/
def overwrite (content : List UInt8) (position : Nat) (data : List UInt8) : List UInt8 :=
  content.take position ++ List.replicate (position - content.length) 0 ++ data
    ++ content.drop (position + data.length)

/-- Writes octets through a handle: the number that the file takes. -/
def writeThrough (disk : Disk) (handle : Handle) (data : List UInt8)
    : Except Fault Nat × Disk × Handle :=
  match disk.find? handle.place with
  | some (.file content) =>
    let position := if handle.append then content.length else handle.position
    let disk := disk.put handle.place (.file (overwrite content position data))
    (.ok data.length, disk, { handle with position := position + data.length })
  | some .full => if data.isEmpty then (.ok 0, disk, handle) else (.error .noSpace, disk, handle)
  | _ => (.ok data.length, disk, handle)

end Courier.Disk
