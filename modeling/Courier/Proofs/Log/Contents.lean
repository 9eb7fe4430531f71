import Courier.Proofs.Disk.Targets
import Courier.Proofs.Log.Accounting

/-! What stands in a log file. While guards take turns, the file holds what it held before and then
the octets that it took; once every write has been flushed, these are all octets that were written,
in the order of the writes.
-/

namespace Courier.Log

-----------------------------------------------------------------------------------------
-- Files on a disk
-----------------------------------------------------------------------------------------

/-- A device that writes to the disk, perhaps only the first of the octets that it is given. -/
def Device.WritesSome (device : Device OpenFile) : Prop :=
  ∀ file octet rest, ∃ n ≤ rest.length,
    device.accept file (octet :: rest)
    = OpenFile.device.accept file ((octet :: rest).take (n + 1))

theorem OpenFile.device_writesSome : OpenFile.device.WritesSome := by
  intro file octet rest
  refine ⟨rest.length, Nat.le_refl _, ?_⟩
  rw [← List.length_cons, List.take_length]

/-- A file that stands at the end of a path and holds what it held at first, and then all that it
took. A handle that does not append stands at its end. -/
structure OpenFile.Holds (path : String) (place : Disk.Place) (held : List UInt8)
    (file : Recorded OpenFile) : Prop where
  undirected : (Disk.names path).2 = false
  reaches : file.file.disk.target path = .ok place
  located : file.file.handle.place = place
  stands : file.file.disk.find? place = some (.file (held ++ file.accepted))
  atEnd : file.file.handle.append = false
    → file.file.handle.position = (held ++ file.accepted).length

section Holds

variable {path : String} {place : Disk.Place} {held : List UInt8} {device : Device OpenFile}

/-- What is written to a file that stands at the end of a path follows what it holds. -/
theorem OpenFile.Holds.write {file : Recorded OpenFile} (holds : Holds path place held file)
    (data : List UInt8)
    : ∃ after,
        OpenFile.device.accept file.file data = (.ok data.length, after)
        ∧ Holds path place held
            { file with file := after, accepted := file.accepted ++ data } := by
  obtain ⟨undirected, reaches, rfl, stands, atEnd⟩ := holds
  have free : file.file.disk.find? file.file.handle.place ≠ some .directory := by
    rw [stands]
    exact nofun
  let content := held ++ file.accepted
  let disk := file.file.disk.put file.file.handle.place (.file (content ++ data))
  let handle := { file.file.handle with position := content.length + data.length }
  have written := Disk.writeThrough_atEnd stands atEnd data
  refine ⟨⟨disk, handle⟩, ?_, undirected, ?_, rfl, ?_, fun _ => ?_⟩
  · simp only [OpenFile.device, written]
    rfl
  · exact Disk.target_put undirected reaches free _
  · rw [← List.append_assoc]
    exact Disk.find?_put_self ..
  · rw [← List.append_assoc, List.length_append]

/-- A device that writes to the disk takes something of whatever it is given, and the file still
holds what it held and all that it took. -/
theorem Device.WritesSome.takesSomeOf (writes : device.WritesSome)
    : device.recorded.TakesSomeOf (OpenFile.Holds path place held) := by
  intro file octet rest holds
  obtain ⟨n, short, accepts⟩ := writes file.file octet rest
  obtain ⟨after, written, holds⟩ := holds.write ((octet :: rest).take (n + 1))
  have counted : ((octet :: rest).take (n + 1)).length = n + 1 := by
    rw [List.length_take, List.length_cons]
    omega
  rw [counted] at written
  refine ⟨n, _, ?_, holds⟩
  simp only [Device.recorded, accepts, written]

end Holds

section Opened

variable {disk : Disk} {path : String} {append : Bool} {writer : Writer OpenFile}

/-- A log that is opened holds what its file held, or nothing, when it is not to be appended to; and
its file held what could be read. -/
theorem openLog_holds (opened : openLog disk path append = .ok writer)
    (ordinary : disk.IsOrdinary writer.file.handle.place)
    : OpenFile.Holds path writer.file.handle.place
        (if append then disk.contentAt writer.file.handle.place else [])
        { file := writer.file }
      ∧ ∀ octets,
          disk.read path = .ok octets → disk.contentAt writer.file.handle.place = octets := by
  obtain ⟨made, above, rest⟩ := bind_eq_ok_iff.mp opened
  obtain ⟨⟨handle, after⟩, file, ends⟩ := bind_eq_ok_iff.mp rest
  cases ends
  have grows := Disk.grows_of_makeDirectories (mapError_eq_ok_iff.mp above)
  obtain ⟨undirected, reaches, free, appends, start, rfl⟩ :=
    Disk.openFile_spec (mapError_eq_ok_iff.mp file) (grows.isOrdinary ordinary)
  refine ⟨⟨undirected, Disk.target_put undirected reaches free _, rfl, ?_, fun truncates => ?_⟩,
    fun octets => Disk.contentAt_of_read undirected grows reaches ordinary⟩
  · rw [List.append_nil, ← grows.contentAt]
    exact Disk.find?_put_self ..
  · have emptied : append = false := appends.symm.trans truncates
    rw [start, emptied]
    rfl

end Opened

namespace Run

variable {δ : Type} {device : Device δ}

-----------------------------------------------------------------------------------------
-- Writes that have not been flushed
-----------------------------------------------------------------------------------------

/-- The guards with writes that they have not flushed, after one more turn. -/
def waitingAfter (run : Run δ) (waiting : List Nat) (turn : Turn) : List Nat :=
  if turn.guard ∈ run.dropped then waiting
  else
    match turn.act with
    | .hand _ => waiting
    | .write => if run.owed turn.guard = [] then waiting else turn.guard :: waiting
    | .flush => waiting.filter (· ≠ turn.guard)
    | .drop =>
      if run.owed turn.guard = [] then waiting.filter (· ≠ turn.guard) else waiting

/-- The guards with writes that they have not flushed, after turns. -/
def unflushed (device : Device δ) (run : Run δ) (waiting : List Nat) : List Turn → List Nat
  | [] => waiting
  | turn :: later => unflushed device (run.step device turn) (run.waitingAfter waiting turn) later

variable {fine : Recorded δ → Prop} {run : Run δ} {waiting : List Nat}

/-- The buffer is empty when no guard has writes to flush: a write leaves its guard waiting, and the
flush or the drop of any guard empties the buffer. -/
theorem buffer_step (takes : device.recorded.TakesSomeOf fine) (healthy : run.Healthy fine)
    (empty : waiting = [] → run.writer.buffer = []) (turn : Turn)
    : run.waitingAfter waiting turn = [] → (run.step device turn).writer.buffer = [] := by
  have flushed := (healthy.flushed takes).1
  obtain ⟨guard, act⟩ := turn
  rw [waitingAfter, step]
  split
  · exact empty
  · cases act with
    | hand octets => exact empty
    | write =>
        dsimp only
        split
        · exact empty
        · exact fun none => absurd none (List.cons_ne_nil _ _)
    | flush =>
        intro _
        simp only [Writer.flush, healthy.unfallen, Bool.false_eq_true, if_false]
        exact flushed
    | drop =>
        dsimp only
        split
        · exact fun _ => flushed
        · exact empty

/-- The same over many turns, by induction on them. -/
theorem buffer_turns (takes : device.recorded.TakesSomeOf fine) (healthy : run.Healthy fine)
    (empty : waiting = [] → run.writer.buffer = []) (turns : List Turn)
    : unflushed device run waiting turns = [] → (run.turns device turns).writer.buffer = [] := by
  induction turns generalizing run waiting with
  | nil => exact empty
  | cons turn later ih =>
      have next := (step_moves device run turn).healthy takes healthy
      rw [turns_cons]
      exact ih next (buffer_step takes healthy empty turn)

/-- In a healthy run all that was written went towards the file. -/
theorem Balanced.octetsTo_file (balanced : run.Balanced) (healthy : run.Healthy fine)
    : run.ledger.map (·.octet) = run.writer.sent ∧ run.stderr = [] := by
  rcases balanced.stderr with ⟨-, silent, none⟩ | ⟨fallen, -⟩
  · refine ⟨?_, silent⟩
    have all : ∀ entry ∈ run.ledger, decide (entry.fate = .file) = true := by
      intro entry among
      have kept := healthy.kept entry among
      rw [octetsTo, List.map_eq_nil_iff, List.filter_eq_nil_iff] at none
      have undiverted := none entry among
      cases fate : entry.fate with
      | file => rfl
      | stderr => simp [fate] at undiverted
      | nowhere => exact absurd fate kept
    rw [← balanced.file, octetsTo, List.filter_eq_self.mpr all]
  · exact absurd (healthy.unfallen.symm.trans fallen) Bool.false_ne_true

-----------------------------------------------------------------------------------------
-- Whole runs
-----------------------------------------------------------------------------------------

/-- Guards of a log on a file that never fails write nothing to the error output, and what each was
handed is written or still to be written. When no guard has writes to flush, what is read from the
file is what it held, unless it was emptied, and then all that was written, in order. -/
theorem turns_filed {device : Device OpenFile} (writes : device.WritesSome) {disk : Disk}
    {path : String} {append : Bool} {writer : Writer OpenFile}
    (opened : openLog disk path append = .ok writer)
    (ordinary : disk.IsOrdinary writer.file.handle.place) (turns : List Turn)
    : let run := (start writer.file).turns device turns
      let held := disk.contentAt writer.file.handle.place
      (∀ octets, disk.read path = .ok octets → held = octets)
      ∧ run.writer.hasFallenBack = false
      ∧ run.stderr = []
      ∧ (∀ guard, run.given guard = run.octetsOf guard ++ run.owed guard)
      ∧ (unflushed device (start writer.file) [] turns = []
        → run.writer.file.file.disk.read path
          = .ok ((if append then held else []) ++ run.ledger.map (·.octet))) := by
  intro run held
  obtain ⟨holds, read⟩ := openLog_holds opened ordinary
  have takes : device.recorded.TakesSomeOf
      (OpenFile.Holds path writer.file.handle.place (if append then held else [])) :=
    writes.takesSomeOf
  obtain ⟨-, healthy⟩ := turns_healthy takes writer.file holds turns
  have balanced := turns_balanced device (start_balanced writer.file) turns
  obtain ⟨all, silent⟩ := balanced.octetsTo_file healthy
  refine ⟨read, healthy.unfallen, silent, balanced.given, fun flushed => ?_⟩
  have fresh : (start writer.file).Healthy _ := ⟨rfl, nofun, holds⟩
  have empty := buffer_turns takes fresh (fun _ => rfl) turns flushed
  have accepted : run.ledger.map (·.octet) = run.writer.file.accepted := by
    rw [all, Writer.sent, empty, List.append_nil]
  rw [accepted]
  exact Disk.read_of_target healthy.fine.undirected healthy.fine.reaches healthy.fine.stands

/-- A device that takes three octets at a time. -/
def sparing : Device OpenFile where
  accept file octets := OpenFile.device.accept file (octets.take 3)

theorem sparing_writesSome : sparing.WritesSome := by
  intro file octet rest
  refine ⟨min 2 rest.length, Nat.min_le_right .., ?_⟩
  simp only [sparing]
  congr 1
  rcases rest with _ | ⟨second, _ | ⟨third, rest⟩⟩ <;> simp

/-- Two guards take turns on a log whose file takes three octets at a time. -/
theorem turns_filed_sparing
    : let disk := Disk.start.put ["work", "run.log"] (.file "old\n".toUTF8.toList)
      let turns : List Turn :=
        [⟨0, .hand "first\n".toUTF8.toList⟩, ⟨1, .hand "second\n".toUTF8.toList⟩, ⟨1, .write⟩,
          ⟨0, .write⟩, ⟨1, .drop⟩, ⟨0, .hand "third\n".toUTF8.toList⟩, ⟨0, .write⟩, ⟨0, .flush⟩]
      ∃ writer, openLog disk "run.log" true = .ok writer
        ∧ disk.IsOrdinary writer.file.handle.place
        ∧ unflushed sparing (start writer.file) [] turns = []
        ∧ ((start writer.file).turns sparing turns).writer.file.file.disk.read "run.log"
          = .ok "old\nsecond\nfirst\nthird\n".toUTF8.toList := by
  intro disk turns
  let writer : Writer OpenFile := ⟨⟨disk, ⟨["work", "run.log"], true, 0⟩⟩, [], false⟩
  have opened : openLog disk "run.log" true = .ok writer := by rfl
  have ordinary : disk.IsOrdinary writer.file.handle.place := by
    constructor <;> decide +kernel
  have flushed : unflushed sparing (start writer.file) [] turns = [] := by decide +kernel
  have filed := (turns_filed sparing_writesSome opened ordinary turns).2.2.2.2 flushed
  refine ⟨writer, opened, ordinary, flushed, filed.trans ?_⟩
  decide +kernel

end Run

end Courier.Log
