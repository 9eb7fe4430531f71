import Courier.Log.LogFile
import Courier.Proofs.Log.Recording
import Mathlib.Data.List.Induction
import Mathlib.Logic.Function.Basic

/-! Every octet of a log accounted for. Guards of one writer take turns, each writing the events
that it is handed; what a writer does with one event is the turns of a guard of its own. A ledger
tells of every octet whether it went towards the file, to the error output or nowhere; from it one
reads when an event is lost although its guard has been let go of.
-/

namespace Courier.Log

variable {δ : Type} {device : Device δ}

-----------------------------------------------------------------------------------------
-- Runs of guards
-----------------------------------------------------------------------------------------

/-- Where an octet went: towards the file, to the error output, or nowhere. -/
inductive Fate
  | file
  | stderr
  | nowhere
  deriving DecidableEq, Repr

/-- An octet that a guard got rid of. -/
structure Entry where
  guard : Nat
  octet : UInt8
  fate : Fate
  deriving DecidableEq, Repr

/-- What a guard does in its turn: it is handed octets of an event, makes one write of what it still
owes, flushes, or is dropped. -/
inductive Act
  | hand (octets : List UInt8)
  | write
  | flush
  | drop
  deriving DecidableEq, Repr

structure Turn where
  guard : Nat
  act : Act
  deriving DecidableEq, Repr

/-- A writer and its guards: what the error output got, the ledger, what each guard was handed and
what it still owes, and the guards that have been dropped. -/
structure Run (δ : Type) where
  writer : Writer (Recorded δ)
  stderr : List UInt8 := []
  ledger : List Entry := []
  given : Nat → List UInt8 := fun _ => []
  owed : Nat → List UInt8 := fun _ => []
  dropped : List Nat := []

namespace Run

/-- A run at its start. -/
def start (file : δ) : Run δ := { writer := { file := { file } } }

/-- Enters the first octets that a guard owes into the ledger. -/
def book (run : Run δ) (guard count : Nat) (fate : Fate) : Run δ :=
  { run with
    ledger := run.ledger ++ ((run.owed guard).take count).map (⟨guard, ·, fate⟩)
    owed := Function.update run.owed guard ((run.owed guard).drop count) }

theorem owed_book_self (run : Run δ) (guard count : Nat) (fate : Fate)
    : (run.book guard count fate).owed guard = (run.owed guard).drop count :=
  Function.update_self ..

theorem owed_book_of_ne {guard other : Nat} (apart : other ≠ guard) (run : Run δ) (count : Nat)
    (fate : Fate)
    : (run.book guard count fate).owed other = run.owed other :=
  Function.update_of_ne apart ..

/-- One write of what a guard owes. When nothing of it is taken, the guard gives up on it. -/
def write (device : Device δ) (run : Run δ) (guard : Nat) : Run δ :=
  let outcome := run.writer.write device.recorded (run.owed guard)
  let after := { run with writer := outcome.writer, stderr := run.stderr ++ outcome.stderr }
  match outcome.result with
  | .error _ | .ok 0 => after.book guard (run.owed guard).length .nowhere
  | .ok n => after.book guard n (if outcome.writer.hasFallenBack then .stderr else .file)

/-- One write does what the writer does, and what is taken is no longer owed. -/
theorem write_spec (device : Device δ) (run : Run δ) (guard : Nat)
    : let outcome := run.writer.write device.recorded (run.owed guard)
      let after := run.write device guard
      after.writer = outcome.writer ∧ after.stderr = run.stderr ++ outcome.stderr
      ∧ after.dropped = run.dropped
      ∧ after.owed guard = match outcome.result with
        | .error _ | .ok 0 => []
        | .ok n => (run.owed guard).drop n := by
  rw [write]
  rcases run.writer.write device.recorded (run.owed guard) with ⟨fault | _ | n, stderr, writer⟩
  · exact ⟨rfl, rfl, rfl, (owed_book_self ..).trans List.drop_length⟩
  · exact ⟨rfl, rfl, rfl, (owed_book_self ..).trans List.drop_length⟩
  · exact ⟨rfl, rfl, rfl, owed_book_self ..⟩

/-- One turn. A guard that has been dropped does nothing, and one that still owes something is not
dropped. -/
def step (device : Device δ) (run : Run δ) (turn : Turn) : Run δ :=
  if turn.guard ∈ run.dropped then run
  else
    match turn.act with
    | .hand octets =>
      { run with
        given := Function.update run.given turn.guard (run.given turn.guard ++ octets)
        owed := Function.update run.owed turn.guard (run.owed turn.guard ++ octets) }
    | .write => if run.owed turn.guard = [] then run else run.write device turn.guard
    | .flush =>
      let outcome := run.writer.flush device.recorded
      { run with writer := outcome.writer, stderr := run.stderr ++ outcome.stderr }
    | .drop =>
      if run.owed turn.guard = [] then
        { run with
          writer := run.writer.release device.recorded, dropped := turn.guard :: run.dropped }
      else run

/-- The turns of a run. -/
def turns (device : Device δ) (run : Run δ) (turns : List Turn) : Run δ :=
  turns.foldl (step device) run

-----------------------------------------------------------------------------------------
-- What a turn does
-----------------------------------------------------------------------------------------

/-- What a turn does: each way with what it finds and leaves. -/
inductive Moves (device : Device δ) (run : Run δ) : Turn → Run δ → Prop
  | idle (turn : Turn) : Moves device run turn run
  | hand {guard : Nat} (live : guard ∉ run.dropped) (octets : List UInt8)
    : Moves device run ⟨guard, .hand octets⟩
        { run with
          given := Function.update run.given guard (run.given guard ++ octets)
          owed := Function.update run.owed guard (run.owed guard ++ octets) }
  | divert {guard : Nat} (live : guard ∉ run.dropped) (owing : run.owed guard ≠ [])
    (fallen : run.writer.hasFallenBack = true)
    : Moves device run ⟨guard, .write⟩
        ({ run with stderr := run.stderr ++ run.owed guard }.book guard (run.owed guard).length
          .stderr)
  | take {guard n : Nat} {writer : Writer (Recorded δ)} (live : guard ∉ run.dropped)
    (owing : run.owed guard ≠ []) (unfallen : run.writer.hasFallenBack = false)
    (put : run.writer.put device.recorded (run.owed guard) = (.ok (n + 1), writer))
    : Moves device run ⟨guard, .write⟩ ({ run with writer }.book guard (n + 1) .file)
  | refuse {guard : Nat} {writer : Writer (Recorded δ)} (live : guard ∉ run.dropped)
    (owing : run.owed guard ≠ []) (unfallen : run.writer.hasFallenBack = false)
    (put : run.writer.put device.recorded (run.owed guard) = (.ok 0, writer))
    : Moves device run ⟨guard, .write⟩
        ({ run with writer }.book guard (run.owed guard).length .nowhere)
  | fall {guard : Nat} {fault : String} {writer : Writer (Recorded δ)}
    (live : guard ∉ run.dropped) (owing : run.owed guard ≠ [])
    (unfallen : run.writer.hasFallenBack = false)
    (put : run.writer.put device.recorded (run.owed guard) = (.error fault, writer))
    : Moves device run ⟨guard, .write⟩
        ({ run with
            writer := { writer with hasFallenBack := true }
            stderr := run.stderr
              ++ ((Writer.fallbackLine fault).toUTF8.toList ++ run.owed guard) }.book guard
          (run.owed guard).length .stderr)
  | flush {guard : Nat} (live : guard ∉ run.dropped)
    (unfallen : run.writer.hasFallenBack = false)
    : Moves device run ⟨guard, .flush⟩
        { run with writer := (run.writer.flushBuffer device.recorded).2 }
  | drop {guard : Nat} (live : guard ∉ run.dropped) (done : run.owed guard = [])
    : Moves device run ⟨guard, .drop⟩
        { run with
          writer := (run.writer.flushBuffer device.recorded).2
          dropped := guard :: run.dropped }

theorem write_moves (device : Device δ) (run : Run δ) {guard : Nat}
    (live : guard ∉ run.dropped) (owing : run.owed guard ≠ [])
    : Moves device run ⟨guard, .write⟩ (run.write device guard) := by
  obtain ⟨octet, rest, owes⟩ := List.exists_cons_of_ne_nil owing
  rw [write, Writer.write]
  cases fallen : run.writer.hasFallenBack with
  | true =>
      have move : Moves device run ⟨guard, .write⟩ _ := .divert live owing fallen
      simp only [if_true, owes, List.length_cons, fallen] at move ⊢
      exact move
  | false =>
      rw [if_neg Bool.false_ne_true]
      rcases put : run.writer.put device.recorded (run.owed guard) with ⟨fault | n, writer⟩
      · have move := Moves.fall live owing fallen put
        simp only [owes, List.length_cons, if_true] at move ⊢
        exact move
      · cases n with
        | zero =>
            have move := Moves.refuse live owing fallen put
            simpa only [List.append_nil] using move
        | succ n =>
            have move := Moves.take live owing fallen put
            have unfallen := (Writer.takes_of_put put).fallen.trans fallen
            simpa only [List.append_nil, unfallen, Bool.false_eq_true, if_false] using move

theorem step_moves (device : Device δ) (run : Run δ) (turn : Turn)
    : Moves device run turn (run.step device turn) := by
  obtain ⟨guard, act⟩ := turn
  rw [step]
  split
  · exact .idle _
  · next live =>
      cases act with
      | hand octets => exact .hand live octets
      | write =>
          dsimp only
          split
          · exact .idle _
          · next owing => exact write_moves device run live owing
      | flush =>
          dsimp only
          rw [Writer.flush]
          cases fallen : run.writer.hasFallenBack with
          | true =>
              have move : Moves device run ⟨guard, .flush⟩ run := .idle _
              simpa using move
          | false =>
              have move : Moves device run ⟨guard, .flush⟩ _ := .flush live fallen
              simpa using move
      | drop =>
          dsimp only
          split
          · next done => exact .drop live done
          · exact .idle _

-----------------------------------------------------------------------------------------
-- What every turn keeps
-----------------------------------------------------------------------------------------

variable {run after : Run δ} {turn : Turn}

/-- What every turn keeps: a guard that is dropped enters nothing any more, the file has what it has
taken, and a writer that has fallen back stays so and sends everything to the error output. -/
structure Extends (run after : Run δ) : Prop where
  ledger : ∃ entries, after.ledger = run.ledger ++ entries
    ∧ (∀ entry ∈ entries, entry.guard ∉ run.dropped)
    ∧ (run.writer.hasFallenBack = true → ∀ entry ∈ entries, entry.fate = .stderr)
  owed : ∀ guard ∈ run.dropped, after.owed guard = run.owed guard
  accepted : run.writer.file.accepted <+: after.writer.file.accepted
  fallen : run.writer.hasFallenBack = true → after.writer.hasFallenBack = true

/-- Entries of one guard that is still there extend the ledger. -/
theorem extends_book {guard count : Nat} {fate : Fate} (live : guard ∉ run.dropped)
    (ledger : after.ledger = run.ledger) (owed : after.owed = run.owed)
    (accepted : run.writer.file.accepted <+: after.writer.file.accepted)
    (fallen : run.writer.hasFallenBack = true → after.writer.hasFallenBack = true)
    (diverted : run.writer.hasFallenBack = true → fate = .stderr)
    : Extends run (after.book guard count fate) where
  ledger := by
    refine ⟨_, congrArg (· ++ _) ledger, ?_, ?_⟩
    · rintro entry among
      obtain ⟨octet, -, rfl⟩ := List.mem_map.mp among
      exact live
    · rintro back entry among
      obtain ⟨octet, -, rfl⟩ := List.mem_map.mp among
      exact diverted back
  owed := by
    intro other gone
    have apart : other ≠ guard := fun same => live (same ▸ gone)
    rw [owed_book_of_ne apart, owed]
  accepted := accepted
  fallen := fallen

/-- What leaves the ledger alone, for a guard that is still there. -/
theorem extends_of_ledger (ledger : after.ledger = run.ledger)
    (owed : ∀ guard ∈ run.dropped, after.owed guard = run.owed guard)
    (accepted : run.writer.file.accepted <+: after.writer.file.accepted)
    (fallen : after.writer.hasFallenBack = run.writer.hasFallenBack)
    : Extends run after :=
  ⟨⟨[], by rw [ledger, List.append_nil], nofun, nofun⟩, owed, accepted,
    fun back => fallen.trans back⟩

theorem Moves.extends (moves : Moves device run turn after) : Extends run after := by
  cases moves with
  | idle => exact extends_of_ledger rfl (fun _ _ => rfl) List.prefix_rfl rfl
  | @hand guard live octets =>
      refine extends_of_ledger rfl (fun other gone => ?_) List.prefix_rfl rfl
      have apart : other ≠ guard := fun same => live (same ▸ gone)
      exact Function.update_of_ne apart ..
  | divert live owing fallen =>
      exact extends_book live rfl rfl List.prefix_rfl id fun _ => rfl
  | take live owing unfallen put =>
      have takes := Writer.takes_of_put put
      exact extends_book live rfl rfl takes.accepted (fun back => takes.fallen.trans back)
        fun back => absurd (unfallen.symm.trans back) Bool.false_ne_true
  | refuse live owing unfallen put =>
      have takes := Writer.takes_of_put put
      exact extends_book live rfl rfl takes.accepted (fun back => takes.fallen.trans back)
        fun back => absurd (unfallen.symm.trans back) Bool.false_ne_true
  | fall live owing unfallen put =>
      have drains := Writer.drains_of_put put
      exact extends_book live rfl rfl drains.accepted (fun _ => rfl) fun _ => rfl
  | flush live unfallen =>
      have drains := Writer.flushBuffer_drains device run.writer
      exact extends_of_ledger rfl (fun _ _ => rfl) drains.accepted drains.fallen
  | drop live done =>
      have drains := Writer.flushBuffer_drains device run.writer
      exact extends_of_ledger rfl (fun _ _ => rfl) drains.accepted drains.fallen

-----------------------------------------------------------------------------------------
-- The balance
-----------------------------------------------------------------------------------------

/-- The octets of a guard that are in the ledger. -/
def octetsOf (run : Run δ) (guard : Nat) : List UInt8 :=
  (run.ledger.filter (·.guard = guard)).map (·.octet)

/-- The octets in the ledger that went one way. -/
def octetsTo (run : Run δ) (fate : Fate) : List UInt8 :=
  (run.ledger.filter (·.fate = fate)).map (·.octet)

/-- The ledger is right: what a guard was handed is in it or still owed, what went towards the file
is what the file took and then the buffer, and the error output got the line of the failure and then
what went there. -/
structure Balanced (run : Run δ) : Prop where
  given : ∀ guard, run.given guard = run.octetsOf guard ++ run.owed guard
  file : run.octetsTo .file = run.writer.sent
  stderr : (run.writer.hasFallenBack = false ∧ run.stderr = [] ∧ run.octetsTo .stderr = [])
    ∨ run.writer.hasFallenBack = true
      ∧ ∃ fault, run.stderr = (Writer.fallbackLine fault).toUTF8.toList ++ run.octetsTo .stderr

theorem octetsOf_book (run : Run δ) (guard count : Nat) (fate : Fate) (other : Nat)
    : (run.book guard count fate).octetsOf other
      = run.octetsOf other ++ if other = guard then (run.owed guard).take count else [] := by
  rw [octetsOf, book, octetsOf, List.filter_append, List.map_append, List.filter_map]
  by_cases same : other = guard
  · simp [same, Function.comp_def]
  · simp [same, Ne.symm same, Function.comp_def]

theorem octetsTo_book (run : Run δ) (guard count : Nat) (fate other : Fate)
    : (run.book guard count fate).octetsTo other
      = run.octetsTo other ++ if other = fate then (run.owed guard).take count else [] := by
  rw [octetsTo, book, octetsTo, List.filter_append, List.map_append, List.filter_map]
  by_cases same : other = fate
  · simp [same, Function.comp_def]
  · simp [same, Ne.symm same, Function.comp_def]

/-- What is booked was owed, so what a guard was handed stays in balance. -/
theorem given_book (given : ∀ guard, run.given guard = run.octetsOf guard ++ run.owed guard)
    (guard count : Nat) (fate : Fate) (other : Nat)
    : (run.book guard count fate).given other
      = (run.book guard count fate).octetsOf other
        ++ (run.book guard count fate).owed other := by
  rw [octetsOf_book]
  by_cases same : other = guard
  · subst same
    rw [if_pos rfl, owed_book_self, List.append_assoc, List.take_append_drop]
    exact given other
  · rw [if_neg same, List.append_nil, owed_book_of_ne same]
    exact given other

theorem Moves.balanced (moves : Moves device run turn after) (balanced : run.Balanced)
    : after.Balanced := by
  obtain ⟨given, file, stderr⟩ := balanced
  cases moves with
  | idle => exact ⟨given, file, stderr⟩
  | @hand guard live octets =>
      refine ⟨fun other => ?_, file, stderr⟩
      by_cases same : other = guard
      · subst same
        simp only [Function.update_self, given other, List.append_assoc]
        rfl
      · simp only [Function.update_of_ne same]
        exact given other
  | divert live owing fallen =>
      refine ⟨given_book given _ _ _, ?_, .inr ⟨fallen, ?_⟩⟩
      · rw [octetsTo_book, if_neg nofun, List.append_nil]
        exact file
      · obtain ⟨unfallen, -⟩ | ⟨-, fault, told⟩ := stderr
        · exact absurd (unfallen.symm.trans fallen) Bool.false_ne_true
        · refine ⟨fault, ?_⟩
          rw [octetsTo_book, if_pos rfl, List.take_length, ← List.append_assoc]
          exact congrArg (· ++ _) told
  | take live owing unfallen put =>
      have takes := Writer.takes_of_put put
      refine ⟨given_book given _ _ _, ?_, ?_⟩
      · rw [octetsTo_book, if_pos rfl]
        exact (congrArg (· ++ _) file).trans takes.sent.symm
      · rw [octetsTo_book, if_neg nofun, List.append_nil]
        exact takes.fallen.symm ▸ stderr
  | refuse live owing unfallen put =>
      have takes := Writer.takes_of_put put
      refine ⟨given_book given _ _ _, ?_, ?_⟩
      · rw [octetsTo_book, if_neg nofun, List.append_nil]
        exact file.trans (takes.sent.trans (List.append_nil _)).symm
      · rw [octetsTo_book, if_neg nofun, List.append_nil]
        exact takes.fallen.symm ▸ stderr
  | @fall guard fault writer live owing unfallen put =>
      have drains := Writer.drains_of_put put
      refine ⟨given_book given _ _ _, ?_, .inr ⟨rfl, fault, ?_⟩⟩
      · rw [octetsTo_book, if_neg nofun, List.append_nil]
        exact file.trans drains.sent.symm
      · obtain ⟨-, none, nothing⟩ | ⟨fallen, -⟩ := stderr
        · rw [octetsTo_book, if_pos rfl, List.take_length]
          have first : run.octetsTo .stderr ++ run.owed guard = run.owed guard := by
            rw [nothing, List.nil_append]
          simp only [book, none, List.nil_append]
          exact congrArg (_ ++ ·) first.symm
        · exact absurd (unfallen.symm.trans fallen) Bool.false_ne_true
  | flush live unfallen =>
      have drains := Writer.flushBuffer_drains device run.writer
      exact ⟨given, file.trans drains.sent.symm, drains.fallen.symm ▸ stderr⟩
  | drop live done =>
      have drains := Writer.flushBuffer_drains device run.writer
      exact ⟨given, file.trans drains.sent.symm, drains.fallen.symm ▸ stderr⟩

-----------------------------------------------------------------------------------------
-- The law
-----------------------------------------------------------------------------------------

/-- The entries that went towards the file and that it has not taken yet. -/
def pending (run : Run δ) : List Entry :=
  (run.ledger.filter (·.fate = .file)).drop run.writer.file.accepted.length

/-- Every octet that a guard was handed has been taken by the file or went to the error output. -/
structure Settled (run : Run δ) (guard : Nat) : Prop where
  done : run.owed guard = []
  taken : ∀ entry ∈ run.pending, entry.guard ≠ guard
  kept : ∀ entry ∈ run.ledger, entry.fate = .nowhere → entry.guard ≠ guard

/-- No event of a dropped guard is lost, and once the file has failed the writer has fallen back. -/
structure Lawful (run : Run δ) : Prop where
  settled : ∀ guard ∈ run.dropped, run.Settled guard
  fallen : run.writer.file.failures ≠ 0 → run.writer.hasFallenBack = true

/-- The file does not fail when the buffer is flushed. -/
def FlushesWell (device : Device δ) (run : Run δ) : Prop :=
  (run.writer.flushBuffer device.recorded).2.file.failures = run.writer.file.failures

/-- The entries that stay in the buffer when it is flushed, from the place on where the file fails
or takes nothing. -/
def stranded (device : Device δ) (run : Run δ) : List Entry :=
  let file := (run.writer.flushBuffer device.recorded).2.file
  run.pending.drop (file.accepted.length - run.writer.file.accepted.length)

/-- The file takes nothing of a write that a guard makes. -/
structure Baulked (device : Device δ) (run : Run δ) (guard : Nat) : Prop where
  live : guard ∉ run.dropped
  owing : run.owed guard ≠ []
  nothing : (run.writer.write device.recorded (run.owed guard)).result = .ok 0

/-- A turn of a guard that is still there is safe unless the file answers badly. In a flush and in a
drop it must not fail before the writer has fallen back. When a guard is dropped that owes nothing,
the file must also take of the buffer all up to the guard's last octet, and no write of the guard
may have been wasted. -/
def Safe (device : Device δ) (run : Run δ) (turn : Turn) (wasted : Prop) : Prop :=
  turn.guard ∉ run.dropped
  → match turn.act with
    | .hand _ | .write => True
    | .flush => run.writer.hasFallenBack = false → run.FlushesWell device
    | .drop =>
      run.owed turn.guard = []
      → (run.writer.hasFallenBack = false → run.FlushesWell device)
        ∧ (∀ entry ∈ run.stranded device, entry.guard ≠ turn.guard)
        ∧ ¬ wasted

/-- An octet of a guard went nowhere. -/
def Wastes (run : Run δ) (guard : Nat) : Prop :=
  ∃ entry ∈ run.ledger, entry.fate = .nowhere ∧ entry.guard = guard

/-- What is stranded is pending after the flush. -/
theorem pending_flushed (device : Device δ) (run : Run δ) (dropped : List Nat)
    : pending { run with writer := (run.writer.flushBuffer device.recorded).2, dropped }
      = run.stranded device := by
  have drains := Writer.flushBuffer_drains device run.writer
  have shorter := drains.accepted.length_le
  rw [stranded, pending, pending, List.drop_drop, Nat.add_sub_cancel' shorter]

/-- A guard that is dropped is settled when none of its octets is stranded or went nowhere. -/
theorem settled_dropped_iff (device : Device δ) {guard : Nat} (done : run.owed guard = [])
    : Settled
        { run with
          writer := (run.writer.flushBuffer device.recorded).2
          dropped := guard :: run.dropped } guard
      ↔ (∀ entry ∈ run.stranded device, entry.guard ≠ guard) ∧ ¬ run.Wastes guard := by
  constructor
  · rintro ⟨-, taken, kept⟩
    rw [pending_flushed] at taken
    exact ⟨taken, fun ⟨entry, among, nowhere, its⟩ => kept entry among nowhere its⟩
  · rintro ⟨taken, kept⟩
    rw [← pending_flushed device run (guard :: run.dropped)] at taken
    exact ⟨done, taken, fun entry among nowhere its => kept ⟨entry, among, nowhere, its⟩⟩

/-- What is settled stays so when others go on. -/
theorem Extends.settled (extended : Extends run after) {guard : Nat}
    (gone : guard ∈ run.dropped) (settled : run.Settled guard)
    : after.Settled guard := by
  obtain ⟨entries, ledger, live, -⟩ := extended.ledger
  have apart : ∀ entry ∈ entries, entry.guard ≠ guard :=
    fun entry among same => live entry among (same ▸ gone)
  refine ⟨(extended.owed guard gone).trans settled.done, ?_, ?_⟩
  · intro entry among
    rw [pending, ledger, List.filter_append, List.drop_append] at among
    rcases List.mem_append.mp among with earlier | added
    · have shorter : run.writer.file.accepted.length ≤ after.writer.file.accepted.length :=
        extended.accepted.length_le
      exact settled.taken entry ((List.drop_sublist_drop_left _ shorter).subset earlier)
    · exact apart entry (List.mem_filter.mp ((List.drop_sublist _ _).subset added)).1
  · intro entry among
    rw [ledger] at among
    rcases List.mem_append.mp among with earlier | added
    · exact settled.kept entry earlier
    · exact fun _ => apart entry added

/-- A safe turn keeps the law. -/
theorem Moves.lawful (moves : Moves device run turn after) (lawful : run.Lawful)
    (safe : run.Safe device turn (run.Wastes turn.guard))
    : after.Lawful := by
  constructor
  · intro guard gone
    have stays (gone : guard ∈ run.dropped) : after.Settled guard :=
      moves.extends.settled gone (lawful.settled guard gone)
    cases moves with
    | drop live done =>
        rcases List.mem_cons.mp gone with rfl | earlier
        · exact (settled_dropped_iff device done).mpr (safe live done).2
        · exact stays earlier
    | idle | hand | divert | take | refuse | fall | flush => exact stays gone
  · intro failed
    have falls (calm : after.writer.file.failures = run.writer.file.failures)
        : after.writer.hasFallenBack = true :=
      moves.extends.fallen (lawful.fallen (calm ▸ failed))
    cases moves with
    | idle | hand | divert => exact falls rfl
    | take live owing unfallen put => exact falls (Writer.takes_of_put put).failures
    | refuse live owing unfallen put => exact falls (Writer.takes_of_put put).failures
    | fall => rfl
    | flush live unfallen => exact falls (safe live unfallen)
    | drop live done =>
        cases fallen : run.writer.hasFallenBack with
        | true => exact Moves.extends (.drop live done) |>.fallen fallen
        | false => exact falls ((safe live done).1 fallen)

/-- Where the law is kept by a writer that has not fallen back, the file has not failed. -/
theorem flushesWell_of_lawful {dropped : List Nat}
    (lawful
      : Lawful { run with writer := (run.writer.flushBuffer device.recorded).2, dropped })
    (unfallen : run.writer.hasFallenBack = false)
    : run.FlushesWell device := by
  have drains := Writer.flushBuffer_drains device run.writer
  have fewer := drains.failures
  have none : (run.writer.flushBuffer device.recorded).2.file.failures = 0 := by
    by_contra failed
    exact Bool.false_ne_true ((drains.fallen.trans unfallen).symm.trans (lawful.fallen failed))
  rw [FlushesWell]
  omega

/-- A turn that leaves a lawful run is safe. -/
theorem safe_of_lawful (device : Device δ) (run : Run δ) (turn : Turn)
    (lawful : (run.step device turn).Lawful)
    : run.Safe device turn (run.Wastes turn.guard) := by
  obtain ⟨guard, act⟩ := turn
  intro live
  rw [step, if_neg live] at lawful
  cases act with
  | hand | write => trivial
  | flush =>
      intro unfallen
      simp only [Writer.flush, unfallen, Bool.false_eq_true, if_false, List.append_nil] at lawful
      exact flushesWell_of_lawful lawful unfallen
  | drop =>
      intro done
      simp only [done, if_true] at lawful
      exact ⟨flushesWell_of_lawful lawful,
        (settled_dropped_iff device done).mp (lawful.settled guard List.mem_cons_self)⟩

-----------------------------------------------------------------------------------------
-- Files that take something whenever they are fine
-----------------------------------------------------------------------------------------

/-- The writer still writes to its file, which is fine, and nothing went nowhere. -/
structure Healthy (fine : Recorded δ → Prop) (run : Run δ) : Prop where
  unfallen : run.writer.hasFallenBack = false
  kept : ∀ entry ∈ run.ledger, entry.fate ≠ .nowhere
  fine : fine run.writer.file

section Healthy

variable {fine : Recorded δ → Prop}

/-- A turn on a file that takes something while it is fine. -/
theorem Moves.healthy (moves : Moves device run turn after)
    (takes : device.recorded.TakesSomeOf fine) (healthy : run.Healthy fine)
    : after.Healthy fine := by
  cases moves with
  | idle | hand => exact ⟨healthy.unfallen, healthy.kept, healthy.fine⟩
  | flush | drop =>
      have drains := Writer.flushBuffer_drains device run.writer
      have flushed := Writer.flushBuffer_of_takesSome takes healthy.fine
      exact ⟨drains.fallen.trans healthy.unfallen, healthy.kept, flushed.2⟩
  | divert live owing fallen =>
      exact absurd (healthy.unfallen.symm.trans fallen) Bool.false_ne_true
  | take live owing unfallen put =>
      obtain ⟨n, writer, some, stays⟩ := Writer.put_of_takesSome takes healthy.fine owing
      cases put.symm.trans some
      refine ⟨(Writer.takes_of_put put).fallen.trans unfallen, fun entry among => ?_, stays⟩
      rcases List.mem_append.mp among with earlier | added
      · exact healthy.kept entry earlier
      · obtain ⟨octet, -, rfl⟩ := List.mem_map.mp added
        exact nofun
  | refuse live owing unfallen put =>
      obtain ⟨n, writer, some, -⟩ := Writer.put_of_takesSome takes healthy.fine owing
      cases put.symm.trans some
  | fall live owing unfallen put =>
      obtain ⟨n, writer, some, -⟩ := Writer.put_of_takesSome takes healthy.fine owing
      cases put.symm.trans some

/-- An empty buffer has nothing pending. -/
theorem Balanced.pending_eq_nil (balanced : run.Balanced) (empty : run.writer.buffer = [])
    : run.pending = [] := by
  have file := balanced.file
  rw [Writer.sent, empty, List.append_nil] at file
  rw [pending, ← file, octetsTo, List.length_map, List.drop_length]

/-- Flushing a file that is fine leaves nothing in the buffer and meets no failure. -/
theorem Healthy.flushed (healthy : run.Healthy fine) (takes : device.recorded.TakesSomeOf fine)
    : (run.writer.flushBuffer device.recorded).2.buffer = []
      ∧ (run.writer.flushBuffer device.recorded).2.file.failures = run.writer.file.failures :=
  Writer.flushBuffer_ok (Prod.ext (Writer.flushBuffer_of_takesSome takes healthy.fine).1
    (Eq.refl (run.writer.flushBuffer device.recorded).2))

/-- Turns are safe on a file that takes something while it is fine. -/
theorem Healthy.safe (healthy : run.Healthy fine) (takes : device.recorded.TakesSomeOf fine)
    (balanced : run.Balanced) (turn : Turn)
    : run.Safe device turn (run.Wastes turn.guard) := by
  obtain ⟨guard, act⟩ := turn
  have flushed := healthy.flushed takes
  intro live
  cases act with
  | hand | write => trivial
  | flush => exact fun _ => flushed.2
  | drop =>
      intro done
      have move : Moves device run ⟨guard, .drop⟩ _ := .drop live done
      have none : run.stranded device = [] :=
        (pending_flushed device run _).symm.trans
          ((move.balanced balanced).pending_eq_nil flushed.1)
      refine ⟨fun _ => flushed.2, none ▸ nofun, ?_⟩
      rintro ⟨entry, among, nowhere, -⟩
      exact healthy.kept entry among nowhere

end Healthy

-----------------------------------------------------------------------------------------
-- Whole runs
-----------------------------------------------------------------------------------------

theorem turns_append (device : Device δ) (run : Run δ) (earlier later : List Turn)
    : run.turns device (earlier ++ later) = (run.turns device earlier).turns device later :=
  List.foldl_append

theorem turns_concat (device : Device δ) (run : Run δ) (earlier : List Turn) (turn : Turn)
    : run.turns device (earlier ++ [turn]) = (run.turns device earlier).step device turn :=
  run.turns_append device earlier [turn]

theorem turns_cons (device : Device δ) (run : Run δ) (turn : Turn) (later : List Turn)
    : run.turns device (turn :: later) = (run.step device turn).turns device later :=
  rfl

theorem step_write (device : Device δ) (run : Run δ) {guard : Nat} (live : guard ∉ run.dropped)
    (owing : run.owed guard ≠ [])
    : run.step device ⟨guard, .write⟩ = run.write device guard :=
  (if_neg live).trans (if_neg owing)

/-- Writing all that a guard owes is a number of its writes, by induction on the bound of them. -/
theorem exists_writes (device : Device δ) {guard fuel : Nat} (run : Run δ)
    (live : guard ∉ run.dropped) (enough : (run.owed guard).length < fuel)
    : ∃ writes : Nat,
        let after := run.turns device (List.replicate writes ⟨guard, .write⟩)
        let outcome := run.writer.writeAllWithin device.recorded fuel (run.owed guard)
        after.writer = outcome.writer ∧ after.stderr = run.stderr ++ outcome.stderr
        ∧ after.dropped = run.dropped ∧ after.owed guard = [] := by
  induction fuel generalizing run with
  | zero => exact absurd enough (Nat.not_lt_zero _)
  | succ fuel ih =>
      rw [Writer.writeAllWithin]
      by_cases done : run.owed guard = []
      · rw [if_pos (List.isEmpty_iff.mpr done)]
        exact ⟨0, rfl, (List.append_nil _).symm, rfl, done⟩
      · have stepped := run.step_write device live done
        rw [if_neg (mt List.isEmpty_iff.mp done)]
        obtain ⟨writer, stderr, dropped, left⟩ := write_spec device run guard
        have once (spent : (run.write device guard).owed guard = []) :
            let after := run.turns device (List.replicate 1 ⟨guard, .write⟩)
            let outcome := run.writer.write device.recorded (run.owed guard)
            after.writer = outcome.writer ∧ after.stderr = run.stderr ++ outcome.stderr
            ∧ after.dropped = run.dropped ∧ after.owed guard = [] := by
          rw [List.replicate_one, turns_cons, stepped]
          exact ⟨writer, stderr, dropped, spent⟩
        rcases outcome : run.writer.write device.recorded (run.owed guard)
          with ⟨fault | _ | n, told, next⟩ <;> rw [outcome] at writer stderr left once
        · exact ⟨1, once left⟩
        · exact ⟨1, once left⟩
        · replace left : (run.write device guard).owed guard = (run.owed guard).drop (n + 1) := left
          have shorter : ((run.write device guard).owed guard).length < fuel := by
            have filled := List.length_pos_iff.mpr done
            rw [left, List.length_drop]
            omega
          obtain ⟨writes, rest⟩ := ih (run.write device guard) (dropped ▸ live) shorter
          rw [writer, stderr, dropped, left] at rest
          refine ⟨writes + 1, ?_⟩
          rw [List.replicate_succ, turns_cons, stepped]
          exact ⟨rest.1, rest.2.1.trans (List.append_assoc ..), rest.2.2⟩

/-- What the writer does with one event is what a guard of its own does: it is handed the octets,
writes until it owes nothing more, and is dropped. -/
theorem exists_turns_event (device : Device δ) (run : Run δ) {guard : Nat}
    (live : guard ∉ run.dropped) (done : run.owed guard = []) (octets : List UInt8)
    : ∃ writes : Nat,
        let after := run.turns device
          (⟨guard, .hand octets⟩ :: List.replicate writes ⟨guard, .write⟩ ++ [⟨guard, .drop⟩])
        guard ∈ after.dropped
        ∧ (after.stderr, after.writer)
          = ((run.writer.event device.recorded octets).map (run.stderr ++ ·) id) := by
  let handed := run.step device ⟨guard, .hand octets⟩
  have made : handed = { run with
      given := Function.update run.given guard (run.given guard ++ octets)
      owed := Function.update run.owed guard (run.owed guard ++ octets) } :=
    if_neg live
  have owes : handed.owed guard = octets := by
    rw [made]
    exact (Function.update_self ..).trans (by rw [done, List.nil_append])
  have here : guard ∉ handed.dropped := made ▸ live
  obtain ⟨writes, writer, stderr, dropped, left⟩ :=
    exists_writes device handed here (Nat.lt_succ_self (handed.owed guard).length)
  have kept : handed.writer = run.writer ∧ handed.stderr = run.stderr := by
    rw [made]
    exact ⟨rfl, rfl⟩
  rw [owes, kept.1] at writer
  rw [owes, kept.1, kept.2] at stderr
  refine ⟨writes, ?_⟩
  rw [turns_concat, turns_cons, step, if_neg (dropped ▸ here)]
  dsimp only
  rw [if_pos left]
  refine ⟨.head _, Prod.ext ?_ ?_⟩
  · exact stderr
  · exact congrArg (Writer.release device.recorded) writer

theorem start_balanced (file : δ) : (start file).Balanced :=
  ⟨fun _ => rfl, rfl, .inl ⟨rfl, rfl, rfl⟩⟩

theorem start_lawful (file : δ) : (start file).Lawful :=
  ⟨nofun, fun failed => absurd rfl failed⟩

/-- Every run is balanced, by induction on its turns from the last one. -/
theorem turns_balanced (device : Device δ) (balanced : run.Balanced) (turns : List Turn)
    : (run.turns device turns).Balanced := by
  induction turns using List.reverseRecOn with
  | nil => exact balanced
  | append_singleton earlier turn ih =>
      rw [turns_concat]
      exact (step_moves device _ turn).balanced ih

/-- A writer that has fallen back stays so, and all that is written goes to the error output, by
induction on the turns from the last one. -/
theorem turns_diverted (device : Device δ) (run : Run δ)
    (fallen : run.writer.hasFallenBack = true) (more : List Turn)
    : (run.turns device more).writer.hasFallenBack = true
      ∧ ∃ entries, (run.turns device more).ledger = run.ledger ++ entries
        ∧ ∀ entry ∈ entries, entry.fate = .stderr := by
  induction more using List.reverseRecOn with
  | nil => exact ⟨fallen, [], (List.append_nil _).symm, nofun⟩
  | append_singleton earlier turn ih =>
      obtain ⟨stays, entries, ledger, diverted⟩ := ih
      have extended := (step_moves device (run.turns device earlier) turn).extends
      obtain ⟨added, grown, -, others⟩ := extended.ledger
      rw [turns_concat]
      refine ⟨extended.fallen stays, entries ++ added, ?_, ?_⟩
      · rw [grown, ledger, List.append_assoc]
      · exact List.forall_mem_append.mpr ⟨diverted, others stays⟩

/-- The ledger only grows, by induction on the turns from the last one. -/
theorem turns_ledger (device : Device δ) (run : Run δ) (turns : List Turn)
    : run.ledger <+: (run.turns device turns).ledger := by
  induction turns using List.reverseRecOn with
  | nil => exact List.prefix_rfl
  | append_singleton earlier turn ih =>
      obtain ⟨added, grown, -, -⟩ :=
        (step_moves device (run.turns device earlier) turn).extends.ledger
      rw [turns_concat, grown]
      exact ih.trans (List.prefix_append _ _)

/-- A write that a guard made in earlier turns was wasted: the file took nothing of it. -/
def Wasted (device : Device δ) (file : δ) (earlier : List Turn) (guard : Nat) : Prop :=
  ∃ first,
    first ++ [⟨guard, .write⟩] <+: earlier
    ∧ ((start file).turns device first).Baulked device guard

/-- Of a guard that is baulked what it owes goes nowhere. -/
theorem Baulked.wastes {guard : Nat} (baulked : run.Baulked device guard)
    : (run.step device ⟨guard, .write⟩).Wastes guard := by
  obtain ⟨live, owing, nothing⟩ := baulked
  obtain ⟨octet, rest, owes⟩ := List.exists_cons_of_ne_nil owing
  rw [run.step_write device live owing, write, nothing]
  refine ⟨⟨guard, octet, .nowhere⟩, List.mem_append.mpr (.inr ?_), rfl, rfl⟩
  simp [owes]

/-- What goes nowhere in a turn is of a guard that is baulked there. -/
theorem Moves.baulked (moves : Moves device run turn after) {guard : Nat}
    (wastes : after.Wastes guard)
    : run.Wastes guard ∨ turn = ⟨guard, .write⟩ ∧ run.Baulked device guard := by
  obtain ⟨entry, among, nowhere, rfl⟩ := wastes
  have earlier (before : entry ∈ run.ledger) : run.Wastes entry.guard :=
    ⟨entry, before, nowhere, rfl⟩
  cases moves with
  | idle | hand | flush | drop => exact .inl (earlier among)
  | divert | take | fall =>
      rcases List.mem_append.mp among with before | added
      · exact .inl (earlier before)
      · obtain ⟨octet, -, rfl⟩ := List.mem_map.mp added
        cases nowhere
  | refuse live owing unfallen put =>
      rcases List.mem_append.mp among with before | added
      · exact .inl (earlier before)
      · obtain ⟨octet, -, rfl⟩ := List.mem_map.mp added
        refine .inr ⟨rfl, live, owing, ?_⟩
        simp only [Writer.write, unfallen, put, Bool.false_eq_true, if_false]

/-- An octet of a guard went nowhere exactly when the file took nothing of one of its writes, by
induction on the turns from the last one. -/
theorem wasted_iff_wastes (device : Device δ) (file : δ) (earlier : List Turn) (guard : Nat)
    : Wasted device file earlier guard ↔ ((start file).turns device earlier).Wastes guard := by
  constructor
  · rintro ⟨first, ⟨later, rfl⟩, baulked⟩
    obtain ⟨entry, among, lost⟩ := baulked.wastes
    rw [← turns_concat] at among
    rw [turns_append]
    exact ⟨entry, (turns_ledger device _ later).subset among, lost⟩
  · induction earlier using List.reverseRecOn with
    | nil =>
        rintro ⟨entry, among, -⟩
        cases among
    | append_singleton earlier turn ih =>
        intro wastes
        rw [turns_concat] at wastes
        rcases (step_moves device _ turn).baulked wastes with before | ⟨rfl, baulked⟩
        · obtain ⟨first, begins, baulked⟩ := ih before
          exact ⟨first, begins.trans (List.prefix_append _ _), baulked⟩
        · exact ⟨earlier, List.prefix_rfl, baulked⟩

/-- Safe turns keep the law, by induction on the turns from the last one. -/
theorem turns_lawful (device : Device δ) (file : δ) (turns : List Turn)
    (safe : ∀ earlier turn, earlier ++ [turn] <+: turns
      → ((start file).turns device earlier).Safe device turn
          (Wasted device file earlier turn.guard))
    : ((start file).turns device turns).Lawful := by
  induction turns using List.reverseRecOn with
  | nil => exact start_lawful file
  | append_singleton earlier turn ih =>
      have before := ih fun first next begins =>
        safe first next (begins.trans (List.prefix_append _ _))
      have last := safe earlier turn List.prefix_rfl
      rw [wasted_iff_wastes] at last
      rw [turns_concat]
      exact (step_moves device _ turn).lawful before last

/-- On a file that takes something while it is fine every run is lawful, by induction on its turns
from the last one. -/
theorem turns_healthy {fine : Recorded δ → Prop} (takes : device.recorded.TakesSomeOf fine)
    (file : δ) (holds : fine { file }) (turns : List Turn)
    : ((start file).turns device turns).Lawful
      ∧ ((start file).turns device turns).Healthy fine := by
  induction turns using List.reverseRecOn with
  | nil => exact ⟨start_lawful file, rfl, nofun, holds⟩
  | append_singleton earlier turn ih =>
      obtain ⟨lawful, healthy⟩ := ih
      have moves := step_moves device ((start file).turns device earlier) turn
      have balanced := turns_balanced device (start_balanced file) earlier
      rw [turns_concat]
      exact ⟨moves.lawful lawful (healthy.safe takes balanced turn), moves.healthy takes healthy⟩

/-- Every octet is accounted for, and a writer that has fallen back sends all that follows to the
error output. No event of a dropped guard is lost, and the first failure makes the writer fall back,
exactly when the file answers each turn so that it is safe; on a file that always takes something
each is. -/
theorem turns_accounted (device : Device δ) (file : δ) (turns : List Turn)
    : let run := (start file).turns device
      (run turns).Balanced
      ∧ (∀ more, (run turns).writer.hasFallenBack = true
          → (run (turns ++ more)).writer.hasFallenBack = true
            ∧ ∃ entries, (run (turns ++ more)).ledger = (run turns).ledger ++ entries
              ∧ ∀ entry ∈ entries, entry.fate = .stderr)
      ∧ ((∀ earlier, earlier <+: turns → (run earlier).Lawful)
        ↔ ∀ earlier turn, earlier ++ [turn] <+: turns
          → (run earlier).Safe device turn (Wasted device file earlier turn.guard))
      ∧ (device.TakesSome
        → (run turns).Lawful ∧ (run turns).writer.hasFallenBack = false) := by
  intro run
  refine ⟨turns_balanced device (start_balanced file) turns, ?_, ⟨?_, ?_⟩, ?_⟩
  · intro more fallen
    have appended : run (turns ++ more) = (run turns).turns device more := turns_append ..
    rw [appended]
    exact turns_diverted device (run turns) fallen more
  · intro lawful earlier turn begins
    have after := lawful _ begins
    have made : run (earlier ++ [turn]) = (run earlier).step device turn := turns_concat ..
    rw [made] at after
    rw [wasted_iff_wastes]
    exact safe_of_lawful device (run earlier) turn after
  · intro safe earlier begins
    refine turns_lawful device file earlier fun first turn within => ?_
    exact safe first turn (within.trans begins)
  · intro takes
    obtain ⟨lawful, healthy⟩ := turns_healthy takes.recorded file trivial turns
    exact ⟨lawful, healthy.unfallen⟩

/-- A file that takes nothing loses an event: its write goes into the buffer, and the drop that
finds the file failing leaves it there. -/
theorem fullFile_loses
    : ∃ writer, openLog Disk.start "/dev/full" true = .ok writer
      ∧ let event := "lost\n".toUTF8.toList
        let run := (start writer.file).turns OpenFile.device
          [⟨0, .hand event⟩, ⟨0, .write⟩, ⟨0, .drop⟩]
        run.dropped = [0] ∧ run.given 0 = event
        ∧ run.writer.file.accepted = [] ∧ run.stderr = []
        ∧ run.writer.file.failures = 1 ∧ run.writer.hasFallenBack = false
        ∧ ¬ run.Lawful := by
  refine ⟨⟨⟨Disk.start, ⟨["dev", "full"], true, 0⟩⟩, [], false⟩, by rfl, ?_⟩
  intro event run
  have failed : run.writer.file.failures = 1 := by decide +kernel
  have unfallen : run.writer.hasFallenBack = false := by decide +kernel
  refine ⟨by decide +kernel, by decide +kernel, by decide +kernel, by decide +kernel, failed,
    unfallen, fun lawful => ?_⟩
  have fallen := lawful.fallen (failed ▸ Nat.one_ne_zero)
  exact Bool.false_ne_true (unfallen.symm.trans fallen)

end Run

end Courier.Log
