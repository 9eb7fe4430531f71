import Courier.Log.Writer

/-! What a file took. A device that keeps a record changes nothing of what a writer does, and shows
what each operation does with its octets: those that went towards the file are the ones it took and
then the buffer, in order, and an operation that fails loses none of them.
-/

namespace Courier.Log

variable {δ : Type}

-----------------------------------------------------------------------------------------
-- Records
-----------------------------------------------------------------------------------------

/-- A file with a record: the octets that it took, and how often it failed. -/
structure Recorded (δ : Type) where
  file : δ
  accepted : List UInt8 := []
  failures : Nat := 0

namespace Device

/-- The device with a record. -/
def recorded (device : Device δ) : Device (Recorded δ) where
  accept state octets :=
    match device.accept state.file octets with
    | (.ok n, file) => (.ok n, { state with file, accepted := state.accepted ++ octets.take n })
    | (.error fault, file) => (.error fault, { state with file, failures := state.failures + 1 })

/-- A device that never fails and never takes nothing. -/
def TakesSome (device : Device δ) : Prop :=
  ∀ file octet rest, ∃ n after, device.accept file (octet :: rest) = (.ok (n + 1), after)

/-- A device that takes something whenever a file is fine, and leaves the file fine. -/
def TakesSomeOf (device : Device δ) (fine : δ → Prop) : Prop :=
  ∀ file octet rest, fine file
    → ∃ n after, device.accept file (octet :: rest) = (.ok (n + 1), after) ∧ fine after

end Device

variable {device : Device δ} {state after : Recorded δ} {octets : List UInt8}

theorem accept_recorded_ok {n : Nat}
    (taken : device.recorded.accept state octets = (.ok n, after))
    : after.accepted = state.accepted ++ octets.take n ∧ after.failures = state.failures := by
  simp only [Device.recorded] at taken
  split at taken
  · cases taken
    exact ⟨rfl, rfl⟩
  · cases taken

theorem accept_recorded_error {fault : String}
    (failed : device.recorded.accept state octets = (.error fault, after))
    : after.accepted = state.accepted ∧ state.failures ≤ after.failures := by
  simp only [Device.recorded] at failed
  split at failed
  · cases failed
  · cases failed
    exact ⟨rfl, Nat.le_succ _⟩

theorem Device.TakesSome.recorded (takes : device.TakesSome)
    : device.recorded.TakesSomeOf fun _ => True := by
  intro state octet rest _
  obtain ⟨n, file, taken⟩ := takes state.file octet rest
  let accepted := state.accepted ++ (octet :: rest).take (n + 1)
  refine ⟨n, { state with file, accepted }, ?_, trivial⟩
  simp only [Device.recorded, taken]
  rfl

-----------------------------------------------------------------------------------------
-- Recording changes nothing
-----------------------------------------------------------------------------------------

theorem accept_of_recorded {result : Except String Nat}
    (did : device.recorded.accept state octets = (result, after))
    : device.accept state.file octets = (result, after.file) := by
  simp only [Device.recorded] at did
  split at did
  · next accepted =>
      cases did
      exact accepted
  · next refused =>
      cases did
      exact refused

namespace Writer

/-- The writer on the file itself. -/
def bare (writer : Writer (Recorded δ)) : Writer δ :=
  { file := writer.file.file, buffer := writer.buffer, hasFallenBack := writer.hasFallenBack }

/-- Giving octets to the file, by induction on what is left of them. -/
theorem flushBuffer_go_bare (writer : Writer (Recorded δ)) (octets : List UInt8)
    (state : Recorded δ)
    : Prod.map id bare (flushBuffer.go device.recorded writer octets state)
      = flushBuffer.go device writer.bare octets state.file := by
  induction octets, state using flushBuffer.go.induct device.recorded with
  | case1 state =>
      rw [flushBuffer.go, flushBuffer.go]
      rfl
  | case2 state octet rest fault after failed =>
      simp only [flushBuffer.go, failed, accept_of_recorded failed]
      rfl
  | case3 state octet rest after taken =>
      simp only [flushBuffer.go, taken, accept_of_recorded taken]
      rfl
  | case4 state octet rest n after taken ih =>
      simp only [flushBuffer.go, taken, accept_of_recorded taken]
      exact ih

theorem flushBuffer_bare (device : Device δ) (writer : Writer (Recorded δ))
    : Prod.map id bare (writer.flushBuffer device.recorded) = writer.bare.flushBuffer device :=
  flushBuffer_go_bare writer writer.buffer writer.file

theorem put_bare (device : Device δ) (writer : Writer (Recorded δ)) (octets : List UInt8)
    : Prod.map id bare (writer.put device.recorded octets) = writer.bare.put device octets := by
  have room
      : (if capacity - writer.bare.buffer.length < octets.length then writer.bare.flushBuffer device
          else (.ok (), writer.bare))
        = Prod.map id bare
            (if capacity - writer.buffer.length < octets.length then
              writer.flushBuffer device.recorded else (.ok (), writer)) := by
    rw [← flushBuffer_bare, apply_ite (Prod.map id bare)]
    rfl
  rw [put, put, room]
  by_cases fits : octets.length < capacity - writer.buffer.length
  · have same : octets.length < capacity - writer.bare.buffer.length := fits
    rw [if_pos fits, if_pos same]
    rfl
  · have same : ¬ octets.length < capacity - writer.bare.buffer.length := fits
    rw [if_neg fits, if_neg same]
    rcases (if capacity - writer.buffer.length < octets.length then
      writer.flushBuffer device.recorded else (.ok (), writer)) with ⟨made, before⟩
    cases made with
    | error fault => rfl
    | ok ready =>
        by_cases long : capacity ≤ octets.length
        · simp only [Prod.map_apply, id_eq, if_pos long]
          have did : device.accept before.bare.file octets
              = ((device.recorded.accept before.file octets).1,
                (device.recorded.accept before.file octets).2.file) :=
            accept_of_recorded rfl
          exact (congrArg (fun did => (did.1, { before.bare with file := did.2 })) did).symm
        · simp only [Prod.map_apply, id_eq, if_neg long]
          rfl

/-- Recording changes nothing of what a write does. -/
theorem write_bare (device : Device δ) (writer : Writer (Recorded δ)) (octets : List UInt8)
    : let outcome := writer.write device.recorded octets
      writer.bare.write device octets = ⟨outcome.result, outcome.stderr, outcome.writer.bare⟩ := by
  have same := put_bare device writer octets
  rw [write, write]
  cases fallen : writer.hasFallenBack with
  | true =>
      have gone : writer.bare.hasFallenBack = true := fallen
      simp only [gone, if_true]
  | false =>
      have unfallen : writer.bare.hasFallenBack = false := fallen
      simp only [unfallen, Bool.false_eq_true, if_false, ← same]
      rcases writer.put device.recorded octets with ⟨_ | n, after⟩ <;> rfl

/-- Writing all octets, by induction on the bound of the writes. -/
theorem writeAllWithin_bare (device : Device δ) (fuel : Nat) (writer : Writer (Recorded δ))
    (octets : List UInt8)
    : let outcome := writer.writeAllWithin device.recorded fuel octets
      writer.bare.writeAllWithin device fuel octets
        = ⟨outcome.result, outcome.stderr, outcome.writer.bare⟩ := by
  induction fuel generalizing writer octets with
  | zero => rfl
  | succ fuel ih =>
      rw [writeAllWithin, writeAllWithin, write_bare]
      split
      · rfl
      · rcases writer.write device.recorded octets with ⟨fault | _ | n, stderr, next⟩
        · rfl
        · rfl
        · simp only [ih]

/-- Recording changes nothing of what a writer does with an event. -/
theorem event_bare (device : Device δ) (writer : Writer (Recorded δ)) (octets : List UInt8)
    : Prod.map id bare (writer.event device.recorded octets) = writer.bare.event device octets := by
  have wrote := writeAllWithin_bare device (octets.length + 1) writer octets
  rw [event, event, wrote, release, release, ← flushBuffer_bare]
  rfl

end Writer

-----------------------------------------------------------------------------------------
-- Flushing
-----------------------------------------------------------------------------------------

namespace Writer

variable {writer before after : Writer (Recorded δ)}

/-- The octets that went towards the file: those it took, and those in the buffer. -/
def sent (writer : Writer (Recorded δ)) : List UInt8 :=
  writer.file.accepted ++ writer.buffer

/-- The file may take octets of the buffer or fail, and nothing else changes. -/
structure Drains (before after : Writer (Recorded δ)) : Prop where
  sent : after.sent = before.sent
  accepted : before.file.accepted <+: after.file.accepted
  fallen : after.hasFallenBack = before.hasFallenBack
  failures : before.file.failures ≤ after.file.failures

theorem Drains.rfl : Drains writer writer :=
  ⟨Eq.refl _, List.prefix_rfl, Eq.refl _, Nat.le_refl _⟩

/-- Giving octets to the file, by induction on what is left of them. -/
theorem flushBuffer_go_drains (writer : Writer (Recorded δ)) (octets : List UInt8)
    (state : Recorded δ)
    : Drains { writer with file := state, buffer := octets }
        (flushBuffer.go device.recorded writer octets state).2 := by
  induction octets, state using flushBuffer.go.induct device.recorded with
  | case1 state =>
      rw [flushBuffer.go]
      exact .rfl
  | case2 state octet rest fault after failed =>
      obtain ⟨same, more⟩ := accept_recorded_error failed
      simp only [flushBuffer.go, failed]
      exact ⟨by simp only [sent, same], by simp only [same, List.prefix_rfl], rfl, more⟩
  | case3 state octet rest after taken =>
      obtain ⟨same, equal⟩ := accept_recorded_ok taken
      rw [List.take_zero, List.append_nil] at same
      simp only [flushBuffer.go, taken]
      exact ⟨by simp only [sent, same], by simp only [same, List.prefix_rfl], rfl,
        Nat.le_of_eq equal.symm⟩
  | case4 state octet rest n after taken ih =>
      obtain ⟨more, equal⟩ := accept_recorded_ok taken
      simp only [flushBuffer.go, taken]
      refine ⟨?_, ?_, ih.fallen, equal ▸ ih.failures⟩
      · rw [ih.sent]
        simp [sent, more]
      · exact (more ▸ List.prefix_append _ _ : state.accepted <+: after.accepted).trans ih.accepted

/-- Flushing drains the buffer. -/
theorem flushBuffer_drains (device : Device δ) (writer : Writer (Recorded δ))
    : Drains writer (writer.flushBuffer device.recorded).2 :=
  flushBuffer_go_drains writer writer.buffer writer.file

/-- Flushing that ends well leaves nothing in the buffer and met no failure, by induction on what is
left of the octets. -/
theorem flushBuffer_go_ok (writer : Writer (Recorded δ)) (octets : List UInt8)
    (state : Recorded δ) (done : (flushBuffer.go device.recorded writer octets state).1 = .ok ())
    : (flushBuffer.go device.recorded writer octets state).2.buffer = []
      ∧ (flushBuffer.go device.recorded writer octets state).2.file.failures = state.failures := by
  induction octets, state using flushBuffer.go.induct device.recorded with
  | case1 state =>
      rw [flushBuffer.go]
      exact ⟨rfl, rfl⟩
  | case2 state octet rest fault after failed =>
      simp only [flushBuffer.go, failed] at done
      cases done
  | case3 state octet rest after taken =>
      simp only [flushBuffer.go, taken] at done
      cases done
  | case4 state octet rest n after taken ih =>
      simp only [flushBuffer.go, taken] at done ⊢
      obtain ⟨empty, equal⟩ := ih done
      exact ⟨empty, equal.trans (accept_recorded_ok taken).2⟩

theorem flushBuffer_ok (done : writer.flushBuffer device.recorded = (.ok (), after))
    : after.buffer = [] ∧ after.file.failures = writer.file.failures := by
  have ends := flushBuffer_go_ok writer writer.buffer writer.file (congrArg Prod.fst done)
  rw [show flushBuffer.go device.recorded writer writer.buffer writer.file = _ from done] at ends
  exact ends

/-- A file that takes something while it is fine takes the whole buffer, by induction on what is
left of it. -/
theorem flushBuffer_of_takesSome {fine : Recorded δ → Prop}
    (takes : device.recorded.TakesSomeOf fine) (holds : fine writer.file)
    : (writer.flushBuffer device.recorded).1 = .ok ()
      ∧ fine (writer.flushBuffer device.recorded).2.file := by
  rw [flushBuffer]
  generalize writer.buffer = octets, writer.file = state at holds ⊢
  induction octets, state using flushBuffer.go.induct device.recorded with
  | case1 state =>
      rw [flushBuffer.go]
      exact ⟨rfl, holds⟩
  | case2 state octet rest fault after failed =>
      obtain ⟨n, other, taken, -⟩ := takes state octet rest holds
      cases failed.symm.trans taken
  | case3 state octet rest after taken =>
      obtain ⟨n, other, some, -⟩ := takes state octet rest holds
      cases taken.symm.trans some
  | case4 state octet rest n after taken ih =>
      obtain ⟨m, other, some, stays⟩ := takes state octet rest holds
      simp only [flushBuffer.go, taken]
      apply ih
      cases taken.symm.trans some
      exact stays

-----------------------------------------------------------------------------------------
-- Writing
-----------------------------------------------------------------------------------------

/-- Octets went towards the file after all others, and the file did not fail. -/
structure Takes (before : Writer (Recorded δ)) (octets : List UInt8)
    (after : Writer (Recorded δ)) : Prop where
  sent : after.sent = before.sent ++ octets
  accepted : before.file.accepted <+: after.file.accepted
  fallen : after.hasFallenBack = before.hasFallenBack
  failures : after.file.failures = before.file.failures

/-- Room for octets is made by flushing the buffer; what goes straight to the file finds it
empty. -/
theorem room_spec {made : Except String Unit}
    (room : (if capacity - writer.buffer.length < octets.length then
        writer.flushBuffer device.recorded else (.ok (), writer)) = (made, after))
    : Drains writer after
      ∧ (made = .ok ()
        → after.file.failures = writer.file.failures
          ∧ (capacity ≤ octets.length → after.buffer = [])) := by
  split at room
  · have drains := flushBuffer_drains device writer
    rw [room] at drains
    refine ⟨drains, ?_⟩
    rintro rfl
    obtain ⟨empty, equal⟩ := flushBuffer_ok room
    exact ⟨equal, fun _ => empty⟩
  · next fits =>
      cases room
      refine ⟨.rfl, fun _ => ⟨rfl, fun long => ?_⟩⟩
      -- an empty buffer has just as much room
      have positive : 0 < capacity := by decide
      exact List.eq_nil_of_length_eq_zero (by omega)

/-- What putting octets leaves: as many as it counts went towards the file, or none did and the file
failed. -/
inductive Puts (before : Writer (Recorded δ)) (octets : List UInt8)
    : Except String Nat × Writer (Recorded δ) → Prop
  | ok {n : Nat} {after : Writer (Recorded δ)} (takes : Takes before (octets.take n) after)
    : Puts before octets (.ok n, after)
  | error {fault : String} {after : Writer (Recorded δ)} (drains : Drains before after)
    : Puts before octets (.error fault, after)

/-- Octets that go straight to the file when the buffer is empty. -/
theorem direct_spec (drains : Drains writer before)
    (equal : before.file.failures = writer.file.failures) (empty : before.buffer = [])
    : Puts writer octets
        ((device.recorded.accept before.file octets).1,
          { before with file := (device.recorded.accept before.file octets).2 }) := by
  have accepted : before.file.accepted = writer.sent := by
    rw [← drains.sent, sent, empty, List.append_nil]
  rcases taken : device.recorded.accept before.file octets with ⟨_ | n, state⟩
  · obtain ⟨same, more⟩ := accept_recorded_error taken
    refine .error ⟨?_, ?_, drains.fallen, Nat.le_trans drains.failures more⟩
    · rw [← accepted, ← same, sent, empty, List.append_nil]
    · exact drains.accepted.trans (same ▸ List.prefix_rfl)
  · obtain ⟨more, same⟩ := accept_recorded_ok taken
    refine .ok ⟨?_, ?_, drains.fallen, same.trans equal⟩
    · rw [← accepted, ← more, sent, empty, List.append_nil]
    · exact drains.accepted.trans (more ▸ List.prefix_append _ _)

/-- Octets that go into the buffer. -/
theorem buffered_spec (drains : Drains writer before)
    (equal : before.file.failures = writer.file.failures)
    : Puts writer octets
        (.ok octets.length, { before with buffer := before.buffer ++ octets }) := by
  refine .ok ⟨?_, drains.accepted, drains.fallen, equal⟩
  rw [List.take_length, ← drains.sent, sent, sent, List.append_assoc]

theorem put_spec (device : Device δ) (writer : Writer (Recorded δ)) (octets : List UInt8)
    : Puts writer octets (writer.put device.recorded octets) := by
  rw [put]
  split
  · exact buffered_spec .rfl rfl
  · split
    next made before room =>
    obtain ⟨drains, done⟩ := room_spec room
    cases made with
    | error fault => exact .error drains
    | ok ready =>
        obtain ⟨equal, empty⟩ := done rfl
        dsimp only
        split
        · next long => exact direct_spec drains equal (empty long)
        · exact buffered_spec drains equal

theorem takes_of_put {n : Nat} (put : writer.put device.recorded octets = (.ok n, after))
    : Takes writer (octets.take n) after := by
  have puts := put_spec device writer octets
  rw [put] at puts
  cases puts with
  | ok takes => exact takes

theorem drains_of_put {fault : String}
    (put : writer.put device.recorded octets = (.error fault, after))
    : Drains writer after := by
  have puts := put_spec device writer octets
  rw [put] at puts
  cases puts with
  | error drains => exact drains

/-- A file that takes something while it is fine takes some of what is put. -/
theorem put_of_takesSome {fine : Recorded δ → Prop} (takes : device.recorded.TakesSomeOf fine)
    (holds : fine writer.file) (filled : octets ≠ [])
    : ∃ n after, writer.put device.recorded octets = (.ok (n + 1), after) ∧ fine after.file := by
  obtain ⟨octet, rest, rfl⟩ := List.exists_cons_of_ne_nil filled
  rw [put]
  split
  · exact ⟨_, _, rfl, holds⟩
  · split
    next made before room =>
    have ready : made = .ok () ∧ fine before.file := by
      split at room
      · have flushed := flushBuffer_of_takesSome takes holds
        rwa [room] at flushed
      · cases room
        exact ⟨rfl, holds⟩
    obtain ⟨rfl, holds⟩ := ready
    dsimp only
    split
    · obtain ⟨n, state, taken, stays⟩ := takes before.file octet rest holds
      exact ⟨n, { before with file := state },
        congrArg (fun (result, file) => (result, { before with file })) taken, stays⟩
    · exact ⟨_, _, rfl, holds⟩

end Writer

end Courier.Log
