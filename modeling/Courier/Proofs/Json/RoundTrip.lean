import Courier.Json.Reader
import Courier.Proofs.Json.Lexing

/-! The round trip of a value: its written form is read as the value with its objects sorted. The
reading is followed on the stack of open containers, which each value leaves as it was.
-/

namespace Courier.Json

mutual

/-- The form in which a value is held once it has been read: every object is sorted. -/
def held : Json → Json
  | .array items => .array (heldItems items)
  | .object members => ofMembers (heldMembers members)
  | .null => .null
  | .bool b => .bool b
  | .number n => .number n
  | .string s => .string s

def heldItems : List Json → List Json
  | [] => []
  | x :: xs => x.held :: heldItems xs

def heldMembers : List (String × Json) → List (String × Json)
  | [] => []
  | (name, x) :: ms => (name, x.held) :: heldMembers ms

end

/-- How a reading goes on after a step. -/
def resume (depth : Nat) : Step Frame Json → List Token → Except Fault (Json × List Token)
  | .done value, ts => .ok (value, ts)
  | .more stack want, ts => readValue depth stack want ts

theorem readValue_cons {depth : Nat} {stack : List Frame} {want : Want} {t : Token}
    {step : Step Frame Json} (taken : readStep depth stack want t = .ok step) (ts : List Token)
    : readValue depth stack want (t :: ts) = resume depth step ts := by
  simp only [readValue, runSteps, taken]
  cases step <;> rfl

/-- Where a first item may come, a value is read as anywhere else. -/
theorem readValue_firstItem (depth : Nat) (stack : List Frame) (j : Json) (ts : List Token)
    : readValue depth stack .firstItem (j.tokens ++ ts)
      = readValue depth stack .value (j.tokens ++ ts) := by
  cases j with
  | null => rfl
  | bool b => cases b <;> rfl
  | number n => cases n <;> rfl
  | string s => rfl
  | array items => cases items <;> rfl
  | object members => cases members <;> rfl

/-- At so many open containers, the tokens of a value are read as the value. -/
def ReadsAt (depth height : Nat) (j : Json) : Prop :=
  ∀ stack rest,
    stack.length = height
    → readValue depth stack .value (j.tokens ++ rest) = resume depth (addValue j.held stack) rest

/-- Items are read into the open array, by induction on the items. -/
theorem readValue_itemTokens {depth : Nat} {xs : List Json} (below : List Frame)
    (each : ∀ x ∈ xs, ReadsAt depth (below.length + 1) x) (read : List Json) (rest : List Token)
    : readValue depth (.array read :: below) .next (itemTokens xs ++ rest)
      = resume depth (addValue (.array (read.reverse ++ heldItems xs)) below) rest := by
  induction xs generalizing read with
  | nil =>
      rw [itemTokens, heldItems, List.append_nil, List.singleton_append]
      exact readValue_cons rfl rest
  | cons x xs ih =>
      have later := ih (fun x member => each x (List.mem_cons_of_mem _ member)) (x.held :: read)
      rw [itemTokens, List.cons_append, readValue_cons rfl, resume, List.append_assoc,
        each x (by simp) _ _ rfl, addValue, resume, Frame.add, later, heldItems]
      simp

/-- Members are read into the open object, by induction on the members. -/
theorem readValue_memberTokens {depth : Nat} {ms : List (String × Json)} (below : List Frame)
    (each : ∀ m ∈ ms, ReadsAt depth (below.length + 1) m.2) (read : List (String × Json))
    (name : String) (rest : List Token)
    : readValue depth (.object read name :: below) .next (memberTokens ms ++ rest)
      = resume depth (addValue (ofMembers (read.reverse ++ heldMembers ms)) below) rest := by
  induction ms generalizing read name with
  | nil =>
      rw [memberTokens, heldMembers, List.append_nil, List.singleton_append]
      exact readValue_cons rfl rest
  | cons m ms ih =>
      have later := ih (fun m member => each m (List.mem_cons_of_mem _ member))
        ((m.1, m.2.held) :: read) m.1
      have value := each m (by simp) (.object read m.1 :: below) (memberTokens ms ++ rest) rfl
      calc readValue depth (.object read name :: below) .next (memberTokens (m :: ms) ++ rest)
        _ = readValue depth (.object read m.1 :: below) .value
              (m.2.tokens ++ (memberTokens ms ++ rest)) := by
            rw [memberTokens, ← List.append_assoc]
            rfl
        _ = readValue depth (.object ((m.1, m.2.held) :: read) m.1 :: below) .next
              (memberTokens ms ++ rest) := value
        _ = resume depth (addValue (ofMembers (read.reverse ++ heldMembers (m :: ms))) below)
              rest := by
            rw [later, heldMembers, List.reverse_cons, List.append_assoc, List.singleton_append]

/-- A legible value is read where enough levels are left, by induction on it. -/
theorem Legible.readsAt {levels depth height : Nat} {j : Json} (legible : Legible levels j)
    (room : height + levels < depth)
    : ReadsAt depth height j := by
  induction legible generalizing height with
  | null => exact fun stack rest _ => readValue_cons rfl rest
  | bool b => cases b <;> exact fun stack rest _ => readValue_cons rfl rest
  | integer fits =>
      intro stack rest _
      refine readValue_cons ?_ rest
      simp only [readStep, Number.token, beginValue, toNumber_integerLiteral fits]
      rfl
  | string s => exact fun stack rest _ => readValue_cons rfl rest
  | @array levels items each ih =>
      intro stack rest same
      have inside (x) (member : x ∈ items) : ReadsAt depth (stack.length + 1) x :=
        ih x member (by omega)
      have opened : readStep depth stack .value .beginArray
          = .ok (.more (.array [] :: stack) .firstItem) := by
        simp only [readStep, beginValue]
        rw [if_pos (by omega)]
      cases items with
      | nil =>
          rw [tokens, List.cons_append, readValue_cons opened]
          exact readValue_cons rfl rest
      | cons x xs =>
          have later := readValue_itemTokens stack
            (fun x member => inside x (List.mem_cons_of_mem _ member)) [x.held] rest
          rw [tokens, List.cons_append, readValue_cons opened, resume, List.append_assoc,
            readValue_firstItem, inside x (by simp) _ _ rfl]
          exact later
  | @object levels members each ih =>
      intro stack rest same
      have inside (m) (member : m ∈ members) : ReadsAt depth (stack.length + 1) m.2 :=
        ih m member (by omega)
      have opened : readStep depth stack .value .beginObject
          = .ok (.more (.object [] "" :: stack) .firstMember) := by
        simp only [readStep, beginValue]
        rw [if_pos (by omega)]
      cases members with
      | nil =>
          rw [tokens, List.cons_append, readValue_cons opened]
          exact readValue_cons rfl rest
      | cons m ms =>
          have later := readValue_memberTokens stack
            (fun m member => inside m (List.mem_cons_of_mem _ member)) [(m.1, m.2.held)] m.1 rest
          have value := inside m (by simp) (.object [] m.1 :: stack) (memberTokens ms ++ rest) rfl
          rw [tokens, List.cons_append, readValue_cons opened, List.cons_append, List.cons_append,
            List.append_assoc]
          exact value.trans later

/-- Characters that have the tokens of a legible value are read as the value, with its objects
sorted. -/
theorem Legible.parse_of_spells {j : Json} {cs : List Char} (legible : Legible 127 j)
    (spells : Spells cs j.tokens)
    : parse (String.ofList cs) = .ok j.held := by
  have lexed : Token.ofChars (String.ofList cs).toList = j.tokens ++ [] := by
    simpa using spells [] endsNumber_nil
  have reads : ReadsAt depthLimit 0 j := legible.readsAt (by decide)
  have read : Reader.value 0 (j.tokens ++ []) = .ok (j.held, []) := reads [] [] rfl
  rw [parse, Reader.run, lexed, read]
  rfl

/-- The compact form of a legible value is read as the value, with its objects sorted. -/
theorem parse_compact {j : Json} (legible : Legible 127 j) : parse j.compact = .ok j.held :=
  legible.parse_of_spells legible.spells_compact

end Courier.Json
