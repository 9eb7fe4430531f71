import Courier.Proofs.Json.Stored

/-! The round trip of the indented form. Between two tokens the printer writes line breaks and
blanks, which a lexer skips, so the indented form of a value has the tokens of the compact one and
is read as the same value.
-/

namespace Courier.Json

-----------------------------------------------------------------------------------------
-- Line breaks and blanks are skipped
-----------------------------------------------------------------------------------------

namespace Token

theorem ofChars_space {c : Char} (space : isSpace c = true) (cs : List Char)
    : ofChars (c :: cs) = ofChars cs := by
  simp [ofChars, ofCharsWithin, space]

theorem ofChars_blanks (n : Nat) (cs : List Char)
    : ofChars (List.replicate n ' ' ++ cs) = ofChars cs := by
  induction n with
  | zero => rfl
  | succ n ih => rw [List.replicate_succ, List.cons_append, ofChars_space rfl, ih]

@[simp] theorem ofChars_newLine (level : Nat) (cs : List Char)
    : ofChars (newLine level ++ cs) = ofChars cs := by
  rw [newLine, List.cons_append, ofChars_space rfl, ofChars_blanks]

@[simp] theorem ofChars_blank (cs : List Char) : ofChars (' ' :: cs) = ofChars cs :=
  ofChars_space rfl cs

end Token

-----------------------------------------------------------------------------------------
-- The indented form has the tokens of the value
-----------------------------------------------------------------------------------------

section Spelling

variable (level : Nat)

theorem endsNumber_newLine (rest : List Char) : EndsNumber (newLine level ++ rest) :=
  endsNumber_cons (by decide)

theorem endsNumber_prettyItems (xs : List Json) (rest : List Char)
    : EndsNumber (prettyItems level xs ++ rest) := by
  cases xs with
  | nil =>
      rw [prettyItems, List.append_assoc]
      exact endsNumber_newLine level _
  | cons x xs => exact endsNumber_cons (by decide)

theorem endsNumber_prettyMembers (ms : List (String × Json)) (rest : List Char)
    : EndsNumber (prettyMembers level ms ++ rest) := by
  cases ms with
  | nil =>
      rw [prettyMembers, List.append_assoc]
      exact endsNumber_newLine level _
  | cons m ms => exact endsNumber_cons (by decide)

/-- Items are spelled line by line when each of them is, by induction on the items. -/
theorem spells_prettyItems {xs : List Json}
    (each : ∀ x ∈ xs, Spells (x.prettyChars (level + 1)) x.tokens)
    : Spells (prettyItems level xs) (itemTokens xs) := by
  intro rest ends
  induction xs with
  | nil => simp [prettyItems, itemTokens]
  | cons x xs ih =>
      have first := each x (by simp) _ (endsNumber_prettyItems level xs rest)
      have later := ih (fun x member => each x (List.mem_cons_of_mem _ member))
      simp [prettyItems, itemTokens, first, later]

/-- Members are spelled line by line when their values are, by induction on the members. -/
theorem spells_prettyMembers {ms : List (String × Json)}
    (each : ∀ m ∈ ms, Spells (m.2.prettyChars (level + 1)) m.2.tokens)
    : Spells (prettyMembers level ms) (memberTokens ms) := by
  intro rest ends
  induction ms with
  | nil => simp [prettyMembers, memberTokens]
  | cons m ms ih =>
      have first := each m (by simp) _ (endsNumber_prettyMembers level ms rest)
      have later := ih (fun m member => each m (List.mem_cons_of_mem _ member))
      simp [prettyMembers, memberTokens, Token.ofChars_quoteChars, first, later]

end Spelling

/-- The indented form of a legible value has the tokens of the value, by induction on it, at every
level that it may stand at. -/
theorem Legible.spells_pretty {levels : Nat} {j : Json} (legible : Legible levels j) (level : Nat)
    : Spells (j.prettyChars level) j.tokens := by
  intro rest ends
  induction legible generalizing level rest with
  | null => exact Token.ofChars_token rfl rfl
  | bool b => cases b <;> exact Token.ofChars_token rfl rfl
  | integer fits => exact Token.ofChars_integerChars _ ends
  | string s => simp [prettyChars, tokens, Token.ofChars_quoteChars]
  | @array levels items each ih =>
      cases items with
      | nil => simp [prettyChars, tokens]
      | cons x xs =>
          have first := ih x (by simp) (level + 1) _ (endsNumber_prettyItems level xs rest)
          have later := spells_prettyItems level
            (fun x member => ih x (List.mem_cons_of_mem _ member) (level + 1))
          simp [prettyChars, tokens, first, later rest ends]
  | @object levels members each ih =>
      cases members with
      | nil => simp [prettyChars, tokens]
      | cons m ms =>
          have first := ih m (by simp) (level + 1) _ (endsNumber_prettyMembers level ms rest)
          have later := spells_prettyMembers level
            (fun m member => ih m (List.mem_cons_of_mem _ member) (level + 1))
          simp [prettyChars, tokens, Token.ofChars_quoteChars, first, later rest ends]

-----------------------------------------------------------------------------------------
-- What is printed is read as the value
-----------------------------------------------------------------------------------------

/-- The indented form of a legible value is read as the value, with its objects sorted. -/
theorem parse_pretty {j : Json} (legible : Legible 127 j) : parse j.pretty = .ok j.held :=
  legible.parse_of_spells (legible.spells_pretty 0)

/-- What has been read from a text, and has no other numbers than integers, is read again from its
indented form. -/
theorem Stored.parse_pretty {j : Json} (stored : Stored 127 j) (integral : j.Integral)
    : parse j.pretty = .ok j := by
  rw [Json.parse_pretty (stored.legible integral), stored.held_eq]

/-- Members that are plain make a document that is read again from its indented form. -/
theorem parse_pretty_ofMembers {members : List (String × Json)}
    (plain : ∀ member ∈ members, Legible 0 member.2)
    : parse (ofMembers members).pretty = .ok (ofMembers members) := by
  have stored : Stored 127 (ofMembers members) :=
    .ofMembers fun member among => (plain member among).stored 126
  exact stored.parse_pretty
    (.object fun member among => (plain member (mem_of_mem_sortMembers among)).integral)

/-- Containers in a container, each item on its line, and empty ones on the line that they begin. -/
example
    : (Json.object [("a", .array [.array [], .object []])]).pretty
      = "\x7b\n  \"a\": [\n    [],\n    \x7b\x7d\n  ]\n\x7d" := by
  rfl

end Courier.Json
