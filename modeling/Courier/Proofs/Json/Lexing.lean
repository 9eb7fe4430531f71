import Courier.Proofs.Json.Spelling

/-! The tokens of a text, character by character. A token takes at least its first character, so
the count that bounds the tokens of a text is never met, and the tokens of what the printer writes
are the tokens of the value.
-/

namespace Courier.Json

open Courier.Text (isDigit)

-----------------------------------------------------------------------------------------
-- A token takes characters from the front
-----------------------------------------------------------------------------------------

namespace Token

/-- A skipped string takes its closing quote at least, by induction along the string. -/
theorem length_skipString {cs rest : List Char} (ends : skipString cs = .ok rest)
    : rest.length < cs.length := by
  fun_induction skipString cs <;> simp_all <;> omega

theorem length_afterWord {letters cs rest : List Char} (ends : afterWord letters cs = .ok rest)
    : rest.length ≤ cs.length := by
  fun_induction afterWord letters cs <;> simp_all; omega

end Token

theorem length_span_snd (p : Char → Bool) (cs : List Char) : (cs.span p).2.length ≤ cs.length := by
  rw [List.span_eq_takeWhile_dropWhile]
  exact (List.dropWhile_sublist p).length_le

namespace Literal

theorem length_scanPower (negative : Bool) (whole fraction : List Char) (down : Bool)
    (cs : List Char)
    : (scanPower negative whole fraction down cs).2.length ≤ cs.length := by
  have shorter := length_span_snd isDigit cs
  rw [scanPower]
  split <;> simp_all [lacking]

theorem length_scanExponent (negative : Bool) (whole fraction : List Char) (integral : Bool)
    (cs : List Char)
    : (scanExponent negative whole fraction integral cs).2.length ≤ cs.length := by
  have power := length_scanPower negative whole fraction
  fun_cases scanExponent negative whole fraction integral cs
  · simp
  · exact Nat.le_trans (power true _) (by simp only [List.length_cons]; omega)
  · exact Nat.le_trans (power false _) (by simp only [List.length_cons]; omega)
  · exact Nat.le_trans (power false _) (by simp)
  · simp

theorem length_scanFraction (negative : Bool) (whole cs : List Char)
    : (scanFraction negative whole cs).2.length ≤ cs.length := by
  fun_cases scanFraction negative whole cs with
  | case1 cs rest split =>
      have shorter := length_span_snd isDigit cs
      simp only [split] at shorter
      simp only [lacking, List.length_cons]
      omega
  | case2 cs digits rest _ split =>
      have shorter := length_span_snd isDigit cs
      have exponent := length_scanExponent negative whole digits false rest
      simp only [split] at shorter
      simp only [List.length_cons]
      omega
  | case3 => exact length_scanExponent ..

theorem length_scanWhole (negative : Bool) (cs : List Char)
    : (scanWhole negative cs).2.length ≤ (cs.dropWhile isDigit).length := by
  rw [scanWhole, List.span_eq_takeWhile_dropWhile]
  split
  · next split => simp_all [lacking]
  · next split => simp_all
  · next whole rest _ _ split =>
      rw [(Prod.mk.inj split).2]
      exact length_scanFraction negative whole rest

/-- A spelling takes the character that announced a number, a digit or a minus sign. -/
theorem length_scan {c : Char} (cs : List Char) (announced : (c == '-' || isDigit c) = true)
    : (scan (c :: cs)).2.length ≤ cs.length := by
  have shorter := (List.dropWhile_sublist isDigit (l := cs)).length_le
  by_cases minus : c = '-'
  · subst minus
    exact Nat.le_trans (length_scanWhole true cs) shorter
  · have digit : isDigit c = true := by simpa [minus] using announced
    have scanned : scan (c :: cs) = scanWhole false (c :: cs) := by
      rw [scan]
      rintro _ ⟨rfl, rfl⟩
      exact minus rfl
    rw [scanned]
    refine Nat.le_trans (length_scanWhole false (c :: cs)) ?_
    simpa [digit] using shorter

end Literal

namespace Token

theorem length_nextWord (word : Word) (letters cs : List Char)
    : (nextWord word letters cs).2.length ≤ cs.length := by
  rw [nextWord]
  split
  · next ends => exact length_afterWord ends
  · exact Nat.zero_le _

theorem length_nextString (cs : List Char) : (nextString cs).2.length ≤ cs.length := by
  rw [nextString]
  split
  · next ends => exact Nat.le_of_lt (length_skipString ends)
  · exact Nat.zero_le _

theorem length_nextNumber {c : Char} (cs : List Char) (announced : (c == '-' || isDigit c) = true)
    : (nextNumber (c :: cs)).2.length ≤ cs.length := by
  rw [nextNumber]
  dsimp only
  split
  · exact Nat.zero_le _
  · exact Literal.length_scan cs announced

/-- A choice takes characters from the front when each of its branches does. -/
theorem length_ite {condition : Prop} [Decidable condition] {first second : Token × List Char}
    {bound : Nat} (length_first : condition → first.2.length ≤ bound)
    (length_second : second.2.length ≤ bound)
    : (if condition then first else second).2.length ≤ bound := by
  by_cases holds : condition
  · rw [if_pos holds]
    exact length_first holds
  · rw [if_neg holds]
    exact length_second

/-- A token takes the character that it is known by. -/
theorem length_next (c : Char) (cs : List Char) : (next c cs).2.length ≤ cs.length := by
  rw [next]
  iterate 6 refine length_ite (fun _ => Nat.le_refl _) ?_
  iterate 3 refine length_ite (fun _ => length_nextWord _ _ cs) ?_
  refine length_ite (fun _ => length_nextString cs) ?_
  exact length_ite (length_nextNumber cs) (Nat.zero_le _)

/-- A bound on the tokens of a text that is no less than its length is no limit: two such bounds
give the same tokens, by induction on the first.
-/
theorem ofCharsWithin_eq {fuel more : Nat} {cs : List Char} (enough : cs.length ≤ fuel)
    (plenty : cs.length ≤ more)
    : ofCharsWithin fuel cs = ofCharsWithin more cs := by
  induction fuel generalizing more cs with
  | zero =>
      have empty : cs = [] := List.length_eq_zero_iff.mp (by omega)
      subst empty
      cases more <;> rfl
  | succ fuel ih =>
      cases cs with
      | nil => cases more <;> rfl
      | cons c cs =>
          cases more with
          | zero => simp at plenty
          | succ more =>
              simp only [List.length_cons] at enough plenty
              have shorter := length_next c cs
              simp only [ofCharsWithin]
              split
              · exact ih (by omega) (by omega)
              · exact congrArg _ (ih (by omega) (by omega))

@[simp] theorem ofChars_nil : ofChars [] = [] := rfl

/-- A text that does not begin with a space has its first token and those of what is behind it. -/
theorem ofChars_token {c : Char} {cs rest : List Char} {token : Token}
    (visible : isSpace c = false) (first : next c cs = (token, rest))
    : ofChars (c :: cs) = token :: ofChars rest := by
  have shorter := length_next c cs
  rw [first] at shorter
  simp only [ofChars, List.length_cons, ofCharsWithin, visible, first]
  simp [ofCharsWithin_eq shorter (Nat.le_refl _)]

section Marks

variable (cs : List Char)

@[simp] theorem ofChars_beginArray : ofChars ('[' :: cs) = .beginArray :: ofChars cs :=
  ofChars_token rfl rfl

@[simp] theorem ofChars_endArray : ofChars (']' :: cs) = .endArray :: ofChars cs :=
  ofChars_token rfl rfl

@[simp] theorem ofChars_beginObject : ofChars ('{' :: cs) = .beginObject :: ofChars cs :=
  ofChars_token rfl rfl

@[simp] theorem ofChars_endObject : ofChars ('}' :: cs) = .endObject :: ofChars cs :=
  ofChars_token rfl rfl

@[simp] theorem ofChars_comma : ofChars (',' :: cs) = .comma :: ofChars cs :=
  ofChars_token rfl rfl

@[simp] theorem ofChars_colon : ofChars (':' :: cs) = .colon :: ofChars cs :=
  ofChars_token rfl rfl

end Marks

/-- A string in quotes is one token, which holds the string and can be skipped. -/
theorem ofChars_quoteChars (s rest : List Char)
    : ofChars (quoteChars s ++ rest) = .string (.ok (String.ofList s)) none :: ofChars rest := by
  have inside : s.flatMap escape ++ ['"'] ++ rest = s.flatMap escape ++ '"' :: rest := by simp
  have string : nextString (s.flatMap escape ++ '"' :: rest)
      = (.string (.ok (String.ofList s)) none, rest) := by
    rw [nextString, stringChars_flatMap, skipString_flatMap]
    rfl
  rw [quoteChars, List.cons_append, inside]
  exact ofChars_token rfl string

theorem next_number {c : Char} (announced : (c == '-' || isDigit c) = true) (cs : List Char)
    : isSpace c = false ∧ next c cs = nextNumber (c :: cs) := by
  have other (mark : Char) (plain : (mark == '-' || isDigit mark) = false)
      : (c == mark) = false := by
    rw [beq_eq_false_iff_ne]
    rintro rfl
    exact Bool.false_ne_true (plain.symm.trans announced)
  constructor
  · simp only [isSpace, other ' ' rfl, other '\n' rfl, other '\t' rfl, other '\r' rfl, Bool.or_self]
  · simp only [next, other '[' rfl, other ']' rfl, other '{' rfl, other '}' rfl, other ',' rfl,
      other ':' rfl, other 'n' rfl, other 't' rfl, other 'f' rfl, other '"' rfl, announced,
      Bool.false_eq_true, if_false, if_true]

theorem integerChars_announced (i : Int)
    : ∃ c cs, integerChars i = c :: cs ∧ (c == '-' || isDigit c) = true := by
  cases i with
  | ofNat n =>
      obtain ⟨d, ds, spelled, -⟩ := toDigits_leading n
      have digit : isDigit d = true := isDigit_of_mem_toDigits (n := n) (by simp [spelled])
      exact ⟨d, ds, spelled, by simp [digit]⟩
  | negSucc n => exact ⟨'-', _, rfl, rfl⟩

theorem ofChars_integerChars (i : Int) {rest : List Char} (ends : EndsNumber rest)
    : ofChars (integerChars i ++ rest) = .number (integerLiteral i) :: ofChars rest := by
  obtain ⟨c, cs, spelled, announced⟩ := integerChars_announced i
  have scanned := scan_integerChars i ends
  rw [spelled, List.cons_append] at scanned ⊢
  obtain ⟨visible, first⟩ := next_number announced (cs ++ rest)
  refine ofChars_token visible ?_
  rw [first, nextNumber, scanned]
  rfl

end Token

-----------------------------------------------------------------------------------------
-- The tokens of a value
-----------------------------------------------------------------------------------------

/-- A value that is read as it was written: its numbers are integers that fit into 64 bits, and it
has at most so many levels of containers.
-/
inductive Legible : Nat → Json → Prop
  | null {levels} : Legible levels .null
  | bool {levels} (b : Bool) : Legible levels (.bool b)
  | integer {levels i} (fits : IsWord i) : Legible levels (.number (.integer i))
  | string {levels} (s : String) : Legible levels (.string s)
  | array {levels items} (each : ∀ item ∈ items, Legible levels item)
    : Legible (levels + 1) (.array items)
  | object {levels members} (each : ∀ member ∈ members, Legible levels member.2)
    : Legible (levels + 1) (.object members)

def Number.token : Number → Token
  | .integer i => .number (integerLiteral i)
  | .float negative x => .number (Literal.scan (Number.float negative x).chars).1

mutual

def tokens : Json → List Token
  | .null => [.word .null none]
  | .bool true => [.word .true none]
  | .bool false => [.word .false none]
  | .number n => [n.token]
  | .string s => [.string (.ok s) none]
  | .array [] => [.beginArray, .endArray]
  | .array (x :: xs) => .beginArray :: (x.tokens ++ itemTokens xs)
  | .object [] => [.beginObject, .endObject]
  | .object ((name, x) :: ms) =>
    .beginObject :: .string (.ok name) none :: .colon :: (x.tokens ++ memberTokens ms)

/-- The tokens of the items after the first, up to the closing bracket. -/
def itemTokens : List Json → List Token
  | [] => [.endArray]
  | x :: xs => .comma :: (x.tokens ++ itemTokens xs)

/-- The tokens of the members after the first, up to the closing brace. -/
def memberTokens : List (String × Json) → List Token
  | [] => [.endObject]
  | (name, x) :: ms =>
    .comma :: .string (.ok name) none :: .colon :: (x.tokens ++ memberTokens ms)

end

/-- Characters have these tokens in front of everything that does not go on with a number. -/
def Spells (cs : List Char) (ts : List Token) : Prop :=
  ∀ rest, EndsNumber rest → Token.ofChars (cs ++ rest) = ts ++ Token.ofChars rest

theorem endsNumber_compactItems (xs : List Json) (rest : List Char)
    : EndsNumber (compactItems xs ++ rest) := by
  cases xs with
  | nil => exact endsNumber_cons (by decide)
  | cons x xs => exact endsNumber_cons (by decide)

theorem endsNumber_compactMembers (ms : List (String × Json)) (rest : List Char)
    : EndsNumber (compactMembers ms ++ rest) := by
  cases ms with
  | nil => exact endsNumber_cons (by decide)
  | cons m ms => exact endsNumber_cons (by decide)

/-- Items are spelled one after another when each of them is, by induction on the items. -/
theorem spells_compactItems {xs : List Json} (each : ∀ x ∈ xs, Spells x.compactChars x.tokens)
    : Spells (compactItems xs) (itemTokens xs) := by
  intro rest ends
  induction xs with
  | nil => simp [compactItems, itemTokens]
  | cons x xs ih =>
      have first := each x (by simp) _ (endsNumber_compactItems xs rest)
      have later := ih (fun x member => each x (List.mem_cons_of_mem _ member))
      simp [compactItems, itemTokens, first, later]

/-- Members are spelled one after another when their values are, by induction on the members. -/
theorem spells_compactMembers {ms : List (String × Json)}
    (each : ∀ m ∈ ms, Spells m.2.compactChars m.2.tokens)
    : Spells (compactMembers ms) (memberTokens ms) := by
  intro rest ends
  induction ms with
  | nil => simp [compactMembers, memberTokens]
  | cons m ms ih =>
      have first := each m (by simp) _ (endsNumber_compactMembers ms rest)
      have later := ih (fun m member => each m (List.mem_cons_of_mem _ member))
      simp [compactMembers, memberTokens, Token.ofChars_quoteChars, first, later]

/-- The compact form of a legible value has the tokens of the value, by induction on it. -/
theorem Legible.spells_compact {levels : Nat} {j : Json} (legible : Legible levels j)
    : Spells j.compactChars j.tokens := by
  intro rest ends
  induction legible generalizing rest with
  | null => exact Token.ofChars_token rfl rfl
  | bool b => cases b <;> exact Token.ofChars_token rfl rfl
  | integer fits => exact Token.ofChars_integerChars _ ends
  | string s => simp [compactChars, tokens, Token.ofChars_quoteChars]
  | @array levels items each ih =>
      cases items with
      | nil => simp [compactChars, tokens]
      | cons x xs =>
          have first := ih x (by simp) _ (endsNumber_compactItems xs rest)
          have later := spells_compactItems (fun x member => ih x (List.mem_cons_of_mem _ member))
          simp [compactChars, tokens, first, later rest ends]
  | @object levels members each ih =>
      cases members with
      | nil => simp [compactChars, tokens]
      | cons m ms =>
          have first := ih m (by simp) _ (endsNumber_compactMembers ms rest)
          have later := spells_compactMembers (fun m member => ih m (List.mem_cons_of_mem _ member))
          simp [compactChars, tokens, Token.ofChars_quoteChars, first, later rest ends]

end Courier.Json
