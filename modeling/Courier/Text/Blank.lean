/-! Blank characters and the trimming of texts. A character is blank when Unicode gives it the
property White_Space; zero-width characters are not blank.
-/

namespace Courier.Text

def isBlank (c : Char) : Bool :=
  let n := c.toNat
  (0x09 ≤ n && n ≤ 0x0D) || n == 0x20 || n == 0x85 || n == 0xA0 || n == 0x1680
    || (0x2000 ≤ n && n ≤ 0x200A) || n == 0x2028 || n == 0x2029 || n == 0x202F
    || n == 0x205F || n == 0x3000

/-- The characters without the blanks at both ends. -/
def trimChars (cs : List Char) : List Char :=
  ((cs.dropWhile isBlank).reverse.dropWhile isBlank).reverse

/-- The text without the blanks at both ends. -/
def trim (s : String) : String :=
  String.ofList (trimChars s.toList)

/-- A text is blank when all its characters are. -/
def isBlankText (s : String) : Bool :=
  s.toList.all isBlank

/-- The decimal digits `0` to `9`. -/
def isDigit (c : Char) : Bool :=
  '0' ≤ c && c ≤ '9'

/-- The text without its leading occurrences of one character. -/
def dropLeading (c : Char) (s : String) : String :=
  String.ofList (s.toList.dropWhile (· == c))

/-- The text without its trailing occurrences of one character. -/
def dropTrailing (c : Char) (s : String) : String :=
  String.ofList (s.toList.reverse.dropWhile (· == c)).reverse

def occursIn (part : List Char) : List Char → Bool
  | [] => part.isEmpty
  | c :: cs => part.isPrefixOf (c :: cs) || occursIn part cs

def splitOn (c : Char) : List Char → List (List Char)
  | [] => [[]]
  | x :: xs =>
    if x == c then [] :: splitOn c xs
    else match splitOn c xs with
      | [] => [[x]]
      | part :: parts => (x :: part) :: parts

/-- To occur inside a list is to stand between two parts of it. -/
theorem occursIn_iff (part cs : List Char) : occursIn part cs = true ↔ part <:+: cs := by
  induction cs with
  | nil => simp [occursIn]
  | cons c cs ih => simp [occursIn, ih, List.infix_cons_iff]

/-- Dropping a leading run leaves nothing exactly when the run is the whole list. -/
theorem dropWhile_eq_nil_iff (p : Char → Bool) (cs : List Char)
    : cs.dropWhile p = [] ↔ cs.all p = true := by
  induction cs with
  | nil => simp
  | cons c cs ih =>
    by_cases h : p c = true
    · simp [List.dropWhile, h, ih]
    · simp [List.dropWhile, h]

/-- What a dropped run leaves begins with another character, so it holds only such characters
when it is empty. -/
theorem all_of_all_dropWhile {p : Char → Bool} {cs : List Char}
    (h : (cs.dropWhile p).all p = true) : cs.all p = true := by
  induction cs with
  | nil => rfl
  | cons c cs ih =>
    by_cases hc : p c = true
    · simp only [List.dropWhile, hc] at h
      simp [hc, ih h]
    · simp [List.dropWhile, hc] at h

/-- Trimming leaves nothing exactly of the texts that are all blank. -/
theorem trimChars_eq_nil_iff (cs : List Char)
    : trimChars cs = [] ↔ cs.all isBlank = true := by
  rw [trimChars, List.reverse_eq_nil_iff, dropWhile_eq_nil_iff, List.all_reverse]
  exact ⟨all_of_all_dropWhile, fun h => by simp [(dropWhile_eq_nil_iff isBlank cs).mpr h]⟩

end Courier.Text
