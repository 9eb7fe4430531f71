import Courier.Proofs.Phone

/-! Notations of telephone numbers. What divides a number says nothing, a normal form is its own,
and a national number is dialled alike in all its notations. The digits that are dialled for a
number are told from its own and from the country code.
-/

namespace Courier.Phone

open Courier.Text

-----------------------------------------------------------------------------------------
-- Normal forms
-----------------------------------------------------------------------------------------

/-- The characters of a number without those that only divide it. -/
def undivided (raw : String) : List Char := raw.toList.filter (!isSeparator ·)

/-- A country code with nothing in it that divides. -/
def IsSolid (code : String) : Prop := ∀ c ∈ code.toList, isSeparator c = false

instance decidableIsSolid (code : String) : Decidable (IsSolid code) :=
  decidable_of_iff (code.toList.all (!isSeparator ·) = true) (by simp [IsSolid])

theorem normalizeChars?_eq_some_iff {code cs : List Char} {raw : String}
    : normalizeChars? code raw.toList = some cs
      ↔ undivided raw ≠ [] ∧ internationalChars code (undivided raw) = cs := by
  rw [normalizeChars?, filter_trimChars, undivided]
  cases raw.toList.filter (!isSeparator ·) with
  | nil => simp
  | cons c rest => simp

theorem normalize?_eq_some_iff {raw code normal : String}
    : normalize? raw code = some normal
      ↔ undivided raw ≠ []
        ∧ internationalChars code.toList (undivided raw) = normal.toList := by
  rw [normalize?, Option.map_eq_some_iff]
  constructor
  · rintro ⟨cs, found, rfl⟩
    rwa [String.toList_ofList, ← normalizeChars?_eq_some_iff]
  · intro formed
    exact ⟨normal.toList, normalizeChars?_eq_some_iff.mpr formed, String.ofList_toList⟩

/-- Nothing is left of a number exactly when it has no normal form. -/
theorem normalize?_eq_none_iff {raw code : String}
    : normalize? raw code = none ↔ undivided raw = [] := by
  rw [normalize?, Option.map_eq_none_iff, normalizeChars?, filter_trimChars, undivided]
  cases raw.toList.filter (!isSeparator ·) with
  | nil => simp
  | cons c rest => simp

/-- The international form of characters has an international form of its own, which is itself. -/
theorem internationalChars_idem (code cs : List Char)
    : internationalChars code (internationalChars code cs) = internationalChars code cs := by
  have forms := internationalChars_forms code cs
  generalize formed : internationalChars code cs = form at forms
  cases forms with
  | signed | zeroed | coded | national => rfl
  | unknown => exact formed

/-- The international form of undivided characters is undivided. -/
theorem filter_internationalChars {code cs : List Char}
    (solid : ∀ c ∈ code, isSeparator c = false) (whole : ∀ c ∈ cs, isSeparator c = false)
    : (internationalChars code cs).filter (!isSeparator ·) = internationalChars code cs := by
  have plus : isSeparator '+' = false := by decide
  have forms := internationalChars_forms code cs
  generalize internationalChars code cs = form at forms
  simp only [List.filter_eq_self, Bool.not_eq_true']
  cases forms with
  | signed | unknown => exact whole
  | zeroed rest =>
      have later := (List.forall_mem_cons.mp whole).2
      exact List.forall_mem_cons.mpr ⟨plus, List.forall_mem_append.mpr ⟨solid, later⟩⟩
  | coded => exact List.forall_mem_cons.mpr ⟨plus, whole⟩
  | national =>
      exact List.forall_mem_cons.mpr ⟨plus, List.forall_mem_append.mpr ⟨solid, whole⟩⟩

theorem internationalChars_ne_nil {code cs : List Char} (filled : cs ≠ [])
    : internationalChars code cs ≠ [] := by
  have forms := internationalChars_forms code cs
  generalize internationalChars code cs = form at forms
  cases forms with
  | signed | zeroed | coded | national => exact List.cons_ne_nil _ _
  | unknown => exact filled

/-- A normal form is its own normal form. -/
theorem normalize?_idem {raw code normal : String} (solid : IsSolid code)
    (found : normalize? raw code = some normal)
    : normalize? normal code = some normal := by
  obtain ⟨filled, formed⟩ := normalize?_eq_some_iff.mp found
  have whole : ∀ c ∈ undivided raw, isSeparator c = false :=
    fun c among => by simpa using (List.mem_filter.mp among).2
  have kept : undivided normal = internationalChars code.toList (undivided raw) := by
    rw [undivided, ← formed]
    exact filter_internationalChars solid whole
  refine normalize?_eq_some_iff.mpr ⟨?_, ?_⟩
  · rw [kept]
    exact internationalChars_ne_nil filled
  · rw [kept, internationalChars_idem]
    exact formed

-----------------------------------------------------------------------------------------
-- What is dialled of a number
-----------------------------------------------------------------------------------------

/-- The digits that characters stand for: those behind a plus sign as they are, others expanded. -/
def normalDigits (code cs : List Char) : List Char :=
  if cs.head? = some '+' then cs.tail else expand code cs

/-- Characters that are a number: digits behind one plus sign at most, which stand for seven to
fifteen digits. -/
structure IsNumber (code : String) (cs : List Char) : Prop where
  spelled : ∃ ds, ds ≠ [] ∧ (∀ d ∈ ds, isDigit d = true) ∧ (cs = ds ∨ cs = '+' :: ds)
  longEnough : 7 ≤ (normalDigits code.toList cs).length
  shortEnough : (normalDigits code.toList cs).length ≤ 15

/-- More than one plus sign is in front. -/
def IsTwiceSigned (cs : List Char) : Prop := ['+', '+'] <+: cs

instance decidableIsTwiceSigned (cs : List Char) : Decidable (IsTwiceSigned cs) :=
  inferInstanceAs (Decidable (['+', '+'] <+: cs))

section Spelled

variable {code : String} {cs ds : List Char}

theorem normalDigits_signed (code ds : List Char) : normalDigits code ('+' :: ds) = ds :=
  if_pos rfl

theorem normalDigits_of_digits (code : List Char) (digits : ∀ d ∈ ds, isDigit d = true)
    : normalDigits code ds = expand code ds :=
  if_neg (unsigned_of_digits digits)

/-- One plus sign in front of digits is the only one. -/
theorem not_isTwiceSigned_of_spelled (digits : ∀ d ∈ ds, isDigit d = true)
    (spelled : cs = ds ∨ cs = '+' :: ds)
    : ¬ IsTwiceSigned cs := by
  rintro ⟨rest, rfl⟩
  have second : '+' ∈ ds := by
    rcases spelled with same | same
    · simp [← same]
    · simp [← (List.cons.inj same).2]
  exact absurd (digits '+' second) (by decide)

/-- Digits with one plus sign in front of them, or none, are dialled as the digits that they stand
for. -/
theorem dropWhile_internationalChars_of_spelled (isCode : IsCountryCode code)
    (digits : ∀ d ∈ ds, isDigit d = true) (spelled : cs = ds ∨ cs = '+' :: ds)
    : (internationalChars code.toList cs).dropWhile (· == '+') = normalDigits code.toList cs := by
  rcases spelled with rfl | rfl
  · rw [normalDigits_of_digits _ digits]
    exact dropWhile_internationalChars isCode.digits digits
  · rw [normalDigits_signed, internationalChars, List.dropWhile_cons_of_pos (by rfl)]
    exact dropWhile_plus digits

theorem isDigit_of_mem_normalDigits (isCode : IsCountryCode code)
    (digits : ∀ d ∈ ds, isDigit d = true) (spelled : cs = ds ∨ cs = '+' :: ds)
    : ∀ d ∈ normalDigits code.toList cs, isDigit d = true := by
  rcases spelled with rfl | rfl
  · rw [normalDigits_of_digits _ digits]
    exact isDigit_of_mem_expand isCode.digits digits
  · rwa [normalDigits_signed]

theorem isDigit_of_isDialable (dials : isDialable cs = true) : ∀ c ∈ cs, isDigit c = true := by
  simp only [isDialable, Bool.and_eq_true, List.all_eq_true] at dials
  exact dials.2

/-- Characters of which a number is dialled are digits, one by one, with one plus sign in front of
them or none, unless there are more signs. -/
theorem spelled_of_isDialable (isCode : IsCountryCode code) (once : ¬ IsTwiceSigned cs)
    (dials : isDialable ((internationalChars code.toList cs).dropWhile (· == '+')) = true)
    : ∃ ds, (∀ d ∈ ds, isDigit d = true) ∧ (cs = ds ∨ cs = '+' :: ds) := by
  have digits := isDigit_of_isDialable dials
  have forms := internationalChars_forms code.toList cs
  generalize internationalChars code.toList cs = form at forms digits
  cases forms with
  | signed rest =>
      have unsigned : rest.head? ≠ some '+' := by
        intro first
        obtain ⟨others, rfl⟩ := List.head?_eq_some_iff.mp first
        exact once ⟨others, rfl⟩
      rw [List.dropWhile_cons_of_pos (by rfl), dropWhile_plus_of_unsigned unsigned] at digits
      exact ⟨rest, digits, .inr rfl⟩
  | zeroed rest =>
      -- the digits of the country code stop the signs from being dropped any further
      have unsigned : (code.toList ++ rest).head? ≠ some '+' := by
        have filled : code.toList ≠ [] := List.ne_nil_of_length_pos isCode.filled
        obtain ⟨first, others, whole⟩ := List.exists_cons_of_ne_nil filled
        have front := unsigned_of_digits isCode.digits
        rw [whole] at front ⊢
        exact front
      rw [List.dropWhile_cons_of_pos (by rfl), dropWhile_plus_of_unsigned unsigned,
        List.forall_mem_append] at digits
      exact ⟨'0' :: rest, List.forall_mem_cons.mpr ⟨rfl, digits.2⟩, .inl rfl⟩
  | coded unsigned _ _ =>
      rw [List.dropWhile_cons_of_pos (by rfl), dropWhile_plus_of_unsigned unsigned] at digits
      exact ⟨cs, digits, .inl rfl⟩
  | national _ _ _ _ own => exact ⟨cs, own, .inl rfl⟩
  | unknown unsigned _ _ _ =>
      rw [dropWhile_plus_of_unsigned unsigned] at digits
      exact ⟨cs, digits, .inl rfl⟩

end Spelled

/-- Of characters with one plus sign at most in front, exactly the numbers are dialled, with the
digits that they stand for. -/
theorem digits_eq_ok_iff_isNumber {raw code number : String} (isCode : IsCountryCode code)
    (once : ¬ IsTwiceSigned (undivided raw))
    : digits raw code = .ok number
      ↔ IsNumber code (undivided raw)
        ∧ number.toList = normalDigits code.toList (undivided raw) := by
  rw [digits_eq_ok_iff]
  constructor
  · rintro ⟨cs, formed, dials, rfl⟩
    obtain ⟨filled, rfl⟩ := normalizeChars?_eq_some_iff.mp formed
    obtain ⟨ds, digits, spelled⟩ := spelled_of_isDialable isCode once dials
    have same := dropWhile_internationalChars_of_spelled isCode digits spelled
    have bounds := (isDialable_iff (isDigit_of_isDialable dials)).mp dials
    rw [same] at bounds
    rw [String.toList_ofList, same]
    refine ⟨⟨⟨ds, ?_, digits, spelled⟩, bounds.1, bounds.2⟩, rfl⟩
    rintro rfl
    rcases spelled with empty | empty
    · exact filled empty
    · simp [normalDigits, empty] at bounds
  · rintro ⟨⟨⟨ds, filled, digits, spelled⟩, longEnough, shortEnough⟩, same⟩
    have dialled := dropWhile_internationalChars_of_spelled isCode digits spelled
    have given : undivided raw ≠ [] := by
      rcases spelled with whole | whole
      · exact whole ▸ filled
      · exact whole ▸ List.cons_ne_nil _ _
    refine ⟨_, normalizeChars?_eq_some_iff.mpr ⟨given, rfl⟩, ?_, ?_⟩
    · rw [dialled, isDialable_iff (isDigit_of_mem_normalDigits isCode digits spelled)]
      exact ⟨longEnough, shortEnough⟩
    · rw [dialled, ← same, String.ofList_toList]

-----------------------------------------------------------------------------------------
-- National numbers
-----------------------------------------------------------------------------------------

/-- A national number: ten digits, of which the first is not zero. -/
structure IsNational (number : String) : Prop where
  length : number.length = 10
  digits : ∀ d ∈ number.toList, isDigit d = true
  unzeroed : number.toList.head? ≠ some '0'

instance decidableIsNational (number : String) : Decidable (IsNational number) :=
  decidable_of_iff
    (number.length = 10 ∧ number.toList.all isDigit = true ∧ number.toList.head? ≠ some '0')
    ⟨fun is => ⟨is.1, List.all_eq_true.mp is.2.1, is.2.2⟩,
      fun is => ⟨is.length, List.all_eq_true.mpr is.digits, is.unzeroed⟩⟩

/-- The notations in which a national number is dialled with its country code. By itself it may look
like one that begins with the code already, and then it is dialled as it is. -/
structure Notations (code national : String) : Prop where
  zeroed : digits ("0" ++ national) code = .ok (code ++ national)
  signed : digits ("+" ++ code ++ national) code = .ok (code ++ national)
  coded
    : code.toList.head? ≠ some '0' → digits (code ++ national) code = .ok (code ++ national)
  plain_iff
    : digits national code = .ok (code ++ national) ↔ ¬ code.toList <+: national.toList
  plain : code.toList <+: national.toList → digits national code = .ok national

/-- A number that is spelled without separators is dialled as the digits that it stands for. -/
theorem digits_of_spelled {raw code number : String} {ds : List Char}
    (isCode : IsCountryCode code) (digits : ∀ d ∈ ds, isDigit d = true)
    (spelled : raw.toList = ds ∨ raw.toList = '+' :: ds)
    (stands : normalDigits code.toList raw.toList = number.toList)
    (longEnough : 7 ≤ number.length) (shortEnough : number.length ≤ 15)
    : Phone.digits raw code = .ok number := by
  have whole : undivided raw = raw.toList := by
    have undividing (c : Char) (among : c ∈ raw.toList) : (!isSeparator c) = true := by
      rcases spelled with same | same
      · simp [isSeparator_of_isDigit (digits c (same ▸ among))]
      · rcases List.mem_cons.mp (same ▸ among) with rfl | later
        · rfl
        · simp [isSeparator_of_isDigit (digits c later)]
    exact List.filter_eq_self.mpr undividing
  have once := not_isTwiceSigned_of_spelled digits spelled
  rw [← String.length_toList, ← stands] at longEnough shortEnough
  rw [← whole] at spelled stands once longEnough shortEnough
  refine (digits_eq_ok_iff_isNumber isCode once).mpr ⟨?_, stands.symm⟩
  refine ⟨⟨ds, ?_, digits, spelled⟩, longEnough, shortEnough⟩
  rintro rfl
  rcases spelled with empty | empty
  all_goals
    rw [empty] at longEnough
    simp [normalDigits, expand] at longEnough

section National

variable {code national : String}

theorem isDigit_of_mem_append (isCode : IsCountryCode code) (isNational : IsNational national)
    : ∀ d ∈ (code ++ national).toList, isDigit d = true := by
  rw [String.toList_append]
  exact List.forall_mem_append.mpr ⟨isCode.digits, isNational.digits⟩

variable (isCode : IsCountryCode code) (isNational : IsNational national)

include isCode isNational

/-- What stands for a national number behind its country code is dialled so. -/
theorem digits_eq_append {raw : String} {ds : List Char} (digits : ∀ d ∈ ds, isDigit d = true)
    (spelled : raw.toList = ds ∨ raw.toList = '+' :: ds)
    (stands : normalDigits code.toList raw.toList = (code ++ national).toList)
    : Phone.digits raw code = .ok (code ++ national) := by
  have filled := isCode.filled
  have short := isCode.short
  have ten := isNational.length
  have length := String.length_append code national
  exact digits_of_spelled isCode digits spelled stands (by omega) (by omega)

theorem digits_zeroed : digits ("0" ++ national) code = .ok (code ++ national) := by
  have spelled : ("0" ++ national).toList = '0' :: national.toList := String.toList_append ..
  have digits : ∀ d ∈ '0' :: national.toList, isDigit d = true :=
    List.forall_mem_cons.mpr ⟨rfl, isNational.digits⟩
  refine digits_eq_append isCode isNational digits (.inl spelled) ?_
  rw [spelled, normalDigits_of_digits _ digits, expand_zero, String.toList_append]

theorem digits_signed : digits ("+" ++ code ++ national) code = .ok (code ++ national) := by
  have spelled : ("+" ++ code ++ national).toList = '+' :: (code ++ national).toList := by
    simp only [String.toList_append, List.append_assoc]
    rfl
  have digits := isDigit_of_mem_append isCode isNational
  refine digits_eq_append isCode isNational digits (.inr spelled) ?_
  rw [spelled, normalDigits_signed]

theorem digits_coded (unzeroed : code.toList.head? ≠ some '0')
    : digits (code ++ national) code = .ok (code ++ national) := by
  have digits := isDigit_of_mem_append isCode isNational
  refine digits_eq_append isCode isNational digits (.inl rfl) ?_
  have front : (code ++ national).toList.head? ≠ some '0' := by
    obtain ⟨first, others, whole⟩ := List.exists_cons_of_length_pos isCode.filled
    rw [String.toList_append, whole]
    rwa [whole] at unzeroed
  have begins : code.toList <+: (code ++ national).toList := by
    rw [String.toList_append]
    exact List.prefix_append _ _
  rw [normalDigits_of_digits _ digits, expand_begun front begins]

/-- A national number that does not begin with the country code gains it. -/
theorem digits_uncoded (uncoded : ¬ code.toList <+: national.toList)
    : digits national code = .ok (code ++ national) := by
  refine digits_eq_append isCode isNational isNational.digits (.inl rfl) ?_
  rw [normalDigits_of_digits _ isNational.digits,
    expand_ten isNational.unzeroed uncoded isNational.length, String.toList_append]

/-- A national number that begins with the country code is taken for an international one. -/
theorem digits_begun (begins : code.toList <+: national.toList)
    : digits national code = .ok national := by
  have ten := isNational.length
  refine digits_of_spelled isCode isNational.digits (.inl rfl) ?_ (by omega) (by omega)
  rw [normalDigits_of_digits _ isNational.digits, expand_begun isNational.unzeroed begins]

theorem notations : Notations code national := by
  refine ⟨digits_zeroed isCode isNational, digits_signed isCode isNational,
    digits_coded isCode isNational, ⟨?_, digits_uncoded isCode isNational⟩,
    digits_begun isCode isNational⟩
  intro found begins
  have dialled := digits_begun isCode isNational begins
  have same := congrArg String.length (Except.ok.inj (dialled.symm.trans found))
  have filled := isCode.filled
  rw [String.length_append] at same
  omega

end National

/-- Normal forms are regular. A normal form is its own, whatever only divides a number counts for
nothing and a number has a normal form when anything else is left of it; and a national number is
dialled alike in all its notations. -/
theorem normalForms_regular (code : String)
    : (IsSolid code
        → ∀ raw normal, normalize? raw code = some normal → normalize? normal code = some normal)
      ∧ (∀ raw other,
        undivided raw = undivided other → normalize? raw code = normalize? other code)
      ∧ (∀ raw, normalize? raw code = none ↔ undivided raw = [])
      ∧ (IsCountryCode code → ∀ national, IsNational national → Notations code national) := by
  refine ⟨?_, ?_, fun raw => normalize?_eq_none_iff, fun isCode national => notations isCode⟩
  · intro solid raw normal
    exact normalize?_idem solid
  · intro raw other same
    refine Option.ext fun normal => ?_
    rw [normalize?_eq_some_iff, normalize?_eq_some_iff, same]

/-- A number with separators of all kinds has the normal form of the bare one, and a national number
may begin with the country code. -/
theorem normalForms_regular_divided
    : IsSolid "234"
      ∧ normalize? " (0810)-839\u00a04272" "234" = some "+2348108394272"
      ∧ normalize? "+2348108394272" "234" = some "+2348108394272"
      ∧ undivided " (0810)-839\u00a04272" = undivided "08108394272"
      ∧ normalize? "08108394272" "234" = some "+2348108394272"
      ∧ IsCountryCode "234"
      ∧ (IsNational "8108394272" ∧ digits "8108394272" "234" = .ok "2348108394272")
      ∧ (IsNational "2348394272" ∧ digits "2348394272" "234" = .ok "2348394272")
      ∧ digits "2342348394272" "234" = .ok "2342348394272" := by
  obtain ⟨idem, congruent, -, regular⟩ := normalForms_regular "234"
  have solid : IsSolid "234" := by decide
  have formed : normalize? " (0810)-839\u00a04272" "234" = some "+2348108394272" := by
    decide +kernel
  have same : undivided " (0810)-839\u00a04272" = undivided "08108394272" := by decide +kernel
  have isCode : IsCountryCode "234" := by decide
  have plain : IsNational "8108394272" := by decide
  have begun : IsNational "2348394272" := by decide
  refine ⟨solid, formed, idem solid _ _ formed, same, (congruent _ _ same) ▸ formed, isCode,
    ⟨plain, ?_⟩, ⟨begun, ?_⟩, ?_⟩
  · exact (regular isCode _ plain).plain_iff.mpr (by decide)
  · exact (regular isCode _ begun).plain (by decide)
  · exact (regular isCode _ begun).coded (by decide)

end Courier.Phone
