import Courier.Url.Parser

/-! What no host ends in. A blank or a control character at the end of a host is folded and decoded
to itself, and no label, number or bracket ends in one.
-/

namespace Courier.Url

open Courier.Text

variable {c : Char}

-----------------------------------------------------------------------------------------
-- Labels
-----------------------------------------------------------------------------------------

namespace Punycode

/-- A distance is read off digits, by induction on them. -/
theorem decodeDistance_eq_some {bias place weight sum reached : Nat} {cs rest : List Char}
    (reads : decodeDistance bias cs place weight sum = some (reached, rest))
    : ∃ digits, cs = digits ++ rest ∧ ∀ c ∈ digits, (digitValue? c).isSome := by
  induction cs generalizing place weight sum with
  | nil => cases reads
  | cons c cs ih =>
      rw [decodeDistance] at reads
      cases digit : digitValue? c with
      | none => simp [digit] at reads
      | some d =>
          simp only [digit] at reads
          split at reads
          · cases reads
          · split at reads
            · cases reads
              exact ⟨[c], rfl, by simp [digit]⟩
            · obtain ⟨digits, rfl, all⟩ := ih reads
              exact ⟨c :: digits, rfl, by simpa [digit] using all⟩

/-- Characters are put into a label for digits only, by induction on their number. -/
theorem decodeFrom_eq_some {fuel number place bias : Nat} {cs label out : List Char}
    (reads : decodeFrom fuel cs number place bias label = some out)
    : ∀ c ∈ cs, (digitValue? c).isSome := by
  induction fuel generalizing cs number place bias label with
  | zero => cases reads
  | succ fuel ih =>
      cases cs with
      | nil => exact List.forall_mem_nil _
      | cons c cs =>
          rw [decodeFrom] at reads
          · cases distance : decodeDistance bias (c :: cs) 36 1 place with
            | none => simp [distance] at reads
            | some reached =>
                rcases reached with ⟨reached, rest⟩
                simp only [distance] at reads
                split at reads
                · obtain ⟨digits, split, all⟩ := decodeDistance_eq_some distance
                  rw [split]
                  exact List.forall_mem_append.mpr ⟨all, ih reads⟩
                · cases reads
          · exact List.cons_ne_nil c cs

theorem decode?_concat (undigit : digitValue? c = none) (other : c ≠ '-') (cs : List Char)
    : decode? (cs ++ [c]) = none := by
  have last : c ∈ (splitLast (cs ++ [c])).2 := by simp [splitLast, other]
  rw [decode?]
  dsimp only
  split
  · rfl
  · refine Option.eq_none_iff_forall_ne_some.mpr fun out reads => ?_
    have digit := decodeFrom_eq_some reads c last
    simp [undigit] at digit

end Punycode

/-- The blanks and the control characters, by their numbers. -/
theorem exists_of_isEdge (edge : isEdge c = true) : ∃ n : Fin 33, c = Char.ofNat n := by
  have bound : c.toNat ≤ 0x20 := of_decide_eq_true edge
  exact ⟨⟨c.toNat, Nat.lt_succ_of_le bound⟩, (Char.ofNat_toNat c).symm⟩

namespace Domain

/-- No label ends in a blank or a control character. -/
theorem forms?_concat (edge : isEdge c = true) (label : List Char)
    : forms? (label ++ [c]) = none := by
  have unmarked : Punycode.digitValue? c = none ∧ c ≠ '-' := by
    obtain ⟨n, rfl⟩ := exists_of_isEdge edge
    revert n
    decide
  have disallowed : Label.isWellFormed (label ++ [c]) = false := by
    have bound : c.toNat ≤ 0x20 := of_decide_eq_true edge
    simp [Label.isWellFormed, Label.isAllowed, Label.isForbidden, bound]
  rw [forms?]
  split
  · next marked =>
      obtain ⟨rest, same⟩ := List.isPrefixOf_iff_prefix.mp marked
      have undecoded : decoded? (label ++ [c]) = none := by
        rcases List.eq_nil_or_concat rest with rfl | ⟨init, last, rfl⟩
        · have last := congrArg List.getLast? same
          simp only [List.append_nil, List.getLast?_concat] at last
          exact absurd (Option.some.inj last).symm unmarked.2
        · rw [List.concat_eq_append, ← List.append_assoc] at same
          obtain ⟨rfl, last⟩ := List.append_inj' same rfl
          obtain rfl := List.singleton_inj.mp last
          rw [decoded?, List.append_assoc, List.drop_left,
            Punycode.decode?_concat unmarked.1 unmarked.2]
      rw [undecoded]
      rfl
  · split <;> simp [disallowed]

end Domain

/-- A text that is divided at another character keeps its last one in the last part, by induction on
the text. -/
theorem splitOn_concat {mark : Char} (other : c ≠ mark) (cs : List Char)
    : ∃ parts part, splitOn mark (cs ++ [c]) = parts ++ [part ++ [c]] := by
  induction cs with
  | nil => exact ⟨[], [], by simp [splitOn, other]⟩
  | cons x xs ih =>
      obtain ⟨parts, part, split⟩ := ih
      rw [List.cons_append, splitOn, split]
      by_cases same : x = mark
      · exact ⟨[] :: parts, part, by simp [same]⟩
      · rw [if_neg (by simpa using same)]
        cases parts with
        | nil => exact ⟨[], x :: part, rfl⟩
        | cons first parts => exact ⟨(x :: first) :: parts, part, rfl⟩

theorem Domain.ascii?_concat (edge : isEdge c = true) (name : List Char)
    : Domain.ascii? (name ++ [c]) = none := by
  have folded : Folding.fold c = [c] ∧ c ≠ '.' := by
    obtain ⟨n, rfl⟩ := exists_of_isEdge edge
    revert n
    decide
  obtain ⟨parts, part, split⟩ := splitOn_concat folded.2 (name.flatMap Folding.fold)
  rw [Domain.ascii?, List.flatMap_append, List.flatMap_singleton, folded.1, split]
  have unformed : (parts ++ [part ++ [c]]).mapM Domain.forms? = none := by
    simp [List.mapM_append, Domain.forms?_concat edge]
  rw [unformed]

-----------------------------------------------------------------------------------------
-- Octets
-----------------------------------------------------------------------------------------

/-- A state in which an octet up to 0x7F begins a character. -/
def IsReady : Utf8.State → Prop
  | .start => True
  | .inside _ _ low _ => 0x80 ≤ low

theorem isReady_begin (b : Nat) : IsReady (Utf8.begin b).2 := by
  rw [Utf8.begin, Utf8.first]
  grind [IsReady]

theorem isReady_step {state : Utf8.State} (ready : IsReady state) (b : Nat)
    : IsReady (Utf8.step state b).2 := by
  cases state with
  | start => exact isReady_begin b
  | inside value owed low high =>
      rw [Utf8.step]
      split
      · split
        · exact trivial
        · exact Nat.le_refl 0x80
      · exact isReady_begin b

/-- An octet up to 0x7F is a character of its own. -/
theorem step_ascii {state : Utf8.State} (ready : IsReady state) {b : Nat} (ascii : b ≤ 0x7F)
    : ∃ cs, Utf8.step state b = (cs ++ [Char.ofNat b], .start) := by
  have begins : Utf8.begin b = ([Char.ofNat b], .start) := by simp [Utf8.begin, Utf8.first, ascii]
  cases state with
  | start => exact ⟨[], begins⟩
  | inside value owed low high =>
      have outside : ¬ (low ≤ b ∧ b ≤ high) := by
        have low : 0x80 ≤ low := ready
        omega
      rw [Utf8.step, if_neg outside, begins]
      exact ⟨[Utf8.replacement], rfl⟩

theorem readFrom_cons (state : Utf8.State) (b : UInt8) (bytes : List UInt8)
    : Utf8.readFrom state (b :: bytes)
      = (Utf8.step state b.toNat).1 ++ Utf8.readFrom (Utf8.step state b.toNat).2 bytes := by
  cases state <;> rfl

/-- The last octet is read as a character of its own if it is one up to 0x7F, by induction on the
octets before it. -/
theorem readFrom_concat {state : Utf8.State} (ready : IsReady state) {b : UInt8}
    (ascii : b.toNat ≤ 0x7F) (bytes : List UInt8)
    : ∃ cs, Utf8.readFrom state (bytes ++ [b]) = cs ++ [Char.ofNat b.toNat] := by
  induction bytes generalizing state with
  | nil =>
      obtain ⟨cs, steps⟩ := step_ascii ready ascii
      refine ⟨cs, ?_⟩
      rw [List.nil_append, readFrom_cons, steps]
      exact List.append_nil _
  | cons x bytes ih =>
      obtain ⟨cs, reads⟩ := ih (isReady_step ready x.toNat)
      refine ⟨(Utf8.step state x.toNat).1 ++ cs, ?_⟩
      rw [List.cons_append, readFrom_cons, reads, List.append_assoc]

/-- The last character of a text is decoded to itself if it is no digit, by induction on the text.
-/
theorem decode_concat (undigit : Percent.hexValue? c = none) (cs : List Char)
    : Percent.decode (cs ++ [c]) = Percent.decode cs ++ Utf8.write (String.ofList [c]) := by
  fun_induction Percent.decode cs with
  | case1 => simp [Percent.decode]
  | case2 a b rest x y second first ih =>
      simp only [List.cons_append, Percent.decode, first, second, ih]
  | case3 a b rest other ih =>
      simp only [List.cons_append] at ih ⊢
      rw [Percent.decode, ← ih]
      split
      · next first second => exact (other _ _ first second).elim
      · rfl
  | case4 x rest other ih =>
      by_cases percent : x = '%'
      · subst percent
        match rest with
        | [] => simp [Percent.decode]
        | [a] =>
            have octet : Utf8.write (String.ofList ['%']) = ['%'.toUInt8] := by decide +kernel
            simp only [List.cons_append, List.nil_append] at ih ⊢
            rw [Percent.decode, undigit, octet, ih]
            simp
        | a :: b :: rest => exact (other a b rest rfl rfl).elim
      · rw [List.cons_append, Percent.decode, ih, List.append_assoc]
        exact fun _ _ _ same => (percent same).elim

/-- No host ends in a blank or a control character. -/
theorem Host.parse?_concat (edge : isEdge c = true) (cs : List Char)
    : Host.parse? (cs ++ [c]) = none := by
  have unmarked : Percent.hexValue? c = none ∧ c ≠ '[' ∧ c ≠ ']' := by
    obtain ⟨n, rfl⟩ := exists_of_isEdge edge
    revert n
    decide
  obtain ⟨undigit, unopened, unclosed⟩ := unmarked
  have written : ∃ b : UInt8, Utf8.write (String.ofList [c]) = [b] ∧ b.toNat = c.toNat := by
    obtain ⟨n, rfl⟩ := exists_of_isEdge edge
    refine ⟨UInt8.ofNat n, ?_⟩
    revert n
    decide +kernel
  have named : Domain.ascii? (Utf8.read (Percent.decode (cs ++ [c]))).toList = none := by
    obtain ⟨b, written, number⟩ := written
    have bound : c.toNat ≤ 0x20 := of_decide_eq_true edge
    have ascii : b.toNat ≤ 0x7F := by omega
    have ready : IsReady .start := trivial
    obtain ⟨chars, reads⟩ := readFrom_concat ready ascii (Percent.decode cs)
    rw [number, Char.ofNat_toNat] at reads
    rw [decode_concat undigit, written, Utf8.read, String.toList_ofList, reads]
    exact Domain.ascii?_concat edge chars
  unfold Host.parse?
  split
  · next rest opened =>
      cases cs with
      | nil => exact absurd (List.cons.inj opened).1 unopened
      | cons x cs =>
          obtain ⟨-, rfl⟩ := List.cons.inj opened
          have last : (cs ++ [c]).getLast? = some c := List.getLast?_concat
          rw [bracketed?, List.append_eq, last]
          split
          · next closed => exact absurd (Option.some.inj closed) unclosed
          · rfl
  · rw [named]

end Courier.Url
