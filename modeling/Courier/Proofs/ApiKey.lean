import Courier.ApiKey

/-! The masks of keys. A mask shows nothing of a short key and both ends of a long one, and nothing
else tells masks apart.
-/

namespace Courier.ApiKey

/-- Keys of which as much is shown: nothing of short ones, and the same first two and last two
characters of long ones. -/
def SameEnds (key other : ApiKey) : Prop :=
  (key.secret.length ≤ 8 ∧ other.secret.length ≤ 8)
  ∨ (8 < key.secret.length ∧ 8 < other.secret.length
    ∧ key.secret.toList.take 2 = other.secret.toList.take 2
    ∧ key.secret.toList.drop (key.secret.length - 2)
      = other.secret.toList.drop (other.secret.length - 2))

theorem toList_masked_of_long {key : ApiKey} (long : 8 < key.secret.length)
    : key.masked.toList
      = key.secret.toList.take 2
        ++ (veil.toList ++ key.secret.toList.drop (key.secret.length - 2)) := by
  have shows : ¬ key.secret.length ≤ hiddenLength := Nat.not_le.mpr long
  simp only [masked, String.length_toList]
  rw [if_neg shows, String.toList_ofList, List.append_assoc]

theorem masked_of_short {key : ApiKey} (short : key.secret.length ≤ 8)
    : key.masked = veil := by
  have hides : key.secret.length ≤ hiddenLength := short
  simp only [masked, String.length_toList]
  rw [if_pos hides]

theorem masked_ne_veil {key : ApiKey} (long : 8 < key.secret.length)
    : key.masked ≠ veil := by
  intro same
  have longer := congrArg (·.toList.length) same
  simp only [toList_masked_of_long long, List.length_append, List.length_take, List.length_drop,
    String.length_toList] at longer
  have seven : veil.length = 3 := rfl
  omega

/-- Masks are the same exactly when as much is shown of the keys. -/
theorem masked_eq_iff (key other : ApiKey)
    : key.masked = other.masked ↔ key.SameEnds other := by
  rcases Nat.lt_or_ge 8 key.secret.length with long | short
  · rcases Nat.lt_or_ge 8 other.secret.length with longAlso | shortAlso
    · have two (secret : String) (long : 8 < secret.length)
          : (secret.toList.take 2).length = 2 := by
        rw [List.length_take, String.length_toList]
        omega
      have starts := (two _ long).trans (two _ longAlso).symm
      rw [← String.toList_inj, toList_masked_of_long long, toList_masked_of_long longAlso,
        List.append_eq_append_iff_of_size_eq_left starts, List.append_cancel_left_eq, SameEnds]
      constructor
      · exact fun ends => .inr ⟨long, longAlso, ends⟩
      · rintro (⟨short, -⟩ | ⟨-, -, ends⟩)
        · omega
        · exact ends
    · rw [masked_of_short shortAlso, SameEnds]
      have differ := masked_ne_veil long
      constructor
      · exact fun same => absurd same differ
      · rintro (⟨short, -⟩ | ⟨-, longAlso, -⟩) <;> omega
  · rcases Nat.lt_or_ge 8 other.secret.length with longAlso | shortAlso
    · rw [masked_of_short short, SameEnds]
      have differ := masked_ne_veil longAlso
      constructor
      · exact fun same => absurd same.symm differ
      · rintro (⟨-, shortAlso⟩ | ⟨long, -⟩) <;> omega
    · rw [masked_of_short short, masked_of_short shortAlso]
      exact ⟨fun _ => .inl ⟨short, shortAlso⟩, fun _ => rfl⟩

end Courier.ApiKey
