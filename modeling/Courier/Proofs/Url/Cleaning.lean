import Courier.Proofs.Url.Authority

/-! What counts of an address: neither the blanks at its ends nor the line breaks in it. A path can
stand in the place of the slashes at the end of an address, and blanks that were at the end then
stand before the path.
-/

namespace Courier.Url

open Courier.Text

variable {c : Char}

/-- Blanks and control characters. -/
def AreEdges (cs : List Char) : Prop := ∀ c ∈ cs, isEdge c = true

/-- A text that begins and ends in other characters. -/
structure IsTrimmed (cs : List Char) : Prop where
  first : ∀ c ∈ cs.head?, isEdge c = false
  last : ∀ c ∈ cs.getLast?, isEdge c = false

theorem isBreak_of_isEdge (inner : isEdge c = false) : isBreak c = false := by
  refine Bool.eq_false_iff.mpr fun breaks => ?_
  simp only [isBreak, Bool.or_eq_true, beq_iff_eq] at breaks
  obtain (rfl | rfl) | rfl := breaks <;> cases inner

theorem dropWhile_of_head? {p : Char → Bool} {cs : List Char} (first : ∀ c ∈ cs.head?, p c = false)
    : cs.dropWhile p = cs := by
  cases cs with
  | nil => rfl
  | cons c cs => exact List.dropWhile_cons_of_neg (by simp [first c rfl])

theorem head?_dropWhile_false {p : Char → Bool} {cs : List Char}
    : ∀ c ∈ (cs.dropWhile p).head?, p c = false := by
  intro c first
  have stops := List.head?_dropWhile_not p cs
  rw [Option.mem_def.mp first] at stops
  simpa using stops

/-- A text is trimmed of blanks at both ends. -/
theorem exists_isTrimmed (cs : List Char)
    : ∃ left inner right,
        cs = left ++ inner ++ right ∧ AreEdges left ∧ AreEdges right ∧ IsTrimmed inner := by
  let rest := cs.dropWhile isEdge
  have split : rest = (rest.reverse.dropWhile isEdge).reverse
      ++ (rest.reverse.takeWhile isEdge).reverse := by
    rw [← List.reverse_append, List.takeWhile_append_dropWhile, List.reverse_reverse]
  refine ⟨cs.takeWhile isEdge, (rest.reverse.dropWhile isEdge).reverse,
    (rest.reverse.takeWhile isEdge).reverse, ?_, List.all_eq_true.mp List.all_takeWhile, ?_, ?_, ?_⟩
  · rw [List.append_assoc, ← split]
    exact List.takeWhile_append_dropWhile.symm
  · intro c among
    exact List.all_eq_true.mp List.all_takeWhile c (List.mem_reverse.mp among)
  · intro c first
    have front : rest.head? = some c := by
      rw [split, List.head?_append, Option.mem_def.mp first]
      rfl
    exact head?_dropWhile_false c front
  · rw [List.getLast?_reverse]
    exact head?_dropWhile_false

/-- What counts of an address is what stands between the blanks at its ends, without breaks. -/
theorem clean_eq {left inner right : List Char} (before : AreEdges left) (after : AreEdges right)
    (isTrimmed : IsTrimmed inner) (filled : inner ≠ [])
    : clean (left ++ inner ++ right) = inner.filter (!isBreak ·) := by
  have front : ∀ c ∈ (inner ++ right).head?, isEdge c = false := by
    cases inner with
    | nil => exact absurd rfl filled
    | cons c inner => exact isTrimmed.first
  have back : ∀ c ∈ inner.reverse.head?, isEdge c = false := by
    rw [List.head?_reverse]
    exact isTrimmed.last
  have mirrored : ∀ c ∈ right.reverse, isEdge c = true :=
    fun c among => after c (List.mem_reverse.mp among)
  rw [clean, List.append_assoc, List.dropWhile_append_of_pos before, dropWhile_of_head? front,
    List.reverse_append, List.dropWhile_append_of_pos mirrored, dropWhile_of_head? back,
    List.reverse_reverse]

/-- What follows the blanks at the end of an address counts with them. -/
theorem clean_append {left inner right rest : List Char} (before : AreEdges left)
    (isTrimmed : IsTrimmed inner) (filled : inner ≠ []) (goesOn : rest ≠ [])
    (unblank : ∀ c ∈ rest, isEdge c = false)
    : clean (left ++ inner ++ right ++ rest)
      = inner.filter (!isBreak ·) ++ right.filter (!isBreak ·) ++ rest := by
  have isTrimmed' : IsTrimmed (inner ++ right ++ rest) := by
    constructor
    · cases inner with
      | nil => exact absurd rfl filled
      | cons c inner => exact isTrimmed.first
    · intro c last
      rw [List.getLast?_append] at last
      obtain ⟨final, ends⟩ := Option.ne_none_iff_exists'.mp (mt List.getLast?_eq_none_iff.mp goesOn)
      rw [ends] at last
      cases last
      exact unblank c (List.mem_of_getLast? ends)
  have whole := clean_eq before (List.forall_mem_nil _) isTrimmed' (by simp [filled])
  have kept : rest.filter (!isBreak ·) = rest :=
    List.filter_eq_self.mpr fun c among => by simp [isBreak_of_isEdge (unblank c among)]
  rw [List.append_nil, List.filter_append, List.filter_append, kept] at whole
  rw [← whole, List.append_assoc, List.append_assoc, List.append_assoc]

theorem clean_eq_nil {cs : List Char} (edges : AreEdges cs) : clean cs = [] := by
  rw [clean, (dropWhile_eq_nil_iff isEdge cs).mpr (List.all_eq_true.mpr edges)]
  rfl

theorem exists_slashes (s : String)
    : ∃ slashes,
        s.toList = (dropTrailing '/' s).toList ++ slashes ∧ ∀ c ∈ slashes, c = '/' := by
  refine ⟨(s.toList.reverse.takeWhile (· == '/')).reverse, ?_, fun c among => ?_⟩
  · rw [dropTrailing, String.toList_ofList, ← List.reverse_append,
      List.takeWhile_append_dropWhile, List.reverse_reverse]
  · exact beq_iff_eq.mp (List.all_eq_true.mp List.all_takeWhile c (List.mem_reverse.mp among))

theorem unblank_of_slashed {slashes : List Char} (slashed : ∀ c ∈ slashes, c = '/')
    : ∀ c ∈ slashes, isEdge c = false := by
  intro c among
  rw [slashed c among]
  rfl

/-- An address that counts for more than the slashes at its end does not consist of these and of
blanks. -/
theorem filled_of_clean {left inner right slashes : List Char} {x : Char} {xs : List Char}
    (before : AreEdges left) (after : AreEdges right) (slashed : ∀ c ∈ slashes, c = '/')
    (counts : clean (left ++ inner ++ right ++ slashes) = x :: xs) (other : x ≠ '/')
    : inner ≠ [] := by
  rintro rfl
  rw [List.append_nil] at counts
  have blank : AreEdges (left ++ right) := List.forall_mem_append.mpr ⟨before, after⟩
  by_cases bare : slashes = []
  · rw [bare, List.append_nil, clean_eq_nil blank] at counts
    cases counts
  · have unblank := unblank_of_slashed slashed
    have alone : IsTrimmed slashes :=
      ⟨fun c first => unblank c (List.mem_of_head? first),
        fun c last => unblank c (List.mem_of_getLast? last)⟩
    have cleaned := clean_eq blank (List.forall_mem_nil _) alone bare
    rw [List.append_nil, counts] at cleaned
    have among : x ∈ slashes.filter (!isBreak ·) := cleaned ▸ List.mem_cons_self
    exact other (slashed x (List.mem_filter.mp among).1)

/-- A path that follows an address. -/
structure IsPath (path : List Char) : Prop where
  slashed : path.head? = some '/'
  unblank : ∀ c ∈ path, isEdge c = false

instance decidableIsPath (path : List Char) : Decidable (IsPath path) :=
  decidable_of_iff (path.head? = some '/' ∧ path.all (!isEdge ·) = true)
    ⟨fun is => ⟨is.1, by simpa using is.2⟩, fun is => ⟨is.slashed, by simpa using is.unblank⟩⟩

/-- The blanks at the end of an address that count when something follows them. -/
def blanksAtEnd (cs : List Char) : List Char :=
  ((cs.reverse.takeWhile isEdge).reverse).filter (!isBreak ·)

theorem blanksAtEnd_edges (cs : List Char) : AreEdges (blanksAtEnd cs) := by
  intro c among
  have taken := List.mem_reverse.mp (List.mem_filter.mp among).1
  exact List.all_eq_true.mp List.all_takeWhile c taken

theorem blanksAtEnd_append {front right : List Char} (after : AreEdges right)
    (stops : ∀ c ∈ front.getLast?, isEdge c = false)
    : blanksAtEnd (front ++ right) = right.filter (!isBreak ·) := by
  have mirrored : ∀ c ∈ right.reverse, isEdge c = true :=
    fun c among => after c (List.mem_reverse.mp among)
  have stopped : front.reverse.takeWhile isEdge = [] := by
    rw [← List.head?_reverse] at stops
    cases mirrored : front.reverse with
    | nil => rfl
    | cons c rest =>
        have inner : isEdge c = false := stops c (mirrored ▸ rfl)
        exact List.takeWhile_cons_of_neg (by simp [inner])
  rw [blanksAtEnd, List.reverse_append, List.takeWhile_append_of_pos mirrored, stopped,
    List.append_nil, List.reverse_reverse]

/-- An address counts the same up to the slashes at its end, in the place of which a path can stand
after the blanks that were at its end. -/
theorem clean_endpoint {base : String} {x : Char} {xs : List Char}
    (counts : clean base.toList = x :: xs) (other : x ≠ '/')
    : ∃ front slashes,
        clean base.toList = front ++ slashes
        ∧ (∀ c ∈ slashes, c = '/')
        ∧ (slashes ≠ [] → blanksAtEnd base.toList = [])
        ∧ ∀ path, IsPath path.toList
          → clean (dropTrailing '/' base ++ path).toList
            = front ++ (blanksAtEnd base.toList ++ path.toList) := by
  obtain ⟨slashes, whole, slashed⟩ := exists_slashes base
  obtain ⟨left, inner, right, split, before, after, isTrimmed⟩ :=
    exists_isTrimmed (dropTrailing '/' base).toList
  have unblank := unblank_of_slashed slashed
  rw [whole, split] at counts
  have filled := filled_of_clean before after slashed counts other
  have endpoint (path : String) (isPath : IsPath path.toList)
      : clean (dropTrailing '/' base ++ path).toList
        = inner.filter (!isBreak ·) ++ right.filter (!isBreak ·) ++ path.toList := by
    have goesOn : path.toList ≠ [] := by
      intro empty
      have slashed := isPath.slashed
      rw [empty] at slashed
      cases slashed
    rw [String.toList_append, split]
    exact clean_append before isTrimmed filled goesOn isPath.unblank
  rw [whole, split]
  by_cases bare : slashes = []
  · subst bare
    have blanks : blanksAtEnd (left ++ inner ++ right) = right.filter (!isBreak ·) := by
      refine blanksAtEnd_append after fun c last => isTrimmed.last c ?_
      rw [List.getLast?_append, Option.or_of_isSome (List.getLast?_isSome.mpr filled)] at last
      exact last
    rw [List.append_nil, blanks]
    refine ⟨inner.filter (!isBreak ·), [], ?_, slashed, absurd rfl, fun path isPath => ?_⟩
    · rw [List.append_nil]
      exact clean_eq before after isTrimmed filled
    · rw [endpoint path isPath, List.append_assoc]
  · have blanks : blanksAtEnd (left ++ inner ++ right ++ slashes) = [] := by
      rw [← List.append_nil (left ++ inner ++ right ++ slashes)]
      refine blanksAtEnd_append (List.forall_mem_nil _) fun c last => ?_
      rw [List.getLast?_append, Option.or_of_isSome (List.getLast?_isSome.mpr bare)] at last
      exact unblank c (List.mem_of_getLast? last)
    refine ⟨inner.filter (!isBreak ·) ++ right.filter (!isBreak ·), slashes, ?_, slashed,
      fun _ => blanks, fun path isPath => ?_⟩
    · exact clean_append before isTrimmed filled bare unblank
    · rw [endpoint path isPath, blanks, List.nil_append]

/-- A character that is no blank counts wherever it stands. -/
theorem mem_clean_iff (inner : isEdge c = false) (cs : List Char) : c ∈ clean cs ↔ c ∈ cs := by
  obtain ⟨left, middle, right, rfl, before, after, isTrimmed⟩ := exists_isTrimmed cs
  have outside {ends : List Char} (edges : AreEdges ends) : c ∉ ends :=
    fun among => Bool.false_ne_true (inner.symm.trans (edges c among))
  have stays : (!isBreak c) = true := by rw [isBreak_of_isEdge inner]; rfl
  by_cases bare : middle = []
  · subst bare
    rw [List.append_nil]
    have edges : AreEdges (left ++ right) := List.forall_mem_append.mpr ⟨before, after⟩
    rw [clean_eq_nil edges]
    exact iff_of_false List.not_mem_nil (outside edges)
  · rw [clean_eq before after isTrimmed bare, List.mem_filter]
    simp [outside before, outside after, stays]

end Courier.Url
