import Courier.Proofs.Url.Origin
import Mathlib.Data.List.TakeWhile

/-! Paths appended to an address. The names of a path without dots are the last ones that are walked
along, so the path of the whole ends with them, unless the address has a query or a fragment: then
what is appended belongs to it, and the path is the same whatever is appended.
-/

namespace Courier.Url

open Courier.Text

-----------------------------------------------------------------------------------------
-- Segments
-----------------------------------------------------------------------------------------

variable {kind : Kind}

theorem splitSegments_ne_nil (kind : Kind) (cs : List Char) : splitSegments kind cs ≠ [] := by
  cases cs with
  | nil => exact List.cons_ne_nil _ _
  | cons c cs =>
      rw [splitSegments]
      split
      · exact List.cons_ne_nil _ _
      · split <;> exact List.cons_ne_nil _ _

/-- A slash divides segments, by induction on what stands before it. -/
theorem splitSegments_append {slash : Char} (slashed : isSlash kind slash = true)
    (front rest : List Char)
    : splitSegments kind (front ++ slash :: rest)
      = splitSegments kind front ++ splitSegments kind rest := by
  induction front with
  | nil =>
      show splitSegments kind (slash :: rest) = [] :: splitSegments kind rest
      rw [splitSegments, if_pos slashed]
  | cons c front ih =>
      rw [List.cons_append, splitSegments, splitSegments]
      split
      · rw [ih]
        rfl
      · cases split : splitSegments kind front with
        | nil => exact absurd split (splitSegments_ne_nil kind front)
        | cons part parts =>
            rw [ih, split]
            rfl

/-- Segments that others follow lead to a place from which these are walked along, by induction on
them. -/
theorem exists_walk_append (kind : Kind) (segments : List (List Char)) (place : List String)
    : ∃ reached, ∀ later, later ≠ []
        → walk kind place (segments ++ later) = walk kind reached later := by
  induction segments generalizing place with
  | nil => exact ⟨place, fun _ _ => rfl⟩
  | cons segment segments ih =>
      have goesOn {later : List (List Char)} (filled : later ≠ [])
          : (segments ++ later).isEmpty = false := by
        simp [filled]
      by_cases above : isAbove segment = true
      · obtain ⟨reached, walks⟩ := ih (shorten kind place)
        refine ⟨reached, fun later filled => ?_⟩
        rw [List.cons_append, walk, if_pos above]
        simp only [goesOn filled, Bool.false_eq_true, if_false]
        exact walks later filled
      · by_cases here : isHere segment = true
        · obtain ⟨reached, walks⟩ := ih place
          refine ⟨reached, fun later filled => ?_⟩
          rw [List.cons_append, walk, if_neg above, if_pos here, goesOn filled,
            if_neg Bool.false_ne_true]
          exact walks later filled
        · obtain ⟨reached, walks⟩ := ih (place ++ [_])
          refine ⟨reached, fun later filled => ?_⟩
          rw [List.cons_append, walk, if_neg above, if_neg here]
          exact walks later filled

/-- A segment that is a name as it stands: no dots that mean a place, and nothing to encode. -/
structure IsName (segment : List Char) : Prop where
  notAbove : isAbove segment = false
  notHere : isHere segment = false
  encoded : Percent.encode Percent.inPath segment = segment

/-- Names are added to the place one by one, by induction on them. -/
theorem walk_names {names : List (List Char)} (areNames : ∀ name ∈ names, IsName name)
    (place : List String)
    : walk .web place names = place ++ names.map String.ofList := by
  induction names generalizing place with
  | nil => exact (List.append_nil _).symm
  | cons name names ih =>
      obtain ⟨first, rest⟩ := List.forall_mem_cons.mp areNames
      rw [walk, first.notAbove, first.notHere, first.encoded]
      simp only [Bool.false_eq_true, if_false]
      rw [show (Kind.web == Kind.file) = false from rfl]
      simp only [Bool.false_and, Bool.false_eq_true, if_false]
      rw [ih rest, List.append_assoc]
      rfl

-----------------------------------------------------------------------------------------
-- Paths of names
-----------------------------------------------------------------------------------------

/-- A path that consists of names, each after a slash. -/
structure IsPlain (path : List Char) : Prop where
  isPath : IsPath path
  unmarked : ∀ c ∈ path, endsPath c = false
  areNames : ∀ name ∈ splitSegments .web path.tail, IsName name
  joined : (splitSegments .web path.tail).flatMap ('/' :: ·) = path

instance decidableIsName (segment : List Char) : Decidable (IsName segment) :=
  decidable_of_iff (isAbove segment = false ∧ isHere segment = false
      ∧ Percent.encode Percent.inPath segment = segment)
    ⟨fun is => ⟨is.1, is.2.1, is.2.2⟩, fun is => ⟨is.notAbove, is.notHere, is.encoded⟩⟩

instance decidableIsPlain (path : List Char) : Decidable (IsPlain path) :=
  decidable_of_iff (IsPath path ∧ path.all (!endsPath ·) = true
      ∧ (∀ name ∈ splitSegments .web path.tail, IsName name)
      ∧ (splitSegments .web path.tail).flatMap ('/' :: ·) = path)
    ⟨fun is => ⟨is.1, by simpa using is.2.1, is.2.2.1, is.2.2.2⟩,
      fun is => ⟨is.isPath, by simpa using is.unmarked, is.areNames, is.joined⟩⟩

variable {path : List Char}

theorem IsPlain.eq_cons (plain : IsPlain path) : path = '/' :: path.tail := by
  cases path with
  | nil => cases plain.isPath.slashed
  | cons c rest =>
      obtain rfl := Option.some.inj plain.isPath.slashed
      rfl

/-- The characters of a walked path end with those of the names walked along last. -/
theorem suffix_of_walk (plain : IsPlain path) (segments : List (List Char))
    : path <:+ (Path.segments (walk .web [] (segments ++ splitSegments .web path.tail))).chars := by
  obtain ⟨reached, walks⟩ := exists_walk_append .web segments []
  rw [walks _ (splitSegments_ne_nil _ _), walk_names plain.areNames, Path.chars,
    List.flatMap_append, List.flatMap_map]
  simp only [String.toList_ofList]
  rw [plain.joined]
  exact List.suffix_append _ _

/-- A path of names that is appended to other characters of a path ends the whole path. -/
theorem suffix_of_parsePath (plain : IsPlain path) (front : List Char)
    : path <:+ (parsePath .web (front ++ path)).chars := by
  have slash : isSlash .web '/' = true := rfl
  rw [plain.eq_cons]
  cases front with
  | nil =>
      rw [List.nil_append, parsePath, if_pos slash, ← plain.eq_cons]
      exact suffix_of_walk plain []
  | cons c front =>
      rw [List.cons_append, parsePath]
      split
      · rw [splitSegments_append slash, ← plain.eq_cons]
        exact suffix_of_walk plain _
      · rw [← List.cons_append, splitSegments_append slash, ← plain.eq_cons]
        exact suffix_of_walk plain _

-----------------------------------------------------------------------------------------
-- Addresses that paths are appended to
-----------------------------------------------------------------------------------------

/-- An address leads to a path on the server of another address. -/
def Leads (home : Url) (address path : String) : Prop :=
  ∃ url, parse? address = some url ∧ url.scheme = home.scheme ∧ url.host = home.host
    ∧ url.port = home.port ∧ path.toList <:+ url.path.chars

/-- Whether an address goes on after its server. -/
def goesOn (base : String) : Bool :=
  match splitScheme (clean base.toList) with
  | some (_, rest) => (rest.dropWhile (isSlash .web)).any (endsAuthority .web)
  | none => false

/-- A path can be appended to an address: it has no query and no fragment, and its server is not
followed by blanks alone. -/
structure TakesPath (base : String) : Prop where
  unmarked : ∀ c ∈ base.toList, endsPath c = false
  unblank : goesOn base = true ∨ blanksAtEnd base.toList = []

instance decidableTakesPath (base : String) : Decidable (TakesPath base) :=
  decidable_of_iff (base.toList.all (!endsPath ·) = true
      ∧ (goesOn base = true ∨ blanksAtEnd base.toList = []))
    ⟨fun takes => ⟨by simpa using takes.1, takes.2⟩,
      fun takes => ⟨by simpa using takes.unmarked, takes.unblank⟩⟩

/-- A mark that ends a path is no blank, and stands neither in a scheme nor in a server. -/
theorem inside_of_endsPath {c : Char} (ends : endsPath c = true)
    : isEdge c = false ∧ isSchemeChar c = false ∧ c ≠ ':' ∧ isSlash .web c = false
      ∧ endsAuthority .web c = true ∧ c ≠ '/' := by
  simp only [endsPath, Bool.or_eq_true, beq_iff_eq] at ends
  rcases ends with rfl | rfl <;> decide

/-- The path of an assembled address is what stands before the first mark. -/
theorem path_assemble (kind : Kind) (scheme : String) (authority : Authority) (cs : List Char)
    : (assemble kind scheme authority cs).path = parsePath kind (cs.takeWhile (!endsPath ·)) := by
  rw [assemble, List.span_eq_takeWhile_dropWhile]

theorem takeWhile_unmarked {cs : List Char} (unmarked : ∀ c ∈ cs, endsPath c = false)
    : cs.takeWhile (!endsPath ·) = cs :=
  List.takeWhile_eq_self_iff.mpr fun c among => by simp [unmarked c among]

namespace Parts

variable {base : String} {home : Url} (parts : Parts base home)

/-- An address has a mark exactly when one stands after its server. -/
theorem unmarked_iff
    : (∀ c ∈ base.toList, endsPath c = false) ↔ ∀ c ∈ parts.later, endsPath c = false := by
  obtain ⟨name, counts, -, schemeChars, -⟩ := splitScheme_eq_some_iff.mp parts.splits
  have rest : parts.rest = parts.rest.takeWhile (isSlash .web)
      ++ (parts.server ++ (parts.later ++ parts.slashes)) := by
    rw [← parts.served, List.takeWhile_append_dropWhile]
  have same (c : Char) (ends : endsPath c = true) : c ∈ base.toList ↔ c ∈ parts.later := by
    obtain ⟨inner, unschemed, notColon, unslashed, closes, notSlash⟩ := inside_of_endsPath ends
    have named : c ∉ name := fun among => by simp [schemeChars c among] at unschemed
    have skipped : c ∉ parts.rest.takeWhile (isSlash .web) := fun among => by
      simp [List.all_eq_true.mp List.all_takeWhile c among] at unslashed
    have served : c ∉ parts.server := fun among => by simp [parts.isOpen c among] at closes
    have slashed : c ∉ parts.slashes := fun among => notSlash (parts.slashed c among)
    rw [← mem_clean_iff inner, counts, rest]
    simp [named, notColon, skipped, served, slashed]
  constructor
  · intro unmarked c among
    refine Bool.eq_false_iff.mpr fun ends => ?_
    exact Bool.eq_false_iff.mp (unmarked c ((same c ends).mpr among)) ends
  · intro unmarked c among
    refine Bool.eq_false_iff.mpr fun ends => ?_
    exact Bool.eq_false_iff.mp (unmarked c ((same c ends).mp among)) ends

/-- No blanks come between the server and a path, exactly when the address goes on after its server
or ends in no blanks that count. -/
theorem unblank_iff
    : goesOn base = true ∨ blanksAtEnd base.toList = []
      ↔ parts.later ≠ [] ∨ blanksAtEnd base.toList = [] := by
  have closed : goesOn base = true ↔ parts.later ++ parts.slashes ≠ [] := by
    have first := isOver_append parts.isOver (isOver_of_slashed parts.slashed)
    have inside : parts.server.any (endsAuthority .web) = false :=
      List.any_eq_false.mpr fun c among => by simp [parts.isOpen c among]
    have closes : goesOn base = (parts.later ++ parts.slashes).any (endsAuthority .web) := by
      simp only [goesOn, parts.splits, parts.served]
      rw [List.any_append, inside, Bool.false_or]
    rw [closes]
    cases after : parts.later ++ parts.slashes with
    | nil => exact iff_of_false nofun (absurd rfl)
    | cons c rest =>
        rw [after] at first
        have ends : endsAuthority .web c = true := first
        exact iff_of_true (by rw [List.any_cons, ends]; rfl) (List.cons_ne_nil c rest)
  constructor
  · rintro (goes | bare)
    · by_cases slashless : parts.slashes = []
      · rw [closed, slashless, List.append_nil] at goes
        exact .inl goes
      · exact .inr (parts.bare slashless)
    · exact .inr bare
  · rintro (later | bare)
    · exact .inl (closed.mpr fun none => later (List.append_eq_nil_iff.mp none).1)
    · exact .inr bare

variable {path : String} (plain : IsPlain path.toList)

include parts plain

/-- A path that is appended to an address that takes it leads there. -/
theorem leads (takes : TakesPath base) : Leads home (dropTrailing '/' base ++ path) path := by
  have isOver : IsOver (parts.later ++ (blanksAtEnd base.toList ++ path.toList)) := by
    rcases parts.unblank_iff.mp takes.unblank with goesOn | bare
    · obtain ⟨c, later, split⟩ := List.exists_cons_of_ne_nil goesOn
      have first := parts.isOver
      rw [split] at first ⊢
      exact first
    · rw [bare]
      exact isOver_append parts.isOver plain.isPath.isOver
  have unmarked
      : ∀ c ∈ parts.later ++ (blanksAtEnd base.toList ++ path.toList), endsPath c = false := by
    refine List.forall_mem_append.mpr ⟨parts.unmarked_iff.mp takes.unmarked, ?_⟩
    refine List.forall_mem_append.mpr ⟨fun c among => ?_, plain.unmarked⟩
    have goesOn := (unmarked_of_isEdge (blanksAtEnd_edges base.toList c among)).1
    exact (Bool.or_eq_false_iff.mp goesOn).2
  refine ⟨_, parts.parse_endpoint_of_isOver plain.isPath isOver, ?_, ?_, ?_, ?_⟩
  · exact (congrArg Url.scheme parts.home_eq).symm
  · exact (congrArg Url.host parts.home_eq).symm
  · exact (congrArg Url.port parts.home_eq).symm
  · rw [path_assemble, takeWhile_unmarked unmarked, ← List.append_assoc]
    exact suffix_of_parsePath plain _

omit plain

/-- Where an address has a mark, its path is the same whatever is appended. -/
theorem path_eq_of_marked {c : Char} (marked : c ∈ parts.later) (ends : endsPath c = true)
    (isPath : IsPath path.toList) {url : Url}
    (endpoint : parse? (dropTrailing '/' base ++ path) = some url)
    : url.path = parsePath .web (parts.later.takeWhile (!endsPath ·)) := by
  have short : (parts.later.takeWhile (!endsPath ·)).length ≠ parts.later.length := by
    intro whole
    have all := List.takeWhile_eq_self_iff.mp (List.Sublist.eq_of_length
      (List.takeWhile_sublist _) whole) c marked
    simp [ends] at all
  rw [parts.eq_assemble isPath endpoint, path_assemble, List.takeWhile_append, if_neg short]

/-- An address to which two paths can be appended of which none ends with the other takes paths. -/
theorem takesPath_of_leads {other : String} (isPath : IsPath path.toList)
    (isOther : IsPath other.toList)
    (apart : ¬ path.toList <:+ other.toList ∧ ¬ other.toList <:+ path.toList)
    (leads : Leads home (dropTrailing '/' base ++ path) path)
    (leadsOther : Leads home (dropTrailing '/' base ++ other) other)
    : TakesPath base := by
  obtain ⟨url, endpoint, -, -, -, within⟩ := leads
  obtain ⟨url', endpoint', -, -, -, within'⟩ := leadsOther
  refine ⟨parts.unmarked_iff.mpr fun c among => ?_, parts.unblank_iff.mpr ?_⟩
  · refine Bool.eq_false_iff.mpr fun ends => ?_
    rw [parts.path_eq_of_marked among ends isPath endpoint] at within
    rw [parts.path_eq_of_marked among ends isOther endpoint'] at within'
    exact (List.suffix_or_suffix_of_suffix within within').elim apart.1 apart.2
  · by_contra neither
    obtain ⟨alone, blank⟩ := not_or.mp neither
    have lost := parts.parse_endpoint_eq_none isPath (not_not.mp alone) blank
    cases endpoint.symm.trans lost

end Parts

end Courier.Url
