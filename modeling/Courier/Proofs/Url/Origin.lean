import Courier.Proofs.Url.Cleaning

/-! The origin of an address. It is told from the scheme and the authority, so a path that stands in
the place of the slashes at the end of a web address leads to the same server.
-/

namespace Courier.Url

open Courier.Text

variable {c : Char} {scheme : String}

-----------------------------------------------------------------------------------------
-- Schemes
-----------------------------------------------------------------------------------------

/-- A text begins with a scheme: with a letter and characters of schemes up to a colon. -/
theorem splitScheme_eq_some_iff {cs rest : List Char}
    : splitScheme cs = some (scheme, rest)
      ↔ ∃ name,
          cs = name ++ ':' :: rest
          ∧ name.head?.any isLetter = true
          ∧ (∀ c ∈ name, isSchemeChar c = true)
          ∧ scheme = String.ofList (name.map lowerAscii) := by
  constructor
  · intro splits
    cases cs with
    | nil => cases splits
    | cons c cs =>
        rw [splitScheme] at splits
        cases letter : isLetter c with
        | false => simp [letter] at splits
        | true =>
            rw [List.span_eq_takeWhile_dropWhile] at splits
            simp only [letter, Bool.not_true, Bool.false_eq_true, if_false] at splits
            split at splits
            · next name colon same =>
                cases splits
                obtain ⟨name, left⟩ := Prod.mk.inj same
                have schemeChar : isSchemeChar c = true := by simp [isSchemeChar, letter]
                refine ⟨(c :: cs).takeWhile isSchemeChar, ?_, ?_,
                  List.all_eq_true.mp List.all_takeWhile, by rw [name]⟩
                · rw [← left, List.takeWhile_append_dropWhile]
                · rw [List.takeWhile_cons_of_pos schemeChar]
                  exact letter
            · cases splits
  · rintro ⟨name, rfl, letter, all, rfl⟩
    cases name with
    | nil => cases letter
    | cons c name =>
        have stops : ∀ c ∈ (':' :: rest).head?, isSchemeChar c = false := by
          rintro c ⟨⟩
          decide
        have spans := span_append all stops
        rw [List.cons_append] at spans ⊢
        have letter : isLetter c = true := letter
        rw [splitScheme, spans]
        simp [letter]

/-- The addresses of files have the scheme of files. -/
theorem scheme_parseFile {cs : List Char} {url : Url} (parsed : parseFile cs = some url)
    : url.scheme = "file" := by
  unfold parseFile at parsed
  split at parsed
  · split at parsed
    · dsimp only at parsed
      split at parsed
      · cases parsed; rfl
      · split at parsed
        · cases parsed; rfl
        · split at parsed <;> cases parsed <;> rfl
    · cases parsed; rfl
  · cases parsed; rfl

theorem scheme_parseOther {cs : List Char} {url : Url} (parsed : parseOther scheme cs = some url)
    : url.scheme = scheme := by
  unfold parseOther at parsed
  split at parsed
  · obtain ⟨_, _, rfl⟩ := Option.map_eq_some_iff.mp parsed
    rfl
  · cases parsed; rfl
  · cases parsed; rfl

/-- The scheme of a web address is one of the web. -/
theorem exists_scheme {text : String} {url : Url} (parsed : parse? text = some url)
    (web : url.isHttp = true)
    : ∃ scheme rest,
        splitScheme (clean text.toList) = some (scheme, rest) ∧ Kind.of scheme = .web := by
  rw [parse?] at parsed
  split at parsed
  · cases parsed
  · next scheme rest splits =>
      refine ⟨scheme, rest, splits, ?_⟩
      rw [parseWithScheme] at parsed
      cases kind : Kind.of scheme with
      | web => rfl
      | file =>
          simp only [kind] at parsed
          rw [isHttp, scheme_parseFile parsed] at web
          cases web
      | other =>
          simp only [kind] at parsed
          rw [isHttp, scheme_parseOther parsed] at web
          simp only [Bool.or_eq_true, beq_iff_eq] at web
          rcases web with rfl | rfl <;> cases kind

/-- The characters after the colon of a scheme are divided as those of the whole address are. -/
theorem exists_front {front slashes name rest : List Char} (slashed : ∀ c ∈ slashes, c = '/')
    (whole : name ++ ':' :: rest = front ++ slashes)
    : ∃ inner, front = name ++ ':' :: inner ∧ rest = inner ++ slashes := by
  have colon : ':' ∉ slashes := fun among => absurd (slashed _ among) (by decide)
  obtain ⟨inner, rfl, later⟩ | ⟨later, rfl, within⟩ := List.append_eq_append_iff.mp whole
  · cases inner with
    | nil =>
        rw [List.nil_append] at later
        exact absurd (later ▸ List.mem_cons_self) colon
    | cons x inner =>
        obtain ⟨rfl, rfl⟩ := List.cons.inj later
        exact ⟨inner, rfl, rfl⟩
  · exact absurd (within ▸ List.mem_append_right _ List.mem_cons_self) colon

theorem isOver_of_slashed {slashes : List Char} (slashed : ∀ c ∈ slashes, c = '/')
    : IsOver slashes := by
  cases slashes with
  | nil => rfl
  | cons c slashes =>
      rw [IsOver, List.head?_cons, slashed c List.mem_cons_self]
      rfl

theorem IsPath.isOver {path : List Char} (isPath : IsPath path) : IsOver path := by
  rw [IsOver, isPath.slashed]
  rfl

/-- The characters before the end of an authority, and those from it on. -/
theorem exists_isOpen (cs : List Char)
    : ∃ server later, cs = server ++ later ∧ IsOpen server ∧ IsOver later := by
  refine ⟨cs.takeWhile (!endsAuthority .web ·), cs.dropWhile (!endsAuthority .web ·),
    List.takeWhile_append_dropWhile.symm, fun c among => ?_, ?_⟩
  · simpa using List.all_eq_true.mp List.all_takeWhile c among
  · have stops := List.head?_dropWhile_not (!endsAuthority .web ·) cs
    rw [IsOver]
    cases first : (cs.dropWhile (!endsAuthority .web ·)).head? with
    | none => rfl
    | some c => simpa [first] using stops

-----------------------------------------------------------------------------------------
-- Addresses and the paths appended to them
-----------------------------------------------------------------------------------------

/-- The parts of a web address: its server, what follows it up to the slashes at the end, and how
the address counts with a path in the place of these slashes. -/
structure Parts (base : String) (home : Url) where
  scheme : String
  rest : List Char
  splits : splitScheme (clean base.toList) = some (scheme, rest)
  server : List Char
  later : List Char
  slashes : List Char
  served : rest.dropWhile (isSlash .web) = server ++ (later ++ slashes)
  isOpen : IsOpen server
  isOver : IsOver later
  slashed : ∀ c ∈ slashes, c = '/'
  bare : slashes ≠ [] → blanksAtEnd base.toList = []
  authority : Authority
  parses : parseAuthority .web scheme (server ++ (later ++ slashes))
    = some (authority, later ++ slashes)
  home_eq : home = assemble .web scheme authority (later ++ slashes)
  parse_endpoint : ∀ path, IsPath path.toList
    → parse? (dropTrailing '/' base ++ path)
      = parseAuthorityUrl .web scheme
          (server ++ (later ++ (blanksAtEnd base.toList ++ path.toList)))

theorem isOver_append {later rest : List Char} (isOver : IsOver later) (next : IsOver rest)
    : IsOver (later ++ rest) := by
  cases later with
  | nil => exact next
  | cons c later => exact isOver

/-- A web address has these parts. -/
theorem exists_parts {base : String} {home : Url} (parsed : parse? base = some home)
    (web : home.isHttp = true)
    : Nonempty (Parts base home) := by
  obtain ⟨scheme, rest, splits, isWeb⟩ := exists_scheme parsed web
  obtain ⟨name, counts, letter, schemeChars, spelled⟩ := splitScheme_eq_some_iff.mp splits
  obtain ⟨x, name, rfl⟩ : ∃ x xs, name = x :: xs := by
    cases name with
    | nil => cases letter
    | cons x name => exact ⟨x, name, rfl⟩
  have other : x ≠ '/' := by
    rintro rfl
    cases letter
  obtain ⟨front, slashes, before, slashed, bare, after⟩ := clean_endpoint counts other
  obtain ⟨inner, rfl, rfl⟩ := exists_front slashed (counts.symm.trans before)
  rw [parse?, splits] at parsed
  simp only [parseWithScheme, isWeb] at parsed
  obtain ⟨⟨authority, left⟩, parses, rfl⟩ := Option.map_eq_some_iff.mp parsed
  have served : inner.dropWhile (isSlash .web) ≠ [] := by
    intro none
    -- without a server there is no address
    have gone : slashes.dropWhile (isSlash .web) = [] :=
      (dropWhile_eq_nil_iff _ slashes).mpr
        (List.all_eq_true.mpr fun c among => by rw [slashed c among]; rfl)
    rw [List.dropWhile_append, none, gone] at parses
    cases parses
  have skips (more : List Char)
      : (inner ++ more).dropWhile (isSlash .web) = inner.dropWhile (isSlash .web) ++ more := by
    rw [List.dropWhile_append, if_neg (by simpa using served)]
  obtain ⟨server, later, split, isOpen, isOver⟩ := exists_isOpen (inner.dropWhile (isSlash .web))
  have separates (more : List Char)
      : (inner ++ more).dropWhile (isSlash .web) = server ++ (later ++ more) := by
    rw [skips, split, List.append_assoc]
  rw [separates] at parses
  obtain rfl := parseAuthority_rest isOpen (isOver_append isOver (isOver_of_slashed slashed)) parses
  refine ⟨⟨scheme, _, splits, server, later, slashes, separates slashes, isOpen, isOver,
    slashed, bare, authority, parses, rfl, fun path isPath => ?_⟩⟩
  have splits' : splitScheme (clean (dropTrailing '/' base ++ path).toList)
      = some (scheme, inner ++ (blanksAtEnd base.toList ++ path.toList)) := by
    refine splitScheme_eq_some_iff.mpr ⟨x :: name, ?_, letter, schemeChars, spelled⟩
    rw [after path isPath, List.append_assoc]
    rfl
  rw [parse?, splits']
  simp only [parseWithScheme, isWeb, separates]

namespace Parts

variable {base : String} {home url : Url} {path : String} (parts : Parts base home)
  (isPath : IsPath path.toList)

include isPath

/-- A path that is appended to an address leads to its server, when nothing or the end of the server
stands before the path. -/
theorem parse_endpoint_of_isOver
    (isOver : IsOver (parts.later ++ (blanksAtEnd base.toList ++ path.toList)))
    : parse? (dropTrailing '/' base ++ path)
      = some (assemble .web parts.scheme parts.authority
          (parts.later ++ (blanksAtEnd base.toList ++ path.toList))) := by
  have same := parseAuthority_append parts.scheme parts.isOpen
    (isOver_append parts.isOver (isOver_of_slashed parts.slashed))
  rw [parts.parses, ← parseAuthority_append parts.scheme parts.isOpen isOver] at same
  obtain ⟨⟨authority, left⟩, parses, told⟩ := Option.map_eq_some_iff.mp same.symm
  obtain rfl : authority = parts.authority := told
  obtain rfl := parseAuthority_rest parts.isOpen isOver parses
  rw [parts.parse_endpoint path isPath, parseAuthorityUrl, parses]
  rfl

/-- No path can be appended to an address whose server goes on to blanks at the end. -/
theorem parse_endpoint_eq_none (open' : parts.later = []) (blank : blanksAtEnd base.toList ≠ [])
    : parse? (dropTrailing '/' base ++ path) = none := by
  have edges := blanksAtEnd_edges base.toList
  rw [parts.parse_endpoint path isPath, parseAuthorityUrl, open', List.nil_append]
  rcases List.eq_nil_or_concat (blanksAtEnd base.toList) with none | ⟨init, last, ends⟩
  · exact absurd none blank
  · rw [List.concat_eq_append] at ends
    rw [ends] at edges ⊢
    have isOpen : IsOpen (parts.server ++ init) := by
      refine List.forall_mem_append.mpr ⟨parts.isOpen, fun c among => ?_⟩
      exact (unmarked_of_isEdge (edges c (by simp [among]))).1
    rw [← List.append_assoc, ← List.append_assoc,
      parseAuthority_concat parts.scheme isOpen (edges last (by simp)) isPath.isOver]
    rfl

/-- What is read with a path appended is the address of the same server. -/
theorem eq_assemble (endpoint : parse? (dropTrailing '/' base ++ path) = some url)
    : url = assemble .web parts.scheme parts.authority
        (parts.later ++ (blanksAtEnd base.toList ++ path.toList)) := by
  have isOver : IsOver (parts.later ++ (blanksAtEnd base.toList ++ path.toList)) := by
    by_cases open' : parts.later = []
    · by_cases bare : blanksAtEnd base.toList = []
      · rw [open', bare]
        exact isPath.isOver
      · cases endpoint.symm.trans (parts.parse_endpoint_eq_none isPath open' bare)
    · have first := parts.isOver
      cases goesOn : parts.later with
      | nil => exact absurd goesOn open'
      | cons c later =>
          rw [goesOn] at first
          exact first
  exact Option.some.inj (endpoint.symm.trans (parts.parse_endpoint_of_isOver isPath isOver))

end Parts

/-- A path that stands in the place of the slashes at the end of a web address leads to the same
server. -/
theorem origin_endpoint {base path : String} {home url : Url} (isPath : IsPath path.toList)
    (parsed : parse? base = some home) (web : home.isHttp = true)
    (endpoint : parse? (dropTrailing '/' base ++ path) = some url)
    : url.origin = home.origin := by
  obtain ⟨parts⟩ := exists_parts parsed web
  exact (congrArg origin (parts.eq_assemble isPath endpoint)).trans
    (congrArg origin parts.home_eq).symm

end Courier.Url
