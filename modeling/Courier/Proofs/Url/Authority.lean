import Courier.Proofs.Url.Hosts
import Mathlib.Data.List.TakeDrop

/-! The authority of a web address. It is told from the characters before the first mark that ends
it, so what follows that mark does not change it, and none ends in a blank or a control character.
-/

namespace Courier.Url

open Courier.Text

variable {c : Char} {scheme : String}

/-- Characters of which none ends the authority of a web address. -/
def IsOpen (cs : List Char) : Prop := ∀ c ∈ cs, endsAuthority .web c = false

/-- Characters that do not go on with the authority of a web address. -/
def IsOver (cs : List Char) : Prop := cs.head?.all (endsAuthority .web) = true

/-- A blank or a control character is none of the marks in an authority. -/
theorem unmarked_of_isEdge (edge : isEdge c = true)
    : endsAuthority .web c = false ∧ isDigit c = false ∧ c ≠ ':' ∧ c ≠ '@' := by
  obtain ⟨n, rfl⟩ := exists_of_isEdge edge
  revert n
  decide

/-- Characters that are taken up to others are all taken. -/
theorem span_append {p : Char → Bool} {xs ys : List Char} (taken : ∀ c ∈ xs, p c = true)
    (left : ∀ c ∈ ys.head?, p c = false)
    : (xs ++ ys).span p = (xs, ys) := by
  rw [List.span_eq_takeWhile_dropWhile, List.takeWhile_append_of_pos taken,
    List.dropWhile_append_of_pos taken]
  cases ys with
  | nil => simp
  | cons y ys =>
      have stops : p y = false := left y rfl
      simp [stops]

theorem splitHost_append {cs rest : List Char} (isOpen : IsOpen cs) (isOver : IsOver rest)
    (inside : Bool)
    : splitHost .web inside (cs ++ rest)
      = ((splitHost .web inside cs).1, (splitHost .web inside cs).2 ++ rest) := by
  induction cs generalizing inside with
  | nil =>
      cases rest with
      | nil => rfl
      | cons c rest =>
          have ends : endsAuthority .web c = true := isOver
          simp [splitHost, ends]
  | cons c cs ih =>
      obtain ⟨goesOn, isOpen⟩ := List.forall_mem_cons.mp isOpen
      simp only [List.cons_append, splitHost, goesOn, Bool.or_false, ih isOpen]
      split <;> rfl

/-- A host ends where its authority does, or at the colon before a port. -/
theorem splitHost_eq {cs : List Char} (isOpen : IsOpen cs) (inside : Bool)
    : (splitHost .web inside cs).1 ++ (splitHost .web inside cs).2 = cs
      ∧ ((splitHost .web inside cs).2 = []
        ∨ ∃ port, (splitHost .web inside cs).2 = ':' :: port) := by
  induction cs generalizing inside with
  | nil => exact ⟨rfl, .inl rfl⟩
  | cons c cs ih =>
      obtain ⟨goesOn, isOpen⟩ := List.forall_mem_cons.mp isOpen
      simp only [splitHost, goesOn, Bool.or_false]
      split
      · next colon =>
          have colon : c = ':' := by simpa using And.left (by simpa using colon)
          exact ⟨rfl, .inr ⟨cs, by rw [colon]⟩⟩
      · obtain ⟨whole, ends⟩ :=
          ih isOpen (if c == '[' then true else if c == ']' then false else inside)
        exact ⟨congrArg (c :: ·) whole, ends⟩

/-- A text begins with all digits up to another character. -/
theorem exists_digits (cs : List Char)
    : ∃ digits later,
        cs = digits ++ later
        ∧ (∀ c ∈ digits, isDigit c = true)
        ∧ ∀ c ∈ later.head?, isDigit c = false := by
  refine ⟨cs.takeWhile isDigit, cs.dropWhile isDigit, List.takeWhile_append_dropWhile.symm,
    List.all_eq_true.mp List.all_takeWhile, fun c first => ?_⟩
  have stops := List.head?_dropWhile_not isDigit cs
  rw [Option.mem_def.mp first] at stops
  simpa using stops

/-- What ends an authority is no digit. -/
theorem isDigit_of_isOver {cs : List Char} (isOver : IsOver cs)
    : ∀ c ∈ cs.head?, isDigit c = false := by
  cases cs with
  | nil => exact fun c first => nomatch first
  | cons c cs =>
      rintro c ⟨⟩
      have ends : endsAuthority .web c = true := isOver
      simp only [endsAuthority, isSlash, endsPath, Kind.isSpecial, Bool.true_and, Bool.or_eq_true,
        beq_iff_eq] at ends
      rcases ends with (rfl | rfl) | (rfl | rfl) <;> decide

def portNumber (digits : List Char) : Nat :=
  digits.foldl (fun n c => 10 * n + (c.toNat - 48)) 0

/-- The port of digits, unless it is the scheme's own. -/
def portOf (own : Option Nat) (digits : List Char) : Option Nat :=
  if digits.isEmpty || own == some (portNumber digits) then none else some (portNumber digits)

/-- A port is told from the digits before the end of the authority. -/
theorem parsePort_eq {digits later : List Char} (all : ∀ c ∈ digits, isDigit c = true)
    (stops : ∀ c ∈ later.head?, isDigit c = false) (own : Option Nat)
    : parsePort own (digits ++ later)
      = if 65535 < portNumber digits || !later.head?.all (endsAuthority .web) then none
        else some (portOf own digits, later) := by
  rw [parsePort, span_append all stops, portOf, portNumber]
  cases later with
  | nil =>
      refine ite_congr rfl (fun _ => rfl) fun _ => ?_
      split <;> rfl
  | cons c later =>
      refine ite_congr rfl (fun _ => rfl) fun _ => ?_
      split <;> rfl

theorem parsePort_append {cs rest : List Char} (isOver : IsOver rest) (own : Option Nat)
    : (parsePort own (cs ++ rest)).map (·.1) = (parsePort own cs).map (·.1) := by
  obtain ⟨digits, later, rfl, all, stops⟩ := exists_digits cs
  cases later with
  | nil =>
      have alone := parsePort_eq all stops own
      rw [List.append_nil] at alone ⊢
      rw [parsePort_eq all (isDigit_of_isOver isOver), isOver, alone, List.head?_nil,
        Option.all_none]
      cases 65535 < portNumber digits || !true <;> rfl
  | cons x later =>
      have stops' : ∀ c ∈ (x :: (later ++ rest)).head?, isDigit c = false := stops
      rw [List.append_assoc, List.cons_append, parsePort_eq all stops, parsePort_eq all stops',
        List.head?_cons, List.head?_cons]
      cases 65535 < portNumber digits || !Option.all (endsAuthority .web) (some x) <;> rfl

/-- What follows the end of an authority is left by its port. -/
theorem parsePort_rest {cs rest left : List Char} {own port : Option Nat} (isOpen : IsOpen cs)
    (isOver : IsOver rest) (parses : parsePort own (cs ++ rest) = some (port, left))
    : left = rest := by
  obtain ⟨digits, later, rfl, all, stops⟩ := exists_digits cs
  rw [List.append_assoc] at parses
  cases later with
  | nil =>
      rw [List.nil_append, parsePort_eq all (isDigit_of_isOver isOver)] at parses
      split at parses
      · cases parses
      · exact (congrArg Prod.snd (Option.some.inj parses)).symm
  | cons x later =>
      have inside : endsAuthority .web x = false := isOpen x (by simp)
      have stops : ∀ c ∈ (x :: later ++ rest).head?, isDigit c = false := stops
      rw [parsePort_eq all stops] at parses
      simp [inside] at parses

/-- No port ends in a blank or a control character. -/
theorem parsePort_concat {cs : List Char} (isOpen : IsOpen cs) (edge : isEdge c = true)
    (own : Option Nat)
    : parsePort own (cs ++ [c]) = none := by
  obtain ⟨inside, undigit, _, _⟩ := unmarked_of_isEdge edge
  obtain ⟨digits, later, rfl, all, stops⟩ := exists_digits cs
  have first : ∃ x,
      (later ++ [c]).head? = some x ∧ isDigit x = false ∧ endsAuthority .web x = false := by
    cases later with
    | nil => exact ⟨c, rfl, undigit, inside⟩
    | cons x later => exact ⟨x, rfl, stops x rfl, isOpen x (by simp)⟩
  obtain ⟨x, first, undigit, goesOn⟩ := first
  have stops : ∀ x ∈ (later ++ [c]).head?, isDigit x = false := by
    rw [first]
    rintro x ⟨⟩
    exact undigit
  rw [List.append_assoc, parsePort_eq all stops, first]
  simp [goesOn]

/-- The host and the port of a web address, after the user. -/
def parseServer (scheme user password : String) (cs : List Char)
    : Option (Authority × List Char) :=
  if (splitHost .web false cs).1.isEmpty then none
  else
    match Host.parse? (splitHost .web false cs).1 with
    | none => none
    | some host =>
      match (splitHost .web false cs).2 with
      | ':' :: rest =>
        (parsePort (ownPort? scheme) rest).map fun (port, rest) =>
          (⟨user, password, some host, port⟩, rest)
      | rest => some (⟨user, password, some host, none⟩, rest)

section Servers

variable {cs rest : List Char} (user password : String)

theorem parseServer_append (isOpen : IsOpen cs) (isOver : IsOver rest)
    : (parseServer scheme user password (cs ++ rest)).map (·.1)
      = (parseServer scheme user password cs).map (·.1) := by
  rw [parseServer, parseServer, splitHost_append isOpen isOver]
  obtain ⟨-, ends⟩ := splitHost_eq isOpen false
  dsimp only
  split
  · rfl
  · cases Host.parse? (splitHost .web false cs).1 with
    | none => rfl
    | some host =>
        rcases ends with ends | ⟨port, ends⟩
        · rw [ends, List.nil_append]
          dsimp only
          split
          · next colon => cases isOver
          · rfl
        · have same : (parsePort (ownPort? scheme) (port ++ rest)).map (·.1)
              = (parsePort (ownPort? scheme) port).map (·.1) :=
            parsePort_append isOver _
          have placed := congrArg (Option.map (Authority.mk user password (some host))) same
          rw [ends, List.cons_append]
          simpa only [Option.map_map, Function.comp_def] using placed

/-- What follows the end of an authority is left by its server. -/
theorem parseServer_rest {authority : Authority} {left : List Char} (isOpen : IsOpen cs)
    (isOver : IsOver rest)
    (parses : parseServer scheme user password (cs ++ rest) = some (authority, left))
    : left = rest := by
  obtain ⟨whole, ends⟩ := splitHost_eq isOpen false
  rw [parseServer, splitHost_append isOpen isOver] at parses
  dsimp only at parses
  split at parses
  · cases parses
  · cases found : Host.parse? (splitHost .web false cs).1 with
    | none =>
        rw [found] at parses
        cases parses
    | some host =>
        rw [found] at parses
        rcases ends with ends | ⟨port, ends⟩
        · rw [ends, List.nil_append] at parses
          dsimp only at parses
          split at parses
          · next colon => cases isOver
          · exact (congrArg Prod.snd (Option.some.inj parses)).symm
        · rw [ends, List.cons_append] at parses
          obtain ⟨⟨taken, after⟩, read, made⟩ := Option.map_eq_some_iff.mp parses
          obtain rfl : after = left := congrArg Prod.snd made
          have isOpen' : IsOpen port := by
            intro c among
            refine isOpen c ?_
            rw [← whole, ends]
            simp [among]
          exact parsePort_rest isOpen' isOver read

/-- No server ends in a blank or a control character. -/
theorem parseServer_concat (isOpen : IsOpen cs) (edge : isEdge c = true)
    : parseServer scheme user password (cs ++ [c]) = none := by
  obtain ⟨inside, _, notColon, _⟩ := unmarked_of_isEdge edge
  have isOpen' : IsOpen (cs ++ [c]) :=
    List.forall_mem_append.mpr ⟨isOpen, by simpa using inside⟩
  obtain ⟨whole, ends⟩ := splitHost_eq isOpen' false
  rw [parseServer]
  generalize (splitHost .web false (cs ++ [c])).1 = host at whole ⊢
  generalize (splitHost .web false (cs ++ [c])).2 = later at whole ends ⊢
  split
  · rfl
  · rcases ends with rfl | ⟨port, rfl⟩
    · rw [List.append_nil] at whole
      rw [whole, Host.parse?_concat edge]
    · rcases List.eq_nil_or_concat port with rfl | ⟨init, last, rfl⟩
      · obtain ⟨-, last⟩ := List.append_inj' whole rfl
        exact absurd (List.singleton_inj.mp last).symm notColon
      · rw [List.concat_eq_append, ← List.cons_append, ← List.append_assoc] at whole
        obtain ⟨rfl, last⟩ := List.append_inj' whole rfl
        obtain rfl := List.singleton_inj.mp last
        have isOpen : IsOpen init := fun x among => isOpen x (by simp [among])
        cases Host.parse? host with
        | none => rfl
        | some host =>
            simp only [List.concat_eq_append, parsePort_concat isOpen edge, Option.map_none]

/-- The characters after the last `@`. -/
def afterUser (cs : List Char) : List Char :=
  if cs.contains '@' then (cs.reverse.takeWhile (· != '@')).reverse else cs

/-- There is no server without a host. -/
theorem parseServer_of_isOver (isOver : IsOver rest)
    : parseServer scheme user password rest = none := by
  have hostless : splitHost .web false ([] ++ rest) = ([], [] ++ rest) :=
    splitHost_append (List.forall_mem_nil _) isOver false
  rw [List.nil_append] at hostless
  rw [parseServer, hostless]
  rfl

/-- The user is the same whatever follows the end of the authority, and a host must follow a user
without a name. -/
theorem splitUser_append (isOpen : IsOpen cs)
    : ∃ user password, ∀ rest, IsOver rest
        → splitUser .web (cs ++ rest) = some (user, password, afterUser cs ++ rest)
          ∨ afterUser cs = [] ∧ splitUser .web (cs ++ rest) = none := by
  have spans {rest : List Char} (isOver : IsOver rest)
      : (cs ++ rest).span (!endsAuthority .web ·) = (cs, rest) := by
    refine span_append (fun c among => by simp [isOpen c among]) fun c first => ?_
    have ends : endsAuthority .web c = true := by
      rw [IsOver, Option.mem_def.mp first] at isOver
      exact isOver
    simp [ends]
  cases named : cs.contains '@' with
  | false =>
      refine ⟨"", "", fun rest isOver => .inl ?_⟩
      rw [splitUser, spans isOver, afterUser]
      simp only [named]
      rfl
  | true =>
      have after : afterUser cs = (cs.reverse.takeWhile (· != '@')).reverse := by
        rw [afterUser, named]
        rfl
      cases unnamed : (cs.take (cs.length - (afterUser cs).length - 1)).isEmpty with
      | true =>
          refine ⟨"", "", fun rest isOver => ?_⟩
          rw [splitUser, spans isOver]
          simp only [named, ← after, unnamed]
          cases lost : (afterUser cs).isEmpty && !rest.isEmpty with
          | true => exact .inr ⟨by simpa using And.left (by simpa using lost), rfl⟩
          | false => exact .inl rfl
      | false =>
          let parts := (cs.take (cs.length - (afterUser cs).length - 1)).span (· != ':')
          refine ⟨String.ofList (Percent.encode Percent.inUser parts.1),
            String.ofList (Percent.encode Percent.inUser (parts.2.drop 1)),
            fun rest isOver => .inl ?_⟩
          rw [splitUser, spans isOver]
          simp only [named, ← after, unnamed]
          rfl

/-- The authority of a web address is its user and its server. -/
theorem parseAuthority_eq (scheme : String) (isOpen : IsOpen cs)
    : ∃ user password, ∀ rest, IsOver rest
        → parseAuthority .web scheme (cs ++ rest)
          = parseServer scheme user password (afterUser cs ++ rest) := by
  obtain ⟨user, password, splits⟩ := splitUser_append isOpen
  refine ⟨user, password, fun rest isOver => ?_⟩
  rw [parseAuthority]
  rcases splits rest isOver with served | ⟨hostless, lost⟩
  · rw [served]
    rfl
  · rw [lost, hostless]
    exact (parseServer_of_isOver user password isOver).symm

theorem afterUser_concat (other : c ≠ '@') (cs : List Char)
    : afterUser (cs ++ [c]) = afterUser cs ++ [c] := by
  rw [afterUser, afterUser]
  by_cases named : '@' ∈ cs <;> simp [named, other, other.symm]

theorem isOpen_afterUser (isOpen : IsOpen cs) : IsOpen (afterUser cs) := by
  rw [afterUser]
  split
  · intro c among
    exact isOpen c (List.mem_reverse.mp ((List.takeWhile_subset _) (List.mem_reverse.mp among)))
  · exact isOpen

/-- What follows the end of an authority does not change it. -/
theorem parseAuthority_append (scheme : String) (isOpen : IsOpen cs) (isOver : IsOver rest)
    : (parseAuthority .web scheme (cs ++ rest)).map (·.1)
      = (parseAuthority .web scheme cs).map (·.1) := by
  obtain ⟨user, password, parses⟩ := parseAuthority_eq scheme isOpen
  have alone := parses [] rfl
  rw [List.append_nil, List.append_nil] at alone
  rw [parses rest isOver, alone]
  exact parseServer_append user password (isOpen_afterUser isOpen) isOver

theorem parseAuthority_rest {authority : Authority} {left : List Char} (isOpen : IsOpen cs)
    (isOver : IsOver rest)
    (parses : parseAuthority .web scheme (cs ++ rest) = some (authority, left))
    : left = rest := by
  obtain ⟨user, password, served⟩ := parseAuthority_eq scheme isOpen
  rw [served rest isOver] at parses
  exact parseServer_rest user password (isOpen_afterUser isOpen) isOver parses

/-- No authority ends in a blank or a control character. -/
theorem parseAuthority_concat (scheme : String) (isOpen : IsOpen cs) (edge : isEdge c = true)
    (isOver : IsOver rest)
    : parseAuthority .web scheme (cs ++ [c] ++ rest) = none := by
  obtain ⟨inside, _, _, notAt⟩ := unmarked_of_isEdge edge
  have isOpen' : IsOpen (cs ++ [c]) :=
    List.forall_mem_append.mpr ⟨isOpen, by simpa using inside⟩
  obtain ⟨user, password, parses⟩ := parseAuthority_eq scheme isOpen'
  have alone := parses [] rfl
  rw [List.append_nil, List.append_nil, afterUser_concat notAt,
    parseServer_concat user password (isOpen_afterUser isOpen) edge] at alone
  have same := parseAuthority_append scheme isOpen' isOver
  rw [alone] at same
  simpa using same

end Servers

end Courier.Url
