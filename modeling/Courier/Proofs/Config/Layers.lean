import Courier.Config.KeyPath

/-! Layers of a configuration tree. What a document gives at a path is told from the document alone.
Put over a tree, it stands at that path afterwards, and where the document gives nothing there, the
tree keeps what it had: so of several layers the last one that gives something counts.
-/

namespace Courier.Config

/-- The keys of a document with their values. -/
abbrev Document := List (String × Node)

-----------------------------------------------------------------------------------------
-- What a document gives
-----------------------------------------------------------------------------------------

namespace Node

/-- What a value gives at a path of names: the last of the entries on the way counts. -/
def given? : List String → Node → Option Node
  | [], node => some node
  | name :: path, table entries =>
    entries.reverse.findSome? fun entry => if entry.1 = name then given? path entry.2 else none
  | _ :: _, _ => none

/-- A value fits a path at which a setting stands: tables lead there, and none stands there. -/
def fits : List String → Node → Bool
  | [], table _ => false
  | [], _ => true
  | name :: path, table entries => entries.all fun entry => entry.1 != name || fits path entry.2
  | _ :: _, _ => false

end Node

namespace Document

/-- What the value of a key gives at a path of names. -/
def givenAlong? : List String → KeyPath → Node → Option Node
  | path, [], node => node.given? path
  | name :: path, .name n :: steps, node => if n = name then givenAlong? path steps node else none
  | _, _, _ => none

def fitsAlong : List String → KeyPath → Node → Bool
  | path, [], node => node.fits path
  | name :: path, .name n :: steps, node => n != name || fitsAlong path steps node
  | _, _, _ => false

/-- What a document gives at a path of names: the last of its keys counts. -/
def given? (document : Document) (path : List String) : Option Node :=
  document.reverse.findSome? fun entry => givenAlong? path (KeyPath.ofKey entry.1) entry.2

/-- A document fits a path at which a setting stands: it gives tables on the way and none there. -/
def fits (document : Document) (path : List String) : Bool :=
  document.all fun entry => fitsAlong path (KeyPath.ofKey entry.1) entry.2

theorem given?_cons (entry : String × Node) (document : Document) (path : List String)
    : given? (entry :: document) path
      = (given? document path).or (givenAlong? path (KeyPath.ofKey entry.1) entry.2) := by
  simp [given?, List.findSome?_append]

end Document

-----------------------------------------------------------------------------------------
-- What stands in a tree
-----------------------------------------------------------------------------------------

namespace Node

variable {name : String} {path : List String} {node : Node} {target found : Option Node}

/-- What stands at a path of names, when only tables lead there: a value, or nothing. -/
def stands? : List String → Option Node → Option (Option Node)
  | _, none => some none
  | [], some node => some (some node)
  | name :: path, some (table entries) => stands? path (find? name entries)
  | _ :: _, some _ => none

@[simp] theorem stands?_none (path : List String) : stands? path none = some none := by
  cases path <;> rfl

theorem find?_setEntry_self (name : String) (node : Node) (entries : List (String × Node))
    : find? name (setEntry name node entries) = some node := by
  induction entries with
  | nil => simp [setEntry, find?]
  | cons entry entries ih =>
      simp only [setEntry]
      split
      · simp [find?]
      · next other =>
          rw [find?, List.find?_cons_of_neg (by simpa using other)]
          exact ih

theorem find?_setEntry_of_ne {n : String} (other : n ≠ name) (node : Node)
    (entries : List (String × Node))
    : find? name (setEntry n node entries) = find? name entries := by
  induction entries with
  | nil => simp [setEntry, find?, other]
  | cons entry entries ih =>
      simp only [setEntry]
      split
      · next same =>
          have away : entry.1 ≠ name := fun taken => other ((beq_iff_eq.mp same).symm.trans taken)
          simp [find?, other, away]
      · by_cases taken : entry.1 = name
        · simp [find?, taken]
        · rw [find?, find?, List.find?_cons_of_neg (by simpa using taken),
            List.find?_cons_of_neg (by simpa using taken)]
          exact ih

/-- Only tables have entries on the way, so what stands below a name stands below its entry. -/
theorem stands?_cons (stands : stands? (name :: path) target = some found)
    : stands? path (find? name (target.getD nil).entries) = some found := by
  cases target with
  | none => simpa [find?, entries] using stands
  | some node =>
      cases node with
      | table entries => exact stands
      | nil | bool | integer | float | text | array => cases stands

theorem given?_table_cons (name n : String) (path : List String) (node : Node)
    (entries : List (String × Node))
    : (table ((n, node) :: entries)).given? (name :: path)
      = ((table entries).given? (name :: path)).or
        (if n = name then node.given? path else none) := by
  simp [given?, List.findSome?_append]

/-- Entries that are put over others, one by one, are found there, by induction on them. -/
theorem stands?_overlayEntries {entries : List (String × Node)}
    (below : ∀ {node : Node} {target found : Option Node},
      node.fits path = true → stands? path target = some found
      → stands? path (some (overlay node (target.getD nil))) = some ((node.given? path).or found))
    (fit : (table entries).fits (name :: path) = true) {onto : List (String × Node)}
    (stands : stands? path (find? name onto) = some found)
    : stands? path (find? name (overlayEntries entries onto))
      = some (((table entries).given? (name :: path)).or found) := by
  induction entries generalizing onto found with
  | nil => exact stands
  | cons entry entries ih =>
      obtain ⟨n, node⟩ := entry
      simp only [fits, List.all_cons, Bool.and_eq_true] at fit ih
      obtain ⟨first, rest⟩ := fit
      rw [overlayEntries, given?_table_cons, Option.or_assoc]
      by_cases same : n = name
      · subst same
        have fitting : node.fits path = true := by simpa using first
        rw [if_pos rfl]
        refine ih rest ?_
        rw [find?_setEntry_self]
        exact below fitting stands
      · rw [if_neg same]
        refine ih rest ?_
        rw [find?_setEntry_of_ne same]
        exact stands

/-- A value that is put over another one stands where it gives something, and the other one where it
does not, by induction on the path. -/
theorem stands?_overlay (fit : node.fits path = true) (stands : stands? path target = some found)
    : stands? path (some (overlay node (target.getD nil)))
      = some ((node.given? path).or found) := by
  induction path generalizing node target found with
  | nil =>
      cases node with
      | table entries => cases fit
      | nil | bool | integer | float | text | array => rfl
  | cons name path ih =>
      cases node with
      | table entries => exact stands?_overlayEntries ih fit (stands?_cons stands)
      | nil | bool | integer | float | text | array => cases fit

/-- A value that is put at the end of a key, by induction on the key. -/
theorem stands?_update {steps : KeyPath} (fit : Document.fitsAlong path steps node = true)
    (stands : stands? path target = some found)
    : stands? path (some (update (overlay node) steps (target.getD nil)))
      = some ((Document.givenAlong? path steps node).or found) := by
  induction steps generalizing path target found with
  | nil =>
      rw [update, Document.givenAlong?]
      rw [Document.fitsAlong] at fit
      exact stands?_overlay fit stands
  | cons step steps ih =>
      cases path with
      | nil => simp [Document.fitsAlong] at fit
      | cons name path =>
          cases step with
          | index i => simp [Document.fitsAlong] at fit
          | name n =>
              have below := stands?_cons stands
              simp only [update, stands?, Document.givenAlong?]
              by_cases same : n = name
              · subst same
                have fitting : Document.fitsAlong path steps node = true := by
                  simpa [Document.fitsAlong] using fit
                rw [find?_setEntry_self, if_pos rfl]
                exact ih fitting below
              · rw [find?_setEntry_of_ne same, if_neg same]
                exact below

/-- A document that is put over a tree stands where it gives something, by induction on its keys. -/
theorem stands?_mergeSource {document : Document} {tree : Node}
    (fit : document.fits path = true) (stands : stands? path (some tree) = some found)
    : stands? path (some (mergeSource document tree))
      = some ((document.given? path).or found) := by
  induction document generalizing tree found with
  | nil => exact stands
  | cons entry document ih =>
      simp only [Document.fits, List.all_cons, Bool.and_eq_true] at fit ih
      rw [Document.given?_cons, Option.or_assoc]
      exact ih fit.2 (stands?_update fit.1 stands)

-----------------------------------------------------------------------------------------
-- What stands whatever was there before
-----------------------------------------------------------------------------------------

variable {found : Node}

/-- Of entries the last one that gives something is found, whatever they are put over, by induction
on them. -/
theorem stands?_overlayEntries_of_given {entries : List (String × Node)}
    (below : ∀ {node : Node},
      node.fits path = true → node.given? path = some found
      → ∀ target, stands? path (some (overlay node target)) = some (some found))
    (fit : (table entries).fits (name :: path) = true)
    (given : (table entries).given? (name :: path) = some found) (onto : List (String × Node))
    : stands? path (find? name (overlayEntries entries onto)) = some (some found) := by
  induction entries generalizing onto with
  | nil => cases given
  | cons entry entries ih =>
      obtain ⟨n, node⟩ := entry
      simp only [fits, List.all_cons, Bool.and_eq_true] at fit ih
      obtain ⟨first, rest⟩ := fit
      rw [given?_table_cons] at given
      rw [overlayEntries]
      cases later : (table entries).given? (name :: path) with
      | some other =>
          rw [later] at given
          rw [later] at ih
          exact ih rest given _
      | none =>
          rw [later, Option.none_or] at given
          split at given
          · next same =>
              subst same
              have fitting : node.fits path = true := by simpa using first
              -- nothing is given after this entry, so it stays
              have here
                  : stands? path
                      (find? n (setEntry n (overlay node ((find? n onto).getD .nil)) onto))
                    = some (some found) := by
                rw [find?_setEntry_self]
                exact below fitting given _
              have stands := stands?_overlayEntries stands?_overlay rest here
              rw [later, Option.none_or] at stands
              exact stands
          · cases given

/-- A value that gives something stands there, whatever it is put over, by induction on the path. -/
theorem stands?_overlay_of_given (fit : node.fits path = true)
    (given : node.given? path = some found) (target : Node)
    : stands? path (some (overlay node target)) = some (some found) := by
  induction path generalizing node target with
  | nil =>
      obtain rfl := Option.some.inj given
      cases node with
      | table entries => cases fit
      | nil | bool | integer | float | text | array => rfl
  | cons name path ih =>
      cases node with
      | table entries => exact stands?_overlayEntries_of_given ih fit given _
      | nil | bool | integer | float | text | array => cases fit

/-- A value that is put at the end of a key, by induction on the key. -/
theorem stands?_update_of_given {steps : KeyPath}
    (fit : Document.fitsAlong path steps node = true)
    (given : Document.givenAlong? path steps node = some found) (target : Node)
    : stands? path (some (update (overlay node) steps target)) = some (some found) := by
  induction steps generalizing path target with
  | nil =>
      rw [Document.fitsAlong] at fit
      rw [Document.givenAlong?] at given
      exact stands?_overlay_of_given fit given target
  | cons step steps ih =>
      cases path with
      | nil => simp [Document.fitsAlong] at fit
      | cons name path =>
          cases step with
          | index i => simp [Document.fitsAlong] at fit
          | name n =>
              rw [Document.givenAlong?] at given
              split at given
              · next same =>
                  subst same
                  have fitting : Document.fitsAlong path steps node = true := by
                    simpa [Document.fitsAlong] using fit
                  rw [update, stands?, find?_setEntry_self]
                  exact ih fitting given _
              · cases given

/-- What a document gives stands in every tree that it is put over, by induction on its keys. -/
theorem stands?_mergeSource_of_given {document : Document} (fit : document.fits path = true)
    (given : document.given? path = some found) (tree : Node)
    : stands? path (some (mergeSource document tree)) = some (some found) := by
  induction document generalizing tree with
  | nil => cases given
  | cons entry document ih =>
      simp only [Document.fits, List.all_cons, Bool.and_eq_true] at fit ih
      obtain ⟨first, rest⟩ := fit
      rw [Document.given?_cons] at given
      cases later : Document.given? document path with
      | some other =>
          rw [later] at given
          rw [later] at ih
          exact ih rest given _
      | none =>
          rw [later, Option.none_or] at given
          have stands := stands?_mergeSource rest (stands?_update_of_given first given tree)
          rw [later, Option.none_or] at stands
          exact stands

end Node

end Courier.Config
