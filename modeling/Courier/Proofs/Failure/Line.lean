import Courier.Failure
import Mathlib.Data.List.Forall2
import Mathlib.Data.String.Basic

/-! The line that reports a failure. It tells the failure and then what is behind it, link by link
from the outermost to the innermost, and it is one line whatever the wordings hold: each line break
in them is shown as one space.
-/

namespace Courier.Failure

-----------------------------------------------------------------------------------------
-- The chain behind a failure
-----------------------------------------------------------------------------------------

/-- A link of a chain of causes: the failure itself, a fault behind it, or something met elsewhere,
with the wordings of all that it wraps. -/
inductive Link
  | failure (failure : Failure)
  | settings (fault : Config.Fault)
  | body (fault : Json.Misreading)
  | foreign (wording : String) (wrapped : List String)

def Link.wording : Link → String
  | .failure told => told.message
  | .settings fault => fault.message
  | .body fault => fault.words
  | .foreign wording _ => wording

/-- What is directly behind a link. -/
inductive Behind : Link → Link → Prop
  | transport (provider cause : String) (wrapped : List String)
    : Behind (.failure (.transport provider (cause :: wrapped))) (.foreign cause wrapped)
  | malformed (provider : String) (code : Nat) (text : String) (fault : Json.Misreading)
    : Behind (.failure (.malformed provider code text fault)) (.body fault)
  | settings (key : String) (fault : Config.Fault)
    : Behind (.failure (.configuration key (.config fault))) (.settings fault)
  | client (key cause : String) (wrapped : List String)
    : Behind (.failure (.configuration key (.texts (cause :: wrapped)))) (.foreign cause wrapped)
  | internal (cause : String) (wrapped : List String)
    : Behind (.failure (.internal (cause :: wrapped))) (.foreign cause wrapped)
  | source (detail : String) : Behind (.settings (.source detail)) (.foreign detail [])
  | context (outer cause : String) (wrapped : List String)
    : Behind (.foreign outer (cause :: wrapped)) (.foreign cause wrapped)

/-- The wordings of a chain from a link on, the outermost first. -/
inductive Chain : Link → List String → Prop
  | last {link : Link} (innermost : ∀ cause, ¬ Behind link cause) : Chain link [link.wording]
  | next {link cause : Link} {wordings : List String} (behind : Behind link cause)
      (chain : Chain cause wordings)
    : Chain link (link.wording :: wordings)

/-- A link has one cause at most. -/
theorem Behind.unique {link cause other : Link} (behind : Behind link cause)
    (otherBehind : Behind link other)
    : cause = other := by
  cases behind <;> cases otherBehind <;> rfl

/-- From a link on there is one chain, by induction on it. -/
theorem Chain.unique {link : Link} {wordings others : List String} (chain : Chain link wordings)
    (otherChain : Chain link others)
    : wordings = others := by
  induction chain generalizing others with
  | last innermost =>
      cases otherChain with
      | last => rfl
      | next behind => exact absurd behind (innermost _)
  | next behind chain ih =>
      cases otherChain with
      | last innermost => exact absurd behind (innermost _)
      | next otherBehind otherChain =>
          obtain rfl := behind.unique otherBehind
          rw [ih otherChain]

/-- What is wrapped is met one by one, by induction on it. -/
theorem chain_foreign (wording : String) (wrapped : List String)
    : Chain (.foreign wording wrapped) (wording :: wrapped) := by
  induction wrapped generalizing wording with
  | nil => exact .last nofun
  | cons cause wrapped ih => exact .next (.context wording cause wrapped) (ih cause)

theorem chain_settings (fault : Config.Fault) : Chain (.settings fault) fault.chain := by
  cases fault with
  | source detail => exact .next (.source detail) (chain_foreign detail [])
  | _ => exact .last nofun

/-- The causes of a failure are the chain behind it. Where it starts depends on the failure. -/
theorem chain_failure (failure : Failure)
    : Chain (.failure failure) (failure.message :: failure.causes) := by
  cases failure with
  | transport provider causes =>
      cases causes with
      | nil => exact .last nofun
      | cons cause wrapped =>
          exact .next (.transport provider cause wrapped) (chain_foreign cause wrapped)
  | malformed provider code text fault =>
      exact .next (.malformed provider code text fault) (.last nofun)
  | configuration key cause =>
      cases cause with
      | config fault => exact .next (.settings key fault) (chain_settings fault)
      | texts chain =>
          cases chain with
          | nil => exact .last nofun
          | cons cause wrapped =>
              exact .next (.client key cause wrapped) (chain_foreign cause wrapped)
  | internal causes =>
      cases causes with
      | nil => exact .last nofun
      | cons cause wrapped => exact .next (.internal cause wrapped) (chain_foreign cause wrapped)
  | _ => exact .last nofun

-----------------------------------------------------------------------------------------
-- What is told
-----------------------------------------------------------------------------------------

variable {failure : Failure} {tag : Option String} {heading : String}

/-- The failures that name a provider: no answer came from it, or one that is no success. -/
inductive Names : Failure → String → Prop
  | transport (provider : String) (causes : List String)
    : Names (.transport provider causes) provider
  | status (provider : String) (code : Nat) (text : String)
    : Names (.status provider code text) provider
  | malformed (provider : String) (code : Nat) (text : String) (fault : Json.Misreading)
    : Names (.malformed provider code text fault) provider

theorem provider?_eq_some_iff {provider : String}
    : failure.provider? = some provider ↔ Names failure provider := by
  constructor
  · intro found
    cases failure with
    | transport | status | malformed =>
        obtain rfl := Option.some.inj found
        constructor
    | _ => cases found
  · rintro (_ | _ | _) <;> rfl

/-- The beginning of a line. A tag is shown exactly where one is given and the failure names no
provider of its own. -/
inductive Heading (failure : Failure) : Option String → String → Prop
  | tagged (name : String) (unnamed : ∀ provider, ¬ Names failure provider)
    : Heading failure (some name) ("error[" ++ name ++ "]")
  | named (name provider : String) (names : Names failure provider)
    : Heading failure (some name) "error"
  | untagged : Heading failure none "error"

/-- What is told after a heading: each wording once, in order. -/
def told (heading : String) (wordings : List String) : String :=
  heading ++ String.join (wordings.map (": " ++ ·))

theorem exists_heading (failure : Failure) (tag : Option String)
    : ∃ heading, Heading failure tag heading := by
  cases tag with
  | none => exact ⟨_, .untagged⟩
  | some name =>
      by_cases named : ∃ provider, Names failure provider
      · obtain ⟨provider, names⟩ := named
        exact ⟨_, .named name provider names⟩
      · exact ⟨_, .tagged name (not_exists.mp named)⟩

/-- One cause after another is added to a text, by induction on the causes. -/
theorem foldl_causes (text : String) (causes : List String)
    : causes.foldl (fun text cause => text ++ ": " ++ cause) text = told text causes := by
  induction causes generalizing text with
  | nil => simp [told]
  | cons cause causes ih =>
      rw [List.foldl_cons, ih, told, told, List.map_cons, String.join_cons]
      simp only [String.append_assoc]

/-- The text of a line starts with the heading and the wording, to which the causes are added. -/
theorem lineText_eq_foldl (heads : Heading failure tag heading)
    : failure.lineText tag
      = failure.causes.foldl (fun text cause => text ++ ": " ++ cause)
          (heading ++ ": " ++ failure.message) := by
  cases heads with
  | tagged name unnamed =>
      have none : failure.provider? = none :=
        Option.eq_none_iff_forall_ne_some.mpr fun provider found =>
          unnamed provider (provider?_eq_some_iff.mp found)
      have split : "]: " = "]" ++ ": " := rfl
      simp only [lineText, none, split, String.append_assoc]
  | named name provider names =>
      simp only [lineText, provider?_eq_some_iff.mpr names]
      rfl
  | untagged =>
      simp only [lineText]
      rfl

theorem lineText_eq_told (heads : Heading failure tag heading)
    : failure.lineText tag = told heading (failure.message :: failure.causes) := by
  rw [lineText_eq_foldl heads, foldl_causes, told, told, List.map_cons, String.join_cons]
  simp only [String.append_assoc]

-----------------------------------------------------------------------------------------
-- One line
-----------------------------------------------------------------------------------------

/-- A line shows a text character by character: each line break as one space, and all else as it
is. -/
def Flattens (text line : String) : Prop :=
  List.Forall₂ (fun c shown => (c = '\n' → shown = ' ') ∧ (c ≠ '\n' → shown = c))
    text.toList line.toList

theorem flattens_oneLine (text : String) : Flattens text (oneLine text) := by
  rw [Flattens, oneLine, String.toList_ofList, List.forall₂_map_right_iff]
  refine List.forall₂_same.mpr fun c _ => ⟨fun breaks => ?_, fun keeps => ?_⟩
  · rw [breaks]
    rfl
  · exact if_neg (by simpa using keeps)

/-- The line of a failure tells the failure and the whole chain behind it, each link once, after a
heading that shows the tag unless the failure names its provider. The line is flat: it has no line
break, and as many characters as what it tells. -/
theorem line_tells (tag : Option String) (failure : Failure)
    : ∃ heading wordings,
        Heading failure tag heading
        ∧ (∀ others, Chain (.failure failure) others ↔ others = wordings)
        ∧ Flattens (told heading wordings) (failure.line tag)
        ∧ '\n' ∉ (failure.line tag).toList
        ∧ (failure.line tag).length = (told heading wordings).length := by
  obtain ⟨heading, heads⟩ := exists_heading failure tag
  have flat : failure.line tag = oneLine (told heading (failure.message :: failure.causes)) := by
    rw [line, lineText_eq_told heads]
  have chain (others : List String)
      : Chain (.failure failure) others ↔ others = failure.message :: failure.causes :=
    ⟨fun other => other.unique (chain_failure failure), fun same => same ▸ chain_failure failure⟩
  refine ⟨heading, _, heads, chain, ?_⟩
  rw [flat]
  exact ⟨flattens_oneLine _, not_mem_oneLine _, length_oneLine _⟩

/-- The outermost context comes first, and a tag may hold line breaks as well. -/
example
    : (internal ["outer", "in\nner", "boom"]).line (some "a\nb")
      = "error[a b]: Internal error: outer: in ner: boom" := by
  decide +kernel

/-- A fault of a source of the settings is told together with the one that it wraps. -/
example
    : (ofConfig (.source "no TOML")).line none
      = "error: Configuration error: config: Configuration error: no TOML: no TOML" := by
  decide +kernel

end Courier.Failure
