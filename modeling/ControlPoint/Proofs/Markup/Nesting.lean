import Mathlib
import ControlPoint.Markup.Token

namespace ControlPoint.Markup

/-- A text, or an element with what stands inside it. An element that is written as an empty tag is
    told from one that is written as two tags with nothing between them. -/
inductive Tree
  | text (text : String)
  | empty (element : Element)
  | element (element : Element) (inside : List Tree)

namespace Tree

mutual

/-- The tokens of a tree. -/
def tokens : Tree → List Token
  | text s => [.text s]
  | empty e => [.empty e]
  | element e inside => .start e :: (forestTokens inside ++ [.close e.name])
termination_by structural t => t

/-- The tokens of trees one after another. -/
def forestTokens : List Tree → List Token
  | [] => []
  | t :: rest => t.tokens ++ forestTokens rest
termination_by structural ts => ts

end

/-- The element at the top of a tree, `none` for a text. -/
def top? : Tree → Option Element
  | text _ => none
  | empty e => some e
  | element e _ => some e

/-- What stands inside the element at the top of a tree. -/
def inside : Tree → List Tree
  | element _ inside => inside
  | _ => []

@[simp] theorem forestTokens_nil : forestTokens [] = [] := rfl

@[simp] theorem forestTokens_text (s : String) (rest : List Tree) :
    forestTokens (text s :: rest) = .text s :: forestTokens rest := rfl

@[simp] theorem forestTokens_empty (e : Element) (rest : List Tree) :
    forestTokens (empty e :: rest) = .empty e :: forestTokens rest := rfl

@[simp] theorem forestTokens_element (e : Element) (inside rest : List Tree) :
    forestTokens (element e inside :: rest) =
      .start e :: (forestTokens inside ++ .close e.name :: forestTokens rest) := by
  simp [forestTokens, tokens]

/-- What holds of no trees, of a text or an empty element before more trees, and of an element whose
    inside has it before more trees, holds of all trees. -/
@[elab_as_elim]
theorem forest_induction {P : List Tree → Prop} (ts : List Tree) (nil : P [])
    (text : ∀ s rest, P rest → P (.text s :: rest))
    (empty : ∀ e rest, P rest → P (.empty e :: rest))
    (element : ∀ e inside rest, P inside → P rest → P (.element e inside :: rest)) : P ts :=
  match ts with
  | [] => nil
  | .text s :: rest => text s rest (forest_induction rest nil text empty element)
  | .empty e :: rest => empty e rest (forest_induction rest nil text empty element)
  | .element e inside :: rest =>
    element e inside rest (forest_induction inside nil text empty element)
      (forest_induction rest nil text empty element)

@[simp] theorem forestTokens_append (first second : List Tree) :
    forestTokens (first ++ second) = forestTokens first ++ forestTokens second := by
  induction first with
  | nil => rfl
  | cons t rest ih => rw [List.cons_append, forestTokens, ih, forestTokens, List.append_assoc]

end Tree

/-! ### Open elements -/

/-- The names of the open elements after one more token, innermost first; `none` if the token closes
    something else than the innermost element. -/
def Token.nest? (opened : List String) : Token → Option (List String)
  | .start e => some (e.name :: opened)
  | .empty _ => some opened
  | .close name =>
    match opened with
    | [] => none
    | innermost :: outer => if name = innermost then some outer else none
  | .text _ => some opened

/-- The names of the elements that are open after some tokens. -/
def openNames? (opened : List String) (tokens : List Token) : Option (List String) :=
  tokens.foldlM Token.nest? opened

/-- Every element is closed that is opened, and nothing else is. -/
def WellNested (tokens : List Token) : Prop :=
  openNames? [] tokens = some []

instance (tokens : List Token) : Decidable (WellNested tokens) :=
  inferInstanceAs (Decidable (openNames? [] tokens = some []))

@[simp] theorem openNames?_nil (opened : List String) : openNames? opened [] = some opened := rfl

theorem openNames?_cons (opened : List String) (token : Token) (rest : List Token) :
    openNames? opened (token :: rest) =
      (token.nest? opened).bind fun opened => openNames? opened rest := rfl

@[simp] theorem openNames?_start (opened : List String) (e : Element) (rest : List Token) :
    openNames? opened (.start e :: rest) = openNames? (e.name :: opened) rest := rfl

@[simp] theorem openNames?_empty (opened : List String) (e : Element) (rest : List Token) :
    openNames? opened (.empty e :: rest) = openNames? opened rest := rfl

@[simp] theorem openNames?_text (opened : List String) (s : String) (rest : List Token) :
    openNames? opened (.text s :: rest) = openNames? opened rest := rfl

@[simp] theorem openNames?_close (opened : List String) (name : String) (rest : List Token) :
    openNames? (name :: opened) (.close name :: rest) = openNames? opened rest := by
  simp [openNames?, Token.nest?]

theorem openNames?_append (opened : List String) (first second : List Token) :
    openNames? opened (first ++ second) =
      (openNames? opened first).bind fun opened => openNames? opened second := by
  rw [openNames?, List.foldlM_append]
  rfl

/-- What the first token closes is open, and it is the innermost element. -/
theorem eq_cons_of_openNames?_close {opened final : List String} {name : String}
    {rest : List Token} (hopen : openNames? opened (.close name :: rest) = some final) :
    ∃ outer, opened = name :: outer ∧ openNames? outer rest = some final := by
  cases opened with
  | nil => cases hopen
  | cons innermost outer =>
    by_cases hname : name = innermost
    · subst hname
      exact ⟨outer, rfl, by simpa using hopen⟩
    · simp [openNames?, Token.nest?, hname] at hopen

theorem openNames?_forestTokens (opened : List String) (ts : List Tree) :
    openNames? opened (Tree.forestTokens ts) = some opened := by
  induction ts using Tree.forest_induction generalizing opened with
  | nil => rfl
  | text s rest ih => simpa using ih opened
  | empty e rest ih => simpa using ih opened
  | element e inside rest ihInside ih =>
    rw [Tree.forestTokens_element, openNames?_start, openNames?_append, ihInside, Option.bind_some,
      openNames?_close, ih]

/-- Tokens that close all elements they open but some, each of which holds whatever follows it. -/
inductive ForestPrefix : List Token → Prop
  | whole (ts : List Tree) : ForestPrefix (Tree.forestTokens ts)
  | cut (ts : List Tree) (e : Element) {inside : List Token} (hinside : ForestPrefix inside) :
    ForestPrefix (Tree.forestTokens ts ++ .start e :: inside)

theorem ForestPrefix.forest_append {tokens : List Token} (hpart : ForestPrefix tokens)
    (before : List Tree) : ForestPrefix (Tree.forestTokens before ++ tokens) := by
  cases hpart with
  | whole ts => exact Tree.forestTokens_append before ts ▸ .whole (before ++ ts)
  | cut ts e hinside =>
    rw [← List.append_assoc, ← Tree.forestTokens_append]
    exact .cut (before ++ ts) e hinside

/-- Tokens after which every element that was opened among them is closed are those of a forest. -/
theorem ForestPrefix.openNames? {tokens : List Token} (hpart : ForestPrefix tokens) :
    ∃ left, (∀ opened, Markup.openNames? opened tokens = some (left ++ opened)) ∧
      (left = [] → ∃ ts, Tree.forestTokens ts = tokens) := by
  induction hpart with
  | whole ts => exact ⟨[], fun opened => openNames?_forestTokens opened ts, fun _ => ⟨ts, rfl⟩⟩
  | cut ts e _ ih =>
    obtain ⟨left, hleft, -⟩ := ih
    refine ⟨left ++ [e.name], fun opened => ?_, by simp⟩
    rw [openNames?_append, openNames?_forestTokens, Option.bind_some, openNames?_start, hleft,
      List.append_assoc, List.singleton_append]

/-- Where close tags close what is open, either nothing is closed but what is opened among the
    tokens, or there is a first tag that closes the innermost element that was open before. -/
theorem forestPrefix_or_close {opened final : List String} (tokens : List Token)
    (hopen : openNames? opened tokens = some final) :
    ForestPrefix tokens ∨ ∃ ts name outer rest, opened = name :: outer ∧
      tokens = Tree.forestTokens ts ++ .close name :: rest ∧ openNames? outer rest = some final := by
  match tokens with
  | [] => exact .inl (.whole [])
  | .text s :: rest =>
    rcases forestPrefix_or_close rest hopen with hpart | ⟨ts, name, outer, rest, h⟩
    · exact .inl (hpart.forest_append [.text s])
    · obtain ⟨hopened, rfl, hfinal⟩ := h
      exact .inr ⟨.text s :: ts, name, outer, rest, hopened, rfl, hfinal⟩
  | .empty e :: rest =>
    rcases forestPrefix_or_close rest hopen with hpart | ⟨ts, name, outer, rest, h⟩
    · exact .inl (hpart.forest_append [.empty e])
    · obtain ⟨hopened, rfl, hfinal⟩ := h
      exact .inr ⟨.empty e :: ts, name, outer, rest, hopened, rfl, hfinal⟩
  | .close name :: rest =>
    obtain ⟨outer, rfl, hfinal⟩ := eq_cons_of_openNames?_close hopen
    exact .inr ⟨[], name, outer, rest, rfl, rfl, hfinal⟩
  | .start e :: rest =>
    rcases forestPrefix_or_close rest hopen with hpart | ⟨ts, name, outer, after, h⟩
    · exact .inl (.cut [] e hpart)
    · obtain ⟨hopened, hrest, hafter⟩ := h
      obtain ⟨rfl, rfl⟩ := List.cons.inj hopened
      have hshorter : after.length < rest.length := by
        rw [hrest, List.length_append, List.length_cons]
        omega
      have hwhole : Token.start e :: rest = Tree.forestTokens [.element e ts] ++ after := by
        simp [hrest]
      rw [hwhole]
      rcases forestPrefix_or_close after hafter with hpart | ⟨ts', name, outer, later, h⟩
      · exact .inl (hpart.forest_append [.element e ts])
      · obtain ⟨hopened, rfl, hlater⟩ := h
        exact .inr ⟨.element e ts :: ts', name, outer, later, hopened, by simp, hlater⟩
termination_by tokens.length
decreasing_by all_goals simp <;> omega

/-- Tokens are well nested just if they are those of trees. -/
theorem wellNested_iff (tokens : List Token) :
    WellNested tokens ↔ ∃ ts, Tree.forestTokens ts = tokens := by
  constructor
  · intro hnested
    rcases forestPrefix_or_close tokens hnested with hpart | ⟨_, _, _, _, hopened, _⟩
    · obtain ⟨left, hleft, hforest⟩ := hpart.openNames?
      have hempty := (hleft []).symm.trans hnested
      exact hforest (by simpa using hempty)
    · cases hopened
  · rintro ⟨ts, rfl⟩
    exact openNames?_forestTokens [] ts

end ControlPoint.Markup
