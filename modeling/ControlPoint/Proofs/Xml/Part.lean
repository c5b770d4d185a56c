import Mathlib
import ControlPoint.Proofs.Text.Cut
import ControlPoint.Xml.Part
import ControlPoint.Xml.Written

namespace ControlPoint.Xml

open Text

/-- A text that a document of the first edition may hold. -/
def IsAllowed (text : String) : Prop :=
  ∀ c ∈ text.toList, Version.first.allows c = true

instance (text : String) : Decidable (IsAllowed text) :=
  decidable_of_iff (text.toList.all Version.first.allows = true) List.all_eq_true

/-! ### Texts and values -/

theorem resolveFrom_escapedInText {c : Char} (hc : Version.first.allows c = true)
    (rest : List Char) :
    resolveFrom .first none (escapedInText c ++ rest) =
      (resolveFrom .first none rest).map (c :: ·) := by
  unfold escapedInText
  split
  · simp_all [resolveFrom, referenced?, Markup.predefinedEntity?]
  split
  · simp_all [resolveFrom, referenced?, Markup.predefinedEntity?]
  split
  · simp_all [resolveFrom, referenced?, Markup.predefinedEntity?]
  · simp_all [resolveFrom, Version.allowsPlain]

theorem resolveFrom_escapedInValue {c : Char} (hc : Version.first.allows c = true)
    (rest : List Char) :
    resolveFrom .first none (escapedInValue c ++ rest) =
      (resolveFrom .first none rest).map (c :: ·) := by
  have hfeed : referenced? .first ['#', 'x', 'A'] = some '\n' := by decide +kernel
  have hreturn : referenced? .first ['#', 'x', 'D'] = some '\r' := by decide +kernel
  unfold escapedInValue
  split
  · simp_all [resolveFrom, referenced?, Markup.predefinedEntity?]
  split
  · simp_all [resolveFrom, referenced?, Markup.predefinedEntity?]
  split
  · simp_all [resolveFrom]
  split
  · simp_all [resolveFrom]
  · exact resolveFrom_escapedInText hc rest

/-- What is resolved character by character is resolved as a whole. -/
theorem resolved?_flatMap {escaped : Char → List Char} {cs : List Char}
    (hescaped : ∀ c ∈ cs, ∀ rest, resolveFrom .first none (escaped c ++ rest) =
      (resolveFrom .first none rest).map (c :: ·)) :
    resolved? .first (cs.flatMap escaped) = some cs := by
  induction cs with
  | nil => rfl
  | cons c rest ih =>
    rw [List.forall_mem_cons] at hescaped
    have hrest : resolveFrom .first none (rest.flatMap escaped) = some rest := ih hescaped.2
    rw [resolved?, List.flatMap_cons, hescaped.1, hrest, Option.map_some]

theorem resolved?_escapedInText {text : String} (htext : IsAllowed text) :
    resolved? .first (text.toList.flatMap escapedInText) = some text.toList :=
  resolved?_flatMap fun c hc => resolveFrom_escapedInText (htext c hc)

theorem resolved?_escapedInValue {value : String} (hvalue : IsAllowed value) :
    resolved? .first (value.toList.flatMap escapedInValue) = some value.toList :=
  resolved?_flatMap fun c hc => resolveFrom_escapedInValue (hvalue c hc)

/-- Brackets do not stand in texts as they are. -/
theorem escapedInText_brackets (c : Char) :
    '<' ∉ escapedInText c ∧ '>' ∉ escapedInText c := by
  unfold escapedInText
  split
  · decide
  split
  · decide
  split
  · decide
  · rename_i hless hgreater
    rw [beq_iff_eq] at hless hgreater
    exact ⟨by simp [Ne.symm hless], by simp [Ne.symm hgreater]⟩

/-- Neither the bracket that opens a tag nor the quote that ends a value stands in a value. -/
theorem escapedInValue_marks (c : Char) : '<' ∉ escapedInValue c ∧ '"' ∉ escapedInValue c := by
  unfold escapedInValue
  split
  · decide
  split
  · decide
  split
  · decide
  split
  · decide
  · refine ⟨(escapedInText_brackets c).1, ?_⟩
    rename_i hquote _ _ _
    rw [beq_iff_eq] at hquote
    unfold escapedInText
    split
    · decide
    split
    · decide
    split
    · decide
    · simp [Ne.symm hquote]

theorem not_mem_flatMap {escaped : Char → List Char} {mark : Char}
    (hescaped : ∀ c, mark ∉ escaped c) (cs : List Char) : mark ∉ cs.flatMap escaped := by
  intro hmem
  obtain ⟨c, -, hc⟩ := List.mem_flatMap.mp hmem
  exact hescaped c hc

theorem cutQuoted_escapedInValue {value : String} (hvalue : IsAllowed value) (rest : List Char) :
    cutQuoted .first ('"' :: (value.toList.flatMap escapedInValue ++ '"' :: rest)) =
      some (value.toList, rest) := by
  have hbracket := not_mem_flatMap (fun c => (escapedInValue_marks c).1) value.toList
  have hquote := not_mem_flatMap (fun c => (escapedInValue_marks c).2) value.toList
  rw [cutQuoted, cutAt_append hquote]
  simp only [beq_self_eq_true, Bool.true_or, if_true, Option.bind_eq_bind, Option.bind_some,
    List.contains_eq_mem, hbracket, decide_false, Bool.false_eq_true, if_false,
    resolved?_escapedInValue hvalue]

/-! ### Names -/

theorem isNameChar_of_isNameStart {c : Char} (hc : isNameStart c = true) :
    isNameChar c = true := by
  simp [isNameChar, hc]

theorem isNameChar_of_isName {cs : List Char} (hname : isName cs = true) :
    ∀ c ∈ cs, isNameChar c = true := by
  cases cs with
  | nil => simp
  | cons c rest =>
    simp only [isName, Bool.and_eq_true, List.all_eq_true] at hname
    rw [List.forall_mem_cons]
    exact ⟨isNameChar_of_isNameStart hname.1, hname.2⟩

/-- A name is cut off whole where what follows cannot go on with it. -/
theorem cutName_append {name rest : List Char} (hname : isName name = true)
    (hrest : ∀ c ∈ rest.head?, isNameChar c = false) :
    cutName (name ++ rest) = some (name, rest) := by
  have hchars := isNameChar_of_isName hname
  have htake : rest.takeWhile isNameChar = [] := by
    cases rest with
    | nil => rfl
    | cons c rest => simp [hrest c rfl]
  have hdrop : rest.dropWhile isNameChar = rest := by
    cases rest with
    | nil => rfl
    | cons c rest => simp [hrest c rfl]
  rw [cutName, List.takeWhile_append_of_pos hchars, List.dropWhile_append_of_pos hchars, htake,
    hdrop, List.append_nil, if_pos hname]

theorem isName_of_isQualifiedName {name : List Char} (hname : isQualifiedName name = true) :
    isName name = true := by
  rw [isQualifiedName, Bool.and_eq_true] at hname
  exact hname.1

theorem cutQualifiedName_append {name rest : List Char} (hname : isQualifiedName name = true)
    (hrest : ∀ c ∈ rest.head?, isNameChar c = false) :
    cutQualifiedName (name ++ rest) = some (name, rest) := by
  simp [cutQualifiedName, cutName_append (isName_of_isQualifiedName hname) hrest, hname]

/-- A name begins with nothing that could be taken for something else in a tag. -/
theorem exists_cons_of_isName {name : List Char} (hname : isName name = true) :
    ∃ c rest, name = c :: rest ∧ c ∉ ['/', '!', '?', '>', ' ', '\t', '\n', '\r'] := by
  cases name with
  | nil => simp [isName] at hname
  | cons c rest =>
    simp only [isName, Bool.and_eq_true] at hname
    refine ⟨c, rest, rfl, fun hc => ?_⟩
    have hnone : ∀ c ∈ ['/', '!', '?', '>', ' ', '\t', '\n', '\r'], isNameStart c = false := by
      simp [isNameStart, isWithin, Char.isAlpha, Char.isUpper, Char.isLower]
    rw [hnone c hc] at hname
    exact absurd hname.1 (by decide)

/-- A name without a colon is a qualified name. -/
theorem isQualifiedName_of_isName {name : List Char} (hname : isName name = true)
    (hcolon : ':' ∉ name) : isQualifiedName name = true := by
  have hpieces : splitWhere (· == ':') name = [name] :=
    splitWhere_of_forall_not fun c hc => by
      rw [beq_eq_false_iff_ne]
      rintro rfl
      exact hcolon hc
  rw [isQualifiedName, hname, hpieces]
  rfl

/-- What ends a name in a tag. -/
theorem isNameChar_eq_false : ∀ c ∈ ['=', ' ', '>'], isNameChar c = false := by
  simp [isNameChar, isNameStart, isWithin, Char.isAlpha, Char.isUpper, Char.isLower, Char.isDigit]

/-! ### Tags -/

/-- The name and the attributes of a tag that is read as it is written. -/
structure IsTag (name : String) (attributes : List (String × String)) : Prop where
  name : isQualifiedName name.toList = true
  keys : ∀ a ∈ attributes, isQualifiedName a.1.toList = true
  values : ∀ a ∈ attributes, IsAllowed a.2

/-- An attribute as it stands in a tag. -/
def attributeText (key value : String) : List Char :=
  ' ' :: key.toList ++ '=' :: '"' :: value.toList.flatMap escapedInValue ++ ['"']

/-- White space goes before an attribute, and nothing of what could stand there instead begins
    it. -/
theorem attributesFrom_blank {inside : List Char} {c : Char} {cs : List Char}
    (hinside : inside = c :: cs) (hc : c ∉ ['/', '!', '?', '>', ' ', '\t', '\n', '\r'])
    (fuel : Nat) :
    attributesFrom .first (fuel + 1) (' ' :: inside) = (do
      let (name, rest) ← cutQualifiedName inside
      let (value, rest) ← cutValue .first rest
      let (others, isEmpty, rest) ← attributesFrom .first fuel rest
      some ((String.ofList name, String.ofList value) :: others, isEmpty, rest)) := by
  have hdrop : (' ' :: inside).dropWhile isMarkupBlank = inside := by
    simp_all [isMarkupBlank]
  conv_lhs => unfold attributesFrom
  rw [hdrop]
  split
  · obtain ⟨rfl, -⟩ := List.cons.inj hinside
    simp at hc
  · obtain ⟨rfl, -⟩ := List.cons.inj hinside
    simp at hc
  · rename_i heq
    obtain ⟨rfl, -⟩ := List.cons.inj heq
    simp [isMarkupBlank]
  · simp_all

theorem attributesFrom_cons {key value : String} (hkey : isQualifiedName key.toList = true)
    (hvalue : IsAllowed value) (fuel : Nat) (rest : List Char) :
    attributesFrom .first (fuel + 1) (attributeText key value ++ rest) =
      (attributesFrom .first fuel rest).map fun (others, isEmpty, after) =>
        ((key, value) :: others, isEmpty, after) := by
  let after := '=' :: '"' :: (value.toList.flatMap escapedInValue ++ '"' :: rest)
  obtain ⟨c, cs, hname, hc⟩ := exists_cons_of_isName (isName_of_isQualifiedName hkey)
  have hcut : cutQualifiedName (key.toList ++ after) = some (key.toList, after) :=
    cutQualifiedName_append hkey (by simp [after, isNameChar_eq_false])
  have hequals : cutValue .first after = some (value.toList, rest) := by
    simp [cutValue, after, isMarkupBlank, cutQuoted_escapedInValue hvalue rest]
  have htext : attributeText key value ++ rest = ' ' :: (key.toList ++ after) := by
    simp [attributeText, after]
  rw [htext, attributesFrom_blank (by rw [hname, List.cons_append]) hc, hcut]
  simp only [Option.bind_eq_bind, Option.bind_some, hequals, String.ofList_toList]
  cases attributesFrom .first fuel rest <;> rfl

/-- The attributes of a tag are read one by one up to the end of the tag. -/
theorem attributesFrom_append {attributes : List (String × String)}
    (hkeys : ∀ a ∈ attributes, isQualifiedName a.1.toList = true)
    (hvalues : ∀ a ∈ attributes, IsAllowed a.2) {ending rest : List Char} {isEmpty : Bool}
    (hending : ∀ fuel, attributesFrom .first (fuel + 1) ending = some ([], isEmpty, rest))
    {fuel : Nat} (hfuel : attributes.length < fuel) :
    attributesFrom .first fuel
        ((attributes.flatMap fun a => attributeText a.1 a.2) ++ ending) =
      some (attributes, isEmpty, rest) := by
  induction attributes generalizing fuel with
  | nil =>
    obtain ⟨fuel, rfl⟩ := Nat.exists_eq_succ_of_ne_zero hfuel.ne'
    exact hending fuel
  | cons a others ih =>
    rw [List.forall_mem_cons] at hkeys hvalues
    rw [List.length_cons] at hfuel
    obtain ⟨fuel, rfl⟩ := Nat.exists_eq_succ_of_ne_zero (Nat.zero_lt_of_lt hfuel).ne'
    rw [List.flatMap_cons, List.append_assoc, attributesFrom_cons hkeys.1 hvalues.1,
      ih hkeys.2 hvalues.2 (by omega)]
    rfl

theorem length_le_attributeTexts (attributes : List (String × String)) :
    attributes.length ≤ (attributes.flatMap fun a => attributeText a.1 a.2).length := by
  induction attributes with
  | nil => simp
  | cons a others ih =>
    rw [List.flatMap_cons, List.length_append, List.length_cons]
    simp only [attributeText, List.length_append, List.length_cons] at ih ⊢
    omega

theorem tagText_eq (name : String) (attributes : List (String × String)) :
    tagText name attributes =
      name.toList ++ attributes.flatMap fun a => attributeText a.1 a.2 := rfl

/-- A start tag is read as it is written, whichever way it ends. -/
theorem cutPart_tagText {name : String} {attributes : List (String × String)}
    (htag : IsTag name attributes) {ending rest : List Char} {isEmpty : Bool}
    (hending : ∀ fuel, attributesFrom .first (fuel + 1) ending = some ([], isEmpty, rest))
    (hhead : ∀ c ∈ ending.head?, isNameChar c = false) :
    cutPart .first ('<' :: (tagText name attributes ++ ending)) =
      some (if isEmpty then .empty name attributes else .start name attributes, rest) := by
  obtain ⟨c, cs, hname, hc⟩ := exists_cons_of_isName (isName_of_isQualifiedName htag.name)
  let inside := (attributes.flatMap fun a => attributeText a.1 a.2) ++ ending
  have hinside : ∀ c ∈ inside.head?, isNameChar c = false := by
    cases attributes with
    | nil => exact hhead
    | cons a others =>
      simp [inside, attributeText, isNameChar_eq_false]
  have htext : tagText name attributes ++ ending = name.toList ++ inside := by
    rw [tagText_eq, List.append_assoc]
  have hpart : cutPart .first ('<' :: (name.toList ++ inside)) =
      cutStartTag .first (name.toList ++ inside) := by
    rw [hname, List.cons_append, cutPart]
    all_goals simp_all
  have hlength := length_le_attributeTexts attributes
  have hfuel : attributes.length < inside.length + 1 := by
    simp only [inside, List.length_append]
    omega
  have hattributes := attributesFrom_append htag.keys htag.values hending hfuel
  rw [htext, hpart, cutStartTag, cutQualifiedName_append htag.name hinside]
  simp only [Option.bind_eq_bind, Option.bind_some]
  rw [hattributes]
  simp

theorem cutPart_start {name : String} {attributes : List (String × String)}
    (htag : IsTag name attributes) (rest : List Char) :
    cutPart .first ('<' :: (tagText name attributes ++ '>' :: rest)) =
      some (.start name attributes, rest) :=
  @cutPart_tagText name attributes htag _ rest false
    (fun fuel => by simp [attributesFrom, isMarkupBlank]) (by simp [isNameChar_eq_false])

theorem cutPart_empty {name : String} {attributes : List (String × String)}
    (htag : IsTag name attributes) (rest : List Char) :
    cutPart .first ('<' :: (tagText name attributes ++ " />".toList ++ rest)) =
      some (.empty name attributes, rest) := by
  rw [List.append_assoc]
  exact @cutPart_tagText name attributes htag _ rest true
    (fun fuel => by simp [attributesFrom, isMarkupBlank]) (by simp [isNameChar_eq_false])

theorem cutPart_close {name : String} (hname : isQualifiedName name.toList = true)
    (rest : List Char) :
    cutPart .first ("</".toList ++ name.toList ++ '>' :: rest) = some (.close name, rest) := by
  have hcut : cutQualifiedName (name.toList ++ '>' :: rest) = some (name.toList, '>' :: rest) :=
    cutQualifiedName_append hname (by simp [isNameChar_eq_false])
  have hpart : cutPart .first ("</".toList ++ name.toList ++ '>' :: rest) =
      cutCloseTag (name.toList ++ '>' :: rest) := rfl
  rw [hpart, cutCloseTag, hcut]
  simp [isMarkupBlank]

/-- A text goes as far as the next tag. -/
theorem cutPart_text {raw : List Char} (hne : raw ≠ []) (hraw : '<' ∉ raw) (tail : List Char) :
    cutPart .first (raw ++ '<' :: tail) = some (.text raw, '<' :: tail) := by
  obtain ⟨c, cs, rfl⟩ := List.exists_cons_of_ne_nil hne
  have hbefore : ∀ x ∈ c :: cs, (x != '<') = true := by
    intro x hx
    rw [bne_iff_ne]
    rintro rfl
    exact hraw hx
  have htext : cutPart .first (c :: cs ++ '<' :: tail) =
      some (.text ((c :: cs ++ '<' :: tail).takeWhile (· != '<')),
        (c :: cs ++ '<' :: tail).dropWhile (· != '<')) := by
    rw [List.mem_cons, not_or] at hraw
    unfold cutPart
    split
    all_goals simp_all
  rw [htext, List.takeWhile_append_of_pos hbefore, List.dropWhile_append_of_pos hbefore]
  simp

/-! ### The parts of a text -/

theorem partsFrom_of_cutPart {cs rest : List Char} {part : Part} (hne : cs ≠ [])
    (hcut : cutPart .first cs = some (part, rest)) (fuel : Nat) :
    partsFrom .first (fuel + 1) cs = (partsFrom .first fuel rest).map (part :: ·) := by
  obtain ⟨c, cs, rfl⟩ := List.exists_cons_of_ne_nil hne
  rw [partsFrom, hcut]
  · cases hrest : partsFrom .first fuel rest <;> simp [hrest]
  · simp

/-- The parts that a text is made of, whatever follows it. -/
structure HasParts (cs : List Char) (parts : List Part) : Prop where
  length_le : parts.length ≤ cs.length
  partsFrom_append : ∀ fuel rest,
    partsFrom .first (fuel + parts.length) (cs ++ rest) =
      (partsFrom .first fuel rest).map (parts ++ ·)

theorem HasParts.nil : HasParts [] [] where
  length_le := le_rfl
  partsFrom_append fuel rest := by simp

theorem HasParts.append {cs ds : List Char} {parts others : List Part} (hcs : HasParts cs parts)
    (hds : HasParts ds others) : HasParts (cs ++ ds) (parts ++ others) where
  length_le := by
    have hparts := hcs.length_le
    have hothers := hds.length_le
    simp only [List.length_append]
    omega
  partsFrom_append fuel rest := by
    have hfuel : fuel + (parts ++ others).length = fuel + others.length + parts.length := by
      rw [List.length_append]
      omega
    rw [hfuel, List.append_assoc, hcs.partsFrom_append, hds.partsFrom_append, Option.map_map]
    simp [Function.comp_def]

/-- A piece of markup is one part. -/
theorem HasParts.of_cutPart {cs : List Char} {part : Part} (hne : cs ≠ [])
    (hcut : ∀ rest, cutPart .first (cs ++ rest) = some (part, rest)) : HasParts cs [part] where
  length_le := List.length_pos_of_ne_nil hne
  partsFrom_append fuel rest :=
    partsFrom_of_cutPart (by simp [hne]) (hcut rest) fuel

/-- A text before markup is a part of its own. -/
theorem HasParts.text_append {raw tail : List Char} {parts : List Part} (hne : raw ≠ [])
    (hraw : '<' ∉ raw) (htail : HasParts ('<' :: tail) parts) :
    HasParts (raw ++ '<' :: tail) (.text raw :: parts) where
  length_le := by
    have hparts := htail.length_le
    have hpos := List.length_pos_of_ne_nil hne
    simp only [List.length_append, List.length_cons] at hparts ⊢
    omega
  partsFrom_append fuel rest := by
    have hcut := cutPart_text hne hraw (tail ++ rest)
    rw [List.length_cons, ← Nat.add_assoc, List.append_assoc, List.cons_append,
      partsFrom_of_cutPart (by simp) hcut, ← List.cons_append, htail.partsFrom_append,
      Option.map_map]
    rfl

/-- The parts of a whole document. -/
theorem HasParts.parts?_eq {cs : List Char} {parts : List Part} (hparts : HasParts cs parts) :
    parts? .first cs = some parts := by
  have hlength := hparts.length_le
  have hfuel : cs.length + 1 = cs.length - parts.length + 1 + parts.length := by omega
  have happend := hparts.partsFrom_append (cs.length - parts.length + 1) []
  rw [List.append_nil, ← hfuel] at happend
  rw [parts?, happend]
  simp [partsFrom]

theorem hasParts_start {name : String} {attributes : List (String × String)}
    (htag : IsTag name attributes) :
    HasParts ('<' :: tagText name attributes ++ ['>']) [.start name attributes] :=
  .of_cutPart (by simp) fun rest => by simpa using cutPart_start htag rest

theorem hasParts_empty {name : String} {attributes : List (String × String)}
    (htag : IsTag name attributes) :
    HasParts ('<' :: tagText name attributes ++ " />".toList) [.empty name attributes] :=
  .of_cutPart (by simp) fun rest => by simpa using cutPart_empty htag rest

theorem hasParts_close {name : String} (hname : isQualifiedName name.toList = true) :
    HasParts ("</".toList ++ name.toList ++ ['>']) [.close name] :=
  .of_cutPart (by simp) fun rest => by simpa using cutPart_close hname rest

end ControlPoint.Xml
