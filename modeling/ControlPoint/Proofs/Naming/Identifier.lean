import Mathlib
import ControlPoint.Naming.Identifier
import ControlPoint.Proofs.Naming.Scope
import ControlPoint.Proofs.Text.Trim

namespace ControlPoint.Naming

open Text

theorem isWordChar_toUpper {c : Char} (hword : isWordChar c = true) :
    isWordChar c.toUpper = true := by
  by_cases hlower : c.isLower = true
  · simp [isWordChar, Char.isAlphanum, Char.isAlpha, hlower]
  · rwa [Char.toUpper_eq_of_not_isLower hlower]

theorem isWordChar_toLower {c : Char} (hword : isWordChar c = true) :
    isWordChar c.toLower = true := by
  by_cases hupper : c.isUpper = true
  · have halpha : c.toLower.isAlpha = true := by simp [Char.isAlpha, hupper]
    simp [isWordChar, Char.isAlphanum, halpha]
  · rwa [Char.toLower_eq_of_not_isUpper hupper]

/-- What is no letter is the lower case of nothing else. -/
theorem toLower_eq_iff {c d : Char} (hd : d.isAlpha = false) : c.toLower = d ↔ c = d := by
  have hnot : d.isUpper = false ∧ d.isLower = false := by simpa [Char.isAlpha] using hd
  constructor
  · intro h
    by_cases hupper : c.isUpper = true
    · have hlower : c.toLower.isLower = true := by simp [Char.isAlpha, hupper]
      rw [h, hnot.2] at hlower
      cases hlower
    · rwa [Char.toLower_eq_of_not_isUpper hupper] at h
  · rintro rfl
    exact Char.toLower_eq_of_not_isUpper (by simp [hnot.1])

theorem isAlpha_of_isDigit {c : Char} (hdigit : c.isDigit = true) : c.isAlpha = false := by
  simp only [Char.isDigit, Char.isAlpha, Char.isUpper, Char.isLower, Bool.and_eq_true,
    Bool.or_eq_false_iff, Bool.and_eq_false_imp, decide_eq_true_eq, decide_eq_false_iff_not,
    ge_iff_le, UInt32.le_iff_toNat_le] at hdigit ⊢
  simp at hdigit ⊢
  omega

/-- Digits have no case. -/
@[simp] theorem isDigit_toLower (c : Char) : c.toLower.isDigit = c.isDigit := by
  rw [Bool.eq_iff_iff]
  constructor
  · intro hlower
    rwa [← (toLower_eq_iff (isAlpha_of_isDigit hlower)).mp rfl] at hlower
  · intro hdigit
    rwa [(toLower_eq_iff (isAlpha_of_isDigit hdigit)).mpr rfl]

theorem isWordChar_of_isDigit {c : Char} (hdigit : c.isDigit = true) : isWordChar c = true := by
  simp [isWordChar, Char.isAlphanum, hdigit]

theorem isBlank_of_isWordChar {c : Char} (hword : isWordChar c = true) : isBlank c = false := by
  have hascii : 0x30 ≤ c.toNat ∧ c.toNat < 0x80 := by
    simp only [isWordChar, Char.isAlphanum, Char.isAlpha, Char.isUpper, Char.isLower, Char.isDigit,
      Bool.or_eq_true, Bool.and_eq_true, decide_eq_true_eq, beq_iff_eq, ge_iff_le,
      UInt32.le_iff_toNat_le] at hword
    rcases hword with ((h | h) | h) | rfl
    · simp at h; omega
    · simp at h; omega
    · simp at h; omega
    · decide
  simp only [isBlank, Bool.or_eq_false_iff, Bool.and_eq_false_imp, decide_eq_true_eq,
    decide_eq_false_iff_not, beq_eq_false_iff_ne]
  omega

theorem isWordChar_of_mem_keepWord {started dropped : Bool} {cs : List Char} :
    ∀ c ∈ keepWord started dropped cs, isWordChar c = true := by
  induction cs generalizing started dropped with
  | nil => simp [keepWord]
  | cons first rest ih =>
    intro c hc
    unfold keepWord at hc
    split at hc
    · rename_i hfirst
      rcases List.mem_cons.mp hc with rfl | hc
      · split
        · exact isWordChar_toUpper hfirst
        · exact hfirst
      · exact ih c hc
    · exact ih c hc

theorem isWordChar_of_mem_lowerHead {cs : List Char} (hword : ∀ c ∈ cs, isWordChar c = true) :
    ∀ c ∈ lowerHead cs, isWordChar c = true := by
  intro c hc
  rcases List.mem_append.mp hc with hc | hc
  · obtain ⟨d, hd, rfl⟩ := List.mem_map.mp hc
    exact isWordChar_toLower (hword d (List.mem_of_mem_take hd))
  · exact hword c (List.mem_of_mem_drop hc)

/-- Up to their case, the characters kept are those of the text that identifiers may have. -/
theorem map_toLower_keepWord (started dropped : Bool) (cs : List Char) :
    (keepWord started dropped cs).map Char.toLower = (cs.filter isWordChar).map Char.toLower := by
  induction cs generalizing started dropped with
  | nil => rfl
  | cons c rest ih =>
    cases hc : isWordChar c with
    | false => simp [keepWord, hc, ih]
    | true =>
      have hraised : (if started && dropped then c.toUpper else c).toLower = c.toLower := by
        split <;> simp
      simpa [keepWord, hc, ih] using hraised

/-- White space at the ends of a text has no part in what is made of it. -/
theorem map_toLower_kept (cs : List Char) :
    (keepWord false false (trimChars cs)).map Char.toLower =
      (cs.filter isWordChar).map Char.toLower := by
  rw [map_toLower_keepWord, trimChars, filter_trimWhere fun _ => isBlank_of_isWordChar]

theorem map_toLower_shapeHead (form : Form) (cs : List Char) :
    (shapeHead form cs).map Char.toLower = cs.map Char.toLower := by
  cases form with
  | type => cases cs <;> simp [shapeHead, raiseHead]
  | parameter =>
    have hlowered (l : List Char) : (l.map Char.toLower).map Char.toLower = l.map Char.toLower := by
      simp
    rw [shapeHead, lowerHead, List.map_append, hlowered, ← List.map_append, List.take_append_drop]

/-- A text of letters, digits and underscores. -/
def IsWord (text : String) : Prop :=
  ∀ c ∈ text.toList, isWordChar c = true

instance (text : String) : Decidable (IsWord text) :=
  decidable_of_iff (text.toList.all isWordChar = true) List.all_eq_true

/-- A name of letters, digits and underscores that does not start with a digit. -/
def IsIdentifier (name : String) : Prop :=
  ∃ c cs, name.toList = c :: cs ∧ c.isDigit = false ∧ ∀ x ∈ c :: cs, isWordChar x = true

/-- An identifier that does not start with a small letter, as the names of types do. -/
def IsTypeName (name : String) : Prop :=
  ∃ c cs, name.toList = c :: cs ∧ c.isDigit = false ∧ c.toUpper = c ∧
    ∀ x ∈ c :: cs, isWordChar x = true

theorem IsTypeName.isIdentifier {name : String} (hname : IsTypeName name) : IsIdentifier name := by
  obtain ⟨c, cs, hchars, hdigit, _, hword⟩ := hname
  exact ⟨c, cs, hchars, hdigit, hword⟩

theorem IsIdentifier.isWord {name : String} (hname : IsIdentifier name) : IsWord name := by
  obtain ⟨c, cs, hchars, _, hword⟩ := hname
  rwa [IsWord, hchars]

theorem IsTypeName.isWord {name : String} (hname : IsTypeName name) : IsWord name :=
  hname.isIdentifier.isWord

theorem IsIdentifier.append {name suffix : String} (hname : IsIdentifier name)
    (hsuffix : IsWord suffix) : IsIdentifier (name ++ suffix) := by
  obtain ⟨c, cs, hchars, hdigit, hword⟩ := hname
  refine ⟨c, cs ++ suffix.toList, by simp [hchars], hdigit, fun x hx => ?_⟩
  rw [← List.cons_append] at hx
  rcases List.mem_append.mp hx with hx | hx
  · exact hword x hx
  · exact hsuffix x hx

theorem IsTypeName.append {name suffix : String} (hname : IsTypeName name)
    (hsuffix : IsWord suffix) : IsTypeName (name ++ suffix) := by
  obtain ⟨c, cs, hchars, hdigit, hupper, hword⟩ := hname
  refine ⟨c, cs ++ suffix.toList, by simp [hchars], hdigit, hupper, fun x hx => ?_⟩
  rw [← List.cons_append] at hx
  rcases List.mem_append.mp hx with hx | hx
  · exact hword x hx
  · exact hsuffix x hx

private theorem isTypeName_placeholder : IsTypeName Form.type.placeholder :=
  ⟨'E', ['m', 'p', 't', 'y'], by decide, by decide, by decide, List.all_eq_true.mp (by decide)⟩

private theorem isIdentifier_placeholder (form : Form) : IsIdentifier form.placeholder := by
  cases form with
  | type => exact isTypeName_placeholder.isIdentifier
  | parameter => exact ⟨'a', ['r', 'g'], by decide, by decide, List.all_eq_true.mp (by decide)⟩

private theorem isIdentifier_guardDigit {cs : List Char} (hne : cs ≠ [])
    (hword : ∀ c ∈ cs, isWordChar c = true) : IsIdentifier (String.ofList (guardDigit cs)) := by
  obtain ⟨c, rest, rfl⟩ := List.exists_cons_of_ne_nil hne
  rw [guardDigit]
  split
  · refine ⟨'_', c :: rest, by simp, by decide, fun x hx => ?_⟩
    rcases List.mem_cons.mp hx with rfl | hx
    · decide
    · exact hword x hx
  · exact ⟨c, rest, by simp, by simpa using ‹¬ c.isDigit = true›, hword⟩

/-- What is made of a text is an identifier, whatever the text. -/
theorem sanitize_isIdentifier (form : Form) (raw : String) : IsIdentifier (sanitize form raw) := by
  unfold sanitize
  split
  · exact isIdentifier_placeholder form
  · rename_i c cs hkept
    have hword : ∀ x ∈ c :: cs, isWordChar x = true := by
      rw [← hkept]
      exact isWordChar_of_mem_keepWord
    cases form with
    | type =>
      apply isIdentifier_guardDigit
      · simp [shapeHead, raiseHead]
      · intro x hx
        rcases List.mem_cons.mp hx with rfl | hx
        · exact isWordChar_toUpper (hword c (by simp))
        · exact hword x (by simp [hx])
    | parameter =>
      apply isIdentifier_guardDigit
      · intro hnil
        have hlength := congrArg List.length hnil
        simp only [shapeHead, lowerHead, List.length_append, List.length_map, List.length_take,
          List.length_drop, List.length_cons, List.length_nil] at hlength
        omega
      · exact isWordChar_of_mem_lowerHead hword

theorem sanitize_isTypeName (raw : String) : IsTypeName (sanitize .type raw) := by
  obtain ⟨c, cs, hchars, hdigit, hword⟩ := sanitize_isIdentifier .type raw
  refine ⟨c, cs, hchars, hdigit, ?_, hword⟩
  unfold sanitize at hchars
  split at hchars
  · obtain rfl : 'E' = c := by
      have hhead := congrArg List.head? hchars
      simpa [Form.placeholder] using hhead
    decide
  · rename_i d ds _
    simp only [String.toList_ofList, shapeHead, raiseHead, guardDigit] at hchars
    split at hchars
    · obtain ⟨rfl, _⟩ := List.cons.inj hchars
      decide
    · obtain ⟨rfl, _⟩ := List.cons.inj hchars
      simp

private theorem keepWord_of_isWordChar {cs : List Char} (started : Bool)
    (hword : ∀ c ∈ cs, isWordChar c = true) : keepWord started false cs = cs := by
  induction cs generalizing started with
  | nil => rfl
  | cons c rest ih =>
    have hc := hword c (by simp)
    have hrest := ih true fun x hx => hword x (by simp [hx])
    simp [keepWord, hc, hrest]

private theorem trimChars_of_isWordChar {cs : List Char} (hword : ∀ c ∈ cs, isWordChar c = true) :
    trimChars cs = cs := by
  have hfront (l : List Char) (hl : ∀ c ∈ l, isWordChar c = true) : l.dropWhile isBlank = l := by
    cases l with
    | nil => rfl
    | cons c rest =>
      rw [List.dropWhile_cons_of_neg]
      simp [isBlank_of_isWordChar (hl c (by simp))]
  unfold trimChars trimWhere
  rw [hfront cs hword, hfront cs.reverse (by simpa using hword), List.reverse_reverse]

/-- The name of a type is left as it is. -/
theorem sanitize_of_isTypeName {name : String} (hname : IsTypeName name) :
    sanitize .type name = name := by
  obtain ⟨c, cs, hchars, hdigit, hupper, hword⟩ := hname
  unfold sanitize
  rw [hchars, trimChars_of_isWordChar hword, keepWord_of_isWordChar false hword]
  apply String.toList_inj.mp
  simp [shapeHead, raiseHead, guardDigit, hupper, hdigit, hchars]

/-! ### Heads of names -/

/-- The name starts with no capital. -/
def IsLowered (name : String) : Prop :=
  ∀ c ∈ name.toList.head?, c.isUpper = false

theorem lowerCount_eq_zero_iff {first : Char} {rest : List Char} :
    lowerCount (first :: rest) = 0 ↔ first.isUpper = false := by
  by_cases hfirst : first.isUpper = true
  · simp only [lowerCount, List.takeWhile_cons_of_pos hfirst, List.length_cons, hfirst,
      Bool.true_eq_false, iff_false]
    split
    · rename_i next _
      by_cases hacronym : next.isLower = true ∧ 1 < (rest.takeWhile Char.isUpper).length + 1
      · rw [if_pos (by simpa using hacronym)]
        omega
      · rw [if_neg (by simpa using hacronym)]
        omega
    · exact Nat.succ_ne_zero _
  · rw [Bool.not_eq_true] at hfirst
    simp [lowerCount, hfirst, List.takeWhile_cons_of_neg]

theorem head_lowerHead (cs : List Char) : ∀ c ∈ (lowerHead cs).head?, c.isUpper = false := by
  cases cs with
  | nil => simp [lowerHead]
  | cons first rest =>
    cases hcount : lowerCount (first :: rest) with
    | zero =>
      rw [lowerHead, hcount]
      simpa using lowerCount_eq_zero_iff.mp hcount
    | succ n =>
      rw [lowerHead, hcount]
      simp

/-- The name of a parameter starts with no capital. -/
theorem sanitize_isLowered (raw : String) : IsLowered (sanitize .parameter raw) := by
  unfold sanitize
  split
  · simp [IsLowered, Form.placeholder]
  · rename_i first rest _
    rw [IsLowered, String.toList_ofList, shapeHead]
    have hhead := head_lowerHead (first :: rest)
    cases hshape : lowerHead (first :: rest) with
    | nil => simp [guardDigit]
    | cons c cs =>
      rw [hshape] at hhead
      rw [guardDigit]
      split
      · simp
      · exact hhead

/-- The name of a parameter is left as it is. -/
theorem sanitize_of_isLowered {name : String} (hname : IsIdentifier name)
    (hlowered : IsLowered name) : sanitize .parameter name = name := by
  obtain ⟨c, cs, hchars, hdigit, hword⟩ := hname
  have hcount : lowerCount (c :: cs) = 0 :=
    lowerCount_eq_zero_iff.mpr (hlowered c (by rw [hchars]; rfl))
  unfold sanitize
  rw [hchars, trimChars_of_isWordChar hword, keepWord_of_isWordChar false hword]
  apply String.toList_inj.mp
  simp [shapeHead, lowerHead, guardDigit, hcount, hdigit, hchars]

/-- The name of a type starts with a capital or an underscore. -/
theorem IsTypeName.head {name : String} (hname : IsTypeName name) :
    ∃ c, name.toList.head? = some c ∧ (c.isUpper = true ∨ c = '_') := by
  obtain ⟨c, cs, hchars, hdigit, hupper, hword⟩ := hname
  refine ⟨c, by rw [hchars]; rfl, ?_⟩
  have hlower : c.isLower = false := by
    rw [← hupper]
    simp
  simpa [isWordChar, Char.isAlphanum, Char.isAlpha, hlower, hdigit] using
    hword c (List.mem_cons_self ..)

/-! ### Free names -/

/-- A free name is an identifier if the name asked for is one: nothing but digits is added. -/
theorem freeName_isIdentifier (s : Scope) {base : String} (hbase : IsIdentifier base) :
    IsIdentifier (s.freeName base) := by
  obtain ⟨suffix, heq, hdigits⟩ := s.freeName_eq base
  rw [heq]
  exact hbase.append fun c hc => isWordChar_of_isDigit (hdigits c hc)

theorem freeNames_isIdentifier (s : Scope) {bases : List String}
    (hbases : ∀ base ∈ bases, IsIdentifier base) :
    ∀ name ∈ s.freeNames bases, IsIdentifier name := by
  induction bases generalizing s with
  | nil => simp [Scope.freeNames]
  | cons base rest ih =>
    rw [List.forall_mem_cons] at hbases
    rw [Scope.freeNames, List.forall_mem_cons]
    exact ⟨freeName_isIdentifier s hbases.1, ih _ hbases.2⟩

theorem freeName_isTypeName (s : Scope) {base : String} (hbase : IsTypeName base) :
    IsTypeName (s.freeName base) := by
  obtain ⟨suffix, heq, hdigits⟩ := s.freeName_eq base
  rw [heq]
  exact hbase.append fun c hc => isWordChar_of_isDigit (hdigits c hc)

/-- A name that is taken is numbered at its end. -/
theorem head_freeName (s : Scope) {base : String} (hbase : IsIdentifier base) :
    (s.freeName base).toList.head? = base.toList.head? := by
  obtain ⟨suffix, heq, -⟩ := s.freeName_eq base
  obtain ⟨c, cs, hchars, -⟩ := hbase
  rw [heq, String.toList_append, hchars]
  rfl

theorem mem_freeNames {s : Scope} {bases : List String} {name : String}
    (hname : name ∈ s.freeNames bases) : ∃ t : Scope, ∃ base ∈ bases, name = t.freeName base := by
  induction bases generalizing s with
  | nil => simp [Scope.freeNames] at hname
  | cons base rest ih =>
    rcases List.mem_cons.mp hname with rfl | hname
    · exact ⟨s, base, List.mem_cons_self .., rfl⟩
    · obtain ⟨t, other, hother, rfl⟩ := ih hname
      exact ⟨t, other, List.mem_cons_of_mem _ hother, rfl⟩

end ControlPoint.Naming
