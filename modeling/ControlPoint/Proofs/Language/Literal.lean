import Mathlib
import ControlPoint.Language.Literal
import ControlPoint.Url.Percent

/-!
String literals read back as a compiler reads them, from the opening quote on. Main statement: the
reader comes to the end of a literal just where it was ended, and has the text that was written.
-/

namespace ControlPoint.Language

/-- The character for which another one stands after a backslash. -/
def escapeValue? : Char → Option Char
  | '"' => some '"'
  | '\\' => some '\\'
  | 'n' => some '\n'
  | 'r' => some '\r'
  | 't' => some '\t'
  | '0' => some '\x00'
  | _ => none

/-- The character of a number in four hexadecimal digits; not every number is one of a character. -/
def codeValue? (a b c d : Char) : Option Char := do
  let n := (((← Url.hexValue? a) * 16 + (← Url.hexValue? b)) * 16 + (← Url.hexValue? c)) * 16 +
    (← Url.hexValue? d)
  if n.isValidChar then some (Char.ofNat n) else none

/-- What a literal with escapes stands for, and what follows its closing quote, which is the first
    quote that is not escaped. -/
def readEscaped? : List Char → Option (List Char × List Char)
  | [] => none
  | '"' :: rest => some ([], rest)
  | '\\' :: 'u' :: a :: b :: c :: d :: rest =>
    (codeValue? a b c d).bind fun value => (readEscaped? rest).map (Prod.map (value :: ·) id)
  | '\\' :: c :: rest =>
    (escapeValue? c).bind fun value => (readEscaped? rest).map (Prod.map (value :: ·) id)
  | ['\\'] => none
  | c :: rest => (readEscaped? rest).map (Prod.map (c :: ·) id)

/-- What a literal without escapes stands for, and what follows its closing quote, which is the first
    quote that is not doubled. -/
def readDoubled? : List Char → Option (List Char × List Char)
  | [] => none
  | '"' :: '"' :: rest => (readDoubled? rest).map (Prod.map ('"' :: ·) id)
  | '"' :: rest => some ([], rest)
  | c :: rest => (readDoubled? rest).map (Prod.map (c :: ·) id)

/-- What a literal stands for after its opening quote, and what follows its closing one. -/
def readQuoted? : Language → List Char → Option (List Char × List Char)
  | csharp => readEscaped?
  | visualBasic => readDoubled?

/-- The value of the literal at the head of a source, and the source after the literal. -/
def readLiteral? (l : Language) (source : String) : Option (String × String) :=
  match source.toList with
  | '"' :: rest => (l.readQuoted? rest).map (Prod.map String.ofList String.ofList)
  | _ => none

/-- Four digits are enough for the number of a control character. -/
theorem codeValue?_hexDigits4 {c : Char} (hcontrol : isControl c = true) :
    ∃ x y z w, hexDigits4 c.toNat = [x, y, z, w] ∧ codeValue? x y z w = some c := by
  have hdigit (n : Nat) : Url.hexValue? (Nat.digitChar (n % 16)) = some (n % 16) := by
    have hall : ∀ d < 16, Url.hexValue? (Nat.digitChar d) = some d := by decide
    exact hall _ (Nat.mod_lt n (by decide))
  have hsmall : c.toNat < 0xA0 := by
    simp only [isControl, Bool.or_eq_true, Bool.and_eq_true, decide_eq_true_eq] at hcontrol
    omega
  have hnumber : ((c.toNat / 4096 % 16 * 16 + c.toNat / 256 % 16) * 16 + c.toNat / 16 % 16) * 16 +
      c.toNat % 16 = c.toNat := by omega
  have hvalid : c.toNat.isValidChar := c.valid
  refine ⟨_, _, _, _, rfl, ?_⟩
  simp only [codeValue?, hdigit, Option.bind_eq_bind, Option.bind_some, hnumber]
  rw [if_pos hvalid, Char.ofNat_toNat]

/-- After each character the reader is where the next one starts, whatever comes next. -/
theorem readEscaped?_escapedChar (c : Char) (rest : List Char) :
    readEscaped? (escapedChar c ++ rest) = (readEscaped? rest).map (Prod.map (c :: ·) id) := by
  unfold escapedChar
  split_ifs with hquote hbackslash hfeed hreturn htab hnull hcontrol
  · rw [eq_of_beq hquote]
    rfl
  · rw [eq_of_beq hbackslash]
    rfl
  · rw [eq_of_beq hfeed]
    rfl
  · rw [eq_of_beq hreturn]
    rfl
  · rw [eq_of_beq htab]
    rfl
  · rw [eq_of_beq hnull]
    rfl
  · obtain ⟨x, y, z, w, hdigits, hvalue⟩ := codeValue?_hexDigits4 hcontrol
    rw [hdigits]
    simp [readEscaped?, hvalue]
  · rw [beq_iff_eq] at hquote hbackslash
    simp [readEscaped?, hbackslash]

theorem readDoubled?_doubledChar (c : Char) (rest : List Char) :
    readDoubled? (doubledChar c ++ rest) = (readDoubled? rest).map (Prod.map (c :: ·) id) := by
  unfold doubledChar
  split_ifs with hquote
  · rw [eq_of_beq hquote]
    rfl
  · rw [beq_iff_eq] at hquote
    simp [readDoubled?, hquote]

theorem readQuoted?_literalChar (l : Language) (c : Char) (rest : List Char) :
    l.readQuoted? (l.literalChar c ++ rest) = (l.readQuoted? rest).map (Prod.map (c :: ·) id) := by
  cases l with
  | csharp => exact readEscaped?_escapedChar c rest
  | visualBasic => exact readDoubled?_doubledChar c rest

theorem readQuoted?_flatMap (l : Language) (value rest : List Char) :
    l.readQuoted? (value.flatMap l.literalChar ++ rest) =
      (l.readQuoted? rest).map (Prod.map (value ++ ·) id) := by
  induction value with
  | nil => exact (congrFun Option.map_id (l.readQuoted? rest)).symm
  | cons c value ih =>
    rw [List.flatMap_cons, List.append_assoc, l.readQuoted?_literalChar, ih, Option.map_map]
    rfl

/-- A quote ends a literal, unless quotes are doubled and another one follows. -/
theorem readQuoted?_quote_iff (l : Language) (rest : List Char) :
    l.readQuoted? ('"' :: rest) = some ([], rest) ↔
      (l = .visualBasic → rest.head? ≠ some '"') := by
  cases l with
  | csharp => simp [readQuoted?, readEscaped?]
  | visualBasic =>
    cases rest with
    | nil => simp [readQuoted?, readDoubled?]
    | cons c rest =>
      by_cases hc : c = '"'
      · simp [readQuoted?, readDoubled?, hc]
      · simp [readQuoted?, readDoubled?, hc]

theorem readLiteral?_literal_append (l : Language) (value rest : String) :
    l.readLiteral? (l.literal value ++ rest) =
      (l.readQuoted? ('"' :: rest.toList)).map fun read =>
        (value ++ String.ofList read.1, String.ofList read.2) := by
  have hsource : (l.literal value ++ rest).toList =
      '"' :: (value.toList.flatMap l.literalChar ++ '"' :: rest.toList) := by
    simp [literal]
  rw [readLiteral?, hsource]
  simp only [readQuoted?_flatMap, Option.map_map]
  refine congrArg (Option.map · _) (funext fun read => ?_)
  simp [Prod.map]

/-- No control character is left in a literal with escapes. -/
theorem isControl_escapedChar (c : Char) : ∀ written ∈ escapedChar c, isControl written = false := by
  have hdigit (n : Nat) : isControl (Nat.digitChar (n % 16)) = false := by
    have hall : ∀ d < 16, isControl (Nat.digitChar d) = false := by decide
    exact hall _ (Nat.mod_lt n (by decide))
  have hmarks : ∀ mark ∈ ['\\', '"', 'n', 'r', 't', '0', 'u'], isControl mark = false := by
    simp [isControl]
  simp only [List.forall_mem_cons] at hmarks
  unfold escapedChar
  split_ifs with hquote hbackslash hfeed hreturn htab hnull hcontrol
  case neg => simpa using hcontrol
  all_goals simp [hexDigits4, hmarks, hdigit]

/-- Reading a literal gives the text for which it was written and stops where it was ended, whatever
    the text is; so nothing after the literal matters but, where quotes are doubled, a quote
    immediately after it. And where there are escapes, no control character is left as it is. -/
theorem readLiteral?_literal (value : String) :
    (∀ l : Language, l.readLiteral? (l.literal value) = some (value, "")) ∧
      (∀ (l : Language) (rest : String),
        l.readLiteral? (l.literal value ++ rest) = some (value, rest) ↔
          (l = .visualBasic → rest.toList.head? ≠ some '"')) ∧
      ∀ c ∈ (literal .csharp value).toList, 0x20 ≤ c.toNat ∧ (c.toNat < 0x7F ∨ 0x9F < c.toNat) := by
  have hread (l : Language) (rest : String) :
      l.readLiteral? (l.literal value ++ rest) = some (value, rest) ↔
        (l = .visualBasic → rest.toList.head? ≠ some '"') := by
    rw [readLiteral?_literal_append, ← readQuoted?_quote_iff]
    cases l.readQuoted? ('"' :: rest.toList) with
    | none => simp
    | some read => simp [Prod.ext_iff, ← String.toList_inj]
  refine ⟨fun l => ?_, hread, fun c hc => ?_⟩
  · simpa using (hread l "").mpr (by simp)
  · have hcontrol : isControl c = false := by
      simp only [literal, String.toList_ofList, List.mem_cons, List.mem_append, List.mem_flatMap,
        List.not_mem_nil, or_false] at hc
      rcases hc with rfl | ⟨source, -, hc⟩ | rfl
      · decide
      · exact isControl_escapedChar source c hc
      · decide
    simp only [isControl, Bool.or_eq_false_iff, Bool.and_eq_false_iff, decide_eq_false_iff_not]
      at hcontrol
    omega

/-- Marks that come together: a backslash before a quote, a null before a digit, a control before
    letters that are hexadecimal digits as well, and quotes at the end. -/
def marks : String := "\\\"\x007\x1Fab\"\""

theorem marks_readBack :
    literal .csharp marks = "\"\\\\\\\"\\07\\u001fab\\\"\\\"\"" ∧
      readLiteral? .csharp (literal .csharp marks) = some (marks, "") ∧
      readLiteral? .visualBasic (literal .visualBasic marks) = some (marks, "") ∧
      'u' ∈ (literal .csharp marks).toList ∧ 0x20 ≤ 'u'.toNat := by
  obtain ⟨hread, -, hcontrol⟩ := readLiteral?_literal marks
  have hmem : 'u' ∈ (literal .csharp marks).toList := by decide
  exact ⟨by decide, hread .csharp, hread .visualBasic, hmem, (hcontrol 'u' hmem).1⟩

end ControlPoint.Language
